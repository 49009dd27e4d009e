import Till.Config.Basic

/-!
# Environments

An environment gives some variables a text.  Two of them set up an engine, each by
itself, and a text that is not understood counts as none; a third asks for a log.
-/

namespace Till

/-- The text of each variable that has one. -/
abbrev Environment := String → Option String

namespace Environment

/-- The variable that holds the change policy. -/
def policyName : String := "CASHSLOTH_CHANGE_POLICY"

/-- The variable that holds the ceiling on the quantity of a line. -/
def ceilingName : String := "CASHSLOTH_MAX_LINE_QUANTITY"

/-- The variable that holds the directives of a log. -/
def logName : String := "CASHSLOTH_LOG"

/-- The policy that a text asks for. -/
def policyOfText? (typed : String) : Option ChangePolicy :=
  (ChangePolicy.ofText typed).toOption

/-- The ceiling that a text asks for: a signed decimal integer from one on, with
blanks allowed around it. -/
def ceilingOfText? (typed : String) : Option Int64 :=
  ((Decimal.signed? (Blank.trim typed.toList)).bind Bounded.ofInt?).filter
    fun max => decide (1 ≤ max)

/-- The configuration that the environment asks for. -/
def config (environment : Environment) : Config where
  changePolicy := ((environment policyName).bind policyOfText?).getD .report
  maxLineQuantity := (environment ceilingName).bind ceilingOfText?

/-- The directives of the log, unless they are blank. -/
def logFilter? (environment : Environment) : Option String :=
  (environment logName).filter fun directives => !Blank.allBlank directives

end Environment
end Till
