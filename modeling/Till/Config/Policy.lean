import Till.Json.Compact
import Till.Json.Record
import Till.Refusal
import Till.Text.Blank
import Till.Text.Lowercase

/-!
# Change policies

A change policy says what becomes of a tender that is smaller than the total.  It
has one name in records, and some more names that a person may type in any case
and with blanks around them.
-/

namespace Till

/-- What becomes of a tender that is smaller than the total. -/
inductive ChangePolicy where
  /-- The change is reported as a negative amount. -/
  | report
  /-- The change is reported as nothing. -/
  | clampToZero
  /-- The tender is refused. -/
  | rejectInsufficient
  deriving DecidableEq, Repr, Inhabited

namespace ChangePolicy

/-- The name of a policy in records. -/
def name : ChangePolicy → String
  | report => "report"
  | clampToZero => "clamp_to_zero"
  | rejectInsufficient => "reject_insufficient"

/-- The policy of this name in records. -/
def ofName? : String → Option ChangePolicy
  | "report" => some report
  | "clamp_to_zero" => some clampToZero
  | "reject_insufficient" => some rejectInsufficient
  | _ => none

/-- The names that a person may type, in lower case. -/
def ofTyped? : String → Option ChangePolicy
  | "report" => some report
  | "unclamped" => some report
  | "clamp" => some clampToZero
  | "clamp_to_zero" => some clampToZero
  | "reject" => some rejectInsufficient
  | "reject_insufficient" => some rejectInsufficient
  | _ => none

/-- A typed text without the blanks around it and in lower case. -/
def normalize (typed : String) : String :=
  String.ofList (Lowercase.ofChars (Blank.trim typed.toList))

/-- The policy that a typed text names. -/
def ofText (typed : String) : Except Refusal ChangePolicy :=
  match ofTyped? (normalize typed) with
  | some policy => .ok policy
  | none => .error (.malformedInput (.unknownPolicy (normalize typed)))

/-- The policy that a value presents: its name, or the name as the one key of an
object whose value is null. -/
def ofValue? : Json.Value → Option ChangePolicy
  | .string (some name) => ofName? name
  | .object [(some name, .null)] => ofName? name
  | _ => none

/-- A policy as a value of a record. -/
def write (policy : ChangePolicy) : List Char :=
  Json.Compact.string policy.name

/-- The name of a policy is the name of no other. -/
@[simp]
theorem ofName?_name (policy : ChangePolicy) : ofName? policy.name = some policy := by
  cases policy <;> rfl

end ChangePolicy
end Till
