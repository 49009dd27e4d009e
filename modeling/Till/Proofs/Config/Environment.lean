import Till.Config.Environment
import Till.Proofs.Json.Numerals
import Till.Proofs.Text.Blank

/-!
# Configurations from an environment

Two variables set up an engine.  Each is read by itself, and a text that is not understood counts
as none.  A ceiling is understood when there is nothing but an integer from one on between the
blanks, written with an optional sign and any number of zeros in front.  So a configuration from
an environment always keeps the rules.  A third variable asks for a log, and for nothing else.

Main results:

- Theorem {lit}`Decimal.signed?_eq_some_iff`: the rows of characters that denote an integer.
- Theorem {lit}`Environment.exists_ceilingOfText?_iff`: the texts that ask for a ceiling.
- Theorem {lit}`Environment.check_config`: a configuration from an environment keeps the rules.
- Theorem {lit}`Environment.config_unset`: a variable that is not understood counts as none.
- Theorem {lit}`Environment.logFilter?_eq_some_iff`: the directives of a log.
-/

namespace Till

namespace Decimal

open Json.Number (IsDigits)

variable {cs : List Char}

/-- An optional sign and one or more digits denote an integer. -/
inductive Denotes : List Char → Int → Prop where
  | unsigned {digits : List Char} (h : IsDigits digits) : Denotes digits (ofDigits digits)
  | plus {digits : List Char} (h : IsDigits digits) : Denotes ('+' :: digits) (ofDigits digits)
  | minus {digits : List Char} (h : IsDigits digits) : Denotes ('-' :: digits) (-ofDigits digits)

/-- The rows of characters that are read as a number are those of one or more digits. -/
theorem unsigned?_eq_some_iff {n : Nat} :
    unsigned? cs = some n ↔ IsDigits cs ∧ ofDigits cs = n := by
  unfold unsigned?
  split
  · rename_i h
    have hdigits : IsDigits cs := ⟨h.1, List.all_eq_true.1 h.2⟩
    simp [hdigits]
  · rename_i h
    refine iff_of_false nofun ?_
    rintro ⟨hdigits, _⟩
    exact h ⟨hdigits.ne_nil, List.all_eq_true.2 hdigits.isDigit⟩

/-- The rows of characters that are read as an integer are those that denote it. -/
theorem signed?_eq_some_iff {n : Int} : signed? cs = some n ↔ Denotes cs n := by
  constructor
  · intro h
    unfold signed? at h
    split at h
    all_goals
      rcases Option.map_eq_some_iff.1 h with ⟨m, hm, rfl⟩
      rcases unsigned?_eq_some_iff.1 hm with ⟨hdigits, rfl⟩
    · exact .plus hdigits
    · exact .minus hdigits
    · exact .unsigned hdigits
  · intro h
    cases h with
    | plus hdigits => rw [signed?, unsigned?_eq_some_iff.2 ⟨hdigits, rfl⟩, Option.map_some]
    | minus hdigits => rw [signed?, unsigned?_eq_some_iff.2 ⟨hdigits, rfl⟩, Option.map_some]
    | unsigned hdigits =>
      unfold signed?
      split
      · exact absurd (hdigits.isDigit '+' List.mem_cons_self) (by decide)
      · exact absurd (hdigits.isDigit '-' List.mem_cons_self) (by decide)
      · rw [unsigned?_eq_some_iff.2 ⟨hdigits, rfl⟩, Option.map_some]

end Decimal

namespace Environment

variable {environment : Environment} {typed : String}

/-- A text asks for the policy as which it is understood. -/
theorem policyOfText?_eq_some_iff {policy : ChangePolicy} :
    policyOfText? typed = some policy ↔ ChangePolicy.ofText typed = .ok policy := by
  rw [policyOfText?]
  cases ChangePolicy.ofText typed <;> simp [Except.toOption]

/-- A text that is not understood asks for no policy. -/
theorem policyOfText?_eq_none_iff :
    policyOfText? typed = none ↔ ∀ policy, ChangePolicy.ofText typed ≠ .ok policy := by
  simp only [Option.eq_none_iff_forall_ne_some, ne_eq, policyOfText?_eq_some_iff]

/-- Between the blanks the text is an integer from one to the greatest word. -/
def AsksFor (typed : String) (n : Int) : Prop :=
  (∃ core, Blank.Trims typed.toList core ∧ Decimal.Denotes core n) ∧
    1 ≤ n ∧ n ≤ Bounded.greatest

/-- A text asks for the ceiling that it denotes. -/
theorem ceilingOfText?_eq_some_iff {max : Int64} :
    ceilingOfText? typed = some max ↔ AsksFor typed max.toInt := by
  have hcore : (∃ core, Blank.Trims typed.toList core ∧ Decimal.Denotes core max.toInt) ↔
      Decimal.signed? (Blank.trim typed.toList) = some max.toInt := by
    simp only [← Blank.trim_eq_iff, exists_eq_left', Decimal.signed?_eq_some_iff]
  have hword : (Decimal.signed? (Blank.trim typed.toList)).bind Bounded.ofInt? = some max ↔
      Decimal.signed? (Blank.trim typed.toList) = some max.toInt := by
    simp [Option.bind_eq_some_iff, Bounded.ofInt?_eq_some_iff]
  have hone : decide (1 ≤ max) = true ↔ 1 ≤ max.toInt := by
    rw [decide_eq_true_eq, Int64.le_iff_toInt_le]
    exact Iff.rfl
  rw [ceilingOfText?, Option.filter_eq_some_iff, hword, hone, AsksFor, hcore]
  have hrange := (Bounded.toInt_mem_range max).2
  constructor
  · rintro ⟨hread, hle⟩
    exact ⟨hread, hle, hrange⟩
  · rintro ⟨hread, hle, _⟩
    exact ⟨hread, hle⟩

/-- The integers that a text asks for as a ceiling. -/
theorem exists_ceilingOfText?_iff {n : Int} :
    (∃ max, ceilingOfText? typed = some max ∧ max.toInt = n) ↔ AsksFor typed n := by
  constructor
  · rintro ⟨max, hmax, rfl⟩
    exact ceilingOfText?_eq_some_iff.1 hmax
  · intro h
    have hleast : Bounded.least ≤ 1 := by decide
    have hvalue := Bounded.toInt_ofInt (Int.le_trans hleast h.2.1) h.2.2
    rw [← hvalue] at h
    exact ⟨_, ceilingOfText?_eq_some_iff.2 h, hvalue⟩

/-- A text that asks for no ceiling counts as none. -/
theorem ceilingOfText?_eq_none_iff : ceilingOfText? typed = none ↔ ∀ n, ¬AsksFor typed n := by
  rw [Option.eq_none_iff_forall_ne_some]
  constructor
  · intro h n hn
    rcases exists_ceilingOfText?_iff.2 hn with ⟨max, hmax, _⟩
    exact h max hmax
  · intro h max hmax
    exact h _ (ceilingOfText?_eq_some_iff.1 hmax)

/-- A configuration from an environment keeps the rules. -/
theorem check_config (environment : Environment) : environment.config.check = .ok () := by
  unfold Config.check
  cases hmax : environment.config.maxLineQuantity with
  | none => rfl
  | some max =>
    rcases Option.bind_eq_some_iff.1 hmax with ⟨typed, _, hread⟩
    have hone := (ceilingOfText?_eq_some_iff.1 hread).2.1
    have hnot : ¬max < 1 := by
      rw [Int64.lt_iff_toInt_lt]
      exact Int.not_lt.2 hone
    simp only [if_neg hnot]

/-! ## One variable at a time -/

/-- The environment without a variable. -/
def unset (environment : Environment) (name : String) : Environment :=
  fun other => if other = name then none else environment other

/-- A variable that is not understood where it is read counts as none there. -/
theorem bind_unset {α : Type} {name other : String} {read : String → Option α}
    (h : other = name → ∀ typed, environment name = some typed → read typed = none) :
    (environment.unset name other).bind read = (environment other).bind read := by
  by_cases heq : other = name
  · rw [unset, if_pos heq, heq]
    cases htyped : environment name with
    | none => rfl
    | some typed => exact (h heq typed htyped).symm
  · rw [unset, if_neg heq]

/-- A variable that is not understood gives the configuration of the environment without it. -/
theorem config_unset {name : String}
    (hpolicy : policyName = name → ∀ typed, environment name = some typed →
      policyOfText? typed = none)
    (hceiling : ceilingName = name → ∀ typed, environment name = some typed →
      ceilingOfText? typed = none) :
    (environment.unset name).config = environment.config := by
  rw [config, config, bind_unset hpolicy, bind_unset hceiling]

/-! ## Logs -/

/-- The directives of a log are the text of its variable, unless nothing of it is left when it is
trimmed. -/
theorem logFilter?_eq_some_iff {directives : String} :
    environment.logFilter? = some directives ↔
      environment logName = some directives ∧ Blank.trim directives.toList ≠ [] := by
  rw [logFilter?, Option.filter_eq_some_iff, ne_eq, Blank.trim_eq_nil_iff, Bool.not_eq_true,
    Bool.not_eq_true']

/-- Whether a log is asked for does not matter for the configuration. -/
theorem config_unset_logName : (environment.unset logName).config = environment.config :=
  config_unset (fun heq => absurd heq (by decide)) fun heq => absurd heq (by decide)

end Environment
end Till
