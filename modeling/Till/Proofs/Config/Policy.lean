import Till.Config.Policy
import Till.Proofs.Text.LetterCase

/-!
# Typed names of policies

Between its blanks a typed text has to be one of six names, in letters of either ASCII case.  The
text is put into lower case by the rules of Unicode before it is compared, which for these names
comes to the same: they have no k, and so no character beyond ASCII becomes a part of one of them.

Main results:

- Theorem {lit}`ChangePolicy.ofText_eq_ok_iff`: a text is understood when its lower case is a name.
- Theorem {lit}`ChangePolicy.normalize_eq_iff`: the texts of which the lower case is a given name.
- Theorem {lit}`ChangePolicy.ofText_up_to_case`: the texts that are understood, and as which policy.
-/

namespace Till
namespace ChangePolicy

open Lowercase (SameLetters)

variable {typed name : String} {policy : ChangePolicy}

/-- The names that a person may type, each with its policy. -/
def typedNames : List (String × ChangePolicy) :=
  [("report", .report), ("unclamped", .report), ("clamp", .clampToZero),
   ("clamp_to_zero", .clampToZero), ("reject", .rejectInsufficient),
   ("reject_insufficient", .rejectInsufficient)]

/-- Between its blanks the text is a name of the policy, up to the case of ASCII letters. -/
def Names (typed : String) (policy : ChangePolicy) : Prop :=
  ∃ core name, Blank.Trims typed.toList core ∧ SameLetters core name.toList ∧
    (name, policy) ∈ typedNames

/-- The names are looked up in their table. -/
theorem ofTyped?_eq_some_iff : ofTyped? name = some policy ↔ (name, policy) ∈ typedNames := by
  constructor
  · intro h
    unfold ofTyped? at h
    split at h <;> cases h <;> decide
  · intro h
    simp only [typedNames, List.mem_cons, Prod.mk.injEq, List.not_mem_nil, or_false] at h
    rcases h with ⟨rfl, rfl⟩ | ⟨rfl, rfl⟩ | ⟨rfl, rfl⟩ | ⟨rfl, rfl⟩ | ⟨rfl, rfl⟩ | ⟨rfl, rfl⟩ <;> rfl

/-- A text is understood when it is a name once it is trimmed and in lower case. -/
theorem ofText_eq_ok_iff : ofText typed = .ok policy ↔ (normalize typed, policy) ∈ typedNames := by
  rw [← ofTyped?_eq_some_iff, ofText]
  cases ofTyped? (normalize typed) with
  | none => exact iff_of_false nofun nofun
  | some found => simp

/-- The names are made of ASCII characters other than k, in lower case. -/
theorem isPlainLower_of_mem_typedNames (h : (name, policy) ∈ typedNames) :
    name.toList.all Lowercase.isPlainLower = true := by
  have hall : ∀ entry ∈ typedNames, entry.1.toList.all Lowercase.isPlainLower = true := by
    decide +kernel
  exact hall _ h

theorem toList_normalize (typed : String) :
    (normalize typed).toList = Lowercase.ofChars (Blank.trim typed.toList) :=
  String.toList_ofList

/-- The lower case of a text is a name when the text has its letters between the blanks. -/
theorem normalize_eq_iff (h : (name, policy) ∈ typedNames) :
    normalize typed = name ↔ SameLetters (Blank.trim typed.toList) name.toList := by
  rw [← String.toList_inj, toList_normalize]
  exact Lowercase.ofChars_eq_iff (isPlainLower_of_mem_typedNames h)

/-- The texts that are understood are those that name a policy. -/
theorem ofText_eq_ok_iff_names : ofText typed = .ok policy ↔ Names typed policy := by
  rw [ofText_eq_ok_iff]
  constructor
  · intro h
    exact ⟨_, _, Blank.trims_trim typed.toList, (normalize_eq_iff h).1 rfl, h⟩
  · rintro ⟨core, name, htrims, hsame, hname⟩
    rw [← Blank.trim_eq_iff.2 htrims] at hsame
    rwa [(normalize_eq_iff hname).2 hsame]

/-- A text that is understood has ASCII characters only between its blanks. -/
theorem ascii_of_ofText (h : ofText typed = .ok policy) :
    ∀ c ∈ Blank.trim typed.toList, c.toNat < 128 := by
  have hname := isPlainLower_of_mem_typedNames (ofText_eq_ok_iff.1 h)
  rw [toList_normalize] at hname
  exact Lowercase.ascii_of_writeAfter (List.all_eq_true.1 hname)

/-- Texts that are the same in lower case between their blanks have the same answer. -/
theorem ofText_congr {other : String} (h : normalize typed = normalize other) :
    ofText typed = ofText other := by
  rw [ofText, ofText, h]

/-- A text is understood exactly when it is one of the six names between its blanks, letter for
letter up to the case of ASCII letters, and it is understood as the policy of this name.  So a text
with a character beyond ASCII between its blanks is never understood.  Neither the case of ASCII
letters nor the blanks around a text change the answer, be it a policy or a refusal. -/
theorem ofText_up_to_case :
    (∀ typed policy, ofText typed = .ok policy ↔ Names typed policy) ∧
    (∀ (typed : String) core c, Blank.Trims typed.toList core → c ∈ core → 128 ≤ c.toNat →
      ∀ policy, ofText typed ≠ .ok policy) ∧
    (∀ typed other : String, SameLetters typed.toList other.toList →
      ofText typed = ofText other) ∧
    ∀ before typed after : String, Blank.allBlank before = true → Blank.allBlank after = true →
      ofText (before ++ typed ++ after) = ofText typed := by
  refine ⟨fun typed policy => ofText_eq_ok_iff_names, ?_, ?_, ?_⟩
  · intro typed core c htrims hc hbeyond policy hread
    rw [← Blank.trim_eq_iff.2 htrims] at hc
    have hascii := ascii_of_ofText hread c hc
    omega
  · intro typed other hsame
    have hrow := (Blank.sameLetters_trim hsame).ofChars_eq
    exact ofText_congr (congrArg String.ofList hrow)
  · intro before typed after hbefore hafter
    have htrim : Blank.trim (before ++ typed ++ after).toList = Blank.trim typed.toList := by
      rw [String.toList_append, String.toList_append, List.append_assoc]
      exact Blank.trim_append (List.all_eq_true.1 hbefore) (List.all_eq_true.1 hafter) _
    apply ofText_congr
    rw [normalize, normalize, htrim]

/-- A name in mixed case is understood between a wide space and a line break.  A name with a dotted
capital I is not, although its lower case looks like the name. -/
theorem ofText_up_to_case_dotted_capital :
    let mixed := "\u2003" ++ "Clamp_To_ZERO" ++ "\n"
    let dotted := "REJECT_\u0130NSUFFICIENT "
    ofText mixed = .ok .clampToZero ∧
    (∀ policy, ofText dotted ≠ .ok policy) ∧
    normalize dotted = "reject_i\u0307nsufficient" ∧
    ofText "cLAMP_tO_zero" = ofText "Clamp_To_ZERO" ∧
    ofText mixed = ofText "Clamp_To_ZERO" := by
  intro mixed dotted
  refine ⟨?_, ?_, by decide +kernel, ?_, ?_⟩
  · refine (ofText_up_to_case.1 mixed .clampToZero).2 ⟨"Clamp_To_ZERO".toList, "clamp_to_zero", ?_⟩
    exact ⟨Blank.trim_eq_iff.1 (by decide +kernel), by decide +kernel, by decide⟩
  · have htrims : Blank.Trims dotted.toList "REJECT_\u0130NSUFFICIENT".toList :=
      Blank.trim_eq_iff.1 (by decide +kernel)
    exact ofText_up_to_case.2.1 dotted _ '\u0130' htrims (by decide +kernel) (by decide)
  · exact ofText_up_to_case.2.2.1 _ _ (by decide +kernel)
  · exact ofText_up_to_case.2.2.2 _ _ _ (by decide +kernel) (by decide +kernel)

end ChangePolicy
end Till
