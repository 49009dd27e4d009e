import Till.Proofs.Text.Blank
import Till.Text.Lowercase

/-!
# Rows up to the case of their ASCII letters

Two rows of characters have the same letters when they differ in nothing but the case of ASCII
letters.  Such rows are trimmed alike, and in lower case they are one row.  In general the converse
fails: the Kelvin sign becomes a plain k.  But it is the only character beyond ASCII that becomes
ASCII characters, and so a row that becomes ASCII characters other than k has had the same letters
from the start.

Main results:

- Theorem {lit}`Lowercase.ofChars_map_toLower`: the case of ASCII letters does not matter.
- Theorem {lit}`Lowercase.eq_kelvin_of_ofChar`: the character beyond ASCII that becomes an ASCII
  character.
- Theorem {lit}`Lowercase.ofChars_eq_iff`: the rows that become a given row.
-/

namespace Till

variable {cs ds : List Char} {c : Char}

/-! ## The case of ASCII letters -/

namespace Lowercase

/-- The rows are equal letter for letter up to the case of ASCII letters. -/
def SameLetters (cs ds : List Char) : Prop :=
  cs.map Char.toLower = ds.map Char.toLower

instance : Decidable (SameLetters cs ds) :=
  inferInstanceAs (Decidable (cs.map Char.toLower = ds.map Char.toLower))

/-- The codes of the ASCII letters. -/
theorem isAlpha_iff : c.isAlpha = true ↔
    (0x41 ≤ c.toNat ∧ c.toNat ≤ 0x5A) ∨ (0x61 ≤ c.toNat ∧ c.toNat ≤ 0x7A) := by
  change (decide ('A'.val ≤ c.val ∧ c.val ≤ 'Z'.val) ||
    (decide ('a'.val ≤ c.val) && decide (c.val ≤ 'z'.val))) = true ↔ _
  simp only [Bool.or_eq_true, Bool.and_eq_true, decide_eq_true_eq, UInt32.le_iff_toNat_le]
  rfl

/-- A character beyond ASCII has no case here. -/
theorem toLower_of_not_ascii (h : 128 ≤ c.toNat) : c.toLower = c := by
  have hnot : ¬(c.val ≥ 'A'.val ∧ c.val ≤ 'Z'.val) := by
    rintro ⟨_, hle⟩
    have hz : c.toNat ≤ 0x5A := UInt32.le_iff_toNat_le.1 hle
    omega
  exact dif_neg hnot

/-- Only ASCII letters have a case here, and in lower case they still are letters. -/
theorem toLower_eq_or_isAlpha (c : Char) :
    c.toLower = c ∨ c.isAlpha = true ∧ c.toLower.isAlpha = true := by
  rcases Nat.lt_or_ge c.toNat 128 with hlt | hge
  · exact of_ascii (P := fun c => c.toLower = c ∨ c.isAlpha = true ∧ c.toLower.isAlpha = true)
      (by decide) hlt
  · exact .inl (toLower_of_not_ascii hge)

/-- What is the same for all ASCII letters does not depend on their case. -/
theorem apply_toLower {α : Type} {f : Char → α} {a : α}
    (h : ∀ c : Char, c.isAlpha = true → f c = a) (c : Char) : f c.toLower = f c := by
  rcases toLower_eq_or_isAlpha c with hc | ⟨hc, hlower⟩
  · rw [hc]
  · rw [h _ hc, h _ hlower]

/-- A row loses the same characters in front, whatever the case of its letters. -/
theorem dropWhile_map_toLower {p : Char → Bool} (h : ∀ c : Char, p c.toLower = p c)
    (cs : List Char) : (cs.map Char.toLower).dropWhile p = (cs.dropWhile p).map Char.toLower := by
  rw [List.dropWhile_map, show p ∘ Char.toLower = p from funext h]

end Lowercase

open Lowercase (SameLetters)

/-! ## Blanks and parts of words -/

namespace CaseTable

/-- Ranges that lie apart from the ASCII letters hold none of them. -/
theorem inRanges_of_isAlpha (ranges : List (Nat × Nat))
    (h : ∀ range ∈ ranges, range.2 < 0x41 ∨ (0x5A < range.1 ∧ range.2 < 0x61) ∨ 0x7A < range.1)
    (c : Char) (hc : c.isAlpha = true) : inRanges ranges c.toNat = false := by
  rw [inRanges, List.any_eq_false]
  intro range hrange hmem
  rw [Bool.and_eq_true, decide_eq_true_eq, decide_eq_true_eq] at hmem
  have hcode := Lowercase.isAlpha_iff.1 hc
  have hapart := h range hrange
  omega

/-- Whether a character is ignored does not depend on its case. -/
theorem isIgnorable_toLower (c : Char) : isIgnorable c.toLower = isIgnorable c :=
  Lowercase.apply_toLower (inRanges_of_isAlpha ignorableRanges (by decide +kernel)) c

/-- Every ASCII letter is a letter of either case. -/
theorem isCased_of_isAlpha (c : Char) (hc : c.isAlpha = true) : isCased c = true := by
  rw [isCased, inRanges, List.any_eq_true]
  rcases Lowercase.isAlpha_iff.1 hc with hupper | hlower
  · exact ⟨(0x41, 0x5A), by decide +kernel, by simp [hupper]⟩
  · exact ⟨(0x61, 0x7A), by decide +kernel, by simp [hlower]⟩

/-- Whether a character is a letter of either case does not depend on the case. -/
theorem isCased_toLower (c : Char) : isCased c.toLower = isCased c :=
  Lowercase.apply_toLower isCased_of_isAlpha c

end CaseTable

namespace Blank

/-- Whether a character is blank does not depend on its case. -/
theorem isBlank_toLower (c : Char) : isBlank c.toLower = isBlank c :=
  Lowercase.apply_toLower (CaseTable.inRanges_of_isAlpha ranges (by decide)) c

/-- A row is trimmed alike, whatever the case of its letters. -/
theorem trim_map_toLower (cs : List Char) :
    trim (cs.map Char.toLower) = (trim cs).map Char.toLower := by
  simp only [trim, trimLeft, trimRight, ← List.map_reverse,
    Lowercase.dropWhile_map_toLower isBlank_toLower]

/-- Rows with the same letters have the same letters between their blanks. -/
theorem sameLetters_trim (h : SameLetters cs ds) : SameLetters (trim cs) (trim ds) := by
  rw [SameLetters, ← trim_map_toLower, h, trim_map_toLower]

end Blank

/-! ## Rows in lower case -/

namespace Lowercase

/-- Whether a character is a capital sigma does not depend on the case of ASCII letters. -/
theorem toLower_eq_sigma_iff : c.toLower = 'Σ' ↔ c = 'Σ' := by
  have hnot : ∀ l : Char, l.isAlpha = true → (l = 'Σ') = False := by
    intro l hl
    refine eq_false ?_
    rintro rfl
    exact absurd hl (by decide)
  exact Iff.of_eq (apply_toLower hnot c)

/-- A character has the lower case of its letter, whatever the case of this letter. -/
theorem ofChar_toLower (c : Char) : ofChar c.toLower = ofChar c := by
  rcases toLower_eq_or_isAlpha c with hc | ⟨hc, hlower⟩
  · rw [hc]
  · have hcode := isAlpha_iff.1 hc
    have hlowerCode := isAlpha_iff.1 hlower
    have hfixed : c.toLower.toLower = c.toLower :=
      of_ascii (P := fun c => c.toLower.toLower = c.toLower) (by decide) (by omega)
    rw [ofChar_ascii (by omega), ofChar_ascii (by omega), hfixed]

/-- Whether a letter is met does not depend on the case of ASCII letters. -/
theorem meetsLetter_map_toLower (cs : List Char) :
    meetsLetter (cs.map Char.toLower) = meetsLetter cs := by
  rw [meetsLetter, dropWhile_map_toLower CaseTable.isIgnorable_toLower, meetsLetter]
  cases cs.dropWhile CaseTable.isIgnorable with
  | nil => rfl
  | cons c rest => exact CaseTable.isCased_toLower c

/-- What is written does not depend on the case of ASCII letters. -/
theorem writeAfter_map_toLower (done before cs : List Char) :
    writeAfter done (before.map Char.toLower) (cs.map Char.toLower) =
      writeAfter done before cs := by
  induction cs generalizing done before with
  | nil => rfl
  | cons c after ih =>
    have hrest (done : List Char) : writeAfter done (c.toLower :: before.map Char.toLower)
        (after.map Char.toLower) = writeAfter done (c :: before) after := ih done (c :: before)
    simp only [List.map_cons, writeAfter, toLower_eq_sigma_iff, ofChar_toLower, sigma,
      meetsLetter_map_toLower, hrest]

/-- The case of ASCII letters does not matter in lower case. -/
theorem ofChars_map_toLower (cs : List Char) : ofChars (cs.map Char.toLower) = ofChars cs :=
  writeAfter_map_toLower [] [] cs

/-- Rows with the same letters are one row in lower case. -/
theorem SameLetters.ofChars_eq (h : SameLetters cs ds) : ofChars cs = ofChars ds := by
  rw [← ofChars_map_toLower, h, ofChars_map_toLower]

/-- A row of ASCII characters becomes what the ASCII rule says. -/
theorem writeAfter_of_ascii (done before : List Char) (h : ∀ c ∈ cs, c.toNat < 128) :
    writeAfter done before cs = done.reverse ++ cs.map Char.toLower := by
  induction cs generalizing done before with
  | nil => rw [writeAfter, List.map_nil, List.append_nil]
  | cons c after ih =>
    rcases List.forall_mem_cons.1 h with ⟨hc, hafter⟩
    have hsigma : c ≠ 'Σ' := by
      rintro rfl
      exact absurd hc (by decide)
    rw [writeAfter, if_neg hsigma, ih _ _ hafter, ofChar_ascii hc]
    simp

end Lowercase

/-! ## Characters that become ASCII characters -/

namespace CaseTable

/-- In the table only ASCII letters and the Kelvin sign have a lower case within ASCII. -/
theorem lowerRuns_beyond_ascii : ∀ run ∈ lowerRuns,
    run.last < 128 ∨ (run.first = 0x212A ∧ run.last = 0x212A) ∨
      128 ≤ run.target ∧ (run.target + (run.last - run.first) < 0xD800 ∨
        0xDFFF < run.target ∧ run.target + (run.last - run.first) < 0x110000) := by
  decide +kernel

/-- A letter beyond ASCII other than the Kelvin sign has a lower case beyond ASCII. -/
theorem ascii_or_kelvin_of_lower? {n m : Nat} (h : lower? n = some m)
    (hascii : (Char.ofNat m).toNat < 128) : n < 128 ∨ n = 0x212A := by
  rcases List.exists_of_findSome?_eq_some h with ⟨run, hrun, hlower⟩
  unfold Run.lower? at hlower
  split at hlower
  · rename_i hmem
    rcases hmem with ⟨hfirst, hlast, _⟩
    cases hlower
    rcases lowerRuns_beyond_ascii run hrun with hlow | ⟨hleft, hright⟩ | ⟨htarget, hvalid⟩
    · left
      omega
    · right
      omega
    · -- A number that is no code would give the zero character, which is ASCII.
      have hchar : (run.target + (n - run.first)).isValidChar := by
        unfold Nat.isValidChar
        omega
      rw [Char.ofNat, dif_pos hchar] at hascii
      change run.target + (n - run.first) < 128 at hascii
      omega
  · cases hlower

end CaseTable

namespace Lowercase

/-- The Kelvin sign is the only character beyond ASCII that becomes ASCII characters. -/
theorem eq_kelvin_of_ofChar (h : ∀ l ∈ ofChar c, l.toNat < 128) :
    c.toNat < 128 ∨ c = '\u212A' := by
  unfold ofChar at h
  split at h
  · exact absurd (h '\u0307' (by simp)) (by decide)
  · split at h
    · rename_i hlower
      rcases CaseTable.ascii_or_kelvin_of_lower? hlower (h _ List.mem_cons_self) with hc | hc
      · exact .inl hc
      · exact .inr (Char.toNat_inj.1 hc)
    · exact .inl (h c List.mem_cons_self)

/-- An ASCII character in lower case that no character beyond ASCII becomes. -/
def isPlainLower (l : Char) : Bool :=
  l.toNat < 128 && l != 'k' && l.toLower == l

theorem isPlainLower_iff {l : Char} :
    isPlainLower l = true ↔ l.toNat < 128 ∧ l ≠ 'k' ∧ l.toLower = l := by
  simp [isPlainLower, and_assoc]

/-- Only ASCII characters become ASCII characters other than k. -/
theorem ascii_of_ofChar (h : ∀ l ∈ ofChar c, isPlainLower l = true) : c.toNat < 128 := by
  rcases eq_kelvin_of_ofChar fun l hl => (isPlainLower_iff.1 (h l hl)).1 with hc | rfl
  · exact hc
  · have hkelvin : ofChar '\u212A' = ['k'] := by decide +kernel
    exact absurd rfl (isPlainLower_iff.1 (h 'k' (by simp [hkelvin]))).2.1

/-- A sigma is no ASCII character in either form. -/
theorem sigma_not_ascii (before after : List Char) : ¬(sigma before after).toNat < 128 := by
  unfold sigma
  split <;> decide

/-- What is done stays. -/
theorem subset_writeAfter (done before cs : List Char) : done ⊆ writeAfter done before cs := by
  induction cs generalizing done before with
  | nil => exact (List.reverse_perm done).symm.subset
  | cons c after ih =>
    rw [writeAfter]
    split
    · exact List.Subset.trans (List.subset_cons_self _ _) (ih _ _)
    · exact List.Subset.trans (List.subset_append_right _ _) (ih _ _)

/-- A row that becomes ASCII characters other than k has ASCII characters only. -/
theorem ascii_of_writeAfter {done before : List Char}
    (h : ∀ l ∈ writeAfter done before cs, isPlainLower l = true) : ∀ c ∈ cs, c.toNat < 128 := by
  induction cs generalizing done before with
  | nil => exact List.forall_mem_nil _
  | cons c after ih =>
    rw [writeAfter] at h
    split at h
    · have hsigma := h _ (subset_writeAfter _ _ _ List.mem_cons_self)
      exact absurd (isPlainLower_iff.1 hsigma).1 (sigma_not_ascii before after)
    · have hc : c.toNat < 128 := ascii_of_ofChar fun l hl =>
        h l (subset_writeAfter _ _ _ (List.mem_append_left _ (List.mem_reverse.2 hl)))
      exact List.forall_mem_cons.2 ⟨hc, ih h⟩

/-- The rows that become a given row of ASCII characters other than k are those with the same
letters. -/
theorem ofChars_eq_iff {name : List Char} (hname : name.all isPlainLower = true) :
    ofChars cs = name ↔ SameLetters cs name := by
  have hplain := List.all_eq_true.1 hname
  have hlower : name.map Char.toLower = name :=
    (List.map_congr_left fun l hl => (isPlainLower_iff.1 (hplain l hl)).2.2).trans
      (List.map_id name)
  constructor
  · rintro rfl
    have hascii : ∀ c ∈ cs, c.toNat < 128 := ascii_of_writeAfter hplain
    have hrow : ofChars cs = cs.map Char.toLower := writeAfter_of_ascii [] [] hascii
    rw [SameLetters, hlower, hrow]
  · intro h
    calc ofChars cs = ofChars name := h.ofChars_eq
      _ = name.map Char.toLower :=
        writeAfter_of_ascii [] [] fun l hl => (isPlainLower_iff.1 (hplain l hl)).1
      _ = name := hlower

end Lowercase
end Till
