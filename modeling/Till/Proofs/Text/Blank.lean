import Mathlib.Data.List.DropRight
import Till.Text.Blank

/-!
# Rows without the blanks around them

A row of characters has one part without blanks at its ends that has nothing but blanks around it.
This part is what is left of the row when it is trimmed, whatever blanks are around it.

Main results:

- Theorem {lit}`Blank.trim_eq_iff`: what is left of a row when it is trimmed.
- Theorem {lit}`Blank.trim_eq_nil_iff`: the texts of which nothing is left.
- Theorem {lit}`Blank.trim_append`: blanks around a row do not matter.
-/

namespace Till
namespace Blank

variable {cs core : List Char}

/-- The core has no blank at its ends, and the row has nothing but blanks around it. -/
inductive Trims : List Char → List Char → Prop where
  | mk {before core after : List Char} (hbefore : ∀ c ∈ before, isBlank c = true)
      (hafter : ∀ c ∈ after, isBlank c = true) (hhead : ∀ c ∈ core.head?, isBlank c = false)
      (hlast : ∀ c ∈ core.getLast?, isBlank c = false) : Trims (before ++ (core ++ after)) core

/-- No blank is left in front. -/
theorem dropWhile_of_head? (h : ∀ c ∈ cs.head?, isBlank c = false) : cs.dropWhile isBlank = cs := by
  cases cs with
  | nil => rfl
  | cons c cs => rw [List.dropWhile_cons_of_neg (by simp [h c rfl])]

/-- The first character that is left is no blank. -/
theorem isBlank_of_head?_dropWhile (cs : List Char) :
    ∀ c ∈ (cs.dropWhile isBlank).head?, isBlank c = false := by
  intro c hc
  have hnone := List.head?_dropWhile_not isBlank cs
  rw [Option.mem_def.1 hc] at hnone
  exact hnone

/-- Blanks in front of a row do not matter. -/
theorem dropWhile_append {before : List Char} (h : ∀ c ∈ before, isBlank c = true)
    (cs : List Char) : (before ++ cs).dropWhile isBlank = cs.dropWhile isBlank :=
  List.dropWhile_append_of_pos h

/-- Blanks behind a row do not matter. -/
theorem trimRight_append {after : List Char} (h : ∀ c ∈ after, isBlank c = true)
    (cs : List Char) : trimRight (cs ++ after) = trimRight cs := by
  rw [trimRight, List.reverse_append, dropWhile_append fun c hc => h c (List.mem_reverse.1 hc)]
  rfl

/-- A row without a blank at its end is left as it is. -/
theorem trimRight_of_getLast? (h : ∀ c ∈ cs.getLast?, isBlank c = false) : trimRight cs = cs := by
  rw [trimRight, dropWhile_of_head?, List.reverse_reverse]
  rwa [List.head?_reverse]

/-- A row is what is left of it when it is trimmed, with blanks around it. -/
theorem trims_trim (cs : List Char) : Trims cs (trim cs) := by
  have hright : trim cs = (trimLeft cs).rdropWhile isBlank := rfl
  have hrow : cs = cs.takeWhile isBlank ++
      (trim cs ++ (trimLeft cs).rtakeWhile isBlank) := by
    rw [hright, List.rdropWhile_append_rtakeWhile, trimLeft, List.takeWhile_append_dropWhile]
  have hhead : ∀ c ∈ (trim cs).head?, isBlank c = false := by
    intro c hc
    apply isBlank_of_head?_dropWhile cs
    have hprefix : trim cs <+: trimLeft cs := List.rdropWhile_prefix isBlank (trimLeft cs)
    rcases hprefix with ⟨rest, hrest⟩
    change c ∈ (trimLeft cs).head?
    rw [← hrest, List.head?_append, Option.mem_def.1 hc]
    rfl
  have hlast : ∀ c ∈ (trim cs).getLast?, isBlank c = false := by
    intro c hc
    rw [trim, trimRight, List.getLast?_reverse] at hc
    exact isBlank_of_head?_dropWhile _ c hc
  have hbefore : ∀ c ∈ cs.takeWhile isBlank, isBlank c = true :=
    List.all_eq_true.1 List.all_takeWhile
  have hafter : ∀ c ∈ (trimLeft cs).rtakeWhile isBlank, isBlank c = true :=
    fun c hc => List.mem_rtakeWhile_imp hc
  have htrims := Trims.mk hbefore hafter hhead hlast
  rwa [← hrow] at htrims

/-- What is left of a row when it is trimmed is the core of it. -/
theorem trim_eq_iff : trim cs = core ↔ Trims cs core := by
  constructor
  · rintro rfl
    exact trims_trim cs
  · rintro ⟨hbefore, hafter, hhead, hlast⟩
    rw [trim, trimLeft, dropWhile_append hbefore]
    cases core with
    | nil =>
      rw [List.nil_append, List.dropWhile_eq_nil_iff.2 hafter]
      rfl
    | cons c core =>
      rw [dropWhile_of_head?, trimRight_append hafter, trimRight_of_getLast? hlast]
      exact hhead

/-- Nothing is left of a text exactly when it is blank. -/
theorem trim_eq_nil_iff {text : String} : trim text.toList = [] ↔ allBlank text = true := by
  rw [trim_eq_iff, allBlank, List.all_eq_true]
  constructor
  · intro htrims
    generalize text.toList = cs at htrims
    rcases htrims with ⟨hbefore, hafter, _, _⟩
    intro c hc
    rcases List.mem_append.1 hc with hc | hc
    · exact hbefore c hc
    · exact hafter c hc
  · intro hblank
    have htrims : Trims (text.toList ++ ([] ++ [])) [] :=
      .mk hblank (by simp) (by simp) (by simp)
    simpa using htrims

/-- Blanks around a row do not matter. -/
theorem trim_append {before after : List Char} (hbefore : ∀ c ∈ before, isBlank c = true)
    (hafter : ∀ c ∈ after, isBlank c = true) (cs : List Char) :
    trim (before ++ (cs ++ after)) = trim cs := by
  have htrims := trims_trim cs
  generalize trim cs = core at htrims ⊢
  rcases htrims with ⟨hfirst, hsecond, hhead, hlast⟩
  have hwhole := Trims.mk
    (fun c hc => (List.mem_append.1 hc).elim (hbefore c) (hfirst c))
    (fun c hc => (List.mem_append.1 hc).elim (hsecond c) (hafter c)) hhead hlast
  simpa using trim_eq_iff.2 hwhole

end Blank
end Till
