/-!
# Bounded integers

Amounts, quantities and positions are 64-bit words.  Every rule about them is
stated in unbounded integers, and a result is brought back into a word only when
a word holds it.

Main results:

- Theorem {lit}`Bounded.ofInt?_eq_some_iff`: an integer comes back as the word
  that has it as its value, and as no other.
- Theorem {lit}`Bounded.ofInt?_eq_none_iff`: an integer is turned away exactly
  when it lies outside the range of the words.
-/

namespace Till
namespace Bounded

/-- The least value of a word. -/
def least : Int := -9223372036854775808

/-- The greatest value of a word. -/
def greatest : Int := 9223372036854775807

/-- The word whose value is `n`, or nothing when no word holds `n`. -/
def ofInt? (n : Int) : Option Int64 :=
  if least ≤ n ∧ n ≤ greatest then some (Int64.ofInt n) else none

/-- The value of a word lies in the range. -/
theorem toInt_mem_range (a : Int64) : least ≤ a.toInt ∧ a.toInt ≤ greatest := by
  have low := a.le_toInt
  have high := a.toInt_lt
  unfold least greatest
  omega

/-- A value in the range is the value of its word. -/
theorem toInt_ofInt {n : Int} (low : least ≤ n) (high : n ≤ greatest) :
    (Int64.ofInt n).toInt = n := by
  unfold least at low
  unfold greatest at high
  exact Int64.toInt_ofInt_of_le (by omega) (by omega)

/-- An integer comes back as the one word that has it as its value. -/
theorem ofInt?_eq_some_iff {n : Int} {a : Int64} :
    ofInt? n = some a ↔ a.toInt = n := by
  unfold ofInt?
  split
  · rename_i h
    rw [Option.some.injEq]
    constructor
    · rintro rfl
      exact toInt_ofInt h.1 h.2
    · rintro rfl
      exact Int64.ofInt_toInt a
  · rename_i h
    constructor
    · intro hn
      cases hn
    · rintro rfl
      exact absurd (toInt_mem_range a) h

/-- An integer is turned away exactly when it lies outside the range. -/
theorem ofInt?_eq_none_iff {n : Int} :
    ofInt? n = none ↔ n < least ∨ greatest < n := by
  unfold ofInt?
  split <;> simp <;> omega

/-- The value of a word comes back as the word. -/
@[simp]
theorem ofInt?_toInt (a : Int64) : ofInt? a.toInt = some a :=
  ofInt?_eq_some_iff.2 rfl

end Bounded
end Till
