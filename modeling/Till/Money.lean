import Till.Bounded
import Till.Fault

/-!
# Money

An amount of money is a whole number of cents, negative amounts included.  Each
operation takes the exact result in unbounded integers first; the checked forms
answer with nothing when that result does not fit, and the strict forms fault.

Main results:

- Theorems {lit}`Money.checkedAdd_eq_some_iff` and
  {lit}`Money.checkedTimes_eq_some_iff`: a checked operation answers with the
  amount that is the exact result.
- Theorems {lit}`Money.add_eq_ok_iff`, {lit}`Money.subtract_eq_ok_iff` and
  {lit}`Money.times_eq_ok_iff`: so does a strict one.
-/

namespace Till

/-- An amount of money in cents. -/
structure Money where
  cents : Int64
  deriving DecidableEq, Repr, Inhabited

namespace Money

/-- No money. -/
def zero : Money := ⟨0⟩

/-- Amounts compare as their cents do. -/
instance : Ord Money where
  compare a b := compare a.cents b.cents

/-- The exact number of cents. -/
def value (a : Money) : Int := a.cents.toInt

/-- The amount of `n` cents, or nothing when it does not fit. -/
def ofValue? (n : Int) : Option Money :=
  (Bounded.ofInt? n).map Money.mk

/-- The amount of `n` cents, or a fault of the operation that led to it. -/
def ofResult (operation : Operation) (n : Int) : Except Fault Money :=
  match ofValue? n with
  | some a => .ok a
  | none => .error (.overflow operation)

/-! ## Checked arithmetic -/

/-- The sum, or nothing when it does not fit. -/
def checkedAdd (a b : Money) : Option Money :=
  ofValue? (a.value + b.value)

/-- The price of `quantity` pieces, or nothing when it does not fit. -/
def checkedTimes (a : Money) (quantity : Int64) : Option Money :=
  ofValue? (a.value * quantity.toInt)

/-! ## Strict arithmetic -/

/-- The sum, or a fault. -/
def add (a b : Money) : Except Fault Money :=
  ofResult .add (a.value + b.value)

/-- The difference, or a fault. -/
def subtract (a b : Money) : Except Fault Money :=
  ofResult .subtract (a.value - b.value)

/-- The price of `quantity` pieces, or a fault. -/
def times (a : Money) (quantity : Int64) : Except Fault Money :=
  ofResult .multiply (a.value * quantity.toInt)

/-- Amounts added from the left, starting with none; the first sum that does not
fit is a fault, whatever comes after it. -/
def sum (amounts : List Money) : Except Fault Money :=
  amounts.foldlM add zero

/-- The amount, or none where it is negative. -/
def maxZero (a : Money) : Money :=
  if a.cents < 0 then zero else a

/-! ## Exact results -/

/-- Amounts are told apart by their values. -/
theorem value_inj {a b : Money} : a.value = b.value ↔ a = b := by
  cases a
  cases b
  simp [value, Int64.toInt_inj]

/-- An amount is the exact number of cents it was made from. -/
theorem ofValue?_eq_some_iff {n : Int} {a : Money} :
    ofValue? n = some a ↔ a.value = n := by
  cases a
  simp [ofValue?, value, Bounded.ofInt?_eq_some_iff]

/-- A result is the amount of exactly that value. -/
theorem ofResult_eq_ok_iff {operation : Operation} {n : Int} {a : Money} :
    ofResult operation n = .ok a ↔ a.value = n := by
  unfold ofResult
  rw [← ofValue?_eq_some_iff]
  cases ofValue? n <;> simp

/-- A checked sum is the exact sum. -/
theorem checkedAdd_eq_some_iff {a b c : Money} :
    checkedAdd a b = some c ↔ c.value = a.value + b.value :=
  ofValue?_eq_some_iff

/-- A checked price is the exact product. -/
theorem checkedTimes_eq_some_iff {a c : Money} {quantity : Int64} :
    checkedTimes a quantity = some c ↔ c.value = a.value * quantity.toInt :=
  ofValue?_eq_some_iff

/-- A strict sum is the exact sum. -/
theorem add_eq_ok_iff {a b c : Money} :
    add a b = .ok c ↔ c.value = a.value + b.value :=
  ofResult_eq_ok_iff

/-- A strict difference is the exact difference. -/
theorem subtract_eq_ok_iff {a b c : Money} :
    subtract a b = .ok c ↔ c.value = a.value - b.value :=
  ofResult_eq_ok_iff

/-- A strict price is the exact product. -/
theorem times_eq_ok_iff {a c : Money} {quantity : Int64} :
    times a quantity = .ok c ↔ c.value = a.value * quantity.toInt :=
  ofResult_eq_ok_iff

end Money
end Till
