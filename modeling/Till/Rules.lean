import Till.Refusal

/-!
# Rules on fields

Each rule looks at one field and either holds or names how it is broken.

Main results:

- Theorem {lit}`Rules.quantity_eq_ok_iff`: a quantity is allowed from one up to the
  ceiling, if there is one.
- Theorems {lit}`Rules.unitPrice_eq_ok_iff` and {lit}`Rules.tendered_eq_ok_iff`:
  prices and tendered amounts are allowed from zero on.
-/

namespace Till
namespace Rules

/-- The id of an item is not empty. -/
def itemId (id : String) : Except Violation Unit :=
  if id.isEmpty then .error (.required "id") else .ok ()

/-- The name of an item is not empty. -/
def itemName (name : String) : Except Violation Unit :=
  if name.isEmpty then .error (.required "name") else .ok ()

/-- The price of an item is not negative; a free item is allowed. -/
def unitPrice (cents : Int64) : Except Violation Unit :=
  if cents < 0 then .error (.mustBeNonNegative "unit_cents") else .ok ()

/-- A quantity is positive and within the ceiling, if there is one. -/
def quantity (amount : Int64) (ceiling : Option Int64) : Except Violation Unit :=
  if amount ≤ 0 then .error (.mustBePositive "qty")
  else
    match ceiling with
    | none => .ok ()
    | some max =>
      if max < amount then .error (.outOfRange "qty" 1 max) else .ok ()

/-- A tendered amount is not negative. -/
def tendered (cents : Int64) : Except Violation Unit :=
  if cents < 0 then .error (.mustBeNonNegative "given_cents") else .ok ()

/-- A price is allowed from zero on. -/
theorem unitPrice_eq_ok_iff {cents : Int64} :
    unitPrice cents = .ok () ↔ 0 ≤ cents.toInt := by
  unfold unitPrice
  simp only [Int64.lt_iff_toInt_lt, Int64.toInt_zero]
  split <;> simp <;> omega

/-- A tendered amount is allowed from zero on. -/
theorem tendered_eq_ok_iff {cents : Int64} :
    tendered cents = .ok () ↔ 0 ≤ cents.toInt := by
  unfold tendered
  simp only [Int64.lt_iff_toInt_lt, Int64.toInt_zero]
  split <;> simp <;> omega

/-- A quantity is allowed from one up to the ceiling, if there is one. -/
theorem quantity_eq_ok_iff {amount : Int64} {ceiling : Option Int64} :
    quantity amount ceiling = .ok () ↔
      1 ≤ amount.toInt ∧ ∀ max ∈ ceiling, amount.toInt ≤ max.toInt := by
  unfold quantity
  simp only [Int64.le_iff_toInt_le, Int64.toInt_zero]
  cases ceiling with
  | none => split <;> simp <;> omega
  | some max =>
    simp only [Int64.lt_iff_toInt_lt, Option.mem_def, Option.some.injEq, forall_eq']
    split
    · simp
      omega
    · split <;> simp <;> omega

end Rules
end Till
