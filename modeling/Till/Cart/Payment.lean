import Till.Cart.Basic
import Till.Config.Policy

/-!
# Payments

A payment compares what was tendered for a cart with its total.  The change policy
decides whether a tender may be too small and how the change is reported then.
-/

namespace Till

/-- The figures of a payment. -/
structure Payment where
  total : Money
  given : Money
  change : Money
  deriving DecidableEq, Repr, Inhabited

namespace ChangePolicy

/-- The change that is reported for a difference of tender and total. -/
def adjust : ChangePolicy → Money → Money
  | clampToZero, difference => difference.maxZero
  | report, difference => difference
  | rejectInsufficient, difference => difference

end ChangePolicy

namespace Cart

/-- The figures of the payment for a cart. -/
def payment (cart : Cart) (policy : ChangePolicy) : Except Fault Payment := do
  let total ← cart.total
  let difference ← cart.tendered.subtract total
  return ⟨total, cart.tendered, policy.adjust difference⟩

/-- A cart with another tendered amount.  It is not negative, and where the policy
says so not less than the total either. -/
def setTendered (cart : Cart) (cents : Int64) (policy : ChangePolicy) : Outcome Cart :=
  match Rules.tendered cents with
  | .error rule => .refuse (.invalidAmount rule)
  | .ok () =>
    match policy with
    | .rejectInsufficient => do
      let total ← Outcome.ofFaulting cart.total
      if cents < total.cents then
        .refuse (.invalidAmount (.belowMinimum "given_cents" total.cents))
      else return { cart with tendered := ⟨cents⟩ }
    | .report => .ok { cart with tendered := ⟨cents⟩ }
    | .clampToZero => .ok { cart with tendered := ⟨cents⟩ }

end Cart
end Till
