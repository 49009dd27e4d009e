import Till.Text.Decimal

/-!
# Faults

A fault is a computation that has no answer: an amount left the range of its
words, or a position named nothing.  It is kept apart from a refusal, which is an
answer to a request that may not be carried out.
-/

namespace Till

/-- The arithmetic operations that can leave the range of a word. -/
inductive Operation where
  | add
  | subtract
  | multiply
  deriving DecidableEq, Repr

namespace Operation

/-- The verb that names an operation in a message. -/
def verb : Operation → String
  | add => "add"
  | subtract => "subtract"
  | multiply => "multiply"

end Operation

/-- A computation without an answer. -/
inductive Fault where
  /-- The exact result does not fit into a word. -/
  | overflow (operation : Operation)
  /-- A position lies at or past the end of a sequence of the given size. -/
  | outOfBounds (index size : Nat)
  deriving DecidableEq, Repr

namespace Fault

/-- The text that reports a fault. -/
def message : Fault → String
  | overflow operation => s!"attempt to {operation.verb} with overflow"
  | outOfBounds index size =>
    s!"index out of bounds: the len is {Decimal.text size} but the index is {Decimal.text index}"

end Fault
end Till
