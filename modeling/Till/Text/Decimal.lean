/-!
# Decimal integers

Integers are written in decimal digits, a minus sign in front of a negative one
and no leading zero.

Main results:

- Theorem {lit}`Decimal.ofDigits_digits`: the written digits of a number give the
  number back.
- Theorem {lit}`Decimal.isDigit_of_mem_digits`: a written number has digits only.
-/

namespace Till
namespace Decimal

/-- The digits of a natural number. -/
def digits (n : Nat) : List Char :=
  Nat.toDigits 10 n

/-- The number that a row of digits stands for. -/
def ofDigits (ds : List Char) : Nat :=
  Nat.ofDigitChars 10 ds 0

/-- The characters of an integer. -/
def write (n : Int) : List Char :=
  if n < 0 then '-' :: digits n.natAbs else digits n.natAbs

/-- The text of an integer. -/
def text (n : Int) : String :=
  String.ofList (write n)

/-- The number that a row of characters stands for, when there is at least one and
all are digits. -/
def unsigned? (cs : List Char) : Option Nat :=
  if cs ≠ [] ∧ cs.all Char.isDigit then some (ofDigits cs) else none

/-- The integer that an optional sign and one or more digits stand for; leading
zeros are allowed. -/
def signed? : List Char → Option Int
  | '+' :: cs => (unsigned? cs).map fun (n : Nat) => (n : Int)
  | '-' :: cs => (unsigned? cs).map fun (n : Nat) => -(n : Int)
  | cs => (unsigned? cs).map fun (n : Nat) => (n : Int)

/-- The written digits of a number give the number back. -/
@[simp]
theorem ofDigits_digits (n : Nat) : ofDigits (digits n) = n :=
  Nat.ofDigitChars_ten_toDigits

/-- A written number has digits only. -/
theorem isDigit_of_mem_digits {n : Nat} {c : Char} (h : c ∈ digits n) :
    c.isDigit = true :=
  Nat.isDigit_of_mem_toDigits (by decide) (by decide) h

/-- A written number has at least one digit. -/
theorem digits_ne_nil (n : Nat) : digits n ≠ [] :=
  Nat.toDigits_ne_nil

/-- The digits of a number are read as the number. -/
@[simp]
theorem unsigned?_digits (n : Nat) : unsigned? (digits n) = some n := by
  have hall : (digits n).all Char.isDigit = true :=
    List.all_eq_true.2 fun c h => isDigit_of_mem_digits h
  simp [unsigned?, digits_ne_nil, hall]

end Decimal
end Till
