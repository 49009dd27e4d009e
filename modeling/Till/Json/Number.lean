import Till.Text.Decimal

/-!
# Number literals

A number literal is an optional minus sign, an integer part without a superfluous
leading zero, and then, each optional, a fraction and an exponent.  Only a literal
without fraction and exponent is an integer, and minus zero is none.

Main results:

- Theorem {lit}`Number.integer?_write`: the written form of an integer is a literal
  of that integer.
- Theorem {lit}`Number.write_inj`: integers are told apart by their written forms.
-/

namespace Till
namespace Json
namespace Number

/-- The characters that occur in number literals. -/
def isNumberChar (c : Char) : Bool :=
  c.isDigit || c == '-' || c == '+' || c == '.' || c == 'e' || c == 'E'

/-- The characters that a number literal begins with. -/
def opensNumber (c : Char) : Bool :=
  c.isDigit || c == '-'

/-- What follows one or more digits. -/
def afterDigits? : List Char → Option (List Char)
  | c :: rest => if c.isDigit then some (rest.dropWhile Char.isDigit) else none
  | [] => none

/-- What follows a zero alone, or a row of digits that starts with another one. -/
def afterIntegerPart? : List Char → Option (List Char)
  | '0' :: rest => some rest
  | rest => afterDigits? rest

/-- What follows a fraction, which may be absent. -/
def afterFraction? : List Char → Option (List Char)
  | '.' :: rest => afterDigits? rest
  | rest => some rest

/-- What follows the sign of an exponent, which may be absent. -/
def afterSign : List Char → List Char
  | '+' :: rest => rest
  | '-' :: rest => rest
  | rest => rest

/-- What follows an exponent, which may be absent. -/
def afterExponent? : List Char → Option (List Char)
  | 'e' :: rest => afterDigits? (afterSign rest)
  | 'E' :: rest => afterDigits? (afterSign rest)
  | rest => some rest

/-- What follows a minus sign, which may be absent. -/
def afterMinus : List Char → List Char
  | '-' :: rest => rest
  | rest => rest

/-- A row of characters is a number literal when nothing is left after its parts. -/
def isNumber (cs : List Char) : Bool :=
  ((afterIntegerPart? (afterMinus cs)).bind afterFraction?).bind afterExponent? == some []

/-- The integer that a number literal stands for, if it is written as one. -/
def integer? : List Char → Option Int
  | '-' :: ds =>
    match Decimal.unsigned? ds with
    | some 0 => none
    | some n => some (-(n : Int))
    | none => none
  | ds =>
    match Decimal.unsigned? ds with
    | some n => some (n : Int)
    | none => none

/-- The written form of an integer is a literal of that integer. -/
theorem integer?_write (n : Int) : integer? (Decimal.write n) = some n := by
  unfold Decimal.write
  split
  · rename_i hneg
    simp only [integer?, Decimal.unsigned?_digits]
    split
    · rename_i h
      simp only [Option.some.injEq] at h
      omega
    · rename_i h
      simp only [Option.some.injEq] at h
      subst h
      simp only [Option.some.injEq]
      omega
    · rename_i h
      simp at h
  · rename_i hneg
    unfold integer?
    split
    · rename_i ds h
      have hminus : '-' ∈ Decimal.digits n.natAbs := by rw [h]; simp
      exact absurd (Decimal.isDigit_of_mem_digits hminus) (by decide)
    · rw [Decimal.unsigned?_digits]
      simp only [Option.some.injEq]
      omega

/-- Integers are told apart by their written forms. -/
theorem write_inj {m n : Int} : Decimal.write m = Decimal.write n ↔ m = n := by
  constructor
  · intro h
    have hread := integer?_write m
    rw [h, integer?_write] at hread
    exact (Option.some.inj hread).symm
  · rintro rfl
    rfl

end Number
end Json
end Till
