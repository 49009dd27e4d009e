/-!
# Pieces of a string literal

Between its quotes a string literal is a row of pieces: characters that stand for
themselves or are escaped by one letter, and UTF-16 units escaped by four
hexadecimal digits.  Units outside the surrogate range are characters; a high
surrogate and the low surrogate right after it are one character.  A literal with
any other surrogate is grammatical, but it has no text.

Main results:

- Theorem {lit}`Piece.decode_cons_char`: a character in front of a literal is a
  character in front of its text.
-/

namespace Till
namespace Json

/-- A character or an escaped UTF-16 unit. -/
inductive Piece where
  | char (c : Char)
  | unit (n : Nat)
  deriving DecidableEq, Repr

namespace Piece

/-- The units that can open a surrogate pair. -/
def isHigh (n : Nat) : Bool :=
  0xD800 ≤ n && n ≤ 0xDBFF

/-- The units that can close a surrogate pair. -/
def isLow (n : Nat) : Bool :=
  0xDC00 ≤ n && n ≤ 0xDFFF

/-- The character that a surrogate pair stands for. -/
def ofPair (high low : Nat) : Char :=
  Char.ofNat (0x10000 + (high - 0xD800) * 0x400 + (low - 0xDC00))

/-- The characters of a row of pieces after those already found, which are held
last one first; nothing when a surrogate stands alone. -/
def decodeAfter (found : List Char) : List Piece → Option (List Char)
  | [] => some found.reverse
  | char c :: rest => decodeAfter (c :: found) rest
  | unit m :: unit n :: rest =>
    if isHigh m && isLow n then decodeAfter (ofPair m n :: found) rest
    else if isHigh m || isLow m then none
    else decodeAfter (Char.ofNat m :: found) (unit n :: rest)
  | unit m :: rest =>
    if isHigh m || isLow m then none
    else decodeAfter (Char.ofNat m :: found) rest

/-- The text of a row of pieces, if it has one. -/
def decode (pieces : List Piece) : Option String :=
  (decodeAfter [] pieces).map String.ofList

/-- The character that an escape letter stands for. -/
def ofLetter? : Char → Option Char
  | '"' => some '"'
  | '\\' => some '\\'
  | '/' => some '/'
  | 'b' => some '\x08'
  | 'f' => some '\x0c'
  | 'n' => some '\n'
  | 'r' => some '\r'
  | 't' => some '\t'
  | _ => none

/-- The value of a hexadecimal digit of either case. -/
def hexValue? (c : Char) : Option Nat :=
  if '0' ≤ c ∧ c ≤ '9' then some (c.toNat - '0'.toNat)
  else if 'a' ≤ c ∧ c ≤ 'f' then some (c.toNat - 'a'.toNat + 10)
  else if 'A' ≤ c ∧ c ≤ 'F' then some (c.toNat - 'A'.toNat + 10)
  else none

/-- What was found earlier comes in front of the rest. -/
theorem decodeAfter_append (found earlier : List Char) (pieces : List Piece) :
    decodeAfter (found ++ earlier) pieces =
      (decodeAfter found pieces).map (earlier.reverse ++ ·) := by
  fun_induction decodeAfter found pieces with
  | case1 found => simp [decodeAfter]
  | case2 found c rest ih => rw [decodeAfter, ← ih, List.cons_append]
  | case3 found m n rest h ih => rw [decodeAfter, if_pos h, ← ih, List.cons_append]
  | case4 found m n rest h h' => simp [decodeAfter, h, h']
  | case5 found m n rest h h' ih =>
    rw [decodeAfter, if_neg h, if_neg h', ← ih, List.cons_append]
  | case6 found m rest hrest h => rw [decodeAfter, if_pos h, Option.map_none]; exact hrest
  | case7 found m rest hrest h ih =>
    rw [decodeAfter, if_neg h, ← ih, List.cons_append]
    exact hrest

/-- A character in front of a literal is a character in front of its text. -/
theorem decode_cons_char (c : Char) (pieces : List Piece) :
    decode (char c :: pieces) =
      (decode pieces).map fun s => String.ofList (c :: s.toList) := by
  unfold decode
  rw [decodeAfter, ← List.nil_append [c], decodeAfter_append]
  cases decodeAfter [] pieces <;> simp

end Piece
end Json
end Till
