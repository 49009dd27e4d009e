import Mathlib.Data.List.Forall2
import Mathlib.Data.List.TakeWhile
import Till.Json.Compact
import Till.Proofs.Json.Reading

/-!
# Written values and their tokens

What is written compactly stands for the tokens of its value: integers are number literals,
and every string is spelled by its escaped characters, control characters and characters
beyond the first plane included.  A text that is written compactly is therefore read as the
value that was written.

Main results:

- Theorem {lit}`Number.isNumber_write`: a written integer is a number literal.
- Theorem {lit}`Compact.exists_spells`: a written string spells the string.
- Theorem {lit}`Compact.StandsFor.array`, {lit}`Compact.StandsFor.object`: written elements
  and members are those of the written array and object.
- Theorem {lit}`Compact.StandsFor.lexes`: what was written is a text of the grammar.
-/

namespace Till
namespace Json

/-! ## Integers -/

/-- Only zero is written with a zero in front. -/
theorem eq_zero_of_head?_digits {n : Nat} (h : (Decimal.digits n).head? = some '0') :
    n = 0 := by
  induction n using Nat.strongRecOn with
  | ind n ih =>
    unfold Decimal.digits at h
    by_cases hlt : n < 10
    · rw [Nat.toDigits_of_lt_base hlt, List.head?_cons, Option.some.injEq] at h
      have hdigit : ∀ m < 10, Nat.digitChar m = '0' → m = 0 := by decide
      exact hdigit n hlt h
    · rw [Nat.toDigits_of_base_le (by decide) (Nat.not_lt.1 hlt),
        List.head?_append_of_ne_nil _ Nat.toDigits_ne_nil] at h
      have hquotient := ih (n / 10) (by omega) h
      omega

namespace Number

/-- The digits of a natural number are an integer part. -/
theorem afterIntegerPart?_digits (n : Nat) :
    afterIntegerPart? (Decimal.digits n) = some [] := by
  unfold afterIntegerPart?
  split
  · rename_i rest hdigits
    have hzero : n = 0 := eq_zero_of_head?_digits (by rw [hdigits]; rfl)
    rw [hzero] at hdigits
    cases hdigits
    rfl
  · cases hdigits : Decimal.digits n with
    | nil => exact absurd hdigits (Decimal.digits_ne_nil n)
    | cons c rest =>
      have hall : ∀ d ∈ c :: rest, d.isDigit = true := by
        intro d hd
        rw [← hdigits] at hd
        exact Decimal.isDigit_of_mem_digits hd
      have hrest : rest.dropWhile Char.isDigit = [] :=
        List.dropWhile_eq_nil_iff.2 fun d hd => hall d (List.mem_cons_of_mem _ hd)
      simp [afterDigits?, hall c List.mem_cons_self, hrest]

/-- No minus sign stands in front of digits. -/
theorem afterMinus_digits (n : Nat) : afterMinus (Decimal.digits n) = Decimal.digits n := by
  unfold afterMinus
  split
  · rename_i rest hdigits
    have hminus : '-' ∈ Decimal.digits n := by
      rw [hdigits]
      exact List.mem_cons_self
    exact absurd (Decimal.isDigit_of_mem_digits hminus) (by decide)
  · rfl

/-- A written integer is a number literal. -/
theorem isNumber_write (n : Int) : isNumber (Decimal.write n) = true := by
  have hdigits : afterIntegerPart? (afterMinus (Decimal.write n)) = some [] := by
    unfold Decimal.write
    split
    · exact afterIntegerPart?_digits n.natAbs
    · rw [afterMinus_digits]
      exact afterIntegerPart?_digits n.natAbs
  rw [isNumber, hdigits]
  rfl

end Number

/-! ## Rows of tokens -/

namespace Value

/-- The tokens of elements have commas between them. -/
theorem elementTokens_eq_intercalate (elements : List Value) :
    elementTokens elements = [Token.comma].intercalate (elements.map tokens) := by
  induction elements with
  | nil => rfl
  | cons first rest ih =>
    cases rest with
    | nil => simp [elementTokens]
    | cons second rest =>
      rw [elementTokens, ih]
      · simp [List.intercalate_cons_cons]
      · exact List.cons_ne_nil _ _

/-- The tokens of one member of an object. -/
def tokensOfMember (member : Option String × Value) : List Token :=
  .string member.1 :: .colon :: member.2.tokens

/-- The tokens of members have commas between them. -/
theorem memberTokens_eq_intercalate (members : List (Option String × Value)) :
    memberTokens members = [Token.comma].intercalate (members.map tokensOfMember) := by
  induction members with
  | nil => rfl
  | cons first rest ih =>
    cases rest with
    | nil => simp [memberTokens, tokensOfMember]
    | cons second rest =>
      rw [memberTokens, ih]
      · simp [List.intercalate_cons_cons, tokensOfMember]
      · exact List.cons_ne_nil _ _

end Value

/-! ## Strings -/

/-- A unit that is no surrogate is a character of the text. -/
theorem Piece.decode_cons_unit {n : Nat} (h : n < 0xD800 ∨ 0xDFFF < n) (pieces : List Piece) :
    decode (.unit n :: pieces) = decode (.char (Char.ofNat n) :: pieces) := by
  have hhigh : isHigh n = false := by
    simp only [isHigh, Bool.and_eq_false_iff, decide_eq_false_iff_not]
    omega
  have hlow : isLow n = false := by
    simp only [isLow, Bool.and_eq_false_iff, decide_eq_false_iff_not]
    omega
  have hafter : decodeAfter [] (.unit n :: pieces) = decodeAfter [Char.ofNat n] pieces := by
    cases pieces with
    | nil => simp [decodeAfter, hhigh, hlow]
    | cons piece rest => cases piece <;> simp [decodeAfter, hhigh, hlow]
  rw [decode, hafter]
  rfl

/-- A written hexadecimal digit is read as its value. -/
theorem Piece.hexValue?_digitChar : ∀ n < 16, hexValue? (Nat.digitChar n) = some n := by
  decide

namespace Compact

/-- A character is written as a letter after a backslash, as itself, or as a unit. -/
theorem escape_cases (c : Char) :
    (∃ letter, Piece.ofLetter? letter = some c ∧ escape c = ['\\', letter]) ∨
      (c ≠ '"' ∧ c ≠ '\\' ∧ 0x20 ≤ c.toNat ∧ escape c = [c]) ∨
      (c.toNat < 0x20 ∧ escape c =
        ['\\', 'u', '0', '0', Nat.digitChar (c.toNat / 16), Nat.digitChar (c.toNat % 16)]) := by
  have hletter : ∀ letter d, Piece.ofLetter? letter = some d → c = d →
      ∃ letter', Piece.ofLetter? letter' = some c ∧ ['\\', letter] = ['\\', letter'] := by
    rintro letter d hd rfl
    exact ⟨letter, hd, rfl⟩
  unfold escape
  split_ifs with hquote hslash hb ht hn hf hr hcontrol
  · exact .inl (hletter '"' _ rfl hquote)
  · exact .inl (hletter '\\' _ rfl hslash)
  · exact .inl (hletter 'b' _ rfl hb)
  · exact .inl (hletter 't' _ rfl ht)
  · exact .inl (hletter 'n' _ rfl hn)
  · exact .inl (hletter 'f' _ rfl hf)
  · exact .inl (hletter 'r' _ rfl hr)
  · exact .inr (.inr ⟨hcontrol, rfl⟩)
  · exact .inr (.inl ⟨hquote, hslash, Nat.not_lt.1 hcontrol, rfl⟩)

/-- A character is written as one piece that is a character of the text. -/
theorem exists_spells_escape (c : Char) :
    ∃ piece, (∀ pieces, Piece.decode (piece :: pieces) = Piece.decode (.char c :: pieces)) ∧
      ∀ body pieces, Spells body pieces → Spells (escape c ++ body) (piece :: pieces) := by
  rcases escape_cases c with ⟨letter, hletter, hescape⟩ | ⟨hquote, hslash, hplain, hescape⟩ |
    ⟨hcontrol, hescape⟩
  · refine ⟨.char c, fun _ => rfl, ?_⟩
    intro body pieces hspells
    rw [hescape]
    exact .letter hletter hspells
  · refine ⟨.char c, fun _ => rfl, ?_⟩
    intro body pieces hspells
    rw [hescape]
    exact .char hquote hslash hplain hspells
  · refine ⟨.unit c.toNat, ?_, ?_⟩
    · intro pieces
      rw [Piece.decode_cons_unit (Or.inl (by omega)), Char.ofNat_toNat]
    · intro body pieces hspells
      have hvalue : ((0 * 16 + 0) * 16 + c.toNat / 16) * 16 + c.toNat % 16 = c.toNat := by
        omega
      have hunit := Spells.unit (Piece.hexValue?_digitChar 0 (by decide))
        (Piece.hexValue?_digitChar 0 (by decide))
        (Piece.hexValue?_digitChar (c.toNat / 16) (by omega))
        (Piece.hexValue?_digitChar (c.toNat % 16) (by omega)) hspells
      rw [hvalue] at hunit
      rw [hescape]
      exact hunit

/-- The escaped characters of a string spell the string. -/
theorem exists_spells (cs : List Char) :
    ∃ pieces, Spells (cs.flatMap escape) pieces ∧
      Piece.decode pieces = some (String.ofList cs) := by
  induction cs with
  | nil => exact ⟨[], .nil, rfl⟩
  | cons c cs ih =>
    rcases ih with ⟨pieces, hspells, hdecode⟩
    rcases exists_spells_escape c with ⟨piece, hpiece, hescape⟩
    refine ⟨piece :: pieces, ?_, ?_⟩
    · rw [List.flatMap_cons]
      exact hescape _ _ hspells
    · rw [hpiece, Piece.decode_cons_char, hdecode, Option.map_some, String.toList_ofList]

/-! ## Written values -/

/-- What is written stands for these tokens wherever no number goes on after it. -/
def StandsFor (written : List Char) (tokens : List Token) : Prop :=
  ∀ rest, Number.Ends rest → Lexes (written ++ rest) tokens rest

namespace StandsFor

/-- A word is one token. -/
theorem word {initial : Char} {missing : List Char} {token : Token}
    (h : Token.ofInitial? initial = some (missing, token)) :
    StandsFor (initial :: missing) [token] := by
  intro rest _
  exact .word h .done

/-- The absent value is one token. -/
theorem null : StandsFor Compact.null Value.null.tokens :=
  word (rfl : Token.ofInitial? 'n' = some (['u', 'l', 'l'], .null))

/-- A number literal is one token. -/
theorem number {literal : List Char} (h : Number.isNumber literal = true) :
    StandsFor literal (Value.number literal).tokens := by
  intro rest hends
  exact .number h hends .done

/-- A written integer is one token. -/
theorem integer (n : Int) :
    StandsFor (Compact.integer n) (Value.number (Decimal.write n)).tokens :=
  number (Number.isNumber_write n)

/-- Spelled pieces between quotes are one token. -/
theorem quoted {body : List Char} {pieces : List Piece} (h : Spells body pieces) :
    StandsFor ('"' :: (body ++ ['"'])) (Value.string (Piece.decode pieces)).tokens := by
  intro rest _
  rw [List.cons_append, List.append_assoc]
  exact .string h .done

/-- A written string is one token. -/
theorem string (s : String) : StandsFor (Compact.string s) (Value.string (some s)).tokens := by
  rcases exists_spells s.toList with ⟨pieces, hspells, hdecode⟩
  rw [String.ofList_toList] at hdecode
  rw [← hdecode]
  exact quoted hspells

/-- Rows with commas between them stand for the tokens with commas between them. -/
theorem intercalate {written : List (List Char)} {tokens : List (List Token)}
    (h : List.Forall₂ StandsFor written tokens) :
    StandsFor ([','].intercalate written) ([Token.comma].intercalate tokens) := by
  induction h with
  | nil =>
    intro rest _
    exact .done
  | @cons first firstTokens others otherTokens hfirst hothers ih =>
    intro rest hends
    cases hothers with
    | nil => simpa using hfirst rest hends
    | @cons second secondTokens others otherTokens hsecond hothers =>
      have hcomma : Lexes (',' :: ([','].intercalate (second :: others) ++ rest))
          (.comma :: [Token.comma].intercalate (secondTokens :: otherTokens)) rest :=
        .mark rfl (ih rest hends)
      have hlexes := (hfirst _ (Number.ends_cons (by decide))).append hcomma
      simpa [List.intercalate_cons_cons] using hlexes

/-- Written elements are those of the written array. -/
theorem array {written : List (List Char)} {elements : List Value}
    (h : List.Forall₂ (fun row element => StandsFor row element.tokens) written elements) :
    StandsFor (Compact.array written) (Value.array elements).tokens := by
  intro rest _
  have hinside : StandsFor ([','].intercalate written) (Value.elementTokens elements) := by
    rw [Value.elementTokens_eq_intercalate]
    exact intercalate (List.forall₂_map_right_iff.2 h)
  have hclose : Lexes (']' :: rest) [Token.closeBracket] rest := .mark rfl .done
  have hlexes := (hinside _ (Number.ends_cons (by decide))).append hclose
  have hopen : Lexes ('[' :: _) (Token.openBracket :: _) rest := .mark rfl hlexes
  simpa [Compact.array, Value.tokens] using hopen

/-- Elements that are written one by one are those of the written array. -/
theorem array_map {α : Type} {write : α → List Char} {value : α → Value}
    (h : ∀ a, StandsFor (write a) (value a).tokens) (elements : List α) :
    StandsFor (Compact.array (elements.map write))
      (Value.array (elements.map value)).tokens := by
  apply array
  rw [List.forall₂_map_left_iff, List.forall₂_map_right_iff, List.forall₂_same]
  intro a _
  exact h a

/-- A member is a key, a colon and a value. -/
theorem colon {key written : List Char} {name : Option String} {value : Value}
    (hkey : StandsFor key (Value.string name).tokens) (h : StandsFor written value.tokens) :
    StandsFor (key ++ ':' :: written) (Value.tokensOfMember (name, value)) := by
  intro rest hends
  have hcolon : Lexes (':' :: (written ++ rest)) (.colon :: value.tokens) rest :=
    .mark rfl (h rest hends)
  have hlexes := (hkey _ (Number.ends_cons (by decide))).append hcolon
  simpa [Value.tokensOfMember, Value.tokens] using hlexes

/-- Members between braces are those of an object. -/
theorem braces {rows : List (List Char)} {members : List (Option String × Value)}
    (h : List.Forall₂ (fun row member => StandsFor row (Value.tokensOfMember member)) rows
      members) :
    StandsFor ('\x7b' :: ([','].intercalate rows ++ ['\x7d'])) (Value.object members).tokens := by
  intro rest _
  have hinside : StandsFor ([','].intercalate rows) (Value.memberTokens members) := by
    rw [Value.memberTokens_eq_intercalate]
    exact intercalate (List.forall₂_map_right_iff.2 h)
  have hclose : Lexes ('\x7d' :: rest) [Token.closeBrace] rest := .mark rfl .done
  have hlexes := (hinside _ (Number.ends_cons (by decide))).append hclose
  have hopen : Lexes ('\x7b' :: _) (Token.openBrace :: _) rest := .mark rfl hlexes
  simpa [Value.tokens] using hopen

/-- Written members are those of the written object. -/
theorem object {written : List (String × List Char)} {members : List (Option String × Value)}
    (h : List.Forall₂ (fun row (member : Option String × Value) =>
      member.1 = some row.1 ∧ StandsFor row.2 member.2.tokens) written members) :
    StandsFor (Compact.object written) (Value.object members).tokens := by
  apply braces
  rw [List.forall₂_map_left_iff]
  apply h.imp
  rintro ⟨key, row⟩ ⟨key', value⟩ ⟨rfl, hrow⟩
  exact colon (string key) hrow

/-- What was written is a text of the grammar. -/
theorem lexes {written : List Char} {tokens : List Token} (h : StandsFor written tokens) :
    Lexes written tokens [] := by
  simpa using h [] Number.ends_nil

end StandsFor
end Compact
end Json
end Till
