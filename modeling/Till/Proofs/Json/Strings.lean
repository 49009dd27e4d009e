import Till.Proofs.Json.Writing

/-!
# String literals of the grammar

Between its quotes a string literal is a row of plain characters and escapes.  It spells the text of
these characters and escapes, where two escaped surrogates are one character, and it spells no text
when a surrogate stands alone.  The grammar is written down here with tables of the escapes and of
the hexadecimal digits, without regard to how they are read.

Main results:

- Theorem {lit}`Spelled.exists_spells`: a string literal is read as the text that it spells.
- Theorem {lit}`Spells.spelled`: a string literal that is read as a text spells this text.
- Theorem {lit}`EscapesUnit.not_spelled`: an escaped surrogate alone spells no text.
-/

namespace Till
namespace Json

/-! ## The grammar -/

/-- The letters that escape a character, each with the character. -/
def shortEscapes : List (Char × Char) :=
  [('"', '"'), ('\\', '\\'), ('/', '/'), ('b', '\x08'), ('f', '\x0c'), ('n', '\n'), ('r', '\r'),
   ('t', '\t')]

/-- The hexadecimal digits with lower-case letters, in order. -/
def lowerDigits : List Char :=
  ['0', '1', '2', '3', '4', '5', '6', '7', '8', '9', 'a', 'b', 'c', 'd', 'e', 'f']

/-- The hexadecimal digits with upper-case letters, in order. -/
def upperDigits : List Char :=
  ['0', '1', '2', '3', '4', '5', '6', '7', '8', '9', 'A', 'B', 'C', 'D', 'E', 'F']

/-- The hexadecimal digit of a number, in either case. -/
def IsHexDigit (digit : Char) (n : Nat) : Prop :=
  lowerDigits[n]? = some digit ∨ upperDigits[n]? = some digit

/-- An escape of four hexadecimal digits, with their number. -/
inductive EscapesUnit : List Char → Nat → Prop where
  | mk {a b c d : Char} {i j k l : Nat} (ha : IsHexDigit a i) (hb : IsHexDigit b j)
      (hc : IsHexDigit c k) (hd : IsHexDigit d l) :
      EscapesUnit ['\\', 'u', a, b, c, d] (((i * 16 + j) * 16 + k) * 16 + l)

/-- The characters that stand for themselves between quotes. -/
def isPlain (c : Char) : Bool :=
  c != '"' && c != '\\' && 0x20 ≤ c.toNat

theorem isPlain_iff {c : Char} : isPlain c = true ↔ c ≠ '"' ∧ c ≠ '\\' ∧ 0x20 ≤ c.toNat := by
  simp [isPlain, and_assoc]

/-- What may stand between the quotes of a string literal. -/
inductive IsBody : List Char → Prop where
  | nil : IsBody []
  | plain {c : Char} {body : List Char} (hplain : isPlain c = true) (h : IsBody body) :
      IsBody (c :: body)
  | short {letter c : Char} {body : List Char} (hletter : (letter, c) ∈ shortEscapes)
      (h : IsBody body) : IsBody ('\\' :: letter :: body)
  | unit {row body : List Char} {n : Nat} (hunit : EscapesUnit row n) (h : IsBody body) :
      IsBody (row ++ body)

/-- What stands between the quotes of a string literal spells a text.  A character beyond the first
plane may be escaped as two surrogates. -/
inductive Spelled : List Char → List Char → Prop where
  | nil : Spelled [] []
  | plain {c : Char} {body text : List Char} (hplain : isPlain c = true) (h : Spelled body text) :
      Spelled (c :: body) (c :: text)
  | short {letter c : Char} {body text : List Char} (hletter : (letter, c) ∈ shortEscapes)
      (h : Spelled body text) : Spelled ('\\' :: letter :: body) (c :: text)
  | unit {row body text : List Char} {c : Char} (hunit : EscapesUnit row c.toNat)
      (h : Spelled body text) : Spelled (row ++ body) (c :: text)
  | pair {first second body text : List Char} {high low : Nat} {c : Char}
      (hfirst : EscapesUnit first high) (hsecond : EscapesUnit second low)
      (hhigh : 0xD800 ≤ high ∧ high ≤ 0xDBFF) (hlow : 0xDC00 ≤ low ∧ low ≤ 0xDFFF)
      (hc : c.toNat = 0x10000 + (high - 0xD800) * 0x400 + (low - 0xDC00))
      (h : Spelled body text) : Spelled (first ++ (second ++ body)) (c :: text)

/-- Plain characters in front of a body are characters in front of its text. -/
theorem Spelled.plain_append {plain body text : List Char} (hplain : plain.all isPlain = true)
    (h : Spelled body text) : Spelled (plain ++ body) (plain ++ text) := by
  induction plain with
  | nil => exact h
  | cons c plain ih =>
    rw [List.all_cons, Bool.and_eq_true] at hplain
    exact .plain hplain.1 (ih hplain.2)

/-- Plain characters spell themselves. -/
theorem Spelled.of_plain {plain : List Char} (hplain : plain.all isPlain = true) :
    Spelled plain plain := by
  have h := Spelled.plain_append hplain .nil
  rwa [List.append_nil] at h

/-! ## Reading what spells a text -/

/-- The letters are read by their table. -/
theorem Piece.ofLetter?_eq_some_iff {letter c : Char} :
    ofLetter? letter = some c ↔ (letter, c) ∈ shortEscapes := by
  constructor
  · intro h
    unfold ofLetter? at h
    split at h <;> cases h <;> decide
  · intro h
    simp only [shortEscapes, List.mem_cons, Prod.mk.injEq, List.not_mem_nil, or_false] at h
    rcases h with ⟨rfl, rfl⟩ | ⟨rfl, rfl⟩ | ⟨rfl, rfl⟩ | ⟨rfl, rfl⟩ | ⟨rfl, rfl⟩ | ⟨rfl, rfl⟩ |
      ⟨rfl, rfl⟩ | ⟨rfl, rfl⟩ <;> rfl

/-- Hexadecimal digits are read by their table. -/
theorem Piece.hexValue?_eq_some_iff {digit : Char} {n : Nat} :
    hexValue? digit = some n ↔ IsHexDigit digit n := by
  constructor
  · intro h
    have hchar : Char.ofNat digit.toNat = digit := Char.ofNat_toNat digit
    have hdecimal : ∀ k < 10, lowerDigits[k]? = some (Char.ofNat (48 + k)) := by decide
    have hlower : ∀ k < 6, lowerDigits[k + 10]? = some (Char.ofNat (97 + k)) := by decide
    have hupper : ∀ k < 6, upperDigits[k + 10]? = some (Char.ofNat (65 + k)) := by decide
    unfold hexValue? at h
    simp only [Char.le_def, UInt32.le_iff_toNat_le] at h
    change (if 48 ≤ digit.toNat ∧ digit.toNat ≤ 57 then some (digit.toNat - 48)
      else if 97 ≤ digit.toNat ∧ digit.toNat ≤ 102 then some (digit.toNat - 97 + 10)
      else if 65 ≤ digit.toNat ∧ digit.toNat ≤ 70 then some (digit.toNat - 65 + 10)
      else none) = some n at h
    split_ifs at h with hd hl hu
    · cases h
      left
      rw [hdecimal _ (by omega), Nat.add_sub_cancel' hd.1, hchar]
    · cases h
      left
      rw [hlower _ (by omega), Nat.add_sub_cancel' hl.1, hchar]
    · cases h
      right
      rw [hupper _ (by omega), Nat.add_sub_cancel' hu.1, hchar]
  · have hlower : ∀ k : Fin lowerDigits.length, hexValue? lowerDigits[k] = some k.val := by decide
    have hupper : ∀ k : Fin upperDigits.length, hexValue? upperDigits[k] = some k.val := by decide
    rintro (h | h)
    · rcases List.getElem?_eq_some_iff.1 h with ⟨hlt, rfl⟩
      exact hlower ⟨n, hlt⟩
    · rcases List.getElem?_eq_some_iff.1 h with ⟨hlt, rfl⟩
      exact hupper ⟨n, hlt⟩

/-- The pieces of an escaped unit. -/
theorem EscapesUnit.spells {row body : List Char} {n : Nat} {pieces : List Piece}
    (h : EscapesUnit row n) (hbody : Spells body pieces) :
    Spells (row ++ body) (.unit n :: pieces) := by
  rcases h with ⟨ha, hb, hc, hd⟩
  exact .unit (Piece.hexValue?_eq_some_iff.2 ha) (Piece.hexValue?_eq_some_iff.2 hb)
    (Piece.hexValue?_eq_some_iff.2 hc) (Piece.hexValue?_eq_some_iff.2 hd) hbody

/-- What may stand between quotes spells pieces. -/
theorem IsBody.exists_spells {body : List Char} (h : IsBody body) :
    ∃ pieces, Spells body pieces := by
  induction h with
  | nil => exact ⟨[], .nil⟩
  | plain hplain _ ih =>
    rcases ih with ⟨pieces, hspells⟩
    rcases isPlain_iff.1 hplain with ⟨hquote, hslash, hcontrol⟩
    exact ⟨_, .char hquote hslash hcontrol hspells⟩
  | short hletter _ ih =>
    rcases ih with ⟨pieces, hspells⟩
    exact ⟨_, .letter (Piece.ofLetter?_eq_some_iff.2 hletter) hspells⟩
  | unit hunit _ ih =>
    rcases ih with ⟨pieces, hspells⟩
    exact ⟨_, hunit.spells hspells⟩

/-- No character has the code of a surrogate. -/
theorem toNat_not_surrogate (c : Char) : c.toNat < 0xD800 ∨ 0xDFFF < c.toNat :=
  c.valid.imp id And.left

/-- A surrogate pair is read as one character. -/
theorem Piece.decode_cons_pair {high low : Nat} (hhigh : 0xD800 ≤ high ∧ high ≤ 0xDBFF)
    (hlow : 0xDC00 ≤ low ∧ low ≤ 0xDFFF) (pieces : List Piece) :
    decode (.unit high :: .unit low :: pieces) = decode (.char (ofPair high low) :: pieces) := by
  have hpair : (isHigh high && isLow low) = true := by simp [isHigh, isLow, hhigh, hlow]
  simp [decode, decodeAfter, hpair]

/-- A string literal is read as the text that it spells. -/
theorem Spelled.exists_spells {body text : List Char} (h : Spelled body text) :
    ∃ pieces, Spells body pieces ∧ Piece.decode pieces = some (String.ofList text) := by
  induction h with
  | nil => exact ⟨[], .nil, rfl⟩
  | plain hplain _ ih =>
    rcases ih with ⟨pieces, hspells, hdecode⟩
    rcases isPlain_iff.1 hplain with ⟨hquote, hslash, hcontrol⟩
    refine ⟨_, .char hquote hslash hcontrol hspells, ?_⟩
    rw [Piece.decode_cons_char, hdecode, Option.map_some, String.toList_ofList]
  | short hletter _ ih =>
    rcases ih with ⟨pieces, hspells, hdecode⟩
    refine ⟨_, .letter (Piece.ofLetter?_eq_some_iff.2 hletter) hspells, ?_⟩
    rw [Piece.decode_cons_char, hdecode, Option.map_some, String.toList_ofList]
  | @unit row body text c hunit _ ih =>
    rcases ih with ⟨pieces, hspells, hdecode⟩
    refine ⟨_, hunit.spells hspells, ?_⟩
    rw [Piece.decode_cons_unit (toNat_not_surrogate c), Char.ofNat_toNat, Piece.decode_cons_char,
      hdecode, Option.map_some, String.toList_ofList]
  | @pair first second body text high low c hfirst hsecond hhigh hlow hc _ ih =>
    rcases ih with ⟨pieces, hspells, hdecode⟩
    refine ⟨_, hfirst.spells (hsecond.spells hspells), ?_⟩
    have hchar : Piece.ofPair high low = c := by rw [Piece.ofPair, ← hc, Char.ofNat_toNat]
    rw [Piece.decode_cons_pair hhigh hlow, hchar, Piece.decode_cons_char, hdecode,
      Option.map_some, String.toList_ofList]

/-! ## Spelling what is read as a text -/

/-- A character in front of pieces is the first one of their text. -/
theorem Piece.of_decode_cons_char {c : Char} {pieces : List Piece} {text : String}
    (h : decode (.char c :: pieces) = some text) :
    ∃ rest, decode pieces = some rest ∧ text.toList = c :: rest.toList := by
  rw [decode_cons_char, Option.map_eq_some_iff] at h
  rcases h with ⟨rest, hrest, rfl⟩
  exact ⟨rest, hrest, String.toList_ofList⟩

/-- A low surrogate in front of pieces stands alone. -/
theorem Piece.decode_cons_low {low : Nat} (hlow : 0xDC00 ≤ low ∧ low ≤ 0xDFFF)
    (pieces : List Piece) : decode (.unit low :: pieces) = none := by
  have hlow' : isLow low = true := by simp [isLow, hlow]
  have hhigh : isHigh low = false := by
    simp only [isHigh, Bool.and_eq_false_iff, decide_eq_false_iff_not]
    omega
  cases pieces with
  | nil => simp [decode, decodeAfter, hlow']
  | cons piece rest => cases piece <;> simp [decode, decodeAfter, hlow', hhigh]

/-- A high surrogate in front of pieces has a text only when a low one follows. -/
theorem Piece.of_decode_cons_high {high : Nat} (hhigh : 0xD800 ≤ high ∧ high ≤ 0xDBFF)
    {pieces : List Piece} {text : String} (h : decode (.unit high :: pieces) = some text) :
    ∃ low rest, pieces = .unit low :: rest ∧ 0xDC00 ≤ low ∧ low ≤ 0xDFFF := by
  have hhigh' : isHigh high = true := by simp [isHigh, hhigh]
  cases pieces with
  | nil => simp [decode, decodeAfter, hhigh'] at h
  | cons piece rest =>
    cases piece with
    | char c => simp [decode, decodeAfter, hhigh'] at h
    | unit low =>
      refine ⟨low, rest, rfl, ?_⟩
      by_contra hlow
      have hlow' : isLow low = false := by simpa [isLow] using hlow
      simp [decode, decodeAfter, hhigh', hlow'] at h

/-- Hexadecimal digits stand for numbers below sixteen. -/
theorem IsHexDigit.lt {digit : Char} {n : Nat} (h : IsHexDigit digit n) : n < 16 := by
  rcases h with h | h
  · exact (List.getElem?_eq_some_iff.1 h).1
  · exact (List.getElem?_eq_some_iff.1 h).1

/-- Escaped units have sixteen bits. -/
theorem EscapesUnit.lt {row : List Char} {n : Nat} (h : EscapesUnit row n) : n < 0x10000 := by
  rcases h with ⟨ha, hb, hc, hd⟩
  have hi := ha.lt
  have hj := hb.lt
  have hk := hc.lt
  have hl := hd.lt
  omega

/-- An escaped unit that is no surrogate is the code of a character. -/
theorem EscapesUnit.toNat_ofNat {row : List Char} {n : Nat} (h : EscapesUnit row n)
    (hn : n < 0xD800 ∨ 0xDFFF < n) : (Char.ofNat n).toNat = n := by
  have hlt := h.lt
  have hvalid : n.isValidChar := hn.imp id fun hlow => ⟨hlow, by omega⟩
  rw [Char.ofNat, dif_pos hvalid]
  rfl

/-- The code of the character that a surrogate pair stands for. -/
theorem Piece.toNat_ofPair {high low : Nat} (hhigh : 0xD800 ≤ high ∧ high ≤ 0xDBFF)
    (hlow : 0xDC00 ≤ low ∧ low ≤ 0xDFFF) :
    (ofPair high low).toNat = 0x10000 + (high - 0xD800) * 0x400 + (low - 0xDC00) := by
  have hvalid : (0x10000 + (high - 0xD800) * 0x400 + (low - 0xDC00)).isValidChar :=
    .inr ⟨by omega, by omega⟩
  rw [ofPair, Char.ofNat, dif_pos hvalid]
  rfl

/-- What stands for a text spells it, also behind a high surrogate that has been escaped in front,
as this one is part of the first character or of none. -/
theorem Spells.spelled_and {body : List Char} {pieces : List Piece} (h : Spells body pieces) :
    (∀ text, Piece.decode pieces = some text → Spelled body text.toList) ∧
      ∀ row high text, EscapesUnit row high → 0xD800 ≤ high ∧ high ≤ 0xDBFF →
        Piece.decode (.unit high :: pieces) = some text → Spelled (row ++ body) text.toList := by
  induction h with
  | nil =>
    constructor
    · rintro text ⟨⟩
      exact .nil
    · intro row high text _ hhigh hdecode
      rcases Piece.of_decode_cons_high hhigh hdecode with ⟨_, _, heq, _⟩
      cases heq
  | @char c body pieces hquote hslash hcontrol _ ih =>
    constructor
    · intro text hdecode
      rcases Piece.of_decode_cons_char hdecode with ⟨rest, hrest, htext⟩
      rw [htext]
      exact .plain (isPlain_iff.2 ⟨hquote, hslash, hcontrol⟩) (ih.1 rest hrest)
    · intro row high text _ hhigh hdecode
      rcases Piece.of_decode_cons_high hhigh hdecode with ⟨_, _, heq, _⟩
      cases heq
  | @letter letter c body pieces hletter _ ih =>
    constructor
    · intro text hdecode
      rcases Piece.of_decode_cons_char hdecode with ⟨rest, hrest, htext⟩
      rw [htext]
      exact .short (Piece.ofLetter?_eq_some_iff.1 hletter) (ih.1 rest hrest)
    · intro row high text _ hhigh hdecode
      rcases Piece.of_decode_cons_high hhigh hdecode with ⟨_, _, heq, _⟩
      cases heq
  | @unit a b c d i j k l body pieces ha hb hc hd _ ih =>
    have hunit := EscapesUnit.mk (Piece.hexValue?_eq_some_iff.1 ha)
      (Piece.hexValue?_eq_some_iff.1 hb) (Piece.hexValue?_eq_some_iff.1 hc)
      (Piece.hexValue?_eq_some_iff.1 hd)
    generalize ((i * 16 + j) * 16 + k) * 16 + l = n at hunit
    change (∀ text, _ → Spelled (['\\', 'u', a, b, c, d] ++ body) _) ∧
      ∀ row high text, _ → _ → _ → Spelled (row ++ (['\\', 'u', a, b, c, d] ++ body)) _
    constructor
    · intro text hdecode
      by_cases hhigh : 0xD800 ≤ n ∧ n ≤ 0xDBFF
      · exact ih.2 _ n text hunit hhigh hdecode
      by_cases hlow : 0xDC00 ≤ n ∧ n ≤ 0xDFFF
      · rw [Piece.decode_cons_low hlow] at hdecode
        cases hdecode
      have hn : n < 0xD800 ∨ 0xDFFF < n := by omega
      rw [Piece.decode_cons_unit hn] at hdecode
      rcases Piece.of_decode_cons_char hdecode with ⟨rest, hrest, htext⟩
      rw [← hunit.toNat_ofNat hn] at hunit
      rw [htext]
      exact .unit hunit (ih.1 rest hrest)
    · intro row high text hrow hhigh hdecode
      rcases Piece.of_decode_cons_high hhigh hdecode with ⟨low, _, heq, hlow⟩
      cases heq
      rw [Piece.decode_cons_pair hhigh hlow] at hdecode
      rcases Piece.of_decode_cons_char hdecode with ⟨rest, hrest, htext⟩
      rw [htext]
      exact .pair hrow hunit hhigh hlow (Piece.toNat_ofPair hhigh hlow) (ih.1 rest hrest)

/-- A body that is read as a text spells this text. -/
theorem Spells.spelled {body : List Char} {pieces : List Piece} (h : Spells body pieces)
    {text : String} (hdecode : Piece.decode pieces = some text) : Spelled body text.toList :=
  h.spelled_and.1 text hdecode

/-- An escaped surrogate alone spells no text. -/
theorem EscapesUnit.not_spelled {row text : List Char} {n : Nat} (h : EscapesUnit row n)
    (hn : 0xD800 ≤ n ∧ n ≤ 0xDFFF) : ¬Spelled row text := by
  intro hspelled
  rcases hspelled.exists_spells with ⟨pieces, hspells, hdecode⟩
  have hpieces : pieces = [.unit n] := by
    rcases h with ⟨ha, hb, hc, hd⟩
    cases hspells with
    | char _ hslash _ _ => exact absurd rfl hslash
    | letter hletter _ => cases hletter
    | unit ha' hb' hc' hd' hrest =>
      cases ha'.symm.trans (Piece.hexValue?_eq_some_iff.2 ha)
      cases hb'.symm.trans (Piece.hexValue?_eq_some_iff.2 hb)
      cases hc'.symm.trans (Piece.hexValue?_eq_some_iff.2 hc)
      cases hd'.symm.trans (Piece.hexValue?_eq_some_iff.2 hd)
      cases hrest
      rfl
  rw [hpieces] at hdecode
  by_cases hlow : 0xDC00 ≤ n
  · rw [Piece.decode_cons_low ⟨hlow, hn.2⟩] at hdecode
    cases hdecode
  · rcases Piece.of_decode_cons_high ⟨hn.1, by omega⟩ hdecode with ⟨_, _, heq, _⟩
    cases heq

end Json
end Till
