import Till.Json.Token

/-!
# Texts and their tokens

The grammar says which rows of characters stand for which tokens: white space may stand
between any two of them, a string literal spells its pieces in any of their ways, and a
number literal ends where no character of numbers follows.  The pass over a text finds the
tokens of every text of the grammar.

Main results:

- Theorem {lit}`Number.opens_of_isNumber`: a number literal has characters of numbers only.
- Theorem {lit}`Lexes.zero_notMem`: no text of the grammar holds a zero character.
- Theorem {lit}`Lexes.append`: tokens in front of tokens.
- Theorem {lit}`Lexes.scan_eq_some`: the pass over a text of the grammar finds its tokens.
-/

namespace Till
namespace Json

/-! ## Number literals -/

namespace Number

/-- No number literal in front of these characters goes on into them. -/
def Ends (rest : List Char) : Prop :=
  ∀ c ∈ rest.head?, isNumberChar c = false

theorem ends_nil : Ends [] := by
  intro c hc
  cases hc

theorem ends_cons {c : Char} {rest : List Char} (h : isNumberChar c = false) :
    Ends (c :: rest) := by
  intro d hd
  cases hd
  exact h

/-- What is left out from the front of a row are characters of numbers. -/
def Skips (cs rest : List Char) : Prop :=
  ∃ skipped, cs = skipped ++ rest ∧ ∀ c ∈ skipped, isNumberChar c = true

theorem skips_refl (cs : List Char) : Skips cs cs :=
  ⟨[], rfl, by simp⟩

theorem skips_cons {c : Char} {cs rest : List Char} (hc : isNumberChar c = true)
    (h : Skips cs rest) : Skips (c :: cs) rest := by
  rcases h with ⟨skipped, rfl, hall⟩
  refine ⟨c :: skipped, rfl, ?_⟩
  intro d hd
  rcases List.mem_cons.1 hd with rfl | hd
  · exact hc
  · exact hall d hd

theorem Skips.trans {cs between rest : List Char} (h : Skips cs between)
    (h' : Skips between rest) : Skips cs rest := by
  rcases h with ⟨first, rfl, hfirst⟩
  rcases h' with ⟨second, rfl, hsecond⟩
  refine ⟨first ++ second, (List.append_assoc _ _ _).symm, ?_⟩
  intro c hc
  rcases List.mem_append.1 hc with hc | hc
  · exact hfirst c hc
  · exact hsecond c hc

/-- A digit is a character of numbers. -/
theorem isNumberChar_of_isDigit {c : Char} (h : c.isDigit = true) : isNumberChar c = true := by
  simp [isNumberChar, h]

theorem skips_afterDigits? {cs rest : List Char} (h : afterDigits? cs = some rest) :
    Skips cs rest := by
  cases cs with
  | nil => cases h
  | cons c cs =>
    simp only [afterDigits?] at h
    split at h
    · rename_i hc
      cases h
      refine skips_cons (isNumberChar_of_isDigit hc) ⟨cs.takeWhile Char.isDigit, ?_, ?_⟩
      · exact (List.takeWhile_append_dropWhile).symm
      · intro d hd
        exact isNumberChar_of_isDigit (List.all_eq_true.1 List.all_takeWhile d hd)
    · cases h

theorem skips_afterIntegerPart? {cs rest : List Char} (h : afterIntegerPart? cs = some rest) :
    Skips cs rest := by
  unfold afterIntegerPart? at h
  split at h
  · cases h
    exact skips_cons (by decide) (skips_refl _)
  · exact skips_afterDigits? h

theorem skips_afterFraction? {cs rest : List Char} (h : afterFraction? cs = some rest) :
    Skips cs rest := by
  unfold afterFraction? at h
  split at h
  · exact skips_cons (by decide) (skips_afterDigits? h)
  · cases h
    exact skips_refl _

theorem skips_afterSign (cs : List Char) : Skips cs (afterSign cs) := by
  unfold afterSign
  split
  · exact skips_cons (by decide) (skips_refl _)
  · exact skips_cons (by decide) (skips_refl _)
  · exact skips_refl _

theorem skips_afterExponent? {cs rest : List Char} (h : afterExponent? cs = some rest) :
    Skips cs rest := by
  unfold afterExponent? at h
  split at h
  · exact skips_cons (by decide) ((skips_afterSign _).trans (skips_afterDigits? h))
  · exact skips_cons (by decide) ((skips_afterSign _).trans (skips_afterDigits? h))
  · cases h
    exact skips_refl _

theorem skips_afterMinus (cs : List Char) : Skips cs (afterMinus cs) := by
  unfold afterMinus
  split
  · exact skips_cons (by decide) (skips_refl _)
  · exact skips_refl _

/-- A literal with an integer part begins with a digit. -/
theorem isDigit_of_afterIntegerPart? {cs rest : List Char}
    (h : afterIntegerPart? cs = some rest) :
    ∃ c tail, cs = c :: tail ∧ c.isDigit = true := by
  unfold afterIntegerPart? at h
  split at h
  · exact ⟨'0', _, rfl, by decide⟩
  · cases cs with
    | nil => cases h
    | cons c tail =>
      simp only [afterDigits?] at h
      split at h
      · exact ⟨c, tail, rfl, by assumption⟩
      · cases h

/-- A number literal opens one, and goes on with characters of numbers only. -/
theorem opens_of_isNumber {literal : List Char} (h : isNumber literal = true) :
    ∃ c rest, literal = c :: rest ∧ opensNumber c = true ∧
      ∀ d ∈ rest, isNumberChar d = true := by
  simp only [isNumber, beq_iff_eq, Option.bind_eq_some_iff] at h
  rcases h with ⟨afterFraction, ⟨afterInteger, hinteger, hfraction⟩, hexponent⟩
  have hskips : Skips literal [] :=
    (skips_afterMinus literal).trans ((skips_afterIntegerPart? hinteger).trans
      ((skips_afterFraction? hfraction).trans (skips_afterExponent? hexponent)))
  rcases hskips with ⟨skipped, hskipped, hall⟩
  rw [List.append_nil] at hskipped
  subst hskipped
  have hopens : ∃ c rest, literal = c :: rest ∧ opensNumber c = true := by
    unfold afterMinus at hinteger
    split at hinteger
    · exact ⟨'-', _, rfl, by decide⟩
    · rcases isDigit_of_afterIntegerPart? hinteger with ⟨c, rest, heq, hdigit⟩
      exact ⟨c, rest, heq, by simp [opensNumber, hdigit]⟩
  rcases hopens with ⟨c, rest, rfl, hc⟩
  exact ⟨c, rest, rfl, hc, fun d hd => hall d (List.mem_cons_of_mem _ hd)⟩

end Number

/-! ## String literals -/

/-- What stands between the quotes of a string literal spells these pieces. -/
inductive Spells : List Char → List Piece → Prop where
  | nil : Spells [] []
  | char {c : Char} {body : List Char} {pieces : List Piece} (hquote : c ≠ '"')
      (hslash : c ≠ '\\') (hcontrol : 0x20 ≤ c.toNat) (h : Spells body pieces) :
      Spells (c :: body) (.char c :: pieces)
  | letter {letter c : Char} {body : List Char} {pieces : List Piece}
      (hletter : Piece.ofLetter? letter = some c) (h : Spells body pieces) :
      Spells ('\\' :: letter :: body) (.char c :: pieces)
  | unit {a b c d : Char} {i j k l : Nat} {body : List Char} {pieces : List Piece}
      (ha : Piece.hexValue? a = some i) (hb : Piece.hexValue? b = some j)
      (hc : Piece.hexValue? c = some k) (hd : Piece.hexValue? d = some l)
      (h : Spells body pieces) :
      Spells ('\\' :: 'u' :: a :: b :: c :: d :: body)
        (.unit (((i * 16 + j) * 16 + k) * 16 + l) :: pieces)

/-- No hexadecimal digit is a zero character. -/
theorem ne_zero_of_hexValue? {c : Char} {n : Nat} (h : Piece.hexValue? c = some n) :
    c ≠ '\x00' := by
  intro heq
  rw [heq] at h
  cases h

/-- A string literal spells a zero character without holding one. -/
theorem Spells.zero_notMem {body : List Char} {pieces : List Piece} (h : Spells body pieces) :
    '\x00' ∉ body := by
  induction h with
  | nil => exact List.not_mem_nil
  | char hquote hslash hcontrol _ ih =>
    intro hmem
    rcases List.mem_cons.1 hmem with heq | hmem
    · rw [← heq] at hcontrol
      exact absurd hcontrol (by decide)
    · exact ih hmem
  | letter hletter _ ih =>
    intro hmem
    rcases List.mem_cons.1 hmem with heq | hmem
    · exact absurd heq (by decide)
    · rcases List.mem_cons.1 hmem with heq | hmem
      · rw [← heq] at hletter
        cases hletter
      · exact ih hmem
  | unit ha hb hc hd _ ih =>
    simp [ih, (ne_zero_of_hexValue? ha).symm, (ne_zero_of_hexValue? hb).symm,
      (ne_zero_of_hexValue? hc).symm, (ne_zero_of_hexValue? hd).symm]

namespace Token
namespace Scan

/-- The pass over the body of a string literal finds the pieces. -/
theorem foldlM_of_spells {body : List Char} {pieces : List Piece} (h : Spells body pieces)
    (found : List Token) (seen : List Piece) :
    body.foldlM next? ⟨found, .string seen⟩ =
      some ⟨found, .string (pieces.reverse ++ seen)⟩ := by
  induction h generalizing seen with
  | nil => rfl
  | @char c body pieces hquote hslash hcontrol _ ih =>
    have hnext : next? ⟨found, .string seen⟩ c = some ⟨found, .string (.char c :: seen)⟩ := by
      simp [next?, inString?, hquote, hslash, Nat.not_lt.2 hcontrol]
    rw [List.foldlM_cons, hnext]
    simpa using ih (.char c :: seen)
  | @letter letter c body pieces hletter _ ih =>
    have hne : letter ≠ 'u' := by
      intro heq
      rw [heq] at hletter
      cases hletter
    have hnext : next? ⟨found, .escape seen⟩ letter =
        some ⟨found, .string (.char c :: seen)⟩ := by
      simp [next?, inEscape?, hne, hletter]
    have hslash : next? ⟨found, .string seen⟩ '\\' = some ⟨found, .escape seen⟩ := rfl
    rw [List.foldlM_cons, hslash, Option.bind_eq_bind, Option.bind_some, List.foldlM_cons,
      hnext]
    simpa using ih (.char c :: seen)
  | @unit a b c d i j k l body pieces ha hb hc hd _ ih =>
    have hunit : ['\\', 'u', a, b, c, d].foldlM next? ⟨found, .string seen⟩ =
        some ⟨found, .string (.unit (((i * 16 + j) * 16 + k) * 16 + l) :: seen)⟩ := by
      simp [next?, inString?, inEscape?, inUnit?, ha, hb, hc, hd]
    change (['\\', 'u', a, b, c, d] ++ body).foldlM next? ⟨found, .string seen⟩ = _
    rw [List.foldlM_append, hunit, Option.bind_eq_bind, Option.bind_some, ih]
    simp

end Scan
end Token

/-! ## Texts -/

/-- In front of the rest the characters stand for these tokens, with white space between any
two of them. -/
inductive Lexes : List Char → List Token → List Char → Prop where
  | done {rest : List Char} : Lexes rest [] rest
  | space {c : Char} {cs rest : List Char} {tokens : List Token}
      (hspace : Token.isSpace c = true) (h : Lexes cs tokens rest) :
      Lexes (c :: cs) tokens rest
  | mark {c : Char} {token : Token} {cs rest : List Char} {tokens : List Token}
      (hmark : Token.ofMark? c = some token) (h : Lexes cs tokens rest) :
      Lexes (c :: cs) (token :: tokens) rest
  | word {c : Char} {missing : List Char} {token : Token} {cs rest : List Char}
      {tokens : List Token} (hword : Token.ofInitial? c = some (missing, token))
      (h : Lexes cs tokens rest) : Lexes (c :: (missing ++ cs)) (token :: tokens) rest
  | number {literal cs rest : List Char} {tokens : List Token}
      (hnumber : Number.isNumber literal = true) (hends : Number.Ends cs)
      (h : Lexes cs tokens rest) : Lexes (literal ++ cs) (.number literal :: tokens) rest
  | string {body cs rest : List Char} {pieces : List Piece} {tokens : List Token}
      (hspells : Spells body pieces) (h : Lexes cs tokens rest) :
      Lexes ('"' :: (body ++ '"' :: cs)) (.string (Piece.decode pieces) :: tokens) rest

/-- In front of the rest no text of the grammar holds a zero character: outside of string
literals there are only white space, marks, words and number literals. -/
theorem Lexes.zero_notMem {cs rest : List Char} {tokens : List Token}
    (h : Lexes cs tokens rest) (hrest : '\x00' ∉ rest) : '\x00' ∉ cs := by
  induction h with
  | done => exact hrest
  | space hspace _ ih =>
    intro hmem
    rcases List.mem_cons.1 hmem with heq | hmem
    · rw [← heq] at hspace
      cases hspace
    · exact ih hrest hmem
  | mark hmark _ ih =>
    intro hmem
    rcases List.mem_cons.1 hmem with heq | hmem
    · rw [← heq] at hmark
      cases hmark
    · exact ih hrest hmem
  | @word c missing token cs rest tokens hword _ ih =>
    have hinitial : '\x00' ∉ c :: missing := by
      unfold Token.ofInitial? at hword
      split at hword <;> cases hword <;> decide
    rw [← List.cons_append, List.mem_append, not_or]
    exact ⟨hinitial, ih hrest⟩
  | @number literal cs rest tokens hnumber hends _ ih =>
    have hliteral : '\x00' ∉ literal := by
      intro hmem
      rcases Number.opens_of_isNumber hnumber with ⟨c, more, rfl, hopens, hmore⟩
      rcases List.mem_cons.1 hmem with heq | hmem
      · rw [← heq] at hopens
        cases hopens
      · exact absurd (hmore _ hmem) (by decide)
    rw [List.mem_append, not_or]
    exact ⟨hliteral, ih hrest⟩
  | string hspells _ ih =>
    have hquote : '\x00' ≠ '"' := by decide
    simp [hquote, hspells.zero_notMem, ih hrest]

/-- Tokens in front of tokens. -/
theorem Lexes.append {cs between rest : List Char} {first second : List Token}
    (h : Lexes cs first between) (h' : Lexes between second rest) :
    Lexes cs (first ++ second) rest := by
  induction h with
  | done => exact h'
  | space hspace _ ih => exact .space hspace (ih h')
  | mark hmark _ ih => exact .mark hmark (ih h')
  | word hword _ ih => exact .word hword (ih h')
  | number hnumber hends _ ih => exact .number hnumber hends (ih h')
  | string hspells _ ih => exact .string hspells (ih h')

namespace Token
namespace Scan

variable {found : List Token} {cs rest : List Char}

/-- The tokens of a text when the pass goes on from some point over what is left of it. -/
def complete? (scan : Scan) (cs : List Char) : Option (List Token) :=
  (cs.foldlM next? scan).bind finish?

theorem complete?_cons {scan next : Scan} {c : Char} (h : scan.next? c = some next) :
    scan.complete? (c :: cs) = next.complete? cs := by
  simp [complete?, h]

theorem complete?_append {scan next : Scan} {first : List Char}
    (h : first.foldlM next? scan = some next) :
    scan.complete? (first ++ cs) = next.complete? cs := by
  simp [complete?, List.foldlM_append, h]

/-- A mark is a token at once. -/
theorem next?_of_mark {c : Char} {token : Token} (h : ofMark? c = some token) :
    next? ⟨found, .none⟩ c = some ⟨token :: found, .none⟩ := by
  unfold ofMark? at h
  split at h <;> cases h <;> rfl

/-- A word is a token when all its characters are there. -/
theorem foldlM_of_word {c : Char} {missing : List Char} {token : Token}
    (h : ofInitial? c = some (missing, token)) :
    (c :: missing).foldlM next? ⟨found, .none⟩ = some ⟨token :: found, .none⟩ := by
  unfold ofInitial? at h
  split at h <;> cases h <;> rfl

/-- A number literal begins with a character that opens one. -/
theorem next?_of_opens {c : Char} (h : Number.opensNumber c = true) :
    next? ⟨found, .none⟩ c = some ⟨found, .number [c]⟩ := by
  have hspace : isSpace c = false := by
    rw [← Bool.not_eq_true]
    intro hspace
    simp only [isSpace, Bool.or_eq_true, beq_iff_eq] at hspace
    rcases hspace with ((rfl | rfl) | rfl) | rfl <;> cases h
  have hquote : c ≠ '"' := by
    intro heq
    rw [heq] at h
    cases h
  simp [next?, begin?, hspace, hquote, h]

/-- A number literal goes on with characters of numbers. -/
theorem foldlM_of_numberChars {more : List Char}
    (h : ∀ c ∈ more, Number.isNumberChar c = true) (seen : List Char) :
    more.foldlM next? ⟨found, .number seen⟩ = some ⟨found, .number (more.reverse ++ seen)⟩ := by
  induction more generalizing seen with
  | nil => rfl
  | cons c more ih =>
    have hnext : next? ⟨found, .number seen⟩ c = some ⟨found, .number (c :: seen)⟩ := by
      simp [next?, h c List.mem_cons_self]
    rw [List.foldlM_cons, hnext]
    simpa using ih (fun d hd => h d (List.mem_cons_of_mem _ hd)) (c :: seen)

/-- A number literal ends where the text does, or at another character. -/
theorem complete?_of_isNumber {literal : List Char} (h : Number.isNumber literal = true)
    (hends : Number.Ends cs) :
    complete? ⟨found, .none⟩ (literal ++ cs) =
      complete? ⟨.number literal :: found, .none⟩ cs := by
  rcases Number.opens_of_isNumber h with ⟨c, more, rfl, hopens, hmore⟩
  have hend : endNumber? found (more.reverse ++ [c]) =
      some (.number (c :: more) :: found) := by
    simp [endNumber?, h]
  rw [List.cons_append, complete?_cons (next?_of_opens hopens),
    complete?_append (foldlM_of_numberChars hmore [c])]
  cases cs with
  | nil => simp [complete?, finish?, hend]
  | cons d cs =>
    have hd : Number.isNumberChar d = false := hends d rfl
    simp [complete?, next?, hd, hend]

/-- A string literal ends at its second quote. -/
theorem complete?_of_spells {body : List Char} {pieces : List Piece}
    (h : Spells body pieces) :
    complete? ⟨found, .none⟩ ('"' :: (body ++ '"' :: cs)) =
      complete? ⟨.string (Piece.decode pieces) :: found, .none⟩ cs := by
  have hopen : next? ⟨found, .none⟩ '"' = some ⟨found, .string []⟩ := rfl
  have hclose : next? ⟨found, .string (pieces.reverse ++ [])⟩ '"' =
      some ⟨.string (Piece.decode pieces) :: found, .none⟩ := by
    simp [next?, inString?]
  rw [complete?_cons hopen, complete?_append (foldlM_of_spells h found []),
    complete?_cons hclose]

end Scan
end Token

/-- The pass over characters that stand for tokens finds these tokens. -/
theorem Lexes.complete?_eq {cs rest : List Char} {tokens : List Token}
    (h : Lexes cs tokens rest) (found : List Token) :
    Token.Scan.complete? ⟨found, .none⟩ cs =
      Token.Scan.complete? ⟨tokens.reverse ++ found, .none⟩ rest := by
  induction h generalizing found with
  | done => rfl
  | space hspace _ ih =>
    have hnext : Token.Scan.next? ⟨found, .none⟩ _ = some ⟨found, .none⟩ := if_pos hspace
    rw [Token.Scan.complete?_cons hnext, ih]
  | mark hmark _ ih =>
    rw [Token.Scan.complete?_cons (Token.Scan.next?_of_mark hmark), ih]
    simp
  | word hword _ ih =>
    rw [← List.cons_append, Token.Scan.complete?_append (Token.Scan.foldlM_of_word hword), ih]
    simp
  | number hnumber hends _ ih =>
    rw [Token.Scan.complete?_of_isNumber hnumber hends, ih]
    simp
  | string hspells _ ih =>
    rw [Token.Scan.complete?_of_spells hspells, ih]
    simp

/-- The pass over a text of the grammar finds its tokens. -/
theorem Lexes.scan_eq_some {cs : List Char} {tokens : List Token} (h : Lexes cs tokens []) :
    Token.scan cs = some tokens := by
  have hcomplete := h.complete?_eq []
  rw [List.append_nil] at hcomplete
  change Token.Scan.complete? Token.Scan.start cs = _
  rw [Token.Scan.start, hcomplete]
  simp [Token.Scan.complete?, Token.Scan.finish?]

end Json
end Till
