import Till.Proofs.Json.Numerals

/-!
# Tokens and their texts

The pass over a text finds tokens in no other texts than those of the grammar.  At each point of the
pass the characters since the last whole token are the beginning of a token, and every character
either goes on with it or completes it.  So a text has tokens exactly when it is one of the grammar,
and then these are its tokens.

Main results:

- Theorem {lit}`Number.isNumber_iff`: the number literals that are read are those of the grammar.
- Theorem {lit}`Token.Scan.of_next?`: what one more character does.
- Theorem {lit}`Token.Scan.of_complete?`: what the pass finds in the rest of a text.
- Theorem {lit}`Token.scan_eq_some_iff`: the tokens of a text are those of the grammar.
-/

namespace Till
namespace Json

/-! ## Number literals -/

namespace Number

variable {cs rest : List Char}

/-- Digits stand in front of what follows them. -/
theorem exists_isDigits (h : afterDigits? cs = some rest) :
    ∃ digits, cs = digits ++ rest ∧ IsDigits digits := by
  cases cs with
  | nil => cases h
  | cons c cs =>
    simp only [afterDigits?] at h
    split at h
    · rename_i hc
      cases h
      refine ⟨c :: cs.takeWhile Char.isDigit, ?_, List.cons_ne_nil _ _, ?_⟩
      · rw [List.cons_append, List.takeWhile_append_dropWhile]
      · exact List.forall_mem_cons.2 ⟨hc, List.all_eq_true.1 List.all_takeWhile⟩
    · cases h

/-- An integer part stands in front of what follows it. -/
theorem exists_isIntegerPart (h : afterIntegerPart? cs = some rest) :
    ∃ integer, cs = integer ++ rest ∧ IsIntegerPart integer := by
  unfold afterIntegerPart? at h
  split at h
  · cases h
    exact ⟨['0'], rfl, .zero⟩
  · rename_i hzero
    rcases exists_isDigits h with ⟨digits, rfl, hne, hall⟩
    cases digits with
    | nil => exact absurd rfl hne
    | cons first others =>
      refine ⟨first :: others, rfl, .nonzero ?_ hall⟩
      rintro rfl
      exact hzero _ rfl

/-- A fraction stands in front of what follows it. -/
theorem exists_isFraction (h : afterFraction? cs = some rest) :
    ∃ fraction, cs = fraction ++ rest ∧ IsFraction fraction := by
  unfold afterFraction? at h
  split at h
  · rcases exists_isDigits h with ⟨digits, rfl, hdigits⟩
    exact ⟨'.' :: digits, rfl, .digits hdigits⟩
  · cases h
    exact ⟨[], rfl, .absent⟩

/-- The sign of an exponent stands in front of what follows it. -/
theorem exists_exponentSign (cs : List Char) :
    ∃ sign ∈ [[], ['+'], ['-']], cs = sign ++ afterSign cs := by
  unfold afterSign
  split
  · exact ⟨['+'], by decide, rfl⟩
  · exact ⟨['-'], by decide, rfl⟩
  · exact ⟨[], by decide, rfl⟩

/-- An exponent stands in front of what follows it. -/
theorem exists_isExponent (h : afterExponent? cs = some rest) :
    ∃ exponent, cs = exponent ++ rest ∧ IsExponent exponent := by
  have hmarked : ∀ (mark : Char) (tail : List Char), mark ∈ ['e', 'E'] →
      afterDigits? (afterSign tail) = some rest →
      ∃ exponent, mark :: tail = exponent ++ rest ∧ IsExponent exponent := by
    intro mark tail hmark htail
    rcases exists_exponentSign tail with ⟨sign, hsign, heq⟩
    rcases exists_isDigits htail with ⟨digits, hafter, hdigits⟩
    refine ⟨mark :: (sign ++ digits), ?_, .digits hmark hsign hdigits⟩
    rw [List.cons_append, List.append_assoc, ← hafter, ← heq]
  unfold afterExponent? at h
  split at h
  · exact hmarked 'e' _ (by decide) h
  · exact hmarked 'E' _ (by decide) h
  · cases h
    exact ⟨[], rfl, .absent⟩

/-- The sign of a number literal stands in front of what follows it. -/
theorem exists_sign (cs : List Char) : ∃ sign ∈ [[], ['-']], cs = sign ++ afterMinus cs := by
  unfold afterMinus
  split
  · exact ⟨['-'], by decide, rfl⟩
  · exact ⟨[], by decide, rfl⟩

/-- The number literals that are read are those of the grammar. -/
theorem isNumber_iff {literal : List Char} : isNumber literal = true ↔ IsLiteral literal := by
  refine ⟨?_, IsLiteral.isNumber⟩
  intro h
  simp only [isNumber, beq_iff_eq, Option.bind_eq_some_iff] at h
  rcases h with ⟨afterFraction, ⟨afterInteger, hinteger, hfraction⟩, hexponent⟩
  rcases exists_sign literal with ⟨sign, hsign, hliteral⟩
  rcases exists_isIntegerPart hinteger with ⟨integer, hafterSign, hinteger'⟩
  rcases exists_isFraction hfraction with ⟨fraction, rfl, hfraction'⟩
  rcases exists_isExponent hexponent with ⟨exponent, rfl, hexponent'⟩
  rw [hliteral, hafterSign, List.append_nil]
  exact .mk hsign hinteger' hfraction' hexponent'

end Number

/-! ## Beginnings of tokens -/

/-- Pieces behind pieces. -/
theorem Spells.append {first second : List Char} {pieces more : List Piece}
    (h : Spells first pieces) (h' : Spells second more) :
    Spells (first ++ second) (pieces ++ more) := by
  induction h with
  | nil => exact h'
  | char hquote hslash hcontrol _ ih => exact .char hquote hslash hcontrol ih
  | letter hletter _ ih => exact .letter hletter ih
  | unit ha hb hc hd _ ih => exact .unit ha hb hc hd ih

namespace Token

/-- The number that hexadecimal digits stand for. -/
def unitValue? (digits : List Char) : Option Nat :=
  digits.foldlM (fun value digit => (Piece.hexValue? digit).map (value * 16 + ·)) 0

/-- Four hexadecimal digits are an escaped unit. -/
theorem spells_of_unitValue? {digits : List Char} {n : Nat} (hlength : digits.length = 4)
    (h : unitValue? digits = some n) : Spells ('\\' :: 'u' :: digits) [.unit n] := by
  rcases digits with _ | ⟨a, _ | ⟨b, _ | ⟨c, _ | ⟨d, _ | ⟨e, more⟩⟩⟩⟩⟩ <;> cases hlength
  simp only [unitValue?, List.foldlM_cons, List.foldlM_nil, Option.bind_eq_bind,
    Option.bind_eq_some_iff, Option.map_eq_some_iff, Option.pure_def, Option.some.injEq] at h
  rcases h with ⟨_, ⟨i, hi, rfl⟩, _, ⟨j, hj, rfl⟩, _, ⟨k, hk, rfl⟩, _, ⟨l, hl, rfl⟩, rfl⟩
  rw [Nat.zero_mul, Nat.zero_add]
  exact .unit hi hj hk hl .nil

/-- The characters are what has been read of a token when this has begun. -/
inductive Begun : Partial → List Char → Prop where
  | none : Begun .none []
  | word {initial : Char} {whole row missing : List Char} {token : Token}
      (hword : ofInitial? initial = some (whole, token)) (h : initial :: whole = row ++ missing) :
      Begun (.word missing token) row
  | number (seen : List Char) : Begun (.number seen) seen.reverse
  | string {seen : List Piece} {body : List Char} (h : Spells body seen.reverse) :
      Begun (.string seen) ('"' :: body)
  | escape {seen : List Piece} {body : List Char} (h : Spells body seen.reverse) :
      Begun (.escape seen) ('"' :: (body ++ ['\\']))
  | unit {seen : List Piece} {body digits : List Char} {missing value : Nat}
      (h : Spells body seen.reverse) (hlength : digits.length + missing = 4) (hpos : 0 < missing)
      (hvalue : unitValue? digits = some value) :
      Begun (.unit seen missing value) ('"' :: (body ++ '\\' :: 'u' :: digits))

namespace Scan

variable {found : List Token} {begun : Partial} {row : List Char} {c : Char}

/-- From one point to the next the characters in between make these tokens, and leave this row as
the beginning of another one. -/
def Advances (found : List Token) (before : List Char) (scan : Scan) : Prop :=
  ∃ tokens row, scan.found = tokens.reverse ++ found ∧ Begun scan.begun row ∧
    ∀ cs more, Lexes (row ++ cs) more [] → Lexes (before ++ cs) (tokens ++ more) []

/-- A row that has only grown makes no token. -/
theorem advances_of_begun {before : List Char} (h : Begun begun before) :
    Advances found before ⟨found, begun⟩ :=
  ⟨[], before, rfl, h, fun _ _ hlexes => hlexes⟩

/-- A character between tokens begins one, makes one, or separates two. -/
theorem advances_of_begin? {scan : Scan} (h : begin? found c = some scan) :
    Advances found [c] scan := by
  unfold begin? at h
  split at h
  · rename_i hspace
    cases h
    exact ⟨[], [], rfl, .none, fun _ _ hlexes => .space hspace hlexes⟩
  split at h
  · rename_i hquote
    cases h
    subst hquote
    exact advances_of_begun (.string .nil)
  split at h
  · cases h
    exact advances_of_begun (.number [c])
  split at h
  · rename_i token hmark
    cases h
    exact ⟨[token], [], rfl, .none, fun _ _ hlexes => .mark hmark hlexes⟩
  · rcases Option.map_eq_some_iff.1 h with ⟨⟨whole, token⟩, hword, rfl⟩
    exact advances_of_begun (.word hword rfl)

/-- A character of a word goes on with it or completes it. -/
theorem advances_of_word {missing : List Char} {token : Token} {scan : Scan}
    (hbegun : Begun (.word missing token) row)
    (h : next? ⟨found, .word missing token⟩ c = some scan) : Advances found (row ++ [c]) scan := by
  rcases hbegun with _ | ⟨hword, hwhole⟩
  cases missing with
  | nil => cases h
  | cons d missing =>
    cases missing with
    | nil =>
      simp only [next?] at h
      split at h
      · rename_i hc
        cases h
        subst hc
        refine ⟨[token], [], rfl, .none, ?_⟩
        intro cs more hlexes
        rw [← hwhole]
        exact .word hword hlexes
      · cases h
    | cons e missing =>
      simp only [next?] at h
      split at h
      · rename_i hc
        cases h
        subst hc
        refine advances_of_begun (.word hword ?_)
        rw [hwhole, List.append_assoc]
        rfl
      · cases h

/-- A character after those of a number literal goes on with it, or comes after the whole of it. -/
theorem advances_of_number {seen : List Char} {scan : Scan}
    (h : next? ⟨found, .number seen⟩ c = some scan) :
    Advances found (seen.reverse ++ [c]) scan := by
  simp only [next?] at h
  split at h
  · cases h
    rw [← List.reverse_cons]
    exact advances_of_begun (.number (c :: seen))
  · rename_i hc
    rcases Option.bind_eq_some_iff.1 h with ⟨ended, hended, hbegin⟩
    unfold endNumber? at hended
    split at hended
    · rename_i hnumber
      cases hended
      rcases advances_of_begin? hbegin with ⟨tokens, row, hfound, hbegun, hlexes⟩
      refine ⟨.number seen.reverse :: tokens, row, ?_, hbegun, ?_⟩
      · rw [hfound, List.reverse_cons, List.append_assoc]
        rfl
      · intro cs more hmore
        rw [List.append_assoc]
        exact .number hnumber (Number.ends_cons (Bool.eq_false_iff.2 hc)) (hlexes cs more hmore)
    · cases hended

/-- A character inside a string literal goes on with it or completes it. -/
theorem advances_of_string {seen : List Piece} {scan : Scan} {body : List Char}
    (hbody : Spells body seen.reverse) (h : inString? found seen c = some scan) :
    Advances found ('"' :: (body ++ [c])) scan := by
  unfold inString? at h
  split at h
  · rename_i hc
    cases h
    subst hc
    refine ⟨[.string (Piece.decode seen.reverse)], [], rfl, .none, ?_⟩
    intro cs more hlexes
    rw [List.cons_append, List.append_assoc]
    exact .string hbody hlexes
  rename_i hquote
  split at h
  · rename_i hc
    cases h
    subst hc
    exact advances_of_begun (.escape hbody)
  rename_i hslash
  split at h
  · cases h
  · rename_i hcontrol
    cases h
    refine advances_of_begun (.string ?_)
    rw [List.reverse_cons]
    exact hbody.append (.char hquote hslash (Nat.not_lt.1 hcontrol) .nil)

/-- The character after a backslash is a letter that stands for another one, or begins a unit. -/
theorem advances_of_escape {seen : List Piece} {scan : Scan} {body : List Char}
    (hbody : Spells body seen.reverse) (h : inEscape? found seen c = some scan) :
    Advances found ('"' :: (body ++ ['\\', c])) scan := by
  unfold inEscape? at h
  split at h
  · rename_i hc
    cases h
    subst hc
    exact advances_of_begun (.unit hbody rfl (by decide) rfl)
  · rcases Option.map_eq_some_iff.1 h with ⟨d, hletter, rfl⟩
    refine advances_of_begun (.string ?_)
    rw [List.reverse_cons]
    exact hbody.append (.letter hletter .nil)

/-- A digit of an escaped unit goes on with it or completes it. -/
theorem advances_of_unit {seen : List Piece} {missing value : Nat} {scan : Scan}
    {body digits : List Char} (hbody : Spells body seen.reverse)
    (hlength : digits.length + missing = 4) (hpos : 0 < missing)
    (hvalue : unitValue? digits = some value)
    (h : inUnit? found seen missing value c = some scan) :
    Advances found ('"' :: (body ++ '\\' :: 'u' :: (digits ++ [c]))) scan := by
  rcases Option.map_eq_some_iff.1 h with ⟨digit, hdigit, hscan⟩
  have hdigits : unitValue? (digits ++ [c]) = some (value * 16 + digit) := by
    rw [unitValue?, List.foldlM_append]
    rw [unitValue?] at hvalue
    simp [hvalue, hdigit]
  split at hscan
  · subst hscan
    refine advances_of_begun (.string ?_)
    rw [List.reverse_cons]
    refine hbody.append (spells_of_unitValue? ?_ hdigits)
    rw [List.length_append, List.length_singleton]
    omega
  · subst hscan
    refine advances_of_begun (.unit hbody ?_ (by omega) hdigits)
    rw [List.length_append, List.length_singleton]
    omega

/-- One more character goes on with what has begun, or completes it. -/
theorem of_next? {scan : Scan} (hbegun : Begun begun row)
    (h : next? ⟨found, begun⟩ c = some scan) : Advances found (row ++ [c]) scan := by
  cases hbegun with
  | none => exact advances_of_begin? h
  | word hword hwhole => exact advances_of_word (.word hword hwhole) h
  | number seen => exact advances_of_number h
  | string hbody => exact advances_of_string hbody h
  | escape hbody =>
    have hadvances := advances_of_escape hbody h
    rwa [List.cons_append, List.append_assoc]
  | unit hbody hlength hpos hvalue =>
    have hadvances := advances_of_unit hbody hlength hpos hvalue h
    rwa [List.cons_append, List.append_assoc]

/-- A text may end after white space, a mark, a word or a number literal. -/
theorem of_finish? {tokens : List Token} (hbegun : Begun begun row)
    (h : finish? ⟨found, begun⟩ = some tokens) :
    ∃ more, tokens = found.reverse ++ more ∧ Lexes row more [] := by
  cases hbegun with
  | none =>
    cases h
    exact ⟨[], (List.append_nil _).symm, .done⟩
  | number seen =>
    simp only [finish?, endNumber?] at h
    split at h
    · rename_i hnumber
      cases h
      have hlexes := Lexes.number hnumber Number.ends_nil .done
      rw [List.append_nil] at hlexes
      exact ⟨_, List.reverse_cons, hlexes⟩
    · cases h
  | word => cases h
  | string => cases h
  | escape => cases h
  | unit => cases h

/-- What the pass finds in the rest of a text, together with what has begun, stands there. -/
theorem of_complete? {cs : List Char} {tokens : List Token} (hbegun : Begun begun row)
    (h : complete? ⟨found, begun⟩ cs = some tokens) :
    ∃ more, tokens = found.reverse ++ more ∧ Lexes (row ++ cs) more [] := by
  induction cs generalizing found begun row with
  | nil =>
    rw [List.append_nil]
    exact of_finish? hbegun h
  | cons c cs ih =>
    rw [complete?, List.foldlM_cons] at h
    rcases Option.bind_eq_some_iff.1 h with ⟨last, hlast, hfinish⟩
    rcases Option.bind_eq_some_iff.1 hlast with ⟨next, hnext, hrest⟩
    rcases of_next? hbegun hnext with ⟨made, row', hfound, hbegun', hlexes⟩
    rcases ih hbegun' (Option.bind_eq_some_iff.2 ⟨last, hrest, hfinish⟩) with ⟨more, htokens, hmore⟩
    refine ⟨made ++ more, ?_, ?_⟩
    · rw [htokens, hfound, List.reverse_append, List.reverse_reverse, List.append_assoc]
    · have hwhole := hlexes cs more hmore
      rwa [List.append_assoc] at hwhole

end Scan

/-- The tokens of a text are those that the grammar gives it. -/
theorem scan_eq_some_iff {cs : List Char} {tokens : List Token} :
    scan cs = some tokens ↔ Lexes cs tokens [] := by
  refine ⟨?_, Lexes.scan_eq_some⟩
  intro h
  rcases @Scan.of_complete? [] .none [] cs tokens .none h with ⟨more, rfl, hlexes⟩
  exact hlexes

end Token
end Json
end Till
