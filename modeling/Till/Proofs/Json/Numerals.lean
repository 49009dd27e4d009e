import Mathlib.Data.List.Induction
import Till.Proofs.Json.Writing

/-!
# Number literals of the grammar

A number literal has an optional minus sign, an integer part in which no digit follows a zero in
front, and then, each optional, a fraction and an exponent.  The grammar is written down here by
these parts, without regard to how they are read.  All its literals are read as numbers, and those
that are read as integers are the ones that write an integer, since only there every digit is one of
the integer part.

Main results:

- Theorem {lit}`Decimal.digits_ofDigits`: digits without a zero in front are how their number is
  written.
- Theorem {lit}`Number.IsLiteral.isNumber`: the number literals of the grammar are read.
- Theorem {lit}`Number.IsLiteral.integer?_eq_some_iff`: a number literal is read as an integer
  exactly when this is how the integer is written.
-/

namespace Till

/-! ## Digits -/

namespace Decimal

/-- The codes of the digits. -/
theorem toNat_of_isDigit {c : Char} (h : c.isDigit = true) : 48 ≤ c.toNat ∧ c.toNat ≤ 57 := by
  simp only [Char.isDigit, Bool.and_eq_true, decide_eq_true_eq, ge_iff_le,
    UInt32.le_iff_toNat_le] at h
  exact h

/-- A digit alone is how its number is written. -/
theorem digits_ofDigits_singleton {c : Char} (h : c.isDigit = true) :
    ofDigits [c] < 10 ∧ digits (ofDigits [c]) = [c] := by
  have hcode := toNat_of_isDigit h
  have hvalue : ofDigits [c] = c.toNat - 48 := by simp [ofDigits, Nat.ofDigitChars_cons]
  have hdigit : ∀ d < 10, digits d = [Char.ofNat (d + 48)] := by decide
  rw [hvalue, hdigit _ (by omega), Nat.sub_add_cancel hcode.1, Char.ofNat_toNat]
  exact ⟨by omega, rfl⟩

/-- A row of digits that does not begin with a zero is how its number is written. -/
theorem digits_ofDigits {first : Char} {rest : List Char} (hne : first ≠ '0')
    (hall : ∀ c ∈ first :: rest, c.isDigit = true) :
    0 < ofDigits (first :: rest) ∧ digits (ofDigits (first :: rest)) = first :: rest := by
  -- The number grows from its last digit, so that the first one keeps it above zero.
  induction rest using List.reverseRecOn with
  | nil =>
    have hfirst := digits_ofDigits_singleton (hall first List.mem_cons_self)
    refine ⟨Nat.pos_of_ne_zero ?_, hfirst.2⟩
    intro hzero
    rw [hzero] at hfirst
    exact hne (List.cons.inj hfirst.2).1.symm
  | append_singleton rest last ih =>
    have hlast := digits_ofDigits_singleton (hall last (by simp))
    rcases ih fun c hc => hall c (by
      rw [← List.cons_append]
      exact List.mem_append_left _ hc) with ⟨hpos, hdigits⟩
    have hvalue : ofDigits (first :: (rest ++ [last])) =
        10 * ofDigits (first :: rest) + ofDigits [last] := by
      rw [← List.cons_append]
      simp only [ofDigits, Nat.ofDigitChars_append, Nat.ofDigitChars_cons, Nat.ofDigitChars_nil,
        Nat.mul_zero, Nat.zero_add]
    rw [hvalue]
    refine ⟨by omega, ?_⟩
    calc digits (10 * ofDigits (first :: rest) + ofDigits [last])
        = digits (ofDigits (first :: rest)) ++ digits (ofDigits [last]) :=
          (Nat.toDigits_append_toDigits (by decide) hpos hlast.1).symm
      _ = first :: (rest ++ [last]) := by rw [hdigits, hlast.2, List.cons_append]

end Decimal

namespace Json

/-! ## Number literals -/

namespace Number

/-- One or more digits. -/
structure IsDigits (digits : List Char) : Prop where
  ne_nil : digits ≠ []
  isDigit : ∀ c ∈ digits, c.isDigit = true

/-- A zero alone, or digits that begin with another one. -/
inductive IsIntegerPart : List Char → Prop where
  | zero : IsIntegerPart ['0']
  | nonzero {first : Char} {rest : List Char} (hne : first ≠ '0')
      (h : ∀ c ∈ first :: rest, c.isDigit = true) : IsIntegerPart (first :: rest)

/-- A point and digits, or nothing. -/
inductive IsFraction : List Char → Prop where
  | absent : IsFraction []
  | digits {digits : List Char} (h : IsDigits digits) : IsFraction ('.' :: digits)

/-- A mark, an optional sign and digits, or nothing. -/
inductive IsExponent : List Char → Prop where
  | absent : IsExponent []
  | digits {mark : Char} {sign digits : List Char} (hmark : mark ∈ ['e', 'E'])
      (hsign : sign ∈ [[], ['+'], ['-']]) (h : IsDigits digits) :
      IsExponent (mark :: (sign ++ digits))

/-- The number literals of the grammar. -/
inductive IsLiteral : List Char → Prop where
  | mk {sign integer fraction exponent : List Char} (hsign : sign ∈ [[], ['-']])
      (hinteger : IsIntegerPart integer) (hfraction : IsFraction fraction)
      (hexponent : IsExponent exponent) :
      IsLiteral (sign ++ (integer ++ (fraction ++ exponent)))

/-- No digit goes on into these characters. -/
def NoDigit (rest : List Char) : Prop :=
  ∀ c ∈ rest.head?, c.isDigit = false

/-! ## Reading them -/

/-- What follows a row of digits. -/
theorem IsDigits.after {digits rest : List Char} (h : IsDigits digits) (hrest : NoDigit rest) :
    afterDigits? (digits ++ rest) = some rest := by
  rcases h with ⟨hne, hall⟩
  cases digits with
  | nil => exact absurd rfl hne
  | cons first others =>
    rw [List.cons_append, afterDigits?, if_pos (hall first List.mem_cons_self),
      List.dropWhile_append_of_pos fun c hc => hall c (List.mem_cons_of_mem _ hc)]
    cases rest with
    | nil => rfl
    | cons c rest => rw [List.dropWhile_cons_of_neg (by simp [hrest c rfl])]

/-- What follows the sign in front of digits. -/
theorem IsDigits.afterSign {sign digits : List Char} (h : IsDigits digits)
    (hsign : sign ∈ [[], ['+'], ['-']]) : afterSign (sign ++ digits) = digits := by
  simp only [List.mem_cons, List.not_mem_nil, or_false] at hsign
  rcases hsign with rfl | rfl | rfl
  · rw [List.nil_append]
    unfold Number.afterSign
    split
    · exact absurd (h.isDigit '+' List.mem_cons_self) (by decide)
    · exact absurd (h.isDigit '-' List.mem_cons_self) (by decide)
    · rfl
  · rfl
  · rfl

/-- What follows an integer part. -/
theorem IsIntegerPart.after {integer rest : List Char} (h : IsIntegerPart integer)
    (hrest : NoDigit rest) : afterIntegerPart? (integer ++ rest) = some rest := by
  cases h with
  | zero => rfl
  | @nonzero first others hne hall =>
    have hdigits : IsDigits (first :: others) := ⟨List.cons_ne_nil _ _, hall⟩
    rw [← hdigits.after hrest]
    unfold afterIntegerPart?
    split
    · rename_i heq
      exact absurd (List.cons.inj heq).1 hne
    · rfl

/-- An exponent does not begin with a digit or a point. -/
theorem IsExponent.head_ne {exponent : List Char} (h : IsExponent exponent) :
    NoDigit exponent ∧ ∀ rest, exponent ≠ '.' :: rest := by
  cases h with
  | absent => exact ⟨nofun, nofun⟩
  | digits hmark _ _ =>
    simp only [List.mem_cons, List.not_mem_nil, or_false] at hmark
    constructor
    · rintro c ⟨⟩
      rcases hmark with rfl | rfl <;> rfl
    · rintro rest ⟨⟩
      rcases hmark with h | h <;> cases h

/-- What follows a fraction. -/
theorem IsFraction.after {fraction exponent : List Char} (h : IsFraction fraction)
    (hexponent : IsExponent exponent) : afterFraction? (fraction ++ exponent) = some exponent := by
  cases h with
  | absent =>
    rw [List.nil_append]
    unfold afterFraction?
    split
    · exact absurd rfl (hexponent.head_ne.2 _)
    · rfl
  | digits h => exact h.after hexponent.head_ne.1

/-- A fraction and an exponent do not begin with a digit. -/
theorem IsFraction.noDigit {fraction exponent : List Char} (h : IsFraction fraction)
    (hexponent : IsExponent exponent) : NoDigit (fraction ++ exponent) := by
  cases h with
  | absent => exact hexponent.head_ne.1
  | digits _ =>
    rintro c ⟨⟩
    rfl

/-- Nothing follows an exponent. -/
theorem IsExponent.after {exponent : List Char} (h : IsExponent exponent) :
    afterExponent? exponent = some [] := by
  cases h with
  | absent => rfl
  | @digits mark sign digits hmark hsign h =>
    have hrest : afterDigits? (afterSign (sign ++ digits)) = some [] := by
      have hnone : NoDigit [] := nofun
      have hdigits := h.after hnone
      rw [List.append_nil] at hdigits
      rw [h.afterSign hsign, hdigits]
    simp only [List.mem_cons, List.not_mem_nil, or_false] at hmark
    rcases hmark with rfl | rfl
    · exact hrest
    · exact hrest

/-- An integer part begins with a digit. -/
theorem IsIntegerPart.eq_cons {integer : List Char} (h : IsIntegerPart integer) :
    ∃ first rest, integer = first :: rest ∧ first.isDigit = true := by
  cases h with
  | zero => exact ⟨'0', [], rfl, rfl⟩
  | nonzero hne hall => exact ⟨_, _, rfl, hall _ List.mem_cons_self⟩

/-- What follows the sign of a number literal. -/
theorem IsIntegerPart.afterMinus {sign integer rest : List Char} (h : IsIntegerPart integer)
    (hsign : sign ∈ [[], ['-']]) : afterMinus (sign ++ (integer ++ rest)) = integer ++ rest := by
  simp only [List.mem_cons, List.not_mem_nil, or_false] at hsign
  rcases hsign with rfl | rfl
  · rcases h.eq_cons with ⟨first, others, rfl, hfirst⟩
    rw [List.nil_append, List.cons_append]
    unfold Number.afterMinus
    split
    · rename_i heq
      rw [(List.cons.inj heq).1] at hfirst
      cases hfirst
    · rfl
  · rfl

/-- The number literals of the grammar are read. -/
theorem IsLiteral.isNumber {literal : List Char} (h : IsLiteral literal) :
    isNumber literal = true := by
  rcases h with ⟨hsign, hinteger, hfraction, hexponent⟩
  rw [Number.isNumber, hinteger.afterMinus hsign, hinteger.after (hfraction.noDigit hexponent),
    Option.bind_some, hfraction.after hexponent, Option.bind_some, hexponent.after]
  rfl

/-! ## Integers among the number literals -/

/-- An integer part is how its number is written. -/
theorem IsIntegerPart.digits_ofDigits {integer : List Char} (h : IsIntegerPart integer) :
    Decimal.digits (Decimal.ofDigits integer) = integer := by
  cases h with
  | zero => exact (Decimal.digits_ofDigits_singleton rfl).2
  | nonzero hne hall => exact (Decimal.digits_ofDigits hne hall).2

/-- A number literal without a sign that is read as a number is how this number is written: no
digit stands in a fraction or an exponent in front of which there is nothing else. -/
theorem IsIntegerPart.eq_digits {integer fraction exponent : List Char}
    (h : IsIntegerPart integer) (hfraction : IsFraction fraction) (hexponent : IsExponent exponent)
    {n : Nat} (hread : Decimal.unsigned? (integer ++ (fraction ++ exponent)) = some n) :
    integer ++ (fraction ++ exponent) = Decimal.digits n := by
  unfold Decimal.unsigned? at hread
  split at hread
  · rename_i hdigits
    cases hread
    have hrest : fraction ++ exponent = [] := by
      cases hrest : fraction ++ exponent with
      | nil => rfl
      | cons c rest =>
        have hdigit : c.isDigit = true := by
          apply List.all_eq_true.1 hdigits.2 c
          rw [hrest]
          exact List.mem_append_right _ List.mem_cons_self
        rw [hfraction.noDigit hexponent c (by rw [hrest]; rfl)] at hdigit
        cases hdigit
    rw [hrest, List.append_nil, h.digits_ofDigits]
  · cases hread

/-- A number literal that is read as an integer is how the integer is written. -/
theorem IsLiteral.eq_write {literal : List Char} (h : IsLiteral literal) {n : Int}
    (hread : integer? literal = some n) : literal = Decimal.write n := by
  rcases h with ⟨hsign, hinteger, hfraction, hexponent⟩
  simp only [List.mem_cons, List.not_mem_nil, or_false] at hsign
  rcases hsign with rfl | rfl
  · rcases hinteger.eq_cons with ⟨first, others, hcons, hfirst⟩
    rw [List.nil_append] at hread ⊢
    unfold integer? at hread
    split at hread
    · rename_i heq
      rw [hcons] at heq
      rw [(List.cons.inj heq).1] at hfirst
      cases hfirst
    · split at hread
      · rename_i k hk
        cases hread
        rw [hinteger.eq_digits hfraction hexponent hk, Decimal.write, if_neg (by omega),
          Int.natAbs_natCast]
      · cases hread
  · simp only [List.singleton_append, integer?] at hread ⊢
    split at hread
    · cases hread
    · rename_i k hpos hk
      cases hread
      have hne : k ≠ 0 := by
        rintro rfl
        exact hpos rfl
      rw [hinteger.eq_digits hfraction hexponent hk, Decimal.write, if_pos (by omega),
        Int.natAbs_neg, Int.natAbs_natCast]
    · cases hread

/-- An integer is written as a literal of the grammar. -/
theorem isLiteral_write (n : Int) : IsLiteral (Decimal.write n) := by
  have hinteger : IsIntegerPart (Decimal.digits n.natAbs) := by
    have hall : ∀ c ∈ Decimal.digits n.natAbs, c.isDigit = true :=
      fun c hc => Decimal.isDigit_of_mem_digits hc
    cases hdigits : Decimal.digits n.natAbs with
    | nil => exact absurd hdigits (Decimal.digits_ne_nil _)
    | cons first rest =>
      rw [hdigits] at hall
      by_cases hzero : first = '0'
      · have hnone : n.natAbs = 0 := eq_zero_of_head?_digits (by rw [hdigits, hzero]; rfl)
        rw [hnone] at hdigits
        cases hdigits
        exact .zero
      · exact .nonzero hzero hall
  have hliteral : ∀ sign ∈ [[], ['-']], IsLiteral (sign ++ Decimal.digits n.natAbs) := by
    intro sign hsign
    have hmk := IsLiteral.mk hsign hinteger .absent .absent
    rwa [List.append_nil, List.append_nil] at hmk
  unfold Decimal.write
  split
  · exact hliteral ['-'] (by decide)
  · exact hliteral [] (by decide)

/-- A number literal is read as an integer exactly when this is how the integer is written. -/
theorem IsLiteral.integer?_eq_some_iff {literal : List Char} (h : IsLiteral literal) {n : Int} :
    integer? literal = some n ↔ literal = Decimal.write n := by
  refine ⟨h.eq_write, ?_⟩
  rintro rfl
  exact integer?_write n

end Number

end Json
end Till
