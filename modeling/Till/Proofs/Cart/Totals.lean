import Mathlib.Algebra.Order.BigOperators.Group.List
import Mathlib.Algebra.Ring.Int.Defs
import Till.Cart.Payment
import Till.Proofs.Outcome

/-!
# Totals in exact integers

The totals of lines are sums of products, taken here in unbounded integers.  Adding
them up in words goes well exactly when every product and every sum on the way fits
into a word.

Main results:

- Theorem {lit}`Cart.addTotals_eq_ok_iff`: a strict sum is the exact sum, and there is
  one exactly when all sums on the way fit.
- Theorem {lit}`Cart.addTotals?_eq_some_iff`: so it is for a checked sum.
- Theorem {lit}`Cart.total_eq_sum`: the total of a cart is the sum of the totals of its lines.
- Theorem {lit}`Cart.put_perm`: a line takes the place of the line of its item.
-/

namespace Till

namespace Bounded

/-- A word holds the integer. -/
def Fits (n : Int) : Prop :=
  least ≤ n ∧ n ≤ greatest

/-- An integer that is not negative fits up to the greatest word. -/
theorem fits_of_nonneg {n : Int} (low : 0 ≤ n) (high : n ≤ greatest) : Fits n := by
  unfold Fits least
  omega

end Bounded

namespace Money

/-- The value of an amount fits. -/
theorem value_fits (a : Money) : Bounded.Fits a.value :=
  Bounded.toInt_mem_range a.cents

@[simp]
theorem value_zero : zero.value = 0 :=
  rfl

/-- There is an amount of a value that fits. -/
theorem exists_value {n : Int} (h : Bounded.Fits n) : ∃ a : Money, a.value = n :=
  ⟨⟨Int64.ofInt n⟩, Bounded.toInt_ofInt h.1 h.2⟩

/-- A value that fits is the result of the operation that led to it. -/
theorem ofResult_eq_ok_of_fits (operation : Operation) {n : Int} (h : Bounded.Fits n) :
    ∃ a, ofResult operation n = .ok a ∧ a.value = n := by
  obtain ⟨a, ha⟩ := exists_value h
  exact ⟨a, ofResult_eq_ok_iff.2 ha, ha⟩

/-- An amount without its shortfall is the greater one of nothing and the amount. -/
theorem value_maxZero (a : Money) : a.maxZero.value = max 0 a.value := by
  unfold maxZero
  by_cases h : a.cents < 0
  · rw [if_pos h, value_zero]
    rw [Int64.lt_iff_toInt_lt, Int64.toInt_zero] at h
    exact (max_eq_left h.le).symm
  · rw [if_neg h]
    rw [Int64.lt_iff_toInt_lt, Int64.toInt_zero] at h
    exact (max_eq_right (not_lt.1 h)).symm

end Money

namespace Line

/-- The exact price of the whole line. -/
def exactTotal (line : Line) : Int :=
  line.unitPrice.value * line.quantity.toInt

/-- A line has a total when its exact total fits. -/
theorem exists_total_eq_ok {line : Line} (h : Bounded.Fits line.exactTotal) :
    ∃ amount, line.total = .ok amount ∧ amount.value = line.exactTotal :=
  Money.ofResult_eq_ok_of_fits .multiply h

/-- The checked total of a line is the exact one. -/
theorem total?_eq_some_iff {line : Line} {amount : Money} :
    line.total? = some amount ↔ amount.value = line.exactTotal :=
  Money.checkedTimes_eq_some_iff

end Line

namespace Cart

/-- The exact total of some lines. -/
def exactTotal (lines : List Line) : Int :=
  (lines.map Line.exactTotal).sum

@[simp]
theorem exactTotal_nil : exactTotal [] = 0 :=
  rfl

@[simp]
theorem exactTotal_cons (line : Line) (rest : List Line) :
    exactTotal (line :: rest) = line.exactTotal + exactTotal rest := by
  simp [exactTotal]

/-- The order of the lines does not matter for the exact total. -/
theorem exactTotal_perm {first second : List Line} (h : first.Perm second) :
    exactTotal first = exactTotal second :=
  (h.map Line.exactTotal).sum_eq

/-! ## Sums on the way -/

/-- Every total of a line fits, and so does every sum when the totals are added to an
amount from the left. -/
def SumsFit (amount : Int) : List Line → Prop
  | [] => True
  | line :: rest =>
    Bounded.Fits line.exactTotal ∧ Bounded.Fits (amount + line.exactTotal) ∧
      SumsFit (amount + line.exactTotal) rest

/-- A strict sum is the exact sum, and there is one exactly when all sums on the way
fit. -/
theorem addTotals_eq_ok_iff {amount total : Money} {lines : List Line} :
    addTotals amount lines = .ok total ↔
      SumsFit amount.value lines ∧ total.value = amount.value + exactTotal lines := by
  induction lines generalizing amount with
  | nil =>
    simp only [addTotals, List.foldlM_nil, pure, Except.pure, SumsFit, true_and,
      exactTotal_nil, add_zero, Except.ok.injEq, Money.value_inj]
    exact eq_comm
  | cons line rest ih =>
    simp only [addTotals, List.foldlM_cons, bind_eq_ok_iff] at ih ⊢
    constructor
    · intro hall
      rcases hall with ⟨sum, ⟨lineTotal, hline, hsum⟩, hrest⟩
      have hline' : lineTotal.value = line.exactTotal := Line.total_eq_ok_iff.1 hline
      have hsum' : sum.value = amount.value + line.exactTotal := by
        rw [← hline']
        exact Money.add_eq_ok_iff.1 hsum
      obtain ⟨hfit, htotal⟩ := ih.1 hrest
      rw [hsum'] at hfit htotal
      refine ⟨⟨?_, ?_, hfit⟩, ?_⟩
      · rw [← hline']
        exact lineTotal.value_fits
      · rw [← hsum']
        exact sum.value_fits
      · rw [htotal, exactTotal_cons, add_assoc]
    · intro hall
      rcases hall with ⟨⟨hline, hsum, hrest⟩, htotal⟩
      obtain ⟨lineTotal, hlineTotal, hvalue⟩ := Line.exists_total_eq_ok hline
      rw [← hvalue] at hsum
      obtain ⟨sum, hsumTotal, hsumValue⟩ :=
        Money.ofResult_eq_ok_of_fits .add hsum
      refine ⟨sum, ⟨lineTotal, hlineTotal, hsumTotal⟩, ih.2 ⟨?_, ?_⟩⟩
      · rw [hsumValue, hvalue]
        exact hrest
      · rw [htotal, hsumValue, hvalue, exactTotal_cons, add_assoc]

/-- A checked sum is the exact sum, and there is one exactly when all sums on the way
fit. -/
theorem addTotals?_eq_some_iff {amount total : Money} {lines : List Line} :
    addTotals? amount lines = .ok (some total) ↔
      SumsFit amount.value lines ∧ total.value = amount.value + exactTotal lines := by
  induction lines generalizing amount with
  | nil =>
    simp only [addTotals?, SumsFit, true_and, exactTotal_nil, add_zero, Except.ok.injEq,
      Option.some.injEq, Money.value_inj]
    exact eq_comm
  | cons line rest ih =>
    simp only [addTotals?, bind_eq_ok_iff]
    constructor
    · intro hall
      rcases hall with ⟨lineTotal, hline, hrest⟩
      have hline' : lineTotal.value = line.exactTotal := Line.total_eq_ok_iff.1 hline
      cases hsum : amount.checkedAdd lineTotal with
      | none => simp [hsum, pure, Except.pure] at hrest
      | some sum =>
        rw [hsum] at hrest
        have hsum' : sum.value = amount.value + line.exactTotal := by
          rw [← hline']
          exact Money.checkedAdd_eq_some_iff.1 hsum
        obtain ⟨hfit, htotal⟩ := ih.1 hrest
        rw [hsum'] at hfit htotal
        refine ⟨⟨?_, ?_, hfit⟩, ?_⟩
        · rw [← hline']
          exact lineTotal.value_fits
        · rw [← hsum']
          exact sum.value_fits
        · rw [htotal, exactTotal_cons, add_assoc]
    · intro hall
      rcases hall with ⟨⟨hline, hsum, hrest⟩, htotal⟩
      obtain ⟨lineTotal, hlineTotal, hvalue⟩ := Line.exists_total_eq_ok hline
      obtain ⟨sum, hsumValue⟩ := Money.exists_value hsum
      have hadd : amount.checkedAdd lineTotal = some sum := by
        rw [Money.checkedAdd_eq_some_iff, hsumValue, hvalue]
      refine ⟨lineTotal, hlineTotal, ?_⟩
      rw [hadd]
      refine ih.2 ⟨?_, ?_⟩
      · rw [hsumValue]
        exact hrest
      · rw [htotal, hsumValue, exactTotal_cons, add_assoc]

/-- A checked sum does not fault where every total of a line fits. -/
theorem exists_addTotals?_eq_ok {amount : Money} {lines : List Line}
    (h : ∀ line ∈ lines, Bounded.Fits line.exactTotal) :
    ∃ result, addTotals? amount lines = .ok result := by
  induction lines generalizing amount with
  | nil => exact ⟨some amount, rfl⟩
  | cons line rest ih =>
    simp only [List.mem_cons, forall_eq_or_imp] at h
    obtain ⟨lineTotal, hline, _⟩ := Line.exists_total_eq_ok h.1
    simp only [addTotals?, hline, ok_bind]
    cases amount.checkedAdd lineTotal with
    | none => exact ⟨none, rfl⟩
    | some sum => exact ih h.2

/-- The sums on the way through some lines are those through the first ones, and from there
through the others. -/
theorem sumsFit_append {amount : Int} {front back : List Line} :
    SumsFit amount (front ++ back) ↔
      SumsFit amount front ∧ SumsFit (amount + exactTotal front) back := by
  induction front generalizing amount with
  | nil => simp [SumsFit]
  | cons line rest ih =>
    simp only [List.cons_append, SumsFit, ih, exactTotal_cons, add_assoc, and_assoc]

/-- The last of some sums that fit does. -/
theorem SumsFit.fits_total {amount : Int} {lines : List Line} (h : SumsFit amount lines)
    (hamount : Bounded.Fits amount) : Bounded.Fits (amount + exactTotal lines) := by
  induction lines generalizing amount with
  | nil => simpa using hamount
  | cons line rest ih =>
    rw [exactTotal_cons, ← add_assoc]
    exact ih h.2.2 h.2.1

/-- A cart has a total exactly when all sums on the way fit, and it is the exact one. -/
theorem total_eq_ok_iff {cart : Cart} {total : Money} :
    cart.total = .ok total ↔ SumsFit 0 cart.lines ∧ total.value = exactTotal cart.lines := by
  rw [Cart.total, addTotals_eq_ok_iff, Money.value_zero, zero_add]

/-- Where every line has a total, these are what is added to an amount. -/
theorem addTotals_eq_foldlM {lines : List Line} {totals : List Money}
    (h : lines.mapM Line.total = .ok totals) (amount : Money) :
    addTotals amount lines = totals.foldlM Money.add amount := by
  induction lines generalizing amount totals with
  | nil =>
    cases h
    rfl
  | cons line rest ih =>
    simp only [List.mapM_cons, bind_eq_ok_iff] at h
    rcases h with ⟨lineTotal, hline, others, hothers, htotals⟩
    cases htotals
    rw [addTotals, List.foldlM_cons, List.foldlM_cons, hline, ok_bind]
    cases amount.add lineTotal with
    | error fault => rfl
    | ok sum => exact ih hothers sum

/-- The total of a cart is then the sum of the totals of its lines. -/
theorem total_eq_sum {cart : Cart} {totals : List Money}
    (h : cart.lines.mapM Line.total = .ok totals) : cart.total = Money.sum totals :=
  addTotals_eq_foldlM h .zero

/-- Where nothing is negative all sums on the way fit if the last one does. -/
theorem sumsFit_of_nonneg {amount : Int} {lines : List Line} (hamount : 0 ≤ amount)
    (hlines : ∀ line ∈ lines, 0 ≤ line.exactTotal)
    (htotal : amount + exactTotal lines ≤ Bounded.greatest) : SumsFit amount lines := by
  induction lines generalizing amount with
  | nil => trivial
  | cons line rest ih =>
    simp only [List.mem_cons, forall_eq_or_imp] at hlines
    have hrest : 0 ≤ exactTotal rest := by
      apply List.sum_nonneg
      intro total htotal
      obtain ⟨other, hother, rfl⟩ := List.mem_map.1 htotal
      exact hlines.2 other hother
    rw [exactTotal_cons] at htotal
    refine ⟨?_, ?_, ih (by omega) hlines.2 (by omega)⟩
    · exact Bounded.fits_of_nonneg hlines.1 (by omega)
    · exact Bounded.fits_of_nonneg (by omega) (by omega)

/-! ## A line in its place -/

/-- A line takes the place of the line of its item; the others stay. -/
theorem put_perm (line : Line) (lines : List Line) :
    (put line lines).Perm
      (line :: lines.eraseP fun other => other.itemId == line.itemId) := by
  induction lines with
  | nil => exact .refl _
  | cons first rest ih =>
    by_cases h : first.itemId = line.itemId
    · simp [put, h]
    · rw [put, if_neg h, List.eraseP_cons_of_neg (by simpa using h)]
      exact (ih.cons first).trans (.swap line first _)

/-- The exact total with a line in its place. -/
theorem exactTotal_put (cart : Cart) (line : Line) :
    exactTotal (put line cart.lines) =
      line.exactTotal + exactTotal (cart.otherLines line.itemId) := by
  rw [exactTotal_perm (put_perm line cart.lines), exactTotal_cons, otherLines]

end Cart
end Till
