import Till.Cart.Snapshot
import Till.Proofs.Cart.Operations

/-!
# Well-formed carts

A cart that is only ever changed by its operations has one line for an item, no
negative price, quantities within the ceiling, and an exact total that fits into a
word.  On such a cart no operation faults: whatever is added up again later, in
whatever order, stays below the total that was checked when the last line was added.

Main results:

- Theorem {lit}`Cart.WellFormed.addItem`: adding an item of a price that is not negative
  neither faults nor leaves the well-formed carts.
- Theorems {lit}`Cart.WellFormed.payment_eq_ok` and
  {lit}`Cart.WellFormed.snapshot_eq_ok`: a well-formed cart has a payment and a snapshot.
-/

namespace Till

/-- A line that its rules allow: the price is not negative, and the quantity is
positive and within the ceiling. -/
structure Line.Allowed (ceiling : Option Int64) (line : Line) : Prop where
  price_nonneg : 0 ≤ line.unitPrice.value
  quantity_pos : 1 ≤ line.quantity.toInt
  quantity_le : ∀ max ∈ ceiling, line.quantity.toInt ≤ max.toInt

/-- The total of an allowed line is not negative. -/
theorem Line.Allowed.exactTotal_nonneg {ceiling : Option Int64} {line : Line}
    (h : line.Allowed ceiling) : 0 ≤ line.exactTotal := by
  have hquantity := h.quantity_pos
  exact Int.mul_nonneg h.price_nonneg (by omega)

namespace Cart

/-- A cart as its operations leave it. -/
structure WellFormed (ceiling : Option Int64) (cart : Cart) : Prop where
  ids_nodup : (cart.lines.map Line.itemId).Nodup
  allowed : ∀ line ∈ cart.lines, line.Allowed ceiling
  total_le : exactTotal cart.lines ≤ Bounded.greatest
  tendered_nonneg : 0 ≤ cart.tendered.value

variable {ceiling : Option Int64} {cart : Cart}

/-- A new cart is well-formed. -/
theorem wellFormed_new : WellFormed ceiling {} where
  ids_nodup := List.nodup_nil
  allowed := by simp
  total_le := by decide
  tendered_nonneg := le_refl 0

/-! ## Sums of allowed lines -/

/-- The exact total of allowed lines is not negative. -/
theorem exactTotal_nonneg {lines : List Line} (h : ∀ line ∈ lines, line.Allowed ceiling) :
    0 ≤ exactTotal lines := by
  apply List.sum_nonneg
  intro total htotal
  obtain ⟨line, hline, rfl⟩ := List.mem_map.1 htotal
  exact (h line hline).exactTotal_nonneg

/-- A part of allowed lines has no greater total than all of them. -/
theorem exactTotal_le_of_sublist {part lines : List Line}
    (h : ∀ line ∈ lines, line.Allowed ceiling) (hpart : part.Sublist lines) :
    exactTotal part ≤ exactTotal lines := by
  apply (hpart.map Line.exactTotal).sum_le_sum
  intro total htotal
  obtain ⟨line, hline, rfl⟩ := List.mem_map.1 htotal
  exact (h line hline).exactTotal_nonneg

/-- The total of a well-formed cart fits. -/
theorem WellFormed.total_fits (h : cart.WellFormed ceiling) :
    Bounded.Fits (exactTotal cart.lines) :=
  Bounded.fits_of_nonneg (exactTotal_nonneg h.allowed) h.total_le

/-- The total of every line of a well-formed cart fits. -/
theorem WellFormed.line_fits (h : cart.WellFormed ceiling) {line : Line}
    (hline : line ∈ cart.lines) : Bounded.Fits line.exactTotal := by
  have hle := exactTotal_le_of_sublist h.allowed (List.singleton_sublist.2 hline)
  rw [exactTotal_cons, exactTotal_nil, add_zero] at hle
  exact Bounded.fits_of_nonneg (h.allowed line hline).exactTotal_nonneg
    (hle.trans h.total_le)

/-- A well-formed cart stays so when some of its lines leave it. -/
theorem WellFormed.of_sublist (h : cart.WellFormed ceiling) {lines : List Line}
    (hlines : lines.Sublist cart.lines) :
    WellFormed ceiling { cart with lines } where
  ids_nodup := h.ids_nodup.sublist (hlines.map Line.itemId)
  allowed line hline := h.allowed line (hlines.subset hline)
  total_le := (exactTotal_le_of_sublist h.allowed hlines).trans h.total_le
  tendered_nonneg := h.tendered_nonneg

/-! ## Operations -/

/-- A line that the rules allow may take its place when the exact total fits then. -/
theorem WellFormed.put (h : cart.WellFormed ceiling) {line : Line}
    (hline : line.Allowed ceiling)
    (htotal : exactTotal (Cart.put line cart.lines) ≤ Bounded.greatest) :
    WellFormed ceiling { cart with lines := Cart.put line cart.lines } where
  ids_nodup := ids_nodup_put h.ids_nodup line
  allowed other hother := by
    rcases mem_put h.ids_nodup hother with rfl | ⟨hother, _⟩
    · exact hline
    · exact h.allowed other hother
  total_le := htotal
  tendered_nonneg := h.tendered_nonneg

/-- The line that adding an item leads to is allowed. -/
theorem WellFormed.mergedLine_allowed (h : cart.WellFormed ceiling) {item : Item}
    {amount : Int64} {line : Line} (hprice : 0 ≤ item.unitPrice.value)
    (hamount : checkQuantity amount ceiling = .ok ())
    (hline : cart.mergedLine item amount ceiling = .ok line) : line.Allowed ceiling := by
  rcases mergedLine_eq_ok_iff.1 hline with ⟨_, rfl⟩ | ⟨old, hold, hline, _, hquantity⟩
  · obtain ⟨hpos, hle⟩ := checkQuantity_eq_ok_iff.1 hamount
    exact ⟨hprice, hpos, hle⟩
  · obtain ⟨hpos, hle⟩ := checkQuantity_eq_ok_iff.1 hquantity
    have hprice' := (h.allowed old (of_line?_eq_some hold).1).price_nonneg
    rw [hline]
    exact ⟨hprice', hpos, hle⟩

/-- Adding an item of a price that is not negative neither faults nor leaves the
well-formed carts. -/
theorem WellFormed.addItem (h : cart.WellFormed ceiling) {item : Item} {amount : Int64}
    (hprice : 0 ≤ item.unitPrice.value) :
    (cart.addItem item amount ceiling).Ensures (WellFormed ceiling) := by
  apply Outcome.Answered.ensures
  · exact addItem_answered fun line hline => h.line_fits hline
  · intro after hafter
    obtain ⟨hamount, line, hline, ⟨total, htotal⟩, rfl⟩ := addItem_eq_ok_iff.1 hafter
    obtain ⟨_, _, hvalue⟩ := totalWith?_eq_some_iff.1 htotal
    refine h.put (h.mergedLine_allowed hprice hamount hline) ?_
    rw [← hvalue]
    exact total.value_fits.2

/-- A line may leave a well-formed cart. -/
theorem WellFormed.removeLine (h : cart.WellFormed ceiling) {index : Int64} :
    (cart.removeLine index).Ensures fun result => result.2.WellFormed ceiling := by
  apply removeLine_answered.ensures
  rintro ⟨line, after⟩ hafter
  obtain ⟨_, _, rfl⟩ := removeLine_eq_ok_iff.1 hafter
  exact h.of_sublist (List.eraseIdx_sublist _ _)

/-- All lines may leave a well-formed cart. -/
theorem WellFormed.clear (h : cart.WellFormed ceiling) : cart.clear.WellFormed ceiling :=
  h.of_sublist (List.nil_sublist _)

/-! ## Figures -/

/-- A well-formed cart has a total, the exact one. -/
theorem WellFormed.total_eq_ok (h : cart.WellFormed ceiling) :
    ∃ total, cart.total = .ok total ∧ total.value = exactTotal cart.lines := by
  obtain ⟨total, htotal⟩ := Money.exists_value h.total_fits
  have hsums : SumsFit 0 cart.lines :=
    sumsFit_of_nonneg (le_refl 0) (fun line hline => (h.allowed line hline).exactTotal_nonneg)
      (by simpa using h.total_le)
  exact ⟨total, total_eq_ok_iff.2 ⟨hsums, htotal⟩, htotal⟩

/-- A tender for a well-formed cart is refused when it is negative or, where the policy says
so, less than the exact total, which the refusal names; otherwise it is set. -/
theorem WellFormed.setTendered_eq (h : cart.WellFormed ceiling) (cents : Int64)
    (policy : ChangePolicy) :
    cart.setTendered cents policy =
      if cents.toInt < 0 then .refuse (.invalidAmount (.mustBeNonNegative "given_cents"))
      else if policy = .rejectInsufficient ∧ cents.toInt < exactTotal cart.lines then
        .refuse (.invalidAmount
          (.belowMinimum "given_cents" (Int64.ofInt (exactTotal cart.lines))))
      else .ok { cart with tendered := ⟨cents⟩ } := by
  obtain ⟨total, htotal, hvalue⟩ := h.total_eq_ok
  have hcents : Int64.ofInt (exactTotal cart.lines) = total.cents := by
    rw [← hvalue]
    exact Int64.ofInt_toInt total.cents
  rw [hcents, ← hvalue]
  unfold Cart.setTendered Rules.tendered
  simp only [Int64.lt_iff_toInt_lt, Int64.toInt_zero]
  by_cases hnegative : cents.toInt < 0
  · simp only [hnegative, if_true]
  · cases policy with
    | report => simp [hnegative]
    | clampToZero => simp [hnegative]
    | rejectInsufficient =>
      simp only [hnegative, if_false, htotal, Outcome.ofFaulting, ok_bind, true_and]
      rfl

/-- A tender may be set on a well-formed cart. -/
theorem WellFormed.setTendered (h : cart.WellFormed ceiling) {cents : Int64}
    {policy : ChangePolicy} :
    (cart.setTendered cents policy).Ensures (WellFormed ceiling) := by
  rw [h.setTendered_eq]
  by_cases hnegative : cents.toInt < 0
  · rw [if_pos hnegative]
    trivial
  · rw [if_neg hnegative]
    split
    · trivial
    · exact ⟨h.ids_nodup, h.allowed, h.total_le, not_lt.1 hnegative⟩

/-- A well-formed cart has a payment: the exact total, the tender, and the exact
difference as the policy reports it. -/
theorem WellFormed.payment_eq_ok (h : cart.WellFormed ceiling) (policy : ChangePolicy) :
    ∃ total difference,
      cart.payment policy = .ok ⟨total, cart.tendered, policy.adjust difference⟩ ∧
      total.value = exactTotal cart.lines ∧
      difference.value = cart.tendered.value - exactTotal cart.lines := by
  obtain ⟨total, htotal, hvalue⟩ := h.total_eq_ok
  have hfits : Bounded.Fits (cart.tendered.value - total.value) := by
    have htendered := h.tendered_nonneg
    have htendered' := cart.tendered.value_fits
    have htotal' := exactTotal_nonneg h.allowed
    have htotal_le := h.total_le
    unfold Bounded.Fits Bounded.least Bounded.greatest at *
    omega
  obtain ⟨difference, hdifference, hdifference'⟩ :=
    Money.ofResult_eq_ok_of_fits .subtract hfits
  refine ⟨total, difference, ?_, hvalue, ?_⟩
  · simp only [payment, htotal, ok_bind, Money.subtract, hdifference, pure, Except.pure]
  · rw [hdifference', hvalue]

/-- The figures of the payment for a well-formed cart are exact; only the clamping policy
leaves a shortfall out of the change. -/
theorem WellFormed.payment_exact (h : cart.WellFormed ceiling) (policy : ChangePolicy) :
    ∃ payment, cart.payment policy = .ok payment ∧
      payment.total.value = exactTotal cart.lines ∧ payment.given = cart.tendered ∧
      payment.change.value =
        if policy = .clampToZero then max 0 (cart.tendered.value - exactTotal cart.lines)
        else cart.tendered.value - exactTotal cart.lines := by
  obtain ⟨total, difference, hpayment, htotal, hdifference⟩ := h.payment_eq_ok policy
  refine ⟨_, hpayment, htotal, rfl, ?_⟩
  rw [← hdifference]
  cases policy with
  | clampToZero => exact Money.value_maxZero difference
  | report => rfl
  | rejectInsufficient => rfl

/-- A line with a total has a line in the snapshot. -/
theorem exists_mapM_ofLine_eq_ok {lines : List Line}
    (h : ∀ line ∈ lines, Bounded.Fits line.exactTotal) :
    ∃ rows, lines.mapM SnapshotLine.ofLine = .ok rows := by
  induction lines with
  | nil => exact ⟨[], rfl⟩
  | cons line rest ih =>
    simp only [List.mem_cons, forall_eq_or_imp] at h
    obtain ⟨total, htotal, _⟩ := Line.exists_total_eq_ok h.1
    obtain ⟨rows, hrows⟩ := ih h.2
    refine ⟨⟨line.itemId, line.name, line.unitPrice, line.quantity, total⟩ :: rows, ?_⟩
    simp only [List.mapM_cons, hrows, SnapshotLine.ofLine, htotal, ok_bind, pure, Except.pure]

/-- A well-formed cart has a snapshot. -/
theorem WellFormed.snapshot_eq_ok (h : cart.WellFormed ceiling) (policy : ChangePolicy) :
    ∃ snapshot, Snapshot.ofCart cart policy = .ok snapshot := by
  obtain ⟨total, difference, hpayment, _⟩ := h.payment_eq_ok policy
  obtain ⟨rows, hrows⟩ := exists_mapM_ofLine_eq_ok fun line hline => h.line_fits hline
  refine ⟨⟨rows, ⟨total, cart.tendered, policy.adjust difference⟩⟩, ?_⟩
  simp only [Snapshot.ofCart, hpayment, ok_bind, hrows, pure, Except.pure]

end Cart
end Till
