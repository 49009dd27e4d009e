import Till.Cart.Payment
import Till.Proofs.Cart.Totals

/-!
# What the operations on a cart do

An operation on a cart either has a new cart, which differs from the old one in one
place, or none.  Each theorem here says in one statement when there is one and what
it is, so that nothing else has to look into the operation again.

Main results:

- Theorem {lit}`Cart.mergedLine_eq_ok_iff`: more of an item goes into its line.
- Theorem {lit}`Cart.addItem_eq_ok_iff`: what it takes to add an item, and what the cart
  is then.
- Theorems {lit}`Cart.removeLine_eq_ok_iff` and {lit}`Cart.setTendered_eq_ok_iff`: so for
  a line that leaves the cart and for a tender.
-/

namespace Till
namespace Cart

variable {ceiling : Option Int64} {cart : Cart}

/-! ## Finding lines -/

/-- The line that is found is one of the cart and of the item. -/
theorem of_line?_eq_some {id : String} {line : Line} (h : cart.line? id = some line) :
    line ∈ cart.lines ∧ line.itemId = id :=
  ⟨List.mem_of_find?_eq_some h, by simpa using List.find?_some h⟩

/-- No line is found when no line is of the item. -/
theorem line?_eq_none_iff {id : String} :
    cart.line? id = none ↔ ∀ line ∈ cart.lines, line.itemId ≠ id := by
  simp [line?, List.find?_eq_none]

/-! ## Adding -/

/-- A quantity passes when its rule holds. -/
theorem checkQuantity_eq_ok_iff {amount : Int64} :
    checkQuantity amount ceiling = .ok () ↔
      1 ≤ amount.toInt ∧ ∀ max ∈ ceiling, amount.toInt ≤ max.toInt := by
  rw [← Rules.quantity_eq_ok_iff]
  unfold checkQuantity
  cases Rules.quantity amount ceiling with
  | error rule => simp [Outcome.refuse]
  | ok _ => simp

/-- A quantity passes or is refused. -/
theorem checkQuantity_answered {amount : Int64} :
    (checkQuantity amount ceiling).Answered := by
  unfold checkQuantity
  cases Rules.quantity amount ceiling <;> trivial

/-- The lines other than the line of an item are of other items where no two lines are
of the same one. -/
theorem ne_of_mem_otherLines {lines : List Line} (h : (lines.map Line.itemId).Nodup)
    {id : String} {other : Line}
    (hother : other ∈ lines.eraseP fun line => line.itemId == id) : other.itemId ≠ id := by
  induction lines with
  | nil => simp at hother
  | cons first rest ih =>
    rw [List.map_cons, List.nodup_cons] at h
    by_cases hfirst : first.itemId = id
    · rw [List.eraseP_cons_of_pos (by simpa using hfirst)] at hother
      intro hid
      apply h.1
      rw [hfirst, ← hid]
      exact List.mem_map_of_mem hother
    · rw [List.eraseP_cons_of_neg (by simpa using hfirst)] at hother
      rcases List.mem_cons.1 hother with rfl | hother
      · exact hfirst
      · exact ih h.2 hother

/-- The lines with one line in its place are this line and the lines of other items. -/
theorem mem_put {lines : List Line} (h : (lines.map Line.itemId).Nodup) {line other : Line}
    (hother : other ∈ put line lines) :
    other = line ∨ (other ∈ lines ∧ other.itemId ≠ line.itemId) := by
  rcases List.mem_cons.1 ((put_perm line lines).mem_iff.1 hother) with heq | hother
  · exact Or.inl heq
  · exact Or.inr ⟨List.mem_of_mem_eraseP hother, ne_of_mem_otherLines h hother⟩

/-- A line in its place leaves one line for an item. -/
theorem ids_nodup_put {lines : List Line} (h : (lines.map Line.itemId).Nodup) (line : Line) :
    ((put line lines).map Line.itemId).Nodup := by
  have hothers := h.sublist
    ((List.eraseP_sublist (p := fun other : Line => other.itemId == line.itemId)).map
      Line.itemId)
  rw [((put_perm line lines).map Line.itemId).nodup_iff, List.map_cons, List.nodup_cons]
  refine ⟨?_, hothers⟩
  intro hmem
  rcases List.mem_map.1 hmem with ⟨other, hother, hid⟩
  exact ne_of_mem_otherLines h hother hid

/-- The items with a line are those from before and the one of the line in its place. -/
theorem mem_ids_put {lines : List Line} {line : Line} {id : String} :
    id ∈ (put line lines).map Line.itemId ↔
      id ∈ lines.map Line.itemId ∨ id = line.itemId := by
  by_cases hknown : line.itemId ∈ lines.map Line.itemId
  · rw [map_itemId_put hknown]
    constructor
    · exact Or.inl
    · intro h
      rcases h with h | h
      · exact h
      · rw [h]
        exact hknown
  · rw [put_of_forall_ne]
    · simp
    · intro other hother hid
      exact hknown (List.mem_map.2 ⟨other, hother, hid⟩)

/-- The line of an item after a quantity is added: a new one, or the old one with the
exact sum of the quantities. -/
theorem mergedLine_eq_ok_iff {item : Item} {amount : Int64} {line : Line} :
    cart.mergedLine item amount ceiling = .ok line ↔
      (cart.line? item.id = none ∧ line = Line.ofItem item amount) ∨
      ∃ old, cart.line? item.id = some old ∧ line = { old with quantity := line.quantity } ∧
        line.quantity.toInt = old.quantity.toInt + amount.toInt ∧
        checkQuantity line.quantity ceiling = .ok () := by
  unfold mergedLine
  cases cart.line? item.id with
  | none => simp [eq_comm]
  | some old =>
    dsimp only
    cases hmerged : Bounded.ofInt? (old.quantity.toInt + amount.toInt) with
    | none =>
      have hout := Bounded.ofInt?_eq_none_iff.1 hmerged
      constructor
      · intro h
        cases h
      · intro hcase
        rcases hcase with ⟨h, _⟩ | ⟨old', hold, _, hsum, _⟩
        · cases h
        · cases hold
          have hin := Bounded.toInt_mem_range line.quantity
          omega
    | some merged =>
      have hsum := Bounded.ofInt?_eq_some_iff.1 hmerged
      simp only [bind_eq_ok_iff, pure, Except.pure, Except.ok.injEq]
      constructor
      · intro hall
        rcases hall with ⟨_, hcheck, rfl⟩
        exact Or.inr ⟨old, rfl, rfl, hsum, hcheck⟩
      · intro hcase
        rcases hcase with ⟨h, _⟩ | ⟨old', hold, hline, hsum', hcheck⟩
        · cases h
        · cases hold
          have hquantity : line.quantity = merged := by
            rw [← Int64.toInt_inj, hsum, hsum']
          rw [hquantity] at hline hcheck
          exact ⟨(), hcheck, hline.symm⟩

/-- The total with a line in place is the exact one, and there is one exactly when all
sums on the way fit. -/
theorem totalWith?_eq_some_iff {line : Line} {total : Money} :
    cart.totalWith? line = .ok (some total) ↔
      Bounded.Fits line.exactTotal ∧
        SumsFit line.exactTotal (cart.otherLines line.itemId) ∧
        total.value = exactTotal (put line cart.lines) := by
  rw [exactTotal_put]
  unfold totalWith?
  cases hline : line.total? with
  | none =>
    have hout : ¬ Bounded.Fits line.exactTotal := by
      intro hfits
      obtain ⟨amount, hamount⟩ := Money.exists_value hfits
      rw [Line.total?_eq_some_iff.2 hamount] at hline
      cases hline
    simp [hout]
  | some lineTotal =>
    have hvalue := Line.total?_eq_some_iff.1 hline
    have hfits := lineTotal.value_fits
    rw [hvalue] at hfits
    simp [addTotals?_eq_some_iff, hvalue, hfits]

/-- The line after adding, its place and the checks that it passed. -/
theorem addItem_eq_ok_iff {item : Item} {amount : Int64} {after : Cart} :
    cart.addItem item amount ceiling = .ok after ↔
      checkQuantity amount ceiling = .ok () ∧
        ∃ line, cart.mergedLine item amount ceiling = .ok line ∧
          (∃ total, cart.totalWith? line = .ok (some total)) ∧
          after = { cart with lines := put line cart.lines } := by
  simp only [addItem, bind_eq_ok_iff]
  constructor
  · intro hall
    rcases hall with ⟨_, hquantity, line, hline, result, hresult, hafter⟩
    refine ⟨hquantity, line, hline, ?_⟩
    cases htotal : cart.totalWith? line with
    | error fault => simp [htotal, Outcome.ofFaulting] at hresult
    | ok total? =>
      rw [htotal] at hresult
      cases hresult
      cases result with
      | none => simp [Outcome.refuse] at hafter
      | some total =>
        cases hafter
        exact ⟨⟨total, rfl⟩, rfl⟩
  · intro hall
    rcases hall with ⟨hquantity, line, hline, ⟨total, htotal⟩, rfl⟩
    exact ⟨(), hquantity, line, hline, some total, by rw [htotal]; rfl, rfl⟩

/-- A line of an item is found or refused. -/
theorem mergedLine_answered {item : Item} {amount : Int64} :
    (cart.mergedLine item amount ceiling).Answered := by
  unfold mergedLine
  cases cart.line? item.id with
  | none => trivial
  | some old =>
    dsimp only
    cases Bounded.ofInt? (old.quantity.toInt + amount.toInt) with
    | none => trivial
    | some merged => exact checkQuantity_answered.bind fun _ _ => trivial

/-- Adding does not fault where the totals of the lines fit. -/
theorem addItem_answered {item : Item} {amount : Int64}
    (h : ∀ line ∈ cart.lines, Bounded.Fits line.exactTotal) :
    (cart.addItem item amount ceiling).Answered := by
  apply checkQuantity_answered.bind
  intro _ _
  apply mergedLine_answered.bind
  intro line _
  have htotal : ∃ result, cart.totalWith? line = .ok result := by
    unfold totalWith?
    cases line.total? with
    | none => exact ⟨none, rfl⟩
    | some lineTotal =>
      exact exists_addTotals?_eq_ok fun other hother => h other (List.mem_of_mem_eraseP hother)
  obtain ⟨result, hresult⟩ := htotal
  rw [hresult]
  cases result <;> trivial

/-! ## Removing and tendering -/

/-- A line leaves the cart when there is one at the position, and only that line. -/
theorem removeLine_eq_ok_iff {index : Int64} {line : Line} {after : Cart} :
    cart.removeLine index = .ok (line, after) ↔
      0 ≤ index.toInt ∧ cart.lines[index.toInt.toNat]? = some line ∧
        after = { cart with lines := cart.lines.eraseIdx index.toInt.toNat } := by
  unfold removeLine
  split
  · rename_i hindex
    cases cart.lines[index.toInt.toNat]? with
    | none => simp [Outcome.refuse]
    | some found =>
      simp only [Except.ok.injEq, Prod.mk.injEq, Option.some.injEq, hindex, true_and]
      constructor
      · intro hall
        rcases hall with ⟨rfl, rfl⟩
        exact ⟨rfl, rfl⟩
      · intro hall
        rcases hall with ⟨rfl, rfl⟩
        exact ⟨rfl, rfl⟩
  · rename_i hindex
    simp [Outcome.refuse, hindex]

/-- A line leaves the cart or the position is refused. -/
theorem removeLine_answered {index : Int64} : (cart.removeLine index).Answered := by
  unfold removeLine
  split
  · cases cart.lines[index.toInt.toNat]? <;> trivial
  · trivial

/-- A tender is taken when it is not negative and, where the policy says so, not less
than the total; it is all that changes. -/
theorem setTendered_eq_ok_iff {cents : Int64} {policy : ChangePolicy} {after : Cart} :
    cart.setTendered cents policy = .ok after ↔
      0 ≤ cents.toInt ∧
        (policy = .rejectInsufficient →
          ∃ total, cart.total = .ok total ∧ total.value ≤ cents.toInt) ∧
        after = { cart with tendered := ⟨cents⟩ } := by
  rw [← Rules.tendered_eq_ok_iff]
  unfold setTendered
  cases Rules.tendered cents with
  | error rule => simp [Outcome.refuse]
  | ok _ =>
    cases policy with
    | report => simp [eq_comm]
    | clampToZero => simp [eq_comm]
    | rejectInsufficient =>
      cases cart.total with
      | error fault => simp [Outcome.ofFaulting]
      | ok total =>
        simp only [Outcome.ofFaulting, ok_bind, Int64.lt_iff_toInt_lt]
        split
        · rename_i hless
          simp [Outcome.refuse, Money.value, hless]
        · rename_i hless
          simp only [pure, Except.pure, Except.ok.injEq, true_and, forall_const,
            exists_eq_left', Money.value]
          constructor
          · intro heq
            rcases heq with rfl
            exact ⟨by omega, rfl⟩
          · intro hall
            rcases hall with ⟨_, rfl⟩
            rfl

end Cart
end Till
