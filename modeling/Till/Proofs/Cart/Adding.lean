import Till.Proofs.Cart.WellFormed

/-!
# Adding to a well-formed cart

The checks that adding an item goes through are made one after the other, in words, and the
total is added up in an order of its own.  In a well-formed cart none of them is stricter than
the last one: a quantity can be added exactly when the line of the item and the whole cart are
in range afterwards, in unbounded integers.

Main results:

- Theorem {lit}`Cart.of_addItem_eq_ok`: which line has changed, and how, when an item has been
  added.
- Theorem {lit}`Cart.line?_addItem`: the line of each item then.
- Theorem {lit}`Cart.WellFormed.exists_addItem_iff`: a quantity can be added exactly when it is
  positive and there is room for it.
- Theorem {lit}`Cart.WellFormed.addItem_eq_refuse`: a positive quantity without room is refused as
  too large, whichever check finds out.
-/

namespace Till
namespace Cart

variable {ceiling bound : Option Int64} {cart after : Cart} {item : Item} {amount : Int64}

/-! ## A line in its place -/

/-- A line that is found stands behind lines of other items. -/
theorem exists_append_of_line? {id : String} {old : Line} (h : cart.line? id = some old) :
    ∃ front back, cart.lines = front ++ old :: back ∧ old.itemId = id ∧
      ∀ other ∈ front, other.itemId ≠ id := by
  rcases List.find?_eq_some_iff_append.1 h with ⟨hid, front, back, hlines, hfront⟩
  refine ⟨front, back, hlines, by simpa using hid, ?_⟩
  intro other hother
  simpa using hfront other hother

/-- A line takes the place of the first line of its item. -/
theorem put_append_cons {front back : List Line} {old line : Line}
    (hid : old.itemId = line.itemId) (hfront : ∀ other ∈ front, other.itemId ≠ line.itemId) :
    put line (front ++ old :: back) = front ++ line :: back := by
  induction front with
  | nil => simp [put, hid]
  | cons first rest ih =>
    simp only [List.mem_cons, forall_eq_or_imp] at hfront
    simp only [List.cons_append, put, if_neg hfront.1, ih hfront.2]

/-- The other lines are those in front of the first line of an item and those behind it. -/
theorem eraseP_append_cons {front back : List Line} {old : Line} {id : String}
    (hid : old.itemId = id) (hfront : ∀ other ∈ front, other.itemId ≠ id) :
    (front ++ old :: back).eraseP (fun line => line.itemId == id) = front ++ back := by
  rw [List.eraseP_append_right _ (by simpa using hfront),
    List.eraseP_cons_of_pos (by simpa using hid)]

/-- With a line in its place the line of each other item is the one from before. -/
theorem line?_put (line : Line) (id : String) :
    ({ cart with lines := put line cart.lines } : Cart).line? id =
      if id = line.itemId then some line else cart.line? id := by
  unfold line?
  induction cart.lines with
  | nil =>
    by_cases h : id = line.itemId
    · simp [put, h]
    · simp [put, h, Ne.symm h]
  | cons first rest ih =>
    by_cases hfirst : first.itemId = line.itemId
    · by_cases h : id = line.itemId
      · simp [put, hfirst, h]
      · simp [put, hfirst, h, Ne.symm h]
    · by_cases hid : first.itemId = id
      · have h : id ≠ line.itemId := hid ▸ hfirst
        simp [put, hid, h]
      · simpa [put, hfirst, hid] using ih

/-! ## What a cart has of an item -/

/-- The quantity of an item in a cart, nothing where it has no line. -/
def quantityOf (cart : Cart) (id : String) : Int :=
  match cart.line? id with
  | some line => line.quantity.toInt
  | none => 0

/-- The price at which an item goes into a cart: the one of its line, or its own where it has
no line yet. -/
def priceOf (cart : Cart) (item : Item) : Money :=
  match cart.line? item.id with
  | some line => line.unitPrice
  | none => item.unitPrice

/-- A well-formed cart has no negative quantity of an item. -/
theorem WellFormed.quantityOf_nonneg (h : cart.WellFormed bound) (id : String) :
    0 ≤ cart.quantityOf id := by
  unfold quantityOf
  cases hline : cart.line? id with
  | none => exact le_refl 0
  | some line =>
    have hpos := (h.allowed line (of_line?_eq_some hline).1).quantity_pos
    dsimp only
    omega

/-- An item goes into a well-formed cart at a price that is not negative. -/
theorem WellFormed.priceOf_nonneg (h : cart.WellFormed bound)
    (hprice : 0 ≤ item.unitPrice.value) : 0 ≤ (cart.priceOf item).value := by
  unfold priceOf
  cases hline : cart.line? item.id with
  | none => exact hprice
  | some line => exact (h.allowed line (of_line?_eq_some hline).1).price_nonneg

/-- The exact total of a cart is that of an item and those of the others. -/
theorem exactTotal_otherLines_add (cart : Cart) (item : Item) :
    exactTotal (cart.otherLines item.id) +
        (cart.priceOf item).value * cart.quantityOf item.id = exactTotal cart.lines := by
  unfold quantityOf priceOf
  cases hline : cart.line? item.id with
  | none =>
    have hnone : ¬∃ line ∈ cart.lines, (line.itemId == item.id) = true := by
      simpa using line?_eq_none_iff.1 hline
    simp only [mul_zero, add_zero, otherLines]
    rw [List.eraseP_of_forall_not]
    simpa using hnone
  | some line =>
    rcases exists_append_of_line? hline with ⟨front, back, hlines, hid, hfront⟩
    have hperm : cart.lines.Perm (line :: (front ++ back)) := by
      rw [hlines]
      exact List.perm_middle
    rw [exactTotal_perm hperm, exactTotal_cons, otherLines, hlines,
      eraseP_append_cons hid hfront, add_comm]
    rfl

/-! ## What is added -/

/-- Lines with a quantity of an item added: its line has more of it and stays in its place, or
there is a new line at the end. -/
inductive Added (item : Item) (amount : Int64) (lines : List Line) : List Line → Prop where
  | merged {front back : List Line} {line : Line} {more : Int64}
      (hlines : lines = front ++ line :: back) (hid : line.itemId = item.id)
      (hmore : more.toInt = line.quantity.toInt + amount.toInt) :
      Added item amount lines (front ++ { line with quantity := more } :: back)
  | appended (hnew : ∀ line ∈ lines, line.itemId ≠ item.id) :
      Added item amount lines (lines ++ [⟨item.id, item.name, item.unitPrice, amount⟩])

/-- The line that takes its place when a quantity is added: it is of the item, at the price of
the cart, and has the exact sum of the quantities. -/
theorem of_mergedLine_eq_ok {line : Line}
    (h : cart.mergedLine item amount ceiling = .ok line) :
    line.itemId = item.id ∧ line.unitPrice = cart.priceOf item ∧
      line.quantity.toInt = cart.quantityOf item.id + amount.toInt ∧
      Added item amount cart.lines (put line cart.lines) := by
  unfold priceOf quantityOf
  rcases mergedLine_eq_ok_iff.1 h with ⟨hnone, rfl⟩ | ⟨old, hold, hline, hsum, _⟩
  · have hnew := line?_eq_none_iff.1 hnone
    rw [hnone, put_of_forall_ne hnew]
    exact ⟨rfl, rfl, (zero_add _).symm, .appended hnew⟩
  · rcases exists_append_of_line? hold with ⟨front, back, hlines, hid, hfront⟩
    have hitem : line.itemId = item.id := by rw [hline, hid]
    have hprice : line.unitPrice = old.unitPrice := by rw [hline]
    refine ⟨hitem, by rw [hold, hprice], by rw [hold, hsum], ?_⟩
    rw [hlines, put_append_cons (hid.trans hitem.symm) (by rwa [hitem]), hline]
    exact .merged rfl hid hsum

/-- Adding an item puts one line in its place and does nothing else. -/
theorem of_addItem_eq_ok (h : cart.addItem item amount ceiling = .ok after) :
    ∃ line, cart.mergedLine item amount ceiling = .ok line ∧
      after = { cart with lines := put line cart.lines } ∧
      Added item amount cart.lines after.lines := by
  rcases addItem_eq_ok_iff.1 h with ⟨_, line, hline, _, rfl⟩
  exact ⟨line, hline, rfl, (of_mergedLine_eq_ok hline).2.2.2⟩

/-- Adding an item leaves the tendered amount alone. -/
theorem tendered_addItem (h : cart.addItem item amount ceiling = .ok after) :
    after.tendered = cart.tendered := by
  rcases of_addItem_eq_ok h with ⟨line, _, rfl, _⟩
  rfl

/-- The line of each item when one has been added. -/
theorem line?_addItem (h : cart.addItem item amount ceiling = .ok after) :
    ∃ line, cart.mergedLine item amount ceiling = .ok line ∧
      ∀ id, after.line? id = if id = item.id then some line else cart.line? id := by
  rcases of_addItem_eq_ok h with ⟨line, hline, rfl, _⟩
  refine ⟨line, hline, ?_⟩
  intro id
  rw [line?_put, (of_mergedLine_eq_ok hline).1]

/-- The quantity of an item grows by what is added of it. -/
theorem quantityOf_addItem (h : cart.addItem item amount ceiling = .ok after) (id : String) :
    after.quantityOf id = cart.quantityOf id + if id = item.id then amount.toInt else 0 := by
  rcases line?_addItem h with ⟨line, hline, hall⟩
  by_cases hid : id = item.id
  · subst hid
    rw [if_pos rfl, ← (of_mergedLine_eq_ok hline).2.2.1, quantityOf, hall, if_pos rfl]
  · rw [if_neg hid, add_zero, quantityOf, hall, if_neg hid]
    rfl

/-- The price of an item stays as it was when it was first added. -/
theorem priceOf_addItem (h : cart.addItem item amount ceiling = .ok after) {other : Item}
    (hother : other.id = item.id → other = item) : after.priceOf other = cart.priceOf other := by
  rcases line?_addItem h with ⟨line, hline, hall⟩
  by_cases hid : other.id = item.id
  · rw [hother hid, priceOf, hall, if_pos rfl]
    exact (of_mergedLine_eq_ok hline).2.1
  · rw [priceOf, hall, if_neg hid]
    rfl

/-- The exact total with a quantity of an item more. -/
theorem exactTotal_put_mergedLine {line : Line}
    (h : cart.mergedLine item amount ceiling = .ok line) :
    exactTotal (put line cart.lines) = exactTotal (cart.otherLines item.id) +
      (cart.priceOf item).value * (cart.quantityOf item.id + amount.toInt) := by
  rcases of_mergedLine_eq_ok h with ⟨hid, hprice, hquantity, _⟩
  rw [exactTotal_put, hid, Line.exactTotal, hprice, hquantity, add_comm]

/-- The exact total grows by the price of what is added. -/
theorem exactTotal_addItem (h : cart.addItem item amount ceiling = .ok after) :
    exactTotal after.lines =
      exactTotal cart.lines + (cart.priceOf item).value * amount.toInt := by
  rcases of_addItem_eq_ok h with ⟨line, hline, rfl, _⟩
  rw [exactTotal_put_mergedLine hline, ← exactTotal_otherLines_add cart item, mul_add, add_assoc]

/-! ## Room for a quantity -/

/-- The line of an item and the whole cart are in range with a quantity of the item more. -/
structure HasRoom (cart : Cart) (item : Item) (amount : Int64) (ceiling : Option Int64) :
    Prop where
  quantity_le : cart.quantityOf item.id + amount.toInt ≤ Bounded.greatest
  quantity_le_ceiling : ∀ max ∈ ceiling, cart.quantityOf item.id + amount.toInt ≤ max.toInt
  total_le : exactTotal (cart.otherLines item.id) +
    (cart.priceOf item).value * (cart.quantityOf item.id + amount.toInt) ≤ Bounded.greatest

/-- A quantity that has been added was positive, and there was room for it. -/
theorem hasRoom_of_addItem (h : cart.addItem item amount ceiling = .ok after) :
    1 ≤ amount.toInt ∧ cart.HasRoom item amount ceiling := by
  rcases addItem_eq_ok_iff.1 h with ⟨hamount, line, hline, ⟨total, htotal⟩, _⟩
  rcases checkQuantity_eq_ok_iff.1 hamount with ⟨hpos, hle⟩
  rcases of_mergedLine_eq_ok hline with ⟨_, _, hquantity, _⟩
  refine ⟨hpos, ?_, ?_, ?_⟩
  · rw [← hquantity]
    exact (Bounded.toInt_mem_range line.quantity).2
  · intro max hmax
    rw [← hquantity]
    rcases mergedLine_eq_ok_iff.1 hline with ⟨_, rfl⟩ | ⟨_, _, _, _, hcheck⟩
    · exact hle max hmax
    · exact (checkQuantity_eq_ok_iff.1 hcheck).2 max hmax
  · rw [← exactTotal_put_mergedLine hline, ← (totalWith?_eq_some_iff.1 htotal).2.2]
    exact total.value_fits.2

/-- A quantity that there is room for goes into the line of its item. -/
theorem HasRoom.exists_mergedLine (hroom : cart.HasRoom item amount ceiling)
    (h : cart.WellFormed bound) (hpos : 1 ≤ amount.toInt) :
    ∃ line, cart.mergedLine item amount ceiling = .ok line := by
  cases hline : cart.line? item.id with
  | none => exact ⟨_, mergedLine_eq_ok_iff.2 (.inl ⟨hline, rfl⟩)⟩
  | some old =>
    have hquantity : cart.quantityOf item.id = old.quantity.toInt := by rw [quantityOf, hline]
    have hnonneg := h.quantityOf_nonneg item.id
    have hfits := Bounded.fits_of_nonneg (by omega) hroom.quantity_le
    obtain ⟨more, hmore⟩ : ∃ more : Int64, more.toInt = cart.quantityOf item.id + amount.toInt :=
      ⟨_, Bounded.toInt_ofInt hfits.1 hfits.2⟩
    have hcheck : checkQuantity more ceiling = .ok () := by
      rw [checkQuantity_eq_ok_iff, hmore]
      exact ⟨by omega, hroom.quantity_le_ceiling⟩
    rw [hquantity] at hmore
    exact ⟨{ old with quantity := more },
      mergedLine_eq_ok_iff.2 (.inr ⟨old, hline, rfl, hmore, hcheck⟩)⟩

/-- With a line that there is room for in place, the total can be added up. -/
theorem HasRoom.exists_totalWith? (hroom : cart.HasRoom item amount ceiling)
    (h : cart.WellFormed bound) (hprice : 0 ≤ item.unitPrice.value) (hpos : 1 ≤ amount.toInt)
    {line : Line} (hline : cart.mergedLine item amount ceiling = .ok line) :
    ∃ total, cart.totalWith? line = .ok (some total) := by
  rcases of_mergedLine_eq_ok hline with ⟨_, hlinePrice, hquantity, _⟩
  have hallowed : ∀ other ∈ cart.otherLines line.itemId, other.Allowed bound :=
    fun other hother => h.allowed other (List.mem_of_mem_eraseP hother)
  have hothers := exactTotal_nonneg hallowed
  have hnonneg : 0 ≤ line.exactTotal := by
    have hquantity_nonneg := h.quantityOf_nonneg item.id
    rw [Line.exactTotal, hlinePrice, hquantity]
    exact Int.mul_nonneg (h.priceOf_nonneg hprice) (by omega)
  have hsum : line.exactTotal + exactTotal (cart.otherLines line.itemId) ≤
      Bounded.greatest := by
    rw [← exactTotal_put, exactTotal_put_mergedLine hline]
    exact hroom.total_le
  obtain ⟨total, htotal⟩ := Money.exists_value (Bounded.fits_of_nonneg (by omega) hsum)
  refine ⟨total, totalWith?_eq_some_iff.2
    ⟨Bounded.fits_of_nonneg hnonneg (by omega), ?_, by rw [htotal, exactTotal_put]⟩⟩
  exact sumsFit_of_nonneg hnonneg (fun other hother => (hallowed other hother).exactTotal_nonneg)
    hsum

/-- A quantity of an item can be added to a well-formed cart exactly when it is positive and
there is room for it. -/
theorem WellFormed.exists_addItem_iff (h : cart.WellFormed bound)
    (hprice : 0 ≤ item.unitPrice.value) :
    (∃ after, cart.addItem item amount ceiling = .ok after) ↔
      1 ≤ amount.toInt ∧ cart.HasRoom item amount ceiling := by
  constructor
  · rintro ⟨after, hadd⟩
    exact hasRoom_of_addItem hadd
  · rintro ⟨hpos, hroom⟩
    obtain ⟨line, hline⟩ := hroom.exists_mergedLine h hpos
    obtain ⟨total, htotal⟩ := hroom.exists_totalWith? h hprice hpos hline
    have hamount : checkQuantity amount ceiling = .ok () := by
      refine checkQuantity_eq_ok_iff.2 ⟨hpos, ?_⟩
      intro max hmax
      have hnonneg := h.quantityOf_nonneg item.id
      have hle := hroom.quantity_le_ceiling max hmax
      omega
    exact ⟨_, addItem_eq_ok_iff.2 ⟨hamount, line, hline, ⟨total, htotal⟩, rfl⟩⟩

/-- A cart with different items, positive quantities and a total in range has them still when an
item is added under any ceiling. -/
theorem WellFormed.addItem_any_ceiling (h : cart.WellFormed none)
    (hprice : 0 ≤ item.unitPrice.value)
    (hadd : cart.addItem item amount ceiling = .ok after) : after.WellFormed none := by
  have hpos := (hasRoom_of_addItem hadd).1
  have htotal := (hasRoom_of_addItem hadd).2.total_le
  rcases of_addItem_eq_ok hadd with ⟨line, hline, rfl, _⟩
  rcases of_mergedLine_eq_ok hline with ⟨hid, hlinePrice, hquantity, _⟩
  have hnonneg := h.quantityOf_nonneg item.id
  apply h.put
  · refine ⟨?_, ?_, by simp⟩
    · rw [hlinePrice]
      exact h.priceOf_nonneg hprice
    · omega
  · rw [exactTotal_put_mergedLine hline]
    exact htotal

/-- A positive quantity is allowed or too large. -/
theorem checkQuantity_of_pos (hpos : 1 ≤ amount.toInt) (ceiling : Option Int64) :
    checkQuantity amount ceiling = .ok () ∨
      checkQuantity amount ceiling = .refuse (quantityTooLarge ceiling) := by
  have hzero : ¬amount ≤ 0 := by
    rw [Int64.le_iff_toInt_le, Int64.toInt_zero]
    omega
  unfold checkQuantity Rules.quantity
  rw [if_neg hzero]
  cases ceiling with
  | none => exact .inl rfl
  | some max =>
    by_cases hmax : max < amount
    · right
      simp [hmax, quantityTooLarge]
    · left
      simp [hmax]

/-- A positive quantity goes into the line of its item or is too large. -/
theorem WellFormed.mergedLine_of_pos (h : cart.WellFormed bound) (hpos : 1 ≤ amount.toInt)
    (item : Item) (ceiling : Option Int64) :
    (∃ line, cart.mergedLine item amount ceiling = .ok line) ∨
      cart.mergedLine item amount ceiling = .refuse (quantityTooLarge ceiling) := by
  unfold mergedLine
  cases hold : cart.line? item.id with
  | none => exact .inl ⟨_, rfl⟩
  | some old =>
    have hold_pos := (h.allowed old (of_line?_eq_some hold).1).quantity_pos
    dsimp only
    cases hsum : Bounded.ofInt? (old.quantity.toInt + amount.toInt) with
    | none => exact .inr rfl
    | some more =>
      have hmore := Bounded.ofInt?_eq_some_iff.1 hsum
      have hmore_pos : 1 ≤ more.toInt := by omega
      rcases checkQuantity_of_pos hmore_pos ceiling with hcheck | hcheck
      · exact .inl ⟨{ old with quantity := more }, by simp only [hcheck, ok_bind]; rfl⟩
      · exact .inr (by simp only [hcheck]; rfl)

/-- A positive quantity is added to a well-formed cart or is too large. -/
theorem WellFormed.addItem_of_pos (h : cart.WellFormed bound) (hpos : 1 ≤ amount.toInt)
    (item : Item) (ceiling : Option Int64) :
    (∃ after, cart.addItem item amount ceiling = .ok after) ∨
      cart.addItem item amount ceiling = .refuse (quantityTooLarge ceiling) := by
  have hanswered : (cart.addItem item amount ceiling).Answered :=
    addItem_answered fun line hline => h.line_fits hline
  unfold Cart.addItem at hanswered ⊢
  rcases checkQuantity_of_pos hpos ceiling with hcheck | hcheck
  · rw [hcheck, ok_bind] at hanswered ⊢
    rcases h.mergedLine_of_pos hpos item ceiling with ⟨line, hline⟩ | hline
    · rw [hline, ok_bind] at hanswered ⊢
      cases htotal : cart.totalWith? line with
      | error fault =>
        rw [htotal] at hanswered
        exact hanswered.elim
      | ok total =>
        cases total with
        | none => exact .inr rfl
        | some total => exact .inl ⟨_, rfl⟩
    · exact .inr (by rw [hline]; rfl)
  · exact .inr (by rw [hcheck]; rfl)

/-- A positive quantity that there is no room for is too large. -/
theorem WellFormed.addItem_eq_refuse (h : cart.WellFormed bound) (hpos : 1 ≤ amount.toInt)
    (hroom : ¬cart.HasRoom item amount ceiling) :
    cart.addItem item amount ceiling = .refuse (quantityTooLarge ceiling) := by
  rcases h.addItem_of_pos hpos item ceiling with ⟨after, hadd⟩ | hrefused
  · exact absurd (hasRoom_of_addItem hadd).2 hroom
  · exact hrefused

end Cart
end Till
