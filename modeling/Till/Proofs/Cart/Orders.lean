import Mathlib.Data.List.Nodup
import Mathlib.Data.Option.Basic
import Till.Proofs.Cart.Adding

/-!
# Orders

An order is a quantity of an item, and the orders of a list are added to a cart one after the
other.  In another sequence every check on the way is made on another cart, yet what decides
about all of them is the same: what the cart has of each item with all that is ordered of it, and
the exact total with the price of all orders.

Main results:

- Theorems {lit}`Cart.quantityOf_addAll` and {lit}`Cart.label?_addAll`: what the cart has of each
  item when all orders have been added.
- Theorem {lit}`Cart.WellFormed.exists_addAll_iff`: all orders can be added exactly when there is
  room for them together.
-/

namespace Till
namespace Cart

variable {ceiling : Option Int64} {cart after : Cart} {item : Item} {amount : Int64}

/-! ## Lines and their labels -/

/-- Name and price that a cart has for an item. -/
def label? (cart : Cart) (id : String) : Option (String × Money) :=
  (cart.line? id).map fun line => (line.name, line.unitPrice)

/-- A line is told by its label and its quantity. -/
theorem line?_eq_of_label? {other : Cart} {id : String} (hlabel : cart.label? id = other.label? id)
    (hquantity : cart.quantityOf id = other.quantityOf id) :
    cart.line? id = other.line? id := by
  unfold label? at hlabel
  unfold quantityOf at hquantity
  cases hline : cart.line? id with
  | none =>
    rw [hline, Option.map_none, eq_comm, Option.map_eq_none_iff] at hlabel
    exact hlabel.symm
  | some line =>
    rw [hline, Option.map_some, eq_comm, Option.map_eq_some_iff] at hlabel
    rcases hlabel with ⟨line', hline', heq⟩
    rw [hline, hline'] at hquantity
    rw [hline']
    have hid := (of_line?_eq_some hline).2
    have hid' := (of_line?_eq_some hline').2
    cases line
    cases line'
    simp only [Prod.mk.injEq] at heq
    simp only [Int64.toInt_inj] at hquantity
    simp only at hid hid'
    simp [hid, hid', heq, hquantity]

/-- Where no two lines are of one item each line is found by its id. -/
theorem line?_of_mem (h : (cart.lines.map Line.itemId).Nodup) {line : Line}
    (hline : line ∈ cart.lines) : cart.line? line.itemId = some line := by
  cases hfound : cart.line? line.itemId with
  | none => exact absurd rfl (line?_eq_none_iff.1 hfound line hline)
  | some found =>
    rcases of_line?_eq_some hfound with ⟨hmem, hid⟩
    rw [List.inj_on_of_nodup_map h hmem hline hid]

/-- So the lines are told by their ids in order and by what is found. -/
theorem map_some_lines (h : (cart.lines.map Line.itemId).Nodup) :
    cart.lines.map some = (cart.lines.map Line.itemId).map cart.line? := by
  rw [List.map_map]
  apply List.map_congr_left
  intro line hline
  exact (line?_of_mem h hline).symm

/-! ## Ids and labels of a cart that is added to -/

/-- An item without a line gets one behind the others. -/
theorem ids_addItem (h : cart.addItem item amount ceiling = .ok after) :
    after.lines.map Line.itemId =
      if item.id ∈ cart.lines.map Line.itemId then cart.lines.map Line.itemId
      else cart.lines.map Line.itemId ++ [item.id] := by
  rcases of_addItem_eq_ok h with ⟨line, hline, rfl, _⟩
  have hid := (of_mergedLine_eq_ok hline).1
  by_cases hknown : item.id ∈ cart.lines.map Line.itemId
  · rw [if_pos hknown]
    exact map_itemId_put (hid ▸ hknown)
  · rw [if_neg hknown, put_of_forall_ne, List.map_append, List.map_singleton, hid]
    rintro other hother heq
    exact hknown (hid ▸ heq ▸ List.mem_map_of_mem hother)

/-- A label stays as it is, and an item without one brings its own. -/
theorem label?_addItem (h : cart.addItem item amount ceiling = .ok after) (id : String) :
    after.label? id =
      (cart.label? id).or (if item.id = id then some (item.name, item.unitPrice) else none) := by
  rcases line?_addItem h with ⟨line, hline, hall⟩
  unfold label?
  rw [hall]
  by_cases hid : id = item.id
  · subst hid
    rw [if_pos rfl, if_pos rfl]
    rcases mergedLine_eq_ok_iff.1 hline with ⟨hnone, rfl⟩ | ⟨old, hold, hmerged, _, _⟩
    · rw [hnone]
      rfl
    · rw [hold, hmerged]
      rfl
  · rw [if_neg hid, if_neg (Ne.symm hid), Option.or_none]

/-! ## Orders -/

/-- A quantity of an item. -/
structure Order where
  item : Item
  amount : Int64

variable {orders others : List Order}

/-- A cart with some orders added one after the other; all of them are, or none. -/
def addAll (cart : Cart) (orders : List Order) (ceiling : Option Int64) : Outcome Cart :=
  orders.foldlM (fun cart order => cart.addItem order.item order.amount ceiling) cart

/-- Orders with the same id are for the same item. -/
def SameItems (orders : List Order) : Prop :=
  ∀ first ∈ orders, ∀ second ∈ orders, first.item.id = second.item.id → first.item = second.item

/-- Some of these orders are for the same items where their ids are the same, too. -/
theorem SameItems.of_subset (h : SameItems orders) (hsubset : others ⊆ orders) :
    SameItems others :=
  fun first hfirst second hsecond => h first (hsubset hfirst) second (hsubset hsecond)

/-- The prices of the items of some orders are not negative. -/
def Priced (orders : List Order) : Prop :=
  ∀ order ∈ orders, 0 ≤ order.item.unitPrice.value

/-- Nor are those of some of these orders. -/
theorem Priced.of_subset (h : Priced orders) (hsubset : others ⊆ orders) : Priced others :=
  fun order horder => h order (hsubset horder)

/-- How much of an item is ordered. -/
def ordered (orders : List Order) (id : String) : Int :=
  (orders.map fun order => if order.item.id = id then order.amount.toInt else 0).sum

/-- The label that orders bring for an item. -/
def orderedLabel? (orders : List Order) (id : String) : Option (String × Money) :=
  (orders.find? fun order => order.item.id == id).map fun order =>
    (order.item.name, order.item.unitPrice)

/-- The price of orders at the prices of a cart. -/
def worth (cart : Cart) (orders : List Order) : Int :=
  (orders.map fun order => (cart.priceOf order.item).value * order.amount.toInt).sum

/-- An order follows the others. -/
theorem addAll_cons_eq_ok_iff {order : Order} :
    cart.addAll (order :: orders) ceiling = .ok after ↔
      ∃ next, cart.addItem order.item order.amount ceiling = .ok next ∧
        next.addAll orders ceiling = .ok after := by
  rw [addAll, List.foldlM_cons, bind_eq_ok_iff]
  rfl

/-- What every order that is added preserves holds after all of them. -/
theorem addAll_induction {motive : Cart → Prop} (h : cart.addAll orders ceiling = .ok after)
    (hstart : motive cart)
    (hstep : ∀ before order next, motive before → order ∈ orders →
      before.addItem order.item order.amount ceiling = .ok next → motive next) :
    motive after := by
  induction orders generalizing cart with
  | nil =>
    cases h
    exact hstart
  | cons order rest ih =>
    rcases addAll_cons_eq_ok_iff.1 h with ⟨next, hnext, hrest⟩
    apply ih hrest (hstep cart order next hstart List.mem_cons_self hnext)
    intro before other next' hbefore hother
    exact hstep before other next' hbefore (List.mem_cons_of_mem _ hother)

@[simp]
theorem ordered_cons (order : Order) (id : String) :
    ordered (order :: orders) id =
      (if order.item.id = id then order.amount.toInt else 0) + ordered orders id := by
  simp [ordered]

/-- What an order adds of an item is not left to be added. -/
theorem quantityOf_addItem_add_ordered {order : Order}
    (h : cart.addItem order.item order.amount ceiling = .ok after) (id : String) :
    after.quantityOf id + ordered orders id =
      cart.quantityOf id + ordered (order :: orders) id := by
  rw [quantityOf_addItem h, ordered_cons]
  simp only [eq_comm (a := id), add_assoc]

/-- The cart has what it had of an item and what was ordered of it. -/
theorem quantityOf_addAll (h : cart.addAll orders ceiling = .ok after) (id : String) :
    after.quantityOf id = cart.quantityOf id + ordered orders id := by
  induction orders generalizing cart with
  | nil =>
    cases h
    simp [ordered]
  | cons order rest ih =>
    rcases addAll_cons_eq_ok_iff.1 h with ⟨next, hnext, hrest⟩
    rw [ih hrest, quantityOf_addItem_add_ordered hnext]

/-- An item has the label from before, or else the one that the orders bring. -/
theorem label?_addAll (h : cart.addAll orders ceiling = .ok after) (id : String) :
    after.label? id = (cart.label? id).or (orderedLabel? orders id) := by
  induction orders generalizing cart with
  | nil =>
    cases h
    simp [orderedLabel?]
  | cons order rest ih =>
    rcases addAll_cons_eq_ok_iff.1 h with ⟨next, hnext, hrest⟩
    rw [ih hrest, label?_addItem hnext, Option.or_assoc]
    unfold orderedLabel?
    by_cases hid : order.item.id = id
    · rw [if_pos hid, List.find?_cons_of_pos (by simpa using hid)]
      rfl
    · rw [if_neg hid, List.find?_cons_of_neg (by simpa using hid)]
      rfl

/-- The lines from before keep their places, the new ones stand behind them. -/
theorem ids_addAll (h : cart.addAll orders ceiling = .ok after) :
    ∃ ids, after.lines.map Line.itemId = cart.lines.map Line.itemId ++ ids := by
  apply addAll_induction (motive := fun after =>
    ∃ ids, after.lines.map Line.itemId = cart.lines.map Line.itemId ++ ids) h
  · exact ⟨[], by simp⟩
  · rintro before order next ⟨ids, hids⟩ _ hnext
    rw [ids_addItem hnext, hids]
    split
    · exact ⟨ids, rfl⟩
    · exact ⟨ids ++ [order.item.id], by rw [List.append_assoc]⟩

/-! ## Orders in another sequence -/

/-- The sequence of orders does not matter for how much is ordered. -/
theorem ordered_perm (h : orders.Perm others) (id : String) :
    ordered orders id = ordered others id :=
  (h.map _).sum_eq

/-- Nor for their price. -/
theorem worth_perm (h : orders.Perm others) : cart.worth orders = cart.worth others :=
  (h.map _).sum_eq

/-- Nor for the labels that they bring, when orders with the same id are for the same item. -/
theorem orderedLabel?_perm (h : orders.Perm others) (hsame : SameItems orders) (id : String) :
    orderedLabel? orders id = orderedLabel? others id := by
  unfold orderedLabel?
  cases hfirst : orders.find? fun order => order.item.id == id with
  | none =>
    rw [List.find?_eq_none] at hfirst
    have hsecond : others.find? (fun order => order.item.id == id) = none := by
      rw [List.find?_eq_none]
      intro order horder
      exact hfirst order (h.mem_iff.2 horder)
    rw [hsecond]
  | some first =>
    have hid : first.item.id = id := by simpa using List.find?_some hfirst
    have hmem := List.mem_of_find?_eq_some hfirst
    cases hsecond : others.find? fun order => order.item.id == id with
    | none =>
      have hne := List.find?_eq_none.1 hsecond first (h.mem_iff.1 hmem)
      exact absurd hid (by simpa using hne)
    | some second =>
      have hid' : second.item.id = id := by simpa using List.find?_some hsecond
      have hmem' := h.mem_iff.2 (List.mem_of_find?_eq_some hsecond)
      rw [Option.map_some, Option.map_some, hsame first hmem second hmem' (hid.trans hid'.symm)]

/-! ## Room for orders -/

/-- A quantity is in range and within the ceiling, if there is one. -/
def Within (ceiling : Option Int64) (quantity : Int) : Prop :=
  quantity ≤ Bounded.greatest ∧ ∀ max ∈ ceiling, quantity ≤ max.toInt

/-- What is less stays within the ceiling. -/
theorem Within.mono {quantity less : Int} (h : Within ceiling quantity) (hle : less ≤ quantity) :
    Within ceiling less :=
  ⟨hle.trans h.1, fun max hmax => hle.trans (h.2 max hmax)⟩

/-- There is room for a quantity when it is within the ceiling with what the cart has, and the
exact total with its price in range. -/
theorem hasRoom_iff :
    cart.HasRoom item amount ceiling ↔
      Within ceiling (cart.quantityOf item.id + amount.toInt) ∧
        exactTotal cart.lines + (cart.priceOf item).value * amount.toInt ≤ Bounded.greatest := by
  rw [← exactTotal_otherLines_add cart item, add_assoc, ← mul_add]
  constructor
  · intro h
    exact ⟨⟨h.quantity_le, h.quantity_le_ceiling⟩, h.total_le⟩
  · rintro ⟨⟨hquantity, hceiling⟩, htotal⟩
    exact ⟨hquantity, hceiling, htotal⟩

/-- Every order is for something, and with all that is ordered each line of an ordered item and
the whole cart are in range. -/
structure HasRoomForAll (cart : Cart) (orders : List Order) (ceiling : Option Int64) : Prop where
  positive : ∀ order ∈ orders, 1 ≤ order.amount.toInt
  within : ∀ order ∈ orders,
    Within ceiling (cart.quantityOf order.item.id + ordered orders order.item.id)
  total_le : exactTotal cart.lines + cart.worth orders ≤ Bounded.greatest

/-- Orders in another sequence need the same room. -/
theorem HasRoomForAll.perm (h : cart.HasRoomForAll orders ceiling) (hperm : orders.Perm others) :
    cart.HasRoomForAll others ceiling where
  positive order horder := h.positive order (hperm.mem_iff.2 horder)
  within order horder := by
    rw [← ordered_perm hperm]
    exact h.within order (hperm.mem_iff.2 horder)
  total_le := worth_perm hperm ▸ h.total_le

/-- No item is ordered less than not at all. -/
theorem ordered_nonneg (h : ∀ order ∈ orders, 1 ≤ order.amount.toInt) (id : String) :
    0 ≤ ordered orders id := by
  apply List.sum_nonneg
  intro quantity hquantity
  rcases List.mem_map.1 hquantity with ⟨order, horder, rfl⟩
  have hpos := h order horder
  split <;> omega

/-- An item that is not among the orders is not ordered. -/
theorem ordered_eq_zero {id : String} (h : ∀ order ∈ orders, order.item.id ≠ id) :
    ordered orders id = 0 := by
  apply List.sum_eq_zero
  intro quantity hquantity
  rcases List.mem_map.1 hquantity with ⟨order, horder, rfl⟩
  rw [if_neg (h order horder)]

/-- The price of orders is not negative in a well-formed cart. -/
theorem WellFormed.worth_nonneg {bound : Option Int64} (h : cart.WellFormed bound)
    (hprices : Priced orders) (hpos : ∀ order ∈ orders, 1 ≤ order.amount.toInt) :
    0 ≤ cart.worth orders := by
  apply List.sum_nonneg
  intro price hprice
  rcases List.mem_map.1 hprice with ⟨order, horder, rfl⟩
  have hamount := hpos order horder
  exact Int.mul_nonneg (h.priceOf_nonneg (hprices order horder)) (by omega)

/-- The price of the other orders stays the same when one of them has been added. -/
theorem worth_addItem {order : Order} {next : Cart}
    (h : cart.addItem order.item order.amount ceiling = .ok next)
    (hsame : SameItems (order :: orders)) : next.worth orders = cart.worth orders := by
  unfold worth
  congr 1
  apply List.map_congr_left
  intro other hother
  rw [priceOf_addItem h]
  intro hid
  exact hsame other (List.mem_cons_of_mem _ hother) order List.mem_cons_self hid

/-- There is room for all orders exactly when there is room for the first one, and then for the
others. -/
theorem WellFormed.hasRoomForAll_cons (h : cart.WellFormed none) {order : Order}
    (hprices : Priced (order :: orders)) (hsame : SameItems (order :: orders)) :
    cart.HasRoomForAll (order :: orders) ceiling ↔
      ∃ next, cart.addItem order.item order.amount ceiling = .ok next ∧
        next.HasRoomForAll orders ceiling := by
  have hprice := hprices order List.mem_cons_self
  have htotal : ∀ next, cart.addItem order.item order.amount ceiling = .ok next →
      exactTotal next.lines + next.worth orders =
        exactTotal cart.lines + cart.worth (order :: orders) := by
    intro next hnext
    rw [exactTotal_addItem hnext, worth_addItem hnext hsame, add_assoc]
    simp [worth]
  constructor
  · intro hall
    have hrest : ∀ other ∈ orders, 1 ≤ other.amount.toInt :=
      fun other hother => hall.positive other (List.mem_cons_of_mem _ hother)
    have hordered := ordered_nonneg hrest order.item.id
    have hworth := h.worth_nonneg (hprices.of_subset (List.subset_cons_self _ _)) hrest
    have hroom : cart.HasRoom order.item order.amount ceiling := by
      have hquantity := hall.within order List.mem_cons_self
      have htotal_le := hall.total_le
      rw [ordered_cons, if_pos rfl] at hquantity
      simp only [worth, List.map_cons, List.sum_cons] at htotal_le hworth
      exact hasRoom_iff.2 ⟨hquantity.mono (by omega), by omega⟩
    obtain ⟨next, hnext⟩ := (h.exists_addItem_iff hprice).2
      ⟨hall.positive order List.mem_cons_self, hroom⟩
    refine ⟨next, hnext, hrest, ?_, ?_⟩
    · intro other hother
      rw [quantityOf_addItem_add_ordered hnext]
      exact hall.within other (List.mem_cons_of_mem _ hother)
    · rw [htotal next hnext]
      exact hall.total_le
  · rintro ⟨next, hnext, hall⟩
    rcases hasRoom_of_addItem hnext with ⟨hpos, hroom⟩
    refine ⟨?_, ?_, ?_⟩
    · intro other hother
      rcases List.mem_cons.1 hother with rfl | hother
      · exact hpos
      · exact hall.positive other hother
    · intro other hother
      by_cases hmore : ∃ order ∈ orders, order.item.id = other.item.id
      · rcases hmore with ⟨more, hmem, hid⟩
        rw [← quantityOf_addItem_add_ordered hnext, ← hid]
        exact hall.within more hmem
      · -- nothing more of the item is ordered, so its line is as after the first order
        rcases List.mem_cons.1 hother with rfl | hother
        · rw [ordered_cons, if_pos rfl, ordered_eq_zero (by simpa using hmore), add_zero]
          exact (hasRoom_iff.1 hroom).1
        · exact absurd ⟨other, hother, rfl⟩ hmore
    · rw [← htotal next hnext]
      exact hall.total_le

/-- All orders can be added to a well-formed cart exactly when there is room for them
together. -/
theorem WellFormed.exists_addAll_iff (h : cart.WellFormed none) (hprices : Priced orders)
    (hsame : SameItems orders) :
    (∃ after, cart.addAll orders ceiling = .ok after) ↔ cart.HasRoomForAll orders ceiling := by
  induction orders generalizing cart with
  | nil =>
    constructor
    · intro _
      exact ⟨by simp, by simp, by simpa [worth] using h.total_le⟩
    · intro _
      exact ⟨cart, rfl⟩
  | cons order rest ih =>
    rw [h.hasRoomForAll_cons hprices hsame]
    have hrest : ∀ next, cart.addItem order.item order.amount ceiling = .ok next →
        ((∃ after, next.addAll rest ceiling = .ok after) ↔ next.HasRoomForAll rest ceiling) := by
      intro next hnext
      exact ih (h.addItem_any_ceiling (hprices order List.mem_cons_self) hnext)
        (hprices.of_subset (List.subset_cons_self _ _))
        (hsame.of_subset (List.subset_cons_self _ _))
    constructor
    · rintro ⟨after, hafter⟩
      rcases addAll_cons_eq_ok_iff.1 hafter with ⟨next, hnext, hall⟩
      exact ⟨next, hnext, (hrest next hnext).1 ⟨after, hall⟩⟩
    · rintro ⟨next, hnext, hroom⟩
      obtain ⟨after, hall⟩ := (hrest next hnext).2 hroom
      exact ⟨after, addAll_cons_eq_ok_iff.2 ⟨next, hnext, hall⟩⟩

end Cart
end Till
