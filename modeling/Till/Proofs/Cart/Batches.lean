import Till.Proofs.Cart.Changes
import Till.Proofs.Cart.Orders

/-!
# Orders in another sequence

Two carts that have come about from one are compared line by line: the line of an item is told by
its label and its quantity, and neither depends on the sequence of the orders or on their
division into parts.  So the carts differ at most in the places of the lines that are new to both
of them.

Main results:

- Theorem {lit}`Cart.exists_split_of_line?_eq`: carts with the same line for each item differ in
  the order of their lines only.
- Theorem {lit}`Cart.WellFormed.addItem_halves_iff`: two orders of an item are one order of both
  quantities.
- Theorem {lit}`Cart.run_orders_in_any_sequence`: so it is in every cart that has come about
  without negative prices.
-/

namespace Till
namespace Cart

variable {ceiling : Option Int64} {cart after : Cart} {item : Item} {orders others : List Order}

/-! ## Two carts from one -/

/-- A well-formed cart stays so with orders at prices that are not negative. -/
theorem WellFormed.addAll (h : cart.WellFormed none) (hprices : Priced orders)
    (hadd : cart.addAll orders ceiling = .ok after) :
    after.WellFormed none ∧ after.tendered = cart.tendered := by
  apply addAll_induction (motive := fun after =>
    after.WellFormed none ∧ after.tendered = cart.tendered) hadd
  · exact ⟨h, rfl⟩
  · rintro before order next ⟨hwell, htendered⟩ horder hnext
    exact ⟨hwell.addItem_any_ceiling (hprices order horder) hnext,
      (tendered_addItem hnext).trans htendered⟩

section Results

variable {first second : Cart}

/-- With as much of each item and the same labels the same line is found for each item. -/
theorem line?_eq_of_addAll (hfirst : cart.addAll orders ceiling = .ok first)
    (hsecond : cart.addAll others ceiling = .ok second)
    (hordered : ∀ id, ordered orders id = ordered others id)
    (hlabels : ∀ id, orderedLabel? orders id = orderedLabel? others id) :
    first.line? = second.line? := by
  funext id
  apply line?_eq_of_label?
  · rw [label?_addAll hfirst, label?_addAll hsecond, hlabels]
  · rw [quantityOf_addAll hfirst, quantityOf_addAll hsecond, hordered]

/-- Carts with the same line for each item have the same lines where they stand in the same
order. -/
theorem lines_eq_of_ids_eq (hfirst : (first.lines.map Line.itemId).Nodup)
    (hsecond : (second.lines.map Line.itemId).Nodup) (hline : first.line? = second.line?)
    (hids : first.lines.map Line.itemId = second.lines.map Line.itemId) :
    first.lines = second.lines := by
  apply List.map_injective_iff.2 (Option.some_injective Line)
  rw [map_some_lines hfirst, map_some_lines hsecond, hids, hline]

/-- Without regard to their order they have the same lines anyway. -/
theorem lines_perm_of_line?_eq (hfirst : (first.lines.map Line.itemId).Nodup)
    (hsecond : (second.lines.map Line.itemId).Nodup) (hline : first.line? = second.line?) :
    first.lines.Perm second.lines := by
  rw [List.perm_ext_iff_of_nodup (.of_map _ hfirst) (.of_map _ hsecond)]
  intro line
  constructor
  · intro hmem
    have hfound := line?_of_mem hfirst hmem
    rw [hline] at hfound
    exact (of_line?_eq_some hfound).1
  · intro hmem
    have hfound := line?_of_mem hsecond hmem
    rw [← hline] at hfound
    exact (of_line?_eq_some hfound).1

/-- Where their lines begin with the same ids, only the lines behind these may stand in another
order. -/
theorem exists_split_of_line?_eq {ids new new' : List String}
    (hfirst : (first.lines.map Line.itemId).Nodup)
    (hsecond : (second.lines.map Line.itemId).Nodup) (hline : first.line? = second.line?)
    (hids : first.lines.map Line.itemId = ids ++ new)
    (hids' : second.lines.map Line.itemId = ids ++ new') :
    ∃ old added added', first.lines = old ++ added ∧ second.lines = old ++ added' ∧
      old.map Line.itemId = ids ∧ added.Perm added' := by
  have htake : ∀ {cart : Cart} {behind : List String}, (cart.lines.map Line.itemId).Nodup →
      cart.lines.map Line.itemId = ids ++ behind →
      (cart.lines.take ids.length).map some = ids.map cart.line? := by
    intro cart behind hnodup heq
    rw [List.map_take, map_some_lines hnodup, ← List.map_take, heq, List.take_left]
  have hold : first.lines.take ids.length = second.lines.take ids.length := by
    apply List.map_injective_iff.2 (Option.some_injective Line)
    rw [htake hfirst hids, htake hsecond hids', hline]
  have hbehind : (first.lines.drop ids.length).Perm (second.lines.drop ids.length) := by
    apply (List.perm_append_left_iff (first.lines.take ids.length)).1
    rw [List.take_append_drop, hold, List.take_append_drop]
    exact lines_perm_of_line?_eq hfirst hsecond hline
  refine ⟨first.lines.take ids.length, first.lines.drop ids.length,
    second.lines.drop ids.length, (List.take_append_drop _ _).symm, ?_, ?_, hbehind⟩
  · rw [hold, List.take_append_drop]
  · rw [List.map_take, hids, List.take_left]

end Results

/-! ## Two orders of one item -/

/-- One order is one addition. -/
theorem addAll_singleton (cart : Cart) (item : Item) (amount : Int64) (ceiling : Option Int64) :
    cart.addAll [⟨item, amount⟩] ceiling = cart.addItem item amount ceiling := by
  rw [addAll, List.foldlM_cons]
  exact bind_pure _

/-- Two orders of an item add its id once. -/
theorem ids_addItem_twice {part rest whole : Int64} {next first second : Cart}
    (hnext : cart.addItem item part ceiling = .ok next)
    (hfirst : next.addItem item rest ceiling = .ok first)
    (hsecond : cart.addItem item whole ceiling = .ok second) :
    first.lines.map Line.itemId = second.lines.map Line.itemId := by
  rw [ids_addItem hfirst, ids_addItem hsecond, ids_addItem hnext]
  by_cases hknown : item.id ∈ cart.lines.map Line.itemId
  · simp only [if_pos hknown]
  · simp only [if_neg hknown, List.mem_append, List.mem_singleton, or_true, if_true]

section Halves

variable {part rest whole : Int64} (hwhole : whole.toInt = part.toInt + rest.toInt)

include hwhole

/-- Two orders of an item are for as much as one order of both quantities. -/
theorem ordered_halves (id : String) :
    ordered [⟨item, part⟩, ⟨item, rest⟩] id = ordered [⟨item, whole⟩] id := by
  by_cases hid : item.id = id
  · simp [ordered, hid, hwhole]
  · simp [ordered, hid]

/-- They need the same room. -/
theorem hasRoomForAll_halves (hpart : 1 ≤ part.toInt) (hrest : 1 ≤ rest.toInt) :
    cart.HasRoomForAll [⟨item, part⟩, ⟨item, rest⟩] ceiling ↔
      cart.HasRoomForAll [⟨item, whole⟩] ceiling := by
  have hworth : cart.worth [⟨item, part⟩, ⟨item, rest⟩] = cart.worth [⟨item, whole⟩] := by
    simp [worth, hwhole, mul_add]
  constructor
  · intro h
    refine ⟨?_, ?_, hworth ▸ h.total_le⟩
    · rintro order horder
      rw [List.mem_singleton.1 horder, hwhole]
      omega
    · rintro order horder
      rw [List.mem_singleton.1 horder, ← ordered_halves hwhole]
      exact h.within ⟨item, part⟩ List.mem_cons_self
  · intro h
    have hitem : ∀ order ∈ [(⟨item, part⟩ : Order), ⟨item, rest⟩],
        order.item = item ∧ 1 ≤ order.amount.toInt := by
      simp [hpart, hrest]
    refine ⟨fun order horder => (hitem order horder).2, ?_, hworth ▸ h.total_le⟩
    rintro order horder
    rw [(hitem order horder).1, ordered_halves hwhole]
    exact h.within ⟨item, whole⟩ List.mem_cons_self

/-- They can be added exactly when that one can. -/
theorem WellFormed.exists_addItem_halves_iff (h : cart.WellFormed none)
    (hprice : 0 ≤ item.unitPrice.value) (hpart : 1 ≤ part.toInt) (hrest : 1 ≤ rest.toInt)
    (ceiling : Option Int64) :
    (∃ first next, cart.addItem item part ceiling = .ok next ∧
        next.addItem item rest ceiling = .ok first) ↔
      ∃ second, cart.addItem item whole ceiling = .ok second := by
  have hroom : cart.HasRoomForAll [⟨item, part⟩, ⟨item, rest⟩] ceiling ↔
      cart.HasRoomForAll [⟨item, whole⟩] ceiling := hasRoomForAll_halves hwhole hpart hrest
  rw [← h.exists_addAll_iff (by simpa [Priced] using hprice) (by simp [SameItems]),
    ← h.exists_addAll_iff (by simpa [Priced] using hprice) (by simp [SameItems])] at hroom
  simpa only [addAll_cons_eq_ok_iff, addAll_singleton] using hroom

/-- They lead to the same cart. -/
theorem WellFormed.eq_of_addItem_halves (h : cart.WellFormed none)
    (hprice : 0 ≤ item.unitPrice.value) {next first second : Cart}
    (hnext : cart.addItem item part ceiling = .ok next)
    (hfirst : next.addItem item rest ceiling = .ok first)
    (hsecond : cart.addItem item whole ceiling = .ok second) : first = second := by
  have hwell := (h.addItem_any_ceiling hprice hnext).addItem_any_ceiling hprice hfirst
  have hwell' := h.addItem_any_ceiling hprice hsecond
  have hline : first.line? = second.line? := by
    funext id
    apply line?_eq_of_label?
    · rw [label?_addItem hfirst, label?_addItem hnext, label?_addItem hsecond, Option.or_assoc,
        Option.or_self]
    · rw [quantityOf_addItem hfirst, quantityOf_addItem hnext, quantityOf_addItem hsecond]
      split <;> omega
  have hlines := lines_eq_of_ids_eq hwell.ids_nodup hwell'.ids_nodup hline
    (ids_addItem_twice hnext hfirst hsecond)
  have htendered : first.tendered = second.tendered := by
    rw [tendered_addItem hfirst, tendered_addItem hnext, tendered_addItem hsecond]
  cases first
  cases second
  simp only at hlines htendered
  rw [hlines, htendered]

/-- Where both quantities of an item can be added one after the other, their sum can at once, and
the other way round, with the same cart in the end. -/
theorem WellFormed.addItem_halves_iff (h : cart.WellFormed none)
    (hprice : 0 ≤ item.unitPrice.value) (hpart : 1 ≤ part.toInt) (hrest : 1 ≤ rest.toInt) :
    (∃ next, cart.addItem item part ceiling = .ok next ∧
        next.addItem item rest ceiling = .ok after) ↔
      cart.addItem item whole ceiling = .ok after := by
  have hexists := h.exists_addItem_halves_iff hwhole hprice hpart hrest ceiling
  constructor
  · rintro ⟨next, hnext, hafter⟩
    obtain ⟨second, hsecond⟩ := hexists.1 ⟨after, next, hnext, hafter⟩
    rw [h.eq_of_addItem_halves hwhole hprice hnext hafter hsecond, hsecond]
  · intro hafter
    obtain ⟨first, next, hnext, hfirst⟩ := hexists.2 ⟨after, hafter⟩
    exact ⟨next, hnext, h.eq_of_addItem_halves hwhole hprice hnext hfirst hafter ▸ hfirst⟩

end Halves

/-! ## Reachable carts -/

/-- A change brings no item of a negative price. -/
def Change.Priced (change : Change) : Prop :=
  ∀ item amount ceiling, change = .add item amount ceiling → 0 ≤ item.unitPrice.value

/-- A well-formed cart stays so with a change that brings no item of a negative price. -/
theorem WellFormed.perform (h : cart.WellFormed none) {change : Change} (hpriced : change.Priced)
    (hperform : cart.perform change = .ok after) : after.WellFormed none := by
  cases change with
  | add item amount ceiling =>
    exact h.addItem_any_ceiling (hpriced item amount ceiling rfl) hperform
  | remove index =>
    rcases perform_remove_eq_ok_iff.1 hperform with ⟨line, hremove⟩
    exact h.removeLine.of_eq_ok hremove
  | clear =>
    cases hperform
    exact h.clear
  | tender cents policy => exact h.setTendered.of_eq_ok hperform

/-- A new cart is well-formed after changes that bring no item of a negative price. -/
theorem wellFormed_run {changes : List Change} (hpriced : ∀ change ∈ changes, change.Priced) :
    (run {} changes).WellFormed none := by
  apply run_induction (motive := WellFormed none) wellFormed_new
  intro before change after hbefore hmem hperform
  exact hbefore.perform (hpriced change hmem) hperform

/-- To a cart that has come about without negative prices, orders of items of the same id can be
added in every sequence if they can in one, and then the total is the same and so are the lines,
except that those which are new may stand in another order.  Two quantities of an item can be
added one after the other exactly when their sum can at once, and the cart is the same then. -/
theorem run_orders_in_any_sequence {changes : List Change}
    (hpriced : ∀ change ∈ changes, change.Priced) :
    let cart := run {} changes
    (∀ ceiling orders others first, Priced orders → SameItems orders → orders.Perm others →
      cart.addAll orders ceiling = .ok first →
      ∃ second, cart.addAll others ceiling = .ok second ∧
        (∃ total, first.total = .ok total ∧ second.total = .ok total) ∧
        first.tendered = second.tendered ∧
        ∃ old added added', first.lines = old ++ added ∧ second.lines = old ++ added' ∧
          old.map Line.itemId = cart.lines.map Line.itemId ∧ added.Perm added') ∧
    ∀ ceiling item part rest whole, 0 ≤ item.unitPrice.value → 1 ≤ part.toInt → 1 ≤ rest.toInt →
      whole.toInt = part.toInt + rest.toInt → ∀ after,
        (∃ next, cart.addItem item part ceiling = .ok next ∧
          next.addItem item rest ceiling = .ok after) ↔
        cart.addItem item whole ceiling = .ok after := by
  intro cart
  have hwell : cart.WellFormed none := wellFormed_run hpriced
  constructor
  · intro ceiling orders others first hprices hsame hperm hfirst
    have hprices' : Priced others := hprices.of_subset hperm.symm.subset
    have hsame' : SameItems others := hsame.of_subset hperm.symm.subset
    have hroom := (hwell.exists_addAll_iff hprices hsame).1 ⟨first, hfirst⟩
    obtain ⟨second, hsecond⟩ := (hwell.exists_addAll_iff hprices' hsame').2 (hroom.perm hperm)
    rcases hwell.addAll hprices hfirst with ⟨hwellFirst, htendered⟩
    rcases hwell.addAll hprices' hsecond with ⟨hwellSecond, htendered'⟩
    have hline := line?_eq_of_addAll hfirst hsecond (ordered_perm hperm)
      (orderedLabel?_perm hperm hsame)
    obtain ⟨total, htotal, hvalue⟩ := hwellFirst.total_eq_ok
    obtain ⟨total', htotal', hvalue'⟩ := hwellSecond.total_eq_ok
    have heq : total = total' := by
      rw [← Money.value_inj, hvalue, hvalue']
      exact exactTotal_perm
        (lines_perm_of_line?_eq hwellFirst.ids_nodup hwellSecond.ids_nodup hline)
    obtain ⟨ids, hids⟩ := ids_addAll hfirst
    obtain ⟨ids', hids'⟩ := ids_addAll hsecond
    exact ⟨second, hsecond, ⟨total, htotal, heq ▸ htotal'⟩, htendered.trans htendered'.symm,
      exists_split_of_line?_eq hwellFirst.ids_nodup hwellSecond.ids_nodup hline hids hids'⟩
  · intro ceiling item part rest whole hprice hpart hrest hwhole after
    exact hwell.addItem_halves_iff hwhole hprice hpart hrest

/-- With a tea in the cart a pie may come before the buns or behind them, and three buns may come
in two parts. -/
theorem run_orders_in_any_sequence_pie_first :
    let tea : Item := ⟨"TEA", "Tea", ⟨400⟩⟩
    let bun : Item := ⟨"BUN", "Bun", ⟨250⟩⟩
    let pie : Item := ⟨"PIE", "Pie", ⟨300⟩⟩
    let changes : List Change := [.add tea 1 none, .tender 2000 .report]
    let cart := run {} changes
    let orders : List Order := [⟨bun, 2⟩, ⟨tea, 1⟩, ⟨pie, 1⟩]
    let first : Cart :=
      ⟨[⟨"TEA", "Tea", ⟨400⟩, 2⟩, ⟨"BUN", "Bun", ⟨250⟩, 2⟩, ⟨"PIE", "Pie", ⟨300⟩, 1⟩], ⟨2000⟩⟩
    (∀ change ∈ changes, change.Priced) ∧ Priced orders ∧ SameItems orders ∧
      cart.addAll orders (some 3) = .ok first ∧
      (∃ second, cart.addAll orders.reverse (some 3) = .ok second ∧
        second.total = .ok ⟨1600⟩ ∧
        ∃ old added added', first.lines = old ++ added ∧ second.lines = old ++ added' ∧
          old.map Line.itemId = ["TEA"] ∧ added.Perm added') ∧
      ∃ next, cart.addItem bun 2 (some 3) = .ok next ∧
        next.addItem bun 1 (some 3) =
          .ok ⟨[⟨"TEA", "Tea", ⟨400⟩, 1⟩, ⟨"BUN", "Bun", ⟨250⟩, 3⟩], ⟨2000⟩⟩ := by
  intro tea bun pie changes cart orders first
  have hpriced : ∀ change ∈ changes, change.Priced := by
    intro change hmem item amount ceiling heq
    subst heq
    have hall : item = tea ∧ amount = 1 ∧ ceiling = none := by simpa [changes] using hmem
    rw [hall.1]
    decide
  have hprices : Priced orders := by
    simp [orders, Priced, tea, bun, pie]
    decide
  have hsame : SameItems orders := by
    simp [orders, SameItems, tea, bun, pie]
  have hfirst : cart.addAll orders (some 3) = .ok first := by decide +kernel
  have hwhole : cart.addItem bun 3 (some 3) =
      .ok ⟨[⟨"TEA", "Tea", ⟨400⟩, 1⟩, ⟨"BUN", "Bun", ⟨250⟩, 3⟩], ⟨2000⟩⟩ := by decide +kernel
  rcases run_orders_in_any_sequence hpriced with ⟨hsequence, hhalves⟩
  rcases hsequence (some 3) orders orders.reverse first hprices hsame orders.reverse_perm.symm
    hfirst with ⟨second, hsecond, ⟨total, htotal, htotal'⟩, _, old, added, added', hlines, hlines',
      hold, hnew⟩
  have hids : cart.lines.map Line.itemId = ["TEA"] := by decide +kernel
  refine ⟨hpriced, hprices, hsame, hfirst, ⟨second, hsecond, ?_, old, added, added', hlines,
    hlines', hold.trans hids, hnew⟩, ?_⟩
  · have hvalue : first.total = .ok ⟨1600⟩ := by decide +kernel
    rw [htotal', ← htotal, hvalue]
  · exact (hhalves (some 3) bun 2 1 3 (by decide) (by decide) (by decide) (by decide) _).2 hwhole

end Cart
end Till
