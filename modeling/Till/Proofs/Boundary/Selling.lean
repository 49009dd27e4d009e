import Till.Proofs.Boundary.Starting
import Till.Proofs.Boundary.Texts
import Till.Proofs.Engine.Adding

/-!
# Selling what a catalog has

A host names an item by its id, as a text that ends before its first zero byte.  So an item whose id
has no zero character is sold by its id: one of it always goes into a cart without lines, as the
ceiling allows at least one and the price is in range.  An id with a zero character ends before it
for the engine, which then sells the item of the shorter id, or none.

Main results:

- Theorem {lit}`HostText.read_held_cut`: what is read of a text that a host holds.
- Theorem {lit}`Engine.WellFormed.addItem_one`: one of an item goes into a cart without lines.
- Theorem {lit}`Thread.items_sold_by_id`: which item is sold by the id of an item.
-/

namespace Till

/-! ## Texts with zero characters -/

namespace HostText

/-- The part of a text in front of its first zero character. -/
def cut (text : String) : String :=
  String.ofList (text.toList.takeWhile fun c => c != '\x00')

/-- No zero character is in front of the first one. -/
theorem zero_notMem_cut (text : String) : '\x00' ∉ (cut text).toList := by
  intro hmem
  rw [cut, String.toList_ofList] at hmem
  have hne := List.all_eq_true.1 List.all_takeWhile _ hmem
  exact absurd hne (by decide)

/-- A text without a zero character is not cut. -/
theorem cut_eq_self {text : String} (h : '\x00' ∉ text.toList) : cut text = text := by
  have hall : ∀ c ∈ text.toList, (c != '\x00') = true := by
    intro c hc
    rw [bne_iff_ne]
    rintro rfl
    exact h hc
  rw [cut, List.takeWhile_eq_self_iff.2 hall, String.ofList_toList]

/-- What stands behind the part in front of a zero character may as well be behind the text. -/
theorem exists_held_cut (text : String) (beyond : List UInt8) :
    ∃ behind, held text beyond = held (cut text) behind := by
  have hsplit : text.toList = (cut text).toList ++ text.toList.dropWhile fun c => c != '\x00' := by
    rw [cut, String.toList_ofList, List.takeWhile_append_dropWhile]
  have hbytes : bytes text = bytes (cut text) ++
      (text.toList.dropWhile fun c => c != '\x00').flatMap String.utf8EncodeChar := by
    rw [bytes_eq_flatMap text, bytes_eq_flatMap (cut text), ← List.flatMap_append, ← hsplit]
  cases hrest : text.toList.dropWhile fun c => c != '\x00' with
  | nil =>
    rw [hrest, List.flatMap_nil, List.append_nil] at hbytes
    exact ⟨beyond, by rw [held, held, hbytes]⟩
  | cons c rest =>
    have hc : c = '\x00' := by
      have hhead := List.head?_dropWhile_not (fun c => c != '\x00') text.toList
      rw [hrest] at hhead
      simpa using hhead
    rw [hrest, hc] at hbytes
    refine ⟨rest.flatMap String.utf8EncodeChar ++ 0 :: beyond, ?_⟩
    have hzero : String.utf8EncodeChar '\x00' = [0] := by decide
    rw [held, held, hbytes, List.flatMap_cons, hzero]
    simp

/-- A text that a host holds is read up to its first zero character. -/
theorem read_held_cut (text : String) (beyond : List UInt8) (argument : String) :
    (held text beyond).read argument = .ok (cut text) := by
  rcases exists_held_cut text beyond with ⟨behind, hheld⟩
  rw [hheld, read_held (zero_notMem_cut text)]

end HostText

/-! ## One of an item -/

/-- A ceiling that keeps the rules allows at least one. -/
theorem Config.one_le_of_check {config : Config} (h : config.check = .ok ()) :
    ∀ max ∈ config.maxLineQuantity, (1 : Int64).toInt ≤ max.toInt := by
  intro max hmax
  unfold check at h
  rw [Option.mem_def.1 hmax] at h
  dsimp only at h
  split at h
  · cases h
  · rename_i hone
    rw [Int64.lt_iff_toInt_lt] at hone
    exact Int.not_lt.1 hone

/-- One of an item is the only line of a cart that had none. -/
theorem Cart.addItem_one_of_nil {cart : Cart} {item : Item} {ceiling bound : Option Int64}
    (h : cart.WellFormed bound) (hempty : cart.lines = []) (hprice : 0 ≤ item.unitPrice.value)
    (hceiling : ∀ max ∈ ceiling, (1 : Int64).toInt ≤ max.toInt) :
    cart.addItem item 1 ceiling = .ok { cart with lines := [Line.ofItem item 1] } := by
  have hline : cart.line? item.id = none := by rw [line?, hempty, List.find?_nil]
  have hquantity : cart.quantityOf item.id = 0 := by rw [quantityOf, hline]
  have hroom : cart.HasRoom item 1 ceiling := by
    refine ⟨?_, ?_, ?_⟩
    · rw [hquantity]
      decide
    · intro max hmax
      rw [hquantity, zero_add]
      exact hceiling max hmax
    · have hothers : exactTotal (cart.otherLines item.id) = 0 := by
        rw [otherLines, hempty]
        rfl
      have hpriceOf : cart.priceOf item = item.unitPrice := by rw [priceOf, hline]
      have hrange := (Bounded.toInt_mem_range item.unitPrice.cents).2
      rw [hothers, hpriceOf, hquantity, zero_add, zero_add, Int64.toInt_one, mul_one]
      exact hrange
  rcases (h.exists_addItem_iff hprice).2 ⟨by decide, hroom⟩ with ⟨after, hadd⟩
  rcases of_addItem_eq_ok hadd with ⟨line, hmerged, rfl, _⟩
  rw [mergedLine, hline] at hmerged
  cases hmerged
  rw [hadd, hempty]
  rfl

namespace Engine

variable {engine : Engine} {catalog : Catalog} {item : Item} {handle : Handle} {cart : Cart}

/-- One of an item of the catalog in force goes into a cart without lines. -/
theorem WellFormed.addItem_one (h : engine.WellFormed) (hcheck : engine.config.check = .ok ())
    (hcatalog : engine.catalog = some catalog) (hitem : item ∈ catalog.toList)
    (hcart : engine.carts.cart? handle = some cart) (hempty : cart.lines = []) :
    engine.addItem handle item.id 1 =
      .ok { engine with
        carts := engine.carts.put handle { cart with lines := [Line.ofItem item 1] } } := by
  have hitems := h.catalog catalog hcatalog
  have hlookup : engine.lookup item.id = .ok item := by
    rw [lookup, hcatalog]
    exact hitems.lookup_eq_ok_iff.2 ⟨hitem, rfl⟩
  have hprice := Item.price_nonneg_of_check (hitems.check item (Array.mem_toList_iff.1 hitem))
  have hceiling := Config.one_le_of_check hcheck
  rw [addItem_of_allowed hcart (by decide) hceiling, hlookup, ok_bind,
    Cart.addItem_one_of_nil (h.cart handle cart hcart) hempty hprice hceiling, ok_bind]
  rfl

/-- An id of no item is not found. -/
theorem WellFormed.addItem_one_unknown (h : engine.WellFormed)
    (hcheck : engine.config.check = .ok ()) (hcatalog : engine.catalog = some catalog) {id : String}
    (hunknown : ∀ item ∈ catalog.toList, item.id ≠ id)
    (hcart : engine.carts.cart? handle = some cart) :
    engine.addItem handle id 1 = .refuse (.itemNotFound id) := by
  have hlookup : engine.lookup id = .refuse (.itemNotFound id) := by
    rw [lookup, hcatalog]
    exact (h.catalog catalog hcatalog).lookup_eq_refuse hunknown
  rw [addItem_of_allowed hcart (by decide) (Config.one_le_of_check hcheck), hlookup]
  rfl

end Engine

/-! ## Calls -/

namespace Thread

variable {thread : Thread} {engine : Engine} {catalog : Catalog} {item : Item} {handle : Handle}
  {cart : Cart}

/-! ### A thread with something to sell -/

/-- A thread that finds this catalog in force and one cart, which has no lines. -/
def serving (catalog : Catalog) : Thread :=
  ⟨⟨some ⟨{}, some catalog, ⟨#[⟨1, some {}⟩], [], 1, 1⟩⟩, some 1⟩, ""⟩

/-- Calls can lead to it with any items that keep the rules and have ids of their own. -/
theorem exists_serving [Wording] (items : List Item) (hcheck : ∀ item ∈ items, item.check = .ok ())
    (hids : (items.map Item.id).Nodup) :
    ∃ catalog, catalog.toList = items ∧ (serving catalog).boundary.Reachable := by
  let started : Thread := ⟨⟨some (.startingAt {} 1), some 1⟩, ""⟩
  have hengine : started.boundary.engine = some (.startingAt {} 1) := rfl
  rcases exists_perform_loadCatalog hengine items hcheck hids [] with ⟨catalog, hlist, _, hload⟩
  have hcreate : perform ⟨⟨some ⟨{}, some catalog, .startingAt 1⟩, some 1⟩, ""⟩
      (.createCart .cell) = .ok (⟨.success, .handle ⟨1, 0⟩⟩, serving catalog) := rfl
  exact ⟨catalog, hlist, .called hcreate (.called hload .started)⟩

/-! ### What is sold -/

section Sale

variable [Wording] (h : thread.boundary.Reachable) (hengine : thread.boundary.engine = some engine)
  (hcatalog : engine.catalog = some catalog) (hcart : engine.carts.cart? handle = some cart)
include h hengine hcatalog hcart

/-- A cart without lines holds one of an item after a call that names the item by a text that ends
where the id of the item does. -/
theorem exists_perform_addItem (hempty : cart.lines = []) (hitem : item ∈ catalog.toList)
    {id : String} (hid : item.id = HostText.cut id) (beyond : List UInt8) :
    ∃ after sold, thread.perform (.addItem handle (.held id beyond) 1) =
        .ok (⟨.success, .untouched⟩, after) ∧
      after.boundary.engine = some sold ∧
      ∀ other, sold.carts.cart? other =
        if other = handle then some { cart with lines := [Line.ofItem item 1] }
        else engine.carts.cart? other := by
  have hread : (HostText.held id beyond).read "item_id" = .ok item.id := by
    rw [HostText.read_held_cut, hid]
  have herrand : (Call.addItem handle (.held id beyond) 1).errand? =
      some (.ok ⟨.untouched, .addItem handle item.id 1⟩) := Call.errand?_addItem hread
  have hadd := (h.wellFormed engine hengine).addItem_one (h.check_config hengine) hcatalog hitem
    hcart hempty
  have hperform : ∃ sold, engine.perform (.addItem handle item.id 1) = .ok (.done, sold) ∧
      sold.carts = engine.carts.put handle { cart with lines := [Line.ofItem item 1] } := by
    rw [Engine.perform, hadd]
    exact ⟨_, rfl, rfl⟩
  rcases hperform with ⟨sold, hperform, hcarts⟩
  refine ⟨_, sold, perform_of_carried_out herrand hengine hperform rfl, rfl, ?_⟩
  rw [hcarts]
  exact Registry.cart?_put hcart

/-- A text that ends where no id does is not found, and nothing changes. -/
theorem exists_perform_addItem_unknown {id : String}
    (hunknown : ∀ item ∈ catalog.toList, item.id ≠ HostText.cut id) (beyond : List UInt8) :
    ∃ after, thread.perform (.addItem handle (.held id beyond) 1) =
        .ok (⟨.refused .itemNotFound, .untouched⟩, after) ∧
      after.boundary = thread.boundary := by
  have herrand : (Call.addItem handle (.held id beyond) 1).errand? =
      some (.ok ⟨.untouched, .addItem handle (HostText.cut id) 1⟩) :=
    Call.errand?_addItem (HostText.read_held_cut id beyond "item_id")
  have hadd := (h.wellFormed engine hengine).addItem_one_unknown (h.check_config hengine) hcatalog
    hunknown hcart
  have hperform : engine.perform (.addItem handle (HostText.cut id) 1) =
      .error (.refused (.itemNotFound (HostText.cut id))) := by
    rw [Engine.perform, hadd]
    rfl
  exact ⟨_, perform_of_refused herrand hengine hperform, rfl⟩

/-- On every boundary that calls can lead to, one of an item of the catalog in force is put into a
cart without lines by its id, unless the id has a zero character: the cart then has one line, of
this item, and no other cart changes.  An id with a zero character ends before it.  What is sold
then is the item of the shorter id, which is another one, and without such an item the call is
refused and nothing changes. -/
theorem items_sold_by_id (hitem : item ∈ catalog.toList) (hempty : cart.lines = [])
    (beyond : List UInt8) :
    ('\x00' ∉ item.id.toList →
      ∃ after sold, thread.perform (.addItem handle (.held item.id beyond) 1) =
          .ok (⟨.success, .untouched⟩, after) ∧
        after.boundary.engine = some sold ∧
        ∀ other, sold.carts.cart? other =
          if other = handle then
            some { cart with lines := [⟨item.id, item.name, item.unitPrice, 1⟩] }
          else engine.carts.cart? other) ∧
    ('\x00' ∈ item.id.toList →
      (∀ shorter ∈ catalog.toList, shorter.id = HostText.cut item.id → shorter ≠ item ∧
        ∃ after sold, thread.perform (.addItem handle (.held item.id beyond) 1) =
            .ok (⟨.success, .untouched⟩, after) ∧
          after.boundary.engine = some sold ∧
          sold.carts.cart? handle = some { cart with lines := [Line.ofItem shorter 1] }) ∧
      ((∀ shorter ∈ catalog.toList, shorter.id ≠ HostText.cut item.id) →
        ∃ after, thread.perform (.addItem handle (.held item.id beyond) 1) =
            .ok (⟨.refused .itemNotFound, .untouched⟩, after) ∧
          after.boundary = thread.boundary)) := by
  constructor
  · intro hplain
    exact exists_perform_addItem h hengine hcatalog hcart hempty hitem
      (HostText.cut_eq_self hplain).symm beyond
  · intro hzero
    refine ⟨?_, fun hunknown =>
      exists_perform_addItem_unknown h hengine hcatalog hcart hunknown beyond⟩
    intro shorter hshorter hid
    constructor
    · rintro rfl
      rw [hid] at hzero
      exact HostText.zero_notMem_cut _ hzero
    · rcases exists_perform_addItem h hengine hcatalog hcart hempty hshorter hid beyond with
        ⟨after, sold, hperform, hafter, hview⟩
      exact ⟨after, sold, hperform, hafter, by rw [hview, if_pos rfl]⟩

end Sale

/-- An id may hold any other control character, also at its end. -/
theorem items_sold_by_id_control_characters :
    let tea : Item := ⟨"TEA\x01\n", "Tea", ⟨400⟩⟩
    ∃ catalog, tea ∈ catalog.toList ∧ (serving catalog).boundary.Reachable ∧
      '\x00' ∉ tea.id.toList ∧
      ∃ after sold, (serving catalog).perform (.addItem ⟨1, 0⟩ (.held tea.id [7]) 1) =
          .ok (⟨.success, .untouched⟩, after) ∧
        after.boundary.engine = some sold ∧
        sold.carts.cart? ⟨1, 0⟩ = some ⟨[⟨"TEA\x01\n", "Tea", ⟨400⟩, 1⟩], ⟨0⟩⟩ := by
  intro tea
  rcases exists_serving [tea] (by decide) (by decide) with ⟨catalog, hlist, hreachable⟩
  have hitem : tea ∈ catalog.toList := by simp [hlist]
  have hplain : '\x00' ∉ tea.id.toList := by decide
  rcases (items_sold_by_id hreachable rfl rfl (rfl : Registry.cart? _ ⟨1, 0⟩ = some {}) hitem rfl
    [7]).1 hplain with ⟨after, sold, hperform, hafter, hview⟩
  exact ⟨catalog, hitem, hreachable, hplain, after, sold, hperform, hafter, by rw [hview]; rfl⟩

/-- Of two items whose ids differ in a zero character at the end the id of one sells the other, and
an item whose id has one and that is alone is not sold at all. -/
theorem cut_ids_sell_others :
    let ale : Item := ⟨"ALE", "Ale", ⟨500⟩⟩
    let aged : Item := ⟨"ALE\x00", "Aged ale", ⟨900⟩⟩
    let bun : Item := ⟨"BUN\x00", "Bun", ⟨200⟩⟩
    ∃ catalog, catalog.toList = [ale, aged, bun] ∧ (serving catalog).boundary.Reachable ∧
      (∃ after sold, (serving catalog).perform (.addItem ⟨1, 0⟩ (.held aged.id []) 1) =
          .ok (⟨.success, .untouched⟩, after) ∧
        after.boundary.engine = some sold ∧
        sold.carts.cart? ⟨1, 0⟩ = some ⟨[⟨"ALE", "Ale", ⟨500⟩, 1⟩], ⟨0⟩⟩) ∧
      ∃ after, (serving catalog).perform (.addItem ⟨1, 0⟩ (.held bun.id []) 1) =
          .ok (⟨.refused .itemNotFound, .untouched⟩, after) ∧
        after.boundary = (serving catalog).boundary := by
  intro ale aged bun
  rcases exists_serving [ale, aged, bun] (by decide) (by decide) with
    ⟨catalog, hlist, hreachable⟩
  have hale : ale ∈ catalog.toList := by simp [hlist]
  have hcart : Registry.cart? ⟨#[⟨1, some {}⟩], [], 1, 1⟩ ⟨1, 0⟩ = some {} := rfl
  have hunknown : ∀ item ∈ catalog.toList, item.id ≠ HostText.cut bun.id := by
    rw [hlist]
    decide
  refine ⟨catalog, hlist, hreachable, ?_, ?_⟩
  · rcases exists_perform_addItem hreachable rfl rfl hcart rfl hale
      (by decide : ale.id = HostText.cut aged.id) [] with ⟨after, sold, hperform, hafter, hview⟩
    exact ⟨after, sold, hperform, hafter, by rw [hview]; rfl⟩
  · exact exists_perform_addItem_unknown hreachable rfl rfl hcart hunknown []

end Thread
end Till
