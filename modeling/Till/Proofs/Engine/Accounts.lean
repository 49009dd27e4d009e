import Till.Proofs.Engine.Entries

/-!
# Carts follow their ledgers

After any run each live cart is exactly what the entries in the history of the run
dictate: which items have a line, in which order, at which price and in which quantity,
and what is tendered.

One entry is followed at a time.  An entry that adds nothing leaves some of the lines as
they are and takes out the others; an entry that adds changes one line or opens it.

Main results:

- Theorem {lit}`Cart.FollowsLedger.of_no_add`: what is left of a cart follows the ledger.
- Theorem {lit}`Cart.FollowsLedger.addItem`: so does a cart to which an item is added.
- Theorem {lit}`Engine.run_follows_ledger`: after a run every live cart follows its ledger.
-/

namespace Till

open Ledger

/-- A line is what the adds of its item dictate: its quantity is their exact sum, and name
and price are those of the one item of its id in the catalog in force at the first add. -/
structure Line.FollowsLedger (handle : Handle) (history : List Event) (line : Line) : Prop where
  quantity_eq :
    line.quantity.toInt = ((adds handle line.itemId history).map Int64.toInt).sum
  opened : ∃ catalog item,
    catalogInForce (beforeFirstAdd handle line.itemId history) = some catalog ∧
      (∀ other, other ∈ catalog.toList ∧ other.id = line.itemId ↔ other = item) ∧
      line.name = item.name ∧ line.unitPrice = item.unitPrice

/-- A cart is what the entries about it dictate: the items that were added since they were
last taken out have one line each, in the order of their first adds, and what was tendered
last is tendered. -/
structure Cart.FollowsLedger (handle : Handle) (history : List Event) (cart : Cart) : Prop where
  mem_ids_iff : ∀ id, id ∈ cart.lines.map Line.itemId ↔ adds handle id history ≠ []
  ids_nodup : (cart.lines.map Line.itemId).Nodup
  line : ∀ line ∈ cart.lines, line.FollowsLedger handle history
  ids_ordered : (cart.lines.map Line.itemId).Pairwise fun first second =>
    (beforeFirstAdd handle first history).length <
      (beforeFirstAdd handle second history).length
  tendered_eq : cart.tendered.cents = (tenders handle history).getLast?.getD 0

variable {handle : Handle} {history : List Event} {event : Event} {cart after : Cart}

/-! ## Entries about other things -/

/-- A line is not concerned by an event that neither takes its item out nor adds to it. -/
theorem Line.FollowsLedger.concat {line : Line} (h : line.FollowsLedger handle history)
    (hadds : adds handle line.itemId history ≠ [])
    (hreset : event.resets handle line.itemId = false)
    (hamount : event.amount? handle line.itemId = none) :
    line.FollowsLedger handle (history ++ [event]) where
  quantity_eq := by
    rw [adds_concat, hreset, hamount]
    simpa using h.quantity_eq
  opened := by
    rw [beforeFirstAdd_concat hadds hreset]
    exact h.opened

namespace Cart

/-- The order of the first adds is not changed by what takes none of the items out. -/
theorem pairwise_beforeFirstAdd_concat {ids : List String}
    (h : ids.Pairwise fun first second => (beforeFirstAdd handle first history).length <
      (beforeFirstAdd handle second history).length)
    (hadds : ∀ id ∈ ids, adds handle id history ≠ [])
    (hreset : ∀ id ∈ ids, event.resets handle id = false) :
    ids.Pairwise fun first second =>
      (beforeFirstAdd handle first (history ++ [event])).length <
        (beforeFirstAdd handle second (history ++ [event])).length := by
  apply h.imp_of_mem
  intro first second hfirst hsecond hlt
  rw [beforeFirstAdd_concat (hadds first hfirst) (hreset first hfirst),
    beforeFirstAdd_concat (hadds second hsecond) (hreset second hsecond)]
  exact hlt

/-- What is left of a cart after an event that adds nothing follows the ledger. -/
theorem FollowsLedger.of_no_add (h : cart.FollowsLedger handle history)
    (hamount : ∀ id, event.amount? handle id = none)
    (hlines : after.lines.Sublist cart.lines)
    (hids : ∀ id, id ∈ after.lines.map Line.itemId ↔
      id ∈ cart.lines.map Line.itemId ∧ event.resets handle id = false)
    (htendered : after.tendered.cents =
      (tenders handle (history ++ [event])).getLast?.getD 0) :
    after.FollowsLedger handle (history ++ [event]) where
  mem_ids_iff id := by
    rw [hids, h.mem_ids_iff, adds_concat, hamount]
    cases event.resets handle id <;> simp
  ids_nodup := h.ids_nodup.sublist (hlines.map Line.itemId)
  line line hline := by
    have hid := (hids line.itemId).1 (List.mem_map_of_mem hline)
    exact (h.line line (hlines.mem hline)).concat ((h.mem_ids_iff _).1 hid.1) hid.2
      (hamount _)
  ids_ordered := by
    apply pairwise_beforeFirstAdd_concat (h.ids_ordered.sublist (hlines.map Line.itemId))
    · intro id hid
      exact (h.mem_ids_iff id).1 ((hids id).1 hid).1
    · intro id hid
      exact ((hids id).1 hid).2
  tendered_eq := htendered

/-- An event that enters nothing about a cart leaves it. -/
theorem FollowsLedger.of_no_entry (h : cart.FollowsLedger handle history)
    (hentry : event.entry? handle = none) :
    cart.FollowsLedger handle (history ++ [event]) := by
  apply h.of_no_add
  · simp [Event.amount?, hentry]
  · exact List.Sublist.refl _
  · simp [Event.resets, hentry]
  · rw [tenders_concat, h.tendered_eq]
    simp [Event.opens, Event.tender?, hentry]

/-- A new cart follows a ledger that opens it. -/
theorem followsLedger_new (hentry : event.entry? handle = some .opened) :
    FollowsLedger handle (history ++ [event]) {} where
  mem_ids_iff id := by
    rw [adds_concat]
    simp [Event.resets, hentry, Entry.resets]
  ids_nodup := List.nodup_nil
  line line hline := by cases hline
  ids_ordered := List.Pairwise.nil
  tendered_eq := by
    rw [tenders_concat]
    simp [Event.opens, hentry]
    rfl

/-! ## Entries that add nothing -/

/-- A cart without its lines follows a ledger that clears it. -/
theorem FollowsLedger.clear (h : cart.FollowsLedger handle history)
    (hentry : event.entry? handle = some .cleared) :
    cart.clear.FollowsLedger handle (history ++ [event]) := by
  apply h.of_no_add
  · simp [Event.amount?, hentry, Entry.amount?]
  · exact List.nil_sublist _
  · simp [Cart.clear, Event.resets, hentry, Entry.resets]
  · rw [tenders_concat, Cart.clear, h.tendered_eq]
    simp [Event.opens, Event.tender?, hentry, Entry.tender?]

/-- A cart without one of its lines follows a ledger that removes the item. -/
theorem FollowsLedger.removeLine (h : cart.FollowsLedger handle history) {index : Int64}
    {line : Line} (hremove : cart.removeLine index = .ok (line, after))
    (hentry : event.entry? handle = some (.removed line.itemId)) :
    after.FollowsLedger handle (history ++ [event]) := by
  rcases removeLine_eq_ok_iff.1 hremove with ⟨_, hline, rfl⟩
  apply h.of_no_add
  · simp [Event.amount?, hentry, Entry.amount?]
  · exact List.eraseIdx_sublist _ _
  · intro id
    have hposition : (cart.lines.map Line.itemId)[index.toInt.toNat]? = some line.itemId := by
      rw [List.getElem?_map, hline]
      rfl
    rcases List.getElem?_eq_some_iff.1 hposition with ⟨hlt, hget⟩
    rw [← List.eraseIdx_map, ← h.ids_nodup.erase_getElem _ hlt, hget,
      h.ids_nodup.mem_erase_iff]
    simp [Event.resets, hentry, Entry.resets, and_comm, eq_comm]
  · rw [tenders_concat]
    simpa [Event.opens, Event.tender?, hentry, Entry.tender?] using h.tendered_eq

/-- A cart with another tender follows a ledger that tenders it. -/
theorem FollowsLedger.setTendered (h : cart.FollowsLedger handle history) {cents : Int64}
    {policy : ChangePolicy} (hset : cart.setTendered cents policy = .ok after)
    (hentry : event.entry? handle = some (.tendered cents)) :
    after.FollowsLedger handle (history ++ [event]) := by
  rcases setTendered_eq_ok_iff.1 hset with ⟨_, _, rfl⟩
  apply h.of_no_add
  · simp [Event.amount?, hentry, Entry.amount?]
  · exact List.Sublist.refl _
  · simp [Event.resets, hentry, Entry.resets]
  · rw [tenders_concat]
    simp [Event.opens, Event.tender?, hentry, Entry.tender?]

/-! ## Entries that add -/

/-- A cart with one line in its place follows a ledger that adds to the item of the line,
when this line does and it comes last if it is new. -/
theorem FollowsLedger.put (h : cart.FollowsLedger handle history) {line : Line}
    {amount : Int64} (hentry : event.entry? handle = some (.added line.itemId amount))
    (hline : line.FollowsLedger handle (history ++ [event]))
    (hordered : ((Cart.put line cart.lines).map Line.itemId).Pairwise fun first second =>
      (beforeFirstAdd handle first (history ++ [event])).length <
        (beforeFirstAdd handle second (history ++ [event])).length) :
    FollowsLedger handle (history ++ [event])
      { cart with lines := Cart.put line cart.lines } where
  mem_ids_iff id := by
    rw [mem_ids_put, h.mem_ids_iff]
    by_cases hid : id = line.itemId
    · subst hid
      simp [adds_concat_of_added hentry]
    · rw [adds_concat, Event.resets_of_added hentry, Event.amount?_of_added hentry,
        if_neg (Ne.symm hid)]
      simp [hid]
  ids_nodup := ids_nodup_put h.ids_nodup line
  line other hother := by
    rcases mem_put h.ids_nodup hother with rfl | ⟨hother, hid⟩
    · exact hline
    · apply (h.line other hother).concat
      · exact (h.mem_ids_iff _).1 (List.mem_map_of_mem hother)
      · exact Event.resets_of_added hentry _
      · rw [Event.amount?_of_added hentry, if_neg (Ne.symm hid)]
  ids_ordered := hordered
  tendered_eq := by
    rw [tenders_concat, h.tendered_eq]
    simp [Event.opens, Event.tender?, hentry, Entry.tender?]

/-- The order of the first adds of the items in a cart is not changed by one more add. -/
theorem FollowsLedger.ids_ordered_concat (h : cart.FollowsLedger handle history)
    {id : String} {amount : Int64} (hentry : event.entry? handle = some (.added id amount)) :
    (cart.lines.map Line.itemId).Pairwise fun first second =>
      (beforeFirstAdd handle first (history ++ [event])).length <
        (beforeFirstAdd handle second (history ++ [event])).length := by
  apply pairwise_beforeFirstAdd_concat h.ids_ordered
  · intro other hother
    exact (h.mem_ids_iff other).1 hother
  · intro other _
    exact Event.resets_of_added hentry other

/-- A cart with a line for an item that had none follows a ledger that adds the item: by
the ledger the item had no adds, so that this one is the first. -/
theorem FollowsLedger.put_new (h : cart.FollowsLedger handle history) {item : Item}
    {amount : Int64} {catalog : Catalog}
    (hfresh : ∀ other ∈ cart.lines, other.itemId ≠ item.id)
    (hentry : event.entry? handle = some (.added item.id amount))
    (hcatalog : catalogInForce history = some catalog)
    (hitem : ∀ other, other ∈ catalog.toList ∧ other.id = item.id ↔ other = item) :
    FollowsLedger handle (history ++ [event])
      { cart with lines := Cart.put (Line.ofItem item amount) cart.lines } := by
  have hnil : adds handle item.id history = [] := by
    by_contra hne
    rcases List.mem_map.1 ((h.mem_ids_iff item.id).2 hne) with ⟨other, hmem, hid⟩
    exact hfresh other hmem hid
  have hfirst : beforeFirstAdd handle item.id (history ++ [event]) = history := by
    apply beforeFirstAdd_concat_of_add hnil (Event.resets_of_added hentry _)
    simp [Event.amount?_of_added hentry]
  apply h.put hentry
  · refine ⟨?_, catalog, item, ?_, hitem, rfl, rfl⟩
    · simp [Line.ofItem, adds_concat_of_added hentry, hnil]
    · rw [Line.ofItem, hfirst]
      exact hcatalog
  · rw [put_of_forall_ne hfresh, List.map_append, List.pairwise_append]
    refine ⟨h.ids_ordered_concat hentry, List.pairwise_singleton _ _, ?_⟩
    intro id hid last hlast
    have hadds := (h.mem_ids_iff id).1 hid
    rw [List.map_singleton, List.mem_singleton] at hlast
    rw [hlast, Line.ofItem, hfirst,
      beforeFirstAdd_concat hadds (Event.resets_of_added hentry id)]
    exact length_beforeFirstAdd_lt hadds

/-- A cart with a greater quantity in a line follows a ledger that adds the difference:
price and place of the line are those of its first add. -/
theorem FollowsLedger.put_more (h : cart.FollowsLedger handle history) {old line : Line}
    {amount : Int64} (hold : old ∈ cart.lines)
    (hline : line = { old with quantity := line.quantity })
    (hquantity : line.quantity.toInt = old.quantity.toInt + amount.toInt)
    (hentry : event.entry? handle = some (.added old.itemId amount)) :
    FollowsLedger handle (history ++ [event])
      { cart with lines := Cart.put line cart.lines } := by
  have hid : line.itemId = old.itemId := by rw [hline]
  have hknown : old.itemId ∈ cart.lines.map Line.itemId := List.mem_map_of_mem hold
  have hadds := (h.mem_ids_iff old.itemId).1 hknown
  have hfollows := h.line old hold
  have hordered := h.ids_ordered_concat hentry
  rw [← hid] at hentry hknown
  apply h.put hentry
  · refine ⟨?_, ?_⟩
    · rw [hquantity, hfollows.quantity_eq, adds_concat_of_added hentry, hid]
      simp
    · rw [hid, beforeFirstAdd_concat hadds (Event.resets_of_added hentry _), hline]
      exact hfollows.opened
  · rw [map_itemId_put hknown]
    exact hordered

/-- A cart to which an item is added follows a ledger that adds it, when the item is the one
of its id in the catalog in force. -/
theorem FollowsLedger.addItem (h : cart.FollowsLedger handle history) {item : Item}
    {amount : Int64} {ceiling : Option Int64} {catalog : Catalog}
    (hadd : cart.addItem item amount ceiling = .ok after)
    (hentry : event.entry? handle = some (.added item.id amount))
    (hcatalog : catalogInForce history = some catalog)
    (hitem : ∀ other, other ∈ catalog.toList ∧ other.id = item.id ↔ other = item) :
    after.FollowsLedger handle (history ++ [event]) := by
  rcases addItem_eq_ok_iff.1 hadd with ⟨_, line, hline, _, rfl⟩
  rcases mergedLine_eq_ok_iff.1 hline with ⟨hnew, rfl⟩ | ⟨old, hold, hmerged, hquantity, _⟩
  · exact h.put_new (line?_eq_none_iff.1 hnew) hentry hcatalog hitem
  · rcases of_line?_eq_some hold with ⟨hmem, hid⟩
    rw [← hid] at hentry
    exact h.put_more hmem hmerged hquantity hentry

/-- What an entry makes of a cart follows the ledger in which it is entered, when items are
looked up in the catalog in force. -/
theorem FollowsLedger.entered (h : cart.FollowsLedger handle history) {config : Config}
    {lookup : String → Outcome Item}
    (hlookup : ∀ id item, lookup id = .ok item → ∃ catalog,
      catalogInForce history = some catalog ∧
        ∀ other, other ∈ catalog.toList ∧ other.id = id ↔ other = item)
    (hentered : cart.Entered config lookup (event.entry? handle) after) :
    after.FollowsLedger handle (history ++ [event]) := by
  generalize hentry : event.entry? handle = entry at hentered
  cases hentered with
  | nothing => exact h.of_no_entry hentry
  | @added id amount item _ hitem hadd =>
    rcases hlookup id item hitem with ⟨catalog, hcatalog, hunique⟩
    have hid : item.id = id := ((hunique item).2 rfl).2
    rw [← hid] at hunique hentry
    exact h.addItem hadd hentry hcatalog hunique
  | removed hremove => exact h.removeLine hremove hentry
  | cleared => exact h.clear hentry
  | tendered htender => exact h.setTendered htender hentry

end Cart

/-! ## Runs -/

namespace Engine

variable {engine : Engine}

/-- The catalog of an engine is the one in force, and its live carts follow their
ledgers. -/
structure FollowsLedger (history : List Event) (engine : Engine) : Prop where
  wellFormed : engine.WellFormed
  catalog_eq : engine.catalog = catalogInForce history
  cart : ∀ handle cart, engine.carts.cart? handle = some cart →
    cart.FollowsLedger handle history

/-- An item that an engine finds is the one of its id in the catalog in force. -/
theorem FollowsLedger.lookup (h : engine.FollowsLedger history) {id : String} {item : Item}
    (hitem : engine.lookup id = .ok item) :
    ∃ catalog, catalogInForce history = some catalog ∧
      ∀ other, other ∈ catalog.toList ∧ other.id = id ↔ other = item := by
  unfold Engine.lookup at hitem
  cases hcatalog : engine.catalog with
  | none =>
    rw [hcatalog] at hitem
    cases hitem
  | some catalog =>
    rw [hcatalog] at hitem
    have hfound : catalog.lookup id = .ok item := hitem
    refine ⟨catalog, by rw [← h.catalog_eq, hcatalog], ?_⟩
    intro other
    rw [← (h.wellFormed.catalog catalog hcatalog).lookup_eq_ok_iff, hfound, Except.ok.injEq,
      eq_comm]

/-- The catalog after a step is the one that the event of the step leaves in force. -/
theorem catalog_step (h : engine.carts.WellFormed) (command : Command) :
    (engine.step command).2.catalog =
      Event.catalogAfter engine.catalog (command, (engine.step command).1) := by
  rcases step_cases engine command with
    ⟨answer, after, hperform, hstep⟩ | ⟨failure, _, hstep⟩
  · rw [hstep]
    cases (perform_eq_ok_iff h).1 hperform with
    | load hcatalog => simp [Event.catalogAfter, hcatalog, Except.toOption]
    | text => rfl
    | create hcreate => rfl
    | request hrequest hcart hcontent => cases command <;> first | rfl | cases hrequest
    | reset hcarts => rfl
  · rw [hstep, Event.catalogAfter_error]

/-- A step leaves an engine that follows the ledger. -/
theorem FollowsLedger.step (h : engine.FollowsLedger history) (command : Command) :
    (engine.step command).2.FollowsLedger
      (history ++ [(command, (engine.step command).1)]) where
  wellFormed := h.wellFormed.step command
  catalog_eq := by
    rw [catalogInForce_concat, ← h.catalog_eq, catalog_step h.wellFormed.carts]
  cart shown cart hcart := by
    rcases entered_of_step h.wellFormed.carts command hcart with
      ⟨hopened, rfl⟩ | ⟨before, hbefore, hentered⟩
    · exact Cart.followsLedger_new hopened
    · exact (h.cart shown before hbefore).entered (fun _ _ hitem => h.lookup hitem) hentered

/-- After a run every live cart follows the ledger that the history of the run makes for
it. -/
theorem run_follows_ledger (config : Config) (generation : UInt32) (commands : List Command)
    {handle : Handle} {cart : Cart}
    (hcart : ((startingAt config generation).run commands).2.carts.cart? handle = some cart) :
    cart.FollowsLedger handle ((startingAt config generation).history commands) := by
  have hstart : (startingAt config generation).FollowsLedger [] := by
    refine ⟨wellFormed_startingAt config generation, rfl, ?_⟩
    intro shown new hnew
    rw [startingAt, cart?_startingAt] at hnew
    cases hnew
  have hrun := run_induction (motive := fun history engine => engine.FollowsLedger history)
    hstart (fun _ _ command h => h.step command) commands
  exact hrun.cart handle cart hcart

/-- The price of a line is the one at the first of its adds, also when a catalog with another
price is loaded before the second. -/
theorem run_follows_ledger_price_raised :
    let cheap := Catalog.textOfItems [⟨"TEA", "Tea", ⟨400⟩⟩]
    let dear := Catalog.textOfItems [⟨"TEA", "Tea", ⟨450⟩⟩]
    let table : Handle := ⟨1, 0⟩
    let commands : List Command :=
      [.loadCatalog cheap, .createCart, .addItem table "TEA" 2, .loadCatalog dear,
        .addItem table "TEA" 3, .setTendered table 5000]
    let cart : Cart := ⟨[⟨"TEA", "Tea", ⟨400⟩, 5⟩], ⟨5000⟩⟩
    ((startingAt {} 1).run commands).2.carts.cart? table = some cart ∧
      cart.FollowsLedger table ((startingAt {} 1).history commands) := by
  intro cheap dear table commands cart
  rcases Catalog.exists_ofText_textOfItems [⟨"TEA", "Tea", ⟨400⟩⟩] (by decide) (by decide) with
    ⟨first, hfirst, _, hlookup⟩
  rcases Catalog.exists_ofText_textOfItems [⟨"TEA", "Tea", ⟨450⟩⟩] (by decide) (by decide) with
    ⟨second, hsecond, _, hlookup'⟩
  have htea : first.lookup "TEA" = .ok ⟨"TEA", "Tea", ⟨400⟩⟩ := hlookup _ List.mem_cons_self
  have htea' : second.lookup "TEA" = .ok ⟨"TEA", "Tea", ⟨450⟩⟩ := hlookup' _ List.mem_cons_self
  let holding (catalog : Catalog) (cart : Cart) : Engine :=
    ⟨{}, some catalog, ⟨#[⟨1, some cart⟩], [], 1, 1⟩⟩
  let two : Cart := ⟨[⟨"TEA", "Tea", ⟨400⟩, 2⟩], ⟨0⟩⟩
  let five : Cart := ⟨[⟨"TEA", "Tea", ⟨400⟩, 5⟩], ⟨0⟩⟩
  have htwo : Cart.addItem {} ⟨"TEA", "Tea", ⟨400⟩⟩ 2 none = .ok two := by decide +kernel
  have hfive : two.addItem ⟨"TEA", "Tea", ⟨450⟩⟩ 3 none = .ok five := by decide +kernel
  have hload : (startingAt {} 1).step (.loadCatalog cheap) =
      (.ok (.count first.size), ⟨{}, some first, .startingAt 1⟩) :=
    step_of_perform (perform_loadCatalog hfirst)
  have hcreate : step ⟨{}, some first, .startingAt 1⟩ .createCart =
      (.ok (.handle table), holding first {}) := rfl
  have hadd : step (holding first {}) (.addItem table "TEA" 2) = (.ok .done, holding first two) :=
    step_of_perform (perform_addItem rfl htea htwo)
  have hreload : step (holding first two) (.loadCatalog dear) =
      (.ok (.count second.size), holding second two) :=
    step_of_perform (perform_loadCatalog hsecond)
  have hmore : step (holding second two) (.addItem table "TEA" 3) =
      (.ok .done, holding second five) :=
    step_of_perform (perform_addItem rfl htea' hfive)
  have hcart : ((startingAt {} 1).run commands).2.carts.cart? table = some cart := by
    simp only [commands, run_cons, hload, hcreate, hadd, hreload, hmore]
    rfl
  exact ⟨hcart, run_follows_ledger {} 1 commands hcart⟩

end Engine
end Till
