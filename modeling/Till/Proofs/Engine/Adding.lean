import Till.Proofs.Cart.Adding
import Till.Proofs.Engine.Kinds

/-!
# Adding to a cart of an engine

A quantity of an item is added to a cart in four checks: of the handle, of the quantity, of the
id, and of what the cart would hold then.  The first one that fails decides about the refusal,
and what the last one comes to can be said in unbounded integers.

Main results:

- Theorem {lit}`Engine.addItem_of_allowed`: what is left to do for an allowed quantity under a valid
  handle.
- Theorem {lit}`Engine.addItem_of_item`: which quantities of an item are added then.
- Theorem {lit}`Engine.Reachable.addItem_exact`: which quantities are added, which are refused and
  for what, and what becomes of the cart.
-/

namespace Till
namespace Engine

variable {engine after : Engine} {handle : Handle} {cart : Cart} {id : String} {amount : Int64}

/-! ## One check after the other -/

/-- Under a handle with a cart a quantity is refused as a quantity, or for what its id is refused
for. -/
theorem addItem_refusesOnly (hcart : engine.carts.cart? handle = some cart) {kinds : List Kind}
    (hlookup : (engine.lookup id).RefusesOnly kinds) :
    (engine.addItem handle id amount).RefusesOnly (.invalidQuantity :: kinds) := by
  rw [addItem_of_live hcart]
  apply (Cart.checkQuantity_refusesOnly.mono (by simp)).bind
  intro _
  apply (hlookup.mono (List.subset_cons_self _ _)).bind
  intro item
  exact (Cart.addItem_refusesOnly.mono (by simp)).bind fun _ => Outcome.refusesOnly_ok

/-- A quantity that is not positive is refused before the item is looked up. -/
theorem addItem_of_not_positive (hcart : engine.carts.cart? handle = some cart)
    (hamount : amount.toInt < 1) :
    engine.addItem handle id amount = .refuse (.invalidQuantity (.mustBePositive "qty")) := by
  have hle : amount ≤ 0 := by
    rw [Int64.le_iff_toInt_le, Int64.toInt_zero]
    omega
  simp only [addItem_of_live hcart, Cart.checkQuantity, Rules.quantity, if_pos hle]
  rfl

/-- So is a quantity above the ceiling. -/
theorem addItem_of_above (hcart : engine.carts.cart? handle = some cart)
    (hpos : 1 ≤ amount.toInt) {max : Int64} (hmax : max ∈ engine.config.maxLineQuantity)
    (habove : max.toInt < amount.toInt) :
    engine.addItem handle id amount = .refuse (.invalidQuantity (.outOfRange "qty" 1 max)) := by
  rw [addItem_of_live hcart]
  rcases Cart.checkQuantity_of_pos hpos engine.config.maxLineQuantity with hcheck | hcheck
  · have hle := (Cart.checkQuantity_eq_ok_iff.1 hcheck).2 max hmax
    omega
  · rw [hcheck, Cart.quantityTooLarge, Option.mem_def.1 hmax]
    rfl

/-! ## Allowed quantities -/

section Allowed

variable (hcart : engine.carts.cart? handle = some cart) (hpos : 1 ≤ amount.toInt)
  (hle : ∀ max ∈ engine.config.maxLineQuantity, amount.toInt ≤ max.toInt)

include hcart hpos hle

/-- Of an allowed quantity it is left to look up the item and to see whether there is room. -/
theorem addItem_of_allowed :
    engine.addItem handle id amount = do
      let item ← engine.lookup id
      let sold ← cart.addItem item amount engine.config.maxLineQuantity
      return { engine with carts := engine.carts.put handle sold } := by
  rw [addItem_of_live hcart, Cart.checkQuantity_eq_ok_iff.2 ⟨hpos, hle⟩, ok_bind]

/-- It is refused for lack of a catalog exactly when none is in force. -/
theorem addItem_kind_catalogNotLoaded_iff :
    (engine.addItem handle id amount).kind? = some .catalogNotLoaded ↔
      engine.catalog = none := by
  cases hcatalog : engine.catalog with
  | none =>
    have hlookup : engine.lookup id = .refuse .catalogNotLoaded := by rw [lookup, hcatalog]
    rw [addItem_of_allowed hcart hpos hle, hlookup]
    simp [Outcome.refuse, Outcome.kind?, Refusal.kind]
  | some catalog =>
    have hlookup : (engine.lookup id).RefusesOnly [.itemNotFound] := by
      rw [lookup, hcatalog]
      exact catalog.lookup_refusesOnly id
    simp only [reduceCtorEq, iff_false]
    exact (addItem_refusesOnly hcart hlookup).kind?_ne (by simp)

/-- With a catalog in force it is refused for lack of the item exactly when no item has the
id. -/
theorem addItem_kind_itemNotFound_iff {catalog : Catalog} (hcatalog : engine.catalog = some catalog)
    (hwell : catalog.WellFormed) :
    (engine.addItem handle id amount).kind? = some .itemNotFound ↔
      ∀ item ∈ catalog.toList, item.id ≠ id := by
  constructor
  · intro hkind item hitem hid
    have hlookup : engine.lookup id = .ok item := by
      rw [lookup, hcatalog]
      exact hwell.lookup_eq_ok_iff.2 ⟨hitem, hid⟩
    have honly : (engine.lookup id).RefusesOnly [] := by
      rw [hlookup]
      exact Outcome.refusesOnly_ok
    exact (addItem_refusesOnly hcart honly).kind?_ne (by simp) hkind
  · intro hids
    have hlookup : engine.lookup id = .refuse (.itemNotFound id) := by
      rw [lookup, hcatalog]
      exact hwell.lookup_eq_refuse hids
    rw [addItem_of_allowed hcart hpos hle, hlookup]
    simp [Outcome.refuse, Outcome.kind?, Refusal.kind]

/-- With the item at hand it is added exactly when there is room for it, and else refused as too
large. -/
theorem addItem_of_item {item : Item} (hitem : engine.lookup id = .ok item) {bound : Option Int64}
    (hwell : cart.WellFormed bound) (hprice : 0 ≤ item.unitPrice.value) :
    ((∃ after, engine.addItem handle id amount = .ok after) ↔
      cart.HasRoom item amount engine.config.maxLineQuantity) ∧
    (¬cart.HasRoom item amount engine.config.maxLineQuantity →
      engine.addItem handle id amount =
        .refuse (Cart.quantityTooLarge engine.config.maxLineQuantity)) ∧
    ∀ after, engine.addItem handle id amount = .ok after →
      ∃ sold, after = { engine with carts := engine.carts.put handle sold } ∧
        cart.addItem item amount engine.config.maxLineQuantity = .ok sold := by
  rw [addItem_of_allowed hcart hpos hle, hitem, ok_bind]
  have hadd : (∃ sold, cart.addItem item amount engine.config.maxLineQuantity = .ok sold) ↔
      1 ≤ amount.toInt ∧ cart.HasRoom item amount engine.config.maxLineQuantity :=
    hwell.exists_addItem_iff hprice
  refine ⟨?_, ?_, ?_⟩
  · constructor
    · rintro ⟨after, hafter⟩
      rcases bind_eq_ok_iff.1 hafter with ⟨sold, hsold, _⟩
      exact (hadd.1 ⟨sold, hsold⟩).2
    · intro hroom
      obtain ⟨sold, hsold⟩ := hadd.2 ⟨hpos, hroom⟩
      exact ⟨_, bind_eq_ok_iff.2 ⟨sold, hsold, rfl⟩⟩
  · intro hroom
    rw [hwell.addItem_eq_refuse hpos hroom]
    rfl
  · intro after hafter
    rcases bind_eq_ok_iff.1 hafter with ⟨sold, hsold, heq⟩
    cases heq
    exact ⟨sold, rfl, hsold⟩

end Allowed

/-! ## The whole rule -/

/-- What becomes of a quantity of an item under a handle of a reachable engine.  It is refused
for the handle exactly when this names no cart; else as a quantity when it is not positive or
above the ceiling; else for lack of a catalog exactly when none is in force; else for lack of the
item exactly when no item of the catalog has the id.  Else it is added exactly when the line and
the whole cart are in range then, in unbounded integers, and refused as too large otherwise.
When it is added, its line has more of it and stays in its place, or there is a new line at the
end, and nothing else changes. -/
theorem Reachable.addItem_exact (h : engine.Reachable) (handle : Handle) (id : String)
    (amount : Int64) :
    let outcome := engine.addItem handle id amount
    let ceiling := engine.config.maxLineQuantity
    (outcome.kind? = some .invalidHandle ↔ engine.carts.cart? handle = none) ∧
    ∀ cart, engine.carts.cart? handle = some cart →
      (amount.toInt < 1 → outcome = .refuse (.invalidQuantity (.mustBePositive "qty"))) ∧
      (∀ max ∈ ceiling, 1 ≤ amount.toInt → max.toInt < amount.toInt →
        outcome = .refuse (.invalidQuantity (.outOfRange "qty" 1 max))) ∧
      (1 ≤ amount.toInt → (∀ max ∈ ceiling, amount.toInt ≤ max.toInt) →
        (outcome.kind? = some .catalogNotLoaded ↔ engine.catalog = none) ∧
        ∀ catalog, engine.catalog = some catalog →
          (outcome.kind? = some .itemNotFound ↔ ∀ item ∈ catalog.toList, item.id ≠ id) ∧
          ∀ item ∈ catalog.toList, item.id = id →
            ((∃ after, outcome = .ok after) ↔ cart.HasRoom item amount ceiling) ∧
            (¬cart.HasRoom item amount ceiling →
              outcome = .refuse (.invalidQuantity
                (.outOfRange "qty" 1 (ceiling.getD Int64.maxValue)))) ∧
            ∀ after, outcome = .ok after →
              ∃ sold, after = { engine with carts := engine.carts.put handle sold } ∧
                (∀ other, after.carts.cart? other =
                  if other = handle then some sold else engine.carts.cart? other) ∧
                sold.tendered = cart.tendered ∧
                Cart.Added item amount cart.lines sold.lines) := by
  intro outcome ceiling
  have hwell := h.wellFormed
  constructor
  · cases hcart : engine.carts.cart? handle with
    | none =>
      simp [outcome, addItem_of_not_live hcart, Refusal.kind]
    | some cart =>
      simp only [reduceCtorEq, iff_false]
      exact (addItem_refusesOnly hcart (engine.lookup_refusesOnly id)).kind?_ne (by simp)
  · intro cart hcart
    refine ⟨addItem_of_not_positive hcart, ?_, ?_⟩
    · intro max hmax hpos habove
      exact addItem_of_above hcart hpos hmax habove
    · intro hpos hle
      refine ⟨addItem_kind_catalogNotLoaded_iff hcart hpos hle, ?_⟩
      intro catalog hcatalog
      have hitems := hwell.catalog catalog hcatalog
      refine ⟨addItem_kind_itemNotFound_iff hcart hpos hle hcatalog hitems, ?_⟩
      intro item hitem hid
      have hlookup : engine.lookup id = .ok item := by
        rw [lookup, hcatalog]
        exact hitems.lookup_eq_ok_iff.2 ⟨hitem, hid⟩
      have hprice := Item.price_nonneg_of_check
        (hitems.check item (Array.mem_toList_iff.1 hitem))
      rcases addItem_of_item hcart hpos hle hlookup (hwell.cart handle cart hcart) hprice with
        ⟨hadded, hrefused, hsold⟩
      refine ⟨hadded, hrefused, ?_⟩
      intro after hafter
      rcases hsold after hafter with ⟨sold, rfl, hadd⟩
      rcases Cart.of_addItem_eq_ok hadd with ⟨line, _, hlines, hchange⟩
      exact ⟨sold, rfl, Registry.cart?_put hcart, by rw [hlines], hchange⟩

/-- Under a ceiling of three a cart of two teas has room for one more and not for two; an ale is
not sold, and a made-up handle names no cart. -/
theorem Reachable.addItem_exact_last_tea :
    let config : Config := { maxLineQuantity := some 3 }
    let tea : Item := ⟨"TEA", "Tea", ⟨400⟩⟩
    let table : Handle := ⟨1, 0⟩
    let engine := ((startingAt config 1).run
      [.loadCatalog (Catalog.textOfItems [tea]), .createCart, .addItem table "TEA" 2]).2
    engine.Reachable ∧
      engine.carts.cart? table = some ⟨[⟨"TEA", "Tea", ⟨400⟩, 2⟩], ⟨0⟩⟩ ∧
      (∃ after sold, engine.addItem table "TEA" 1 = .ok after ∧
        after.carts.cart? table = some sold ∧
        Cart.Added tea 1 [⟨"TEA", "Tea", ⟨400⟩, 2⟩] sold.lines) ∧
      engine.addItem table "TEA" 2 = .refuse (.invalidQuantity (.outOfRange "qty" 1 3)) ∧
      (engine.addItem table "ALE" 1).kind? = some .itemNotFound ∧
      (engine.addItem ⟨9, 9⟩ "TEA" 1).kind? = some .invalidHandle := by
  intro config tea table engine
  have hreachable : engine.Reachable := ⟨config, 1, _, rfl⟩
  rcases Catalog.exists_ofText_textOfItems [tea] (by decide) (by decide) with
    ⟨catalog, hcatalog, hlist, hlookup⟩
  have htea : catalog.lookup "TEA" = .ok tea := hlookup tea List.mem_cons_self
  let holding (cart : Cart) : Engine := ⟨config, some catalog, ⟨#[⟨1, some cart⟩], [], 1, 1⟩⟩
  let two : Cart := ⟨[⟨"TEA", "Tea", ⟨400⟩, 2⟩], ⟨0⟩⟩
  have hload : (startingAt config 1).step (.loadCatalog (Catalog.textOfItems [tea])) =
      (.ok (.count catalog.size), ⟨config, some catalog, .startingAt 1⟩) :=
    step_of_perform (perform_loadCatalog hcatalog)
  have hcreate : step ⟨config, some catalog, .startingAt 1⟩ .createCart =
      (.ok (.handle table), holding {}) := rfl
  have htwo : Cart.addItem {} tea 2 config.maxLineQuantity = .ok two := by decide +kernel
  have hadd : step (holding {}) (.addItem table "TEA" 2) = (.ok .done, holding two) :=
    step_of_perform (perform_addItem rfl htea htwo)
  have hengine : engine = holding two := by
    simp only [engine, run_cons, hload, hcreate, hadd]
    rfl
  have hcart : engine.carts.cart? table = some two := by
    rw [hengine]
    rfl
  have hin_force : engine.catalog = some catalog := by rw [hengine]
  have hceiling : engine.config.maxLineQuantity = some 3 := by
    rw [hengine]
  have hmem : tea ∈ catalog.toList := by simp [hlist]
  have hallowed : ∀ amount : Int64, amount.toInt ≤ 3 →
      ∀ max ∈ engine.config.maxLineQuantity, amount.toInt ≤ max.toInt := by
    intro amount hle max hmax
    rw [hceiling] at hmax
    cases hmax
    exact hle
  have hroom : two.HasRoom tea 1 engine.config.maxLineQuantity := by
    rw [hceiling]
    exact ⟨by decide, by simp; decide, by decide⟩
  have hfull : ¬two.HasRoom tea 2 engine.config.maxLineQuantity := by
    rw [hceiling]
    intro hroom
    exact absurd (hroom.quantity_le_ceiling 3 rfl) (by decide)
  rcases (hreachable.addItem_exact table "TEA" 1).2 two hcart with ⟨_, _, hone⟩
  rcases (hone (by decide) (hallowed 1 (by decide))).2 catalog hin_force with ⟨_, hone⟩
  rcases hone tea hmem rfl with ⟨hadded, _, hsold⟩
  rcases (hreachable.addItem_exact table "TEA" 2).2 two hcart with ⟨_, _, hmore⟩
  rcases (hmore (by decide) (hallowed 2 (by decide))).2 catalog hin_force with ⟨_, hmore⟩
  rcases hmore tea hmem rfl with ⟨_, hrefused, _⟩
  rcases (hreachable.addItem_exact table "ALE" 1).2 two hcart with ⟨_, _, hale⟩
  rcases (hale (by decide) (hallowed 1 (by decide))).2 catalog hin_force with ⟨hmissing, _⟩
  obtain ⟨after, hafter⟩ := hadded.2 hroom
  rcases hsold after hafter with ⟨sold, rfl, hview, _, hchange⟩
  refine ⟨hreachable, hcart, ⟨_, sold, hafter, ?_, hchange⟩, ?_, ?_, ?_⟩
  · rw [hview, if_pos rfl]
  · have hexact := hrefused hfull
    rw [hceiling] at hexact
    exact hexact
  · exact hmissing.2 (by simp [hlist, tea])
  · apply (hreachable.addItem_exact ⟨9, 9⟩ "TEA" 1).1.2
    rw [hengine]
    rfl

end Engine
end Till
