import Till.Proofs.Catalog.Lookup
import Till.Proofs.Json.Writing

/-!
# Texts of catalogs

The text of some items presents these items, in order and with every character and every price
that an item may have.  When they keep the rules and have ids of their own, reading the text
builds a catalog of them.

Main results:

- Theorem {lit}`Item.ofValue?_value`: an item as a value presents the item.
- Theorem {lit}`Catalog.itemsOfText?_textOfItems`: the text of items presents the items.
- Theorem {lit}`Catalog.exists_ofText_textOfItems`: the text of items gives a catalog in which each
  of them is found.
-/

namespace Till

/-! ## Items -/

namespace Item

/-- An item as a value. -/
def value (item : Item) : Json.Value :=
  .object
    [(some "id", .string (some item.id)),
     (some "name", .string (some item.name)),
     (some "unit_cents", .number (Decimal.write item.unitPrice.value))]

/-- A written item stands for the item as a value. -/
theorem standsFor_write (item : Item) :
    Json.Compact.StandsFor item.write item.value.tokens := by
  apply Json.Compact.StandsFor.object
  exact .cons ⟨rfl, .string item.id⟩ (.cons ⟨rfl, .string item.name⟩
    (.cons ⟨rfl, .integer item.unitPrice.value⟩ .nil))

/-- An item as a value presents the item. -/
theorem ofValue?_value (item : Item) : ofValue? item.value = some item := by
  have hfields : Json.Record.ofValue? fieldNames item.value =
      some [("unit_cents", .number (Decimal.write item.unitPrice.value)),
        ("name", .string (some item.name)), ("id", .string (some item.id))] := by
    simp [value, Json.Record.ofValue?, Json.Record.add?, fieldNames, List.lookup_cons]
  simp [ofValue?, hfields, Json.Record.field?, List.lookup_cons, Json.Value.text?, Money.value,
    Json.Value.int64?_write]

end Item

namespace Catalog

/-! ## Texts of items -/

/-- Items as a value. -/
def valueOfItems (items : List Item) : Json.Value :=
  .object [(some "items", .array (items.map Item.value))]

/-- The text of items is one of the grammar, for the items as a value. -/
theorem lexes_textOfItems (items : List Item) :
    Json.Lexes (textOfItems items).toList (valueOfItems items).tokens [] := by
  have hitems := Json.Compact.StandsFor.array_map Item.standsFor_write items
  rw [textOfItems, String.toList_ofList]
  exact (Json.Compact.StandsFor.object (.cons ⟨rfl, hitems⟩ .nil)).lexes

/-- The text of items presents the items. -/
theorem itemsOfText?_textOfItems (items : List Item) :
    itemsOfText? (textOfItems items) = some items := by
  have hfields : Json.Record.ofValue? ["items"] (valueOfItems items) =
      some [("items", .array (items.map Item.value))] := by
    simp [valueOfItems, Json.Record.ofValue?, Json.Record.add?]
  rw [itemsOfText?, Json.Value.ofText?_of_lexes (lexes_textOfItems items), Option.bind_some,
    itemsOfValue?, hfields]
  exact Json.Value.mapM_map_eq_some Item.ofValue?_value items

/-- The text of items is not blank. -/
theorem allBlank_textOfItems (items : List Item) :
    Blank.allBlank (textOfItems items) = false := by
  have hbrace : Blank.isBlank '\x7b' = false := by decide
  simp [Blank.allBlank, textOfItems, Json.Compact.object, hbrace]

/-- The text of items gives the catalog of the items. -/
theorem ofText_textOfItems (items : List Item) : ofText (textOfItems items) = ofItems items := by
  simp [ofText, allBlank_textOfItems, itemsOfText?_textOfItems]

/-- The text of items that keep the rules and have ids of their own gives a catalog of these items,
in which each is found by its id. -/
theorem exists_ofText_textOfItems (items : List Item)
    (hcheck : ∀ item ∈ items, item.check = .ok ()) (hids : (items.map Item.id).Nodup) :
    ∃ catalog, ofText (textOfItems items) = .ok catalog ∧ catalog.toList = items ∧
      ∀ item ∈ items, catalog.lookup item.id = .ok item := by
  rcases exists_ofText_eq_ok _ items (allBlank_textOfItems items) (itemsOfText?_textOfItems items)
    hcheck hids with ⟨catalog, hcatalog, hwell, rfl⟩
  exact ⟨catalog, hcatalog, rfl, fun item hitem => hwell.lookup_eq_ok_iff.2 ⟨hitem, rfl⟩⟩

/-! ## Texts of catalogs -/

/-- The text of a well-formed catalog gives a catalog of the same items. -/
theorem WellFormed.exists_ofText_text {catalog : Catalog} (h : catalog.WellFormed) :
    ∃ back, ofText catalog.text = .ok back ∧ back.toList = catalog.toList := by
  have hcheck : ∀ item ∈ catalog.toList, item.check = .ok () := by
    intro item hitem
    exact h.check item (Array.mem_toList_iff.1 hitem)
  rcases exists_ofText_textOfItems catalog.toList hcheck h.ids_nodup with ⟨back, hback, hlist, _⟩
  exact ⟨back, hback, hlist⟩

end Catalog
end Till
