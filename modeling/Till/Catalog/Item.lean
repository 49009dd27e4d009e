import Till.Json.Compact
import Till.Json.Record
import Till.Money
import Till.Rules

/-!
# Catalog items

An item is sold by its id and has a display name and a price.  As a record it has
the fields `id`, `name` and `unit_cents`; an absent name is the empty one.
-/

namespace Till

/-- An item that can be sold. -/
structure Item where
  id : String
  name : String
  unitPrice : Money
  deriving DecidableEq, Repr, Inhabited

namespace Item

/-- The rules on id, name and price, in this order; the first broken one counts. -/
def check (item : Item) : Except Violation Unit := do
  Rules.itemId item.id
  Rules.itemName item.name
  Rules.unitPrice item.unitPrice.cents

/-- The names of the fields of an item record, in order. -/
def fieldNames : List String :=
  ["id", "name", "unit_cents"]

/-- The item that a value presents. -/
def ofValue? (value : Json.Value) : Option Item := do
  let fields ← Json.Record.ofValue? fieldNames value
  let id ← (← fields.field? "id").text?
  let name ←
    match fields.field? "name" with
    | none => some ""
    | some value => value.text?
  let cents ← (← fields.field? "unit_cents").int64?
  return ⟨id, name, ⟨cents⟩⟩

/-- An item as a record. -/
def write (item : Item) : List Char :=
  Json.Compact.object
    [("id", Json.Compact.string item.id),
     ("name", Json.Compact.string item.name),
     ("unit_cents", Json.Compact.integer item.unitPrice.value)]

end Item
end Till
