import Std.Data.HashMap
import Till.Catalog.Item

/-!
# Catalogs

A catalog holds items in the order in which they were given and finds each by its
id.  It is built item by item: an item that breaks a rule, or whose id is already
taken, is refused with its position.
-/

namespace Till

/-- Items in order, with the position of each id. -/
structure Catalog where
  items : Array Item
  positions : Std.HashMap String Nat

namespace Catalog

/-- No items. -/
def empty : Catalog := ⟨#[], ∅⟩

/-- The number of items. -/
def size (catalog : Catalog) : Nat :=
  catalog.items.size

/-- The items in order. -/
def toList (catalog : Catalog) : List Item :=
  catalog.items.toList

/-- A catalog with one more item at its end. -/
def add (catalog : Catalog) (item : Item) : Except Refusal Catalog :=
  match item.check with
  | .error rule => .error (.invalidItem catalog.size rule)
  | .ok () =>
    if catalog.positions.contains item.id then
      .error (.invalidItem catalog.size (.duplicate "id" item.id))
    else
      .ok ⟨catalog.items.push item, catalog.positions.insert item.id catalog.size⟩

/-- The catalog of a list of items. -/
def ofItems (items : List Item) : Except Refusal Catalog :=
  items.foldlM add empty

/-- The item of this id. -/
def lookup (catalog : Catalog) (id : String) : Outcome Item :=
  match catalog.positions[id]? with
  | none => .refuse (.itemNotFound id)
  | some position =>
    match catalog.items[position]? with
    | some item => .ok item
    | none => .error (.faulted (.outOfBounds position catalog.size))

end Catalog
end Till
