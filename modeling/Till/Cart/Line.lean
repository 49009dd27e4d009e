import Till.Catalog.Item

/-!
# Cart lines

A line holds what was bought of one item.  Name and price are those of the item
when the line was opened, and later catalogs do not change them.

Main results:

- Theorem {lit}`Line.total_eq_ok_iff`: the total of a line is the exact product of
  price and quantity.
-/

namespace Till

/-- A quantity of one item at a fixed price. -/
structure Line where
  itemId : String
  name : String
  unitPrice : Money
  quantity : Int64
  deriving DecidableEq, Repr, Inhabited

namespace Line

/-- A line that is opened with a quantity of an item. -/
def ofItem (item : Item) (quantity : Int64) : Line :=
  ⟨item.id, item.name, item.unitPrice, quantity⟩

/-- The price of the whole line. -/
def total (line : Line) : Except Fault Money :=
  line.unitPrice.times line.quantity

/-- The price of the whole line, or nothing when it does not fit. -/
def total? (line : Line) : Option Money :=
  line.unitPrice.checkedTimes line.quantity

/-- The names of the fields of a line record, in order. -/
def fieldNames : List String :=
  ["item_id", "name", "unit_price", "quantity"]

/-- The line that a value presents. -/
def ofValue? (value : Json.Value) : Option Line := do
  let fields ← Json.Record.ofValue? fieldNames value
  let itemId ← (← fields.field? "item_id").text?
  let name ← (← fields.field? "name").text?
  let unitPrice ← (← fields.field? "unit_price").int64?
  let quantity ← (← fields.field? "quantity").int64?
  return ⟨itemId, name, ⟨unitPrice⟩, quantity⟩

/-- A line as a record. -/
def write (line : Line) : List Char :=
  Json.Compact.object
    [("item_id", Json.Compact.string line.itemId),
     ("name", Json.Compact.string line.name),
     ("unit_price", Json.Compact.integer line.unitPrice.value),
     ("quantity", Json.Compact.integer line.quantity.toInt)]

/-- The total of a line is the exact product of price and quantity. -/
theorem total_eq_ok_iff {line : Line} {amount : Money} :
    line.total = .ok amount ↔
      amount.value = line.unitPrice.value * line.quantity.toInt :=
  Money.times_eq_ok_iff

end Line
end Till
