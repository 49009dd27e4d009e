import Till.Catalog.Basic
import Till.Text.Blank

/-!
# Catalog documents

A catalog is exchanged as a text: a record with the one field `items`, a list of
item records.  What is read may have further members of other names; what is
written has the items in order and nothing else.
-/

namespace Till
namespace Catalog

/-- The items that a value presents. -/
def itemsOfValue? (value : Json.Value) : Option (List Item) := do
  let fields ← Json.Record.ofValue? ["items"] value
  match ← fields.field? "items" with
  | .array elements => elements.mapM Item.ofValue?
  | _ => none

/-- The items that a text presents; they need not keep the rules. -/
def itemsOfText? (text : String) : Option (List Item) :=
  (Json.Value.ofText? text).bind itemsOfValue?

/-- The catalog that a text presents. -/
def ofText (text : String) : Except Refusal Catalog :=
  if Blank.allBlank text then .error (.malformedInput .blankCatalog)
  else
    match itemsOfText? text with
    | none => .error (.malformedInput (.catalogText text))
    | some items => ofItems items

/-- The text that presents a list of items. -/
def textOfItems (items : List Item) : String :=
  String.ofList (Json.Compact.object [("items", Json.Compact.array (items.map Item.write))])

/-- The text that presents a catalog. -/
def text (catalog : Catalog) : String :=
  textOfItems catalog.toList

end Catalog
end Till
