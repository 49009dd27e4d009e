import Till.Bounded
import Till.Json.Value

/-!
# Records

A record is a value with named fields.  It is presented by an object that holds the
fields in any order, beside members of other names, or by an array of the fields
in their declared order, of which some may be missing at the end.

Main results:

- Theorem {lit}`Record.ofValue?_array`: an array presents its elements under the
  declared names, in order.
-/

namespace Till
namespace Json

namespace Value

/-- The text of a string value. -/
def text? : Value → Option String
  | string text => text
  | _ => none

/-- The word that a number value stands for. -/
def int64? : Value → Option Int64
  | number literal => (Number.integer? literal).bind Bounded.ofInt?
  | _ => none

/-- A written word is read as the word. -/
theorem int64?_write (a : Int64) : int64? (.number (Decimal.write a.toInt)) = some a := by
  rw [int64?, Number.integer?_write, Option.bind_some]
  exact Bounded.ofInt?_toInt a

end Value

/-- The fields of a record that are present, by name. -/
abbrev Record := List (String × Value)

namespace Record

/-- A member of an object beside those already found: a known name may stand only
once, other names do not matter, and every key needs a text. -/
def add? (names : List String) (found : Record) :
    Option String × Value → Option Record
  | (none, _) => none
  | (some key, value) =>
    if names.contains key then
      if (found.lookup key).isSome then none else some ((key, value) :: found)
    else some found

/-- The record of the named fields that a value presents, if it presents one. -/
def ofValue? (names : List String) : Value → Option Record
  | .object members => members.foldlM (add? names) []
  | .array elements =>
    if elements.length ≤ names.length then some (names.zip elements) else none
  | _ => none

/-- The field of this name. -/
def field? (fields : Record) (name : String) : Option Value :=
  fields.lookup name

/-- An array presents its elements under the declared names, in order. -/
theorem ofValue?_array {names : List String} {elements : List Value}
    (h : elements.length ≤ names.length) :
    ofValue? names (.array elements) = some (names.zip elements) := by
  simp [ofValue?, h]

end Record
end Json
end Till
