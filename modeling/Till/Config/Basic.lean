import Till.Config.Policy

/-!
# Engine configurations

A configuration holds the change policy and, if there is one, the ceiling on the
quantity of a line.  As a record it has the fields `change_policy` and
`max_line_quantity`; an absent field has its default.
-/

namespace Till

/-- What an engine is set up with. -/
structure Config where
  changePolicy : ChangePolicy := .report
  maxLineQuantity : Option Int64 := none
  deriving DecidableEq, Repr, Inhabited

namespace Config

/-- A ceiling allows at least a quantity of one. -/
def check (config : Config) : Except Refusal Unit :=
  match config.maxLineQuantity with
  | none => .ok ()
  | some max =>
    if max < 1 then .error (.malformedInput .ceilingNotPositive) else .ok ()

/-! ## Documents -/

/-- The names of the fields of a configuration record, in order. -/
def fieldNames : List String :=
  ["change_policy", "max_line_quantity"]

/-- The ceiling that a value presents, where null stands for none. -/
def ceilingOfValue? : Json.Value → Option (Option Int64)
  | .null => some none
  | value => value.int64?.map some

/-- The configuration that a value presents. -/
def ofValue? (value : Json.Value) : Option Config := do
  let fields ← Json.Record.ofValue? fieldNames value
  let policy ←
    match fields.field? "change_policy" with
    | none => some .report
    | some value => ChangePolicy.ofValue? value
  let ceiling ←
    match fields.field? "max_line_quantity" with
    | none => some none
    | some value => ceilingOfValue? value
  return ⟨policy, ceiling⟩

/-- The configuration that a text presents, which has to keep the rules. -/
def ofText (text : String) : Except Refusal Config :=
  match (Json.Value.ofText? text).bind ofValue? with
  | none => .error (.malformedInput (.configText text))
  | some config =>
    match config.check with
    | .error cause => .error cause
    | .ok () => .ok config

/-- A ceiling as a value of a record. -/
def writeCeiling : Option Int64 → List Char
  | none => Json.Compact.null
  | some max => Json.Compact.integer max.toInt

/-- A configuration as a record. -/
def write (config : Config) : List Char :=
  Json.Compact.object
    [("change_policy", config.changePolicy.write),
     ("max_line_quantity", writeCeiling config.maxLineQuantity)]

/-- The text that presents a configuration. -/
def text (config : Config) : String :=
  String.ofList config.write

end Config
end Till
