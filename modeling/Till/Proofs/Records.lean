import Till.Cart.Line
import Till.Config.Basic
import Till.Proofs.Json.Fields
import Till.Proofs.Json.Notation

/-!
# Records of lines and configurations

A line and a configuration are written as objects, and they are read from the object and from the
array of their fields.  Either way the same value comes back, whatever texts and words it holds,
since reading a record does not look at the rules.  Only a configuration text is held against the
rules afterwards.

Main results:

- Theorem {lit}`Line.ofText?_of_gives`, {lit}`Config.ofText?_of_gives`: a text that shows the fields
  of a record is read as this record.
- Theorem {lit}`Config.ofText_text`: a written configuration is read back when it keeps the rules.
- Theorem {lit}`records_round_trip`: written lines and configurations are read back.
-/

namespace Till

open Json

/-! ## Written records -/

namespace Json.Record

variable {written : List (String × List Char)} {fields : Record}

/-- The rows are what the fields are written as, under the same names. -/
def Writes (written : List (String × List Char)) (fields : Record) : Prop :=
  List.Forall₂ (fun row field => row.1 = field.1 ∧ Presents row.2 field.2) written fields

/-- An object of written fields shows the object of the fields. -/
theorem Writes.shows_object (h : Writes written fields) :
    Shows (String.ofList (Compact.object written))
      (.object (fields.map fun field => (some field.1, field.2))) := by
  refine .bare (.compactObject ?_) rfl
  rw [List.forall₂_map_right_iff]
  exact h.imp fun _ _ hfield => ⟨congrArg some hfield.1.symm, hfield.2⟩

/-- An array of written fields shows the array of the fields. -/
theorem Writes.shows_array (h : Writes written fields) :
    Shows (String.ofList (Compact.array (written.map Prod.snd)))
      (.array (fields.map Prod.snd)) := by
  refine .bare (.compactArray ?_) rfl
  rw [List.forall₂_map_left_iff, List.forall₂_map_right_iff]
  exact h.imp fun _ _ hfield => hfield.2

end Json.Record

/-! ## Lines -/

namespace Line

variable {line : Line} {value : Value} {text : String}

/-- The fields of a line. -/
def record (line : Line) : Record :=
  [("item_id", .string (some line.itemId)), ("name", .string (some line.name)),
   ("unit_price", .number (Decimal.write line.unitPrice.value)),
   ("quantity", .number (Decimal.write line.quantity.toInt))]

/-- The fields of a line as they are written. -/
def rows (line : Line) : List (String × List Char) :=
  [("item_id", Compact.string line.itemId), ("name", Compact.string line.name),
   ("unit_price", Compact.integer line.unitPrice.value),
   ("quantity", Compact.integer line.quantity.toInt)]

/-- The names of the fields differ. -/
theorem nodup_fieldNames : fieldNames.Nodup := by
  decide

/-- The fields of a line are written in their order. -/
theorem writes_rows (line : Line) : Record.Writes line.rows line.record :=
  .cons ⟨rfl, .compactString _⟩ (.cons ⟨rfl, .compactString _⟩
    (.cons ⟨rfl, .number (Number.isLiteral_write _)⟩
      (.cons ⟨rfl, .number (Number.isLiteral_write _)⟩ .nil)))

/-- A value that gives the fields of a line is read as the line. -/
theorem ofValue?_of_gives (h : Record.Gives fieldNames line.record.field? value) :
    ofValue? value = some line := by
  rcases h.exists_ofValue? nodup_fieldNames with ⟨record, hrecord, hfields⟩
  have hid : record.field? "item_id" = some (.string (some line.itemId)) :=
    hfields "item_id" (by decide)
  have hname : record.field? "name" = some (.string (some line.name)) :=
    hfields "name" (by decide)
  have hprice : record.field? "unit_price" = some (.number (Decimal.write line.unitPrice.value)) :=
    hfields "unit_price" (by decide)
  have hquantity : record.field? "quantity" = some (.number (Decimal.write line.quantity.toInt)) :=
    hfields "quantity" (by decide)
  rw [ofValue?, hrecord]
  simp only [hid, hname, hprice, hquantity, Option.bind_eq_bind, Option.bind_some, Value.text?,
    Money.value, Value.int64?_write]
  rfl

/-- A text that shows the fields of a line is read as the line. -/
theorem ofText?_of_gives (hshows : Shows text value)
    (h : Record.Gives fieldNames line.record.field? value) :
    (Value.ofText? text).bind ofValue? = some line := by
  rw [hshows.ofText?_eq_some, Option.bind_some, ofValue?_of_gives h]

end Line

/-! ## Configurations -/

namespace Config

variable {config : Config} {value : Value} {text : String}

/-- A ceiling as a value. -/
def ceilingValue : Option Int64 → Value
  | none => .null
  | some max => .number (Decimal.write max.toInt)

/-- The fields of a configuration. -/
def record (config : Config) : Record :=
  [("change_policy", .string (some config.changePolicy.name)),
   ("max_line_quantity", ceilingValue config.maxLineQuantity)]

/-- The fields of a configuration as they are written. -/
def rows (config : Config) : List (String × List Char) :=
  [("change_policy", config.changePolicy.write),
   ("max_line_quantity", writeCeiling config.maxLineQuantity)]

/-- The names of the fields differ. -/
theorem nodup_fieldNames : fieldNames.Nodup := by
  decide

/-- A ceiling is written as its value. -/
theorem presents_writeCeiling (ceiling : Option Int64) :
    Presents (writeCeiling ceiling) (ceilingValue ceiling) := by
  cases ceiling with
  | none => exact .null
  | some max => exact .number (Number.isLiteral_write max.toInt)

/-- A written ceiling is read as itself. -/
theorem ceilingOfValue?_ceilingValue (ceiling : Option Int64) :
    ceilingOfValue? (ceilingValue ceiling) = some ceiling := by
  cases ceiling with
  | none => rfl
  | some max =>
    rw [ceilingValue, ceilingOfValue?, Value.int64?_write, Option.map_some]
    exact nofun

/-- The fields of a configuration are written in their order. -/
theorem writes_rows (config : Config) : Record.Writes config.rows config.record :=
  .cons ⟨rfl, .compactString _⟩ (.cons ⟨rfl, presents_writeCeiling _⟩ .nil)

/-- A value that gives the fields of a configuration is read as the configuration. -/
theorem ofValue?_of_gives (h : Record.Gives fieldNames config.record.field? value) :
    ofValue? value = some config := by
  rcases h.exists_ofValue? nodup_fieldNames with ⟨record, hrecord, hfields⟩
  have hpolicy : record.field? "change_policy" = some (.string (some config.changePolicy.name)) :=
    hfields "change_policy" (by decide)
  have hceiling : record.field? "max_line_quantity" = some (ceilingValue config.maxLineQuantity) :=
    hfields "max_line_quantity" (by decide)
  rw [ofValue?, hrecord]
  simp only [hpolicy, hceiling, Option.bind_eq_bind, Option.bind_some, ChangePolicy.ofValue?,
    ChangePolicy.ofName?_name, ceilingOfValue?_ceilingValue]
  rfl

/-- A text that shows the fields of a configuration is read as the configuration. -/
theorem ofText?_of_gives (hshows : Shows text value)
    (h : Record.Gives fieldNames config.record.field? value) :
    (Value.ofText? text).bind ofValue? = some config := by
  rw [hshows.ofText?_eq_some, Option.bind_some, ofValue?_of_gives h]

/-- A written configuration is read back. -/
theorem ofText?_text (config : Config) : (Value.ofText? config.text).bind ofValue? = some config :=
  ofText?_of_gives config.writes_rows.shows_object (Record.gives_object nodup_fieldNames)

/-- A configuration text is held against the rules: a written configuration is read back when it
keeps them, and else is refused for the rule that it breaks. -/
theorem ofText_text (config : Config) : ofText config.text = config.check.map fun _ => config := by
  rw [ofText, ofText?_text]
  dsimp only
  cases config.check <;> rfl

/-- A configuration that breaks a rule is malformed. -/
theorem exists_malformed_of_check (h : config.check ≠ .ok ()) :
    ∃ problem, config.check = .error (.malformedInput problem) := by
  unfold check at h ⊢
  split at h
  · exact absurd rfl h
  · split at h
    · rename_i hlt
      exact ⟨_, if_pos hlt⟩
    · exact absurd rfl h

end Config

/-- A written line is read back. -/
theorem Line.ofText?_write (line : Line) :
    (Value.ofText? (String.ofList line.write)).bind ofValue? = some line :=
  ofText?_of_gives line.writes_rows.shows_object (Record.gives_object nodup_fieldNames)

/-! ## Both forms -/

/-- Every line and every configuration is read back from its text, and from every text of the array
of its fields in their order, the compact one among them, whether it keeps the rules or not.  The
text of a configuration is a configuration text exactly when the configuration keeps the rules, and
is malformed otherwise.  So no two lines and no two configurations have the same text. -/
theorem records_round_trip :
    (∀ line : Line,
      (Value.ofText? (String.ofList line.write)).bind Line.ofValue? = some line ∧
      Shows (String.ofList (Compact.array (line.rows.map Prod.snd)))
        (.array (line.record.map Prod.snd)) ∧
      ∀ text, Shows text (.array (line.record.map Prod.snd)) →
        (Value.ofText? text).bind Line.ofValue? = some line) ∧
    (∀ config : Config,
      (Value.ofText? config.text).bind Config.ofValue? = some config ∧
      Shows (String.ofList (Compact.array (config.rows.map Prod.snd)))
        (.array (config.record.map Prod.snd)) ∧
      (∀ text, Shows text (.array (config.record.map Prod.snd)) →
        (Value.ofText? text).bind Config.ofValue? = some config) ∧
      (Config.ofText config.text = .ok config ↔ config.check = .ok ()) ∧
      (config.check ≠ .ok () →
        ∃ problem, Config.ofText config.text = .error (.malformedInput problem))) ∧
    (∀ line other : Line, line.write = other.write → line = other) ∧
    ∀ config other : Config, config.text = other.text → config = other := by
  refine ⟨?_, ?_, ?_, ?_⟩
  · intro line
    exact ⟨line.ofText?_write, line.writes_rows.shows_array, fun text hshows =>
      Line.ofText?_of_gives hshows (Record.gives_array Line.nodup_fieldNames)⟩
  · intro config
    refine ⟨config.ofText?_text, config.writes_rows.shows_array, fun text hshows =>
      Config.ofText?_of_gives hshows (Record.gives_array Config.nodup_fieldNames), ?_, ?_⟩
    · rw [config.ofText_text]
      cases config.check with
      | error cause => exact iff_of_false nofun nofun
      | ok _ => exact iff_of_true rfl rfl
    · intro hbroken
      rcases Config.exists_malformed_of_check hbroken with ⟨problem, hproblem⟩
      exact ⟨problem, by rw [config.ofText_text, hproblem]; rfl⟩
  · intro line other hsame
    have hread := line.ofText?_write
    rw [hsame, other.ofText?_write] at hread
    exact (Option.some.inj hread).symm
  · intro config other hsame
    have hread := config.ofText?_text
    rw [hsame, other.ofText?_text] at hread
    exact (Option.some.inj hread).symm

/-- The least word as a price, no quantity, no name, and a quote and a zero character as the id: no
cart holds such a line, and still it is read back from the array.  So is a configuration that allows
no quantity at all, of which the text is malformed. -/
theorem records_round_trip_against_rules :
    let line : Line := ⟨"\"\x00", "", ⟨Int64.minValue⟩, 0⟩
    let config : Config := ⟨.clampToZero, some 0⟩
    (Value.ofText? "[\"\\\"\\u0000\",\"\",-9223372036854775808,0]").bind Line.ofValue? =
      some line ∧
    config.text = "\x7b\"change_policy\":\"clamp_to_zero\",\"max_line_quantity\":0\x7d" ∧
    config.check ≠ .ok () ∧
    (Value.ofText? config.text).bind Config.ofValue? = some config ∧
    ∃ problem, Config.ofText config.text = .error (.malformedInput problem) := by
  intro line config
  have hbroken : config.check ≠ .ok () := by
    have hcheck : config.check = .error (.malformedInput .ceilingNotPositive) := rfl
    rw [hcheck]
    exact nofun
  have harray : "[\"\\\"\\u0000\",\"\",-9223372036854775808,0]" =
      String.ofList (Compact.array (line.rows.map Prod.snd)) := by
    decide +kernel
  refine ⟨?_, by decide +kernel, hbroken, (records_round_trip.2.1 config).1,
    (records_round_trip.2.1 config).2.2.2.2 hbroken⟩
  rw [harray]
  exact (records_round_trip.1 line).2.2 _ (records_round_trip.1 line).2.1

end Till
