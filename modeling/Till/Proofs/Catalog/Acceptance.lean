import Till.Engine.Command
import Till.Proofs.Catalog.Schema
import Till.Proofs.Json.Recognition

/-!
# Which texts are catalogs

A text is read as a list of items exactly when it shows a document of drafts whose prices are words.
The document and each of its rows are objects that have the members they need, or arrays that hold
the fields in their places.  Every other text is malformed, and an engine that loads it keeps its
catalog.

Main results:

- Theorem {lit}`Item.ofValue?_eq_some_iff`: the records that are read as items.
- Theorem {lit}`Catalog.itemsOfText?_eq_some_iff`: the texts that are read as items.
- Theorem {lit}`Engine.loads_shaped_only`: a text of another shape is malformed, and the catalog
  is kept.
-/

namespace Till

open Json

/-! ## Items -/

/-- A string value is its text. -/
theorem Json.Value.text?_eq_some_iff {value : Value} {text : String} :
    value.text? = some text ↔ value = .string (some text) := by
  constructor
  · intro h
    cases value with
    | string found =>
      cases h
      rfl
    | _ => cases h
  · rintro rfl
    rfl

/-- A word is read from a number literal. -/
theorem Json.Value.exists_literal_of_int64? {value : Value} {a : Int64}
    (h : value.int64? = some a) : ∃ literal, value = .number literal := by
  cases value with
  | number literal => exact ⟨literal, rfl⟩
  | _ => cases h

/-- The records that are read as items are those that give the fields of a draft. -/
theorem Item.ofValue?_eq_some_iff {value : Value} {item : Item} :
    ofValue? value = some item ↔
      ∃ draft : Draft, Record.Gives fieldNames draft.field value ∧ draft.item? = some item := by
  constructor
  · intro h
    simp only [ofValue?, Option.bind_eq_bind, Option.bind_eq_some_iff] at h
    rcases h with ⟨record, hrecord, idValue, hid, id, hidText, hrest⟩
    rw [Value.text?_eq_some_iff] at hidText
    subst hidText
    have hname : ∃ given : Option String,
        record.field? "name" = given.map (fun name => .string (some name)) ∧
          ∃ price cents, record.field? "unit_cents" = some price ∧ price.int64? = some cents ∧
            some ⟨id, given.getD "", ⟨cents⟩⟩ = some item := by
      split at hrest
      · rename_i hnone
        simp only [Option.bind_some, Option.bind_eq_some_iff] at hrest
        rcases hrest with ⟨price, hprice, cents, hcents, hitem⟩
        exact ⟨none, hnone, price, cents, hprice, hcents, hitem⟩
      · rename_i found hfound
        simp only [Option.bind_eq_some_iff] at hrest
        rcases hrest with ⟨name, hname, price, hprice, cents, hcents, hitem⟩
        rw [Value.text?_eq_some_iff] at hname
        subst hname
        exact ⟨some name, hfound, price, cents, hprice, hcents, hitem⟩
    rcases hname with ⟨given, hgiven, price, cents, hprice, hcents, hitem⟩
    rcases Value.exists_literal_of_int64? hcents with ⟨literal, rfl⟩
    refine ⟨⟨id, given, literal⟩,
      (Record.gives_of_ofValue? hrecord nodup_fieldNames).congr ?_, ?_⟩
    · intro field hfield
      simp only [fieldNames, List.mem_cons, List.not_mem_nil, or_false] at hfield
      rcases hfield with rfl | rfl | rfl
      · exact hid
      · exact hgiven
      · exact hprice
    · rw [Draft.item?, hcents]
      exact hitem
  · rintro ⟨draft, hgives, hitem⟩
    rw [ofValue?_of_gives hgives, hitem]

namespace Catalog

/-! ## Documents -/

/-- Rows that are related entry by entry through something have a row of it between them. -/
theorem exists_forall₂ {α β γ : Type} {R : α → β → Prop} {S : β → γ → Prop} {as : List α}
    {cs : List γ} (h : List.Forall₂ (fun a c => ∃ b, R a b ∧ S b c) as cs) :
    ∃ bs, List.Forall₂ R as bs ∧ List.Forall₂ S bs cs := by
  induction h with
  | nil => exact ⟨[], .nil, .nil⟩
  | cons hfirst _ ih =>
    rcases hfirst with ⟨b, hR, hS⟩
    rcases ih with ⟨bs, hRs, hSs⟩
    exact ⟨b :: bs, .cons hR hRs, .cons hS hSs⟩

/-- The texts that are read as items are those that show drafts whose prices are words. -/
theorem itemsOfText?_eq_some_iff {text : String} {items : List Item} :
    itemsOfText? text = some items ↔
      ∃ drafts, ShowsDrafts text drafts ∧ drafts.mapM Draft.item? = some items := by
  constructor
  · intro h
    rcases Option.bind_eq_some_iff.1 h with ⟨document, hdocument, hitems⟩
    simp only [itemsOfValue?, Option.bind_eq_bind, Option.bind_eq_some_iff] at hitems
    rcases hitems with ⟨record, hrecord, held, hheld, hitems⟩
    cases held with
    | array elements =>
      have hgives : Record.Gives ["items"] (documentField elements) document := by
        refine (Record.gives_of_ofValue? hrecord (by decide)).congr ?_
        intro name hname
        rw [List.mem_singleton.1 hname]
        exact hheld
      rcases exists_forall₂ ((mapM_eq_some_iff.1 hitems).imp fun _ _ =>
        Item.ofValue?_eq_some_iff.1) with ⟨drafts, hdrafts, hread⟩
      exact ⟨drafts, ⟨document, elements, Value.ofText?_eq_some_iff.1 hdocument, hgives, hdrafts⟩,
        mapM_eq_some_iff.2 hread⟩
    | _ => cases hitems
  · rintro ⟨drafts, hshows, hitems⟩
    rw [itemsOfText?_of_shows hshows, hitems]

/-- A text that is not read as items is malformed. -/
theorem ofText_eq_error_of_none {text : String} (h : itemsOfText? text = none) :
    ∃ problem, ofText text = .error (.malformedInput problem) := by
  unfold ofText
  split
  · exact ⟨_, rfl⟩
  · rw [h]
    exact ⟨_, rfl⟩

/-- A catalog text shows drafts. -/
theorem exists_showsDrafts {text : String} {catalog : Catalog} (h : ofText text = .ok catalog) :
    ∃ drafts, ShowsDrafts text drafts := by
  unfold ofText at h
  split at h
  · cases h
  · split at h
    · cases h
    · rename_i items hitems
      rcases itemsOfText?_eq_some_iff.1 hitems with ⟨drafts, hdrafts, _⟩
      exact ⟨drafts, hdrafts⟩

end Catalog

/-! ## Shapes -/

/-- The value is an object in which exactly one member has this name, and it holds this. -/
def Json.Value.Holds : Value → String → Value → Prop
  | .object members, name, held => named name members = [held]
  | _, _, _ => False

/-- A record of an item is an object with an id and a price, or an array of an id, a name and a
price. -/
inductive Item.Shaped : Value → Prop where
  | keyed {row id price : Value} (hid : row.Holds "id" id)
      (hprice : row.Holds "unit_cents" price) : Shaped row
  | positional (id name price : Value) : Shaped (.array [id, name, price])

/-- An array of an id, a name and a price gives the fields of their draft. -/
theorem Draft.gives_positional (id name : String) (price : List Char) :
    Record.Gives Item.fieldNames (Draft.field ⟨id, some name, price⟩)
      (.array [.string (some id), .string (some name), .number price]) := by
  let fields : Record := [("id", .string (some id)), ("name", .string (some name)),
    ("unit_cents", .number price)]
  refine (@Record.gives_array fields Item.nodup_fieldNames).congr ?_
  intro field hfield
  simp only [fields, List.map_cons, List.map_nil, List.mem_cons, List.not_mem_nil,
    or_false] at hfield
  rcases hfield with rfl | rfl | rfl <;> rfl

/-- What gives the fields of a draft has the shape of a record. -/
theorem Item.shaped_of_gives {row : Value} {draft : Draft}
    (h : Record.Gives fieldNames draft.field row) : Shaped row := by
  cases row with
  | object members =>
    exact .keyed (h.2 "id" (by decide)) (h.2 "unit_cents" (by decide))
  | array elements =>
    rcases h with ⟨hlength, hplaces⟩
    have hprice := hplaces 2 "unit_cents" rfl
    rcases elements with _ | ⟨id, _ | ⟨name, _ | ⟨price, _ | ⟨other, rest⟩⟩⟩⟩
    · cases hprice
    · cases hprice
    · cases hprice
    · exact .positional id name price
    · have hle : rest.length + 1 + 1 + 1 + 1 ≤ 3 := hlength
      omega
  | _ => exact h.elim

namespace Catalog

/-- A document of these rows is an object with a list of items, or an array of the list. -/
inductive Lists (rows : List Value) : Value → Prop where
  | keyed {document : Value} (h : document.Holds "items" (.array rows)) : Lists rows document
  | positional : Lists rows (.array [.array rows])

/-- What gives a list of items has the shape of a document. -/
theorem lists_of_gives {document : Value} {rows : List Value}
    (h : Record.Gives ["items"] (documentField rows) document) : Lists rows document := by
  cases document with
  | object members => exact .keyed (h.2 "items" List.mem_cons_self)
  | array elements =>
    rcases h with ⟨hlength, hplaces⟩
    have hitems := hplaces 0 "items" rfl
    rcases elements with _ | ⟨first, _ | ⟨second, rest⟩⟩
    · cases hitems
    · cases hitems
      exact .positional
    · have hle : rest.length + 1 + 1 ≤ 1 := hlength
      omega
  | _ => exact h.elim

/-- An array of a list of rows gives them as its items. -/
theorem gives_positional (rows : List Value) :
    Record.Gives ["items"] (documentField rows) (.array [.array rows]) := by
  refine (@Record.gives_array [("items", .array rows)] (List.nodup_singleton _)).congr ?_
  intro name hname
  rw [List.mem_singleton.1 hname]
  rfl

/-- The text shows a document of records. -/
def Shaped (text : String) : Prop :=
  ∃ document rows, Shows text document ∧ Lists rows document ∧ ∀ row ∈ rows, Item.Shaped row

/-- The text shows an object with a list of items, each an object with an id and a price. -/
def Keyed (text : String) : Prop :=
  ∃ document rows, Shows text document ∧ document.Holds "items" (.array rows) ∧
    ∀ row ∈ rows, ∃ id price, row.Holds "id" id ∧ row.Holds "unit_cents" price

/-- The members are those of a document without items, or with an object among them that has no id
or no price. -/
def Lacks (members : List (Option String × Value)) : Prop :=
  named "items" members = [] ∨
    ∃ rows fields, .array rows ∈ named "items" members ∧ .object fields ∈ rows ∧
      (named "id" fields = [] ∨ named "unit_cents" fields = [])

variable {text : String}

/-- A text that shows drafts has the shape of a catalog. -/
theorem ShowsDrafts.shaped {drafts : List Draft} (h : ShowsDrafts text drafts) : Shaped text := by
  rcases h with ⟨document, rows, hshows, hdocument, hrows⟩
  refine ⟨document, rows, hshows, lists_of_gives hdocument, ?_⟩
  clear hdocument hshows
  induction hrows with
  | nil => exact nofun
  | cons hrow _ ih => exact List.forall_mem_cons.2 ⟨Item.shaped_of_gives hrow, ih⟩

/-- Members that lack something are no catalog. -/
theorem Lacks.not_shaped {members : List (Option String × Value)} (h : Lacks members)
    (hshows : Shows text (.object members)) : ¬Shaped text := by
  rintro ⟨document, rows, hdocument, hlists, hrows⟩
  cases hshows.unique hdocument
  cases hlists with
  | keyed hitems =>
    have hnamed : named "items" members = [.array rows] := hitems
    rcases h with hnone | ⟨rows', fields, hrows', hrow, hlacking⟩
    · rw [hnone] at hnamed
      cases hnamed
    · rw [hnamed, List.mem_singleton] at hrows'
      cases hrows'
      cases hrows _ hrow with
      | @keyed _ id price hid hprice =>
        have hid : named "id" fields = [id] := hid
        have hprice : named "unit_cents" fields = [price] := hprice
        rcases hlacking with hnone | hnone
        · rw [hnone] at hid
          cases hid
        · rw [hnone] at hprice
          cases hprice

/-- A text of another shape is not read as items. -/
theorem itemsOfText?_eq_none (h : ¬Shaped text) : itemsOfText? text = none := by
  rw [Option.eq_none_iff_forall_ne_some]
  intro items hitems
  rcases itemsOfText?_eq_some_iff.1 hitems with ⟨drafts, hdrafts, _⟩
  exact h hdrafts.shaped

end Catalog

/-! ## Engines -/

namespace Engine

/-- An engine loads only texts that show a document of records, each an object or an array that has
what it needs.  A text of another shape is malformed, and the engine keeps its catalog; so is an
object without items, or in which an item lacks its id or its price. -/
theorem loads_shaped_only (text : String) :
    (∀ catalog, Catalog.ofText text = .ok catalog → Catalog.Shaped text) ∧
    (¬Catalog.Shaped text → ∀ engine : Engine, ∃ problem,
      engine.step (.loadCatalog text) = (.error (.refused (.malformedInput problem)), engine)) ∧
    ∀ members, Shows text (.object members) → Catalog.Lacks members → ∀ engine : Engine,
      engine.step (.loadCatalog text) =
        (.error (.refused (.malformedInput (.catalogText text))), engine) := by
  have hkept : ∀ (engine : Engine) (problem : Malformation),
      Catalog.ofText text = .error (.malformedInput problem) →
      engine.step (.loadCatalog text) = (.error (.refused (.malformedInput problem)), engine) := by
    intro engine problem hproblem
    apply step_eq_self_of_error
    rw [perform, loadCatalog, hproblem]
    rfl
  refine ⟨?_, ?_, ?_⟩
  · intro catalog hcatalog
    rcases Catalog.exists_showsDrafts hcatalog with ⟨drafts, hdrafts⟩
    exact hdrafts.shaped
  · intro hshape engine
    rcases Catalog.ofText_eq_error_of_none (Catalog.itemsOfText?_eq_none hshape) with
      ⟨problem, hproblem⟩
    exact ⟨problem, hkept engine problem hproblem⟩
  · intro members hshows hlacks engine
    apply hkept
    have hnone := Catalog.itemsOfText?_eq_none (hlacks.not_shaped hshows)
    rw [Catalog.ofText, if_neg (by simp [hshows.allBlank_eq_false]), hnone]

/-- An array of an empty array shows no object with a list of items, and is loaded as the catalog
without items; an item that is an array of its fields is loaded as well. -/
theorem loads_positional_catalogs :
    let bare := "[[]]"
    let row := "\x7b\"items\":[[\"TEA\",\"Tea\",400]]\x7d"
    (¬Catalog.Keyed bare ∧ ∀ engine : Engine, engine.step (.loadCatalog bare) =
      (.ok (.count 0), { engine with catalog := some .empty })) ∧
    ¬Catalog.Keyed row ∧ Catalog.ofText row = Catalog.ofItems [⟨"TEA", "Tea", ⟨400⟩⟩] := by
  intro bare row
  have hbare : Shows bare (.array [.array []]) :=
    .bare (Presents.compactArray (.cons (.compactArray .nil) .nil)) rfl
  have hfields := Presents.compactArray (.cons (.compactString "TEA")
    (.cons (.compactString "Tea") (.cons (.number (Number.isLiteral_write 400)) .nil)))
  have hrow : Shows row (.object [(some "items", .array [.array _])]) :=
    .bare (@Presents.compactObject [("items", _)] _
      (.cons ⟨rfl, .compactArray (.cons hfields .nil)⟩ .nil)) rfl
  refine ⟨⟨?_, ?_⟩, ?_, ?_⟩
  · rintro ⟨document, rows, hshows, hitems, _⟩
    cases hbare.unique hshows
    exact hitems
  · intro engine
    have hnone : Catalog.ShowsDrafts bare [] :=
      ⟨_, [], hbare, Catalog.gives_positional [], .nil⟩
    rw [step, perform, loadCatalog, Catalog.ofText_of_shows hnone]
    rfl
  · rintro ⟨document, rows, hshows, hitems, hrows⟩
    cases hrow.unique hshows
    cases hitems
    rcases hrows _ List.mem_cons_self with ⟨id, price, hid, _⟩
    exact hid
  · have hone : Catalog.ShowsDrafts row [⟨"TEA", some "Tea", Decimal.write 400⟩] := by
      refine ⟨_, _, hrow, ⟨by simp, ?_⟩, .cons (Draft.gives_positional "TEA" "Tea" _) .nil⟩
      intro name hname
      rw [List.mem_singleton.1 hname]
      rfl
    rw [Catalog.ofText_of_shows hone]
    rfl

end Engine
end Till
