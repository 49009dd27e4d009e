import Till.Catalog.Document
import Till.Proofs.Json.Fields
import Till.Proofs.Json.Notation

/-!
# What catalog texts may look like

The text of a catalog is an object whose member `items` is an array of item records.  Much is left
open: the order of the members, further members of other names, which may hold anything, white
space, how each string is spelled, and whether a record has a name.  However an item is presented,
it is read as the same item.

A record whose price is any number literal is a draft: it is an item when the literal is a word.

Main results:

- Theorem {lit}`Item.ofValue?_of_gives`: a record that gives the fields of a draft.
- Theorem {lit}`Catalog.showsDrafts_compact`: every list of drafts has a text that shows it.
- Theorem {lit}`Catalog.itemsOfText?_of_shows`: the items of a text are those of its drafts.
- Theorem {lit}`Catalog.ofText_of_listings`: a text that presents items gives their catalog.
-/

namespace Till

open Json

/-! ## Rows that are read one by one -/

section Rows

variable {α β γ : Type} {read : α → Option γ}

/-- Rows whose entries are read alike are read alike. -/
theorem mapM_eq_mapM_of_forall₂ {other : β → Option γ} {as : List α} {bs : List β}
    (h : List.Forall₂ (fun a b => read a = other b) as bs) : as.mapM read = bs.mapM other := by
  induction h with
  | nil => rfl
  | cons hfirst _ ih => rw [List.mapM_cons, List.mapM_cons, hfirst, ih]

/-- A row is read as the row of what its entries are read as. -/
theorem mapM_eq_some_iff {as : List α} {cs : List γ} :
    as.mapM read = some cs ↔ List.Forall₂ (fun a c => read a = some c) as cs := by
  induction as generalizing cs with
  | nil => simp [eq_comm]
  | cons a as ih =>
    simp only [List.mapM_cons, Option.bind_eq_bind, Option.bind_eq_some_iff,
      List.forall₂_cons_left_iff, Option.pure_def, Option.some.injEq]
    constructor
    · rintro ⟨c, hc, rest, hrest, rfl⟩
      exact ⟨c, rest, hc, ih.1 hrest, rfl⟩
    · rintro ⟨c, rest, hc, hrest, rfl⟩
      exact ⟨c, hc, rest, ih.2 hrest, rfl⟩

/-- A row is read when each of its entries is. -/
theorem exists_mapM_eq_some_iff {as : List α} :
    (∃ cs, as.mapM read = some cs) ↔ ∀ a ∈ as, ∃ c, read a = some c := by
  induction as with
  | nil => exact iff_of_true ⟨[], rfl⟩ nofun
  | cons a as ih =>
    rw [List.forall_mem_cons, ← ih]
    simp only [mapM_eq_some_iff, List.forall₂_cons_left_iff]
    constructor
    · rintro ⟨_, c, rest, hc, hrest, rfl⟩
      exact ⟨⟨c, hc⟩, rest, hrest⟩
    · rintro ⟨⟨c, hc⟩, rest, hrest⟩
      exact ⟨_, c, rest, hc, hrest, rfl⟩

end Rows

/-! ## Items -/

/-- A record of an item: it may have no name, and its price is a number literal. -/
structure Draft where
  id : String
  name : Option String
  price : List Char
  deriving DecidableEq, Repr

namespace Draft

/-- The fields of the record. -/
def field (draft : Draft) (name : String) : Option Value :=
  if name = "id" then some (.string (some draft.id))
  else if name = "name" then draft.name.map fun name => .string (some name)
  else if name = "unit_cents" then some (.number draft.price)
  else none

/-- The item of the record, if the price is a word; a missing name is the empty one. -/
def item? (draft : Draft) : Option Item :=
  (Value.number draft.price).int64?.map fun cents => ⟨draft.id, draft.name.getD "", ⟨cents⟩⟩

/-- The members of the record as an object. -/
def members (draft : Draft) : List (Option String × Value) :=
  (some "id", .string (some draft.id)) ::
    ((draft.name.map fun name => (some "name", Value.string (some name))).toList ++
      [(some "unit_cents", .number draft.price)])

/-- The record as a compact text. -/
def write (draft : Draft) : List Char :=
  Compact.object (("id", Compact.string draft.id) ::
    ((draft.name.map fun name => ("name", Compact.string name)).toList ++
      [("unit_cents", draft.price)]))

/-- The members of the record give its fields. -/
theorem gives_members (draft : Draft) :
    Record.Gives Item.fieldNames draft.field (.object draft.members) := by
  rcases draft with ⟨id, name, price⟩
  constructor
  · cases name <;> simp [members]
  · intro field hfield
    simp only [Item.fieldNames, List.mem_cons, List.not_mem_nil, or_false] at hfield
    rcases hfield with rfl | rfl | rfl <;> cases name <;> rfl

/-- The record is written as an object of its members. -/
theorem presents_write {draft : Draft} (hliteral : Number.IsLiteral draft.price) :
    Presents draft.write (.object draft.members) := by
  rcases draft with ⟨id, name, price⟩
  apply Presents.compactObject
  refine .cons ⟨rfl, .compactString id⟩ ?_
  cases name with
  | none => exact .cons ⟨rfl, .number hliteral⟩ .nil
  | some name => exact .cons ⟨rfl, .compactString name⟩ (.cons ⟨rfl, .number hliteral⟩ .nil)

end Draft

/-- The names of the fields differ. -/
theorem Item.nodup_fieldNames : fieldNames.Nodup := by
  decide

/-- A record that gives the fields of a draft is read as its item. -/
theorem Item.ofValue?_of_gives {value : Value} {draft : Draft}
    (h : Record.Gives fieldNames draft.field value) : ofValue? value = draft.item? := by
  rcases h.exists_ofValue? nodup_fieldNames with ⟨record, hrecord, hfields⟩
  have hid : record.field? "id" = some (.string (some draft.id)) := hfields "id" (by decide)
  have hname : record.field? "name" = draft.name.map fun name => .string (some name) :=
    hfields "name" (by decide)
  have hcents : record.field? "unit_cents" = some (.number draft.price) :=
    hfields "unit_cents" (by decide)
  rw [ofValue?, hrecord]
  simp only [hid, hname, hcents, Draft.item?, Option.bind_eq_bind, Option.bind_some, Value.text?]
  cases draft.name <;> cases (Value.number draft.price).int64? <;> rfl

namespace Catalog

/-! ## Documents -/

/-- The fields of a document that holds these elements. -/
def documentField (elements : List Value) (name : String) : Option Value :=
  if name = "items" then some (.array elements) else none

/-- A text shows a document of these drafts. -/
def ShowsDrafts (text : String) (drafts : List Draft) : Prop :=
  ∃ document elements, Shows text document ∧
    Record.Gives ["items"] (documentField elements) document ∧
    List.Forall₂ (fun element (draft : Draft) =>
      Record.Gives Item.fieldNames draft.field element) elements drafts

variable {text : String} {drafts : List Draft}

/-- A compact document of drafts shows them. -/
theorem showsDrafts_compact (hliteral : ∀ draft ∈ drafts, Number.IsLiteral draft.price) :
    ShowsDrafts
      (String.ofList (Compact.object [("items", Compact.array (drafts.map Draft.write))]))
      drafts := by
  have hrows : List.Forall₂ Presents (drafts.map Draft.write)
      (drafts.map fun draft => .object draft.members) := by
    rw [List.forall₂_map_left_iff, List.forall₂_map_right_iff, List.forall₂_same]
    exact fun draft hdraft => Draft.presents_write (hliteral draft hdraft)
  have hdocument := @Presents.compactObject [("items", Compact.array (drafts.map Draft.write))]
    [(some "items", .array _)] (.cons ⟨rfl, .compactArray hrows⟩ .nil)
  refine ⟨_, drafts.map fun draft => .object draft.members, .bare hdocument rfl,
    ⟨by simp, ?_⟩, ?_⟩
  · intro name hname
    rw [List.mem_singleton.1 hname]
    rfl
  · rw [List.forall₂_map_left_iff, List.forall₂_same]
    exact fun draft _ => draft.gives_members

/-- The items of a text are those of its drafts. -/
theorem itemsOfText?_of_shows (h : ShowsDrafts text drafts) :
    itemsOfText? text = drafts.mapM Draft.item? := by
  rcases h with ⟨document, elements, hshows, hdocument, helements⟩
  have hnodup : ["items"].Nodup := by decide
  rcases hdocument.exists_ofValue? hnodup with ⟨record, hrecord, hfields⟩
  have hitems : record.field? "items" = some (.array elements) :=
    hfields "items" List.mem_cons_self
  rw [itemsOfText?, hshows.ofText?_eq_some, Option.bind_some, itemsOfValue?, hrecord]
  simp only [hitems, Option.bind_eq_bind, Option.bind_some]
  exact mapM_eq_mapM_of_forall₂ (helements.imp fun _ _ => Item.ofValue?_of_gives)

/-- The catalog of a text is that of the items of its drafts. -/
theorem ofText_of_shows (h : ShowsDrafts text drafts) :
    ofText text =
      match drafts.mapM Draft.item? with
      | none => .error (.malformedInput (.catalogText text))
      | some items => ofItems items := by
  have hblank : Blank.allBlank text = false := by
    rcases h with ⟨document, _, hshows, _⟩
    exact hshows.allBlank_eq_false
  rw [ofText, if_neg (by simp [hblank])]
  cases hitems : drafts.mapM Draft.item? with
  | none => simp only [itemsOfText?_of_shows h, hitems]
  | some items => simp only [itemsOfText?_of_shows h, hitems]

/-! ## Listings -/

/-- An item as a text presents it: the name may be missing. -/
structure Listing where
  id : String
  name : Option String
  unitCents : Int64
  deriving DecidableEq, Repr

namespace Listing

/-- The item that is presented; a missing name is the empty one. -/
def item (listing : Listing) : Item :=
  ⟨listing.id, listing.name.getD "", ⟨listing.unitCents⟩⟩

/-- The members are those of an object that presents the item: exactly one is an id and one is a
price, at most one is a name, and others have other names, and may hold anything. -/
structure Listed (listing : Listing) (members : List (Option String × Value)) : Prop where
  keys : ∀ member ∈ members, member.1 ≠ none
  id : named "id" members = [.string (some listing.id)]
  name : named "name" members = (listing.name.map fun name => Value.string (some name)).toList
  unitCents : named "unit_cents" members = [.number (Decimal.write listing.unitCents.toInt)]

/-- The record of an item. -/
def draft (listing : Listing) : Draft :=
  ⟨listing.id, listing.name, Decimal.write listing.unitCents.toInt⟩

/-- The record of an item is the item. -/
theorem item?_draft (listing : Listing) : listing.draft.item? = some listing.item := by
  rw [Draft.item?, draft, Value.int64?_write]
  rfl

/-- An object that presents an item gives the fields of its record. -/
theorem Listed.gives {listing : Listing} {members : List (Option String × Value)}
    (h : listing.Listed members) :
    Record.Gives Item.fieldNames listing.draft.field (.object members) := by
  refine ⟨h.keys, ?_⟩
  intro name hname
  simp only [Item.fieldNames, List.mem_cons, List.not_mem_nil, or_false] at hname
  rcases hname with rfl | rfl | rfl
  · exact h.id
  · exact h.name
  · exact h.unitCents

end Listing

/-- A text that presents items as an object with exactly one list of objects gives the catalog of
these items. -/
theorem ofText_of_listings {text : String} {members : List (Option String × Value)}
    {rows : List (List (Option String × Value))} {listings : List Listing}
    (htext : Shows text (.object members)) (hkeys : ∀ member ∈ members, member.1 ≠ none)
    (hitems : named "items" members = [.array (rows.map .object)])
    (hlistings : List.Forall₂ (fun row listing => Listing.Listed listing row) rows listings) :
    ofText text = ofItems (listings.map Listing.item) := by
  have hdocument : Record.Gives ["items"] (documentField (rows.map .object)) (.object members) := by
    refine ⟨hkeys, ?_⟩
    intro name hname
    rw [List.mem_singleton.1 hname]
    exact hitems
  have hshows : ShowsDrafts text (listings.map Listing.draft) := by
    refine ⟨_, _, htext, hdocument, ?_⟩
    rw [List.forall₂_map_left_iff, List.forall₂_map_right_iff]
    exact hlistings.imp fun _ _ => Listing.Listed.gives
  have hread : (listings.map Listing.draft).mapM Draft.item? =
      some (listings.map Listing.item) := by
    rw [mapM_eq_some_iff, List.forall₂_map_left_iff, List.forall₂_map_right_iff, List.forall₂_same]
    exact fun listing _ => listing.item?_draft
  rw [ofText_of_shows hshows, hread]

/-- A member of another name may hold what no member of the catalog may, a number out of range and
a surrogate alone; the key of the items is escaped, and the only item has no name. -/
theorem ofText_of_listings_skipped_surrogate :
    let text :=
      "\x7b\"x\": [1e999,\"\\ud800\"]\n,\"ite\\u006ds\":[\x7b\"unit_cents\":400,\"id\":\"TEA\"\x7d]\x7d"
    let row : List (Option String × Value) :=
      [(some "unit_cents", .number ['4', '0', '0']), (some "id", .string (some "TEA"))]
    let members : List (Option String × Value) :=
      [(some "x", .array [.number ['1', 'e', '9', '9', '9'], .string none]),
       (some "items", .array [.object row])]
    Shows text (.object members) ∧ (∀ member ∈ members, member.1 ≠ none) ∧
      named "items" members = [.array [.object row]] ∧
      Listing.Listed ⟨"TEA", none, 400⟩ row ∧
      ofText text = ofItems [⟨"TEA", "", ⟨400⟩⟩] := by
  intro text row members
  have hexponent : Number.IsExponent ['e', '9', '9', '9'] :=
    @Number.IsExponent.digits 'e' [] ['9', '9', '9'] (by decide) (by decide)
      ⟨nofun, List.all_eq_true.1 rfl⟩
  have hhuge : Number.IsLiteral ['1', 'e', '9', '9', '9'] :=
    @Number.IsLiteral.mk [] ['1'] [] _ (by decide) (.nonzero (by decide) (List.all_eq_true.1 rfl))
      .absent hexponent
  have hunit : EscapesUnit ['\\', 'u', 'd', '8', '0', '0'] 0xD800 :=
    @EscapesUnit.mk 'd' '8' '0' '0' 13 8 0 0 (.inl rfl) (.inl rfl) (.inl rfl) (.inl rfl)
  have hmarked : EscapesUnit ['\\', 'u', '0', '0', '6', 'd'] 'm'.toNat :=
    @EscapesUnit.mk '0' '0' '6' 'd' 0 0 6 13 (.inl rfl) (.inl rfl) (.inl rfl) (.inl rfl)
  have hskipped := Presents.compactArray
    (.cons (.number hhuge) (.cons (.surrogate hunit (by decide)) .nil))
  have hitem := @Presents.compactObject
    [("unit_cents", Decimal.write 400), ("id", Compact.string "TEA")] row
    (.cons ⟨rfl, .number (Number.isLiteral_write 400)⟩ (.cons ⟨rfl, .compactString "TEA"⟩ .nil))
  have hitems := Presents.compactArray (.cons hitem .nil)
  have hkey : Presents (quote ['i', 't', 'e', '\\', 'u', '0', '0', '6', 'd', 's'])
      (.string (some "items")) :=
    .string (@Spelled.plain_append ['i', 't', 'e'] _ ['m', 's'] (by decide)
      (.unit hmarked (.of_plain (by decide))))
  have hdocument := @Presents.object
    [⟨.bare (Compact.string "x"), some "x", ⟨[' '], _, ['\n'],
        List.forall_mem_singleton.2 (by decide), List.forall_mem_singleton.2 (by decide)⟩, _⟩,
      ⟨.bare _, some "items", .bare _, _⟩]
    (List.forall_mem_cons.2 ⟨.compactString "x", List.forall_mem_cons.2 ⟨hkey, nofun⟩⟩)
    (List.forall_mem_cons.2 ⟨hskipped, List.forall_mem_cons.2 ⟨hitems, nofun⟩⟩)
  have hshows : Shows text (.object members) := .bare hdocument rfl
  have hkeys : ∀ member ∈ members, member.1 ≠ none := by simp [members]
  have hnamed : named "items" members = [.array [.object row]] := rfl
  have hlisted : Listing.Listed ⟨"TEA", none, 400⟩ row :=
    ⟨by simp [row], rfl, rfl, rfl⟩
  exact ⟨hshows, hkeys, hnamed, hlisted,
    @ofText_of_listings text members [row] [_] hshows hkeys hnamed (.cons hlisted .nil)⟩

end Catalog
end Till
