import Till.Engine.Command
import Till.Proofs.Catalog.Construction
import Till.Proofs.Catalog.Schema

/-!
# Integer fields

The price of an item and the ceiling of a configuration are written as number literals.  Such a
field is read exactly or not at all: a literal that is how a word is written is read as this word,
and written again it is the same literal.  A literal with a fraction or an exponent, minus zero, and
one that is out of range make the whole text unreadable, however close to a word they are.

Main results:

- Theorem {lit}`Catalog.exists_itemsOfText?_iff`: which catalog texts are read.
- Theorem {lit}`Catalog.readAs_of_itemsOfText?`: what their items are.
- Theorem {lit}`Config.ofText_of_shows`: what becomes of a configuration with a ceiling.
- Theorem {lit}`Engine.integer_fields_exact`: both, and what an engine does with such a text.
-/

namespace Till

open Json

/-! ## Prices -/

/-- An item is that of a record: the price is written as the literal of the record, and so is the
item when it is written. -/
structure Draft.ReadAs (draft : Draft) (item : Item) : Prop where
  id_eq : item.id = draft.id
  name_eq : item.name = draft.name.getD ""
  price_eq : draft.price = Decimal.write item.unitPrice.value
  write_eq : item.write = Compact.object
    [("id", Compact.string draft.id), ("name", Compact.string (draft.name.getD "")),
     ("unit_cents", draft.price)]

namespace Draft

variable {draft : Draft} {item : Item}

/-- What is read from a record is its item. -/
theorem readAs_of_item? (hliteral : Number.IsLiteral draft.price)
    (h : draft.item? = some item) : draft.ReadAs item := by
  rw [item?, Option.map_eq_some_iff] at h
  rcases h with ⟨cents, hcents, rfl⟩
  have hprice := hliteral.int64?_eq_some_iff.1 hcents
  refine ⟨rfl, rfl, hprice, ?_⟩
  rw [Item.write, hprice]
  rfl

/-- A record has an item exactly when its price is a word. -/
theorem exists_item?_iff (hliteral : Number.IsLiteral draft.price) :
    (∃ item, draft.item? = some item) ↔ Number.IsWord draft.price := by
  rw [← hliteral.exists_int64?_iff]
  simp only [item?, Option.map_eq_some_iff, exists_comm (α := Item), exists_and_left,
    exists_eq', and_true]

end Draft

namespace Catalog

variable {text : String} {drafts : List Draft} {items : List Item}

/-- A text is read when all its prices are words. -/
theorem exists_itemsOfText?_iff (h : ShowsDrafts text drafts)
    (hliteral : ∀ draft ∈ drafts, Number.IsLiteral draft.price) :
    (∃ items, itemsOfText? text = some items) ↔
      ∀ draft ∈ drafts, Number.IsWord draft.price := by
  rw [itemsOfText?_of_shows h, exists_mapM_eq_some_iff]
  exact forall₂_congr fun draft hdraft => Draft.exists_item?_iff (hliteral draft hdraft)

/-- The items of a text are those of its records. -/
theorem readAs_of_itemsOfText? (h : ShowsDrafts text drafts)
    (hliteral : ∀ draft ∈ drafts, Number.IsLiteral draft.price)
    (hitems : itemsOfText? text = some items) : List.Forall₂ Draft.ReadAs drafts items := by
  rw [itemsOfText?_of_shows h, mapM_eq_some_iff] at hitems
  clear h
  induction hitems with
  | nil => exact .nil
  | cons hfirst _ ih =>
    rw [List.forall_mem_cons] at hliteral
    exact .cons (Draft.readAs_of_item? hliteral.1 hfirst) (ih hliteral.2)

/-- A text with a price that is no word cannot be read. -/
theorem ofText_eq_error (h : ShowsDrafts text drafts)
    (hliteral : ∀ draft ∈ drafts, Number.IsLiteral draft.price)
    (hword : ¬∀ draft ∈ drafts, Number.IsWord draft.price) :
    ofText text = .error (.malformedInput (.catalogText text)) := by
  have hnone : drafts.mapM Draft.item? = none := by
    rw [← exists_itemsOfText?_iff h hliteral, itemsOfText?_of_shows h] at hword
    rw [Option.eq_none_iff_forall_ne_some]
    exact fun items hitems => hword ⟨items, hitems⟩
  rw [ofText_of_shows h, hnone]

/-- Items of which one has a price below zero are refused for an item. -/
theorem ofItems_eq_error_of_negative {item : Item} (hitem : item ∈ items)
    (hprice : item.unitPrice.value < 0) :
    ∃ position rule, ofItems items = .error (.invalidItem position rule) := by
  cases hcatalog : ofItems items with
  | ok catalog =>
    have hkept := (exists_ofItems_iff.1 ⟨catalog, hcatalog⟩).1 item hitem
    exact absurd hprice (Int.not_lt.2 hkept.2.2)
  | error cause =>
    rcases ofItems_eq_error_iff.1 hcatalog with ⟨position, rule, _, rfl⟩
    exact ⟨position, rule, rfl⟩

end Catalog

/-! ## Ceilings -/

namespace Config

/-- The fields of a record with a ceiling, and with a policy or none. -/
def field (policy : Option Value) (ceiling : List Char) (name : String) : Option Value :=
  if name = "change_policy" then policy
  else if name = "max_line_quantity" then some (.number ceiling)
  else none

/-- What a record holds for a policy: nothing where the change is reported, the name of the policy,
or an object with this name as its one key. -/
inductive ShowsPolicy : Option Value → ChangePolicy → Prop where
  | absent : ShowsPolicy none .report
  | named (policy : ChangePolicy) : ShowsPolicy (some (.string (some policy.name))) policy
  | keyed (policy : ChangePolicy) :
      ShowsPolicy (some (.object [(some policy.name, .null)])) policy

/-- A text shows a record of this policy and this ceiling. -/
def ShowsCeiling (text : String) (policy : ChangePolicy) (ceiling : List Char) : Prop :=
  ∃ document shown, Shows text document ∧ ShowsPolicy shown policy ∧
    Record.Gives fieldNames (field shown ceiling) document

variable {text : String} {policy : ChangePolicy} {ceiling : List Char}

/-- A record is read when its ceiling is a word. -/
theorem ofValue?_of_shows (h : ShowsCeiling text policy ceiling) :
    (Value.ofText? text).bind ofValue? =
      (Value.number ceiling).int64?.map fun max => ⟨policy, some max⟩ := by
  rcases h with ⟨document, shown, hshows, hpolicy, hgives⟩
  have hnodup : fieldNames.Nodup := by decide
  rcases hgives.exists_ofValue? hnodup with ⟨record, hrecord, hfields⟩
  have hshown : record.field? "change_policy" = shown := hfields "change_policy" (by decide)
  have hceiling : record.field? "max_line_quantity" = some (.number ceiling) :=
    hfields "max_line_quantity" (by decide)
  rw [hshows.ofText?_eq_some, Option.bind_some, ofValue?, hrecord]
  simp only [hshown, hceiling, Option.bind_eq_bind, Option.bind_some, ceilingOfValue?]
  cases hpolicy with
  | absent => cases (Value.number ceiling).int64? <;> rfl
  | named policy =>
    simp only [ChangePolicy.ofValue?, ChangePolicy.ofName?_name, Option.bind_some]
    cases (Value.number ceiling).int64? <;> rfl
  | keyed policy =>
    simp only [ChangePolicy.ofValue?, ChangePolicy.ofName?_name, Option.bind_some]
    cases (Value.number ceiling).int64? <;> rfl

/-- A configuration is read when its ceiling is a word, and it is one when this word is positive. -/
theorem ofText_of_shows (h : ShowsCeiling text policy ceiling) :
    ofText text =
      match (Value.number ceiling).int64? with
      | none => .error (.malformedInput (.configText text))
      | some max =>
        if max < 1 then .error (.malformedInput .ceilingNotPositive)
        else .ok ⟨policy, some max⟩ := by
  rw [ofText, ofValue?_of_shows h]
  cases (Value.number ceiling).int64? with
  | none => rfl
  | some max =>
    simp only [Option.map_some, check]
    by_cases hmax : max < 1
    · rw [if_pos hmax, if_pos hmax]
    · rw [if_neg hmax, if_neg hmax]

/-- A text with a ceiling gives a configuration exactly when the ceiling is how a positive word is
written. -/
theorem exists_ofText_iff (h : ShowsCeiling text policy ceiling)
    (hliteral : Number.IsLiteral ceiling) :
    (∃ config, ofText text = .ok config) ↔
      ∃ n : Int, 1 ≤ n ∧ n ≤ Bounded.greatest ∧ ceiling = Decimal.write n := by
  rw [ofText_of_shows h]
  constructor
  · rintro ⟨config, hconfig⟩
    split at hconfig
    · cases hconfig
    · rename_i max hmax
      split at hconfig
      · cases hconfig
      · rename_i hpos
        refine ⟨max.toInt, ?_, (Bounded.toInt_mem_range max).2, hliteral.int64?_eq_some_iff.1 hmax⟩
        rw [Int64.lt_iff_toInt_lt] at hpos
        exact Int.not_lt.1 hpos
  · rintro ⟨n, hpos, hhigh, hwrite⟩
    have hlow : Bounded.least ≤ n := by
      unfold Bounded.least
      omega
    have hvalue := Bounded.toInt_ofInt hlow hhigh
    have hread : (Value.number ceiling).int64? = some (Int64.ofInt n) := by
      rw [hliteral.int64?_eq_some_iff, hvalue]
      exact hwrite
    have hkept : ¬Int64.ofInt n < 1 := by
      rw [Int64.lt_iff_toInt_lt, hvalue]
      exact Int.not_lt.2 hpos
    rw [hread]
    exact ⟨_, if_neg hkept⟩

/-- A configuration that is read from a text has the policy and the ceiling of the text, and it is
written with the same literal. -/
structure ReadAs (config : Config) (policy : ChangePolicy) (ceiling : List Char) : Prop where
  policy_eq : config.changePolicy = policy
  ceiling_eq : ∃ max, config.maxLineQuantity = some max ∧ ceiling = Decimal.write max.toInt
  write_eq : config.write = Compact.object
    [("change_policy", policy.write), ("max_line_quantity", ceiling)]

/-- A text with a ceiling gives its configuration or cannot be read. -/
theorem readAs_or_eq_error (h : ShowsCeiling text policy ceiling)
    (hliteral : Number.IsLiteral ceiling) :
    (∃ config, ofText text = .ok config ∧ config.ReadAs policy ceiling) ∨
      ∃ problem, ofText text = .error (.malformedInput problem) := by
  rw [ofText_of_shows h]
  cases hread : (Value.number ceiling).int64? with
  | none => exact .inr ⟨_, rfl⟩
  | some max =>
    have hwrite := hliteral.int64?_eq_some_iff.1 hread
    by_cases hmax : max < 1
    · exact .inr ⟨_, if_pos hmax⟩
    · refine .inl ⟨_, if_neg hmax, rfl, ⟨max, rfl, hwrite⟩, ?_⟩
      rw [write, writeCeiling, hwrite]
      rfl

end Config

/-! ## Engines -/

namespace Engine

/-- Each price of a catalog text and the ceiling of a configuration text may be any number literal.
The catalog text is read exactly when all its prices are how words are written; then its items have
these words as their prices and are written with the same literals, and a price below zero is
refused for its item; and else an engine that loads the text fails and keeps its catalog.  The
configuration text gives a configuration exactly when the ceiling is how a positive word is written;
then its ceiling is this word and is written with the same literal, and else it is malformed. -/
theorem integer_fields_exact :
    (∀ text drafts, Catalog.ShowsDrafts text drafts →
      (∀ draft ∈ drafts, Number.IsLiteral draft.price) →
        ((∃ items, Catalog.itemsOfText? text = some items) ↔
          ∀ draft ∈ drafts, Number.IsWord draft.price) ∧
        (∀ items, Catalog.itemsOfText? text = some items →
          List.Forall₂ Draft.ReadAs drafts items ∧ Catalog.ofText text = Catalog.ofItems items ∧
            ∀ item ∈ items, item.unitPrice.value < 0 →
              ∃ position rule, Catalog.ofText text = .error (.invalidItem position rule)) ∧
        (¬(∀ draft ∈ drafts, Number.IsWord draft.price) → ∀ engine : Engine,
          engine.step (.loadCatalog text) =
            (.error (.refused (.malformedInput (.catalogText text))), engine))) ∧
    ∀ text policy ceiling, Config.ShowsCeiling text policy ceiling →
      Number.IsLiteral ceiling →
        ((∃ config, (Value.ofText? text).bind Config.ofValue? = some config) ↔
          Number.IsWord ceiling) ∧
        ((∃ config, Config.ofText text = .ok config) ↔
          ∃ n : Int, 1 ≤ n ∧ n ≤ Bounded.greatest ∧ ceiling = Decimal.write n) ∧
        ((∃ config, Config.ofText text = .ok config ∧ config.ReadAs policy ceiling) ∨
          ∃ problem, Config.ofText text = .error (.malformedInput problem)) := by
  constructor
  · intro text drafts h hliteral
    refine ⟨Catalog.exists_itemsOfText?_iff h hliteral, ?_, ?_⟩
    · intro items hitems
      have hcatalog : Catalog.ofText text = Catalog.ofItems items := by
        rw [Catalog.ofText_of_shows h, ← Catalog.itemsOfText?_of_shows h, hitems]
      refine ⟨Catalog.readAs_of_itemsOfText? h hliteral hitems, hcatalog, ?_⟩
      intro item hitem hprice
      rw [hcatalog]
      exact Catalog.ofItems_eq_error_of_negative hitem hprice
    · intro hword engine
      apply step_eq_self_of_error
      rw [perform, loadCatalog, Catalog.ofText_eq_error h hliteral hword]
      rfl
  · intro text policy ceiling h hliteral
    refine ⟨?_, Config.exists_ofText_iff h hliteral, Config.readAs_or_eq_error h hliteral⟩
    rw [Config.ofValue?_of_shows h, ← hliteral.exists_int64?_iff]
    simp only [Option.map_eq_some_iff, exists_comm (α := Config), exists_and_left, exists_eq',
      and_true]

/-- The number after the greatest word is read as no price, the least word is read as one below
zero, and an array presents the greatest ceiling. -/
theorem integer_fields_exact_past_greatest :
    let past := "\x7b\"items\":[\x7b\"id\":\"TEA\",\"unit_cents\":9223372036854775808\x7d]\x7d"
    let least := "\x7b\"items\":[\x7b\"id\":\"TEA\",\"unit_cents\":-9223372036854775808\x7d]\x7d"
    let ceiling := "[\"reject_insufficient\",9223372036854775807]"
    (∀ engine : Engine, engine.step (.loadCatalog past) =
      (.error (.refused (.malformedInput (.catalogText past))), engine)) ∧
    (∃ items, Catalog.itemsOfText? least = some items ∧
      List.Forall₂ Draft.ReadAs [⟨"TEA", none, Decimal.write (-9223372036854775808)⟩] items) ∧
    ∃ config, Config.ofText ceiling = .ok config ∧
      config.ReadAs .rejectInsufficient (Decimal.write 9223372036854775807) := by
  intro past least ceiling
  let draft (price : Int) : Draft := ⟨"TEA", none, Decimal.write price⟩
  have hliteral : ∀ price, ∀ shown ∈ [draft price], Number.IsLiteral shown.price :=
    fun price => List.forall_mem_singleton.2 (Number.isLiteral_write price)
  refine ⟨?_, ?_, ?_⟩
  · have hpast : past = String.ofList (Compact.object
        [("items", Compact.array ([draft 9223372036854775808].map Draft.write))]) := by
      decide +kernel
    have hshows := hpast ▸ Catalog.showsDrafts_compact (hliteral 9223372036854775808)
    apply (integer_fields_exact.1 past _ hshows (hliteral _)).2.2
    intro hall
    have hword : Number.IsWord (Decimal.write 9223372036854775808) := hall _ List.mem_cons_self
    exact absurd (Number.isWord_write_iff.1 hword).2 (by decide)
  · have hleast : least = String.ofList (Compact.object
        [("items", Compact.array ([draft (-9223372036854775808)].map Draft.write))]) := by
      decide +kernel
    have hshows := hleast ▸ Catalog.showsDrafts_compact (hliteral (-9223372036854775808))
    have hread := integer_fields_exact.1 least _ hshows (hliteral _)
    have hword := Number.isWord_write_iff.2 (⟨by decide, by decide⟩ :
      Bounded.least ≤ -9223372036854775808 ∧ -9223372036854775808 ≤ Bounded.greatest)
    rcases hread.1.2 (List.forall_mem_singleton.2 hword) with ⟨items, hitems⟩
    exact ⟨items, hitems, (hread.2.1 items hitems).1⟩
  · have helements := Presents.compactArray
      (.cons (.compactString "reject_insufficient")
        (.cons (.number (Number.isLiteral_write 9223372036854775807)) .nil))
    have hceiling : Config.ShowsCeiling ceiling .rejectInsufficient
        (Decimal.write 9223372036854775807) := by
      refine ⟨_, _, .bare helements rfl, .named .rejectInsufficient, Nat.le_refl 2, ?_⟩
      intro i name hname
      rcases i with _ | _ | i
      · cases hname
        rfl
      · cases hname
        rfl
      · cases hname
    have hread := integer_fields_exact.2 ceiling _ _ hceiling (Number.isLiteral_write _)
    rcases hread.2.2 with hconfig | ⟨problem, herror⟩
    · exact hconfig
    · rcases hread.2.1.2 ⟨9223372036854775807, by decide, by decide, rfl⟩ with ⟨config, hconfig⟩
      rw [herror] at hconfig
      cases hconfig

end Engine
end Till
