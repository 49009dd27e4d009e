import Till.Proofs.Catalog.Lookup

/-!
# Catalogs from lists of items

A catalog is built item by item, and the first item that breaks a rule after the items before it
ends the construction.  Whether an id was taken before is asked of the map of positions, which at
that point holds the ids of exactly the items before.  So the outcome can be told from the list
alone, and once the catalog is built its map answers as a search through the list does.

Main results:

- Theorem {lit}`Catalog.WellFormed.add_eq`: what becomes of one more item.
- Theorem {lit}`Catalog.WellFormed.foldlM_add_eq_error_iff`: where the construction ends.
- Theorem {lit}`Catalog.WellFormed.lookup_eq_find?`: the map answers as a search does.
- Theorem {lit}`Catalog.ofItems_and_lookup_exact`: both for a whole list of items.
-/

namespace Till

/-! ## Rules that items break -/

namespace Item

variable {item : Item} {earlier : List Item}

/-- The first rule that an item breaks when it comes after some items: its id and its name are
there, its price is not negative, and its id is that of no item before. -/
def brokenRule? (earlier : List Item) (item : Item) : Option Violation :=
  if item.id = "" then some (.required "id")
  else if item.name = "" then some (.required "name")
  else if item.unitPrice.value < 0 then some (.mustBeNonNegative "unit_cents")
  else if item.id ∈ earlier.map Item.id then some (.duplicate "id" item.id)
  else none

/-- The rules on id, name and price are those of which the first broken one counts. -/
theorem check_eq (item : Item) :
    item.check =
      if item.id = "" then .error (.required "id")
      else if item.name = "" then .error (.required "name")
      else if item.unitPrice.value < 0 then .error (.mustBeNonNegative "unit_cents")
      else .ok () := by
  simp only [check, Rules.itemId, Rules.itemName, Rules.unitPrice, String.isEmpty_iff,
    Int64.lt_iff_toInt_lt, Int64.toInt_zero, Money.value]
  by_cases hid : item.id = ""
  · simp [hid]
  · by_cases hname : item.name = ""
    · simp [hid, hname]
    · by_cases hprice : item.unitPrice.cents.toInt < 0
      · simp [hid, hname, hprice]
      · simp [hid, hname, hprice]

/-- The items that keep the rules on id, name and price. -/
theorem check_eq_ok_iff :
    item.check = .ok () ↔ item.id ≠ "" ∧ item.name ≠ "" ∧ 0 ≤ item.unitPrice.value := by
  rw [check_eq]
  by_cases hid : item.id = ""
  · simp [hid]
  · by_cases hname : item.name = ""
    · simp [hid, hname]
    · by_cases hprice : item.unitPrice.value < 0
      · simp [hid, hname, hprice]
      · simp [hid, hname, hprice, Int.not_lt.1 hprice]

/-- An item breaks a rule of its own, or else the rule that ids differ. -/
theorem brokenRule?_eq (earlier : List Item) (item : Item) :
    item.brokenRule? earlier =
      match item.check with
      | .error rule => some rule
      | .ok () =>
        if item.id ∈ earlier.map Item.id then some (.duplicate "id" item.id) else none := by
  rw [check_eq, brokenRule?]
  split_ifs <;> rfl

end Item

namespace Catalog

variable {catalog : Catalog} {items earlier : List Item} {item : Item} {cause : Refusal}
  {position : Nat} {rule : Violation}

/-! ## Adding one item -/

/-- The map holds the ids of the items. -/
theorem WellFormed.contains_iff (h : catalog.WellFormed) {id : String} :
    catalog.positions.contains id = true ↔ id ∈ catalog.toList.map Item.id := by
  rw [Std.HashMap.contains_eq_isSome_getElem?, Option.isSome_iff_exists, List.mem_map]
  constructor
  · rintro ⟨position, hposition⟩
    rcases (h.position_iff id position).1 hposition with ⟨item, hitem, hid⟩
    exact ⟨item, Array.mem_toList_iff.2 (Array.mem_of_getElem? hitem), hid⟩
  · rintro ⟨item, hitem, hid⟩
    rcases Array.mem_iff_getElem?.1 (Array.mem_toList_iff.1 hitem) with ⟨position, hposition⟩
    exact ⟨position, (h.position_iff id position).2 ⟨item, hposition, hid⟩⟩

/-- One more item is refused for the first rule that it breaks after the items that are there, and
it is added at the end where it breaks none. -/
theorem WellFormed.add_eq (h : catalog.WellFormed) (item : Item) :
    catalog.add item =
      match item.brokenRule? catalog.toList with
      | some rule => .error (.invalidItem catalog.size rule)
      | none => .ok ⟨catalog.items.push item, catalog.positions.insert item.id catalog.size⟩ := by
  rw [Catalog.add, Item.brokenRule?_eq]
  cases item.check with
  | error rule => rfl
  | ok _ =>
    by_cases htaken : item.id ∈ catalog.toList.map Item.id
    · simp only [if_pos htaken, h.contains_iff.2 htaken, if_true]
    · simp only [if_neg htaken, mt h.contains_iff.1 htaken, if_false, Bool.false_eq_true]

/-! ## Adding many items -/

/-- When these items come after some others, the item at the position breaks this rule, and none in
front of it breaks any. -/
def FirstBroken (earlier items : List Item) (position : Nat) (rule : Violation) : Prop :=
  (∃ item, items[position]? = some item ∧
      item.brokenRule? (earlier ++ items.take position) = some rule) ∧
    ∀ before < position, ∀ item, items[before]? = some item →
      item.brokenRule? (earlier ++ items.take before) = none

/-- No item breaks a rule where there is none. -/
theorem not_firstBroken_nil : ¬FirstBroken earlier [] position rule := by
  rintro ⟨⟨item, hitem, _⟩, _⟩
  simp at hitem

/-- The first item breaks a rule, or it breaks none and one of the others does after it. -/
theorem firstBroken_cons :
    FirstBroken earlier (item :: items) position rule ↔
      (position = 0 ∧ item.brokenRule? earlier = some rule) ∨
        (item.brokenRule? earlier = none ∧
          ∃ later, position = later + 1 ∧ FirstBroken (earlier ++ [item]) items later rule) := by
  cases position with
  | zero => simp [FirstBroken]
  | succ later =>
    have hshift : ∀ n, earlier ++ (item :: items).take (n + 1) =
        earlier ++ [item] ++ items.take n := by
      intro n
      simp
    simp only [FirstBroken, List.getElem?_cons_succ, hshift, Nat.add_eq_zero_iff,
      Nat.one_ne_zero, and_false, false_and, false_or, Nat.add_right_cancel_iff, exists_eq_left']
    constructor
    · rintro ⟨hbroken, hfront⟩
      refine ⟨by simpa using hfront 0 (Nat.succ_pos later) item rfl, hbroken, ?_⟩
      intro before hbefore other hother
      have hnone := hfront (before + 1) (Nat.succ_lt_succ hbefore) other hother
      rwa [hshift] at hnone
    · rintro ⟨hfirst, hbroken, hfront⟩
      refine ⟨hbroken, ?_⟩
      intro before hbefore other hother
      cases before with
      | zero =>
        cases hother
        simpa using hfirst
      | succ before =>
        rw [hshift]
        exact hfront before (Nat.lt_of_succ_lt_succ hbefore) other hother

/-- Adding items ends at the first one that breaks a rule, and with its position. -/
theorem WellFormed.foldlM_add_eq_error_iff (h : catalog.WellFormed) :
    items.foldlM Catalog.add catalog = .error cause ↔
      ∃ position rule, FirstBroken catalog.toList items position rule ∧
        cause = .invalidItem (catalog.size + position) rule := by
  induction items generalizing catalog with
  | nil =>
    constructor
    · intro herror
      cases herror
    · rintro ⟨position, rule, hbroken, _⟩
      exact absurd hbroken not_firstBroken_nil
  | cons item rest ih =>
    have hadd := h.add_eq item
    rw [List.foldlM_cons]
    simp only [firstBroken_cons]
    cases hrule : item.brokenRule? catalog.toList with
    | some broken =>
      simp only [hrule] at hadd
      rw [hadd, error_bind]
      constructor
      · intro heq
        cases heq
        exact ⟨0, broken, .inl ⟨rfl, rfl⟩, rfl⟩
      · rintro ⟨position, rule, ⟨rfl, heq⟩ | ⟨hnone, _⟩, rfl⟩
        · cases heq
          rfl
        · cases hnone
    | none =>
      simp only [hrule] at hadd
      rcases h.add hadd with ⟨hwell, hlist⟩
      rw [hadd, ok_bind, ih hwell, hlist]
      simp only [size, Array.size_push, reduceCtorEq, and_false, false_or, true_and]
      constructor
      · rintro ⟨later, rule, hbroken, rfl⟩
        exact ⟨later + 1, rule, ⟨later, rfl, hbroken⟩, by rw [Nat.add_assoc, Nat.add_comm 1]⟩
      · rintro ⟨position, rule, ⟨later, rfl, hbroken⟩, rfl⟩
        exact ⟨later, rule, hbroken, by rw [Nat.add_assoc, Nat.add_comm 1]⟩

/-- The construction of a catalog ends at the first item that breaks a rule. -/
theorem ofItems_eq_error_iff :
    ofItems items = .error cause ↔
      ∃ position rule, FirstBroken [] items position rule ∧ cause = .invalidItem position rule := by
  rw [ofItems, wellFormed_empty.foldlM_add_eq_error_iff]
  simp [empty, toList, size]

/-- Items are a catalog when they keep the rules and their ids differ. -/
theorem exists_ofItems_iff :
    (∃ catalog, ofItems items = .ok catalog) ↔
      (∀ item ∈ items, item.id ≠ "" ∧ item.name ≠ "" ∧ 0 ≤ item.unitPrice.value) ∧
        (items.map Item.id).Nodup := by
  constructor
  · rintro ⟨catalog, hcatalog⟩
    rcases wellFormed_of_ofItems hcatalog with ⟨hwell, rfl⟩
    refine ⟨?_, hwell.ids_nodup⟩
    intro item hitem
    exact Item.check_eq_ok_iff.1 (hwell.check item (Array.mem_toList_iff.1 hitem))
  · rintro ⟨hrules, hids⟩
    apply wellFormed_empty.exists_foldlM_add
    · intro item hitem
      exact Item.check_eq_ok_iff.2 (hrules item hitem)
    · exact hids

/-! ## Finding items -/

/-- The map of a catalog answers as a search through its items does. -/
theorem WellFormed.lookup_eq_find? (h : catalog.WellFormed) (id : String) :
    catalog.lookup id =
      match catalog.toList.find? (fun item => item.id = id) with
      | some item => .ok item
      | none => .refuse (.itemNotFound id) := by
  cases hfound : catalog.toList.find? (fun item => item.id = id) with
  | some item =>
    have hid : item.id = id := by simpa using List.find?_some hfound
    exact h.lookup_eq_ok_iff.2 ⟨List.mem_of_find?_eq_some hfound, hid⟩
  | none =>
    apply h.lookup_eq_refuse
    intro item hitem
    simpa using List.find?_eq_none.1 hfound item hitem

/-- Items are a catalog exactly when each of them has an id, a name and a price that is not negative
and their ids differ.  Otherwise the first item that breaks a rule is refused with its position and
the first rule that it breaks.  The catalog has as many items as the list, and it finds the item
that a search through the list finds. -/
theorem ofItems_and_lookup_exact (items : List Item) :
    ((∃ catalog, ofItems items = .ok catalog) ↔
        (∀ item ∈ items, item.id ≠ "" ∧ item.name ≠ "" ∧ 0 ≤ item.unitPrice.value) ∧
          (items.map Item.id).Nodup) ∧
      (∀ cause, ofItems items = .error cause ↔
        ∃ position rule, FirstBroken [] items position rule ∧
          cause = .invalidItem position rule) ∧
      ∀ catalog, ofItems items = .ok catalog →
        catalog.size = items.length ∧
          ∀ id, catalog.lookup id =
            match items.find? (fun item => item.id = id) with
            | some item => .ok item
            | none => .refuse (.itemNotFound id) := by
  refine ⟨exists_ofItems_iff, fun cause => ofItems_eq_error_iff, ?_⟩
  intro catalog hcatalog
  rcases wellFormed_of_ofItems hcatalog with ⟨hwell, rfl⟩
  exact ⟨Array.length_toList.symm, hwell.lookup_eq_find?⟩

/-- An item that is offered again below zero is refused for its price, and not for its id or because
of the item after it; the two before it are a catalog that tells ids apart by case. -/
theorem ofItems_and_lookup_exact_price_before_id :
    let tea : Item := ⟨"TEA", "Tea", ⟨400⟩⟩
    let pie : Item := ⟨"PIE", "Pie", ⟨0⟩⟩
    ofItems [tea, pie, ⟨"TEA", "Tea", ⟨-1⟩⟩, ⟨"", "", ⟨5⟩⟩] =
        .error (.invalidItem 2 (.mustBeNonNegative "unit_cents")) ∧
      ∃ catalog, ofItems [tea, pie] = .ok catalog ∧ catalog.size = 2 ∧
        catalog.lookup "PIE" = .ok pie ∧ catalog.lookup "pie" = .refuse (.itemNotFound "pie") := by
  intro tea pie
  constructor
  · rw [(ofItems_and_lookup_exact _).2.1]
    refine ⟨2, _, ⟨⟨_, rfl, by decide⟩, ?_⟩, rfl⟩
    decide
  · rcases (ofItems_and_lookup_exact [tea, pie]).1.2 (by decide) with ⟨catalog, hcatalog⟩
    rcases (ofItems_and_lookup_exact [tea, pie]).2.2 catalog hcatalog with ⟨hsize, hlookup⟩
    exact ⟨catalog, hcatalog, hsize, hlookup "PIE", hlookup "pie"⟩

end Catalog
end Till
