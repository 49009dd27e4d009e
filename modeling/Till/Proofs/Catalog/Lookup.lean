import Mathlib.Data.List.Nodup
import Till.Catalog.Document
import Till.Proofs.Outcome

/-!
# Finding items

A catalog finds items through a map from ids to positions.  The map is filled while
the items are checked one after the other, and from then on it agrees with the items:
each id leads to the one item that has it, and an id of no item leads nowhere.

Main results:

- Theorem {lit}`Catalog.wellFormed_of_ofItems`: a catalog that is built from items has
  these items, allowed ones, and finds them.
- Theorem {lit}`Catalog.WellFormed.lookup_eq_ok_iff`: an item is found by its id, and by
  no other.
-/

namespace Till

/-- The rules on an item ask for a price that is not negative. -/
theorem Item.price_nonneg_of_check {item : Item} (h : item.check = .ok ()) :
    0 ≤ item.unitPrice.value := by
  simp only [Item.check, bind_eq_ok_iff] at h
  obtain ⟨_, _, _, _, hprice⟩ := h
  exact Rules.unitPrice_eq_ok_iff.1 hprice

namespace Catalog

/-- The positions are those of the items, and the items keep the rules. -/
structure WellFormed (catalog : Catalog) : Prop where
  position_iff : ∀ id position, catalog.positions[id]? = some position ↔
    ∃ item : Item, catalog.items[position]? = some item ∧ item.id = id
  check : ∀ item ∈ catalog.items, item.check = .ok ()

variable {catalog : Catalog}

theorem wellFormed_empty : empty.WellFormed where
  position_iff id position := by simp [empty]
  check item hitem := by simp [empty] at hitem

/-- An item is added when it keeps the rules and its id is new. -/
theorem add_eq_ok_iff {item : Item} {after : Catalog} :
    catalog.add item = .ok after ↔
      item.check = .ok () ∧ catalog.positions[item.id]? = none ∧
        after = ⟨catalog.items.push item,
          catalog.positions.insert item.id catalog.size⟩ := by
  unfold add
  cases item.check with
  | error rule => simp
  | ok _ =>
    simp only [true_and, Std.HashMap.contains_eq_isSome_getElem?]
    cases catalog.positions[item.id]? with
    | none => simp [eq_comm]
    | some position => simp

/-- A catalog with one more item is well-formed. -/
theorem WellFormed.add (h : catalog.WellFormed) {item : Item} {after : Catalog}
    (hadd : catalog.add item = .ok after) :
    after.WellFormed ∧ after.toList = catalog.toList ++ [item] := by
  obtain ⟨hcheck, hnew, rfl⟩ := add_eq_ok_iff.1 hadd
  refine ⟨⟨?_, ?_⟩, by simp [toList]⟩
  · intro id position
    rw [Std.HashMap.getElem?_insert, Array.getElem?_push]
    by_cases hid : item.id = id
    · subst hid
      simp only [beq_self_eq_true, if_true, Option.some.injEq]
      constructor
      · intro heq
        rcases heq with rfl
        exact ⟨item, by simp [size], rfl⟩
      · intro hall
        rcases hall with ⟨other, hother, hid⟩
        split at hother
        · rename_i hposition
          exact hposition.symm
        · have hknown := (h.position_iff item.id position).2 ⟨other, hother, hid⟩
          rw [hnew] at hknown
          cases hknown
    · rw [if_neg (by simpa using hid), h.position_iff]
      constructor
      · intro hall
        rcases hall with ⟨other, hother, hid'⟩
        have hlt := (Array.getElem?_eq_some_iff.1 hother).1
        exact ⟨other, by rw [if_neg (by omega)]; exact hother, hid'⟩
      · intro hall
        rcases hall with ⟨other, hother, hid'⟩
        split at hother
        · cases hother
          exact absurd hid' hid
        · exact ⟨other, hother, hid'⟩
  · intro other hother
    rcases Array.mem_push.1 hother with hother | rfl
    · exact h.check other hother
    · exact hcheck

/-- Items that are added in order stand at the end in this order. -/
theorem WellFormed.foldlM_add (h : catalog.WellFormed) {items : List Item} {after : Catalog}
    (hadd : items.foldlM Catalog.add catalog = .ok after) :
    after.WellFormed ∧ after.toList = catalog.toList ++ items := by
  induction items generalizing catalog with
  | nil =>
    simp only [List.foldlM_nil, pure, Except.pure, Except.ok.injEq] at hadd
    subst hadd
    exact ⟨h, by simp⟩
  | cons item rest ih =>
    rw [List.foldlM_cons, bind_eq_ok_iff] at hadd
    obtain ⟨next, hnext, hrest⟩ := hadd
    obtain ⟨hwell, hlist⟩ := h.add hnext
    obtain ⟨hwell', hlist'⟩ := ih hwell hrest
    refine ⟨hwell', ?_⟩
    rw [hlist', hlist, List.append_assoc, List.singleton_append]

/-- A catalog that is built from items has these items and finds them. -/
theorem wellFormed_of_ofItems {items : List Item} (h : ofItems items = .ok catalog) :
    catalog.WellFormed ∧ catalog.toList = items := by
  obtain ⟨hwell, hlist⟩ := wellFormed_empty.foldlM_add h
  exact ⟨hwell, by simpa [toList, empty] using hlist⟩

/-- Items that keep the rules are added in order where no id is taken twice. -/
theorem WellFormed.exists_foldlM_add (h : catalog.WellFormed) {items : List Item}
    (hcheck : ∀ item ∈ items, item.check = .ok ())
    (hids : ((catalog.toList ++ items).map Item.id).Nodup) :
    ∃ after, items.foldlM Catalog.add catalog = .ok after := by
  induction items generalizing catalog with
  | nil => exact ⟨catalog, rfl⟩
  | cons item rest ih =>
    have hnew : catalog.positions[item.id]? = none := by
      by_contra hknown
      rcases Option.ne_none_iff_exists'.1 hknown with ⟨position, hposition⟩
      rcases (h.position_iff _ _).1 hposition with ⟨other, hother, hid⟩
      have hmem : other.id ∈ catalog.toList.map Item.id :=
        List.mem_map_of_mem (Array.mem_toList_iff.2 (Array.mem_of_getElem? hother))
      rw [List.map_append, List.map_cons, List.nodup_middle, List.nodup_cons] at hids
      apply hids.1
      rw [← hid]
      exact List.mem_append_left _ hmem
    have hadd := add_eq_ok_iff.2 ⟨hcheck item List.mem_cons_self, hnew, rfl⟩
    rcases h.add hadd with ⟨hwell, hlist⟩
    rw [List.foldlM_cons, hadd, ok_bind]
    apply ih hwell
    · intro other hother
      exact hcheck other (List.mem_cons_of_mem _ hother)
    · rw [hlist, List.append_assoc, List.singleton_append]
      exact hids

/-- A text that presents items of different ids that keep the rules is a catalog of these
items. -/
theorem exists_ofText_eq_ok (text : String) (items : List Item)
    (hblank : Blank.allBlank text = false) (hitems : itemsOfText? text = some items)
    (hcheck : ∀ item ∈ items, item.check = .ok ()) (hids : (items.map Item.id).Nodup) :
    ∃ catalog, ofText text = .ok catalog ∧ catalog.WellFormed ∧ catalog.toList = items := by
  rcases wellFormed_empty.exists_foldlM_add hcheck hids with ⟨catalog, hcatalog⟩
  refine ⟨catalog, ?_, wellFormed_of_ofItems hcatalog⟩
  simp only [ofText, hblank, hitems, Bool.false_eq_true, if_false]
  exact hcatalog

/-- The ids of the items of a well-formed catalog differ. -/
theorem WellFormed.ids_nodup (h : catalog.WellFormed) :
    (catalog.toList.map Item.id).Nodup := by
  have hposition : ∀ (i : Nat) (id : String), (catalog.toList.map Item.id)[i]? = some id →
      catalog.positions[id]? = some i := by
    intro i id hid
    rw [List.getElem?_map, Option.map_eq_some_iff] at hid
    rcases hid with ⟨item, hitem, hid⟩
    exact (h.position_iff id i).2 ⟨item, by rwa [← Array.getElem?_toList], hid⟩
  rw [List.nodup_iff_getElem?_ne_getElem?]
  intro i j hlt hj heq
  have hid := List.getElem?_eq_getElem hj
  have hi := hposition i _ (heq.trans hid)
  rw [hposition j _ hid, Option.some.injEq] at hi
  omega

/-- A catalog that is read from a text is well-formed. -/
theorem wellFormed_of_ofText {text : String} (h : ofText text = .ok catalog) :
    catalog.WellFormed := by
  unfold ofText at h
  split at h
  · cases h
  · split at h
    · cases h
    · exact (wellFormed_of_ofItems h).1

/-- An item is found by its id, and by no other. -/
theorem WellFormed.lookup_eq_ok_iff (h : catalog.WellFormed) {id : String} {item : Item} :
    catalog.lookup id = .ok item ↔ item ∈ catalog.toList ∧ item.id = id := by
  unfold lookup
  cases hposition : catalog.positions[id]? with
  | none =>
    simp only [Outcome.refuse, reduceCtorEq, false_iff, not_and]
    intro hitem hid
    obtain ⟨position, hposition'⟩ := Array.mem_iff_getElem?.1 (Array.mem_toList_iff.1 hitem)
    rw [(h.position_iff id position).2 ⟨item, hposition', hid⟩] at hposition
    cases hposition
  | some position =>
    obtain ⟨found, hfound, hid⟩ := (h.position_iff id position).1 hposition
    simp only [hfound, Except.ok.injEq]
    constructor
    · intro heq
      rcases heq with rfl
      exact ⟨Array.mem_toList_iff.2 (Array.mem_of_getElem? hfound), hid⟩
    · intro hall
      rcases hall with ⟨hitem, hid'⟩
      obtain ⟨other, hother⟩ := Array.mem_iff_getElem?.1 (Array.mem_toList_iff.1 hitem)
      have hother' := (h.position_iff id other).2 ⟨item, hother, hid'⟩
      rw [hposition] at hother'
      cases hother'
      rw [hfound] at hother
      exact Option.some.inj hother

/-- An id of no item is refused. -/
theorem WellFormed.lookup_eq_refuse (h : catalog.WellFormed) {id : String}
    (hid : ∀ item ∈ catalog.toList, item.id ≠ id) :
    catalog.lookup id = .refuse (.itemNotFound id) := by
  unfold lookup
  cases hposition : catalog.positions[id]? with
  | none => rfl
  | some position =>
    obtain ⟨found, hfound, heq⟩ := (h.position_iff id position).1 hposition
    exact absurd heq (hid found (Array.mem_toList_iff.2 (Array.mem_of_getElem? hfound)))

/-- An id leads to an item that keeps the rules, or it is refused. -/
theorem WellFormed.lookup_ensures (h : catalog.WellFormed) {id : String} :
    (catalog.lookup id).Ensures fun item => item.check = .ok () := by
  have hanswered : (catalog.lookup id).Answered := by
    unfold lookup
    cases hposition : catalog.positions[id]? with
    | none => trivial
    | some position =>
      obtain ⟨found, hfound, _⟩ := (h.position_iff id position).1 hposition
      simp only [hfound]
      trivial
  apply hanswered.ensures
  intro item hitem
  exact h.check item (Array.mem_toList_iff.1 (h.lookup_eq_ok_iff.1 hitem).1)

end Catalog
end Till
