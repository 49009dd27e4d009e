import Mathlib.Data.List.Nodup
import Till.Json.Record
import Till.Proofs.Json.Numerals

/-!
# Fields of records

A value gives the fields of a record: an object by its members, in any order and beside members of
any other names, where each name of the record comes up at most once; an array by its elements, in
the order of the names.  Such a record is read, and its fields are those that were given.

Main results:

- Theorem {lit}`Record.foldlM_add?`: the members of an object are gathered.
- Theorem {lit}`Record.Gives.exists_ofValue?`: a record is read with the fields that are given.
- Theorem {lit}`Record.gives_of_ofValue?`: the fields of a record that is read are given.
- Theorem {lit}`Record.gives_object`, {lit}`Record.gives_array`: the two ways to present a record.
- Theorem {lit}`Number.IsLiteral.int64?_eq_some_iff`, {lit}`Number.IsLiteral.exists_int64?_iff`: a
  number literal is read as a word exactly when this is how the word is written.
-/

namespace Till
namespace Json

/-! ## Words -/

/-- A number literal is read as a word exactly when this is how the word is written. -/
theorem Number.IsLiteral.int64?_eq_some_iff {literal : List Char} (h : IsLiteral literal)
    {a : Int64} :
    (Value.number literal).int64? = some a ↔ literal = Decimal.write a.toInt := by
  rw [Value.int64?, Option.bind_eq_some_iff]
  constructor
  · rintro ⟨n, hn, ha⟩
    rw [Bounded.ofInt?_eq_some_iff.1 ha]
    exact h.integer?_eq_some_iff.1 hn
  · intro hwrite
    exact ⟨a.toInt, h.integer?_eq_some_iff.2 hwrite, Bounded.ofInt?_toInt a⟩

/-- The literal is how an integer that a word holds is written. -/
def Number.IsWord (literal : List Char) : Prop :=
  ∃ n : Int, Bounded.least ≤ n ∧ n ≤ Bounded.greatest ∧ literal = Decimal.write n

/-- An integer is written as a word is when it is in the range of the words. -/
theorem Number.isWord_write_iff {n : Int} :
    IsWord (Decimal.write n) ↔ Bounded.least ≤ n ∧ n ≤ Bounded.greatest := by
  constructor
  · rintro ⟨m, hlow, hhigh, hwrite⟩
    rw [write_inj.1 hwrite]
    exact ⟨hlow, hhigh⟩
  · rintro ⟨hlow, hhigh⟩
    exact ⟨n, hlow, hhigh, rfl⟩

/-- A number literal is read as a word exactly when this is how some word is written. -/
theorem Number.IsLiteral.exists_int64?_iff {literal : List Char} (h : IsLiteral literal) :
    (∃ a, (Value.number literal).int64? = some a) ↔ IsWord literal := by
  constructor
  · rintro ⟨a, ha⟩
    have hrange := Bounded.toInt_mem_range a
    exact ⟨a.toInt, hrange.1, hrange.2, h.int64?_eq_some_iff.1 ha⟩
  · rintro ⟨n, hlow, hhigh, hwrite⟩
    refine ⟨Int64.ofInt n, h.int64?_eq_some_iff.2 ?_⟩
    rw [Bounded.toInt_ofInt hlow hhigh]
    exact hwrite

/-! ## Members of one name -/

/-- The values of the members of this name, in order. -/
def named (name : String) (members : List (Option String × Value)) : List Value :=
  members.filterMap fun member => if member.1 = some name then some member.2 else none

/-- A member in front is one of its own name only. -/
theorem named_cons (name : String) (key : Option String) (value : Value)
    (rest : List (Option String × Value)) :
    named name ((key, value) :: rest) =
      if key = some name then value :: named name rest else named name rest := by
  unfold named
  by_cases h : key = some name <;> simp [h]

namespace Record

variable {names : List String} {field : String → Option Value} {found : Record}
  {members : List (Option String × Value)}

/-- A field in front of others is the one of its name. -/
theorem lookup_cons (name key : String) (value : Value) (found : Record) :
    List.lookup name ((key, value) :: found) =
      if key = name then some value else found.lookup name := by
  rw [List.lookup_cons]
  by_cases h : key = name
  · simp [h]
  · rw [beq_false_of_ne (Ne.symm h), if_neg h]

/-- The members of an object are gathered when every key has a text and each name comes up at most
once, in what was found before or among the members. -/
theorem foldlM_add? (hkeys : ∀ member ∈ members, member.1 ≠ none)
    (honce : ∀ name ∈ names, (found.lookup name).toList.length + (named name members).length ≤ 1) :
    ∃ record, members.foldlM (add? names) found = some record ∧
      ∀ name ∈ names, record.lookup name = (found.lookup name).or (named name members).head? := by
  induction members generalizing found with
  | nil => exact ⟨found, rfl, fun name _ => (Option.or_none).symm⟩
  | cons member rest ih =>
    rcases member with ⟨key?, value⟩
    have hrest : ∀ member ∈ rest, member.1 ≠ none := fun member hmember =>
      hkeys member (List.mem_cons_of_mem _ hmember)
    rcases Option.ne_none_iff_exists'.1 (hkeys _ List.mem_cons_self) with ⟨key, hkey⟩
    cases hkey
    by_cases hknown : key ∈ names
    · have hfirst := honce key hknown
      rw [named_cons, if_pos rfl, List.length_cons] at hfirst
      have hfree : found.lookup key = none := by
        rw [← Option.toList_eq_nil_iff, ← List.length_eq_zero_iff]
        omega
      have hnone : named key rest = [] := by
        rw [← List.length_eq_zero_iff]
        omega
      have hadd : add? names found (some key, value) = some ((key, value) :: found) := by
        simp [add?, hknown, hfree]
      rcases ih hrest (fun name hname => by
        have hname := honce name hname
        rw [named_cons] at hname
        rw [lookup_cons]
        by_cases heq : key = name
        · rw [if_pos heq, ← heq, hnone]
          exact Nat.le_refl 1
        · rw [if_neg fun h => heq (Option.some.inj h)] at hname
          rwa [if_neg heq]) with ⟨record, hrecord, hfields⟩
      refine ⟨record, ?_, ?_⟩
      · rw [List.foldlM_cons, hadd]
        exact hrecord
      · intro name hname
        rw [hfields name hname, lookup_cons, named_cons]
        by_cases heq : key = name
        · rw [if_pos heq, ← heq, if_pos rfl, hfree]
          rfl
        · rw [if_neg heq, if_neg fun h => heq (Option.some.inj h)]
    · have hadd : add? names found (some key, value) = some found := by simp [add?, hknown]
      have hnamed : ∀ name ∈ names, named name ((some key, value) :: rest) = named name rest := by
        intro name hname
        rw [named_cons, if_neg]
        rintro ⟨⟩
        exact hknown hname
      rcases ih hrest fun name hname => hnamed name hname ▸ honce name hname with
        ⟨record, hrecord, hfields⟩
      refine ⟨record, ?_, ?_⟩
      · rw [List.foldlM_cons, hadd]
        exact hrecord
      · intro name hname
        rw [hfields name hname, hnamed name hname]

/-- Members are gathered only when every key has a text, and each name comes up at most once: what
is gathered under a name is what was found before and the members of this name. -/
theorem of_foldlM_add? {record : Record} (h : members.foldlM (add? names) found = some record) :
    (∀ member ∈ members, member.1 ≠ none) ∧
      ∀ name ∈ names,
        (record.lookup name).toList = (found.lookup name).toList ++ named name members := by
  induction members generalizing found with
  | nil =>
    cases h
    exact ⟨nofun, fun name _ => (List.append_nil _).symm⟩
  | cons member rest ih =>
    rcases member with ⟨key?, value⟩
    rw [List.foldlM_cons] at h
    rcases Option.bind_eq_some_iff.1 h with ⟨between, hadd, hrest⟩
    rcases ih hrest with ⟨hkeys, hnamed⟩
    cases key? with
    | none => cases hadd
    | some key =>
      refine ⟨List.forall_mem_cons.2 ⟨Option.some_ne_none key, hkeys⟩, ?_⟩
      intro name hname
      rw [hnamed name hname, named_cons]
      simp only [add?, List.contains_iff_mem] at hadd
      split at hadd
      · split at hadd
        · cases hadd
        · rename_i hfree
          cases hadd
          rw [lookup_cons]
          by_cases heq : key = name
          · subst heq
            rw [if_pos rfl, if_pos rfl, Option.not_isSome_iff_eq_none.1 hfree]
            rfl
          · rw [if_neg heq, if_neg fun h => heq (Option.some.inj h)]
      · rename_i hunknown
        cases hadd
        rw [if_neg]
        rintro ⟨⟩
        exact hunknown hname

/-! ## Records -/

/-- The value gives the fields of a record of these names. -/
def Gives (names : List String) (field : String → Option Value) : Value → Prop
  | .object members =>
    (∀ member ∈ members, member.1 ≠ none) ∧
      ∀ name ∈ names, named name members = (field name).toList
  | .array elements =>
    elements.length ≤ names.length ∧
      ∀ (i : Nat) (name : String), names[i]? = some name → field name = elements[i]?
  | _ => False

/-- Names are paired with the elements in their places. -/
theorem lookup_zip (hnodup : names.Nodup) {elements : List Value} {i : Nat} {name : String}
    (hname : names[i]? = some name) : (names.zip elements).lookup name = elements[i]? := by
  induction names generalizing elements i with
  | nil => cases hname
  | cons first rest ih =>
    rcases List.nodup_cons.1 hnodup with ⟨hfirst, hrest⟩
    cases elements with
    | nil => rfl
    | cons element others =>
      rw [List.zip_cons_cons, lookup_cons]
      cases i with
      | zero =>
        rw [List.getElem?_cons_zero, Option.some.injEq] at hname
        rw [if_pos hname, List.getElem?_cons_zero]
      | succ i =>
        rw [List.getElem?_cons_succ] at hname
        have hne : first ≠ name := by
          rintro rfl
          exact hfirst (List.mem_of_getElem? hname)
        rw [if_neg hne, List.getElem?_cons_succ]
        exact ih hrest hname

/-- A record is read with the fields that are given. -/
theorem Gives.exists_ofValue? {value : Value} (h : Gives names field value)
    (hnodup : names.Nodup) :
    ∃ record, ofValue? names value = some record ∧
      ∀ name ∈ names, record.field? name = field name := by
  cases value with
  | object members =>
    rcases h with ⟨hkeys, hnamed⟩
    have honce : ∀ name ∈ names,
        (List.lookup name ([] : Record)).toList.length + (named name members).length ≤ 1 := by
      intro name hname
      rw [hnamed name hname]
      cases field name <;> simp
    rcases foldlM_add? hkeys honce with ⟨record, hrecord, hfields⟩
    refine ⟨record, hrecord, ?_⟩
    intro name hname
    rw [field?, hfields name hname, hnamed name hname]
    cases field name <;> rfl
  | array elements =>
    rcases h with ⟨hlength, hplaces⟩
    refine ⟨_, ofValue?_array hlength, ?_⟩
    intro name hname
    rcases List.getElem?_of_mem hname with ⟨i, hi⟩
    rw [field?, lookup_zip hnodup hi, hplaces i name hi]
  | _ => exact h.elim

/-- Only fields of the names count. -/
theorem Gives.congr {value : Value} {other : String → Option Value}
    (h : Gives names field value) (heq : ∀ name ∈ names, field name = other name) :
    Gives names other value := by
  cases value with
  | object members => exact ⟨h.1, fun name hname => heq name hname ▸ h.2 name hname⟩
  | array elements =>
    exact ⟨h.1, fun i name hi => heq name (List.mem_of_getElem? hi) ▸ h.2 i name hi⟩
  | _ => exact h

/-- The fields of a record that is read are those that the value gives. -/
theorem gives_of_ofValue? {value : Value} {record : Record}
    (h : ofValue? names value = some record) (hnodup : names.Nodup) :
    Gives names record.field? value := by
  cases value with
  | object members =>
    rcases of_foldlM_add? h with ⟨hkeys, hnamed⟩
    exact ⟨hkeys, fun name hname => (hnamed name hname).symm⟩
  | array elements =>
    simp only [ofValue?] at h
    split at h
    · rename_i hlength
      cases h
      exact ⟨hlength, fun i name hi => lookup_zip hnodup hi⟩
    · cases h
  | _ => cases h

/-! ## Records that are given -/

/-- Under names of their own, the field of a name is the only member of this name. -/
theorem named_map_some {fields : Record} (h : (fields.map Prod.fst).Nodup) (name : String) :
    named name (fields.map fun entry => (some entry.1, entry.2)) = (fields.lookup name).toList := by
  induction fields with
  | nil => rfl
  | cons first rest ih =>
    rcases first with ⟨key, value⟩
    rw [List.map_cons] at h
    rcases List.nodup_cons.1 h with ⟨hfirst, hrest⟩
    rw [List.map_cons, named_cons, lookup_cons, ih hrest]
    by_cases heq : key = name
    · subst heq
      have hnone : List.lookup key rest = none := by
        rw [List.lookup_eq_none_iff]
        rintro ⟨other, held⟩ hentry
        rw [bne_iff_ne]
        rintro rfl
        exact hfirst (List.mem_map.2 ⟨_, hentry, rfl⟩)
      rw [if_pos rfl, if_pos rfl, hnone]
      rfl
    · rw [if_neg heq, if_neg fun h => heq (Option.some.inj h)]

/-- An object of the fields gives them. -/
theorem gives_object {fields : Record} (h : (fields.map Prod.fst).Nodup) :
    Gives (fields.map Prod.fst) fields.field?
      (.object (fields.map fun entry => (some entry.1, entry.2))) :=
  ⟨List.forall_mem_map.2 fun _ _ => Option.some_ne_none _, fun name _ => named_map_some h name⟩

/-- An array of the fields in their order gives them. -/
theorem gives_array {fields : Record} (h : (fields.map Prod.fst).Nodup) :
    Gives (fields.map Prod.fst) fields.field? (.array (fields.map Prod.snd)) := by
  refine ⟨by simp, ?_⟩
  intro i name hname
  have hzip : (fields.map Prod.fst).zip (fields.map Prod.snd) = fields := by
    simpa [List.unzip_eq_map] using List.zip_unzip fields
  rw [← lookup_zip h hname, hzip]
  rfl

end Record
end Json
end Till
