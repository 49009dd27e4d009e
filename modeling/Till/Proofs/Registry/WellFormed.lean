import Mathlib.Data.List.Nodup
import Till.Proofs.Registry.Slots

/-!
# Well-formed registries

In a registry that is only ever changed by its operations the slots, the free list and
the count agree: each free slot is vacant and listed once, a vacant slot that is not
free has used up its generations, and the count is the number of occupied slots.  On
such a registry no operation faults.

Main results:

- Theorem {lit}`Registry.WellFormed.create_eq_ok_iff`: a new cart goes into a free slot, or
  into a new one where none is free.
- Theorem {lit}`Registry.WellFormed.of_slot?`: what a change of one slot has to keep to.
- Theorem {lit}`Registry.WellFormed.release_eq`: a cart is released by its handle, and any
  other handle is refused.
- Theorem {lit}`Registry.WellFormed.foldl_vacated_induction`: what vacating one slot
  preserves, vacating many does.
-/

namespace Till
namespace Registry

/-- Slots, free list and count as the operations leave them. -/
structure WellFormed (registry : Registry) : Prop where
  first_pos : 1 ≤ registry.firstGeneration.toNat
  size_le : registry.slots.size ≤ Handle.halfSize
  free_nodup : registry.free.Nodup
  vacant_of_mem_free : ∀ index ∈ registry.free,
    ∃ generation, registry.slot? index = some ⟨generation, none⟩
  mem_free_or_spent : ∀ index generation, registry.slot? index = some ⟨generation, none⟩ →
    index ∈ registry.free ∨ generation.toNat + 1 = Handle.halfSize
  live_eq : registry.live = registry.occupied
  first_le : ∀ index slot, registry.slot? index = some slot →
    registry.firstGeneration.toNat ≤ slot.generation.toNat

variable {registry : Registry}

/-- A registry without slots is well-formed. -/
theorem wellFormed_startingAt (generation : UInt32) : (startingAt generation).WellFormed where
  first_pos := by
    by_cases h : generation = 0
    · simp [startingAt, h]
    · have hne : generation.toNat ≠ 0 := by
        intro hzero
        exact h (UInt32.toNat_inj.1 hzero)
      simp only [startingAt, h, if_false]
      omega
  size_le := Nat.zero_le _
  free_nodup := List.nodup_nil
  vacant_of_mem_free index hindex := by simp [startingAt] at hindex
  mem_free_or_spent index generation h := by simp [startingAt, slot?] at h
  live_eq := rfl
  first_le index slot h := by simp [startingAt, slot?] at h

/-- The slots of a well-formed registry have numbers that handles can tell apart. -/
theorem WellFormed.lt_halfSize (h : registry.WellFormed) {index : Nat} {slot : Slot}
    (hslot : registry.slot? index = some slot) : index < Handle.halfSize := by
  have hindex := lt_size_of_slot? hslot
  have hsize := h.size_le
  omega

/-! ## Creating -/

/-- A new cart goes into a free slot, in the generation of that slot, or where none is
free into a new one, in the first generation. -/
theorem WellFormed.create_eq_ok_iff (h : registry.WellFormed) {handle : Handle}
    {after : Registry} :
    registry.create = .ok (handle, after) ↔
      (∃ rest, registry.free = handle.slot.toNat :: rest ∧
        registry.slot? handle.slot.toNat = some ⟨handle.generation, none⟩ ∧
        after = { registry.setSlot handle.slot.toNat ⟨handle.generation, some {}⟩ with
          free := rest, live := registry.live + 1 }) ∨
      (registry.free = [] ∧ handle.slot.toNat = registry.slots.size ∧
        handle.generation = registry.firstGeneration ∧
        after = { registry with
          slots := registry.slots.push ⟨handle.generation, some {}⟩
          live := registry.live + 1 }) := by
  unfold create
  cases hfree : registry.free with
  | nil =>
    dsimp only
    split
    · rename_i hsize
      have hslot := Handle.toNat_ofNat_slot hsize
      simp only [Except.ok.injEq, Prod.mk.injEq, reduceCtorEq, false_and, exists_false,
        false_or, true_and]
      constructor
      · intro heq
        rcases heq with ⟨rfl, rfl⟩
        exact ⟨hslot, rfl, rfl⟩
      · intro heq
        rcases heq with ⟨hindex, hgeneration, rfl⟩
        refine ⟨Handle.eq_iff.2 ⟨?_, hgeneration.symm⟩, ?_⟩
        · rw [hslot, hindex]
        · rw [hgeneration]
    · rename_i hsize
      simp only [Outcome.refuse, reduceCtorEq, false_and, exists_false, false_or, true_and,
        false_iff, not_and]
      intro hindex
      have hlt := handle.slot_lt
      omega
  | cons index rest =>
    have hmem : index ∈ registry.free := by
      rw [hfree]
      exact List.mem_cons_self
    rcases h.vacant_of_mem_free index hmem with ⟨generation, hslot⟩
    have hindex := Handle.toNat_ofNat_slot (h.lt_halfSize hslot)
    simp only [hslot, Except.ok.injEq, Prod.mk.injEq, List.cons.injEq, reduceCtorEq,
      false_and, or_false]
    constructor
    · intro heq
      rcases heq with ⟨rfl, rfl⟩
      exact ⟨rest, ⟨hindex.symm, rfl⟩, by rw [hindex, hslot], by rw [hindex]⟩
    · intro heq
      rcases heq with ⟨_, ⟨rfl, rfl⟩, hslot', rfl⟩
      rw [hslot] at hslot'
      cases hslot'
      exact ⟨Handle.eq_iff.2 ⟨hindex, rfl⟩, rfl⟩

/-- New slots start as before a cart was created. -/
theorem WellFormed.firstGeneration_create (h : registry.WellFormed) {handle : Handle}
    {after : Registry} (hcreate : registry.create = .ok (handle, after)) :
    after.firstGeneration = registry.firstGeneration := by
  rcases h.create_eq_ok_iff.1 hcreate with ⟨_, _, _, rfl⟩ | ⟨_, _, _, rfl⟩ <;> rfl

/-- A new cart is found in a slot of its own. -/
theorem WellFormed.slot?_create (h : registry.WellFormed) {handle : Handle}
    {after : Registry} (hcreate : registry.create = .ok (handle, after)) (other : Nat) :
    after.slot? other =
      if other = handle.slot.toNat then some ⟨handle.generation, some {}⟩
      else registry.slot? other := by
  rcases h.create_eq_ok_iff.1 hcreate with ⟨_, _, hslot, rfl⟩ | ⟨_, hindex, _, rfl⟩
  · exact slot?_setSlot hslot
  · rw [hindex]
    exact Array.getElem?_push

/-- The slot of a new cart held none before. -/
theorem WellFormed.vacant_of_create (h : registry.WellFormed) {handle : Handle}
    {after : Registry} (hcreate : registry.create = .ok (handle, after)) {slot : Slot}
    (hslot : registry.slot? handle.slot.toNat = some slot) :
    slot = ⟨handle.generation, none⟩ := by
  rcases h.create_eq_ok_iff.1 hcreate with ⟨_, _, hslot', _⟩ | ⟨_, hindex, _, _⟩
  · rw [hslot'] at hslot
    exact (Option.some.inj hslot).symm
  · have hlt := lt_size_of_slot? hslot
    omega

/-- A new cart makes one more handle valid. -/
theorem WellFormed.cart?_create (h : registry.WellFormed) {handle : Handle}
    {after : Registry} (hcreate : registry.create = .ok (handle, after)) (other : Handle) :
    after.cart? other = if other = handle then some {} else registry.cart? other := by
  rw [cart?_of_slot? (h.slot?_create hcreate)]
  by_cases hindex : other.slot.toNat = handle.slot.toNat
  · have hvacant : registry.cart? other = none := by
      apply cart?_eq_none_of_vacant
      intro slot hslot
      rw [hindex] at hslot
      rw [h.vacant_of_create hcreate hslot]
    by_cases hgeneration : handle.generation = other.generation
    · rw [if_pos hindex, if_pos hgeneration,
        if_pos (Handle.eq_iff.2 ⟨hindex, hgeneration.symm⟩)]
    · have hne : other ≠ handle := by
        intro heq
        exact hgeneration (heq ▸ rfl)
      rw [if_pos hindex, if_neg hgeneration, if_neg hne, hvacant]
  · have hne : other ≠ handle := by
      intro heq
      exact hindex (heq ▸ rfl)
    rw [if_neg hindex, if_neg hne]

/-- There is a new cart or no room for one. -/
theorem WellFormed.create_answered (h : registry.WellFormed) : registry.create.Answered := by
  unfold create
  cases hfree : registry.free with
  | nil =>
    dsimp only
    split <;> trivial
  | cons index rest =>
    have hmem : index ∈ registry.free := by
      rw [hfree]
      exact List.mem_cons_self
    rcases h.vacant_of_mem_free index hmem with ⟨generation, hslot⟩
    simp only [hslot]
    trivial

/-! ## One slot at a time -/

/-- A registry is well-formed after a change of one slot, when the free list follows the
change. -/
theorem WellFormed.of_slot? (h : registry.WellFormed) {after : Registry} {index : Nat}
    {slot : Slot}
    (hslots : ∀ other, after.slot? other =
      if other = index then some slot else registry.slot? other)
    (hfirst : after.firstGeneration = registry.firstGeneration)
    (hgeneration : registry.firstGeneration.toNat ≤ slot.generation.toNat)
    (hsize : after.slots.size ≤ Handle.halfSize) (hnodup : after.free.Nodup)
    (hothers : ∀ other, other ≠ index → (other ∈ after.free ↔ other ∈ registry.free))
    (hvacant : index ∈ after.free → slot.cart = none)
    (hfree : slot.cart = none →
      index ∈ after.free ∨ slot.generation.toNat + 1 = Handle.halfSize)
    (hlive : after.live = after.occupied) : after.WellFormed where
  first_pos := by
    rw [hfirst]
    exact h.first_pos
  size_le := hsize
  free_nodup := hnodup
  vacant_of_mem_free other hmem := by
    rw [hslots]
    by_cases hother : other = index
    · rw [if_pos hother, ← hvacant (hother ▸ hmem)]
      exact ⟨slot.generation, rfl⟩
    · rw [if_neg hother]
      exact h.vacant_of_mem_free other ((hothers other hother).1 hmem)
  mem_free_or_spent other generation hslot := by
    rw [hslots] at hslot
    by_cases hother : other = index
    · rw [if_pos hother] at hslot
      cases hslot
      rw [hother]
      exact hfree rfl
    · rw [if_neg hother] at hslot
      rw [hothers other hother]
      exact h.mem_free_or_spent other generation hslot
  live_eq := hlive
  first_le other slot' hslot := by
    rw [hfirst]
    rw [hslots] at hslot
    by_cases hother : other = index
    · rw [if_pos hother] at hslot
      cases hslot
      exact hgeneration
    · rw [if_neg hother] at hslot
      exact h.first_le other slot' hslot

/-- An occupied slot is not free. -/
theorem WellFormed.notMem_free_of_occupied (h : registry.WellFormed) {index : Nat}
    {generation : UInt32} {cart : Cart}
    (hslot : registry.slot? index = some ⟨generation, some cart⟩) :
    index ∉ registry.free := by
  intro hmem
  rcases h.vacant_of_mem_free index hmem with ⟨generation', hvacant⟩
  rw [hslot] at hvacant
  cases hvacant

/-- A registry with a new cart is well-formed. -/
theorem WellFormed.create (h : registry.WellFormed) {handle : Handle} {after : Registry}
    (hcreate : registry.create = .ok (handle, after)) : after.WellFormed := by
  have hslots := h.slot?_create hcreate
  rcases h.create_eq_ok_iff.1 hcreate with
    ⟨rest, hfree, hslot, rfl⟩ | ⟨hfree, hindex, hgeneration, rfl⟩
  · have hnodup := h.free_nodup
    rw [hfree, List.nodup_cons] at hnodup
    have hgeneration := h.first_le _ _ hslot
    apply h.of_slot? hslots rfl hgeneration
    · simpa using h.size_le
    · exact hnodup.2
    · intro other hother
      rw [hfree]
      exact ⟨List.mem_cons_of_mem _, fun hmem => (List.mem_cons.1 hmem).resolve_left hother⟩
    · intro hmem
      exact absurd hmem hnodup.1
    · intro hnone
      cases hnone
    · have hcount := occupied_setSlot ⟨handle.generation, some {}⟩ hslot
      have hlive := h.live_eq
      simp only [Option.isSome_none, Bool.false_eq_true, if_false, Option.isSome_some,
        if_true, Nat.add_zero] at hcount
      change registry.live + 1 = (registry.setSlot _ _).occupied
      omega
  · apply h.of_slot? hslots rfl (Nat.le_of_eq (congrArg UInt32.toNat hgeneration.symm))
    · have hlt := handle.slot_lt
      rw [Array.size_push]
      omega
    · exact h.free_nodup
    · intro other _
      exact Iff.rfl
    · intro hmem
      rw [hfree] at hmem
      cases hmem
    · intro hnone
      cases hnone
    · have hlive := h.live_eq
      simp only [occupied] at hlive ⊢
      rw [Array.countP_push_of_pos rfl, hlive]

/-! ## Changing and releasing -/

/-- A registry with another cart under a handle is well-formed. -/
theorem WellFormed.put (h : registry.WellFormed) {handle : Handle} {old new : Cart}
    (hcart : registry.cart? handle = some old) : (registry.put handle new).WellFormed := by
  have hslot := cart?_eq_some_iff.1 hcart
  have hgeneration := h.first_le _ _ hslot
  apply h.of_slot? (slot?_put_eq new hcart) rfl hgeneration
  · rw [Registry.put, size_setSlot]
    exact h.size_le
  · exact h.free_nodup
  · intro other _
    exact Iff.rfl
  · intro hmem
    exact absurd hmem (h.notMem_free_of_occupied hslot)
  · intro hnone
    cases hnone
  · have hcount := occupied_setSlot ⟨handle.generation, some new⟩ hslot
    have hlive := h.live_eq
    change registry.live = (registry.setSlot _ _).occupied
    simp at hcount
    omega

/-- A registry in which a slot has lost its cart is well-formed. -/
theorem WellFormed.withVacated (h : registry.WellFormed) {index : Nat}
    {generation : UInt32} {cart : Cart}
    (hslot : registry.slot? index = some ⟨generation, some cart⟩) :
    (registry.withVacated index generation).WellFormed := by
  have hfree := free_withVacated registry index generation
  have hgeneration := h.first_le _ _ hslot
  apply h.of_slot? (slot?_withVacated hslot) firstGeneration_withVacated
    (Nat.le_trans hgeneration (Handle.le_nextGeneration generation))
  · simpa using h.size_le
  · rw [hfree]
    split
    · exact List.nodup_cons.2 ⟨h.notMem_free_of_occupied hslot, h.free_nodup⟩
    · exact h.free_nodup
  · intro other hother
    rw [hfree]
    split
    · exact ⟨fun hmem => (List.mem_cons.1 hmem).resolve_left hother, List.mem_cons_of_mem _⟩
    · exact Iff.rfl
  · intro _
    rfl
  · intro _
    by_cases hnext : generation.toNat + 1 < Handle.halfSize
    · rw [hfree, if_pos hnext]
      exact Or.inl List.mem_cons_self
    · have hlt := Handle.generation_lt generation
      have hspent : generation.toNat + 1 = Handle.halfSize := by omega
      rw [Handle.nextGeneration_of_not_lt hnext]
      exact Or.inr hspent
  · have hcount := occupied_withVacated hslot
    have hlive := h.live_eq
    rw [live_withVacated]
    omega

/-- An occupied slot is vacated, and a vacant one or none stays as it is. -/
theorem WellFormed.vacate_eq (h : registry.WellFormed) (index : Nat) :
    registry.vacate index =
      match registry.slot? index with
      | some ⟨generation, some cart⟩ =>
        .ok (some (cart, registry.withVacated index generation))
      | _ => .ok none := by
  unfold vacate
  cases hslot : registry.slot? index with
  | none => rfl
  | some slot =>
    cases slot with
    | mk generation content =>
      cases content with
      | none => rfl
      | some cart =>
        have hpos := occupied_pos hslot
        have hlive := h.live_eq
        simp only [show registry.live ≠ 0 by omega, if_false]

/-- A cart is released by its handle, and any other handle is refused. -/
theorem WellFormed.release_eq (h : registry.WellFormed) (handle : Handle) :
    registry.release handle =
      match registry.cart? handle with
      | some cart =>
        .ok (cart, registry.withVacated handle.slot.toNat handle.generation)
      | none => .refuse (.invalidHandle handle) := by
  unfold release get
  cases hcart : registry.cart? handle with
  | none => rfl
  | some cart =>
    have hslot := cart?_eq_some_iff.1 hcart
    simp only [ok_bind, h.vacate_eq, hslot, Outcome.ofFaulting]
    rfl

/-! ## Vacating many slots -/

/-- A registry in which a slot has lost its cart if it had one. -/
def vacated (registry : Registry) (index : Nat) : Registry :=
  match registry.slot? index with
  | some ⟨generation, some _⟩ => registry.withVacated index generation
  | _ => registry

/-- Vacating a slot that may be vacant preserves what vacating an occupied one does. -/
theorem vacated_induction {motive : Registry → Prop} (hstart : motive registry) (index : Nat)
    (hstep : ∀ (generation : UInt32) (cart : Cart),
      registry.slot? index = some ⟨generation, some cart⟩ →
      motive (registry.withVacated index generation)) :
    motive (registry.vacated index) := by
  unfold vacated
  split
  · rename_i generation cart hslot
    exact hstep generation cart hslot
  · exact hstart

/-- A registry in which a slot has lost its cart is well-formed. -/
theorem WellFormed.vacated (h : registry.WellFormed) (index : Nat) :
    (registry.vacated index).WellFormed :=
  vacated_induction h index fun _ _ hslot => h.withVacated hslot

/-- A slot that has lost its cart is vacant, and a vacant slot stays so. -/
theorem vacant_vacated {index other : Nat}
    (h : other = index ∨ ∀ slot, registry.slot? other = some slot → slot.cart = none)
    {slot : Slot} (hslot : (registry.vacated index).slot? other = some slot) :
    slot.cart = none := by
  unfold Registry.vacated at hslot
  split at hslot
  · rename_i generation cart hold
    rw [slot?_withVacated hold] at hslot
    split at hslot
    · cases hslot
      rfl
    · rename_i hne
      exact h.resolve_left hne slot hslot
  · rename_i hvacant
    rcases h with rfl | h
    · rcases slot with ⟨generation, _ | cart⟩
      · rfl
      · exact absurd hslot (hvacant generation cart)
    · exact h slot hslot

/-- Slots are vacated one after the other, and none of them faults. -/
theorem WellFormed.vacateAll_eq (h : registry.WellFormed) (indices : List Nat) :
    registry.vacateAll indices = .ok (indices.foldl Registry.vacated registry) := by
  unfold vacateAll
  apply foldlM_eq_ok_foldl WellFormed _ h
  intro before index hbefore
  refine ⟨?_, hbefore.vacated index⟩
  rw [hbefore.vacate_eq]
  unfold Registry.vacated
  cases before.slot? index with
  | none => rfl
  | some slot =>
    rcases slot with ⟨generation, _ | cart⟩
    · rfl
    · rfl

/-- What vacating one slot preserves, vacating many does. -/
theorem WellFormed.foldl_vacated_induction {motive : Registry → Prop}
    (h : registry.WellFormed) (hstart : motive registry)
    (hstep : ∀ (before : Registry) (index : Nat) (generation : UInt32) (cart : Cart),
      before.WellFormed → motive before →
      before.slot? index = some ⟨generation, some cart⟩ →
      motive (before.withVacated index generation))
    (indices : List Nat) :
    (indices.foldl Registry.vacated registry).WellFormed ∧
      motive (indices.foldl Registry.vacated registry) := by
  induction indices generalizing registry with
  | nil => exact ⟨h, hstart⟩
  | cons first rest ih =>
    refine ih (h.vacated first) ?_
    apply vacated_induction hstart
    intro generation cart hslot
    exact hstep registry first generation cart h hstart hslot

/-- Slots that have lost their carts are vacant, and vacant slots stay so. -/
theorem vacant_foldl_vacated {indices : List Nat} {index : Nat}
    (h : index ∈ indices ∨ ∀ slot, registry.slot? index = some slot → slot.cart = none)
    {slot : Slot} (hslot : (indices.foldl vacated registry).slot? index = some slot) :
    slot.cart = none := by
  induction indices generalizing registry with
  | nil => exact h.resolve_left (by simp) slot hslot
  | cons first rest ih =>
    apply ih _ hslot
    rw [List.mem_cons] at h
    rcases h with (hfirst | hrest) | hvacant
    · exact Or.inr fun _ => vacant_vacated (Or.inl hfirst)
    · exact Or.inl hrest
    · exact Or.inr fun _ => vacant_vacated (Or.inr hvacant)

/-- All slots are vacated one after the other. -/
theorem WellFormed.releaseAll_eq (h : registry.WellFormed) :
    registry.releaseAll =
      .ok ((List.range registry.slots.size).foldl Registry.vacated registry) :=
  h.vacateAll_eq _

/-- No handle is valid when all slots have been vacated. -/
theorem WellFormed.cart?_releaseAll (h : registry.WellFormed) {after : Registry}
    (hafter : registry.releaseAll = .ok after) (handle : Handle) :
    after.cart? handle = none := by
  rw [h.releaseAll_eq, Except.ok.injEq] at hafter
  subst hafter
  apply cart?_eq_none_of_vacant
  intro slot hslot
  by_cases hindex : handle.slot.toNat < registry.slots.size
  · exact vacant_foldl_vacated (Or.inl (List.mem_range.2 hindex)) hslot
  · have hnone : registry.slot? handle.slot.toNat = none :=
      slot?_eq_none_iff.2 (Nat.le_of_not_lt hindex)
    apply vacant_foldl_vacated (Or.inr _) hslot
    intro slot' hslot'
    rw [hnone] at hslot'
    cases hslot'

end Registry
end Till
