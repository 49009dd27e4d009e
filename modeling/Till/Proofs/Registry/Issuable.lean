import Till.Proofs.Registry.WellFormed

/-!
# Handles still to be given out

A handle may yet be given out when its slot is to be opened, or is to reach the
generation of the handle by being vacated.  Handles only ever cease to be so: giving
one out, vacating a slot and replacing the whole registry by one of a later first
generation use handles up and bring none back.  This is why a handle that was given
out once is never given out again.

Main results:

- Theorem {lit}`Registry.WellFormed.issuable_of_create`: a handle that is given out was
  still to be given out, and is no longer.
- Theorem {lit}`Registry.WellFormed.issuable_of_withVacated`: vacating a slot brings no
  handle back.
- Theorem {lit}`Registry.issuable_of_nextFloor`: nor does a registry that starts at the
  next floor.
-/

namespace Till
namespace Registry

/-- The handle may yet be given out. -/
def Issuable (registry : Registry) (handle : Handle) : Prop :=
  match registry.slot? handle.slot.toNat with
  | none => registry.firstGeneration.toNat ≤ handle.generation.toNat
  | some slot =>
    slot.generation.toNat < handle.generation.toNat ∨
      (slot.generation = handle.generation ∧ handle.slot.toNat ∈ registry.free)

variable {registry : Registry} {handle other : Handle}

/-- A handle of a slot that is to be opened. -/
theorem issuable_iff_of_none (h : registry.slot? handle.slot.toNat = none) :
    registry.Issuable handle ↔
      registry.firstGeneration.toNat ≤ handle.generation.toNat := by
  simp only [Issuable, h]

/-- A handle of a slot that has been opened. -/
theorem issuable_iff_of_some {slot : Slot}
    (h : registry.slot? handle.slot.toNat = some slot) :
    registry.Issuable handle ↔
      slot.generation.toNat < handle.generation.toNat ∨
        (slot.generation = handle.generation ∧ handle.slot.toNat ∈ registry.free) := by
  simp only [Issuable, h]

/-- In a registry without slots all handles from the first generation on are to be given
out. -/
theorem issuable_startingAt_iff {generation : UInt32} :
    (startingAt generation).Issuable handle ↔
      (startingAt generation).firstGeneration.toNat ≤ handle.generation.toNat :=
  issuable_iff_of_none rfl

/-- The handle of an occupied slot is not to be given out. -/
theorem WellFormed.not_issuable_of_occupied (h : registry.WellFormed) {cart : Cart}
    (hcart : registry.cart? handle = some cart) : ¬ registry.Issuable handle := by
  have hslot := cart?_eq_some_iff.1 hcart
  rw [issuable_iff_of_some hslot]
  intro hissuable
  rcases hissuable with hlt | ⟨_, hfree⟩
  · exact absurd hlt (Nat.lt_irrefl _)
  · rcases h.vacant_of_mem_free _ hfree with ⟨generation, hvacant⟩
    rw [hslot] at hvacant
    cases hvacant

/-- A handle that is to be given out has a generation from the first one on. -/
theorem WellFormed.first_le_of_issuable (h : registry.WellFormed)
    (hissuable : registry.Issuable handle) :
    registry.firstGeneration.toNat ≤ handle.generation.toNat := by
  cases hslot : registry.slot? handle.slot.toNat with
  | none => exact (issuable_iff_of_none hslot).1 hissuable
  | some slot =>
    have hfirst := h.first_le _ slot hslot
    rcases (issuable_iff_of_some hslot).1 hissuable with hlt | ⟨heq, _⟩
    · omega
    · rw [← heq]
      exact hfirst

/-- The number of a handle that is to be given out is not zero. -/
theorem WellFormed.toNat_ne_zero_of_issuable (h : registry.WellFormed)
    (hissuable : registry.Issuable handle) : handle.toNat ≠ 0 := by
  have hfirst := h.first_pos
  have hle := h.first_le_of_issuable hissuable
  unfold Handle.toNat Handle.halfSize
  omega

/-! ## Operations use handles up -/

/-- A handle that is given out was still to be given out. -/
theorem WellFormed.issuable_of_create (h : registry.WellFormed) {after : Registry}
    (hcreate : registry.create = .ok (handle, after)) : registry.Issuable handle := by
  rcases h.create_eq_ok_iff.1 hcreate with
    ⟨rest, hfree, hslot, _⟩ | ⟨_, hindex, hgeneration, _⟩
  · rw [issuable_iff_of_some hslot, hfree]
    exact Or.inr ⟨rfl, List.mem_cons_self⟩
  · have hnone : registry.slot? handle.slot.toNat = none :=
      slot?_eq_none_iff.2 (by omega)
    rw [issuable_iff_of_none hnone]
    exact Nat.le_of_eq (congrArg UInt32.toNat hgeneration.symm)

/-- Giving out a handle brings no other one back. -/
theorem WellFormed.issuable_of_issuable_create (h : registry.WellFormed) {after : Registry}
    (hcreate : registry.create = .ok (handle, after)) (hissuable : after.Issuable other) :
    registry.Issuable other := by
  have hslots := h.slot?_create hcreate other.slot.toNat
  by_cases hindex : other.slot.toNat = handle.slot.toNat
  · rw [if_pos hindex] at hslots
    have hlt : handle.generation.toNat < other.generation.toNat := by
      rcases (issuable_iff_of_some hslots).1 hissuable with hlt | ⟨_, hfree⟩
      · exact hlt
      · rcases (h.create hcreate).vacant_of_mem_free _ hfree with ⟨generation, hvacant⟩
        rw [hslots] at hvacant
        cases hvacant
    cases hslot : registry.slot? other.slot.toNat with
    | none =>
      have hissuable' := h.first_le_of_issuable (h.issuable_of_create hcreate)
      rw [issuable_iff_of_none hslot]
      omega
    | some slot =>
      rw [hindex] at hslot
      have hslot' := h.vacant_of_create hcreate hslot
      rw [← hindex] at hslot
      rw [issuable_iff_of_some hslot, hslot']
      exact Or.inl hlt
  · rw [if_neg hindex] at hslots
    rcases h.create_eq_ok_iff.1 hcreate with ⟨rest, hfree, _, rfl⟩ | ⟨_, _, _, rfl⟩
    · unfold Issuable at hissuable ⊢
      rw [hslots] at hissuable
      cases hslot : registry.slot? other.slot.toNat with
      | none =>
        rw [hslot] at hissuable
        exact hissuable
      | some slot =>
        rw [hslot] at hissuable
        rcases hissuable with hlt | ⟨heq, hmem⟩
        · exact Or.inl hlt
        · rw [hfree]
          exact Or.inr ⟨heq, List.mem_cons_of_mem _ hmem⟩
    · unfold Issuable at hissuable ⊢
      rw [hslots] at hissuable
      exact hissuable

/-- Another cart under a handle leaves the handles that are to be given out. -/
theorem issuable_of_put {old new : Cart}
    (hcart : registry.cart? handle = some old)
    (hissuable : (registry.put handle new).Issuable other) : registry.Issuable other := by
  have hslots := slot?_put_eq new hcart other.slot.toNat
  have hslot := cart?_eq_some_iff.1 hcart
  by_cases hindex : other.slot.toNat = handle.slot.toNat
  · rw [if_pos hindex] at hslots
    rw [← hindex] at hslot
    exact (issuable_iff_of_some hslot).2 ((issuable_iff_of_some hslots).1 hissuable)
  · rw [if_neg hindex] at hslots
    unfold Issuable at hissuable ⊢
    rw [hslots] at hissuable
    exact hissuable

/-- Vacating a slot brings no handle back. -/
theorem WellFormed.issuable_of_withVacated (h : registry.WellFormed) {index : Nat}
    {generation : UInt32} {cart : Cart}
    (hslot : registry.slot? index = some ⟨generation, some cart⟩)
    (hissuable : (registry.withVacated index generation).Issuable other) :
    registry.Issuable other := by
  have hslots := slot?_withVacated hslot other.slot.toNat
  have hfree := free_withVacated registry index generation
  by_cases hindex : other.slot.toNat = index
  · rw [if_pos hindex] at hslots
    rw [← hindex] at hslot
    rw [issuable_iff_of_some hslot]
    left
    rw [issuable_iff_of_some hslots, hfree] at hissuable
    have hle := Handle.le_nextGeneration generation
    rcases hissuable with hlt | ⟨heq, hmem⟩
    · exact Nat.lt_of_le_of_lt hle hlt
    · by_cases hnext : generation.toNat + 1 < Handle.halfSize
      · have hup := Handle.nextGeneration_of_lt hnext
        rw [← heq]
        exact Nat.lt_of_lt_of_eq (Nat.lt_succ_self _) hup.symm
      · rw [if_neg hnext] at hmem
        rcases h.vacant_of_mem_free _ hmem with ⟨generation', hvacant⟩
        rw [hslot] at hvacant
        cases hvacant
  · rw [if_neg hindex] at hslots
    unfold Issuable at hissuable ⊢
    rw [hslots, hfree] at hissuable
    cases hother : registry.slot? other.slot.toNat with
    | none =>
      rw [hother, firstGeneration_withVacated] at hissuable
      exact hissuable
    | some slot =>
      rw [hother] at hissuable
      rcases hissuable with hlt | ⟨heq, hmem⟩
      · exact Or.inl hlt
      · refine Or.inr ⟨heq, ?_⟩
        split at hmem
        · exact (List.mem_cons.1 hmem).resolve_left hindex
        · exact hmem

/-- Vacating all slots brings no handle back. -/
theorem WellFormed.issuable_of_releaseAll (h : registry.WellFormed) {after : Registry}
    (hafter : registry.releaseAll = .ok after) :
    after.WellFormed ∧ ∀ handle, after.Issuable handle → registry.Issuable handle := by
  rw [h.releaseAll_eq, Except.ok.injEq] at hafter
  subst hafter
  refine h.foldl_vacated_induction (motive := fun after =>
    ∀ handle, after.Issuable handle → registry.Issuable handle) (fun _ => id) ?_ _
  intro before index generation cart hbefore ih hslot handle hissuable
  exact ih handle (hbefore.issuable_of_withVacated hslot hissuable)

/-! ## Replacing a registry -/

/-- The highest generation is within a bound when the first one and those of the slots are. -/
theorem topGeneration_le_iff {bound : Nat} :
    registry.topGeneration ≤ bound ↔
      registry.firstGeneration.toNat ≤ bound ∧
        ∀ index slot, registry.slot? index = some slot → slot.generation.toNat ≤ bound := by
  have hfold : ∀ (slots : List Slot) (start : Nat),
      slots.foldl (fun top slot => max top slot.generation.toNat) start ≤ bound ↔
        start ≤ bound ∧ ∀ slot ∈ slots, slot.generation.toNat ≤ bound := by
    intro slots
    induction slots with
    | nil =>
      intro start
      simp
    | cons first rest ih =>
      intro start
      rw [List.foldl_cons, ih, Nat.max_le, List.forall_mem_cons, and_assoc]
  rw [topGeneration, ← Array.foldl_toList, hfold]
  apply and_congr_right
  intro _
  constructor
  · intro hslots index slot hslot
    exact hslots slot (Array.mem_toList_iff.2 (Array.mem_of_getElem? hslot))
  · intro hslots slot hslot
    rcases Array.mem_iff_getElem?.1 (Array.mem_toList_iff.1 hslot) with ⟨index, hindex⟩
    exact hslots index slot hindex

/-- The highest generation is not below that of a slot, nor below the first one. -/
theorem le_topGeneration (registry : Registry) :
    registry.firstGeneration.toNat ≤ registry.topGeneration ∧
      ∀ index slot, registry.slot? index = some slot →
        slot.generation.toNat ≤ registry.topGeneration :=
  topGeneration_le_iff.1 (Nat.le_refl _)

/-- The next floor is above the highest generation. -/
theorem lt_of_nextFloor {floor : UInt32} (h : registry.nextFloor = some floor) :
    registry.topGeneration < floor.toNat := by
  unfold nextFloor at h
  split at h
  · rename_i hlt
    cases h
    rw [Handle.toNat_ofNat_slot hlt]
    exact Nat.lt_succ_self _
  · cases h

/-- A registry that starts at the next floor brings no handle back. -/
theorem issuable_of_nextFloor {floor : UInt32} (h : registry.nextFloor = some floor)
    (hissuable : (startingAt floor).Issuable handle) : registry.Issuable handle := by
  have hfloor := lt_of_nextFloor h
  have hle : floor.toNat ≤ handle.generation.toNat := by
    rw [issuable_startingAt_iff] at hissuable
    have hne : floor ≠ 0 := by
      intro hzero
      rw [hzero] at hfloor
      exact absurd hfloor (Nat.not_lt_zero _)
    simpa [startingAt, hne] using hissuable
  rcases le_topGeneration registry with ⟨hfirst, hslots⟩
  cases hslot : registry.slot? handle.slot.toNat with
  | none =>
    rw [issuable_iff_of_none hslot]
    omega
  | some slot =>
    have hgeneration := hslots _ slot hslot
    rw [issuable_iff_of_some hslot]
    left
    omega

end Registry
end Till
