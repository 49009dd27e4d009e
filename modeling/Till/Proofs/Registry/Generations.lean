import Till.Proofs.Registry.Issuable
import Till.Proofs.Registry.Runs

/-!
# Generations that a registry uses up

A slot starts in the first generation and goes on by one each time it is vacated, until it reaches
the last generation and stays there.  So the generation of a slot tells how often it was vacated,
and the next floor tells how often that happened to the slot to which it happened most.  As no
generation goes down, the next floor is above all handles that were given out.

Main results:

- Theorem {lit}`Registry.Counts.performed`: the generations count the vacations.
- Theorem {lit}`Registry.Counts.nextFloor_eq`: the next floor in terms of the vacations.
- Theorem {lit}`Registry.run_nextFloor`: what holds of a registry after every run.
-/

namespace Till

/-! ## Entries that come up most often -/

/-- How often the entry comes up that comes up most often; not at all where there is none. -/
def mostOften (entries : List Nat) : Nat :=
  (entries.map fun entry => entries.count entry).max?.getD 0

/-- No entry comes up more often. -/
theorem count_le_mostOften (entries : List Nat) (entry : Nat) :
    entries.count entry ≤ mostOften entries := by
  by_cases hentry : entry ∈ entries
  · have hcount : entries.count entry ∈ entries.map fun entry => entries.count entry :=
      List.mem_map_of_mem hentry
    unfold mostOften
    cases hmax : (entries.map fun entry => entries.count entry).max? with
    | none =>
      rw [List.max?_eq_none_iff.1 hmax] at hcount
      cases hcount
    | some most => exact (List.max?_eq_some_iff.1 hmax).2 _ hcount
  · rw [List.count_eq_zero_of_not_mem hentry]
    exact Nat.zero_le _

/-- Some entry comes up as often. -/
theorem exists_count_eq_mostOften (entries : List Nat) :
    ∃ entry, entries.count entry = mostOften entries := by
  unfold mostOften
  cases hmax : (entries.map fun entry => entries.count entry).max? with
  | none =>
    rw [List.max?_eq_none_iff, List.map_eq_nil_iff] at hmax
    exact ⟨0, by rw [hmax]; rfl⟩
  | some most =>
    rcases List.mem_map.1 (List.max?_eq_some_iff.1 hmax).1 with ⟨entry, _, hentry⟩
    exact ⟨entry, hentry⟩

namespace Registry

variable {registry after : Registry} {operation : Operation} {result : Outcome Answer}
  {times : Nat → Nat} {vacated : List Nat}

/-! ## Vacations -/

/-- The slot is there and holds a cart. -/
def holdsCart (registry : Registry) (index : Nat) : Bool :=
  (registry.slot? index).any fun slot => slot.cart.isSome

/-- The slots that hold a cart before and hold none after. -/
def vacatedSlots (before after : Registry) : List Nat :=
  (List.range before.slots.size).filter fun index =>
    before.holdsCart index && !after.holdsCart index

/-- The slots that are vacated in the course of some operations, with one entry for each time. -/
def vacations (registry : Registry) : List Operation → List Nat
  | [] => []
  | operation :: rest =>
    let next := (registry.step operation).2
    vacatedSlots registry next ++ next.vacations rest

/-- Another content of one slot decides about the cart of that slot only. -/
theorem holdsCart_of_slot? {index : Nat} {slot : Slot}
    (h : ∀ other, after.slot? other =
      if other = index then some slot else registry.slot? other) (other : Nat) :
    after.holdsCart other =
      if other = index then slot.cart.isSome else registry.holdsCart other := by
  rw [holdsCart, h]
  by_cases hother : other = index
  · simp [hother]
  · simp [hother, holdsCart]

/-- The slot of a handle that names a cart holds it. -/
theorem holdsCart_of_slot?_eq {index : Nat} {generation : UInt32} {cart : Cart}
    (h : registry.slot? index = some ⟨generation, some cart⟩) :
    registry.holdsCart index = true := by
  simp [holdsCart, h]

/-- No slot holds a cart when all have been released. -/
theorem WellFormed.holdsCart_releaseAll (h : registry.WellFormed)
    (hafter : registry.releaseAll = .ok after) (index : Nat) : after.holdsCart index = false := by
  unfold holdsCart
  cases hslot : after.slot? index with
  | none => rfl
  | some slot =>
    have hindex := Handle.toNat_ofNat_slot ((h.releaseAll hafter).1.lt_halfSize hslot)
    have hnone := h.cart?_releaseAll hafter ⟨slot.generation, UInt32.ofNat index⟩
    simp only [cart?, hindex, hslot, if_true] at hnone
    simp [hnone]

/-- A slot is vacated once when it loses its cart. -/
theorem count_vacatedSlots (before after : Registry) (index : Nat) :
    (vacatedSlots before after).count index =
      if before.holdsCart index = true ∧ after.holdsCart index = false then 1 else 0 := by
  have hnodup : (vacatedSlots before after).Nodup := List.nodup_range.filter _
  have hmem : index ∈ vacatedSlots before after ↔
      before.holdsCart index = true ∧ after.holdsCart index = false := by
    simp only [vacatedSlots, List.mem_filter, List.mem_range, Bool.and_eq_true,
      Bool.not_eq_true', and_iff_right_iff_imp]
    rintro ⟨hbefore, _⟩
    rcases (Option.any_eq_true _ _).1 hbefore with ⟨slot, hslot, _⟩
    exact lt_size_of_slot? hslot
  rw [hnodup.count]
  exact if_congr hmem rfl rfl

/-- The generation of each slot counts how often it was vacated, up to the last generation. -/
structure Counts (registry : Registry) (times : Nat → Nat) : Prop where
  generation_eq : ∀ index slot, registry.slot? index = some slot →
    slot.generation.toNat =
      min (registry.firstGeneration.toNat + times index) (Handle.halfSize - 1)
  eq_zero : ∀ index, registry.slot? index = none → times index = 0

theorem counts_startingAt (first : UInt32) : (startingAt first).Counts fun _ => 0 where
  generation_eq index slot hslot := by simp [startingAt, slot?] at hslot
  eq_zero _ _ := rfl

/-! ## One operation -/

/-- The count goes on when one slot comes to a generation that counts its vacations. -/
theorem Counts.of_slot? (h : registry.Counts times) {index : Nat} {slot : Slot}
    {times' : Nat → Nat} (hfirst : after.firstGeneration = registry.firstGeneration)
    (hslots : ∀ other, after.slot? other =
      if other = index then some slot else registry.slot? other)
    (hothers : ∀ other, other ≠ index → times' other = times other)
    (hgeneration : slot.generation.toNat =
      min (registry.firstGeneration.toNat + times' index) (Handle.halfSize - 1)) :
    after.Counts times' := by
  constructor
  · intro other content hslot
    rw [hslots] at hslot
    rw [hfirst]
    by_cases hother : other = index
    · rw [if_pos hother] at hslot
      cases hslot
      rw [hother, hgeneration]
    · rw [if_neg hother] at hslot
      rw [hothers other hother, h.generation_eq other content hslot]
  · intro other hslot
    rw [hslots] at hslot
    by_cases hother : other = index
    · rw [if_pos hother] at hslot
      cases hslot
    · rw [if_neg hother] at hslot
      rw [hothers other hother, h.eq_zero other hslot]

/-- A new cart vacates no slot. -/
theorem Counts.create (h : registry.Counts times) (hwell : registry.WellFormed) {handle : Handle}
    (hcreate : registry.create = .ok (handle, after)) : after.Counts times := by
  refine h.of_slot? (hwell.firstGeneration_create hcreate) (hwell.slot?_create hcreate)
    (fun _ _ => rfl) ?_
  change handle.generation.toNat = _
  rcases hwell.create_eq_ok_iff.1 hcreate with
    ⟨_, _, hslot, _⟩ | ⟨_, hindex, hgeneration, _⟩
  · exact h.generation_eq _ ⟨handle.generation, none⟩ hslot
  · have hnone : registry.slot? handle.slot.toNat = none :=
      slot?_eq_none_iff.2 (Nat.le_of_eq hindex.symm)
    have hlt := Handle.generation_lt registry.firstGeneration
    rw [h.eq_zero _ hnone, hgeneration]
    omega

/-- Another cart under a handle vacates no slot. -/
theorem Counts.put (h : registry.Counts times) {handle : Handle} {old new : Cart}
    (hcart : registry.cart? handle = some old) : (registry.put handle new).Counts times := by
  refine h.of_slot? rfl (slot?_put_eq new hcart) (fun _ _ => rfl) ?_
  exact h.generation_eq _ ⟨handle.generation, some old⟩ (cart?_eq_some_iff.1 hcart)

/-- A slot that loses its cart is vacated once more. -/
theorem Counts.withVacated (h : registry.Counts times) {index : Nat} {generation : UInt32}
    {cart : Cart} (hslot : registry.slot? index = some ⟨generation, some cart⟩) :
    (registry.withVacated index generation).Counts
      fun other => times other + if other = index then 1 else 0 := by
  refine h.of_slot? firstGeneration_withVacated (slot?_withVacated hslot) ?_ ?_
  · intro other hother
    rw [if_neg hother, Nat.add_zero]
  · have hcount : generation.toNat = _ := h.generation_eq _ _ hslot
    change (Handle.nextGeneration generation).toNat = _
    rw [if_pos rfl]
    by_cases hlast : generation.toNat + 1 < Handle.halfSize
    · rw [Handle.nextGeneration_of_lt hlast]
      omega
    · rw [Handle.nextGeneration_of_not_lt hlast]
      omega

/-- When all carts are released each slot that holds one is vacated once. -/
theorem Counts.releaseAll (h : registry.Counts times) (hwell : registry.WellFormed)
    (hafter : registry.releaseAll = .ok after) :
    after.Counts fun index => times index + if registry.holdsCart index = true then 1 else 0 := by
  -- A vacation is a cart less in the slot, so vacations and carts together stay the same.
  have hfold : ∃ times' : Nat → Nat, after.Counts times' ∧
      ∀ index, (times' index + if after.holdsCart index = true then 1 else 0) =
        times index + if registry.holdsCart index = true then 1 else 0 := by
    rw [hwell.releaseAll_eq, Except.ok.injEq] at hafter
    rw [← hafter]
    refine (hwell.foldl_vacated_induction (motive := fun after => ∃ times' : Nat → Nat,
      after.Counts times' ∧
        ∀ index, (times' index + if after.holdsCart index = true then 1 else 0) =
          times index + if registry.holdsCart index = true then 1 else 0)
      ⟨times, h, fun _ => rfl⟩ ?_ _).2
    rintro before vacant generation cart _ ⟨times', hcounts, hsum⟩ hslot
    refine ⟨_, hcounts.withVacated hslot, ?_⟩
    intro index
    rw [← hsum index, holdsCart_of_slot? (slot?_withVacated hslot)]
    by_cases hindex : index = vacant
    · simp [hindex, holdsCart_of_slot?_eq hslot]
    · simp [hindex]
  rcases hfold with ⟨times', hcounts, hsum⟩
  have htimes : times' =
      fun index => times index + if registry.holdsCart index = true then 1 else 0 := by
    funext index
    rw [← hsum index, hwell.holdsCart_releaseAll hafter]
    simp
  rw [← htimes]
  exact hcounts

/-- Each operation vacates the slots that the generations count. -/
theorem Counts.performed (h : registry.Counts times) (hwell : registry.WellFormed)
    (hperformed : registry.Performed operation result after) :
    after.Counts fun index => times index + (vacatedSlots registry after).count index := by
  have hkept : (∀ index, registry.holdsCart index = true → after.holdsCart index = true) →
      (fun index => times index + (vacatedSlots registry after).count index) = times := by
    intro hholds
    funext index
    rw [count_vacatedSlots, if_neg, Nat.add_zero]
    rintro ⟨hbefore, hafter⟩
    rw [hholds index hbefore] at hafter
    cases hafter
  cases hperformed with
  | refused cause =>
    rw [hkept fun _ => id]
    exact h
  | shown hcart =>
    rw [hkept fun _ => id]
    exact h
  | @created handle _ hcreate =>
    rw [hkept]
    · exact h.create hwell hcreate
    · intro index hholds
      rw [holdsCart_of_slot? (hwell.slot?_create hcreate)]
      by_cases hindex : index = handle.slot.toNat
      · simp [hindex]
      · simpa [hindex] using hholds
  | @changed handle _ content hcart =>
    rw [hkept]
    · exact h.put hcart
    · intro index hholds
      rw [holdsCart_of_slot? (slot?_put_eq _ hcart)]
      by_cases hindex : index = handle.slot.toNat
      · simp [hindex]
      · simpa [hindex] using hholds
  | @released handle cart hcart =>
    have hslot := cart?_eq_some_iff.1 hcart
    have hcount : ∀ index, (vacatedSlots registry
        (registry.withVacated handle.slot.toNat handle.generation)).count index =
          if index = handle.slot.toNat then 1 else 0 := by
      intro index
      rw [count_vacatedSlots, holdsCart_of_slot? (slot?_withVacated hslot)]
      by_cases hindex : index = handle.slot.toNat
      · simp [hindex, holdsCart_of_slot?_eq hslot]
      · simp [hindex]
    simp only [hcount]
    exact h.withVacated hslot
  | allReleased hafter =>
    simp only [count_vacatedSlots, hwell.holdsCart_releaseAll hafter, and_true]
    exact h.releaseAll hwell hafter

/-! ## The next floor -/

/-- The next floor is one above the first generation and the vacations of the slot that was
vacated most often, or there is none when that is no generation. -/
theorem Counts.nextFloor_eq (h : registry.Counts fun index => vacated.count index) :
    registry.nextFloor.map UInt32.toNat =
      if registry.firstGeneration.toNat + 1 + mostOften vacated < Handle.halfSize then
        some (registry.firstGeneration.toNat + 1 + mostOften vacated)
      else none := by
  have hfirst := Handle.generation_lt registry.firstGeneration
  have htop : registry.topGeneration =
      min (registry.firstGeneration.toNat + mostOften vacated) (Handle.halfSize - 1) := by
    apply Nat.le_antisymm
    · rw [topGeneration_le_iff]
      refine ⟨by omega, ?_⟩
      intro index slot hslot
      have hcount := count_le_mostOften vacated index
      have hgeneration := h.generation_eq index slot hslot
      omega
    · rcases exists_count_eq_mostOften vacated with ⟨index, hcount⟩
      have htop := le_topGeneration registry
      cases hslot : registry.slot? index with
      | none =>
        have hzero := h.eq_zero index hslot
        omega
      | some slot =>
        have hgeneration := h.generation_eq index slot hslot
        have hle := htop.2 index slot hslot
        omega
  unfold nextFloor
  rw [htop]
  by_cases hlast : registry.firstGeneration.toNat + 1 + mostOften vacated < Handle.halfSize
  · have hmin : min (registry.firstGeneration.toNat + mostOften vacated) (Handle.halfSize - 1) + 1 =
        registry.firstGeneration.toNat + 1 + mostOften vacated := by
      omega
    rw [hmin, if_pos hlast, if_pos hlast, Option.map_some, Handle.toNat_ofNat_slot hlast]
  · rw [if_neg (by omega), if_neg hlast, Option.map_none]

/-! ## Handles that were given out -/

/-- The handles that were given out in a history, in order. -/
def issued (history : List (Operation × Outcome Answer)) : List Handle :=
  history.filterMap fun turn =>
    match turn with
    | (.create, .ok (.handle handle)) => some handle
    | _ => none

/-- No operation brings back a handle. -/
theorem Performed.issuable (hwell : registry.WellFormed) {handle : Handle}
    (hperformed : registry.Performed operation result after)
    (hissuable : after.Issuable handle) : registry.Issuable handle := by
  cases hperformed with
  | refused cause => exact hissuable
  | shown hcart => exact hissuable
  | created hcreate => exact hwell.issuable_of_issuable_create hcreate hissuable
  | released hcart =>
    exact hwell.issuable_of_withVacated (cart?_eq_some_iff.1 hcart) hissuable
  | allReleased hafter => exact (hwell.issuable_of_releaseAll hafter).2 handle hissuable
  | changed content hcart => exact issuable_of_put hcart hissuable

/-- A handle that an operation gives out is not to be given out any more. -/
theorem Performed.not_issuable_of_issued (hwell : registry.WellFormed) {handle : Handle}
    (hperformed : registry.Performed operation result after)
    (hissued : handle ∈ issued [(operation, result)]) : ¬after.Issuable handle := by
  cases hperformed with
  | @created created _ hcreate =>
    have heq : handle = created := by simpa [issued] using hissued
    have hlive := hwell.cart?_create hcreate handle
    rw [if_pos heq] at hlive
    exact (hwell.create hcreate).not_issuable_of_occupied hlive
  | refused cause => cases operation <;> simp [issued] at hissued
  | shown hcart => simp [issued] at hissued
  | released hcart => simp [issued] at hissued
  | allReleased hafter => simp [issued] at hissued
  | changed content hcart => simp [issued] at hissued

/-! ## Runs -/

/-- The generations count the vacations of a run as well. -/
theorem Counts.run (h : registry.Counts fun index => vacated.count index)
    (hwell : registry.WellFormed) (operations : List Operation) :
    (registry.run operations).2.Counts
      fun index => (vacated ++ registry.vacations operations).count index := by
  induction operations generalizing registry vacated with
  | nil =>
    rw [vacations, List.append_nil]
    exact h
  | cons operation rest ih =>
    have hperformed := hwell.step_performed operation
    have hnext := h.performed hwell hperformed
    simp only [← List.count_append] at hnext
    have hrest := ih hnext (hwell.performed hperformed).1
    rw [List.append_assoc] at hrest
    exact hrest

/-- No handle that was given out in a run is to be given out any more. -/
theorem run_not_issuable (first : UInt32) (operations : List Operation) :
    ∀ handle ∈ issued ((startingAt first).history operations),
      ¬((startingAt first).run operations).2.Issuable handle := by
  refine ((wellFormed_startingAt first).run_induction
    (motive := fun history after => ∀ handle ∈ issued history, ¬after.Issuable handle)
    [] (by simp [issued]) ?_ operations).2
  intro history before operation result after hwell hbefore hperformed handle hissued hissuable
  rw [issued, List.filterMap_append] at hissued
  rcases List.mem_append.1 hissued with hissued | hissued
  · exact hbefore handle hissued (hperformed.issuable hwell hissuable)
  · exact hperformed.not_issuable_of_issued hwell hissued hissuable

/-- After every run of a new registry the next floor is one above the first generation and the
vacations of the slot that was vacated most often, unless there is no such generation; and it is
above all handles that were given out. -/
theorem run_nextFloor (first : UInt32) (operations : List Operation) :
    let registry := ((startingAt first).run operations).2
    let floor := max first.toNat 1 + 1 + mostOften ((startingAt first).vacations operations)
    (registry.nextFloor.map UInt32.toNat = if floor < Handle.halfSize then some floor else none) ∧
      ∀ next, registry.nextFloor = some next →
        ∀ handle ∈ issued ((startingAt first).history operations),
          handle.generation.toNat < next.toNat := by
  intro registry floor
  have hstart : (startingAt first).Counts fun index => [].count index := counts_startingAt first
  have hcounts := hstart.run (wellFormed_startingAt first) operations
  have hfirst := (run_account first operations).2.2.1
  constructor
  · have hfloor := hcounts.nextFloor_eq
    rw [hfirst, firstGeneration_startingAt] at hfloor
    exact hfloor
  · intro next hnext handle hissued
    have hused := run_not_issuable first operations handle hissued
    apply Nat.lt_of_not_le
    intro hle
    apply hused
    apply issuable_of_nextFloor hnext
    rw [issuable_startingAt_iff, firstGeneration_startingAt]
    have hpos := lt_of_nextFloor hnext
    omega

end Registry
end Till
