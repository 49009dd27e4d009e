import Till.Proofs.Outcome
import Till.Registry

/-!
# Slots and handles

Every operation on a registry changes the content of one slot.  Through handles this
reads as a change of the cart under one handle: the other handles of the slot name no
cart before and after.

Main results:

- Theorem {lit}`Registry.cart?_eq_some_iff`: a handle names the cart of its slot in its
  own generation.
- Theorems {lit}`Registry.slot?_withVacated` and {lit}`Registry.cart?_withVacated`: a slot
  that is vacated goes on to its next generation, and one handle less is valid.
- Theorem {lit}`Registry.cart?_put`: another cart under a handle leaves the other handles
  alone.
-/

namespace Till

namespace Handle

/-- A handle is its generation and its slot. -/
theorem eq_iff {first second : Handle} :
    first = second ↔
      first.slot.toNat = second.slot.toNat ∧ first.generation = second.generation := by
  cases first
  cases second
  simp only [mk.injEq, UInt32.toNat_inj]
  exact and_comm

/-- The slot of a handle has one of the numbers that handles can tell apart. -/
theorem slot_lt (handle : Handle) : handle.slot.toNat < halfSize :=
  handle.slot.toNat_lt

/-- The generation of a handle is one of those that handles can tell apart. -/
theorem generation_lt (generation : UInt32) : generation.toNat < halfSize :=
  generation.toNat_lt

/-- A number that handles can tell apart is the number of its word. -/
theorem toNat_ofNat_slot {index : Nat} (h : index < halfSize) :
    (UInt32.ofNat index).toNat = index := by
  unfold halfSize at h
  simp only [UInt32.toNat_ofNat']
  omega

/-- The generation after another one; the last one stays. -/
def nextGeneration (generation : UInt32) : UInt32 :=
  if generation.toNat + 1 < halfSize then generation + 1 else generation

/-- A generation that is not the last one goes up by one. -/
theorem nextGeneration_of_lt {generation : UInt32} (h : generation.toNat + 1 < halfSize) :
    (nextGeneration generation).toNat = generation.toNat + 1 := by
  rw [nextGeneration, if_pos h, UInt32.toNat_add]
  unfold halfSize at h
  simp only [UInt32.toNat_one]
  omega

/-- The last generation stays. -/
theorem nextGeneration_of_not_lt {generation : UInt32}
    (h : ¬ generation.toNat + 1 < halfSize) : nextGeneration generation = generation :=
  if_neg h

/-- Generations do not go down. -/
theorem le_nextGeneration (generation : UInt32) :
    generation.toNat ≤ (nextGeneration generation).toNat := by
  by_cases h : generation.toNat + 1 < halfSize
  · rw [nextGeneration_of_lt h]
    omega
  · exact Nat.le_of_eq (congrArg UInt32.toNat (nextGeneration_of_not_lt h).symm)

end Handle

namespace Registry

variable {registry : Registry}

/-! ## The content of slots -/

/-- The slots of a registry are those up to its size. -/
theorem slot?_eq_none_iff {index : Nat} :
    registry.slot? index = none ↔ registry.slots.size ≤ index := by
  simp [slot?]

/-- A slot that is there has a number below the size. -/
theorem lt_size_of_slot? {index : Nat} {slot : Slot} (h : registry.slot? index = some slot) :
    index < registry.slots.size := by
  apply Nat.lt_of_not_le
  intro hindex
  rw [slot?_eq_none_iff.2 hindex] at h
  cases h

/-- Another content of a slot is the content of that slot only. -/
theorem slot?_setSlot {index other : Nat} {old slot : Slot}
    (h : registry.slot? index = some old) :
    (registry.setSlot index slot).slot? other =
      if other = index then some slot else registry.slot? other := by
  have hindex := lt_size_of_slot? h
  simp only [slot?, setSlot, Array.getElem?_setIfInBounds]
  by_cases hother : index = other
  · subst hother
    simp [hindex]
  · rw [if_neg hother, if_neg (Ne.symm hother)]

@[simp]
theorem size_setSlot {index : Nat} {slot : Slot} :
    (registry.setSlot index slot).slots.size = registry.slots.size := by
  simp [setSlot]

/-- The number of occupied slots. -/
def occupied (registry : Registry) : Nat :=
  registry.slots.countP fun slot => slot.cart.isSome

/-- Another content of a slot changes the number of occupied slots by this slot only. -/
theorem occupied_setSlot {index : Nat} {old : Slot} (slot : Slot)
    (h : registry.slot? index = some old) :
    (registry.setSlot index slot).occupied + (if old.cart.isSome then 1 else 0) =
      registry.occupied + (if slot.cart.isSome then 1 else 0) := by
  have hindex := lt_size_of_slot? h
  have hold : registry.slots[index] = old := by
    unfold slot? at h
    rw [Array.getElem?_eq_getElem hindex] at h
    exact Option.some.inj h
  have hle : (if old.cart.isSome then 1 else 0) ≤ registry.occupied := by
    split
    · rename_i hcart
      apply Array.countP_pos_iff.2
      exact ⟨old, hold ▸ Array.getElem_mem hindex, hcart⟩
    · exact Nat.zero_le _
  simp only [occupied, setSlot, Array.setIfInBounds, hindex, dif_pos] at hle ⊢
  rw [Array.countP_set, hold]
  omega

/-- A slot with a cart counts. -/
theorem occupied_pos {index : Nat} {generation : UInt32} {cart : Cart}
    (h : registry.slot? index = some ⟨generation, some cart⟩) : 0 < registry.occupied := by
  have hcount := occupied_setSlot ⟨generation, none⟩ h
  simp at hcount
  omega

/-! ## Carts under handles -/

/-- A handle names the cart of its slot in its own generation. -/
theorem cart?_eq_some_iff {handle : Handle} {cart : Cart} :
    registry.cart? handle = some cart ↔
      registry.slot? handle.slot.toNat = some ⟨handle.generation, some cart⟩ := by
  unfold cart?
  cases registry.slot? handle.slot.toNat with
  | none => simp
  | some slot =>
    cases slot with
    | mk generation content =>
      by_cases hgeneration : generation = handle.generation
      · simp [hgeneration]
      · simp [hgeneration]

/-- A registry whose slots differ in one place differs in the handles of that slot. -/
theorem cart?_of_slot? {after : Registry} {index : Nat} {slot : Slot}
    (h : ∀ other, after.slot? other =
      if other = index then some slot else registry.slot? other) (handle : Handle) :
    after.cart? handle =
      if handle.slot.toNat = index then
        if slot.generation = handle.generation then slot.cart else none
      else registry.cart? handle := by
  unfold cart?
  rw [h]
  by_cases hindex : handle.slot.toNat = index
  · rw [if_pos hindex, if_pos hindex]
  · rw [if_neg hindex, if_neg hindex]

/-- A handle of another generation than that of its slot names no cart. -/
theorem cart?_eq_none_of_ne {handle : Handle} {slot : Slot}
    (h : registry.slot? handle.slot.toNat = some slot)
    (hne : slot.generation ≠ handle.generation) : registry.cart? handle = none := by
  unfold cart?
  rw [h]
  exact if_neg hne

/-- A handle of a slot without a cart names none. -/
theorem cart?_eq_none_of_vacant {handle : Handle}
    (h : ∀ slot, registry.slot? handle.slot.toNat = some slot → slot.cart = none) :
    registry.cart? handle = none := by
  unfold cart?
  cases hslot : registry.slot? handle.slot.toNat with
  | none => rfl
  | some slot =>
    dsimp only
    rw [h slot hslot, ite_self]

/-- The cart under a handle, or the refusal of the handle. -/
theorem get_eq_ok_iff {handle : Handle} {cart : Cart} :
    registry.get handle = .ok cart ↔ registry.cart? handle = some cart := by
  unfold get
  cases registry.cart? handle with
  | none => simp [Outcome.refuse]
  | some found => simp

/-! ## Putting a cart back -/

/-- Another cart under a handle changes the slot of the handle. -/
theorem slot?_put_eq {handle : Handle} {old : Cart} (new : Cart)
    (h : registry.cart? handle = some old) (other : Nat) :
    (registry.put handle new).slot? other =
      if other = handle.slot.toNat then some ⟨handle.generation, some new⟩
      else registry.slot? other :=
  slot?_setSlot (cart?_eq_some_iff.1 h)

/-- Another cart under a handle leaves the other handles alone. -/
theorem cart?_put {handle : Handle} {old new : Cart} (h : registry.cart? handle = some old)
    (other : Handle) :
    (registry.put handle new).cart? other =
      if other = handle then some new else registry.cart? other := by
  rw [cart?_of_slot? (slot?_put_eq new h)]
  by_cases hslot : other.slot.toNat = handle.slot.toNat
  · rw [if_pos hslot]
    by_cases hgeneration : handle.generation = other.generation
    · rw [if_pos hgeneration, if_pos (Handle.eq_iff.2 ⟨hslot, hgeneration.symm⟩)]
    · have hne : other ≠ handle := by
        intro heq
        exact hgeneration (heq ▸ rfl)
      have hslot' := cart?_eq_some_iff.1 h
      rw [← hslot] at hslot'
      rw [if_neg hgeneration, if_neg hne, cart?_eq_none_of_ne hslot' hgeneration]
  · have hne : other ≠ handle := by
      intro heq
      exact hslot (heq ▸ rfl)
    rw [if_neg hslot, if_neg hne]

/-- Putting the same cart back changes nothing. -/
theorem put_self {handle : Handle} {cart : Cart} (h : registry.cart? handle = some cart) :
    registry.put handle cart = registry := by
  have hslot := cart?_eq_some_iff.1 h
  have hindex := lt_size_of_slot? hslot
  unfold slot? at hslot
  rw [Array.getElem?_eq_getElem hindex] at hslot
  simp only [put, setSlot, Array.setIfInBounds, hindex, dif_pos]
  rw [← Option.some.inj hslot, Array.set_getElem_self]

/-! ## Vacating a slot -/

/-- A slot that is vacated goes on to its next generation. -/
theorem slot?_withVacated {index : Nat} {generation : UInt32} {content : Option Cart}
    (h : registry.slot? index = some ⟨generation, content⟩) (other : Nat) :
    (registry.withVacated index generation).slot? other =
      if other = index then some ⟨Handle.nextGeneration generation, none⟩
      else registry.slot? other := by
  rw [← slot?_setSlot h]
  unfold withVacated Handle.nextGeneration
  split <;> rfl

/-- A slot that is vacated is free unless it was in its last generation. -/
theorem free_withVacated (registry : Registry) (index : Nat) (generation : UInt32) :
    (registry.withVacated index generation).free =
      if generation.toNat + 1 < Handle.halfSize then index :: registry.free
      else registry.free := by
  unfold withVacated
  split <;> rfl

@[simp]
theorem firstGeneration_withVacated {index : Nat} {generation : UInt32} :
    (registry.withVacated index generation).firstGeneration = registry.firstGeneration := by
  unfold withVacated
  split <;> rfl

@[simp]
theorem live_withVacated {index : Nat} {generation : UInt32} :
    (registry.withVacated index generation).live = registry.live - 1 := by
  unfold withVacated
  split <;> rfl

@[simp]
theorem size_withVacated {index : Nat} {generation : UInt32} :
    (registry.withVacated index generation).slots.size = registry.slots.size := by
  unfold withVacated
  split <;> exact size_setSlot

/-- A slot that is vacated counts no longer. -/
theorem occupied_withVacated {index : Nat} {generation : UInt32} {cart : Cart}
    (h : registry.slot? index = some ⟨generation, some cart⟩) :
    (registry.withVacated index generation).occupied + 1 = registry.occupied := by
  have hset := occupied_setSlot ⟨Handle.nextGeneration generation, none⟩ h
  have heq : (registry.withVacated index generation).occupied =
      (registry.setSlot index ⟨Handle.nextGeneration generation, none⟩).occupied := by
    unfold withVacated Handle.nextGeneration
    split <;> rfl
  rw [heq]
  simpa using hset

/-- A cart that leaves its slot leaves one handle invalid. -/
theorem cart?_withVacated {handle : Handle} {cart : Cart}
    (h : registry.cart? handle = some cart) (other : Handle) :
    (registry.withVacated handle.slot.toNat handle.generation).cart? other =
      if other = handle then none else registry.cart? other := by
  have hslot := cart?_eq_some_iff.1 h
  rw [cart?_of_slot? (slot?_withVacated hslot)]
  by_cases hindex : other.slot.toNat = handle.slot.toNat
  · have hother : other ≠ handle → registry.cart? other = none := by
      intro hne
      rw [← hindex] at hslot
      apply cart?_eq_none_of_ne hslot
      intro hgeneration
      exact hne (Handle.eq_iff.2 ⟨hindex, hgeneration.symm⟩)
    by_cases heq : other = handle
    · simp [heq]
    · simp [hindex, heq, hother heq]
  · have hne : other ≠ handle := by
      intro heq
      exact hindex (heq ▸ rfl)
    rw [if_neg hindex, if_neg hne]

end Registry
end Till
