import Till.Proofs.Registry.Issuable

/-!
# Registries at lower generations

Only the comparison of generations counts, not how high they are.  When all generations of a
registry and of the handles that are tried are lower by the same number, every operation
does the same, as long as none of the generations is the last one.

Main results:

- Theorem {lit}`Handle.lowered_eq`: a handle whose number is lower by whole generations.
- Theorems {lit}`Registry.WellFormed.cart?_lowered`,
  {lit}`Registry.WellFormed.create_lowered`, {lit}`Registry.slot?_lowered`: carts, creation
  and slots at lower generations.
- Theorem {lit}`Registry.withVacated_lowered`: so is a slot that is vacated.
- Theorem {lit}`Registry.nextFloor_lowered`: the generation for the next registry is lower
  as well.
-/

namespace Till

variable {shift : Nat}

/-! ## Generations and handles -/

namespace Handle

variable {generation : UInt32}

/-- A generation that is lower by a number. -/
def lowerGeneration (shift : Nat) (generation : UInt32) : UInt32 :=
  UInt32.ofNat (generation.toNat - shift)

@[simp]
theorem toNat_lowerGeneration (shift : Nat) (generation : UInt32) :
    (lowerGeneration shift generation).toNat = generation.toNat - shift := by
  have hlt := generation_lt generation
  exact toNat_ofNat_slot (by omega)

/-- Generations that do not wrap are told apart when they are lower. -/
theorem lowerGeneration_inj {first second : UInt32} (hfirst : shift ≤ first.toNat)
    (hsecond : shift ≤ second.toNat) :
    lowerGeneration shift first = lowerGeneration shift second ↔ first = second := by
  rw [← UInt32.toNat_inj, ← UInt32.toNat_inj, toNat_lowerGeneration, toNat_lowerGeneration]
  omega

/-- The next generation is lower by the same number. -/
theorem nextGeneration_lowerGeneration (hshift : shift ≤ generation.toNat)
    (hlast : generation.toNat + 1 < halfSize) :
    nextGeneration (lowerGeneration shift generation) =
      lowerGeneration shift (nextGeneration generation) := by
  have hlast' : (lowerGeneration shift generation).toNat + 1 < halfSize := by
    rw [toNat_lowerGeneration]
    omega
  rw [← UInt32.toNat_inj, nextGeneration_of_lt hlast', toNat_lowerGeneration,
    toNat_lowerGeneration, nextGeneration_of_lt hlast]
  omega

/-- The handle whose number is lower by whole generations. -/
def lowered (shift : Nat) (handle : Handle) : Handle :=
  ofNat (handle.toNat - shift * halfSize)

/-- A handle that does not wrap keeps its slot when it is lower. -/
theorem lowered_eq {handle : Handle} (h : shift ≤ handle.generation.toNat) :
    handle.lowered shift = ⟨lowerGeneration shift handle.generation, handle.slot⟩ := by
  have hnumber : handle.toNat - shift * halfSize =
      (⟨lowerGeneration shift handle.generation, handle.slot⟩ : Handle).toNat := by
    simp only [toNat, toNat_lowerGeneration, halfSize]
    omega
  rw [lowered, hnumber, ofNat_toNat]

/-- The number of a handle that does not wrap is lower by whole generations. -/
theorem toNat_lowered {handle : Handle} (h : shift ≤ handle.generation.toNat) :
    (handle.lowered shift).toNat + shift * halfSize = handle.toNat := by
  rw [lowered_eq h]
  simp only [toNat, toNat_lowerGeneration, halfSize]
  omega

/-- A generation and a slot that do not wrap are those of the lower handle. -/
theorem lowered_mk (slot : UInt32) (h : shift ≤ generation.toNat) :
    lowered shift ⟨generation, slot⟩ = ⟨lowerGeneration shift generation, slot⟩ :=
  lowered_eq h

end Handle

/-! ## Registries -/

/-- A slot at a lower generation. -/
def Slot.lowered (shift : Nat) (slot : Slot) : Slot :=
  ⟨Handle.lowerGeneration shift slot.generation, slot.cart⟩

namespace Registry

/-- A registry at lower generations. -/
def lowered (shift : Nat) (registry : Registry) : Registry where
  slots := registry.slots.map (Slot.lowered shift)
  free := registry.free
  live := registry.live
  firstGeneration := Handle.lowerGeneration shift registry.firstGeneration

/-- No slot is in the last generation. -/
def BelowLast (registry : Registry) : Prop :=
  ∀ index slot, registry.slot? index = some slot →
    slot.generation.toNat + 1 < Handle.halfSize

variable {registry : Registry}

/-- A registry without carts starts at a lower generation. -/
theorem startingAt_lowered {generation : UInt32} (h : shift < generation.toNat) :
    (startingAt generation).lowered shift =
      startingAt (Handle.lowerGeneration shift generation) := by
  have hne : ∀ other : UInt32, 0 < other.toNat → other ≠ 0 := by
    rintro other hpos rfl
    exact absurd hpos (Nat.lt_irrefl 0)
  have hlower : 0 < (Handle.lowerGeneration shift generation).toNat := by
    rw [Handle.toNat_lowerGeneration]
    omega
  simp [lowered, startingAt, hne generation (by omega), hne _ hlower]

/-- The slots are those at lower generations. -/
theorem slot?_lowered (registry : Registry) (index : Nat) :
    (registry.lowered shift).slot? index = (registry.slot? index).map (Slot.lowered shift) := by
  simp [slot?, lowered]

/-- Another content of a slot is another content at lower generations. -/
theorem setSlot_lowered (registry : Registry) (index : Nat) (slot : Slot) :
    (registry.lowered shift).setSlot index (slot.lowered shift) =
      (registry.setSlot index slot).lowered shift := by
  simp only [setSlot, lowered, mk.injEq, and_true]
  apply Array.ext_getElem?
  intro other
  simp only [Array.getElem?_setIfInBounds, Array.getElem?_map, Array.size_map]
  split
  · split <;> rfl
  · rfl

/-- No slot of a well-formed registry is below the first generation. -/
theorem WellFormed.shift_le (h : registry.WellFormed)
    (hshift : shift ≤ registry.firstGeneration.toNat) {index : Nat} {slot : Slot}
    (hslot : registry.slot? index = some slot) : shift ≤ slot.generation.toNat :=
  Nat.le_trans hshift (h.first_le index slot hslot)

/-- A handle names the same cart when it is lower as the registry is. -/
theorem WellFormed.cart?_lowered (h : registry.WellFormed)
    (hshift : shift ≤ registry.firstGeneration.toNat) {handle : Handle}
    (hhandle : shift ≤ handle.generation.toNat) :
    (registry.lowered shift).cart? (handle.lowered shift) = registry.cart? handle := by
  rw [Handle.lowered_eq hhandle]
  unfold cart?
  rw [slot?_lowered]
  cases hslot : registry.slot? handle.slot.toNat with
  | none => rfl
  | some slot =>
    have hinj := Handle.lowerGeneration_inj (h.shift_le hshift hslot) hhandle
    simp only [Option.map_some, Slot.lowered, hinj]

/-- A new cart gets the lower handle. -/
theorem WellFormed.create_lowered (h : registry.WellFormed)
    (hshift : shift ≤ registry.firstGeneration.toNat) :
    (registry.lowered shift).create =
      registry.create.map fun made => (made.1.lowered shift, made.2.lowered shift) := by
  have hsize : (registry.lowered shift).slots.size = registry.slots.size :=
    Array.size_map
  unfold Registry.create
  rw [hsize, show (registry.lowered shift).free = registry.free from rfl]
  cases registry.free with
  | nil =>
    dsimp only
    split
    · rw [Except.map, Handle.lowered_mk _ hshift]
      simp [lowered, Slot.lowered]
    · rfl
  | cons index rest =>
    dsimp only
    rw [slot?_lowered]
    cases hslot : registry.slot? index with
    | none => rfl
    | some slot =>
      have hset : (registry.lowered shift).setSlot index
          (Slot.lowered shift ⟨slot.generation, some {}⟩) = _ := setSlot_lowered registry _ _
      have hhandle := Handle.lowered_mk (UInt32.ofNat index) (h.shift_le hshift hslot)
      simp only [Option.map_some, Except.map, hhandle, Slot.lowered] at hset ⊢
      rw [hset]
      rfl

/-- Another cart under a handle is another cart under the lower handle. -/
theorem put_lowered (registry : Registry) {handle : Handle}
    (hhandle : shift ≤ handle.generation.toNat) (cart : Cart) :
    (registry.lowered shift).put (handle.lowered shift) cart =
      (registry.put handle cart).lowered shift := by
  rw [Handle.lowered_eq hhandle]
  exact setSlot_lowered registry handle.slot.toNat ⟨handle.generation, some cart⟩

/-- A slot that is vacated is vacated at lower generations, unless it is in the last one. -/
theorem withVacated_lowered (registry : Registry) (index : Nat) {generation : UInt32}
    (hshift : shift ≤ generation.toNat) (hlast : generation.toNat + 1 < Handle.halfSize) :
    (registry.lowered shift).withVacated index (Handle.lowerGeneration shift generation) =
      (registry.withVacated index generation).lowered shift := by
  have hlast' : (Handle.lowerGeneration shift generation).toNat + 1 < Handle.halfSize := by
    rw [Handle.toNat_lowerGeneration]
    omega
  have hnext := Handle.nextGeneration_lowerGeneration hshift hlast
  rw [Handle.nextGeneration, if_pos hlast', Handle.nextGeneration, if_pos hlast] at hnext
  have hset : (registry.lowered shift).setSlot index
      (Slot.lowered shift ⟨generation + 1, none⟩) = _ := setSlot_lowered registry _ _
  unfold withVacated
  rw [if_pos hlast', if_pos hlast, hnext]
  unfold Slot.lowered at hset
  rw [hset]
  rfl

/-! ## The next floor -/

/-- The highest generation is below the last one when all are. -/
theorem BelowLast.topGeneration_lt (h : registry.BelowLast)
    (hfirst : registry.firstGeneration.toNat + 1 < Handle.halfSize) :
    registry.topGeneration + 1 < Handle.halfSize := by
  have hle : registry.topGeneration ≤ Handle.halfSize - 2 := by
    rw [topGeneration_le_iff]
    refine ⟨by omega, ?_⟩
    intro index slot hslot
    have hlt := h index slot hslot
    omega
  have hsize : 2 ≤ Handle.halfSize := by decide
  omega

/-- The highest generation is lower as all generations are. -/
theorem topGeneration_lowered (registry : Registry) :
    (registry.lowered shift).topGeneration = registry.topGeneration - shift := by
  have hfold : ∀ (slots : List Slot) (start : Nat),
      (slots.map (Slot.lowered shift)).foldl (fun top slot => max top slot.generation.toNat)
          (start - shift) =
        slots.foldl (fun top slot => max top slot.generation.toNat) start - shift := by
    intro slots
    induction slots with
    | nil =>
      intro start
      rfl
    | cons slot rest ih =>
      intro start
      have hmax : max (start - shift) (slot.lowered shift).generation.toNat =
          max start slot.generation.toNat - shift := by
        rw [Slot.lowered, Handle.toNat_lowerGeneration]
        omega
      rw [List.map_cons, List.foldl_cons, List.foldl_cons, hmax, ih]
  unfold topGeneration
  rw [← Array.foldl_toList, ← Array.foldl_toList]
  simpa [lowered] using hfold registry.slots.toList registry.firstGeneration.toNat

/-- The next floor is lower as all generations are. -/
theorem nextFloor_lowered (hshift : shift ≤ registry.firstGeneration.toNat)
    (h : registry.BelowLast)
    (hfirst : registry.firstGeneration.toNat + 1 < Handle.halfSize) :
    (registry.lowered shift).nextFloor =
      registry.nextFloor.map (Handle.lowerGeneration shift) := by
  have htop := h.topGeneration_lt hfirst
  have hle := (le_topGeneration registry).1
  unfold nextFloor
  rw [topGeneration_lowered, if_pos htop, if_pos (by omega), Option.map_some,
    Handle.lowerGeneration, Handle.toNat_ofNat_slot htop]
  congr 2
  omega

end Registry
end Till
