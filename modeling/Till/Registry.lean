import Till.Cart.Basic

/-!
# Cart registries

A registry keeps carts in numbered slots and hands out a handle for each.  A slot
that is vacated goes on to its next generation, so that the handles of earlier
carts stay invalid, and it is used again before a new slot is opened; a slot whose
generation cannot advance is retired.  A registry that replaces another one starts
at a generation above all that the other handed out.
-/

namespace Till

/-- A place for a cart. -/
structure Slot where
  generation : UInt32
  cart : Option Cart
  deriving DecidableEq, Repr, Inhabited

/-- Carts in slots. -/
structure Registry where
  slots : Array Slot
  /-- The vacant slots to use next, the last one vacated first. -/
  free : List Nat
  /-- The number of occupied slots. -/
  live : Nat
  /-- The generation that a new slot starts with. -/
  firstGeneration : UInt32
  deriving Repr, Inhabited

namespace Registry

/-- A registry without carts whose new slots start with a generation, or with one
where that is zero. -/
def startingAt (generation : UInt32) : Registry where
  slots := #[]
  free := []
  live := 0
  firstGeneration := if generation = 0 then 1 else generation

/-- The highest generation of a slot, new slots included. -/
def topGeneration (registry : Registry) : Nat :=
  registry.slots.foldl (fun top slot => max top slot.generation.toNat)
    registry.firstGeneration.toNat

/-- A generation above all those handed out, if there is one. -/
def nextFloor (registry : Registry) : Option UInt32 :=
  if registry.topGeneration + 1 < Handle.halfSize then
    some (UInt32.ofNat (registry.topGeneration + 1))
  else none

/-! ## Slots -/

/-- The slot of an index. -/
def slot? (registry : Registry) (index : Nat) : Option Slot :=
  registry.slots[index]?

/-- The cart that a handle names: the slot has to be occupied in the generation of
the handle. -/
def cart? (registry : Registry) (handle : Handle) : Option Cart :=
  match registry.slot? handle.slot.toNat with
  | some slot => if slot.generation = handle.generation then slot.cart else none
  | none => none

/-- The cart that a handle names. -/
def get (registry : Registry) (handle : Handle) : Outcome Cart :=
  match registry.cart? handle with
  | some cart => .ok cart
  | none => .refuse (.invalidHandle handle)

/-- A registry with another content of one slot. -/
def setSlot (registry : Registry) (index : Nat) (slot : Slot) : Registry :=
  { registry with slots := registry.slots.setIfInBounds index slot }

/-- A registry with another cart under a handle that names one. -/
def put (registry : Registry) (handle : Handle) (cart : Cart) : Registry :=
  registry.setSlot handle.slot.toNat ⟨handle.generation, some cart⟩

/-- A change of the cart that a handle names, with a value that comes of it. -/
def update {α : Type} (registry : Registry) (handle : Handle)
    (change : Cart → Outcome (α × Cart)) : Outcome (α × Registry) := do
  let cart ← registry.get handle
  let (value, cart) ← change cart
  return (value, registry.put handle cart)

/-! ## Creating and releasing -/

/-- A new cart and its handle. -/
def create (registry : Registry) : Outcome (Handle × Registry) :=
  match registry.free with
  | index :: free =>
    match registry.slot? index with
    | none => .error (.faulted (.outOfBounds index registry.slots.size))
    | some slot =>
      .ok (⟨slot.generation, UInt32.ofNat index⟩,
        { registry.setSlot index ⟨slot.generation, some {}⟩ with
          free := free
          live := registry.live + 1 })
  | [] =>
    if registry.slots.size < Handle.halfSize then
      .ok (⟨registry.firstGeneration, UInt32.ofNat registry.slots.size⟩,
        { registry with
          slots := registry.slots.push ⟨registry.firstGeneration, some {}⟩
          live := registry.live + 1 })
    else .refuse (.allocationFailure "cart handle")

/-- A registry in which a slot has lost its cart.  The slot goes on to its next
generation and is free, or it is retired where there is none. -/
def withVacated (registry : Registry) (index : Nat) (generation : UInt32) : Registry :=
  if generation.toNat + 1 < Handle.halfSize then
    { registry.setSlot index ⟨generation + 1, none⟩ with
      free := index :: registry.free
      live := registry.live - 1 }
  else
    { registry.setSlot index ⟨generation, none⟩ with
      live := registry.live - 1 }

/-- The cart of a slot, taken out of it; nothing where there is none. -/
def vacate (registry : Registry) (index : Nat) : Except Fault (Option (Cart × Registry)) :=
  match registry.slot? index with
  | some ⟨generation, some cart⟩ =>
    if registry.live = 0 then .error (.overflow .subtract)
    else .ok (some (cart, registry.withVacated index generation))
  | _ => .ok none

/-- The cart that a handle names, taken out of the registry. -/
def release (registry : Registry) (handle : Handle) : Outcome (Cart × Registry) := do
  let _ ← registry.get handle
  match ← Outcome.ofFaulting (registry.vacate handle.slot.toNat) with
  | some released => return released
  | none => .refuse (.invalidHandle handle)

/-- A registry in which some slots are vacant. -/
def vacateAll (registry : Registry) (indices : List Nat) : Except Fault Registry :=
  indices.foldlM
    (fun registry index => do
      match ← registry.vacate index with
      | some (_, registry) => return registry
      | none => return registry)
    registry

/-- A registry in which all slots are vacant; they are vacated in order. -/
def releaseAll (registry : Registry) : Except Fault Registry :=
  registry.vacateAll (List.range registry.slots.size)

end Registry
end Till
