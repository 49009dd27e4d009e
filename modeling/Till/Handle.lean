/-!
# Cart handles

A handle names a cart by the slot that holds it and the generation of that slot.
A host keeps it as one 64-bit number, the generation in the high half and the
slot in the low half.

Main results:

- Theorem {lit}`Handle.ofNat_toNat`: the number of a handle gives the handle back.
- Theorem {lit}`Handle.toNat_ofNat`: every 64-bit number is the number of a handle.
-/

namespace Till

/-- The name of a cart. -/
structure Handle where
  generation : UInt32
  slot : UInt32
  deriving DecidableEq, Repr, Inhabited

namespace Handle

/-- How many slots, and how many generations, handles can tell apart. -/
def halfSize : Nat := 4294967296

/-- The handle as one number. -/
def toNat (h : Handle) : Nat :=
  h.generation.toNat * halfSize + h.slot.toNat

/-- The handle that a 64-bit number stands for. -/
def ofNat (n : Nat) : Handle :=
  ⟨UInt32.ofNat (n / halfSize), UInt32.ofNat (n % halfSize)⟩

/-- The number in lower-case hexadecimal digits, without leading zeros. -/
def text (h : Handle) : String :=
  "0x" ++ String.ofList (Nat.toDigits 16 h.toNat)

/-- The number of a handle has 64 bits. -/
theorem toNat_lt (h : Handle) : h.toNat < halfSize * halfSize := by
  have hg := h.generation.toNat_lt
  have hs := h.slot.toNat_lt
  unfold toNat halfSize
  omega

/-- The number of a handle gives the handle back. -/
@[simp]
theorem ofNat_toNat (h : Handle) : ofNat h.toNat = h := by
  have hs := h.slot.toNat_lt
  have high : h.toNat / halfSize = h.generation.toNat := by
    unfold toNat halfSize
    omega
  have low : h.toNat % halfSize = h.slot.toNat := by
    unfold toNat halfSize
    omega
  unfold ofNat
  rw [high, low]
  simp

/-- Every 64-bit number is the number of a handle. -/
theorem toNat_ofNat {n : Nat} (hn : n < halfSize * halfSize) : (ofNat n).toNat = n := by
  unfold halfSize at hn
  simp only [ofNat, toNat, halfSize, UInt32.toNat_ofNat']
  omega

end Handle
end Till
