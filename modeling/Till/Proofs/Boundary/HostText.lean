import Till.Boundary.Call

/-!
# Texts as a host holds them

A host holds a text that is handed out as its bytes in UTF-8 with a zero byte behind them, and
it may pass the same pointer on as an argument.  In UTF-8 only the zero character has a zero
byte, so that a text without this character ends where its bytes do, whatever is behind them
in the memory.

Main results:

- Theorem {lit}`HostText.zero_mem_bytes_iff`: which texts have a zero byte.
- Theorem {lit}`Action.zeroByte?_eq_none_iff`: which texts can be handed out.
- Theorem {lit}`HostText.read_held`: a text that was handed out is read back whole.
-/

namespace Till
namespace HostText

/-! ## Zero bytes -/

/-- The bytes of a text in UTF-8. -/
def bytes (text : String) : List UInt8 :=
  text.toUTF8.data.toList

/-- The bytes of a text are those of its characters. -/
theorem bytes_eq_flatMap (text : String) :
    bytes text = text.toList.flatMap String.utf8EncodeChar := by
  rw [bytes, String.toUTF8_eq_toByteArray, ← String.utf8Encode_toList, List.utf8Encode]
  simp

/-- A number of eight bits other than zero is no zero byte. -/
theorem zero_ne_ofNat {n : Nat} (low : 0 < n) (high : n < 256) : 0 ≠ UInt8.ofNat n := by
  intro heq
  have hnat := congrArg UInt8.toNat heq
  rw [UInt8.toNat_ofNat', Nat.mod_eq_of_lt high] at hnat
  rw [← hnat] at low
  exact absurd low (by decide)

/-- The bytes of a character other than the zero character are no zero bytes. -/
theorem zero_notMem_utf8EncodeChar {c : Char} (h : c ≠ '\x00') :
    0 ∉ String.utf8EncodeChar c := by
  have hpos : 0 < c.val.toNat := by
    apply Nat.pos_of_ne_zero
    intro hzero
    exact h (Char.toNat_inj.1 hzero)
  unfold String.utf8EncodeChar
  dsimp only
  -- Of several bytes the first is at least 192, and each other one is at least 128.
  split
  · simp only [List.mem_singleton]
    exact zero_ne_ofNat hpos (by omega)
  · split
    · simp only [List.mem_cons, List.not_mem_nil, or_false, not_or]
      exact ⟨zero_ne_ofNat (by omega) (by omega), zero_ne_ofNat (by omega) (by omega)⟩
    · split
      · simp only [List.mem_cons, List.not_mem_nil, or_false, not_or]
        exact ⟨zero_ne_ofNat (by omega) (by omega), zero_ne_ofNat (by omega) (by omega),
          zero_ne_ofNat (by omega) (by omega)⟩
      · simp only [List.mem_cons, List.not_mem_nil, or_false, not_or]
        exact ⟨zero_ne_ofNat (by omega) (by omega), zero_ne_ofNat (by omega) (by omega),
          zero_ne_ofNat (by omega) (by omega), zero_ne_ofNat (by omega) (by omega)⟩

/-- A text has a zero byte exactly when it has a zero character. -/
theorem zero_mem_bytes_iff {text : String} : 0 ∈ bytes text ↔ '\x00' ∈ text.toList := by
  rw [bytes_eq_flatMap, List.mem_flatMap]
  constructor
  · rintro ⟨c, hc, hbyte⟩
    by_cases hzero : c = '\x00'
    · rwa [← hzero]
    · exact absurd hbyte (zero_notMem_utf8EncodeChar hzero)
  · intro hmem
    exact ⟨'\x00', hmem, by decide⟩

/-! ## Texts that are handed out -/

/-- A text as a host holds it: a pointer to its bytes, a zero byte, and whatever is behind
them in the memory. -/
def held (text : String) (beyond : List UInt8) : HostText :=
  some (bytes text ++ 0 :: beyond)

variable {text : String}

/-- A text without a zero character ends where its bytes do. -/
theorem content_held (h : '\x00' ∉ text.toList) (beyond : List UInt8) :
    content (bytes text ++ 0 :: beyond) = bytes text := by
  have hbytes : ∀ byte ∈ bytes text, (byte != 0) = true := by
    intro byte hbyte
    rw [bne_iff_ne]
    rintro rfl
    exact h (zero_mem_bytes_iff.1 hbyte)
  rw [content, List.takeWhile_append_of_pos hbytes]
  simp

/-- A text that was handed out is read back whole. -/
theorem read_held (h : '\x00' ∉ text.toList) (beyond : List UInt8) (argument : String) :
    (held text beyond).read argument = .ok text := by
  have hdecode : decode? (bytes text ++ 0 :: beyond) = some text := by
    rw [decode?, content_held h, bytes, Array.toArray_toList, String.fromUTF8?]
    exact dif_pos text.isValidUTF8
  rw [held, read, hdecode]

end HostText

/-- A text can be handed out exactly when it has no zero character. -/
theorem Action.zeroByte?_eq_none_iff {text : String} :
    zeroByte? text = none ↔ '\x00' ∉ text.toList := by
  rw [← HostText.zero_mem_bytes_iff, zeroByte?, List.findIdx?_eq_none_iff]
  constructor
  · intro hall hmem
    exact absurd (hall 0 hmem) (by decide)
  · intro hzero byte hbyte
    rw [beq_eq_false_iff_ne]
    rintro rfl
    exact hzero hbyte

end Till
