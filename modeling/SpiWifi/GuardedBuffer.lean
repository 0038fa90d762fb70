import SpiWifi.Overlay
import SpiWifi.Wire.Header

/-!
A frame buffer of fixed capacity with one guard byte behind it. The operations
only reach the usable bytes; a guard that has changed shows that something else
wrote past the end.
-/

set_option autoImplicit false
set_option relaxedAutoImplicit false

namespace SpiWifi

structure GuardedBuffer (capacity : Nat) where
  bytes : List UInt8
  guardByte : UInt8
  length_bytes : bytes.length = capacity

namespace GuardedBuffer

variable {capacity : Nat}

/-- The guard byte of a buffer that nothing has run over. -/
def guardMark : UInt8 := 0xDE

/-- A zeroed buffer with its guard in place. -/
def empty (capacity : Nat) : GuardedBuffer capacity where
  bytes := List.replicate capacity 0
  guardByte := guardMark
  length_bytes := List.length_replicate

def intact (buffer : GuardedBuffer capacity) : Bool := buffer.guardByte == guardMark

/-- Writes `patch` from `start` on, as far as it fits. -/
def put (buffer : GuardedBuffer capacity) (start : Nat) (patch : List UInt8) :
    GuardedBuffer capacity where
  bytes := overlay buffer.bytes start patch
  guardByte := buffer.guardByte
  length_bytes := (length_overlay _ _ _).trans buffer.length_bytes

/-- Writes one byte everywhere from `start` on. -/
def fillFrom (buffer : GuardedBuffer capacity) (start : Nat) (byte : UInt8) :
    GuardedBuffer capacity :=
  buffer.put start (List.replicate (capacity - start) byte)

/-- What happens when something outside writes behind the usable bytes. -/
def overrun (buffer : GuardedBuffer capacity) (byte : UInt8) : GuardedBuffer capacity :=
  { buffer with guardByte := byte }

/-- The region after the SPI header. -/
def payload (buffer : GuardedBuffer capacity) : List UInt8 := buffer.bytes.drop Wire.headerSize

/-- The bytes from `start` up to `stop`, if both lie in the usable region. -/
def window? (buffer : GuardedBuffer capacity) (start stop : Nat) : Option (List UInt8) :=
  if start ≤ stop ∧ stop ≤ capacity then
    some ((buffer.bytes.drop start).take (stop - start))
  else
    none

@[simp] theorem bytes_put (buffer : GuardedBuffer capacity) (start : Nat) (patch : List UInt8) :
    (buffer.put start patch).bytes = overlay buffer.bytes start patch := rfl

/-- A shorter patch over the front of a longer one. -/
theorem put_put_front (buffer : GuardedBuffer capacity) {first second : List UInt8} {start : Nat}
    (h : second.length ≤ first.length) (fits : start + first.length ≤ capacity) :
    (buffer.put start first).put start second =
      buffer.put start (second ++ first.drop second.length) := by
  simp only [put, mk.injEq, and_true]
  exact overlay_overlay_front h (Nat.le_trans fits (Nat.le_of_eq buffer.length_bytes.symm))

/-- A patch that starts where the one before it ended. -/
theorem put_put_behind (buffer : GuardedBuffer capacity) {first second : List UInt8} {start : Nat}
    (fits : start + first.length + second.length ≤ capacity) :
    (buffer.put start first).put (start + first.length) second =
      buffer.put start (first ++ second) := by
  simp only [put, mk.injEq, and_true]
  exact overlay_overlay_behind (Nat.le_trans fits (Nat.le_of_eq buffer.length_bytes.symm))

theorem window?_eq_some_iff {buffer : GuardedBuffer capacity} {start stop : Nat}
    {bytes : List UInt8} :
    buffer.window? start stop = some bytes ↔
      (start ≤ stop ∧ stop ≤ capacity) ∧
        (buffer.bytes.drop start).take (stop - start) = bytes := by
  unfold window?
  split <;> rename_i h
  · rw [Option.some.injEq, and_iff_right h]
  · exact ⟨fun none_eq ↦ by contradiction, fun inside ↦ absurd inside.1 h⟩

/-- A window has exactly the width that its bounds describe. -/
theorem length_window? {buffer : GuardedBuffer capacity} {start stop : Nat} {bytes : List UInt8}
    (h : buffer.window? start stop = some bytes) : bytes.length = stop - start := by
  obtain ⟨inside, rfl⟩ := window?_eq_some_iff.mp h
  rw [List.length_take, List.length_drop, buffer.length_bytes]
  omega

end GuardedBuffer

end SpiWifi
