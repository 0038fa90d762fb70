import SpiWifi.Proofs.Bus.Ensures

/-!
The frame around a payload. A frame is built in place: the payload lies in the
transmit buffer already, and header and pad byte are put around it. What goes out
is the frame of that payload and nothing that an earlier frame has left behind.
-/

set_option autoImplicit false
set_option relaxedAutoImplicit false

namespace SpiWifi.Bus

open Wire

variable {σ : Type} {bus : Bus σ}

/-- A payload as it goes over the bus. The length in the header counts the pad byte. -/
def frameOf (payload : List UInt8) : List UInt8 :=
  let length := payload.length + payload.length % 2
  [1, .ofNat (length / 256), .ofNat length, 0, 0] ++ payload ++
    List.replicate (payload.length % 2) 0

theorem length_frameOf (payload : List UInt8) :
    (frameOf payload).length = frameLength payload.length := by
  simp only [frameOf, frameLength, paddedLength, headerSize, List.length_append, List.length_cons,
    List.length_nil, List.length_replicate]
  omega

/-- The header that goes before a payload of this length. -/
def writeHeader (payload : Nat) : Header := ⟨.write, .ofNat (paddedLength payload)⟩

theorem forWrite?_eq_some {payload : Nat} (fits : frameLength payload ≤ bufferCapacity) :
    Header.forWrite? payload = some (writeHeader payload) := by
  have short : paddedLength payload < UInt16.size := by
    simp only [frameLength, headerSize, bufferCapacity, UInt16.size] at *
    omega
  rw [Header.forWrite?, Header.ofPadded?, if_pos short, writeHeader]

theorem encode_writeHeader {payload : Nat} (fits : frameLength payload ≤ bufferCapacity) :
    (writeHeader payload).encode =
      [1, .ofNat ((payload + payload % 2) / 256), .ofNat (payload + payload % 2), 0, 0] := by
  have short : (payload + payload % 2) % 2 ^ 16 = payload + payload % 2 := by
    simp only [frameLength, paddedLength, headerSize, bufferCapacity] at fits
    omega
  simp only [writeHeader, Header.encode, Direction.tag, paddedLength, UInt16.toNat_ofNat', short,
    toLittle, List.reverse_cons, List.reverse_nil, List.nil_append, List.cons_append]

/-- The buffer with header and pad byte around the first `payload` bytes. -/
def framedBuffer (buffer : GuardedBuffer bufferCapacity) (payload : Nat) :
    GuardedBuffer bufferCapacity :=
  let headed := buffer.put 0 (writeHeader payload).encode
  if payload % 2 = 1 then headed.put (headerSize + payload) [0] else headed

theorem guardByte_framedBuffer (buffer : GuardedBuffer bufferCapacity) (payload : Nat) :
    (framedBuffer buffer payload).guardByte = buffer.guardByte := by
  unfold framedBuffer
  split <;> rfl

theorem intact_framedBuffer (buffer : GuardedBuffer bufferCapacity) (payload : Nat) :
    (framedBuffer buffer payload).intact = buffer.intact := by
  rw [GuardedBuffer.intact, guardByte_framedBuffer, GuardedBuffer.intact]

/-- The framed buffer starts with the frame of its payload. -/
theorem take_framedBuffer {buffer : GuardedBuffer bufferCapacity} {payload : Nat}
    (fits : frameLength payload ≤ bufferCapacity) :
    (framedBuffer buffer payload).bytes.take (frameLength payload) =
      frameOf (buffer.payload.take payload) := by
  have room : headerSize + payload ≤ buffer.bytes.length := by
    rw [buffer.length_bytes]
    simp only [frameLength, paddedLength] at fits
    omega
  obtain ⟨left, old, right, bytes, hleft, hold⟩ := exists_split room
  have body : buffer.payload.take payload = old := by
    rw [GuardedBuffer.payload, bytes, ← hleft, List.drop_left' rfl, List.take_left' hold]
  have width := Header.length_encode (writeHeader payload)
  have literal := encode_writeHeader fits
  simp only [framedBuffer]
  generalize (writeHeader payload).encode = header at *
  have headed : overlay buffer.bytes 0 header = (header ++ old) ++ right := by
    have front := overlay_append [] (old ++ right) (width.trans hleft.symm)
    simpa only [bytes, List.nil_append, List.length_nil, List.append_assoc] using front
  have front : (header ++ old).length = headerSize + payload := by
    rw [List.length_append, width, hold]
  have frame : frameOf old = (header ++ old) ++ List.replicate (payload % 2) 0 := by
    rw [literal, frameOf, hold]
  rw [body, frame]
  rcases Nat.mod_two_eq_zero_or_one payload with even | odd
  · have length : frameLength payload = (header ++ old).length := by
      rw [front, frameLength, paddedLength, even, Nat.add_zero]
    rw [if_neg (by omega), even, length, List.replicate_zero, List.append_nil,
      GuardedBuffer.bytes_put, headed, List.take_left' rfl]
  · have length : frameLength payload = (header ++ old).length + 1 := by
      rw [front, frameLength, paddedLength, odd, Nat.add_assoc]
    have total : (header ++ old).length + right.length = bufferCapacity := by
      rw [← buffer.length_bytes, bytes, List.length_append, List.length_append,
        List.length_append, hleft, width]
      omega
    obtain ⟨pad, rest, rfl⟩ : ∃ pad rest, right = pad :: rest := by
      refine List.exists_cons_of_length_pos ?_
      omega
    have one : [(0 : UInt8)].length = [pad].length := rfl
    have padded := overlay_append (header ++ old) rest one
    rw [if_pos odd, odd, length, GuardedBuffer.bytes_put, GuardedBuffer.bytes_put, headed, ← front,
      ← List.singleton_append, padded, ← List.append_assoc]
    exact List.take_left' List.length_append

/-- The engine with header and pad byte around the payload in its transmit buffer. -/
def framed (bus : Bus σ) (payload : Nat) : Bus σ :=
  { bus with transmit := framedBuffer bus.transmit payload }

/-- The buffer with a header at its front, and the pad byte that its layout has. -/
def laidOut (buffer : GuardedBuffer bufferCapacity) (header : Header) (layout : Layout) :
    GuardedBuffer bufferCapacity :=
  let headed := buffer.put 0 header.encode
  if layout.padded then headed.put (layout.total - 1) [0] else headed

theorem laidOut_of (buffer : GuardedBuffer bufferCapacity) (payload : Nat) :
    laidOut buffer (writeHeader payload) (.of payload) = framedBuffer buffer payload := by
  unfold laidOut framedBuffer Layout.of
  rcases Nat.mod_two_eq_zero_or_one payload with even | odd
  · have whole : ¬ headerSize + payload < frameLength payload := by
      simp only [frameLength, paddedLength, even]
      omega
    simp only [whole, decide_false, Bool.false_eq_true, even, Nat.zero_ne_one, ↓reduceIte]
  · have short : headerSize + payload < frameLength payload := by
      simp only [frameLength, paddedLength, odd]
      omega
    have pad : frameLength payload - 1 = headerSize + payload := by
      simp only [frameLength, paddedLength, odd]
      omega
    simp only [short, decide_true, odd, ↓reduceIte, pad]

theorem intact_laidOut (buffer : GuardedBuffer bufferCapacity) (header : Header)
    (layout : Layout) : (laidOut buffer header layout).intact = buffer.intact := by
  unfold laidOut
  split <;> rfl

/-- The engine with its transmit buffer laid out so. -/
def laid (bus : Bus σ) (header : Header) (layout : Layout) : Bus σ :=
  { bus with transmit := laidOut bus.transmit header layout }

theorem laid_of (bus : Bus σ) (payload : Nat) :
    bus.laid (writeHeader payload) (.of payload) = bus.framed payload := by
  rw [laid, framed, laidOut_of]

theorem frameInPlace_apply {layout : Layout} (room : layout.total ≤ bufferCapacity)
    (header : Header) (bus : Bus σ) :
    frameInPlace header layout bus = (.ok (), bus.laid header layout) := by
  have short : ¬ bufferCapacity < layout.total := Nat.not_lt.mpr room
  unfold frameInPlace laid laidOut
  cases layout.padded with
  | false => rfl
  | true =>
    simp only [short, ↓reduceIte]
    rfl

section Admission

variable [Board σ] (recover : BusM σ Unit) {layout : Layout}

theorem writeLaidOut_of_poisoned (poisoned : bus.poisoned = true) :
    writeLaidOut recover layout bus = (.error .poisoned, bus) := by
  simp only [writeLaidOut, get_apply, poisoned, ↓reduceIte]
  rfl

theorem writeLaidOut_of_long (sound : bus.poisoned = false)
    (long : bufferCapacity < layout.total ∨ layout.header? = none) :
    writeLaidOut recover layout bus = (.error .tooLong, bus) := by
  simp only [writeLaidOut, get_apply, sound, Bool.false_eq_true, ↓reduceIte]
  by_cases excess : bufferCapacity < layout.total
  · simp only [excess, ↓reduceIte]
    rfl
  · simp only [excess, long.resolve_left excess, ↓reduceIte]
    rfl

theorem writeLaidOut_of_header {header : Header} (sound : bus.poisoned = false)
    (room : layout.total ≤ bufferCapacity) (encodes : layout.header? = some header) :
    writeLaidOut recover layout bus =
      if bus.transmit.intact then writeFramed recover layout.total (bus.laid header layout)
      else (.error .overrun, (bus.laid header layout).halted) := by
  have short : ¬ bufferCapacity < layout.total := Nat.not_lt.mpr room
  have intact : (bus.laid header layout).transmit.intact = bus.transmit.intact := intact_laidOut ..
  simp only [writeLaidOut, get_apply, sound, Bool.false_eq_true, short, encodes, ↓reduceIte]
  rw [bind_apply, frameInPlace_apply room]
  simp only [get_apply, intact]
  split <;> rfl

/-- What a write does before it comes to the bus. -/
theorem writeRecovering_apply (payload : Nat) (bus : Bus σ) :
    writeRecovering recover payload bus =
      if bus.poisoned then (.error .poisoned, bus)
      else if bufferCapacity < frameLength payload then (.error .tooLong, bus)
      else if bus.transmit.intact then
        writeFramed recover (frameLength payload) (bus.framed payload)
      else (.error .overrun, (bus.framed payload).halted) := by
  rw [writeRecovering]
  cases sound : bus.poisoned with
  | true => exact writeLaidOut_of_poisoned recover sound
  | false =>
    by_cases long : bufferCapacity < frameLength payload
    · rw [if_neg Bool.false_ne_true, if_pos long]
      exact writeLaidOut_of_long recover sound (.inl long)
    · have room := Nat.not_lt.mp long
      rw [if_neg Bool.false_ne_true, if_neg long,
        writeLaidOut_of_header recover sound room (forWrite?_eq_some room), laid_of]
      rfl

end Admission

/-- The engine with some bytes written into its payload region. -/
def loaded (bus : Bus σ) (start : Nat) (bytes : List UInt8) : Bus σ :=
  { bus with transmit := bus.transmit.put (headerSize + start) bytes }

theorem fits_iff {payload : Nat} :
    frameLength payload ≤ bufferCapacity ↔ payload ≤ payloadLimit := by
  simp only [frameLength, paddedLength, bufferCapacity, payloadLimit, headerSize]
  omega

theorem take_payload_loaded {bytes : List UInt8} (fits : bytes.length ≤ payloadLimit) :
    (bus.loaded 0 bytes).transmit.payload.take bytes.length = bytes := by
  have room : headerSize + bytes.length ≤ bus.transmit.bytes.length := by
    rw [bus.transmit.length_bytes]
    simp only [payloadLimit, bufferCapacity, headerSize] at *
    omega
  exact take_drop_overlay room

end SpiWifi.Bus
