import SpiWifi.Wire.Endian

/-!
The five bytes that open every SPI transaction: a direction tag, the payload
length in big-endian order with its pad byte counted, and two reserved zeros.
Payloads are padded to an even length.
-/

set_option autoImplicit false
set_option relaxedAutoImplicit false

namespace SpiWifi.Wire

def headerSize : Nat := 5

/-- The byte the host clocks out while it reads; it is also the tag of a read. -/
def readFill : UInt8 := 3

def paddedLength (length : Nat) : Nat := length + length % 2

/-- Bytes on the bus for a payload of this length. -/
def frameLength (length : Nat) : Nat := headerSize + paddedLength length

inductive Direction where
  | write
  | read
  deriving DecidableEq

namespace Direction

def tag : Direction → UInt8
  | .write => 1
  | .read => readFill

def ofTag? (byte : UInt8) : Option Direction :=
  if byte = Direction.write.tag then some .write
  else if byte = Direction.read.tag then some .read
  else none

@[simp] theorem ofTag?_tag (direction : Direction) : ofTag? direction.tag = some direction := by
  cases direction <;> rfl

end Direction

structure Header where
  direction : Direction
  /-- Payload length on the wire, pad byte included. -/
  length : UInt16
  deriving DecidableEq

namespace Header

def encode (header : Header) : List UInt8 :=
  header.direction.tag :: (toLittle 2 header.length.toNat).reverse ++ [0, 0]

/-- Reads the header at the front of a byte string; the reserved bytes are not looked at. -/
def decode? : List UInt8 → Option Header
  | tag :: high :: low :: _ :: _ :: _ =>
    (Direction.ofTag? tag).map (⟨·, UInt16.ofNat (ofLittle [low, high])⟩)
  | _ => none

/-- The header of a host-to-chip frame of this padded length, unless it needs more than 16 bits. -/
def ofPadded? (padded : Nat) : Option Header :=
  if padded < UInt16.size then some ⟨.write, UInt16.ofNat padded⟩ else none

def forWrite? (payload : Nat) : Option Header := ofPadded? (paddedLength payload)

@[simp] theorem length_encode (header : Header) : header.encode.length = headerSize := by
  simp [encode, headerSize]

theorem decode?_encode_append (header : Header) (rest : List UInt8) :
    decode? (header.encode ++ rest) = some header := by
  change (Direction.ofTag? header.direction.tag).map
    (⟨·, UInt16.ofNat (ofLittle (toLittle 2 header.length.toNat))⟩) = some header
  rw [Direction.ofTag?_tag, ofLittle_toLittle_word]
  rfl

end Header

/-- How a payload is framed: the header, if the payload fits one, the length of the whole frame, and
whether it ends with a pad byte. -/
structure Layout where
  header? : Option Header
  total : Nat
  padded : Bool
  deriving DecidableEq

namespace Layout

def of (payload : Nat) : Layout where
  header? := Header.forWrite? payload
  total := frameLength payload
  padded := headerSize + payload < frameLength payload

variable {bits : Nat}

/-- The padded length as a machine works it out that adds in words, which wrap. -/
def paddedWord (payload : BitVec bits) : BitVec bits := payload + (payload &&& .ofNat bits 1)

/-- The length of the frame in such a word. -/
def frameWord (payload : BitVec bits) : BitVec bits := .ofNat bits headerSize + paddedWord payload

def ofWord (payload : BitVec bits) : Layout where
  header? := Header.ofPadded? (paddedWord payload).toNat
  total := (frameWord payload).toNat
  padded := BitVec.ofNat bits headerSize + payload < frameWord payload

variable {payload : BitVec bits}

theorem paddedWord_eq (payload : BitVec bits) :
    paddedWord payload = .ofNat bits (paddedLength payload.toNat) := by
  rw [paddedLength, ← Nat.and_one_is_mod, BitVec.ofNat_add, BitVec.ofNat_and, BitVec.ofNat_toNat,
    BitVec.setWidth_eq, paddedWord]

theorem frameWord_eq (payload : BitVec bits) :
    frameWord payload = .ofNat bits (frameLength payload.toNat) := by
  rw [frameWord, paddedWord_eq, frameLength, BitVec.ofNat_add]

theorem toNat_ofNat_of_le {number : Nat} (fits : number ≤ (BitVec.allOnes bits).toNat) :
    (BitVec.ofNat bits number).toNat = number := by
  rw [BitVec.toNat_ofNat]
  exact Nat.mod_eq_of_lt (Nat.lt_of_le_of_lt fits (BitVec.allOnes bits).isLt)

/-- Nothing wraps if a word can hold the length of the frame. -/
theorem ofWord_eq (fits : frameLength payload.toNat ≤ (BitVec.allOnes bits).toNat) :
    ofWord payload = of payload.toNat := by
  have total : (frameWord payload).toNat = frameLength payload.toNat := by
    rw [frameWord_eq, toNat_ofNat_of_le fits]
  have padded : (paddedWord payload).toNat = paddedLength payload.toNat := by
    rw [paddedWord_eq, toNat_ofNat_of_le (Nat.le_trans (Nat.le_add_left _ _) fits)]
  have bare : headerSize + payload.toNat ≤ (BitVec.allOnes bits).toNat :=
    Nat.le_trans (Nat.add_le_add_left (Nat.le_add_right _ _) _) fits
  have short : (BitVec.ofNat bits headerSize + payload).toNat = headerSize + payload.toNat := by
    rw [← toNat_ofNat_of_le bare, BitVec.ofNat_add, BitVec.ofNat_toNat, BitVec.setWidth_eq]
  rw [ofWord, of, Header.forWrite?, padded, total, mk.injEq]
  exact ⟨rfl, rfl, decide_eq_decide.mpr (by rw [BitVec.lt_def, short, total])⟩

/-- The layout of the longest payload, which wraps to none at all: the pad byte takes the place of
the last byte of the header. -/
def wrapped : Layout := ⟨Header.forWrite? 0, headerSize, true⟩

theorem ofWord_allOnes (wide : 2 < bits) : ofWord (BitVec.allOnes bits) = wrapped := by
  have room : 2 ^ 3 ≤ 2 ^ bits := Nat.pow_le_pow_right (by decide) wide
  have odd : paddedLength (2 ^ bits - 1) = 2 ^ bits := by
    have even : 2 ^ bits % 2 = 0 := Nat.two_pow_mod_two_eq_zero.mpr (by omega)
    rw [paddedLength]
    omega
  have padded : (paddedWord (BitVec.allOnes bits)).toNat = 0 := by
    rw [paddedWord_eq, BitVec.toNat_ofNat, BitVec.toNat_allOnes, odd, Nat.mod_self]
  have total : (frameWord (BitVec.allOnes bits)).toNat = headerSize := by
    rw [frameWord_eq, BitVec.toNat_ofNat, BitVec.toNat_allOnes, frameLength, odd,
      Nat.add_mod_right, headerSize, Nat.mod_eq_of_lt (by omega)]
  have bare : (BitVec.ofNat bits headerSize + BitVec.allOnes bits).toNat = headerSize - 1 := by
    rw [BitVec.toNat_add, BitVec.toNat_ofNat, BitVec.toNat_allOnes, Nat.mod_add_mod, headerSize]
    have wrapped : 5 + (2 ^ bits - 1) = 4 + 2 ^ bits := by omega
    rw [wrapped, Nat.add_mod_right, Nat.mod_eq_of_lt (by omega)]
  have pads : decide (BitVec.ofNat bits headerSize + BitVec.allOnes bits <
      frameWord (BitVec.allOnes bits)) = true := by
    rw [decide_eq_true_iff, BitVec.lt_def, bare, total]
    decide
  rw [ofWord, padded, total, pads]
  rfl

/-- Any other payload whose frame is too long for a word is too long for a header as well. -/
theorem header?_ofWord_of_wraps (wide : 16 < bits)
    (wraps : (BitVec.allOnes bits).toNat < frameLength payload.toNat)
    (other : payload ≠ BitVec.allOnes bits) : (ofWord payload).header? = none := by
  have room : 2 ^ 17 ≤ 2 ^ bits := Nat.pow_le_pow_right (by decide) wide
  have below : payload.toNat ≠ 2 ^ bits - 1 := by
    rwa [← BitVec.toNat_allOnes, ne_eq, BitVec.toNat_inj]
  have even : 2 ^ bits % 2 = 0 := Nat.two_pow_mod_two_eq_zero.mpr (by omega)
  have bound := payload.isLt
  rw [ofWord, paddedWord_eq, BitVec.toNat_ofNat, Header.ofPadded?, if_neg]
  rw [BitVec.toNat_allOnes, frameLength, paddedLength, headerSize] at wraps
  rw [paddedLength, Nat.mod_eq_of_lt (by omega), UInt16.size]
  omega

end Layout

end SpiWifi.Wire
