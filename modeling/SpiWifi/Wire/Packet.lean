import SpiWifi.Wire.Header

/-!
A packet is what a frame carries after its SPI header. Its first byte names the
kind, and the kind says where the length of the rest is found: an event counts
its status byte in one byte, a data packet has a 16-bit count. Both are padded
so that the chip always sends whole pairs of bytes.
-/

set_option autoImplicit false
set_option relaxedAutoImplicit false

namespace SpiWifi.Wire

/-- Bytes of a packet before its arguments; in an event they include the status byte. -/
def packetHeaderSize : Nat := 5

/-- Bytes clocked in before the length of an incoming frame is known. -/
def leadSize : Nat := headerSize + packetHeaderSize

inductive PacketKind where
  | command
  | data
  | patch
  | event
  | unknown (tag : UInt8)
  deriving DecidableEq

namespace PacketKind

def tag : PacketKind → UInt8
  | .command => 1
  | .data => 2
  | .patch => 3
  | .event => 4
  | .unknown byte => byte

def ofTag (byte : UInt8) : PacketKind :=
  if byte = command.tag then .command
  else if byte = data.tag then .data
  else if byte = patch.tag then .patch
  else if byte = event.tag then .event
  else .unknown byte

@[simp] theorem tag_ofTag (byte : UInt8) : (ofTag byte).tag = byte := by
  unfold ofTag
  split <;> rename_i h1
  · exact h1.symm
  · split <;> rename_i h2
    · exact h2.symm
    · split <;> rename_i h3
      · exact h3.symm
      · split <;> rename_i h4
        · exact h4.symm
        · rfl

theorem ofTag_eq_event_iff {byte : UInt8} : ofTag byte = event ↔ byte = event.tag := by
  constructor
  · intro same
    rw [← tag_ofTag byte, same]
  · rintro rfl
    rfl

/-- The kind of a packet. An empty packet counts as one of the unknown kind 0. -/
def ofPacket : List UInt8 → PacketKind
  | [] => .unknown 0
  | byte :: _ => ofTag byte

/-- Bytes that follow the packet header, from its two length bytes. A data
packet is padded to an odd count, so that the packet itself is even; an event,
whose status byte has been read already, is padded to an even count. -/
def bodyLength (kind : PacketKind) (first second : UInt8) : Nat :=
  match kind with
  | .data =>
    let count := ofLittle [first, second]
    count + (count + 1) % 2
  | .event =>
    let count := first.toNat - 1
    count + count % 2
  | _ => 0

end PacketKind

/-- Bytes still to clock in once the first `leadSize` bytes of a frame are known. -/
def remainingLength (lead : List UInt8) : Nat :=
  match lead.drop headerSize with
  | kind :: _ :: _ :: first :: second :: _ => (PacketKind.ofTag kind).bodyLength first second
  | _ => 0

end SpiWifi.Wire
