import SpiWifi.Wire.Event

/-!
Event frames byte by byte. A frame that is as long as its first bytes announce carries an
event if and only if it is laid out as one, and then the arguments that are read are exactly
those that the length byte counts: the pad byte is not among them, and none is missing.
-/

set_option autoImplicit false
set_option relaxedAutoImplicit false

namespace SpiWifi.Wire

/-- The frame of an event: the event packet behind the SPI header, with as many arguments as
its length byte counts besides the status byte, and a pad byte if their number is odd. -/
def Carries (frame : List UInt8) (event : Event) : Prop :=
  ∃ header count pad, frame = header ++ (event.packetWith count ++ pad) ∧
    header.length = headerSize ∧ event.args.length = count.toNat - 1 ∧
    pad.length = event.args.length % 2

/-- A 16-bit number is written as the two bytes that it was read from. -/
theorem toLittle_ofLittle_word (low high : UInt8) :
    toLittle 2 (UInt16.ofNat (ofLittle [low, high])).toNat = [low, high] := by
  have small : ofLittle [low, high] < UInt16.size := by
    have := low.toNat_lt
    have := high.toNat_lt
    simp only [ofLittle, UInt16.size]
    omega
  rw [UInt16.toNat_ofNat', Nat.mod_eq_of_lt small]
  exact toLittle_ofLittle [low, high]

/-- What an event packet looks like, whatever comes behind its arguments. -/
theorem ofPacket?_eq_some_iff {packet : List UInt8} {event : Event} :
    Event.ofPacket? packet = some event ↔
      ∃ count rest, packet = PacketKind.event.tag :: toLittle 2 event.opcode.toNat ++
          count :: event.status :: rest ∧
        event.args = rest.take (count.toNat - 1) := by
  constructor
  · intro read
    unfold Event.ofPacket? at read
    split at read
    · rename_i kind low high count status rest
      split at read
      · rename_i tag
        obtain rfl := Option.some.inj read
        refine ⟨count, rest, ?_, rfl⟩
        rw [toLittle_ofLittle_word, ← PacketKind.tag_ofTag kind, tag]
        rfl
      · cases read
    · cases read
  · rintro ⟨count, rest, rfl, args⟩
    show some (Event.mk (UInt16.ofNat (ofLittle (toLittle 2 event.opcode.toNat))) event.status
      (rest.take (count.toNat - 1))) = some event
    rw [ofLittle_toLittle_word, ← args]

/-- How many bytes follow the first ones of an event frame. -/
theorem remainingLength_event {header rest : List UInt8} {low high count status : UInt8}
    (long : header.length = headerSize) :
    remainingLength ((header ++ PacketKind.event.tag :: low :: high :: count :: status ::
      rest).take leadSize) = count.toNat - 1 + (count.toNat - 1) % 2 := by
  have lead : (header ++ PacketKind.event.tag :: low :: high :: count :: status :: rest).take
      leadSize = header ++ [PacketKind.event.tag, low, high, count, status] := by
    rw [leadSize, ← long, List.take_length_add_append]
    rfl
  rw [lead, remainingLength, List.drop_left' long]
  rfl

/-- A whole frame is read as an event exactly if it is laid out as the frame of one. -/
theorem ofPacket?_drop_eq_some_iff {frame : List UInt8} {event : Event}
    (whole : frame.length = leadSize + remainingLength (frame.take leadSize)) :
    Event.ofPacket? (frame.drop headerSize) = some event ↔ Carries frame event := by
  rw [ofPacket?_eq_some_iff]
  constructor
  · rintro ⟨count, rest, packet, args⟩
    have header : (frame.take headerSize).length = headerSize := by
      rw [List.length_take, whole, leadSize]
      omega
    have parts : frame = frame.take headerSize ++ frame.drop headerSize :=
      (List.take_append_drop headerSize frame).symm
    rw [packet] at parts
    -- The first bytes are those of an event, so the length byte says how many follow.
    have announced : remainingLength (frame.take leadSize) =
        count.toNat - 1 + (count.toNat - 1) % 2 := by
      rw [parts]
      exact remainingLength_event header
    have width : frame.length = headerSize + (packetHeaderSize + rest.length) := by
      rw [parts]
      simp only [List.cons_append, List.length_append, List.length_cons, length_toLittle, header,
        packetHeaderSize]
      omega
    rw [announced, leadSize] at whole
    have counted : event.args.length = count.toNat - 1 := by
      rw [args, List.length_take]
      omega
    refine ⟨_, count, rest.drop (count.toNat - 1), ?_, header, counted, ?_⟩
    · rw [Event.packetWith, args]
      simp only [List.cons_append, List.append_assoc, List.take_append_drop]
      exact parts
    · rw [List.length_drop, counted]
      omega
  · rintro ⟨header, count, pad, rfl, long, args, -⟩
    refine ⟨count, event.args ++ pad, ?_, ?_⟩
    · rw [List.drop_left' long, Event.packetWith]
      simp only [List.cons_append, List.append_assoc]
    · rw [← args, List.take_left' rfl]

end SpiWifi.Wire
