import SpiWifi.Proofs.Wire.EventFrame

/-!
How long an incoming frame is. The ten bytes that are read first announce the rest, by one
rule for events and by another for data, and either rule fills up whole pairs of bytes. The
frame of an event with up to 254 arguments is exactly as long as its first bytes announce,
and is read back as that event.
-/

set_option autoImplicit false
set_option relaxedAutoImplicit false

namespace SpiWifi.Wire

/-- The frame in which the chip sends an event, with a byte behind it if its length would be
odd. -/
def eventFrame (event : Event) (pad : UInt8) : List UInt8 :=
  Header.encode ⟨.read, 0⟩ ++ event.packet ++
    if (leadSize + event.args.length) % 2 = 1 then [pad] else []

/-! ### The two padding rules -/

namespace PacketKind

/-- The rest of an event makes its frame even, whose first ten bytes hold the status byte. -/
theorem bodyLength_event (first second : UInt8) :
    event.bodyLength first second % 2 = 0 ∧
      first.toNat - 1 ≤ event.bodyLength first second ∧
      event.bodyLength first second ≤ first.toNat - 1 + 1 := by
  simp only [bodyLength]
  omega

/-- The rest of a data packet makes the packet even, five bytes of which are read already. -/
theorem bodyLength_data (first second : UInt8) :
    data.bodyLength first second % 2 = 1 ∧
      ofLittle [first, second] ≤ data.bodyLength first second ∧
      data.bodyLength first second ≤ ofLittle [first, second] + 1 := by
  simp only [bodyLength]
  omega

theorem bodyLength_of_ne {kind : PacketKind} (data : kind ≠ .data) (event : kind ≠ .event)
    (first second : UInt8) : kind.bodyLength first second = 0 := by
  cases kind with
  | data => exact absurd rfl data
  | event => exact absurd rfl event
  | _ => rfl

end PacketKind

/-- The rule reads the kind and the two length bytes and nothing else. -/
theorem remainingLength_toList (lead : Vector UInt8 10) :
    remainingLength lead.toList = (PacketKind.ofTag lead[5]).bodyLength lead[8] lead[9] := by
  obtain ⟨⟨bytes⟩, long⟩ := lead
  match bytes, long with
  | [_, _, _, _, _, _, _, _, _, _], _ => rfl

/-! ### Event frames -/

/-- An event's frame is as long as its first bytes announce. -/
theorem Carries.whole {frame : List UInt8} {event : Event} (h : Carries frame event) :
    frame.length = leadSize + remainingLength (frame.take leadSize) := by
  obtain ⟨header, count, pad, rfl, long, counted, padded⟩ := h
  have announced : remainingLength ((header ++ (event.packetWith count ++ pad)).take leadSize) =
      count.toNat - 1 + (count.toNat - 1) % 2 := remainingLength_event long
  rw [announced]
  simp only [Event.packetWith, List.cons_append, List.length_append, List.length_cons,
    length_toLittle, leadSize, packetHeaderSize]
  omega

/-- A length byte has room for 254 arguments and the status byte. -/
theorem carries_eventFrame {event : Event} (fits : event.args.length ≤ 254) (pad : UInt8) :
    Carries (eventFrame event pad) event := by
  refine ⟨Header.encode ⟨.read, 0⟩, UInt8.ofNat (event.args.length + 1),
    if (leadSize + event.args.length) % 2 = 1 then [pad] else [], ?_, Header.length_encode _, ?_, ?_⟩
  · rw [eventFrame, Event.packet, List.append_assoc]
  · rw [UInt8.toNat_ofNat']
    omega
  · have even : leadSize = 10 := rfl
    split
    · rw [List.length_singleton]
      omega
    · rw [List.length_nil]
      omega

/-- The read-length rule agrees with what it is used for. The frame of any event with at most
254 arguments, with whatever pad byte, is exactly as long as its first ten bytes announce, and
it is read as that event: nothing is cut off and the pad byte is no argument. And whatever the
first ten bytes are, an event's frame is even and ends at most one byte behind its packet, a data
packet is even and ends at most one byte behind its payload, and nothing more is read of a frame
of any other kind. -/
theorem remainingLength_exact :
    (∀ (event : Event) (pad : UInt8), event.args.length ≤ 254 →
      let frame := eventFrame event pad
      frame.length = leadSize + remainingLength (frame.take leadSize) ∧
        Event.ofPacket? (frame.drop headerSize) = some event) ∧
    ∀ lead : Vector UInt8 10,
      let total := leadSize + remainingLength lead.toList
      let count := lead[8].toNat
      let payload := ofLittle [lead[8], lead[9]]
      (PacketKind.ofTag lead[5] = .event → total % 2 = 0 ∧ (count = 0 → total = leadSize) ∧
        (1 ≤ count → 9 + count ≤ total ∧ total ≤ 9 + count + 1)) ∧
      (PacketKind.ofTag lead[5] = .data → (total - headerSize) % 2 = 0 ∧
        packetHeaderSize + payload ≤ total - headerSize ∧
        total - headerSize ≤ packetHeaderSize + payload + 1) ∧
      (PacketKind.ofTag lead[5] ≠ .event → PacketKind.ofTag lead[5] ≠ .data →
        total = leadSize) := by
  constructor
  · intro event pad fits frame
    have carries : Carries frame event := carries_eventFrame fits pad
    exact ⟨carries.whole, (ofPacket?_drop_eq_some_iff carries.whole).mpr carries⟩
  · intro lead total count payload
    have announced : total = leadSize +
        (PacketKind.ofTag lead[5]).bodyLength lead[8] lead[9] :=
      congrArg _ (remainingLength_toList lead)
    have sizes : leadSize = 10 ∧ headerSize = 5 ∧ packetHeaderSize = 5 := ⟨rfl, rfl, rfl⟩
    refine ⟨fun kind ↦ ?_, fun kind ↦ ?_, fun event data ↦ ?_⟩
    · rw [kind] at announced
      have rule := PacketKind.bodyLength_event lead[8] lead[9]
      omega
    · rw [kind] at announced
      have rule := PacketKind.bodyLength_data lead[8] lead[9]
      omega
    · rw [announced, PacketKind.bodyLength_of_ne data event, Nat.add_zero]

theorem remainingLength_exact_padded :
    let frame := eventFrame ⟨0x4010, 5, [7]⟩ 0xAA
    frame = [3, 0, 0, 0, 0, 4, 0x10, 0x40, 2, 5, 7, 0xAA] ∧
      Event.ofPacket? (frame.drop headerSize) = some ⟨0x4010, 5, [7]⟩ :=
  ⟨by decide, (remainingLength_exact.1 ⟨0x4010, 5, [7]⟩ 0xAA (by decide)).2⟩

end SpiWifi.Wire
