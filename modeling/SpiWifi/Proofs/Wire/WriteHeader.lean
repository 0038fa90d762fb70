import SpiWifi.Proofs.Wire.EventFrame

/-!
The header of a frame to the chip, written and read. It exists as long as the padded length of
the payload fits into sixteen bits, and what is read back is that padded length: it tells the
payload's length up to the pad byte and nothing more. The other way round, five bytes that are
read as the header of an even payload are the header of that payload, reserved bytes included.
-/

set_option autoImplicit false
set_option relaxedAutoImplicit false

namespace SpiWifi.Wire

/-- Padding reaches the next even number. -/
theorem paddedLength_bounds (length : Nat) :
    paddedLength length % 2 = 0 ∧ length ≤ paddedLength length ∧
      paddedLength length ≤ length + 1 := by
  unfold paddedLength
  omega

theorem paddedLength_of_even {length : Nat} (even : length % 2 = 0) :
    paddedLength length = length := by
  rw [paddedLength, even, Nat.add_zero]

theorem Direction.ofTag?_eq_some_iff {tag : UInt8} {direction : Direction} :
    Direction.ofTag? tag = some direction ↔ tag = direction.tag := by
  constructor
  · intro read
    unfold Direction.ofTag? at read
    split at read
    · next write =>
      rw [← Option.some.inj read]
      exact write
    split at read
    · next fill =>
      rw [← Option.some.inj read]
      exact fill
    · cases read
  · intro same
    rw [same, Direction.ofTag?_tag]

namespace Header

/-- The bytes that go out before a payload of this length. -/
def writeBytes? (payload : Nat) : Option (List UInt8) := (forWrite? payload).map encode

/-! ### Which lengths have a header -/

/-- The largest number of sixteen bits is odd, so padding takes its payload out of the field. -/
theorem paddedLength_lt_iff {payload : Nat} :
    paddedLength payload < UInt16.size ↔ payload ≤ 65534 := by
  unfold paddedLength UInt16.size
  omega

theorem toNat_ofNat_paddedLength {payload : Nat} (fits : paddedLength payload < UInt16.size) :
    (UInt16.ofNat (paddedLength payload)).toNat = paddedLength payload :=
  UInt16.toNat_ofNat_of_lt' fits

theorem writeBytes?_eq_some_iff {payload : Nat} {bytes : List UInt8} :
    writeBytes? payload = some bytes ↔ paddedLength payload < UInt16.size ∧
      bytes = encode ⟨.write, .ofNat (paddedLength payload)⟩ := by
  rw [writeBytes?, forWrite?, ofPadded?]
  by_cases fits : paddedLength payload < UInt16.size
  · rw [if_pos fits, Option.map_some, Option.some.injEq, eq_comm]
    exact (and_iff_right fits).symm
  · rw [if_neg fits, Option.map_none]
    exact iff_of_false (Option.some_ne_none bytes).symm fun h ↦ fits h.1

theorem isSome_writeBytes?_iff {payload : Nat} :
    (writeBytes? payload).isSome ↔ payload ≤ 65534 := by
  rw [Option.isSome_iff_exists, ← paddedLength_lt_iff]
  constructor
  · intro ⟨bytes, written⟩
    exact (writeBytes?_eq_some_iff.mp written).1
  · intro fits
    exact ⟨_, writeBytes?_eq_some_iff.mpr ⟨fits, rfl⟩⟩

/-! ### Reading a header -/

theorem encode_injective {first second : Header} (same : first.encode = second.encode) :
    first = second := by
  have read := decode?_encode_append first []
  rw [same, decode?_encode_append second []] at read
  exact (Option.some.inj read).symm

/-- What is read as a header, whatever its reserved bytes and what comes behind it. -/
theorem decode?_eq_some_iff {bytes : List UInt8} {header : Header} :
    decode? bytes = some header ↔ ∃ high low first second rest,
      bytes = header.direction.tag :: high :: low :: first :: second :: rest ∧
        header.length = .ofNat (ofLittle [low, high]) := by
  constructor
  · intro read
    unfold decode? at read
    split at read
    · next tag high low first second rest =>
      obtain ⟨direction, tagged, rfl⟩ := Option.map_eq_some_iff.mp read
      rw [Direction.ofTag?_eq_some_iff.mp tagged]
      exact ⟨high, low, first, second, rest, rfl, rfl⟩
    · cases read
  · intro ⟨high, low, first, second, rest, layout, length⟩
    rw [layout]
    show (Direction.ofTag? header.direction.tag).map
      (⟨·, .ofNat (ofLittle [low, high])⟩) = some header
    rw [Direction.ofTag?_tag, ← length]
    rfl

/-- The first byte decides whether there is a header, if there are bytes enough. -/
theorem isSome_decode?_iff {bytes : List UInt8} :
    (decode? bytes).isSome ↔
      5 ≤ bytes.length ∧ (bytes.head? = some 1 ∨ bytes.head? = some 3) := by
  rw [Option.isSome_iff_exists]
  constructor
  · intro ⟨header, read⟩
    obtain ⟨high, low, first, second, rest, rfl, -⟩ := decode?_eq_some_iff.mp read
    refine ⟨Nat.le_add_left 5 rest.length, ?_⟩
    cases header.direction with
    | write => exact Or.inl rfl
    | read => exact Or.inr rfl
  · intro ⟨long, tagged⟩
    match bytes, long with
    | tag :: high :: low :: first :: second :: rest, _ =>
      have known : ∃ direction : Direction, tag = direction.tag :=
        tagged.elim (fun write ↦ ⟨.write, Option.some.inj write⟩)
          fun read ↦ ⟨.read, Option.some.inj read⟩
      obtain ⟨direction, rfl⟩ := known
      exact ⟨⟨direction, _⟩, decode?_eq_some_iff.mpr ⟨high, low, first, second, rest, rfl, rfl⟩⟩

/-- A header is written with the bytes that it was read from, if the reserved ones are zero. -/
theorem encode_of_decode? {bytes : List UInt8} {header : Header}
    (read : decode? bytes = some header) (first : bytes[3]? = some 0) (second : bytes[4]? = some 0) :
    header.encode = bytes.take headerSize := by
  obtain ⟨high, low, reserved, spare, rest, rfl, length⟩ := decode?_eq_some_iff.mp read
  obtain rfl : reserved = 0 := Option.some.inj first
  obtain rfl : spare = 0 := Option.some.inj second
  rw [encode, length, toLittle_ofLittle_word]
  rfl

/-! ### There and back -/

/-- A header is written for every payload of at most 65534 bytes. Whatever follows it, it is read
as that of a write, with the even length that the bus clocks behind the header; payloads of the
same padded length, and no others, share it. A byte string starts with a header if it has five
bytes of which the first is a tag; and if it is read as the header of a write, with an even
length and zeros for the reserved bytes, these five bytes are what is written for that length. -/
theorem writeBytes?_readBack :
    (∀ payload, (writeBytes? payload).isSome ↔ payload ≤ 65534) ∧
    (∀ payload bytes, writeBytes? payload = some bytes →
      (∃ length : UInt16, (∀ rest, decode? (bytes ++ rest) = some ⟨.write, length⟩) ∧
        length.toNat % 2 = 0 ∧ payload ≤ length.toNat ∧ length.toNat ≤ payload + 1 ∧
        frameLength payload = 5 + length.toNat) ∧
      ∀ other, writeBytes? other = some bytes ↔ paddedLength other = paddedLength payload) ∧
    (∀ bytes, (decode? bytes).isSome ↔
      5 ≤ bytes.length ∧ (bytes.head? = some 1 ∨ bytes.head? = some 3)) ∧
    ∀ bytes length, decode? bytes = some ⟨.write, length⟩ → length.toNat % 2 = 0 →
      bytes[3]? = some 0 → bytes[4]? = some 0 →
      writeBytes? length.toNat = some (bytes.take 5) := by
  refine ⟨fun _ ↦ isSome_writeBytes?_iff, ?_, fun _ ↦ isSome_decode?_iff, ?_⟩
  · intro payload bytes written
    obtain ⟨fits, rfl⟩ := writeBytes?_eq_some_iff.mp written
    constructor
    · refine ⟨.ofNat (paddedLength payload), fun rest ↦ decode?_encode_append _ rest, ?_⟩
      rw [toNat_ofNat_paddedLength fits]
      obtain ⟨even, covers, close⟩ := paddedLength_bounds payload
      exact ⟨even, covers, close, rfl⟩
    · intro other
      rw [writeBytes?_eq_some_iff]
      constructor
      · intro ⟨short, same⟩
        have lengths : UInt16.ofNat (paddedLength payload) = UInt16.ofNat (paddedLength other) :=
          congrArg Header.length (encode_injective same)
        have numbers := congrArg UInt16.toNat lengths
        rw [toNat_ofNat_paddedLength fits, toNat_ofNat_paddedLength short] at numbers
        exact numbers.symm
      · intro same
        rw [same]
        exact ⟨fits, rfl⟩
  · intro bytes length read even first second
    rw [writeBytes?_eq_some_iff, paddedLength_of_even even]
    refine ⟨length.toNat_lt, ?_⟩
    rw [UInt16.ofNat_toNat, encode_of_decode? read first second]
    rfl

/-- Three bytes of payload are announced as four, and four bytes are as well. -/
theorem writeBytes?_readBack_odd :
    writeBytes? 3 = some [1, 0, 4, 0, 0] ∧
      (∃ length : UInt16, (∀ rest, decode? ([1, 0, 4, 0, 0] ++ rest) = some ⟨.write, length⟩) ∧
        length.toNat % 2 = 0 ∧ 3 ≤ length.toNat ∧ length.toNat ≤ 3 + 1 ∧
        frameLength 3 = 5 + length.toNat) ∧
      decode? [1, 0, 4, 0, 0, 7] = some ⟨.write, 4⟩ ∧
      writeBytes? (4 : UInt16).toNat = some [1, 0, 4, 0, 0] := by
  have written : writeBytes? 3 = some [1, 0, 4, 0, 0] := by decide
  have read : decode? [1, 0, 4, 0, 0, 7] = some ⟨.write, 4⟩ := by decide
  obtain ⟨-, forth, -, back⟩ := writeBytes?_readBack
  exact ⟨written, (forth 3 _ written).1, read, back _ 4 read (by decide) rfl rfl⟩

end Header

end SpiWifi.Wire
