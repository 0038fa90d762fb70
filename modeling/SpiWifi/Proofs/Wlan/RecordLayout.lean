import SpiWifi.Overlay
import SpiWifi.Wlan.ScanRecord

/-!
A scan record written and read. An entry decides two packed bytes, as many bytes as its name has
and the station address; all others are free. Whatever they are, what was written is read back. A
length that no name can have is cut to the room for the name, so the station address never gets
into it, and it is the only thing that is lost if what was read is written back.
-/

set_option autoImplicit false
set_option relaxedAutoImplicit false

namespace SpiWifi.Wlan

attribute [ext] ScanEntry

/-- There is room in a record for each part of the entry. -/
structure ScanEntry.Fits (entry : ScanEntry) : Prop where
  strength : entry.strength.toNat < 128
  security : entry.security.toNat < 4
  name : entry.name.length ≤ 32
  station : entry.station.length = 6

namespace ScanRecord

/-! ### Parts of a record -/

def window (record : ScanRecord) (start width : Nat) : List UInt8 :=
  (record.toList.drop start).take width

/-- The record with some bytes written over it. -/
def patch (record : ScanRecord) (start : Nat) (bytes : List UInt8) : ScanRecord where
  toArray := (overlay record.toList start bytes).toArray
  size_toArray := by rw [List.size_toArray, length_overlay, Vector.length_toList]

variable {record : ScanRecord} {start first width index : Nat} {bytes : List UInt8}

theorem length_window (fits : start + width ≤ 50) : (record.window start width).length = width := by
  rw [window, List.length_take, List.length_drop, Vector.length_toList, scanRecordSize]
  omega

theorem take_window (start width count : Nat) :
    (record.window start width).take count = record.window start (min count width) :=
  List.take_take ..

/-- A byte is a window that is one byte wide. -/
theorem window_one (inside : index < 50) : record.window index 1 = [record.byte index] := by
  have present : index < record.toList.length := by rwa [Vector.length_toList, scanRecordSize]
  have here : record.toList[index]? = some (record.byte index) := by
    rw [byte, Vector.getD, Array.getD_eq_getD_getElem?, ← Array.getElem?_toList]
    rw [← Vector.toList, List.getElem?_eq_getElem present, Option.getD_some]
  rw [window, List.take_one, List.head?_drop, here]
  rfl

theorem window_patch (fits : start + bytes.length ≤ 50) :
    (record.patch start bytes).window start bytes.length = bytes :=
  take_drop_overlay (by rwa [Vector.length_toList, scanRecordSize])

theorem window_patch_apart (fits : start + bytes.length ≤ 50)
    (apart : first + width ≤ start ∨ start + bytes.length ≤ first) :
    (record.patch start bytes).window first width = record.window first width :=
  take_drop_overlay_apart (by rwa [Vector.length_toList, scanRecordSize]) apart

theorem window_patch_byte (value : UInt8) (fits : start < 50)
    (apart : first + width ≤ start ∨ start < first) :
    (record.patch start [value]).window first width = record.window first width :=
  window_patch_apart fits apart

theorem patch_window (fits : start + width ≤ 50) :
    record.patch start (record.window start width) = record :=
  Vector.toList_inj.mp (overlay_take_drop (by rwa [Vector.length_toList, scanRecordSize]))

theorem byte_patch (value : UInt8) (inside : index < 50) :
    (record.patch index [value]).byte index = value := by
  have written := @window_patch record index [value] inside
  rw [List.length_singleton, window_one inside] at written
  exact List.singleton_inj.mp written

theorem byte_patch_apart (fits : start + bytes.length ≤ 50) (inside : index < 50)
    (apart : index < start ∨ start + bytes.length ≤ index) :
    (record.patch start bytes).byte index = record.byte index := by
  have same := @window_patch_apart record start index 1 bytes fits apart
  rw [window_one inside, window_one inside] at same
  exact List.singleton_inj.mp same

theorem byte_patch_ne (value : UInt8) (fits : start < 50) (inside : index < 50)
    (other : index ≠ start) : (record.patch start [value]).byte index = record.byte index :=
  byte_patch_apart fits inside (Nat.lt_or_gt_of_ne other)

/-! ### The layout -/

/-- The record is laid out for the entry, whatever its other bytes are. -/
structure LaidOut (record : ScanRecord) (entry : ScanEntry) : Prop where
  strength : (record.byte 8).toNat = 2 * entry.strength.toNat + entry.valid.toNat
  length : (record.byte 9).toNat = 4 * entry.name.length + entry.security.toNat
  name : record.window 12 entry.name.length = entry.name
  station : record.window 44 6 = entry.station

/-- The record with the packed bytes of an entry written over it. -/
def pack (record : ScanRecord) (entry : ScanEntry) : ScanRecord :=
  (record.patch 8 [.ofNat (2 * entry.strength.toNat + entry.valid.toNat)]).patch 9
    [.ofNat (4 * entry.name.length + entry.security.toNat)]

/-- The record with an entry written over it. -/
def encode (record : ScanRecord) (entry : ScanEntry) : ScanRecord :=
  ((record.pack entry).patch 12 entry.name).patch 44 entry.station

/-- The length that a record gives for the name. There are more of them than names have. -/
def nameLength (record : ScanRecord) : Nat := (record.byte 9).toNat / 4

variable {entry : ScanEntry}

/-! ### Reading -/

theorem valid_decode_iff (record : ScanRecord) :
    record.decode.valid = true ↔ (record.byte 8).toNat % 2 = 1 := by
  have low : (record.byte 8 &&& 1).toNat = (record.byte 8).toNat % 2 := by
    rw [UInt8.toNat_and]
    exact Nat.and_two_pow_sub_one_eq_mod _ 1
  show (record.byte 8 &&& 1 != 0) = true ↔ _
  rw [bne_iff_ne, ne_eq, ← UInt8.toNat_inj, low, UInt8.toNat_zero, Nat.mod_two_not_eq_zero]

theorem toNat_valid_decode (record : ScanRecord) :
    record.decode.valid.toNat = (record.byte 8).toNat % 2 := by
  have odd := valid_decode_iff record
  cases valid : record.decode.valid with
  | false =>
    rw [valid] at odd
    exact (Nat.mod_two_ne_one.mp (mt odd.mpr Bool.false_ne_true)).symm
  | true => exact (odd.mp valid).symm

theorem toNat_strength_decode (record : ScanRecord) :
    record.decode.strength.toNat = (record.byte 8).toNat / 2 := by
  show (record.byte 8 >>> 1).toNat = _
  rw [UInt8.toNat_shiftRight, Nat.shiftRight_eq_div_pow]
  rfl

theorem toNat_security_decode (record : ScanRecord) :
    record.decode.security.toNat = (record.byte 9).toNat % 4 := by
  show (record.byte 9 &&& 3).toNat = _
  rw [UInt8.toNat_and]
  exact Nat.and_two_pow_sub_one_eq_mod _ 2

theorem name_decode (record : ScanRecord) :
    record.decode.name = record.window 12 (min record.nameLength 32) := by
  show record.window 12 (min (record.byte 9 >>> 2).toNat 32) = _
  rw [UInt8.toNat_shiftRight, Nat.shiftRight_eq_div_pow]
  rfl

theorem station_decode (record : ScanRecord) : record.decode.station = record.window 44 6 := rfl

theorem length_name_decode (record : ScanRecord) :
    record.decode.name.length = min record.nameLength 32 := by
  rw [name_decode, length_window (by omega)]

theorem decode_fits (record : ScanRecord) : record.decode.Fits where
  strength := by
    have := (record.byte 8).toNat_lt
    rw [toNat_strength_decode]
    omega
  security := by
    rw [toNat_security_decode]
    omega
  name := by
    rw [length_name_decode]
    omega
  station := length_window (Nat.le_refl 50)

/-- A record that is laid out for an entry is read as that entry. -/
theorem LaidOut.decode_eq (laid : record.LaidOut entry) (fits : entry.Fits) :
    record.decode = entry := by
  have bit : entry.valid.toNat < 2 := Bool.toNat_lt entry.valid
  have security := fits.security
  have length : record.nameLength = entry.name.length := by
    rw [nameLength, laid.length]
    omega
  ext1
  · rw [Bool.eq_iff_iff, valid_decode_iff, laid.strength]
    cases entry.valid <;> simp
  · refine UInt8.toNat_inj.mp ?_
    rw [toNat_strength_decode, laid.strength]
    omega
  · refine UInt8.toNat_inj.mp ?_
    rw [toNat_security_decode, laid.length]
    omega
  · rw [name_decode, length, Nat.min_eq_left fits.name, laid.name]
  · exact laid.station

/-! ### Writing -/

theorem byte_encode (record : ScanRecord) (fits : entry.Fits) (inside : index < 44)
    (beside : index < 12 ∨ 12 + entry.name.length ≤ index) :
    (record.encode entry).byte index = (record.pack entry).byte index := by
  have name := fits.name
  have station := fits.station
  rw [encode, byte_patch_apart, byte_patch_apart]
  all_goals omega

/-- Only the bytes that the entry decides are written. -/
theorem byte_encode_free (record : ScanRecord) (fits : entry.Fits) (inside : index < 44)
    (beside : index < 12 ∨ 12 + entry.name.length ≤ index) (unpacked : index ≠ 8 ∧ index ≠ 9) :
    (record.encode entry).byte index = record.byte index := by
  have within : index < 50 := by omega
  rw [byte_encode record fits inside beside, pack, byte_patch_ne _ (by decide) within unpacked.2,
    byte_patch_ne _ (by decide) within unpacked.1]

theorem encode_laidOut (record : ScanRecord) (fits : entry.Fits) :
    (record.encode entry).LaidOut entry := by
  have name := fits.name
  have station := fits.station
  constructor
  · have packed : 2 * entry.strength.toNat + entry.valid.toNat < UInt8.size := by
      have strength := fits.strength
      have bit := Bool.toNat_lt entry.valid
      rw [UInt8.size]
      omega
    rw [byte_encode record fits (by decide) (.inl (by decide)), pack,
      byte_patch_ne _ (by decide) (by decide) (by decide), byte_patch _ (by decide),
      UInt8.toNat_ofNat_of_lt' packed]
  · have packed : 4 * entry.name.length + entry.security.toNat < UInt8.size := by
      have security := fits.security
      rw [UInt8.size]
      omega
    rw [byte_encode record fits (by decide) (.inl (by decide)), pack, byte_patch _ (by decide),
      UInt8.toNat_ofNat_of_lt' packed]
  · rw [encode, window_patch_apart (by omega) (.inl (by omega)), window_patch (by omega)]
  · have written := @window_patch ((record.pack entry).patch 12 entry.name) 44 entry.station
      (by omega)
    rwa [station] at written

/-! ### Writing what was read -/

/-- What was read leaves all as it was, except that the length for the name is one that a name can
have. -/
theorem encode_decode_eq (record : ScanRecord) :
    record.encode record.decode =
      record.patch 9 [.ofNat (4 * min record.nameLength 32 + (record.byte 9).toNat % 4)] := by
  have first : record.patch 8 [.ofNat (2 * record.decode.strength.toNat +
      record.decode.valid.toNat)] = record := by
    rw [toNat_strength_decode, toNat_valid_decode, Nat.div_add_mod, UInt8.ofNat_toNat,
      ← window_one (by decide), patch_window (by decide)]
  rw [encode, pack, first, length_name_decode, toNat_security_decode]
  generalize UInt8.ofNat (4 * min record.nameLength 32 + (record.byte 9).toNat % 4) = packed
  have name : record.decode.name =
      (record.patch 9 [packed]).window 12 (min record.nameLength 32) := by
    rw [name_decode]
    exact (window_patch_byte packed (by decide) (.inr (by decide))).symm
  have station : record.decode.station = (record.patch 9 [packed]).window 44 6 := by
    rw [station_decode]
    exact (window_patch_byte packed (by decide) (.inr (by decide))).symm
  rw [name, patch_window (by omega), station, patch_window (by decide)]

theorem patch_nameLength (record : ScanRecord) :
    record.patch 9 [.ofNat (4 * record.nameLength + (record.byte 9).toNat % 4)] = record := by
  rw [nameLength, Nat.div_add_mod, UInt8.ofNat_toNat, ← window_one (by decide),
    patch_window (by decide)]

/-! ### Both ways -/

/-- How a record is read and written. -/
structure ReadsBack (record : ScanRecord) : Prop where
  /-- An entry is read off every record that is laid out for it. -/
  decode_eq : ∀ entry : ScanEntry, entry.Fits → record.LaidOut entry → record.decode = entry
  /-- An entry that is written is read back, and the bytes that it does not decide are kept. -/
  written : ∀ entry : ScanEntry, entry.Fits →
    (record.encode entry).LaidOut entry ∧ (record.encode entry).decode = entry ∧
    ∀ index < 44, index < 12 ∨ 12 + entry.name.length ≤ index → index ≠ 8 ∧ index ≠ 9 →
      (record.encode entry).byte index = record.byte index
  /-- Whatever is in a record, what is read off it is an entry that could be written. -/
  fits : record.decode.Fits
  /-- The name is read off the bytes before the station address, whatever length is given. -/
  name_eq : record.decode.name = (record.window 12 32).take (min record.nameLength 32)
  name_apart : ∀ station : List UInt8, station.length = 6 →
    (record.patch 44 station).decode.name = record.decode.name
  encode_decode : record.nameLength ≤ 32 → record.encode record.decode = record
  /-- A length that no name can have becomes that of the longest name. -/
  encode_decode_cut : 32 < record.nameLength →
    record.encode record.decode = record.patch 9 [.ofNat (4 * 32 + (record.byte 9).toNat % 4)]

/-- What is written into a record is read back, and what is read off a record is what is in it, up
to a length for the name that no name can have. -/
theorem decode_readsBack (record : ScanRecord) : ReadsBack record where
  decode_eq entry fits laid := laid.decode_eq fits
  written entry fits := by
    have laid := record.encode_laidOut fits
    exact ⟨laid, laid.decode_eq fits, fun index inside beside unpacked ↦
      record.byte_encode_free fits inside beside unpacked⟩
  fits := record.decode_fits
  name_eq := by
    rw [take_window, name_decode]
    congr 1
    omega
  name_apart station six := by
    have length : (record.patch 44 station).nameLength = record.nameLength := by
      rw [nameLength, byte_patch_apart (by omega) (by decide) (.inl (by decide)), nameLength]
    rw [name_decode, name_decode, length, window_patch_apart (by omega) (.inl (by omega))]
  encode_decode short := by
    rw [encode_decode_eq, Nat.min_eq_left short, patch_nameLength]
  encode_decode_cut long := by
    rw [encode_decode_eq, Nat.min_eq_right (Nat.le_of_lt long)]

example : (blank.patch 9 [0xFF]).encode (blank.patch 9 [0xFF]).decode = blank.patch 9 [0x83] := by
  decide +kernel

end ScanRecord

end SpiWifi.Wlan
