import SpiWifi.Wire.Endian

/-!
The fifty-byte record in which the chip reports one access point. Byte 8 packs
the signal strength with a validity bit, byte 9 the length of the name with the
security mode; the name starts at byte 12 and the station address at byte 44.
The first record of a scan opens with the number of networks found.
-/

set_option autoImplicit false
set_option relaxedAutoImplicit false

namespace SpiWifi.Wlan

/-- The longest network name and the longest key the chip accepts, in bytes. -/
def nameLimit : Nat := 32
def keyLimit : Nat := 32

def scanRecordSize : Nat := 50

abbrev ScanRecord : Type := Vector UInt8 scanRecordSize

/-- The hardware address of a station. -/
abbrev Mac : Type := Vector UInt8 6

structure ScanEntry where
  valid : Bool
  strength : UInt8
  /-- The security mode as the chip numbers it. -/
  security : UInt8
  name : List UInt8
  station : List UInt8
  deriving DecidableEq

namespace ScanEntry

def strengthOffset : Nat := 8
def nameLengthOffset : Nat := 9
def nameOffset : Nat := 12
def stationOffset : Nat := 44

/-- The name as text, if it is valid UTF-8. -/
def text? (entry : ScanEntry) : Option String := String.fromUTF8? ⟨entry.name.toArray⟩

end ScanEntry

namespace ScanRecord

open ScanEntry

/-- A record that holds nothing. -/
def blank : ScanRecord := Vector.replicate scanRecordSize 0

def byte (record : ScanRecord) (index : Nat) : UInt8 := record.getD index 0

/-- Reads a record. A name longer than the region of the name is cut to it. -/
def decode (record : ScanRecord) : ScanEntry where
  valid := record.byte strengthOffset &&& 1 != 0
  strength := record.byte strengthOffset >>> 1
  security := record.byte nameLengthOffset &&& 3
  name :=
    (record.toList.drop nameOffset).take (min (record.byte nameLengthOffset >>> 2).toNat nameLimit)
  station := (record.toList.drop stationOffset).take 6

/-- The number of networks that a scan found, from its first record. -/
def networkCount (record : ScanRecord) : UInt32 :=
  UInt32.ofNat (Wire.ofLittle (record.toList.take 4))

end ScanRecord

end SpiWifi.Wlan
