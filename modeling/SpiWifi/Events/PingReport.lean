import SpiWifi.Wire.Endian

/-!
The chip's report on a ping request: five 32-bit numbers in little-endian order.
Bytes that a short report leaves out read as zero, and bytes past the fifth
number are ignored.
-/

set_option autoImplicit false
set_option relaxedAutoImplicit false

namespace SpiWifi.Events

structure PingReport where
  sent : UInt32 := 0
  received : UInt32 := 0
  minRoundTrip : UInt32 := 0
  maxRoundTrip : UInt32 := 0
  avgRoundTrip : UInt32 := 0
  deriving DecidableEq

namespace PingReport

def word (bytes : List UInt8) (index : Nat) : UInt32 :=
  UInt32.ofNat (Wire.ofLittle ((bytes.drop (4 * index)).take 4))

def decode (bytes : List UInt8) : PingReport where
  sent := word bytes 0
  received := word bytes 1
  minRoundTrip := word bytes 2
  maxRoundTrip := word bytes 3
  avgRoundTrip := word bytes 4

def encode (report : PingReport) : List UInt8 :=
  [report.sent, report.received, report.minRoundTrip, report.maxRoundTrip,
    report.avgRoundTrip].flatMap fun field ↦ Wire.toLittle 4 field.toNat

/-- Bytes of a whole report. -/
def size : Nat := 20

/-- Four bytes of a report, with zeros for those that a short one leaves out. -/
theorem toLittle_word {bytes : List UInt8} {index : Nat} (inside : 4 * index + 4 ≤ size) :
    Wire.toLittle 4 (word bytes index).toNat =
      ((bytes ++ List.replicate size 0).drop (4 * index)).take 4 := by
  have short : ((bytes.drop (4 * index)).take 4).length ≤ 4 := List.length_take_le ..
  have small : Wire.ofLittle ((bytes.drop (4 * index)).take 4) < UInt32.size :=
    Wire.ofLittle_lt_word short
  have left : min (4 - (bytes.length - 4 * index)) (size - (4 * index - bytes.length)) =
      4 - min 4 (bytes.length - 4 * index) := by omega
  rw [word, UInt32.toNat_ofNat', Nat.mod_eq_of_lt small, Wire.toLittle_ofLittle_short short,
    List.drop_append, List.take_append, List.drop_replicate, List.take_replicate, List.length_take,
    List.length_drop, left]

/-- The report holds the first five words of the bytes. -/
theorem encode_decode (bytes : List UInt8) :
    (decode bytes).encode = (bytes ++ List.replicate size 0).take size := by
  have windows (padded : List UInt8) : padded.take size =
      (padded.drop 0).take 4 ++ ((padded.drop 4).take 4 ++ ((padded.drop 8).take 4 ++
        ((padded.drop 12).take 4 ++ (padded.drop 16).take 4))) := by
    rw [show size = 4 + (4 + (4 + (4 + 4))) from rfl]
    simp only [List.take_add, List.drop_drop, List.drop_zero]
  rw [windows, encode]
  simp only [decode, List.flatMap_cons, List.flatMap_nil, List.append_nil]
  rw [toLittle_word (by decide), toLittle_word (by decide), toLittle_word (by decide),
    toLittle_word (by decide), toLittle_word (by decide)]

end PingReport

end SpiWifi.Events
