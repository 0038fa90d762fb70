/-!
Which interrupt channel of the host a pin is wired to, for a few boards.
-/

set_option autoImplicit false
set_option relaxedAutoImplicit false

namespace SpiWifi

inductive InterruptMap where
  /-- Pairs of pin and channel. -/
  | table (pairs : List (UInt8 × UInt8))
  /-- Every pin can interrupt, on the channel of its own number. -/
  | identity
  deriving DecidableEq

namespace InterruptMap

def atmega328 : InterruptMap := .table [(2, 0), (3, 1)]

def atmega2560 : InterruptMap :=
  .table [(2, 0), (3, 1), (21, 2), (20, 3), (19, 4), (18, 5)]

def atmega32u4 : InterruptMap := .table [(7, 4), (3, 0), (2, 1), (0, 2), (1, 3)]

def teensy2 : InterruptMap := .table [(5, 0), (6, 1), (7, 2), (8, 3)]

def teensyPlusPlus2 : InterruptMap :=
  .table [(0, 0), (1, 1), (2, 2), (3, 3), (36, 4), (37, 5), (18, 6), (19, 7)]

/-- The channel of a pin. Where a table lists a pin twice, the later pair counts. -/
def channel? (map : InterruptMap) (pin : UInt8) : Option UInt8 :=
  match map with
  | .identity => some pin
  | .table pairs => pairs.reverse.lookup pin

end InterruptMap

end SpiWifi
