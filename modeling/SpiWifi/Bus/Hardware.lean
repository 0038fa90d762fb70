/-!
The boundary to the hardware. The bus engine makes one call at a time and the
board answers each; a board may fail any call, raise an edge during any call,
answer with any bytes, and write over a buffer's guard. Handing a packet to the
receiver is a call too, so that one history tells when it happened.
-/

set_option autoImplicit false
set_option relaxedAutoImplicit false

namespace SpiWifi.Bus

inductive Call where
  /-- Chip-select low. -/
  | select
  /-- Chip-select high. -/
  | release
  | write (bytes : List UInt8)
  /-- Clocks bytes out while clocking as many in. -/
  | exchange (outgoing : List UInt8)
  | flush
  /-- Reads the level of the chip's interrupt line. -/
  | sampleLine
  | powerOn
  | powerOff
  | pauseMicros (duration : UInt32)
  | pauseMillis (duration : UInt32)
  /-- Hands a packet to the receiver. -/
  | deliver (packet : List UInt8)
  deriving DecidableEq

/-- The parts of the board that can report a failure. -/
inductive Part where
  | spi
  | chipSelect
  | interruptLine
  | powerPin
  deriving DecidableEq

/-- The part a call goes to. Pauses and deliveries cannot fail. -/
def Call.part? : Call → Option Part
  | .select | .release => some .chipSelect
  | .write _ | .exchange _ | .flush => some .spi
  | .sampleLine => some .interruptLine
  | .powerOn | .powerOff => some .powerPin
  | .pauseMicros _ | .pauseMillis _ | .deliver _ => none

structure Reply where
  failed : Bool := false
  /-- An edge came on the interrupt line during the call. -/
  edge : Bool := false
  /-- The level that `sampleLine` asks for. -/
  low : Bool := false
  /-- The bytes that `exchange` asks for; those past the window are ignored. -/
  incoming : List UInt8 := []
  /-- New content of the guard byte behind the receive buffer. -/
  receiveGuard : Option UInt8 := none
  /-- New content of the guard byte behind the transmit buffer. -/
  transmitGuard : Option UInt8 := none
  deriving DecidableEq

/-- Whatever answers the calls: its state is part of the engine's. -/
class Board (σ : Type) where
  respond : Call → σ → Reply × σ

/-- One call of a history, with its reply and what the engine had set when it
made the call. -/
structure Entry where
  call : Call
  reply : Reply
  /-- Whether the edge latch was armed. -/
  armed : Bool
  /-- Whether the interrupt was enabled. -/
  enabled : Bool
  deriving DecidableEq

end SpiWifi.Bus
