import SpiWifi.Wire.Packet

/-!
Event packets: a 16-bit opcode, a length that counts the status byte and the
arguments, the status byte, the arguments. Events with an unsolicited opcode
arrive on the chip's own initiative; all others answer a command.
-/

set_option autoImplicit false
set_option relaxedAutoImplicit false

namespace SpiWifi.Wire

namespace Opcode

/-- The bit that marks the chip's own reports. -/
def reportBit : UInt16 := 0x4000

def linkUp : UInt16 := reportBit + 0x0001
def linkDown : UInt16 := reportBit + 0x0002
def chipStarted : UInt16 := reportBit + 0x0004
def sendComplete : UInt16 := reportBit + 0x0008
def leaseBound : UInt16 := reportBit + 0x0010
def pingReport : UInt16 := reportBit + 0x0040
def buffersFreed : UInt16 := reportBit + 0x0100
def keepAlive : UInt16 := reportBit + 0x0200
def peerClosed : UInt16 := reportBit + 0x0800
def smartConfigDone : UInt16 := 0x8080
def mayShutDown : UInt16 := 0x0099

/-- Whether an event with this opcode arrives without a pending command. -/
def isUnsolicited (opcode : UInt16) : Bool :=
  opcode &&& reportBit != 0 || opcode == smartConfigDone || opcode == mayShutDown

end Opcode

structure Event where
  opcode : UInt16
  status : UInt8
  args : List UInt8
  deriving DecidableEq

namespace Event

/-- The event packet with the given length byte. -/
def packetWith (event : Event) (count : UInt8) : List UInt8 :=
  PacketKind.event.tag :: toLittle 2 event.opcode.toNat ++ count :: event.status :: event.args

/-- The event packet; the length byte counts the status byte and the arguments modulo 256. -/
def packet (event : Event) : List UInt8 := event.packetWith (UInt8.ofNat (event.args.length + 1))

/-- Reads an event packet. The arguments end where the length byte says, at the
latest where the packet ends. -/
def ofPacket? : List UInt8 → Option Event
  | kind :: low :: high :: count :: status :: rest =>
    if PacketKind.ofTag kind = .event then
      some ⟨UInt16.ofNat (ofLittle [low, high]), status, rest.take (count.toNat - 1)⟩
    else
      none
  | _ => none

def isUnsolicited (event : Event) : Bool := Opcode.isUnsolicited event.opcode

end Event

end SpiWifi.Wire
