import SpiWifi.Events.Record
import SpiWifi.Overlay
import SpiWifi.Saturating

/-!
Where incoming packets go: an unsolicited event is applied to the record, every
other packet becomes the one pending response. A response that nobody took
before the next one came is counted as dropped.
-/

set_option autoImplicit false
set_option relaxedAutoImplicit false

namespace SpiWifi

/-- The longest response that is kept; a longer packet is cut. -/
def Inbox.responseLimit : Nat := 131

structure Inbox where
  record : Events.Record := {}
  response : Option (List UInt8) := none
  dropped : UInt32 := 0

namespace Inbox

open Wire

/-- The event in a packet, if the chip sent it on its own initiative. -/
def unsolicited? (packet : List UInt8) : Option Event :=
  (Event.ofPacket? packet).filter Event.isUnsolicited

def deliver (inbox : Inbox) (packet : List UInt8) : Inbox :=
  match unsolicited? packet with
  | some event => { inbox with record := inbox.record.apply event.opcode event.args }
  | none =>
    { inbox with
      response := some (packet.take responseLimit)
      dropped := if inbox.response.isSome then saturatingAdd inbox.dropped 1 else inbox.dropped }

/-- Copies the pending response over the front of `buffer` and forgets it. The
length is that of the whole response, whether it fits or not. -/
def take (inbox : Inbox) (buffer : List UInt8) : Option Nat × List UInt8 × Inbox :=
  match inbox.response with
  | none => (none, buffer, inbox)
  | some response =>
    (some response.length, overlay buffer 0 response, { inbox with response := none })

/-- Forgets the pending response and the count, and keeps the record. -/
def clearResponses (inbox : Inbox) : Inbox := { record := inbox.record }

end Inbox

end SpiWifi
