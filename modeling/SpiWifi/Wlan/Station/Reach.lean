import SpiWifi.Wlan.Station
import SpiWifi.Net.Client

/-!
Reaching other hosts: pings, names, and sockets.
-/

set_option autoImplicit false
set_option relaxedAutoImplicit false

namespace SpiWifi.Wlan.Station

open Chip Net

variable {σ : Type} [Layer σ]

/-- Pings an address and returns the number of answers. The chip has twice the
time that the pings may take to report; without a report the number is zero.
Reports that came in earlier are forgotten. -/
def ping (ip : Ipv4) (attempts : UInt8) (timeout : UInt16) (size : UInt8) :
    StationStateM σ UInt32 := do
  let station ← get
  if !(station.isInitialized && station.isLinkUp && station.isLeased) then
    return 0
  onRecord Events.Record.resetPing
  let request := Command.sendPing ip.reversedWord attempts.toUInt32 size.toUInt32 timeout.toUInt32
  match ← ask request with
  | .error _ => return 0
  | .ok _ =>
    discard (waitUntil (timeout.toUInt32 * attempts.toUInt32 * 2) (0 < ·.pingCount))
    let record := (← get).host.record
    return if record.pingCount = 0 then 0 else record.ping.received

/-- Resolves a host name with the chip's own client. -/
def resolve (name : String) : StationM σ Ipv4 := do
  requireInitialized
  requireLease
  command (.resolve name.toUTF8.data.toList)

/-- Opens a connection; whether the chip is up is left to the chip. -/
def connectTo (kind : SocketKind) (ip : Ipv4) (port : UInt16) :
    StationStateM σ (Except SocketError Client) :=
  onHost (Client.connect kind ip port)

end SpiWifi.Wlan.Station
