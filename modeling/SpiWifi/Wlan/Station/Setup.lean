import SpiWifi.Wlan.Station

/-!
Bringing the chip up, restarting it, and its addresses.
-/

set_option autoImplicit false
set_option relaxedAutoImplicit false

namespace SpiWifi.Wlan.Station

open Chip Net

variable {σ : Type} [Layer σ]

/-- How the chip shall connect on its own. Without stored profiles those it has
are erased. A chip that refuses is brought up all the same. -/
def choosePolicy (useProfiles : Bool) : StationStateM σ Unit := do
  if useProfiles then
    tryCommand (.setPolicy .stored)
  else
    tryCommand (.setPolicy .manual)
    tryCommand .deleteProfiles

/-- Brings the chip up, once. With stored profiles it connects on its own; this
waits for the link and makes the device name known. -/
def bringUp (patch : UInt8) (useProfiles : Bool) (name : String) : StationM σ Unit := do
  if (← get).isInitialized then
    return ()
  let some channel := (← get).config.channel? | throw .pinNotMapped
  command (.attach channel)
  command (.start patch)
  choosePolicy (σ := σ) useProfiles
  command (.setEventMask maskedEvents)
  enter (σ := σ) .initialized
  if useProfiles then
    awaitLink
    enter (σ := σ) .connected
    advertise (σ := σ) name

def reboot (patch : UInt8) : StationM σ Unit := do
  requireInitialized
  powerCycle (← get).config.rebootDelay patch

def stop : StationM σ Unit := do
  requireInitialized
  command .stop

def disconnect : StationM σ Unit := do
  requireInitialized
  command .disconnect
  enter (σ := σ) .disconnected

/-- Makes the chip connect on request only, and erases its profiles. -/
def forgetNetworks : StationM σ Unit := do
  command (.setPolicy .manual)
  command .deleteProfiles

def deleteProfiles : StationM σ Unit := do
  requireInitialized
  forgetNetworks

def macAddress : StationM σ Mac := do
  requireInitialized
  command .readMac

/-- Stores a hardware address and restarts the chip with it. An address that
starts with zero is refused. -/
def setMac (mac : Mac) : StationM σ Unit := do
  requireInitialized
  if mac[0] = 0 then
    throw .invalidArgument
  command (.writeMac mac)
  powerCycle (← get).config.applyDelay 0

/-- Stores a network configuration and restarts the chip with it. -/
def setStaticIp (ip netmask gateway dns : Ipv4) : StationM σ Unit := do
  requireInitialized
  command (.configureIp ip.reversedWord netmask.reversedWord gateway.reversedWord
    dns.reversedWord)
  powerCycle (← get).config.applyDelay 0

def setDhcp : StationM σ Unit :=
  setStaticIp .unspecified .unspecified .unspecified .unspecified

def ipConfig : StationM σ IpConfig := do
  requireInitialized
  requireLease
  command .ipConfig

/-- The station's address. One that starts with zero is not assigned. -/
def ipAddress : StationM σ Ipv4 := do
  let config ← ipConfig
  if config.ip.a = 0 then
    throw .notConnected
  return config.ip

/-- The version of the chip's firmware, major and minor. -/
def firmwareVersion : StationM σ (UInt8 × UInt8) := do
  requireInitialized
  command .firmwareVersion

/-- The chip's own view of its link. Whatever keeps it from answering counts as
disconnected. -/
def linkStatus : StationStateM σ LinkStatus := do
  if !(← get).isInitialized then
    return .disconnected
  match ← ask .linkStatus with
  | .ok raw => return .ofRaw raw
  | .error _ => return .disconnected

end SpiWifi.Wlan.Station
