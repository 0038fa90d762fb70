import SpiWifi.Wlan.Station.Setup

/-!
Smart config: the chip listens for the credentials of a network that a phone
application sends out, stores them as a profile, and connects from it.
-/

set_option autoImplicit false
set_option relaxedAutoImplicit false

namespace SpiWifi.Wlan.Station

open Chip

variable {σ : Type} [Layer σ]

/-- Asks the chip to disconnect until the link is down, at most `patience` times. -/
def dropLink (patience : Nat) : StationM σ Unit := do
  if !(← get).isLinkUp then
    return ()
  match patience with
  | 0 => throw .outOfPatience
  | patience + 1 =>
    poll (σ := σ)
    command .disconnect
    pause (σ := σ) (← get).config.pollInterval
    dropLink patience

/-- Receives credentials. With a key what comes in is encrypted and is decrypted
on the chip. -/
def listenForCredentials (key : Option (Vector UInt8 16)) : StationM σ Unit := do
  command .createKeyEntry
  if let some key := key then
    command (.writeKey key)
  command (.setSmartConfigTag smartConfigTag)
  command (.startSmartConfig key.isSome)
  await (← get).config.smartConfigTimeout (·.flags.smartConfigDone)
  if key.isSome then
    command .processSmartConfig

/-- Provisions the station. The status flags are cleared before anything else is
looked at, so that only what is reported from now on counts. -/
def smartConfig (patience : Nat) (name : String) (key : Option (Vector UInt8 16)) :
    StationM σ Unit := do
  onRecord (σ := σ) Events.Record.clearFlags
  requireInitialized
  forgetNetworks
  dropLink patience
  powerCycle (← get).config.restartDelay 0
  listenForCredentials key
  command (.setPolicy .stored)
  powerCycle (← get).config.restartDelay 0
  command (.setEventMask maskedEvents)
  awaitLink
  enter (σ := σ) .connected
  advertise (σ := σ) name

end SpiWifi.Wlan.Station
