import SpiWifi.Chip.Host
import SpiWifi.Wlan.Config

/-!
A station of the wireless network: it brings the chip up and sequences its
commands. Every wait polls the chip between its pauses.
-/

set_option autoImplicit false
set_option relaxedAutoImplicit false

namespace SpiWifi.Wlan

open Chip

inductive WifiError where
  /-- The chip has not been brought up. -/
  | notInitialized
  /-- Refused before it reached the chip. -/
  | invalidArgument
  /-- The configured pin cannot interrupt. -/
  | pinNotMapped
  /-- There is no link with a lease, or no address. -/
  | notConnected
  | timeout
  | command (status : Status)
  /-- The link did not change in as many attempts as the caller allows. -/
  | outOfPatience
  deriving DecidableEq

/-- How far a station has come. -/
inductive Stage where
  | uninitialized
  | initialized
  | scanning
  | connecting
  | connected
  | disconnected
  deriving DecidableEq

structure Station (σ : Type) where
  host : Host σ
  config : Config
  stage : Stage := .uninitialized
  /-- The scan record fetched last. -/
  scanRecord : ScanRecord := ScanRecord.blank

/-- What works on a station and cannot fail. -/
abbrev StationStateM (σ α : Type) : Type := StateM (Station σ) α

abbrev StationM (σ α : Type) : Type := ExceptT WifiError (StationStateM σ) α

namespace Station

variable {σ α : Type}

def isInitialized (station : Station σ) : Bool := station.stage ≠ .uninitialized

def isLinkUp (station : Station σ) : Bool := station.host.record.flags.linkUp

def isLeased (station : Station σ) : Bool := station.host.record.flags.leased

/-- The stage as others see it: a station that has lost its link is disconnected. -/
def visibleStage (station : Station σ) : Stage :=
  if station.stage = .connected ∧ !station.isLinkUp then .disconnected else station.stage

def onHost (work : HostM σ α) : StationStateM σ α := do
  let station ← get
  let (answer, host) := work station.host
  set { station with host }
  return answer

def onRecord (f : Events.Record → Events.Record) : StationStateM σ Unit :=
  onHost (Host.onRecord f)

def enter (stage : Stage) : StationStateM σ Unit := modify ({ · with stage })

def requireInitialized : StationM σ Unit := do
  unless (← get).isInitialized do throw .notInitialized

def requireLease : StationM σ Unit := do
  let station ← get
  unless station.isLinkUp && station.isLeased do throw .notConnected

variable [Layer σ]

def poll : StationStateM σ Unit := onHost Host.poll

def pause (millis : UInt32) : StationStateM σ Unit := onHost (Host.pause millis)

def ask (request : Command) : StationStateM σ (Except Status request.Answer) :=
  onHost (Host.command request)

/-- Runs a command and fails with its status. -/
def command (request : Command) : StationM σ request.Answer := do
  match ← ask (σ := σ) request with
  | .ok answer => return answer
  | .error status => throw (.command status)

/-- Runs a command whose failure changes nothing. -/
def tryCommand (request : Command) : StationStateM σ Unit := discard (ask request)

/-- Polls until the record shows `done` or `timeout` has passed. -/
def waitUntil (timeout : UInt32) (done : Events.Record → Bool) : StationStateM σ Bool := do
  let step := (← get).config.pollInterval
  onHost (Host.waitLoop done step timeout 0)

/-- Lets time pass while the chip is served. -/
def settle (millis : UInt32) : StationStateM σ Unit := discard (waitUntil millis fun _ ↦ false)

/-- Polls for what must come within `timeout`. -/
def await (timeout : UInt32) (done : Events.Record → Bool) : StationM σ Unit := do
  unless ← waitUntil (σ := σ) timeout done do throw .timeout

def awaitLink : StationM σ Unit := do
  await (← get).config.connectTimeout (·.flags.linkUp)

/-- Stops the chip, leaves it off for a while, and starts it again. -/
def powerCycle (off : UInt32) (patch : UInt8) : StationM σ Unit := do
  command .stop
  settle (σ := σ) off
  command (.start patch)

/-- Waits a little for a lease, and with one makes the name known. Whether that
works out changes nothing. -/
def advertise (name : String) : StationStateM σ Unit := do
  let leased ← waitUntil (← get).config.linkSettle (·.flags.leased)
  if leased && !name.isEmpty then
    tryCommand (.advertise name.toUTF8.data.toList)

end Station

end SpiWifi.Wlan
