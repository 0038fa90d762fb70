import SpiWifi.Bench.Chip
import SpiWifi.Proofs.Chip.Moves
import SpiWifi.Proofs.Wlan.Tracing
import SpiWifi.Wlan.Station.Join
import SpiWifi.Wlan.Station.Provision
import SpiWifi.Wlan.Station.Reach

/-!
Everything that can be asked of a station, in any order. Before the station is brought up it
refuses all of it, except that sockets are left to the chip.
-/

set_option autoImplicit false
set_option relaxedAutoImplicit false

namespace SpiWifi.Wlan

open Chip Net

inductive Operation where
  | bringUp (patch : UInt8) (useProfiles : Bool) (name : String)
  | reboot (patch : UInt8)
  | stop
  | disconnect
  | deleteProfiles
  | macAddress
  | setMac (mac : Mac)
  | setStaticIp (ip netmask gateway dns : Ipv4)
  | setDhcp
  | ipAddress
  | ipConfig
  | firmwareVersion
  | linkStatus
  | startScan
  | nextEntry
  | stopScan
  | connectOpen (name : String)
  | connectSecure (name key : String) (security : Security)
  | join (patience : Nat) (name key : String) (security : Security) (attempts : UInt8)
  | smartConfig (patience : Nat) (name : String) (key : Option (Vector UInt8 16))
  | ping (ip : Ipv4) (attempts : UInt8) (timeout : UInt16) (size : UInt8)
  | resolve (name : String)
  | connectTo (kind : SocketKind) (ip : Ipv4) (port : UInt16)

namespace Operation

@[reducible] def Result : Operation → Type
  | macAddress => Except WifiError Mac
  | ipAddress | resolve _ => Except WifiError Ipv4
  | ipConfig => Except WifiError IpConfig
  | firmwareVersion => Except WifiError (UInt8 × UInt8)
  | linkStatus => LinkStatus
  | startScan => Except WifiError UInt32
  | nextEntry => Except WifiError ScanEntry
  | ping _ _ _ _ => UInt32
  | connectTo _ _ _ => Except SocketError Client
  | _ => Except WifiError Unit

variable {σ : Type} [Layer σ]

def perform : (op : Operation) → StationStateM σ op.Result
  | bringUp patch useProfiles name => Station.bringUp patch useProfiles name
  | reboot patch => Station.reboot patch
  | stop => Station.stop
  | disconnect => Station.disconnect
  | deleteProfiles => Station.deleteProfiles
  | macAddress => Station.macAddress
  | setMac mac => Station.setMac mac
  | setStaticIp ip netmask gateway dns => Station.setStaticIp ip netmask gateway dns
  | setDhcp => Station.setDhcp
  | ipAddress => Station.ipAddress
  | ipConfig => Station.ipConfig
  | firmwareVersion => Station.firmwareVersion
  | linkStatus => Station.linkStatus
  | startScan => Station.startScan
  | nextEntry => Station.nextEntry
  | stopScan => Station.stopScan
  | connectOpen name => Station.connectOpen name
  | connectSecure name key security => Station.connectSecure name key security
  | join patience name key security attempts => Station.join patience name key security attempts
  | smartConfig patience name key => Station.smartConfig patience name key
  | ping ip attempts timeout size => Station.ping ip attempts timeout size
  | resolve name => Station.resolve name
  | connectTo kind ip port => Station.connectTo kind ip port

/-- The answer of a station that has not been brought up, where it has one. -/
def refusal? : (op : Operation) → Option op.Result
  | bringUp _ _ _ | connectTo _ _ _ => none
  | linkStatus => some .disconnected
  | ping _ _ _ _ => some 0
  | reboot _ | stop | disconnect | deleteProfiles | macAddress | setMac _
  | setStaticIp _ _ _ _ | setDhcp | ipAddress | ipConfig | firmwareVersion
  | startScan | nextEntry | stopScan | connectOpen _ | connectSecure _ _ _
  | join _ _ _ _ _ | smartConfig _ _ _ | resolve _ => some (.error .notInitialized)

end Operation

namespace Station

variable {σ α : Type} {station : Station σ}

/-- A station that nothing has been asked of. -/
def fresh (layer : σ) (config : Config) : Station σ := { host := { layer }, config }

/-- The station after some operations. -/
def run [Layer σ] (station : Station σ) (ops : List Operation) : Station σ :=
  ops.foldl (fun station op ↦ (op.perform station).2) station

theorem run_append [Layer σ] (station : Station σ) (first second : List Operation) :
    station.run (first ++ second) = (station.run first).run second := List.foldl_append

/-! ### Refusals -/

theorem isInitialized_eq_false_iff :
    station.isInitialized = false ↔ station.stage = .uninitialized := by
  rw [isInitialized, decide_eq_false_iff_not, Decidable.not_not]

theorem requireInitialized_bind_apply (idle : station.isInitialized = false)
    (next : Unit → StationM σ α) :
    (requireInitialized >>= next : StationM σ α) station = (.error .notInitialized, station) := by
  have refused : (requireInitialized : StationM σ Unit) station =
      (.error .notInitialized, station) := by
    show (if station.isInitialized = true then pure () else throw .notInitialized :
      StationM σ Unit) station = _
    rw [if_neg (by rw [idle]; exact Bool.false_ne_true)]
    rfl
  rw [bind_apply, refused]

theorem requireInitialized_bind_of_started (started : station.isInitialized = true)
    (next : Unit → StationM σ α) :
    (requireInitialized >>= next : StationM σ α) station = next () station := by
  have passed : (requireInitialized : StationM σ Unit) station = (.ok (), station) := by
    show (if station.isInitialized = true then pure () else throw .notInitialized :
      StationM σ Unit) station = _
    rw [if_pos started]
    rfl
  rw [bind_apply, passed]

variable [Layer σ]

/-- Only smart config does something before it refuses. -/
theorem perform_refused (idle : station.isInitialized = false) {op : Operation}
    {refusal : op.Result} (refuses : op.refusal? = some refusal)
    (other : ∀ patience name key, op ≠ .smartConfig patience name key) :
    op.perform station = (refusal, station) := by
  have scanWindow (millis : UInt32) : (setScanWindow millis : StationM σ Unit) station =
      (.error .notInitialized, station) := requireInitialized_bind_apply idle _
  have configuration : (ipConfig : StationM σ IpConfig) station =
      (.error .notInitialized, station) := requireInitialized_bind_apply idle _
  cases op with
  | bringUp _ _ _ => cases refuses
  | connectTo _ _ _ => cases refuses
  | smartConfig patience name key => exact absurd rfl (other patience name key)
  | linkStatus =>
    cases refuses
    show (if (!station.isInitialized) = true then pure .disconnected else _ :
      StationStateM σ LinkStatus) station = _
    rw [idle]
    rfl
  | ping _ _ _ _ =>
    cases refuses
    show (if (!(station.isInitialized && station.isLinkUp && station.isLeased)) = true then pure 0
      else _ : StationStateM σ UInt32) station = _
    rw [idle]
    rfl
  | ipAddress =>
    cases refuses
    exact (bind_apply _ _ station).trans (by rw [configuration])
  | stopScan =>
    cases refuses
    exact (bind_apply _ _ station).trans (by rw [scanWindow])
  | _ =>
    cases refuses
    exact requireInitialized_bind_apply idle _

theorem smartConfig_refused (idle : station.isInitialized = false) (patience : Nat) (name : String)
    (key : Option (Vector UInt8 16)) :
    (Operation.smartConfig patience name key).perform station =
      (.error .notInitialized, (onRecord Events.Record.clearFlags station).2) := by
  have still : (onRecord Events.Record.clearFlags station).2.isInitialized = false := idle
  exact requireInitialized_bind_apply still _

/-- Nothing but a bring-up moves a station on from there. -/
theorem stage_perform_of_uninitialized (idle : station.stage = .uninitialized) {op : Operation}
    (other : ∀ patch useProfiles name, op ≠ .bringUp patch useProfiles name) :
    (op.perform station).2.stage = .uninitialized := by
  have down : station.isInitialized = false := isInitialized_eq_false_iff.mpr idle
  have refused {refusal : op.Result} (refuses : op.refusal? = some refusal)
      (plain : ∀ patience name key, op ≠ .smartConfig patience name key) :
      (op.perform station).2.stage = .uninitialized := by
    rw [perform_refused down refuses plain]
    exact idle
  cases op with
  | bringUp patch useProfiles name => exact absurd rfl (other patch useProfiles name)
  | connectTo kind ip port => exact idle
  | smartConfig patience name key =>
    rw [smartConfig_refused down]
    exact idle
  | _ => exact refused rfl nofun

/-- Before it is brought up a station refuses, keeps its stage and asks nothing of the chip. Only
for a socket it runs commands even then; their reports, and the mark of a socket it has opened,
are all that they change. -/
theorem perform_uninitialized (idle : station.stage = .uninitialized) (op : Operation)
    (other : ∀ patch useProfiles name, op ≠ .bringUp patch useProfiles name) :
    (op.perform station).2.stage = .uninitialized ∧
    ((∀ kind ip port, op ≠ .connectTo kind ip port) →
      op.refusal? = some (op.perform station).1 ∧
      ∃ flags, (op.perform station).2 = { station with host.record.flags := flags } ∧
        ((∀ patience name key, op ≠ .smartConfig patience name key) →
          flags = station.host.record.flags)) ∧
    (∀ kind ip port, op = .connectTo kind ip port → ∃ host outcome later closed,
      (op.perform station).2 = { station with host } ∧
      host.history = (⟨.command (.openSocket kind), outcome⟩ :: later).reverse ++
        station.host.history ∧
      (∀ exchange ∈ later, exchange.command?.isSome) ∧
      host.record = { Host.recordAfter station.host.record
        (⟨.command (.openSocket kind), outcome⟩ :: later) with closed }) := by
  have down : station.isInitialized = false := isInitialized_eq_false_iff.mpr idle
  by_cases socket : ∃ kind ip port, op = .connectTo kind ip port
  · obtain ⟨kind, ip, port, rfl⟩ := socket
    refine ⟨idle, fun none ↦ absurd rfl (none kind ip port), ?_⟩
    rintro _ _ _ ⟨⟩
    obtain ⟨outcome, later, closed, traced⟩ := Host.connect_commands kind ip port station.host
    exact ⟨_, outcome, later, closed, rfl, traced⟩
  by_cases smart : ∃ patience name key, op = .smartConfig patience name key
  · obtain ⟨patience, name, key, rfl⟩ := smart
    rw [smartConfig_refused down]
    exact ⟨idle, fun _ ↦ ⟨rfl, {}, rfl, fun none ↦ absurd rfl (none patience name key)⟩, nofun⟩
  · have refuses : ∃ refusal, op.refusal? = some refusal := by
      cases op with
      | bringUp patch useProfiles name => exact absurd rfl (other patch useProfiles name)
      | connectTo kind ip port => exact absurd ⟨kind, ip, port, rfl⟩ socket
      | _ => exact ⟨_, rfl⟩
    obtain ⟨refusal, refuses⟩ := refuses
    rw [perform_refused down refuses fun patience name key same ↦ smart ⟨patience, name, key, same⟩]
    exact ⟨idle, fun _ ↦ ⟨refuses, _, rfl, fun _ ↦ rfl⟩,
      fun kind ip port same ↦ absurd ⟨kind, ip, port, same⟩ socket⟩

/-- A station of a chip that does all it is told to. -/
def newStation : Station Bench.Chip := fresh {} {}

theorem newStation_refuses_scan :
    newStation.stage = .uninitialized ∧
      (∀ patch useProfiles name, Operation.startScan ≠ .bringUp patch useProfiles name) ∧
      (Operation.startScan.perform newStation).1 = .error .notInitialized ∧
      (Operation.startScan.perform newStation).2.host.history = [] := by
  have quiet := perform_uninitialized (rfl : newStation.stage = .uninitialized) .startScan nofun
  obtain ⟨answer, flags, after, -⟩ := quiet.2.1 nofun
  exact ⟨rfl, nofun, (Option.some.inj answer).symm, by rw [after]; rfl⟩

theorem newStation_connects :
    newStation.stage = .uninitialized ∧
      commands
          ((Operation.connectTo .tcp .unspecified 80).perform newStation).2.host.history.reverse =
        [.openSocket .tcp, .connectSocket 0 (.internet .unspecified 80)] :=
  ⟨rfl, by decide +kernel⟩

end Station

end SpiWifi.Wlan
