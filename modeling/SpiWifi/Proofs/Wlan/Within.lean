import SpiWifi.Proofs.Wlan.Operations

/-!
Operations as chains of steps. What holds from any station to itself, from one station to a third
by way of a second, and over each of the few steps that operations are made of, holds over every
operation. Scan records are fetched by the two operations of a scan alone.
-/

set_option autoImplicit false
set_option relaxedAutoImplicit false

namespace SpiWifi.Wlan

open Chip

/-- The operation fetches scan records. -/
def Operation.fetches : Operation → Bool
  | startScan | nextEntry => true
  | _ => false

namespace Station

variable {σ α β : Type} {reach : Station σ → Station σ → Prop}

/-- Something holds between a station before the operation and after it. -/
def Within (reach : Station σ → Station σ → Prop) (op : StationStateM σ α) : Prop :=
  ∀ station, reach station (op station).2

/-- What looks at the station first is seen through if that is so whatever it sees. -/
theorem within_get {next : Station σ → StationStateM σ α}
    (within : ∀ station, Within reach (next station)) : Within reach (get >>= next) :=
  fun station ↦ within station station

theorem within_view {next : Station σ → StationM σ α}
    (within : ∀ station, Within reach (next station)) :
    Within reach (get >>= next : StationM σ α) := fun station ↦ within station station

theorem within_observing {op : StationM σ α} (within : Within reach op) :
    Within reach (observing op : StationM σ (Except WifiError α)) := by
  intro station
  rw [observing_apply]
  exact within station

theorem within_ignore {op : StationM σ α} (within : Within reach op) :
    Within reach (discard (observing op) : StationM σ Unit) := by
  intro station
  rw [discard_observing_apply]
  exact within station

variable [Layer σ]

/-- What holds between a station before and after each step of an operation, and over many steps if
it holds over each. -/
class Spans (reach : Station σ → Station σ → Prop) : Prop where
  refl (station : Station σ) : reach station station
  trans {before middle after : Station σ} (first : reach before middle)
    (second : reach middle after) : reach before after
  poll (station : Station σ) : reach station (poll station).2
  /-- A command, other than one that fetches a scan record. -/
  ask (request : Command) (other : request ≠ .scanResult) (station : Station σ) :
    reach station (ask request station).2
  waitUntil (timeout : UInt32) (done : Events.Record → Bool) (station : Station σ) :
    reach station (waitUntil timeout done station).2
  /-- A pause once the chip has been served and has run a command. -/
  pause (request : Command) (station : Station σ) :
    reach (Station.ask request (Station.poll station).2).2
      (Station.pause station.config.pollInterval
        (Station.ask request (Station.poll station).2).2).2
  enter (stage : Stage) (running : stage ≠ .uninitialized) (station : Station σ) :
    reach station (station.inStage stage)
  clearFlags (station : Station σ) :
    reach station (onRecord Events.Record.clearFlags station).2
  resetPing (station : Station σ) : reach station (onRecord Events.Record.resetPing station).2
  connect (kind : SocketKind) (ip : Net.Ipv4) (port : UInt16) (station : Station σ) :
    reach station (connectTo kind ip port station).2

variable [Spans reach]

theorem Within.andThen {op : StationStateM σ α} {next : α → StationStateM σ β}
    (first : Within reach op) (second : ∀ value, Within reach (next value)) :
    Within reach (op >>= next) :=
  fun station ↦ Spans.trans (first station) (second _ _)

theorem Within.bind {op : StationM σ α} {next : α → StationM σ β} (first : Within reach op)
    (second : ∀ value, Within reach (next value)) : Within reach (op >>= next : StationM σ β) := by
  intro station
  rw [bind_apply]
  have led := first station
  split
  · next h =>
    rw [h] at led
    exact Spans.trans led (second _ _)
  · next h =>
    rw [h] at led
    exact led

theorem Within.lift {op : StationStateM σ α} {next : α → StationM σ β} (first : Within reach op)
    (second : ∀ value, Within reach (next value)) :
    Within reach (liftM op >>= next : StationM σ β) :=
  fun station ↦ Spans.trans (first station) (second _ _)

theorem within_pure (value : α) : Within reach (pure value : StationStateM σ α) := Spans.refl

theorem within_return (value : α) : Within reach (pure value : StationM σ α) := Spans.refl

theorem within_throw (failure : WifiError) : Within reach (throw failure : StationM σ α) :=
  Spans.refl

theorem within_enter (stage : Stage) (running : stage ≠ .uninitialized) :
    Within reach (enter (σ := σ) stage) := Spans.enter stage running

theorem within_poll : Within reach (poll (σ := σ)) := Spans.poll

theorem within_ask {request : Command} (other : request ≠ .scanResult) :
    Within reach (ask (σ := σ) request) := Spans.ask request other

theorem within_command {request : Command} (other : request ≠ .scanResult) :
    Within reach (command (σ := σ) request) :=
  (within_ask other).lift fun
    | .ok answer => within_return answer
    | .error status => within_throw (.command status)

theorem within_tryCommand {request : Command} (other : request ≠ .scanResult) :
    Within reach (tryCommand (σ := σ) request) := Spans.ask request other

theorem within_waitUntil (timeout : UInt32) (done : Events.Record → Bool) :
    Within reach (waitUntil (σ := σ) timeout done) := Spans.waitUntil timeout done

theorem within_settle (millis : UInt32) : Within reach (settle (σ := σ) millis) :=
  within_waitUntil millis _

theorem within_await (timeout : UInt32) (done : Events.Record → Bool) :
    Within reach (await (σ := σ) timeout done) := by
  refine (within_waitUntil timeout done).lift fun met ↦ ?_
  split
  · exact within_return ()
  · exact within_throw .timeout

theorem within_requireInitialized : Within reach (requireInitialized (σ := σ)) := by
  refine within_view fun station ↦ ?_
  split
  · exact within_return ()
  · exact within_throw .notInitialized

theorem within_requireLease : Within reach (requireLease (σ := σ)) := by
  refine within_view fun station ↦ ?_
  split
  · exact within_return ()
  · exact within_throw .notConnected

theorem within_powerCycle (off : UInt32) (patch : UInt8) :
    Within reach (powerCycle (σ := σ) off patch) :=
  (within_command (by nofun)).bind fun _ ↦ (within_settle off).lift fun _ ↦
    within_command (by nofun)

theorem within_advertise (name : String) : Within reach (advertise (σ := σ) name) := by
  refine within_get fun station ↦ (within_waitUntil _ _).andThen fun leased ↦ ?_
  split
  · exact within_tryCommand (by nofun)
  · exact within_pure ()

/-! ### The operations -/

theorem within_bringUp (patch : UInt8) (useProfiles : Bool) (name : String) :
    Within reach (bringUp (σ := σ) patch useProfiles name) := by
  refine within_view fun station ↦ ?_
  split
  · exact within_return ()
  refine within_view fun station ↦ ?_
  cases station.config.channel? with
  | none => exact within_throw .pinNotMapped
  | some channel =>
    refine (within_command (by nofun)).bind fun _ ↦ (within_command (by nofun)).bind fun _ ↦ ?_
    have policy : Within reach (choosePolicy (σ := σ) useProfiles) := by
      unfold choosePolicy
      split
      · exact within_tryCommand (by nofun)
      · exact (within_tryCommand (by nofun)).andThen fun _ ↦ within_tryCommand (by nofun)
    refine policy.lift fun _ ↦ (within_command (by nofun)).bind fun _ ↦
      (within_enter .initialized (by decide)).lift fun _ ↦ ?_
    split
    · exact (within_view fun _ ↦ within_await _ _).bind fun _ ↦
        (within_enter .connected (by decide)).lift fun _ ↦ within_advertise name
    · exact within_return ()

theorem within_setStaticIp (ip netmask gateway dns : Net.Ipv4) :
    Within reach (setStaticIp (σ := σ) ip netmask gateway dns) :=
  within_requireInitialized.bind fun _ ↦ (within_command (by nofun)).bind fun _ ↦
    within_view fun _ ↦ within_powerCycle _ _

theorem within_setMac (mac : Mac) : Within reach (setMac (σ := σ) mac) := by
  refine within_requireInitialized.bind fun _ ↦ ?_
  split
  · exact within_throw .invalidArgument
  · exact (within_command (by nofun)).bind fun _ ↦ within_view fun _ ↦ within_powerCycle _ _

theorem within_ipConfig : Within reach (ipConfig (σ := σ)) :=
  within_requireInitialized.bind fun _ ↦ within_requireLease.bind fun _ ↦ within_command (by nofun)

theorem within_ipAddress : Within reach (ipAddress (σ := σ)) := by
  refine within_ipConfig.bind fun config ↦ ?_
  split
  · exact within_throw .notConnected
  · exact within_return _

theorem within_linkStatus : Within reach (linkStatus (σ := σ)) := by
  refine within_get fun station ↦ ?_
  split
  · exact within_pure _
  · refine (within_ask (by nofun)).andThen fun answer ↦ ?_
    cases answer <;> exact within_pure _

theorem within_setScanWindow (millis : UInt32) : Within reach (setScanWindow (σ := σ) millis) :=
  within_requireInitialized.bind fun _ ↦ within_command (by nofun)

theorem within_startScan (fetch : Within reach (fetchRecord (σ := σ))) :
    Within reach (startScan (σ := σ)) :=
  within_requireInitialized.bind fun _ ↦ within_view fun _ ↦ (within_setScanWindow _).bind fun _ ↦
    (within_enter .scanning (by decide)).lift fun _ ↦ within_view fun _ ↦
      (within_settle _).lift fun _ ↦ fetch.bind fun _ ↦ within_view fun _ ↦ within_return _

theorem within_nextEntry (fetch : Within reach (fetchRecord (σ := σ))) :
    Within reach (nextEntry (σ := σ)) :=
  within_requireInitialized.bind fun _ ↦ within_view fun _ ↦ fetch.bind fun _ ↦ within_return _

theorem within_stopScan : Within reach (stopScan (σ := σ)) := by
  refine (within_setScanWindow 0).bind fun _ ↦ within_view fun station ↦ ?_
  split
  · exact within_enter .initialized (by decide)
  · exact within_return ()

theorem within_checkCredentials (name key : String) :
    Within reach (checkCredentials (σ := σ) name key) := by
  unfold checkCredentials
  split
  · exact within_throw .invalidArgument
  · exact within_return ()

theorem within_requestConnect (security : Security) (name key : String) :
    Within reach (requestConnect (σ := σ) security name key) :=
  (within_command (by nofun)).bind fun _ ↦ within_view fun _ ↦ (within_settle _).lift fun _ ↦
    (within_command (by nofun)).bind fun _ ↦ within_enter .connecting (by decide)

theorem within_attemptJoin (name key : String) (security : Security) :
    Within reach (attemptJoin (σ := σ) name key security) := by
  have request : Within reach (requestJoin (σ := σ) name key security) := by
    unfold requestJoin
    split
    · exact within_requestConnect .unsecured name ""
    · exact within_requestConnect security name key
  refine within_poll.lift fun _ ↦ within_view fun _ ↦
    (within_ignore (within_setScanWindow _)).bind fun _ ↦ within_view fun _ ↦
      (within_settle _).lift fun _ ↦ (within_ignore (within_setScanWindow 0)).bind fun _ ↦
        (within_observing request).bind fun requested ↦ ?_
  cases requested with
  | error _ => exact within_return ()
  | ok _ => exact within_view fun station ↦ within_waitUntil station.config.connectTimeout _

theorem within_joinLoop {attempt : StationM σ Unit} (within : Within reach attempt)
    (spent : WifiError) (budget : Nat) : Within reach (joinLoop attempt spent budget) := by
  induction budget with
  | zero =>
    refine within_view fun station ↦ ?_
    split
    · exact within_return ()
    · exact within_throw spent
  | succ budget ih =>
    refine within_view fun station ↦ ?_
    split
    · exact within_return ()
    · exact within.bind fun _ ↦ ih

theorem within_join (patience : Nat) (name key : String) (security : Security) (attempts : UInt8) :
    Within reach (join (σ := σ) patience name key security attempts) := by
  refine within_requireInitialized.bind fun _ ↦ (within_checkCredentials name key).bind fun _ ↦ ?_
  have attempt : Within reach _ := within_attemptJoin name key security
  split
  · exact (within_joinLoop attempt _ _).bind fun _ ↦ within_enter .connected (by decide)
  · exact (within_joinLoop attempt _ _).bind fun _ ↦ within_enter .connected (by decide)

theorem command_apply (request : Command) (station : Station σ) :
    command request station =
      ((ask request station).1.mapError .command, (ask request station).2) := by
  unfold command
  rw [lift_bind_apply]
  cases (ask request station).1 <;> rfl

theorem within_served_pause (request : Command) (other : request ≠ .scanResult)
    {next : StationM σ α} (within : Within reach next) :
    Within reach (do
      poll (σ := σ)
      let _ ← command request
      pause (σ := σ) (← get).config.pollInterval
      next : StationM σ α) := by
  refine fun station ↦ Spans.trans (within_poll station) ?_
  show reach (poll station).2 ((command request >>= fun _ ↦ do
    pause (σ := σ) (← get).config.pollInterval
    next : StationM σ α) (poll station).2).2
  have asked : reach (poll station).2 _ := within_ask other (poll station).2
  rw [bind_apply, command_apply]
  cases (ask request (poll station).2).1 with
  | error status => exact asked
  | ok answer => exact Spans.trans asked (Spans.trans (Spans.pause request station) (within _))

theorem within_dropLink (patience : Nat) : Within reach (dropLink (σ := σ) patience) := by
  induction patience with
  | zero =>
    refine within_view fun station ↦ ?_
    split
    · exact within_return ()
    · exact within_throw .outOfPatience
  | succ patience ih =>
    refine within_view fun station ↦ ?_
    split
    · exact within_return ()
    exact within_served_pause .disconnect nofun ih

theorem within_listenForCredentials (key : Option (Vector UInt8 16)) :
    Within reach (listenForCredentials (σ := σ) key) := by
  have listens : Within reach (do
      command (.setSmartConfigTag smartConfigTag)
      command (.startSmartConfig key.isSome)
      await (← get).config.smartConfigTimeout (·.flags.smartConfigDone)
      if key.isSome then
        command .processSmartConfig : StationM σ Unit) := by
    refine (within_command (by nofun)).bind fun _ ↦ (within_command (by nofun)).bind fun _ ↦
      within_view fun _ ↦ (within_await _ _).bind fun _ ↦ ?_
    split
    · exact within_command (by nofun)
    · exact within_return ()
  refine (within_command (by nofun)).bind fun _ ↦ ?_
  cases key with
  | none => exact listens
  | some key => exact (within_command (by nofun)).bind fun _ ↦ listens

theorem within_forgetNetworks : Within reach (forgetNetworks (σ := σ)) :=
  (within_command (by nofun)).bind fun _ ↦ within_command (by nofun)

theorem within_clearFlags : Within reach (onRecord (σ := σ) Events.Record.clearFlags) :=
  Spans.clearFlags

theorem within_smartConfig (patience : Nat) (name : String) (key : Option (Vector UInt8 16)) :
    Within reach (smartConfig (σ := σ) patience name key) :=
  within_clearFlags.lift fun _ ↦ within_requireInitialized.bind fun _ ↦
    within_forgetNetworks.bind fun _ ↦ (within_dropLink patience).bind fun _ ↦ within_view fun _ ↦
    (within_powerCycle _ _).bind fun _ ↦ (within_listenForCredentials key).bind fun _ ↦
    (within_command (by nofun)).bind fun _ ↦ within_view fun _ ↦
    (within_powerCycle _ _).bind fun _ ↦ (within_command (by nofun)).bind fun _ ↦
    (within_view fun _ ↦ within_await _ _).bind fun _ ↦
    (within_enter .connected (by decide)).lift fun _ ↦ within_advertise name

theorem within_ping (ip : Net.Ipv4) (attempts : UInt8) (timeout : UInt16) (size : UInt8) :
    Within reach (ping (σ := σ) ip attempts timeout size) := by
  have reset : Within reach (onRecord (σ := σ) Events.Record.resetPing) := Spans.resetPing
  refine within_get fun station ↦ ?_
  split
  · exact within_pure 0
  refine reset.andThen fun _ ↦ (within_ask (by nofun)).andThen fun answer ↦ ?_
  cases answer with
  | error status => exact within_pure 0
  | ok _ =>
    refine Within.andThen ?_ fun _ ↦ within_get fun _ ↦ within_pure _
    exact within_waitUntil (timeout.toUInt32 * attempts.toUInt32 * 2) _

/-- What holds over the fetch of a scan record too holds over every operation; for one that fetches
none the steps are enough. -/
theorem perform_within (op : Operation)
    (fetch : op.fetches = true → Within reach (fetchRecord (σ := σ))) :
    Within reach (op.perform (σ := σ)) := by
  cases op with
  | bringUp patch useProfiles name => exact within_bringUp patch useProfiles name
  | reboot patch =>
    exact within_requireInitialized.bind fun _ ↦ within_view fun _ ↦ within_powerCycle _ _
  | stop => exact within_requireInitialized.bind fun _ ↦ within_command (by nofun)
  | disconnect =>
    exact within_requireInitialized.bind fun _ ↦ (within_command (by nofun)).bind fun _ ↦
      within_enter .disconnected (by decide)
  | deleteProfiles => exact within_requireInitialized.bind fun _ ↦ within_forgetNetworks
  | macAddress => exact within_requireInitialized.bind fun _ ↦ within_command (by nofun)
  | setMac mac => exact within_setMac mac
  | setStaticIp ip netmask gateway dns => exact within_setStaticIp ip netmask gateway dns
  | setDhcp => exact within_setStaticIp _ _ _ _
  | ipAddress => exact within_ipAddress
  | ipConfig => exact within_ipConfig
  | firmwareVersion => exact within_requireInitialized.bind fun _ ↦ within_command (by nofun)
  | linkStatus => exact within_linkStatus
  | startScan => exact within_startScan (fetch rfl)
  | nextEntry => exact within_nextEntry (fetch rfl)
  | stopScan => exact within_stopScan
  | connectOpen name =>
    exact within_requireInitialized.bind fun _ ↦ (within_checkCredentials _ _).bind fun _ ↦
      within_requestConnect _ _ _
  | connectSecure name key security =>
    exact within_requireInitialized.bind fun _ ↦ (within_checkCredentials _ _).bind fun _ ↦
      within_requestConnect _ _ _
  | join patience name key security attempts =>
    exact within_join patience name key security attempts
  | smartConfig patience name key => exact within_smartConfig patience name key
  | ping ip attempts timeout size => exact within_ping ip attempts timeout size
  | resolve name =>
    exact within_requireInitialized.bind fun _ ↦ within_requireLease.bind fun _ ↦
      within_command (by nofun)
  | connectTo kind ip port => exact Spans.connect kind ip port

theorem run_within (ops : List Operation)
    (fetch : ∀ op ∈ ops, op.fetches = true → Within reach (fetchRecord (σ := σ)))
    (station : Station σ) : reach station (station.run ops) := by
  induction ops generalizing station with
  | nil => exact Spans.refl station
  | cons op rest ih =>
    obtain ⟨first, others⟩ := List.forall_mem_cons.mp fetch
    exact Spans.trans (perform_within op first station) (ih others _)

/-- A fetch is one command. If it fails the old record is kept. -/
theorem fetchRecord_apply (station : Station σ) :
    fetchRecord station = match ask .scanResult station with
      | (.ok scanRecord, after) => (.ok (), { after with scanRecord })
      | (.error status, after) => (.error (.command status), after) := by
  rw [fetchRecord, bind_apply, command_apply]
  rcases ask .scanResult station with ⟨status | scanRecord, after⟩ <;> rfl

end Station

end SpiWifi.Wlan
