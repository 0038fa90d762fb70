import SpiWifi.Proofs.Wlan.BringUp
import SpiWifi.Proofs.Wlan.Course
import SpiWifi.Wlan.Station.Provision

/-!
Smart config. A station that has been brought up clears its flags and then takes a fixed course: it
makes the chip forget its networks, waits for the link to be gone, restarts the chip and listens for
credentials. With these the chip is restarted once more, takes the event mask, and if the link comes
up in time the name is made known.
-/

set_option autoImplicit false
set_option relaxedAutoImplicit false

namespace SpiWifi.Wlan

open Chip Events Host

/-! ### The course -/

/-- Disconnects as long as the link is up, with a pause after each. -/
inductive Dropped (step : UInt32) : Record → List Exchange → Except WifiError Unit → Prop where
  | down {record : Record} (down : record.flags.linkUp = false) : Dropped step record [] (.ok ())
  | spent {record : Record} (up : record.flags.linkUp = true) :
      Dropped step record [] (.error .outOfPatience)
  | refused {record : Record} {poll : Outcome .poll} {outcome : Outcome (.command .disconnect)}
      {status : Status} (up : record.flags.linkUp = true)
      (refused : outcome.answer = .error status) :
      Dropped step record [⟨.poll, poll⟩, ⟨.command .disconnect, outcome⟩]
        (.error (.command status))
  | told {record : Record} {poll : Outcome .poll} {outcome : Outcome (.command .disconnect)}
      {pause : Outcome (.pause step)} {trace : List Exchange} {result : Except WifiError Unit}
      (up : record.flags.linkUp = true) (accepted : outcome.answer = .ok ())
      (rest : Dropped step (recordAfter record
        [⟨.poll, poll⟩, ⟨.command .disconnect, outcome⟩, ⟨.pause step, pause⟩]) trace result) :
      Dropped step record
        (⟨.poll, poll⟩ :: ⟨.command .disconnect, outcome⟩ :: ⟨.pause step, pause⟩ :: trace) result

def forgetTasks : List Task := [.demand (.setPolicy .manual), .demand .deleteProfiles]

def cycleTasks (off : UInt32) (patch : UInt8) : List Task :=
  [.demand .stop, .settle off, .demand (.start patch)]

def listenTasks (key : Option (Vector UInt8 16)) : List Task :=
  .demand .createKeyEntry :: (key.map fun key ↦ .demand (.writeKey key)).toList ++
    [.demand (.setSmartConfigTag smartConfigTag), .demand (.startSmartConfig key.isSome)]

def decryptTasks (key : Option (Vector UInt8 16)) : List Task :=
  if key.isSome then [.demand .processSmartConfig] else []

/-- Makes the name known if there is a lease in time; this cannot fail. -/
def announces (config : Config) (name : String) : Course := fun record trace result ↦
  Advertised config name record trace ∧ result = .ok ()

/-- Until the credentials have come in. -/
def listens (config : Config) (key : Option (Vector UInt8 16)) : Course :=
  (((performs config.interval forgetTasks).followedBy (Dropped config.pollInterval)).followedBy
    (performs config.interval (cycleTasks config.restartDelay 0 ++ listenTasks key))).followedBy
    (Heard (·.flags.smartConfigDone) config.interval config.smartConfigTimeout.toNat)

/-- Until the chip runs with the credentials. -/
def stores (config : Config) (key : Option (Vector UInt8 16)) : Course :=
  (listens config key).followedBy (performs config.interval
    (decryptTasks key ++ [.demand (.setPolicy .stored)] ++ cycleTasks config.restartDelay 0))

/-- Until the chip has taken the event mask. -/
def prepares (config : Config) (key : Option (Vector UInt8 16)) : Course :=
  (stores config key).followedBy (performs config.interval [.demand (.setEventMask maskedEvents)])

/-- What is left behind the event mask. -/
def concludes (config : Config) (name : String) : Course :=
  Course.followedBy (Heard (·.flags.linkUp) config.interval config.connectTimeout.toNat)
    (announces config name)

def provisions (config : Config) (name : String) (key : Option (Vector UInt8 16)) : Course :=
  (prepares config key).followedBy (concludes config name)

/-! ### The parts of the course -/

theorem keeps_dropped (step : UInt32) : Keeps (Dropped step) [] := by
  have silent {record : Record} {trace : List Exchange} {result : Except WifiError Unit}
      (h : Dropped step record trace result) : scripted trace = [] := by
    induction h with
    | down _ => rfl
    | spent _ => rfl
    | refused _ _ => rfl
    | told _ _ _ ih => exact ih
  refine ⟨fun h ↦ List.prefix_nil.mpr (silent h), silent, fun h ↦ ?_⟩
  induction h with
  | down _ => exact .faultless nofun nofun
  | spent _ => exact .faultless nofun nofun
  | refused _ refused => exact (FailsLast.single (Exchange.failure?_error refused)).cons rfl
  | told _ accepted _ ih => exact ((ih.cons rfl).cons (Exchange.failure?_ok accepted)).cons rfl

/-- The command that makes a name known, if there is one. -/
def announcement (name : String) : List Command :=
  if name = "" then [] else [.advertise name.toUTF8.data.toList]

section Conclusion

variable {config : Config} {name : String} {record : Record} {trace : List Exchange}
  {result : Except WifiError Unit}

theorem concludes_commands (run : concludes config name record trace result) :
    commands trace <+: announcement name := by
  cases run with
  | stopped stopped =>
    rw [stopped.commands_eq]
    exact List.nil_prefix
  | passed passed rest =>
    rw [commands_append, passed.commands_eq, List.nil_append]
    cases rest.1 with
    | silent waited _ =>
      rw [waited.commands_eq]
      exact List.nil_prefix
    | told waited named =>
      rw [commands_append, waited.commands_eq, announcement, if_neg named]
      exact List.prefix_rfl

/-- Behind the event mask no other command is issued. -/
theorem eq_advertise_of_concludes (run : concludes config name record trace result)
    {request : Command} (listed : request ∈ commands trace) :
    request = .advertise name.toUTF8.data.toList := by
  have announced := (concludes_commands run).subset listed
  unfold announcement at announced
  split at announced
  · cases announced
  · exact List.mem_singleton.mp announced

theorem concludes_result (run : concludes config name record trace result) :
    result = .ok () ∨ result = .error .timeout := by
  cases run with
  | stopped stopped =>
    cases stopped with
    | missed _ => exact Or.inr rfl
  | passed _ rest => exact Or.inl rest.2

end Conclusion

/-! ### The course of the operation -/

namespace Station

variable {σ : Type} [Layer σ] {config : Config}

theorem follows_dropLink (patience : Nat) :
    Follows config (dropLink (σ := σ) patience) (Dropped config.pollInterval) := by
  induction patience with
  | zero =>
    intro station _
    rw [dropLink, traces_get_bind]
    by_cases up : station.isLinkUp = true
    · rw [up]
      exact traces_throw (.spent up)
    · rw [Bool.not_eq_true] at up
      rw [up]
      exact traces_pure (.down up)
  | succ patience ih =>
    intro station same
    rw [dropLink, traces_get_bind]
    by_cases up : station.isLinkUp = true
    · rw [up]
      refine Traces.poll fun poll polled askedPoll _ ↦ ?_
      refine Traces.demand ?_ fun outcome status _ fails _ ↦ .refused up fails
      intro outcome _ told accepted askedDrop _
      rw [traces_get_bind, askedDrop.config, askedPoll.config, same]
      refine (pause_traces _ told).lift ?_
      intro _ _ paused askedPause ⟨⟨pause, only⟩, _⟩
      subst only
      have asked := (askedPoll.trans askedDrop).trans askedPause
      obtain ⟨later, more, rest⟩ := ih paused (asked.config.trans same)
      rw [asked.host.record] at rest
      exact ⟨later, more, .told up accepted rest⟩
    · rw [Bool.not_eq_true] at up
      rw [up]
      exact traces_pure (.down up)

theorem follows_forgetNetworks :
    Follows config (forgetNetworks (σ := σ)) (performs config.interval forgetTasks) := by
  have forgets : Follows config (forgetNetworks (σ := σ)) (Course.followedBy _ _) :=
    (follows_command (.setPolicy .manual)).bind fun _ ↦ follows_command .deleteProfiles
  rwa [performs_append] at forgets

theorem follows_powerCycle (off : UInt32) (patch : UInt8) :
    Follows config (powerCycle (σ := σ) off patch)
      (performs config.interval (cycleTasks off patch)) := by
  have restarts : Follows config (powerCycle (σ := σ) off patch) (Course.followedBy _ _) :=
    (follows_command .stop).bind fun _ ↦ (follows_settle off).bind fun _ ↦
      follows_command (.start patch)
  rwa [performs_append, performs_append] at restarts

theorem follows_listenForCredentials (key : Option (Vector UInt8 16)) :
    Follows config (listenForCredentials (σ := σ) key)
      ((performs config.interval (listenTasks key)).followedBy
        ((Course.followedBy (Heard (·.flags.smartConfigDone) config.interval
          config.smartConfigTimeout.toNat) (performs config.interval (decryptTasks key))))) := by
  have hears : Follows config (do
      await (σ := σ) (← get).config.smartConfigTimeout (·.flags.smartConfigDone)
      if key.isSome then
        command .processSmartConfig : StationM σ Unit)
      (Course.followedBy (Heard (·.flags.smartConfigDone) config.interval
        config.smartConfigTimeout.toNat) (performs config.interval (decryptTasks key))) := by
    refine follows_get fun station same ↦ ?_
    rw [same]
    refine (follows_await _ _).bind fun _ ↦ ?_
    cases key with
    | none => exact fun station _ ↦ traces_pure .done
    | some key => exact follows_command .processSmartConfig
  cases key with
  | none =>
    have listens : Follows config (listenForCredentials (σ := σ) none) (Course.followedBy _ _) :=
      (follows_command .createKeyEntry).bind fun _ ↦
        (follows_command (.setSmartConfigTag smartConfigTag)).bind fun _ ↦
          (follows_command (.startSmartConfig false)).bind fun _ ↦ hears
    rwa [← followedBy_assoc, ← followedBy_assoc, performs_append, performs_append] at listens
  | some key =>
    have listens : Follows config (listenForCredentials (σ := σ) (some key))
        (Course.followedBy _ _) :=
      (follows_command .createKeyEntry).bind fun _ ↦ (follows_command (.writeKey key)).bind fun _ ↦
        (follows_command (.setSmartConfigTag smartConfigTag)).bind fun _ ↦
          (follows_command (.startSmartConfig true)).bind fun _ ↦ hears
    rwa [← followedBy_assoc, ← followedBy_assoc, ← followedBy_assoc, performs_append,
      performs_append, performs_append] at listens

theorem follows_advertise (name : String) :
    Follows config (liftM (advertise (σ := σ) name) : StationM σ Unit) (announces config name) := by
  intro station same
  obtain ⟨trace, asked, advertised, _⟩ := advertise_traces name station
  rw [same] at advertised
  exact ⟨trace, asked, advertised, rfl⟩

/-- The station with its flags cleared. -/
def cleared (station : Station σ) : Station σ := (onRecord Record.clearFlags station).2

theorem smartConfig_run {station : Station σ} (started : station.isInitialized = true)
    (patience : Nat) (name : String) (key : Option (Vector UInt8 16)) :
    ∃ trace, station.cleared.host.Made trace (smartConfig patience name key station).2.host ∧
      provisions station.config name key station.cleared.host.record trace
        (smartConfig patience name key station).1 := by
  have concluded : Follows station.config (do
      awaitLink
      enter (σ := σ) .connected
      advertise (σ := σ) name : StationM σ Unit) (concludes station.config name) := by
    refine (follows_get fun before same ↦ ?_).bind fun _ ↦ follows_enter (follows_advertise name)
    rw [same]
    exact follows_await _ _
  have restarted {next : StationM σ Unit} {course : Course}
      (rest : Follows station.config next course) :
      Follows station.config (do
        powerCycle (← get).config.restartDelay 0
        next)
        ((performs station.config.interval (cycleTasks station.config.restartDelay 0)).followedBy
          course) := by
    refine follows_get fun before same ↦ ?_
    rw [same]
    exact (follows_powerCycle _ _).bind fun _ ↦ rest
  have course : Follows station.config (do
      forgetNetworks
      dropLink patience
      powerCycle (← get).config.restartDelay 0
      listenForCredentials key
      command (.setPolicy .stored)
      powerCycle (← get).config.restartDelay 0
      command (.setEventMask maskedEvents)
      awaitLink
      enter (σ := σ) .connected
      advertise (σ := σ) name : StationM σ Unit) (Course.followedBy _ _) :=
    follows_forgetNetworks.bind fun _ ↦ (follows_dropLink patience).bind fun _ ↦
      restarted ((follows_listenForCredentials key).bind fun _ ↦
        (follows_command (.setPolicy .stored)).bind fun _ ↦
          restarted ((follows_command (.setEventMask maskedEvents)).bind fun _ ↦ concluded))
  obtain ⟨trace, asked, run⟩ := course.run (rfl : station.cleared.config = station.config)
  have ready : station.cleared.isInitialized = true := started
  have same : smartConfig patience name key station = _ :=
    requireInitialized_bind_of_started ready _
  rw [same]
  refine ⟨trace, asked.host, ?_⟩
  simp only [followedBy_assoc] at run
  simp only [provisions, prepares, stores, listens, ← performs_append, followedBy_assoc]
  exact run

end Station

end SpiWifi.Wlan
