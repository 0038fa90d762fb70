import SpiWifi.Bench.Chip
import SpiWifi.Proofs.Wlan.Provisioning

/-!
Whether smart config takes the link down. It disconnects as long as the link counts as up, but it
has cleared the flags before it looks. So it disconnects exactly if the link is reported up while
the chip forgets its networks; a link that was there before is left to the stop of the chip.
-/

set_option autoImplicit false
set_option relaxedAutoImplicit false

namespace SpiWifi.Wlan

open Chip Events Host

/-! ### Commands that a course avoids -/

/-- The course never asks for the command. -/
def Avoids (course : Course) (request : Command) : Prop :=
  ∀ record trace result, course record trace result → request ∉ commands trace

section Avoids

variable {first second : Course} {request : Command}

theorem Avoids.followedBy (h : Avoids first request) (k : Avoids second request) :
    Avoids (first.followedBy second) request := by
  intro record trace result run
  cases run with
  | stopped stopped => exact h _ _ _ stopped
  | passed passed rest =>
    rw [commands_append, List.mem_append, not_or]
    exact ⟨h _ _ _ passed, k _ _ _ rest⟩

theorem avoids_performs (interval : Nat) {tasks : List Task}
    (absent : request ∉ taskCommands tasks) : Avoids (performs interval tasks) request :=
  fun _ _ _ run listed ↦ absent (run.commands_isPrefix.subset listed)

theorem avoids_heard (done : Record → Bool) (interval timeout : Nat) :
    Avoids (Heard done interval timeout) request := by
  intro record trace result run
  rw [run.commands_eq]
  exact List.not_mem_nil

end Avoids

/-! ### The disconnects -/

section Dropped

variable {step : UInt32} {record : Record} {trace : List Exchange} {result : Except WifiError Unit}

theorem Dropped.up_of_drops (h : Dropped step record trace result)
    (drops : .disconnect ∈ commands trace) : record.flags.linkUp = true := by
  cases h with
  | down _ => cases drops
  | spent up => exact up
  | refused up _ => exact up
  | told up _ _ => exact up

theorem Dropped.drops_of_up (h : Dropped step record trace result)
    (up : record.flags.linkUp = true) (patient : result ≠ .error .outOfPatience) :
    .disconnect ∈ commands trace := by
  cases h with
  | down down => cases down.symm.trans up
  | spent _ => exact absurd rfl patient
  | refused _ _ => exact List.mem_cons_self
  | told _ _ _ => exact List.mem_cons_self

theorem Dropped.down_of_ok (h : Dropped step record trace (.ok ())) :
    (recordAfter record trace).flags.linkUp = false := by
  generalize hok : (Except.ok () : Except WifiError Unit) = finished at h
  induction h with
  | down down => exact down
  | spent _ => cases hok
  | refused _ _ => cases hok
  | told _ _ _ ih =>
    have rest := ih hok
    rwa [← recordAfter_append] at rest

theorem avoids_dropped : Avoids (Dropped step) .stop := by
  intro record trace result run
  exact (keeps_dropped step).not_mem_commands List.not_mem_nil (by decide) run

end Dropped

/-- What follows once the link is gone. -/
def restarts (config : Config) (name : String) (key : Option (Vector UInt8 16)) : Course :=
  (performs config.interval (cycleTasks config.restartDelay 0 ++ listenTasks key)).followedBy
    ((Course.followedBy (Heard (·.flags.smartConfigDone) config.interval
        config.smartConfigTimeout.toNat)
      ((performs config.interval (decryptTasks key ++ [.demand (.setPolicy .stored)] ++
        cycleTasks config.restartDelay 0)).followedBy
        ((performs config.interval [.demand (.setEventMask maskedEvents)]).followedBy
          (concludes config name)))))

section Restarts

variable (config : Config) (name : String) (key : Option (Vector UInt8 16))

theorem provisions_eq : provisions config name key =
    (performs config.interval forgetTasks).followedBy
      (Course.followedBy (Dropped config.pollInterval) (restarts config name key)) := by
  simp only [provisions, prepares, stores, listens, restarts, followedBy_assoc]

theorem avoids_restarts : Avoids (restarts config name key) .disconnect := by
  have concluded : Avoids (concludes config name) .disconnect := by
    intro record trace result run listed
    cases eq_advertise_of_concludes run listed
  refine (avoids_performs _ ?_).followedBy ((avoids_heard _ _ _).followedBy
    ((avoids_performs _ ?_).followedBy ((avoids_performs _ ?_).followedBy concluded)))
  · cases key <;> simp [listenTasks, cycleTasks, taskCommands, Task.command?]
  · cases key <;> simp [decryptTasks, cycleTasks, taskCommands, Task.command?]
  · simp [taskCommands, Task.command?]

end Restarts

theorem restarts_begins {config : Config} {name : String} {key : Option (Vector UInt8 16)}
    {record : Record} {trace : List Exchange} {result : Except WifiError Unit}
    (run : restarts config name key record trace result) :
    ∃ stop rest, trace = stop :: rest ∧ stop.command? = some .stop := by
  have begins {front : List Exchange} {ended : Except WifiError Unit}
      (performed : Performed config.interval
        (cycleTasks config.restartDelay 0 ++ listenTasks key) front ended) :
      ∃ stop rest, front = stop :: rest ∧ stop.command? = some .stop := by
    cases performed with
    | demand _ _ => exact ⟨_, _, rfl, rfl⟩
    | refused _ => exact ⟨_, _, rfl, rfl⟩
  cases run with
  | stopped stopped => exact begins stopped
  | passed passed _ =>
    obtain ⟨stop, rest, split, asks⟩ := begins passed
    exact ⟨stop, _, by rw [split, List.cons_append], asks⟩

theorem forgets_of_ok {interval : Nat} {trace : List Exchange}
    (h : Performed interval forgetTasks trace (.ok ())) :
    ∃ policy erased, trace = [policy, erased] ∧ Faultless trace := by
  have faultless := (h.failsLast rfl).faultless_of_ok
  cases h with
  | demand _ rest =>
    cases rest with
    | demand _ rest =>
      cases rest
      exact ⟨_, _, rfl, faultless⟩

theorem forgets_of_error {interval : Nat} {trace rest : List Exchange} {failure : WifiError}
    {policy erased : Exchange} (h : Performed interval forgetTasks trace (.error failure))
    (split : trace = policy :: erased :: rest) : ¬ Faultless [policy, erased] := by
  intro faultless
  cases h with
  | demand _ rest =>
    cases rest with
    | demand _ rest => cases rest
    | refused refused =>
      cases split
      have succeeds := faultless _ (List.mem_cons_of_mem _ List.mem_cons_self)
      rw [Exchange.failure?_error refused] at succeeds
      cases succeeds
  | refused _ => cases split

/-! ### The law -/

/-- How smart config treats the link. -/
structure DropsLink (trace : List Exchange) (result : Except WifiError Unit) : Prop where
  /-- It disconnects exactly if the link is reported up while the networks are forgotten. -/
  drops_iff : result ≠ .error .outOfPatience → (.disconnect ∈ commands trace ↔
    ∃ policy erased rest, trace = policy :: erased :: rest ∧ Faultless [policy, erased] ∧
      lastLink (reports [policy, erased]) = some true)
  /-- At its first stop the link has not been reported up last, and where it has disconnected it
  has been reported down. -/
  down : ∀ earlier exchange later, trace = earlier ++ exchange :: later →
    exchange.command? = some .stop → .stop ∉ commands earlier →
    lastLink (reports earlier) ≠ some true ∧
      (.disconnect ∈ commands trace → lastLink (reports earlier) = some false)

section Forgotten

variable {config : Config} {name : String} {key : Option (Vector UInt8 16)} {record : Record}
  {trace : List Exchange} {result : Except WifiError Unit}

/-- With the networks forgotten, the flag alone decides about the disconnects. -/
theorem drops_iff_linkUp
    (run : Course.followedBy (Dropped config.pollInterval) (restarts config name key) record trace
      result) (patient : result ≠ .error .outOfPatience) :
    .disconnect ∈ commands trace ↔ record.flags.linkUp = true := by
  cases run with
  | stopped stopped =>
    exact ⟨stopped.up_of_drops, fun up ↦ stopped.drops_of_up up patient⟩
  | passed passed rest =>
    rw [commands_append, List.mem_append, or_iff_left (avoids_restarts config name key _ _ _ rest)]
    exact ⟨passed.up_of_drops, fun up ↦ passed.drops_of_up up nofun⟩

/-- The first stop comes with the link down. -/
theorem down_at_stop {earlier later : List Exchange} {exchange : Exchange}
    (run : Course.followedBy (Dropped config.pollInterval) (restarts config name key) record
      (earlier ++ exchange :: later) result) (stops : exchange.command? = some .stop)
    (first : .stop ∉ commands earlier) :
    (recordAfter record earlier).flags.linkUp = false ∧
      (.disconnect ∈ commands (earlier ++ exchange :: later) → record.flags.linkUp = true) := by
  generalize whole : earlier ++ exchange :: later = trace at run
  have listed : .stop ∈ commands trace :=
    command?_mem (whole ▸ List.mem_append_right _ List.mem_cons_self) stops
  cases run with
  | stopped stopped => exact absurd listed (avoids_dropped _ _ _ stopped)
  | passed passed rest =>
    refine ⟨?_, fun drops ↦ ?_⟩
    · -- What follows the disconnects begins with a stop, so this is the first one.
      obtain ⟨middle, split, there⟩ :=
        split_behind whole.symm stops (avoids_dropped _ _ _ passed)
      obtain ⟨stop, others, begins, asks⟩ := restarts_begins rest
      cases middle with
      | nil =>
        rw [split, List.append_nil]
        exact passed.down_of_ok
      | cons next middle =>
        rw [begins] at there
        obtain ⟨rfl, -⟩ := List.cons.inj there
        refine absurd (command?_mem ?_ asks) first
        rw [split]
        exact List.mem_append_right _ List.mem_cons_self
    · rw [commands_append, List.mem_append] at drops
      exact passed.up_of_drops (drops.resolve_right (avoids_restarts config name key _ _ _ rest))

theorem dropsLink_of_provisions (run : provisions config name key record trace result)
    (down : record.flags.linkUp = false) : DropsLink trace result := by
  rw [provisions_eq] at run
  have forgets {request : Command} (other : request ∉ taskCommands forgetTasks) :
      Avoids (performs config.interval forgetTasks) request := avoids_performs _ other
  cases run with
  | stopped stopped =>
    refine ⟨fun _ ↦ ⟨fun drops ↦ ?_, fun ⟨_, _, _, split, faultless, _⟩ ↦ ?_⟩, ?_⟩
    · exact absurd drops (forgets (by decide) _ _ _ stopped)
    · exact absurd faultless (forgets_of_error stopped split)
    · intro earlier exchange later split stops _
      have listed : exchange ∈ trace := split ▸ List.mem_append_right _ List.mem_cons_self
      exact absurd (command?_mem listed stops) (forgets (by decide) _ _ _ stopped)
  | @passed _ tail _ passed rest =>
    have undropped := forgets (by decide : .disconnect ∉ taskCommands forgetTasks) _ _ _ passed
    have unstopped := forgets (by decide : .stop ∉ taskCommands forgetTasks) _ _ _ passed
    obtain ⟨policy, erased, rfl, faultless⟩ := forgets_of_ok passed
    have up_iff : (recordAfter record [policy, erased]).flags.linkUp = true ↔
        lastLink (reports [policy, erased]) = some true := by
      rw [linkUp_recordAfter_iff, down]
      exact or_iff_left nofun
    have drops_behind : .disconnect ∈ commands ([policy, erased] ++ tail) ↔
        .disconnect ∈ commands tail := by
      rw [commands_append, List.mem_append]
      exact or_iff_right undropped
    constructor
    · intro patient
      rw [drops_behind, drops_iff_linkUp rest patient, up_iff]
      constructor
      · intro raised
        exact ⟨policy, erased, tail, rfl, faultless, raised⟩
      · intro ⟨_, _, _, split, _, raised⟩
        cases split
        exact raised
    · intro earlier exchange later split stops first
      obtain ⟨middle, rfl, rfl⟩ := split_behind split stops unstopped
      rw [commands_append, List.mem_append, not_or] at first
      obtain ⟨gone, raised⟩ := down_at_stop rest stops first.2
      rw [← recordAfter_append] at gone
      refine ⟨fun up ↦ ?_, fun drops ↦ lastLink_of_dropped (raised (drops_behind.mp drops)) gone⟩
      rw [linkUp_recordAfter, up] at gone
      cases gone

end Forgotten

namespace Station

variable {σ : Type} [Layer σ] {station : Station σ}

/-- However the link was before, smart config disconnects exactly if the link is reported up while
the chip forgets its networks, and then goes on only once it has been reported down. -/
theorem smartConfig_dropsLink (started : station.isInitialized = true) (patience : Nat)
    (name : String) (key : Option (Vector UInt8 16)) :
    ∃ trace, station.cleared.host.Made trace (smartConfig patience name key station).2.host ∧
      DropsLink trace (smartConfig patience name key station).1 := by
  obtain ⟨trace, made, run⟩ := smartConfig_run started patience name key
  exact ⟨trace, made, dropsLink_of_provisions run rfl⟩

/-- The link comes up while the profiles are erased, and goes down when told to. -/
def raisedStation : Station Bench.Chip where
  host := { layer := { reactions := [
    ("delete_profiles", [⟨1, -1, ⟨Wire.Opcode.linkUp, []⟩⟩]),
    ("disconnect", [⟨1, -1, ⟨Wire.Opcode.linkDown, []⟩⟩])] } }
  config := { restartDelay := 20, smartConfigTimeout := 10 }
  stage := .initialized

theorem smartConfig_dropsLink_raised :
    raisedStation.isInitialized = true ∧
      .disconnect ∈ commands (smartConfig 1 "" none raisedStation).2.host.history.reverse ∧
      ∃ trace, raisedStation.cleared.host.Made trace (smartConfig 1 "" none raisedStation).2.host ∧
        DropsLink trace (smartConfig 1 "" none raisedStation).1 :=
  ⟨rfl, by decide +kernel, smartConfig_dropsLink rfl 1 "" none⟩

/-- The link has come up before. -/
def linkedStation : Station Bench.Chip where
  host := { layer := {}, record := { flags := { linkUp := true } } }
  config := { restartDelay := 20, smartConfigTimeout := 10 }
  stage := .initialized

def linkedTrace : List Exchange := (smartConfig 1 "" none linkedStation).2.host.history.reverse

/-- The chip is stopped with no disconnect before and no report that the link is down. -/
theorem smartConfig_keepsLink :
    linkedStation.isInitialized = true ∧ linkedStation.isLinkUp = true ∧ Faultless linkedTrace ∧
      .stop ∈ commands linkedTrace ∧ .disconnect ∉ commands linkedTrace ∧
      ∀ notice ∈ reports linkedTrace, notice.opcode ≠ Wire.Opcode.linkDown := by
  refine ⟨rfl, rfl, ?_, by decide +kernel, by decide +kernel, ?_⟩
  · have succeeds : linkedTrace.all (·.failure?.isNone) = true := by decide +kernel
    intro exchange mem
    exact Option.isNone_iff_eq_none.mp (List.all_eq_true.mp succeeds exchange mem)
  · have silent : (reports linkedTrace).all (·.opcode ≠ Wire.Opcode.linkDown) = true := by
      decide +kernel
    intro notice mem
    exact of_decide_eq_true (List.all_eq_true.mp silent notice mem)

end Station

end SpiWifi.Wlan
