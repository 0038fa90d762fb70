import SpiWifi.Bench.Chip
import SpiWifi.Proofs.Wlan.Provisioning
import SpiWifi.Proofs.Wlan.WaitSchedule

/-!
Changes that take a restart of the chip: addresses, the hardware address, and nothing at all. Each
stores what it has to, stops the chip, leaves it off for a while and starts it again. The first
command that fails is the last, so a chip that would not be stopped is not started either, and no
time passes but while it is off.
-/

set_option autoImplicit false
set_option relaxedAutoImplicit false

namespace SpiWifi.Wlan

open Chip Events Host Net

/-- A wait that nothing ends before its time. -/
structure Settled (interval millis : Nat) (wait : List Exchange) : Prop where
  commands_eq : commands wait = []
  polls : pollTimes wait = schedule interval millis
  pauses : pauseLengths wait = pausePlan interval millis
  whole : pausedFor wait = millis

theorem settled_of_waited {done : Record → Bool} {interval millis : Nat} {record : Record}
    {wait : List Exchange} (waited : Waited done interval millis record wait false)
    (positive : 0 < interval) : Settled interval millis wait := by
  have exact := waited.exact positive
  obtain ⟨polls, -, pauses, whole⟩ := exact.in_vain rfl
  exact ⟨exact.commands_eq, polls, pauses, whole⟩

/-- There are only commands, and no time passes. -/
def Prompt (trace : List Exchange) : Prop := ∀ exchange ∈ trace, exchange.command?.isSome

theorem Prompt.cons {request : Command} {trace : List Exchange} (prompt : Prompt trace)
    (outcome : Outcome (.command request)) : Prompt (⟨.command request, outcome⟩ :: trace) :=
  List.forall_mem_cons.mpr ⟨rfl, prompt⟩

/-! ### The steps of a change -/

def demands (requests : List Command) : List Task := requests.map .demand

@[simp] theorem taskCommands_append (tasks more : List Task) :
    taskCommands (tasks ++ more) = taskCommands tasks ++ taskCommands more :=
  List.filterMap_append

@[simp] theorem taskCommands_demands (requests : List Command) :
    taskCommands (demands requests) = requests := by
  rw [taskCommands, demands, List.filterMap_map]
  exact List.filterMap_some

theorem Performed.prompt {interval : Nat} {requests : List Command} {trace : List Exchange}
    {result : Except WifiError Unit} (h : Performed interval (demands requests) trace result) :
    Prompt trace := by
  induction requests generalizing trace with
  | nil =>
    cases h
    exact List.forall_mem_nil _
  | cons request rest ih =>
    cases h with
    | demand _ more => exact (ih more).cons _
    | refused _ => exact Prompt.cons (List.forall_mem_nil _) _

def restartTasks (settings : List Command) (off : UInt32) (patch : UInt8) : List Task :=
  demands (settings ++ [.stop]) ++ [.settle off, .demand (.start patch)]

theorem demands_append_cycleTasks (settings : List Command) (off : UInt32) (patch : UInt8) :
    demands settings ++ cycleTasks off patch = restartTasks settings off patch := by
  rw [restartTasks, demands, demands, List.map_append, List.append_assoc]
  rfl

theorem taskCommands_restartTasks (settings : List Command) (off : UInt32) (patch : UInt8) :
    taskCommands (restartTasks settings off patch) = settings ++ [.stop, .start patch] := by
  rw [restartTasks, taskCommands_append, taskCommands_demands, List.append_assoc]
  rfl

theorem isStrict_restartTasks {settings : List Command} (other : .disconnect ∉ settings)
    (off : UInt32) (patch : UInt8) :
    (restartTasks settings off patch).all Task.isStrict = true := by
  simp only [List.all_eq_true, restartTasks, demands, List.mem_append, List.mem_map]
  rintro _ (⟨request, listed | stops, rfl⟩ | last)
  · exact decide_eq_true fun same ↦ other (same ▸ listed)
  · rw [List.mem_singleton.mp stops]
    rfl
  · simp only [List.mem_cons, List.not_mem_nil, or_false] at last
    rcases last with rfl | rfl <;> rfl

/-! ### The law of a restart -/

/-- Time only passes between the stop and the start, so none does where the chip is not stopped. -/
inductive Timed (settings : List Command) (interval off : Nat) (patch : UInt8) :
    List Exchange → Prop where
  | unstopped {trace : List Exchange} (prompt : Prompt trace)
      (issued : commands trace <+: settings ++ [.stop]) : Timed settings interval off patch trace
  | restarted {before wait : List Exchange} {start : Exchange} (prompt : Prompt before)
      (issued : commands before = settings ++ [.stop]) (settled : Settled interval off wait)
      (starts : start.command? = some (.start patch)) :
      Timed settings interval off patch (before ++ wait ++ [start])

/-- What is asked for, in its order, with what came of it. -/
structure InOrder (settings : List Command) (interval off : Nat) (patch : UInt8)
    (trace : List Exchange) (result : Except WifiError Unit) : Prop where
  in_order : commands trace <+: settings ++ [.stop, .start patch]
  ok_iff : result = .ok () ↔ commands trace = settings ++ [.stop, .start patch] ∧ Faultless trace
  /-- The first command that fails is the last, and its status is the error. -/
  error_iff : ∀ failure, result = .error failure ↔ ∃ earlier last status,
    trace = earlier ++ [last] ∧ Faultless earlier ∧ last.failure? = some status ∧
      failure = .command status
  timed : Timed settings interval off patch trace

section Law

variable {settings : List Command} {interval : Nat} {off : UInt32} {patch : UInt8}
  {trace : List Exchange} {result : Except WifiError Unit}
  (run : Performed interval (restartTasks settings off patch) trace result)

include run

theorem timed_of_performed (positive : 0 < interval) :
    Timed settings interval off.toNat patch trace := by
  rcases run.split with ⟨_, _, stopped⟩ | ⟨before, _, rfl, passed, rest⟩
  · have issued := stopped.commands_isPrefix
    rw [taskCommands_demands] at issued
    exact .unstopped stopped.prompt issued
  · have issued := passed.commands_eq
    rw [taskCommands_demands] at issued
    cases rest with
    | settle waited start =>
      have settled := settled_of_waited waited positive
      rw [← List.append_assoc]
      cases start with
      | demand _ more =>
        cases more
        exact .restarted passed.prompt issued settled rfl
      | refused _ => exact .restarted passed.prompt issued settled rfl

theorem inOrder_of_performed (positive : 0 < interval) (other : .disconnect ∉ settings) :
    InOrder settings interval off.toNat patch trace result := by
  -- No failure is passed over, so a procedure that fails has failed with its last command.
  have fails := run.failsLast (isStrict_restartTasks other off patch)
  refine ⟨?_, ⟨?_, ?_⟩, fun failure ↦ ⟨?_, ?_⟩, timed_of_performed run positive⟩
  · rw [← taskCommands_restartTasks settings off patch]
    exact run.commands_isPrefix
  · rintro rfl
    rw [← taskCommands_restartTasks settings off patch]
    exact ⟨run.commands_eq, fails.faultless_of_ok⟩
  · intro ⟨_, faultless⟩
    cases result with
    | ok _ => rfl
    | error failure =>
      obtain ⟨earlier, last, _, status, rfl, -, -, failed, -⟩ := run.stopped
      rw [faultless last (List.mem_append_right _ List.mem_cons_self)] at failed
      cases failed
  · rintro rfl
    obtain ⟨_, _, _, status, -, -, -, -, rfl⟩ := run.stopped
    cases fails with
    | faultless _ none => exact absurd rfl (none status)
    | failed faultless failed => exact ⟨_, _, status, rfl, faultless, failed, rfl⟩
  · rintro ⟨earlier, last, status, rfl, -, failed, rfl⟩
    exact (fails.failed_iff status).mpr
      ⟨last, List.mem_append_right _ List.mem_cons_self, failed⟩

end Law

/-! ### Changes -/

theorem Mac.length_pos : 0 < 6 := by decide

inductive Restart where
  | staticIp (ip netmask gateway dns : Ipv4)
  | dhcp
  | hardware (mac : Mac) (assigned : mac.get ⟨0, Mac.length_pos⟩ ≠ 0)
  | reboot (patch : UInt8)

namespace Restart

/-- What is stored before the chip is stopped. -/
def settings : Restart → List Command
  | staticIp ip netmask gateway dns => [.configureIp (Wire.swapBytes ip.word)
      (Wire.swapBytes netmask.word) (Wire.swapBytes gateway.word) (Wire.swapBytes dns.word)]
  | dhcp => [.configureIp 0 0 0 0]
  | hardware mac _ => [.writeMac mac]
  | reboot _ => []

/-- How long the chip is off. -/
def off (config : Config) : Restart → UInt32
  | reboot _ => config.rebootDelay
  | _ => config.applyDelay

def patch : Restart → UInt8
  | reboot patch => patch
  | _ => 0

def perform {σ : Type} [Layer σ] : Restart → StationM σ Unit
  | staticIp ip netmask gateway dns => Station.setStaticIp ip netmask gateway dns
  | dhcp => Station.setDhcp
  | hardware mac _ => Station.setMac mac
  | reboot patch => Station.reboot patch

theorem disconnect_not_mem_settings (restart : Restart) : .disconnect ∉ restart.settings := by
  cases restart <;> simp [settings]

end Restart

namespace Station

variable {σ α β : Type} {station : Station σ} {config : Config}

/-- The operation leaves all but the host as it is. -/
def Steadies (op : StationM σ α) : Prop := ∀ station, Steady station (op station).2

theorem Steadies.bind {op : StationM σ α} {next : α → StationM σ β} (first : Steadies op)
    (rest : ∀ value, Steadies (next value)) : Steadies (op >>= next) := by
  intro station
  have steady := first station
  rw [bind_apply]
  rcases hop : op station with ⟨failure | value, after⟩ <;> rw [hop] at steady
  · exact steady
  · exact steady.trans (rest value after)

theorem steadies_view {next : Station σ → StationM σ α} (rest : ∀ station, Steadies (next station)) :
    Steadies (get >>= next) := fun station ↦ rest station station

variable [Layer σ]

theorem steadies_command (request : Command) : Steadies (command (σ := σ) request) := by
  intro station
  obtain ⟨_, _, _, steady⟩ := command_traces request station
  exact steady

theorem steadies_powerCycle (off : UInt32) (patch : UInt8) :
    Steadies (powerCycle (σ := σ) off patch) := by
  have settles : Steadies (liftM (settle (σ := σ) off) : StationM σ Unit) := by
    intro station
    obtain ⟨_, _, _, steady⟩ := settle_traces off station
    exact steady
  exact (steadies_command .stop).bind fun _ ↦ settles.bind fun _ ↦ steadies_command (.start patch)

/-- Stores a setting and restarts the chip with it. -/
def change (request : Command) : StationM σ Unit := do
  let _ ← command (σ := σ) request
  powerCycle (← get).config.applyDelay 0

theorem steadies_change (request : Command) : Steadies (change (σ := σ) request) :=
  (steadies_command request).bind fun _ ↦ steadies_view fun _ ↦ steadies_powerCycle _ 0

theorem follows_change (request : Command) :
    Follows config (change (σ := σ) request)
      (performs config.interval (restartTasks [request] config.applyDelay 0)) := by
  rw [← demands_append_cycleTasks, ← performs_append]
  refine (follows_command request).bind fun _ ↦ follows_get fun before same ↦ ?_
  rw [same]
  exact follows_powerCycle config.applyDelay 0

section Started

variable (started : station.isInitialized = true)

include started

theorem setStaticIp_of_started (ip netmask gateway dns : Ipv4) :
    setStaticIp ip netmask gateway dns station =
      change (.configureIp (Wire.swapBytes ip.word) (Wire.swapBytes netmask.word)
        (Wire.swapBytes gateway.word) (Wire.swapBytes dns.word)) station := by
  simp only [Ipv4.swapBytes_word]
  exact requireInitialized_bind_of_started started _

theorem setMac_of_assigned {mac : Mac} (assigned : mac.get ⟨0, Mac.length_pos⟩ ≠ 0) :
    setMac mac station = change (.writeMac mac) station := by
  refine (requireInitialized_bind_of_started started _).trans ?_
  rw [if_neg (show ¬ mac[0] = 0 from assigned)]
  rfl

theorem setMac_of_unassigned {mac : Mac} (unassigned : mac.get ⟨0, Mac.length_pos⟩ = 0) :
    setMac mac station = (.error .invalidArgument, station) := by
  refine (requireInitialized_bind_of_started started _).trans ?_
  rw [if_pos (show mac[0] = 0 from unassigned)]
  rfl

/-- Each change stores its setting, if it has one, and restarts the chip. -/
theorem restart_run (restart : Restart) :
    ∃ trace, Asked station trace (restart.perform station).2 ∧
      Steady station (restart.perform station).2 ∧
      Performed station.config.interval (restartTasks restart.settings
        (restart.off station.config) restart.patch) trace (restart.perform station).1 := by
  have changed (request : Command) : ∃ trace, Asked station trace (change request station).2 ∧
      Steady station (change request station).2 ∧
      Performed station.config.interval (restartTasks [request] station.config.applyDelay 0) trace
        (change request station).1 := by
    obtain ⟨trace, asked, run⟩ := (follows_change request).run (rfl : station.config = _)
    exact ⟨trace, asked, steadies_change request station, run⟩
  cases restart with
  | staticIp ip netmask gateway dns =>
    rw [Restart.perform, setStaticIp_of_started started]
    exact changed _
  | dhcp =>
    rw [Restart.perform, setDhcp, setStaticIp_of_started started]
    exact changed _
  | hardware mac assigned =>
    rw [Restart.perform, setMac_of_assigned started assigned]
    exact changed _
  | reboot patch =>
    have restarted : reboot patch station =
        powerCycle station.config.rebootDelay patch station :=
      requireInitialized_bind_of_started started _
    rw [Restart.perform, restarted]
    obtain ⟨trace, asked, run⟩ :=
      (follows_powerCycle station.config.rebootDelay patch).run (rfl : station.config = _)
    exact ⟨trace, asked, steadies_powerCycle _ _ station, run⟩

/-- A restart goes in order up to the first failure, which it reports, and changes nothing of the
station but its host. An address is given up by storing four zero addresses. The chip takes an
address with its first octet in the lowest byte. -/
theorem restart_inOrder (restart : Restart) :
    (∃ trace, station.host.Made trace (restart.perform station).2.host ∧
      Steady station (restart.perform station).2 ∧
      InOrder restart.settings station.config.interval (restart.off station.config).toNat
        restart.patch trace (restart.perform station).1) ∧
    (Restart.dhcp.perform : StationM σ Unit) = (Restart.staticIp .unspecified .unspecified
      .unspecified .unspecified).perform ∧
    ∀ address : Ipv4,
      (Wire.toLittle 4 (Wire.swapBytes address.word).toNat).reverse =
        [address.d, address.c, address.b, address.a] ∧
      Wire.swapBytes (Wire.swapBytes address.word) = address.word ∧
      (Wire.toLittle 4 address.word.toNat).reverse = address.octets := by
  refine ⟨?_, rfl, fun address ↦ ⟨?_, Wire.swapBytes_swapBytes _, ?_⟩⟩
  · obtain ⟨trace, asked, steady, run⟩ := restart_run started restart
    exact ⟨trace, asked.host, steady,
      inOrder_of_performed run station.config.interval_pos restart.disconnect_not_mem_settings⟩
  · rw [Wire.toLittle_swapBytes, List.reverse_reverse, Ipv4.toLittle_word]
    rfl
  · rw [Ipv4.toLittle_word, List.reverse_reverse]

end Started

/-- The chip takes the address and stops, but does not start again. -/
def stuckStation : Station Bench.Chip where
  host := { layer := { results := [("start", [-7])] } }
  config := { applyDelay := 25 }
  stage := .connected

def moved : Restart := .staticIp ⟨10, 0, 0, 2⟩ ⟨255, 0, 0, 0⟩ ⟨10, 0, 0, 1⟩ ⟨8, 8, 4, 4⟩

theorem restart_inOrder_stuck :
    stuckStation.isInitialized = true ∧
      commands (moved.perform stuckStation).2.host.history.reverse =
        [.configureIp 0x0200000A 0xFF 0x0100000A 0x04040808, .stop, .start 0] ∧
      (moved.perform stuckStation).1.toBool = false ∧
      ∃ trace, stuckStation.host.Made trace (moved.perform stuckStation).2.host ∧
        Steady stuckStation (moved.perform stuckStation).2 ∧
        InOrder moved.settings stuckStation.config.interval 25 0 trace
          (moved.perform stuckStation).1 :=
  ⟨rfl, by decide +kernel, by decide +kernel, (restart_inOrder rfl moved).1⟩

end Station

end SpiWifi.Wlan
