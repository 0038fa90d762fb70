import SpiWifi.Bench.Chip
import SpiWifi.Proofs.Events.Chronicle
import SpiWifi.Proofs.Wlan.Provisioning

/-!
What smart config comes to. Its commands come in one order and the first that fails ends it. The
credentials are put to use only after the chip has reported them, and the result tells whether the
link has come up in time behind the event mask.
-/

set_option autoImplicit false
set_option relaxedAutoImplicit false

namespace SpiWifi.Wlan

open Chip Events Host

/-! ### The law -/

def listenScript (key : Option (Vector UInt8 16)) : List Command :=
  [.setPolicy .manual, .deleteProfiles, .stop, .start 0, .createKeyEntry] ++
    (key.map fun key ↦ .writeKey key).toList ++
    [.setSmartConfigTag smartConfigTag, .startSmartConfig key.isSome]

def storeScript (key : Option (Vector UInt8 16)) : List Command :=
  (if key.isSome then [.processSmartConfig] else []) ++ [.setPolicy .stored, .stop, .start 0]

/-- All commands of smart config up to the event mask. -/
def provisionScript (key : Option (Vector UInt8 16)) : List Command :=
  listenScript key ++ storeScript key ++ [.setEventMask maskedEvents]

/-- A command on which smart config depends has failed. -/
def Aborts (status : Status) (exchange : Exchange) : Prop :=
  (∀ told, exchange.command? ≠ some (.advertise told)) ∧ exchange.failure? = some status

/-- All commands up to the event mask have been issued and have succeeded, the mask last. -/
structure Prepared (key : Option (Vector UInt8 16)) (setup : List Exchange) : Prop where
  script : scripted setup = provisionScript key
  faultless : Faultless setup
  masked : ∃ earlier mask, setup = earlier ++ [mask] ∧ TakesMask mask

/-- Behind the event mask the link has been seen in time. -/
structure LinkedInTime (config : Config) (key : Option (Vector UInt8 16)) (record : Record)
    (setup wait : List Exchange) : Prop where
  prepared : Prepared key setup
  waited : Waited (·.flags.linkUp) config.interval config.connectTimeout.toNat
    (recordAfter record setup) wait true

/-- What smart config comes to. -/
structure Provisioned (config : Config) (name : String) (key : Option (Vector UInt8 16))
    (record : Record) (trace : List Exchange) (result : Except WifiError Unit) : Prop where
  in_order : scripted trace <+: provisionScript key ++ announcement name
  failed_iff : ∀ status,
    result = .error (.command status) ↔ ∃ exchange ∈ trace, Aborts status exchange
  failed_last : ∀ status, result = .error (.command status) →
    ∃ earlier last, trace = earlier ++ [last] ∧ Faultless earlier ∧ Aborts status last
  /-- The credentials are used only after the chip has reported them since the beginning. -/
  informed : ∀ earlier exchange later, trace = earlier ++ exchange :: later →
    exchange.command? = some (.setPolicy .stored) →
    ∃ notice ∈ reports earlier, notice.opcode = Wire.Opcode.smartConfigDone
  ok_iff : result = .ok () ↔ ∃ setup wait rest, trace = setup ++ (wait ++ rest) ∧
    LinkedInTime config key record setup wait
  told_iff : (∃ told, .advertise told ∈ commands trace) ↔ name ≠ "" ∧
    ∃ setup wait settling rest, trace = setup ++ (wait ++ (settling ++ rest)) ∧
      LinkedInTime config key record setup wait ∧
      Waited (·.flags.leased) config.interval config.linkSettle.toNat
        (recordAfter record (setup ++ wait)) settling true

section Scripts

variable (config : Config) (key : Option (Vector UInt8 16))

theorem keeps_listens : Keeps (listens config key) (listenScript key) := by
  have forgets : forgetTasks.all Task.isStrict = true := rfl
  have strict : (cycleTasks config.restartDelay 0 ++ listenTasks key).all Task.isStrict = true := by
    cases key <;> rfl
  have kept := (((keeps_performs config.interval forgets).followedBy
    (keeps_dropped config.pollInterval)).followedBy
      (keeps_performs config.interval strict)).followedBy
        (keeps_heard (·.flags.smartConfigDone) config.interval config.smartConfigTimeout.toNat)
  cases key <;> exact kept

theorem keeps_stores : Keeps (stores config key) (listenScript key ++ storeScript key) := by
  have strict : (decryptTasks key ++ [Task.demand (.setPolicy .stored)] ++
      cycleTasks config.restartDelay 0).all Task.isStrict = true := by
    cases key <;> rfl
  have kept := (keeps_listens config key).followedBy (keeps_performs config.interval strict)
  cases key <;> exact kept

theorem keeps_prepares : Keeps (prepares config key) (provisionScript key) :=
  (keeps_stores config key).followedBy (keeps_performs config.interval rfl)

theorem advertise_not_mem (told : List UInt8) : .advertise told ∉ provisionScript key := by
  cases key <;> simp [provisionScript, listenScript, storeScript]

theorem mask_not_mem : .setEventMask maskedEvents ∉ listenScript key ++ storeScript key := by
  cases key <;> simp [listenScript, storeScript]

theorem stored_not_mem : .setPolicy .stored ∉ listenScript key := by
  cases key <;> simp [listenScript, Policy.stored, Policy.manual]

end Scripts

variable {config : Config} {name : String} {key : Option (Vector UInt8 16)} {record : Record}
  {trace : List Exchange} {result : Except WifiError Unit}

theorem smartConfigDone_reported (shown : (recordAfter record trace).flags.smartConfigDone = true)
    (hidden : record.flags.smartConfigDone = false) :
    ∃ notice ∈ reports trace, notice.opcode = Wire.Opcode.smartConfigDone := by
  unfold recordAfter at shown
  generalize reports trace = notices at shown
  induction notices generalizing record with
  | nil => cases hidden.symm.trans shown
  | cons first rest ih =>
    by_cases told : first.opcode = Wire.Opcode.smartConfigDone
    · exact ⟨first, List.mem_cons_self, told⟩
    · have still : (record.apply first.opcode first.args).flags.smartConfigDone = false := by
        have law := (Record.undergone record (.report first.opcode first.args)).smartConfigDone_eq
        rw [Change.flag?, if_neg told, if_neg List.not_mem_nil] at law
        exact law.trans hidden
      obtain ⟨notice, mem, opcode⟩ := ih still shown
      exact ⟨notice, List.mem_cons_of_mem _ mem, opcode⟩

theorem concludes_not_aborts (run : concludes config name record trace result) {status : Status}
    {exchange : Exchange} (mem : exchange ∈ trace) : ¬ Aborts status exchange := by
  intro ⟨vital, fails⟩
  obtain ⟨request, command⟩ := Exchange.exists_command?_of_failure? fails
  rw [eq_advertise_of_concludes run (command?_mem mem command)] at command
  exact vital _ command

theorem not_told_of_prepares (run : prepares config key record trace result) (told : List UInt8) :
    .advertise told ∉ commands trace :=
  (keeps_prepares config key).not_mem_commands (advertise_not_mem key told) nofun run

theorem aborts_iff (run : prepares config key record trace result) {status : Status}
    {exchange : Exchange} (mem : exchange ∈ trace) :
    Aborts status exchange ↔ exchange.failure? = some status :=
  ⟨fun aborts ↦ aborts.2, fun fails ↦ ⟨fun told command ↦
    not_told_of_prepares run told (command?_mem mem command), fails⟩⟩

theorem prepared_of_prepares (run : prepares config key record trace (.ok ())) :
    Prepared key trace where
  script := (keeps_prepares config key).complete run
  faultless := ((keeps_prepares config key).failsLast run).faultless_of_ok
  masked := by
    cases run with
    | @passed earlier _ _ _ rest =>
      cases rest with
      | @demand _ outcome _ _ _ _ accepted rest =>
        cases rest
        exact ⟨earlier, _, rfl, rfl, Exchange.failure?_ok accepted⟩

/-- Behind the event mask the conclusion follows. -/
theorem concludes_of_prepared {setup later : List Exchange} (prepared : Prepared key setup)
    (run : provisions config name key record (setup ++ later) result) :
    concludes config name (recordAfter record setup) later result := by
  obtain ⟨earlier, mask, rfl, command, succeeds⟩ := prepared.masked
  rw [provisions, prepares, followedBy_assoc, ← List.append_cons] at run
  obtain ⟨early, middle, rfl, -, masks⟩ :=
    (keeps_stores config key).behind (mask_not_mem key) (by decide) run command
  generalize whole : middle ++ mask :: later = rest at masks
  -- Nothing before and nothing behind asks for the mask: it is the first exchange left.
  have first {exchange : Exchange} {others : List Exchange} (begins : rest = exchange :: others)
      (other : ∀ exchange ∈ others, exchange.command? ≠ some (.setEventMask maskedEvents)) :
      middle = [] ∧ mask = exchange ∧ later = others := by
    rw [← whole] at begins
    exact split_unique begins.symm (List.forall_mem_nil _) other command
  cases masks with
  | stopped stopped =>
    cases stopped with
    | demand _ rest => cases rest
    | refused refused =>
      obtain ⟨-, rfl, -⟩ := first rfl (List.forall_mem_nil _)
      rw [Exchange.failure?_error refused] at succeeds
      cases succeeds
  | passed passed rest =>
    cases passed with
    | demand accepted none =>
      cases none
      obtain ⟨rfl, rfl, rfl⟩ := first rfl fun exchange mem asks ↦ by
        cases eq_advertise_of_concludes rest (command?_mem mem asks)
      rw [← recordAfter_append] at rest
      rw [List.append_nil]
      exact rest

/-- Once the link has been seen in time the announcement follows. -/
theorem announces_of_linked {setup wait rest : List Exchange}
    (linked : LinkedInTime config key record setup wait)
    (run : provisions config name key record (setup ++ (wait ++ rest)) result) :
    announces config name (recordAfter record (setup ++ wait)) rest result := by
  have concluded := concludes_of_prepared linked.prepared run
  generalize whole : wait ++ rest = tail at concluded
  rw [recordAfter_append]
  cases concluded with
  | stopped stopped =>
    cases stopped with
    | missed missed =>
      rw [← List.append_nil tail] at whole
      obtain ⟨-, impossible⟩ := linked.waited.unique missed whole
      cases impossible
  | passed passed announced =>
    cases passed with
    | heard heard =>
      obtain ⟨rfl, -⟩ := linked.waited.unique heard whole
      rw [List.append_cancel_left whole]
      exact announced

/-! ### What the law says -/

section Law

variable (run : provisions config name key record trace result)

include run

theorem provisions_in_order : scripted trace <+: provisionScript key ++ announcement name := by
  cases run with
  | stopped stopped =>
    exact ((keeps_prepares config key).in_order stopped).trans (List.prefix_append _ _)
  | passed passed rest =>
    have plain : (announcement name).filter (· ≠ .disconnect) = announcement name := by
      unfold announcement
      split <;> rfl
    rw [scripted_append, (keeps_prepares config key).complete passed, ← plain]
    exact (List.prefix_append_right_inj _).mpr ((concludes_commands rest).filter _)

theorem provisions_failed_iff (status : Status) :
    result = .error (.command status) ↔ ∃ exchange ∈ trace, Aborts status exchange := by
  cases run with
  | stopped stopped =>
    rw [((keeps_prepares config key).failsLast stopped).failed_iff]
    exact exists_congr fun exchange ↦ and_congr_right fun mem ↦ (aborts_iff stopped mem).symm
  | passed passed rest =>
    constructor
    · intro failed
      rcases concludes_result rest with succeeds | missed
      · cases succeeds.symm.trans failed
      · cases missed.symm.trans failed
    · intro ⟨exchange, mem, aborts⟩
      rcases List.mem_append.mp mem with mem | mem
      · have succeeds := (prepared_of_prepares passed).faultless exchange mem
        rw [aborts.2] at succeeds
        cases succeeds
      · exact absurd aborts (concludes_not_aborts rest mem)

theorem provisions_failed_last (status : Status) (failed : result = .error (.command status)) :
    ∃ earlier last, trace = earlier ++ [last] ∧ Faultless earlier ∧ Aborts status last := by
  subst failed
  cases run with
  | stopped stopped =>
    have failsLast := (keeps_prepares config key).failsLast stopped
    cases failsLast with
    | faultless _ other => exact absurd rfl (other status)
    | failed faultless fails =>
      exact ⟨_, _, rfl, faultless,
        (aborts_iff stopped (List.mem_append_right _ List.mem_cons_self)).mpr fails⟩
  | passed _ rest => rcases concludes_result rest with impossible | impossible <;> cases impossible

theorem provisions_informed (forgotten : record.flags.smartConfigDone = false)
    (earlier : List Exchange) (exchange : Exchange) (later : List Exchange)
    (split : trace = earlier ++ exchange :: later)
    (command : exchange.command? = some (.setPolicy .stored)) :
    ∃ notice ∈ reports earlier, notice.opcode = Wire.Opcode.smartConfigDone := by
  subst split
  rw [provisions, prepares, stores, followedBy_assoc, followedBy_assoc] at run
  obtain ⟨early, middle, rfl, heard, -⟩ :=
    (keeps_listens config key).behind (stored_not_mem key) (by decide) run command
  obtain ⟨notice, mem, opcode⟩ := smartConfigDone_reported (shown_of_heard heard) forgotten
  rw [reports_append]
  exact ⟨notice, List.mem_append_left _ mem, opcode⟩

theorem provisions_ok_iff : result = .ok () ↔ ∃ setup wait rest, trace = setup ++ (wait ++ rest) ∧
    LinkedInTime config key record setup wait := by
  constructor
  · intro succeeds
    subst succeeds
    cases run with
    | passed passed rest =>
      cases rest with
      | passed linked _ =>
        cases linked with
        | heard waited => exact ⟨_, _, _, rfl, prepared_of_prepares passed, waited⟩
  · intro ⟨setup, wait, rest, split, linked⟩
    subst split
    exact (announces_of_linked linked run).2

theorem provisions_told_iff : (∃ told, .advertise told ∈ commands trace) ↔ name ≠ "" ∧
    ∃ setup wait settling rest, trace = setup ++ (wait ++ (settling ++ rest)) ∧
      LinkedInTime config key record setup wait ∧
      Waited (·.flags.leased) config.interval config.linkSettle.toNat
        (recordAfter record (setup ++ wait)) settling true := by
  constructor
  · intro ⟨told, listed⟩
    cases run with
    | stopped stopped => exact absurd listed (not_told_of_prepares stopped told)
    | passed passed rest =>
      rw [commands_append] at listed
      have behind := (List.mem_append.mp listed).resolve_left (not_told_of_prepares passed told)
      cases rest with
      | stopped stopped =>
        rw [stopped.commands_eq] at behind
        cases behind
      | passed linked announced =>
        cases linked with
        | heard waited =>
          rw [commands_append, waited.commands_eq, List.nil_append] at behind
          rw [← recordAfter_append] at announced
          cases announced.1 with
          | silent leasing _ =>
            rw [leasing.commands_eq] at behind
            cases behind
          | told leasing named =>
            exact ⟨named, _, _, _, _, rfl, ⟨prepared_of_prepares passed, waited⟩, leasing⟩
  · intro ⟨named, setup, wait, settling, rest, split, linked, leasing⟩
    subst split
    obtain ⟨advertised, -⟩ := announces_of_linked linked run
    generalize whole : settling ++ rest = tail at advertised
    cases advertised with
    | silent silently silent =>
      rw [← List.append_nil tail] at whole
      obtain ⟨-, rfl⟩ := leasing.unique silently whole
      rcases silent with impossible | unnamed
      · cases impossible
      · exact absurd unnamed named
    | told _ _ =>
      refine ⟨name.toUTF8.data.toList, ?_⟩
      simp only [commands_append, commands_command, List.mem_append, List.mem_cons, true_or, or_true]

/-- Only what is reported on the way counts. -/
theorem provisioned_of_provisions (forgotten : record.flags.smartConfigDone = false) :
    Provisioned config name key record trace result :=
  ⟨provisions_in_order run, provisions_failed_iff run, provisions_failed_last run,
    provisions_informed run forgotten, provisions_ok_iff run, provisions_told_iff run⟩

end Law

namespace Station

variable {σ : Type} [Layer σ] {station : Station σ}

/-- Smart config keeps to its script and stops at the first failure. It uses the credentials only
after the chip has reported them, and it succeeds and makes the name known exactly if the link,
and a lease, come up in time behind the event mask. -/
theorem smartConfig_provisions (started : station.isInitialized = true) (patience : Nat)
    (name : String) (key : Option (Vector UInt8 16)) :
    ∃ trace, station.cleared.host.Made trace (smartConfig patience name key station).2.host ∧
      Provisioned station.config name key station.cleared.host.record trace
        (smartConfig patience name key station).1 := by
  obtain ⟨trace, made, run⟩ := smartConfig_run started patience name key
  exact ⟨trace, made, provisioned_of_provisions run rfl⟩

/-- The credentials come in with the first listening, the link and a lease with the second start. -/
def phonedStation : Station Bench.Chip where
  host := { layer := { reactions := [
    ("start_smart_config", [⟨1, 20, ⟨Wire.Opcode.smartConfigDone, []⟩⟩]),
    ("start", [⟨2, 10, ⟨Wire.Opcode.linkUp, []⟩⟩, ⟨2, 20, ⟨Wire.Opcode.leaseBound, []⟩⟩])] } }
  config := { restartDelay := 20 }
  stage := .initialized

theorem smartConfig_provisions_phoned :
    phonedStation.isInitialized = true ∧
      (smartConfig 0 "cc3k" (some (Vector.replicate 16 7)) phonedStation).1.toBool = true ∧
      ∃ trace, phonedStation.cleared.host.Made trace
          (smartConfig 0 "cc3k" (some (Vector.replicate 16 7)) phonedStation).2.host ∧
        Provisioned phonedStation.config "cc3k" (some (Vector.replicate 16 7))
          phonedStation.cleared.host.record trace
          (smartConfig 0 "cc3k" (some (Vector.replicate 16 7)) phonedStation).1 :=
  ⟨rfl, by decide +kernel, smartConfig_provisions rfl 0 "cc3k" (some (Vector.replicate 16 7))⟩

end Station

end SpiWifi.Wlan
