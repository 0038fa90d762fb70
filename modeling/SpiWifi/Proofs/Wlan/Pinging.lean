import SpiWifi.Bench.Chip
import SpiWifi.Proofs.Events.Chronicle
import SpiWifi.Proofs.Wlan.WaitSchedule
import SpiWifi.Wlan.Station.Reach

/-!
Pinging. A ping forgets the reports that came in before it, asks the chip once, and polls for twice
the time that the pings may take. Its answer is in the last report of its own window, which ends
with the first poll behind a report. So two stations that only differ in earlier ping reports get
the same answer.
-/

set_option autoImplicit false
set_option relaxedAutoImplicit false

namespace SpiWifi

open Chip Events

namespace Events.Record

variable {record : Record} {change : Change}

/-- What becomes of the rest of a record does not hang on its ping report. -/
theorem resetPing_undergo (record : Record) (change : Change) :
    (record.undergo change).resetPing = (record.resetPing.undergo change).resetPing := by
  cases change with
  | report opcode args =>
    show (record.apply opcode args).resetPing = (record.resetPing.apply opcode args).resetPing
    unfold apply
    repeat' split
    all_goals rfl
  | clearFlags => rfl
  | reopen socket => rfl
  | resetPing => rfl

/-- A ping report is all forgotten by a reset. -/
theorem resetPing_undergo_of_ping {args : List UInt8} (reports : change.ping? = some args) :
    (record.undergo change).resetPing = record.resetPing := by
  rw [undergo_of_ping reports]
  rfl

/-- What happens to records that agree but for their ping reports keeps them so, and ping reports
do not matter for that. -/
theorem resetPing_foldl_undergo {one other : Record} (same : one.resetPing = other.resetPing)
    (history : List Change) :
    (history.foldl undergo one).resetPing =
      ((history.filter (·.ping?.isNone)).foldl undergo other).resetPing := by
  induction history generalizing one other with
  | nil => exact same
  | cons change rest ih =>
    cases reports : change.ping? with
    | some args =>
      rw [List.filter_cons_of_neg (by simp [reports])]
      exact ih ((resetPing_undergo_of_ping reports).trans same)
    | none =>
      rw [List.filter_cons_of_pos (by simp [reports])]
      refine ih ?_
      rw [resetPing_undergo, same, ← resetPing_undergo]

/-- What a ping answers by the record: the number that the last report has, if there is one. -/
def answered (record : Record) : UInt32 :=
  if record.pingCount = 0 then 0 else record.ping.received

end Events.Record

namespace Chip

/-- The arguments of a ping report. -/
def Notice.ping? (notice : Notice) : Option (List UInt8) :=
  (Change.report notice.opcode notice.args).ping?

/-- The arguments of the ping reports among some reports. -/
def pingReports (notices : List Notice) : List (List UInt8) := notices.filterMap Notice.ping?

@[simp] theorem pingReports_append (first second : List Notice) :
    pingReports (first ++ second) = pingReports first ++ pingReports second := List.filterMap_append

end Chip

namespace Host

/-- A record counts the ping reports, modulo 2^32, and keeps the last of them. -/
theorem pings_applyNotices (record : Record) (notices : List Notice) :
    (applyNotices record notices).pingCount =
        record.pingCount + UInt32.ofNat (pingReports notices).length ∧
      (applyNotices record notices).ping =
        ((pingReports notices).getLast?.map PingReport.decode).getD record.ping := by
  induction notices using List.reverseRecOn with
  | nil => exact ⟨(UInt32.add_zero _).symm, rfl⟩
  | append_singleton notices notice ih =>
    obtain ⟨count, last⟩ := ih
    have next : applyNotices record (notices ++ [notice]) =
        (applyNotices record notices).undergo (.report notice.opcode notice.args) :=
      List.foldl_concat ..
    rw [next, pingReports_append]
    cases reports : (Change.report notice.opcode notice.args).ping? with
    | none =>
      have silent : pingReports [notice] = [] := List.filterMap_cons_none reports
      obtain ⟨sameCount, sameLast⟩ :=
        (Record.undergone (applyNotices record notices)
          (.report notice.opcode notice.args)).ping_eq nofun reports
      rw [sameCount, sameLast, silent, List.append_nil]
      exact ⟨count, last⟩
    | some args =>
      have one : pingReports [notice] = [args] := List.filterMap_cons_some reports
      rw [Record.undergo_of_ping reports, one, List.length_append, List.length_singleton,
        List.getLast?_concat, UInt32.ofNat_add, ← UInt32.add_assoc, ← count]
      exact ⟨rfl, rfl⟩

section Window

variable {record : Record} {trace : List Exchange}

theorem answered_of_silent (silent : pingReports (reports trace) = []) :
    (recordAfter record.resetPing trace).answered = 0 := by
  have count := (pings_applyNotices record.resetPing (reports trace)).1
  rw [silent] at count
  exact if_pos count

variable (countable : (pingReports (reports trace)).length < UInt32.size)

include countable

/-- Once the earlier reports are forgotten the count shows whether a report has come in since. -/
theorem pingCount_pos_iff {earlier : List Exchange} (begins : earlier <+: trace) :
    0 < (recordAfter record.resetPing earlier).pingCount ↔ pingReports (reports earlier) ≠ [] := by
  obtain ⟨later, rfl⟩ := begins
  rw [reports_append, pingReports_append, List.length_append] at countable
  have count : (recordAfter record.resetPing earlier).pingCount =
      0 + UInt32.ofNat (pingReports (reports earlier)).length :=
    (pings_applyNotices record.resetPing (reports earlier)).1
  rw [count, UInt32.zero_add, UInt32.lt_iff_toNat_lt, UInt32.toNat_ofNat', UInt32.toNat_zero,
    Nat.mod_eq_of_lt (Nat.lt_of_add_right_lt countable), List.length_pos_iff]

theorem answered_of_latest {args : List UInt8}
    (latest : (pingReports (reports trace)).getLast? = some args) :
    (recordAfter record.resetPing trace).answered = (PingReport.decode args).received := by
  have told : pingReports (reports trace) ≠ [] := fun none ↦ by
    rw [none] at latest
    cases latest
  have counted : 0 < (recordAfter record.resetPing trace).pingCount :=
    (pingCount_pos_iff countable List.prefix_rfl).mpr told
  have kept : (recordAfter record.resetPing trace).ping = PingReport.decode args := by
    rw [recordAfter, (pings_applyNotices record.resetPing _).2, latest]
    rfl
  rw [Record.answered, if_neg (UInt32.pos_iff_ne_zero.mp counted), kept]

end Window

/-! ### The history is not looked at -/

variable {σ : Type} [Layer σ] {one other : Host σ}

/-- The hosts only differ in what they have asked so far. -/
structure Alike (one other : Host σ) : Prop where
  layer : one.layer = other.layer
  record : one.record = other.record

theorem ask_alike (alike : Alike one other) (request : Request) :
    (ask request one).1 = (ask request other).1 ∧
      Alike (ask request one).2 (ask request other).2 := by
  obtain ⟨layer, record, history⟩ := one
  obtain ⟨sameLayer, sameRecord⟩ := alike
  dsimp only at sameLayer sameRecord
  subst sameLayer sameRecord
  exact ⟨rfl, rfl, rfl⟩

theorem waitLoop_alike (done : Record → Bool) (step timeout waited : UInt32)
    (alike : Alike one other) :
    (waitLoop done step timeout waited one).1 = (waitLoop done step timeout waited other).1 ∧
      Alike (waitLoop done step timeout waited one).2
        (waitLoop done step timeout waited other).2 := by
  induction waited using waitLoop.induct step timeout generalizing one other with
  | case1 waited ih =>
    have polled : Alike (poll one).2 (poll other).2 := (ask_alike alike .poll).2
    rw [waitLoop_apply done step timeout waited one, waitLoop_apply done step timeout waited other,
      polled.record]
    by_cases shown : done (poll other).2.record = true
    · rw [if_pos shown, if_pos shown]
      exact ⟨rfl, polled⟩
    · rw [if_neg shown, if_neg shown]
      by_cases budget : waited < timeout
      · rw [if_pos budget, if_pos budget]
        exact ih budget (ask_alike polled (.pause _)).2
      · rw [if_neg budget, if_neg budget]
        exact ⟨rfl, polled⟩

end Host

namespace Wlan

open Host

/-- What a ping asks for, and what it answers. -/
inductive Pinged (request : Command) (interval window : Nat) : List Exchange → UInt32 → Prop where
  | refused {outcome : Outcome (.command request)} {status : Status}
      (refused : outcome.answer = .error status) :
      Pinged request interval window [⟨.command request, outcome⟩] 0
  /-- The wait ends with the first poll behind a report, and the last report so far counts. -/
  | answered {outcome : Outcome (.command request)} {answer : request.Answer}
      {between : List Exchange} {last : Exchange} {args : List UInt8}
      (accepted : outcome.answer = .ok answer) (silent : commands (between ++ [last]) = [])
      (on_schedule : pollTimes (between ++ [last]) <+: schedule interval window)
      (in_time : pausedFor between ≤ window) (polls : last.isPoll)
      (first : ∀ earlier poll later, between = earlier ++ poll :: later → poll.isPoll →
        pingReports (reports (⟨.command request, outcome⟩ :: earlier ++ [poll])) = [])
      (latest : (pingReports (reports
        (⟨.command request, outcome⟩ :: between ++ [last]))).getLast? = some args) :
      Pinged request interval window (⟨.command request, outcome⟩ :: between ++ [last])
        (PingReport.decode args).received
  /-- There was no report by the end of the window. -/
  | unanswered {outcome : Outcome (.command request)} {answer : request.Answer}
      {wait : List Exchange} (accepted : outcome.answer = .ok answer)
      (silent : commands wait = []) (on_schedule : pollTimes wait = schedule interval window)
      (whole : pausedFor wait = window)
      (none : pingReports (reports (⟨.command request, outcome⟩ :: wait)) = []) :
      Pinged request interval window (⟨.command request, outcome⟩ :: wait) 0

/-- What a ping answers follows from the wait behind its request. -/
theorem pinged_of_waited {request : Command} {interval window : Nat} (positive : 0 < interval)
    {record : Record} {outcome : Outcome (.command request)} {answer : request.Answer}
    {wait : List Exchange} {met : Bool} (accepted : outcome.answer = .ok answer)
    (waited : Waited (0 < ·.pingCount) interval window
      (recordAfter record.resetPing [⟨.command request, outcome⟩]) wait met)
    (countable : (pingReports (reports (⟨.command request, outcome⟩ :: wait))).length <
      UInt32.size) :
    Pinged request interval window (⟨.command request, outcome⟩ :: wait)
      (recordAfter record.resetPing (⟨.command request, outcome⟩ :: wait)).answered := by
  -- The request counts to the window: a report that comes in with it ends the first poll.
  have shown_iff {earlier : List Exchange} (begins : earlier <+: wait) :
      decide (0 < (recordAfter (recordAfter record.resetPing [⟨.command request, outcome⟩])
          earlier).pingCount) = true ↔
        pingReports (reports (⟨.command request, outcome⟩ :: earlier)) ≠ [] := by
    rw [decide_eq_true_iff, ← recordAfter_append]
    exact pingCount_pos_iff countable (List.cons_prefix_cons.mpr ⟨rfl, begins⟩)
  have told_iff := shown_iff List.prefix_rfl
  rw [waited.done_eq] at told_iff
  have exact := waited.exact positive
  cases met with
  | false =>
    obtain ⟨on_schedule, -, -, whole⟩ := exact.in_vain rfl
    have none := not_not.mp (mt told_iff.mpr Bool.false_ne_true)
    rw [answered_of_silent none]
    exact .unanswered accepted exact.commands_eq on_schedule whole none
  | true =>
    have latest := List.getLast?_eq_some_getLast (told_iff.mp rfl)
    rw [answered_of_latest countable latest]
    obtain ⟨between, last, rfl, polls⟩ := exact.ends_polling
    have in_time : pausedFor between ≤ window := by
      have within := waited.pausedFor_le
      rw [pausedFor_append] at within
      exact Nat.le_of_add_right_le within
    refine .answered accepted exact.commands_eq exact.on_schedule in_time polls ?_ latest
    rintro earlier poll later rfl served
    have hidden := exact.hidden served
    have begins : earlier ++ [poll] <+: earlier ++ poll :: later ++ [last] :=
      ⟨later ++ [last], by simp only [List.append_assoc, List.cons_append, List.nil_append]⟩
    exact not_not.mp (mt (shown_iff begins).mpr (Bool.not_eq_true _ ▸ hidden))

namespace Station

variable {σ α β : Type} {station : Station σ}

theorem andThen_apply (op : StationStateM σ α) (next : α → StationStateM σ β)
    (station : Station σ) : (op >>= next) station = next (op station).1 (op station).2 := rfl

/-- The station once it has forgotten the ping reports. -/
def unpinged (station : Station σ) : Station σ := (onRecord Record.resetPing station).2

/-- The stations only differ in ping reports that have come in. -/
structure PingsApart (one other : Station σ) : Prop where
  layer : one.host.layer = other.host.layer
  config : one.config = other.config
  stage : one.stage = other.stage
  record : ∃ (start : Record) (earlier others : List Change),
    one.host.record = earlier.foldl Record.undergo start ∧
    other.host.record = others.foldl Record.undergo start ∧
    earlier.filter (·.ping?.isNone) = others.filter (·.ping?.isNone)

namespace PingsApart

variable {one other : Station σ}

theorem resetPing (apart : PingsApart one other) :
    one.host.record.resetPing = other.host.record.resetPing := by
  obtain ⟨start, earlier, others, here, there, same⟩ := apart.record
  rw [here, there, Record.resetPing_foldl_undergo rfl earlier,
    Record.resetPing_foldl_undergo rfl others, same]

theorem isInitialized (apart : PingsApart one other) :
    one.isInitialized = other.isInitialized := by
  rw [Station.isInitialized, apart.stage, Station.isInitialized]

theorem leased (apart : PingsApart one other) :
    (one.isLinkUp && one.isLeased) = (other.isLinkUp && other.isLeased) := by
  have flags : one.host.record.flags = other.host.record.flags :=
    (congrArg Record.flags apart.resetPing :)
  rw [isLinkUp, isLeased, flags, isLinkUp, isLeased]

end PingsApart

def pingCommand (ip : Net.Ipv4) (attempts : UInt8) (timeout : UInt16) (size : UInt8) : Command :=
  .sendPing (Wire.swapBytes ip.word) attempts.toUInt32 size.toUInt32 timeout.toUInt32

/-- How long the chip has to report. -/
def pingWindow (attempts : UInt8) (timeout : UInt16) : UInt32 :=
  timeout.toUInt32 * attempts.toUInt32 * 2

/-- No product on the way to the window leaves the range. -/
theorem toNat_pingWindow (attempts : UInt8) (timeout : UInt16) :
    (timeout.toUInt32 * attempts.toUInt32).toNat = timeout.toNat * attempts.toNat ∧
      (pingWindow attempts timeout).toNat = timeout.toNat * attempts.toNat * 2 := by
  have most : timeout.toNat * attempts.toNat ≤ 0xFFFF * 0xFF :=
    Nat.mul_le_mul (Nat.le_of_lt_succ timeout.toNat_lt) (Nat.le_of_lt_succ attempts.toNat_lt)
  have product : (timeout.toUInt32 * attempts.toUInt32).toNat =
      timeout.toNat * attempts.toNat := by
    rw [UInt32.toNat_mul, UInt16.toNat_toUInt32, UInt8.toNat_toUInt32]
    omega
  refine ⟨product, ?_⟩
  have two : (2 : UInt32).toNat = 2 := rfl
  rw [pingWindow, UInt32.toNat_mul, product, two]
  omega

variable [Layer σ]

section Equations

variable (ip : Net.Ipv4) (attempts : UInt8) (timeout : UInt16) (size : UInt8)

theorem ping_of_unleased (unleased : (station.isLinkUp && station.isLeased) = false) :
    ping ip attempts timeout size station = (0, station) := by
  show (if (!(station.isInitialized && station.isLinkUp && station.isLeased)) = true then pure 0
    else _ : StationStateM σ UInt32) station = _
  rw [Bool.and_assoc, unleased, Bool.and_false]
  rfl

variable {ip attempts timeout size} (started : station.isInitialized = true)
  (leased : (station.isLinkUp && station.isLeased) = true)

include started leased

theorem ping_of_refused {status : Status}
    (refused : (ask (pingCommand ip attempts timeout size) station.unpinged).1 = .error status) :
    ping ip attempts timeout size station =
      (0, (ask (pingCommand ip attempts timeout size) station.unpinged).2) := by
  rw [pingCommand, Net.Ipv4.swapBytes_word, unpinged] at refused ⊢
  show (if (!(station.isInitialized && station.isLinkUp && station.isLeased)) = true then pure 0
    else _ : StationStateM σ UInt32) station = _
  rw [Bool.and_assoc, leased, started, if_neg (by decide), andThen_apply, andThen_apply, refused]
  rfl

/-- What the record shows after the wait decides. -/
theorem ping_of_accepted {answer : (pingCommand ip attempts timeout size).Answer}
    (accepted : (ask (pingCommand ip attempts timeout size) station.unpinged).1 = .ok answer)
    {after : Station σ}
    (waited : (waitUntil (pingWindow attempts timeout) (0 < ·.pingCount)
      (ask (pingCommand ip attempts timeout size) station.unpinged).2).2 = after) :
    ping ip attempts timeout size station =
      (after.host.record.answered, after) := by
  rw [pingCommand, Net.Ipv4.swapBytes_word, unpinged] at waited
  unfold pingCommand at accepted answer
  rw [Net.Ipv4.swapBytes_word, unpinged] at accepted
  show (if (!(station.isInitialized && station.isLinkUp && station.isLeased)) = true then pure 0
    else _ : StationStateM σ UInt32) station = _
  rw [Bool.and_assoc, leased, started, if_neg (by decide), andThen_apply, andThen_apply, accepted,
    ← waited]
  rfl

/-- A ping asks once and waits for what came of it. -/
theorem ping_traces :
    ∃ trace, station.unpinged.host.Made trace (ping ip attempts timeout size station).2.host ∧
      Steady station (ping ip attempts timeout size station).2 ∧
      commands trace = [pingCommand ip attempts timeout size] ∧
      ((pingReports (reports trace)).length < UInt32.size →
        Pinged (pingCommand ip attempts timeout size) station.config.interval
          (timeout.toNat * attempts.toNat * 2) trace
          (ping ip attempts timeout size station).1) := by
  obtain ⟨_, asked, ⟨outcome, rfl, answered⟩, steady⟩ :=
    ask_traces (pingCommand ip attempts timeout size) station.unpinged
  cases answer : outcome.answer with
  | error status =>
    rw [ping_of_refused started leased (answered.trans answer)]
    exact ⟨_, asked.host, steady, rfl, fun _ ↦ .refused answer⟩
  | ok value =>
    obtain ⟨wait, more, waited, still⟩ := waitUntil_traces (pingWindow attempts timeout)
      (0 < ·.pingCount) (ask (pingCommand ip attempts timeout size) station.unpinged).2
    have made := asked.host.trans more.host
    rw [ping_of_accepted started leased (answered.trans answer) rfl]
    refine ⟨_, made, steady.trans still, ?_, fun countable ↦ ?_⟩
    · rw [List.singleton_append, commands_command, waited.commands_eq]
    · rw [steady.config, (toNat_pingWindow attempts timeout).2, asked.host.record] at waited
      rw [made.record]
      exact pinged_of_waited station.config.interval_pos answer waited countable

end Equations

/-- Earlier ping reports have no part in the answer. -/
theorem ping_congr {one other : Station σ} (started : one.isInitialized = true)
    (apart : PingsApart one other) (ip : Net.Ipv4) (attempts : UInt8) (timeout : UInt16)
    (size : UInt8) :
    (ping ip attempts timeout size other).1 = (ping ip attempts timeout size one).1 := by
  cases leased : one.isLinkUp && one.isLeased with
  | false =>
    rw [ping_of_unleased _ _ _ _ leased, ping_of_unleased _ _ _ _ (apart.leased.symm.trans leased)]
  | true =>
    have running := apart.isInitialized.symm.trans started
    have lease := apart.leased.symm.trans leased
    have alike : Alike one.unpinged.host other.unpinged.host := ⟨apart.layer, apart.resetPing⟩
    obtain ⟨same, asked⟩ := ask_alike alike (.command (pingCommand ip attempts timeout size))
    cases answer : (ask (pingCommand ip attempts timeout size) one.unpinged).1 with
    | error status =>
      rw [ping_of_refused started leased answer,
        ping_of_refused running lease (same.symm.trans answer)]
    | ok value =>
      -- The settings are the same, so both poll at the same times.
      have waited := waitLoop_alike (0 < ·.pingCount) one.config.pollInterval
        (pingWindow attempts timeout) 0 asked
      have record : (waitUntil (pingWindow attempts timeout) (0 < ·.pingCount)
            (ask (pingCommand ip attempts timeout size) one.unpinged).2).2.host.record =
          (waitUntil (pingWindow attempts timeout) (0 < ·.pingCount)
            (ask (pingCommand ip attempts timeout size) other.unpinged).2).2.host.record := by
        refine waited.2.record.trans ?_
        rw [apart.config]
        rfl
      rw [ping_of_accepted started leased answer rfl,
        ping_of_accepted running lease (same.symm.trans answer) rfl]
      simp only [record]

/-- What there is to say about a ping of a station that is up. -/
structure OwnWindow (station : Station σ) (ip : Net.Ipv4) (attempts : UInt8) (timeout : UInt16)
    (size : UInt8) : Prop where
  /-- The window is in the range, and so is the product on the way to it. -/
  in_range : (timeout.toUInt32 * attempts.toUInt32).toNat = timeout.toNat * attempts.toNat ∧
    (pingWindow attempts timeout).toNat = timeout.toNat * attempts.toNat * 2
  /-- Without a link and a lease nothing is asked and nothing changes. -/
  unleased : ¬ (station.isLinkUp = true ∧ station.isLeased = true) →
    ping ip attempts timeout size station = (0, station)
  leased : station.isLinkUp = true → station.isLeased = true →
    ∃ trace, station.unpinged.host.Made trace (ping ip attempts timeout size station).2.host ∧
      Steady station (ping ip attempts timeout size station).2 ∧
      commands trace = [pingCommand ip attempts timeout size] ∧
      ((pingReports (reports trace)).length < UInt32.size →
        Pinged (pingCommand ip attempts timeout size) station.config.interval
          (timeout.toNat * attempts.toNat * 2) trace (ping ip attempts timeout size station).1)
  /-- Earlier ping reports have no part in the answer. -/
  unrelated : ∀ other, PingsApart station other →
    (ping ip attempts timeout size other).1 = (ping ip attempts timeout size station).1

/-- A ping only counts what is reported in its own window. -/
theorem ping_ownWindow (started : station.isInitialized = true) (ip : Net.Ipv4) (attempts : UInt8)
    (timeout : UInt16) (size : UInt8) : OwnWindow station ip attempts timeout size where
  in_range := toNat_pingWindow attempts timeout
  unleased := by
    intro unleased
    rw [← Bool.and_eq_true, Bool.not_eq_true] at unleased
    exact ping_of_unleased ip attempts timeout size unleased
  leased := fun linkUp leased ↦ ping_traces started (Bool.and_eq_true_iff.mpr ⟨linkUp, leased⟩)
  unrelated := fun _ apart ↦ ping_congr started apart ip attempts timeout size

/-- A station with a lease that has had some earlier reports. Two more come in with one poll, 20 ms
behind the request. -/
def pingedStation (earlier : List Change) : Station Bench.Chip where
  host := {
    layer := { reactions := [
      ("send_ping", [⟨1, 20, ⟨Wire.Opcode.pingReport, [3, 0, 0, 0, 1]⟩⟩,
        ⟨1, 20, ⟨Wire.Opcode.pingReport, [3, 0, 0, 0, 2]⟩⟩])] }
    record := earlier.foldl Record.undergo
      { flags := { linkUp := true, leased := true } } }
  config := {}
  stage := .connected

/-- The pings of a station that has been told of nine answers before. -/
def staleStation : Station Bench.Chip :=
  pingedStation [.report Wire.Opcode.pingReport [9, 0, 0, 0, 9]]

theorem ping_ownWindow_stale :
    staleStation.isInitialized = true ∧
      (ping ⟨8, 8, 4, 4⟩ 3 500 32 (pingedStation [])).1 = 2 ∧
      (ping ⟨8, 8, 4, 4⟩ 3 500 32 (pingedStation [])).1 =
        (ping ⟨8, 8, 4, 4⟩ 3 500 32 staleStation).1 ∧
      ∃ trace, staleStation.unpinged.host.Made trace
          (ping ⟨8, 8, 4, 4⟩ 3 500 32 staleStation).2.host ∧
        (pingReports (reports trace)).length < UInt32.size ∧
        Pinged (pingCommand ⟨8, 8, 4, 4⟩ 3 500 32) staleStation.config.interval 3000 trace
          (ping ⟨8, 8, 4, 4⟩ 3 500 32 staleStation).1 := by
  have law := ping_ownWindow (rfl : staleStation.isInitialized = true) ⟨8, 8, 4, 4⟩ 3 500 32
  obtain ⟨trace, made, -, -, pinged⟩ := law.leased rfl rfl
  have asked : trace = (ping ⟨8, 8, 4, 4⟩ 3 500 32 staleStation).2.host.history.reverse := by
    rw [made.history, List.reverse_append, List.reverse_reverse]
    rfl
  have countable : (pingReports (reports trace)).length < UInt32.size := by
    rw [asked]
    decide +kernel
  have apart : PingsApart staleStation (pingedStation []) :=
    ⟨rfl, rfl, rfl, _, _, _, rfl, rfl, rfl⟩
  exact ⟨rfl, by decide +kernel, law.unrelated _ apart, trace, made, countable, pinged countable⟩

end Station

end Wlan

end SpiWifi
