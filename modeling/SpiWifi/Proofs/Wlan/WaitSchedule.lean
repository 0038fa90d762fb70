import Mathlib.Algebra.Order.Floor.Div
import SpiWifi.Proofs.Wlan.Procedure

/-!
When a wait polls. A wait with a timeout polls at the multiples of its interval below the timeout,
and at the timeout. It ends at the first of these polls after which the record shows what it waits
for, so a wait in vain makes all of them and takes exactly its timeout. The counter it keeps is a
32-bit one, and neither its difference to the timeout nor its sum with a pause ever leaves the
range.
-/

set_option autoImplicit false
set_option relaxedAutoImplicit false

namespace SpiWifi

open Chip Events

namespace Chip

def Exchange.pauseLength? : Exchange → Option Nat
  | ⟨.pause millis, _⟩ => some millis.toNat
  | _ => none

/-- How long each pause among some requests is. -/
def pauseLengths (trace : List Exchange) : List Nat := trace.filterMap Exchange.pauseLength?

@[simp] theorem pauseLengths_poll (outcome : Outcome .poll) (rest : List Exchange) :
    pauseLengths (⟨.poll, outcome⟩ :: rest) = pauseLengths rest := rfl

@[simp] theorem pauseLengths_pause {millis : UInt32} (outcome : Outcome (.pause millis))
    (rest : List Exchange) :
    pauseLengths (⟨.pause millis, outcome⟩ :: rest) = millis.toNat :: pauseLengths rest := rfl

/-- How much time has passed before each poll among some requests. -/
def pollTimes : List Exchange → List Nat
  | [] => []
  | exchange :: rest =>
    (if exchange.isPoll then [0] else []) ++ (pollTimes rest).map (exchange.millis + ·)

@[simp] theorem pollTimes_poll (outcome : Outcome .poll) (rest : List Exchange) :
    pollTimes (⟨.poll, outcome⟩ :: rest) = 0 :: pollTimes rest := by
  show 0 :: (pollTimes rest).map (0 + ·) = _
  simp only [Nat.zero_add, List.map_id']

@[simp] theorem pollTimes_pause {millis : UInt32} (outcome : Outcome (.pause millis))
    (rest : List Exchange) :
    pollTimes (⟨.pause millis, outcome⟩ :: rest) = (pollTimes rest).map (millis.toNat + ·) := rfl

theorem length_pollTimes (trace : List Exchange) :
    (pollTimes trace).length = trace.countP Exchange.isPoll := by
  induction trace with
  | nil => rfl
  | cons exchange rest ih =>
    rw [pollTimes, List.length_append, List.length_map, ih, List.countP_cons]
    split <;> simp only [List.length_cons, List.length_nil] <;> omega

end Chip

namespace Host

/-- When a wait polls: at the multiples of its interval below its end, and at its end. -/
def schedule (interval timeout : Nat) : List Nat :=
  (List.range (timeout ⌈/⌉ interval)).map (· * interval) ++ [timeout]

/-- The pauses between these polls. The last is cut to what is left. -/
def pausePlan (interval timeout : Nat) : List Nat :=
  List.replicate (timeout / interval) interval ++
    if timeout % interval = 0 then [] else [timeout % interval]

section Schedule

variable {interval left : Nat}

theorem length_schedule (interval timeout : Nat) :
    (schedule interval timeout).length = timeout ⌈/⌉ interval + 1 := by
  rw [schedule, List.length_append, List.length_map, List.length_range, List.length_singleton]

example : schedule 10 25 = [0, 10, 20, 25] ∧ pausePlan 10 25 = [10, 10, 5] := by decide +kernel

theorem schedule_zero (interval : Nat) : schedule interval 0 = [0] := by
  rw [schedule, zero_ceilDiv]
  rfl

/-- After the first pause the schedule is the one of what is left. -/
theorem schedule_of_pos (positive : 0 < interval) (some : 0 < left) :
    schedule interval left =
      0 :: (schedule interval (left - min interval left)).map (min interval left + ·) := by
  rcases Nat.le_total left interval with last | more
  · have one : left ⌈/⌉ interval = 1 := by
      rw [Nat.ceilDiv_eq_add_pred_div, Nat.div_eq_iff positive]
      omega
    rw [Nat.min_eq_right last, Nat.sub_self, schedule_zero, schedule, one]
    simp
  · have another : left ⌈/⌉ interval = (left - interval) ⌈/⌉ interval + 1 := by
      rw [Nat.ceilDiv_eq_add_pred_div, Nat.ceilDiv_eq_add_pred_div,
        ← Nat.add_div_right _ positive]
      congr 1
      omega
    have whole : interval + (left - interval) = left := by omega
    rw [Nat.min_eq_left more, schedule, schedule, another, List.range_succ_eq_map]
    simp only [List.map_cons, List.map_append, List.map_map, List.map_nil, Nat.zero_mul,
      List.cons_append, whole]
    congr 3
    funext index
    show (index + 1) * interval = interval + index * interval
    rw [Nat.succ_mul, Nat.add_comm]

theorem pausePlan_of_pos (positive : 0 < interval) (some : 0 < left) :
    pausePlan interval left =
      min interval left :: pausePlan interval (left - min interval left) := by
  rcases Nat.lt_or_ge left interval with last | more
  · rw [Nat.min_eq_right (Nat.le_of_lt last), Nat.sub_self, pausePlan, pausePlan,
      Nat.div_eq_of_lt last, Nat.mod_eq_of_lt last, if_neg (Nat.ne_of_gt some)]
    simp
  · rw [Nat.min_eq_left more, pausePlan, pausePlan, Nat.div_eq_sub_div positive more,
      Nat.mod_eq_sub_mod more, List.replicate_succ, List.cons_append]

end Schedule

/-- A wait with its requests and its answer. -/
structure ExactWait (done : Record → Bool) (interval timeout : Nat) (record : Record)
    (trace : List Exchange) (met : Bool) : Prop where
  /-- There is nothing but polls and pauses, as planned, and no pause behind the last poll. -/
  commands_eq : commands trace = []
  on_schedule : pollTimes trace <+: schedule interval timeout
  as_planned : pauseLengths trace <+: pausePlan interval timeout
  ends_polling : ∃ earlier last, trace = earlier ++ [last] ∧ last.isPoll
  met_iff : met = true ↔ ∃ earlier poll later, trace = earlier ++ poll :: later ∧ poll.isPoll ∧
    done (recordAfter record (earlier ++ [poll])) = true
  stops : ∀ earlier poll later, trace = earlier ++ poll :: later → poll.isPoll →
    done (recordAfter record (earlier ++ [poll])) = true → later = []
  in_vain : met = false → pollTimes trace = schedule interval timeout ∧
    trace.countP Exchange.isPoll = timeout ⌈/⌉ interval + 1 ∧
    pauseLengths trace = pausePlan interval timeout ∧ pausedFor trace = timeout

namespace Waited

variable {done : Record → Bool} {interval left : Nat} {record : Record} {trace : List Exchange}
  {met : Bool}

theorem ends_polling (h : Waited done interval left record trace met) :
    ∃ earlier last, trace = earlier ++ [last] ∧ last.isPoll := by
  induction h with
  | met _ => exact ⟨[], _, rfl, rfl⟩
  | spent _ => exact ⟨[], _, rfl, rfl⟩
  | paused _ _ _ _ ih =>
    obtain ⟨earlier, last, rfl, polls⟩ := ih
    exact ⟨_ :: _ :: earlier, last, rfl, polls⟩

/-- The first poll that shows what is waited for is the last. -/
theorem stops (h : Waited done interval left record trace met) {earlier later : List Exchange}
    {poll : Exchange} (split : trace = earlier ++ poll :: later) (polls : poll.isPoll)
    (shown : done (recordAfter record (earlier ++ [poll])) = true) : later = [] ∧ met = true := by
  induction h generalizing earlier with
  | met _ =>
    obtain ⟨rfl, rest⟩ := List.append_eq_singleton_iff.mp split.symm |>.resolve_right nofun
    exact ⟨(List.cons.inj rest).2, rfl⟩
  | spent hidden =>
    obtain ⟨rfl, rest⟩ := List.append_eq_singleton_iff.mp split.symm |>.resolve_right nofun
    obtain ⟨rfl, -⟩ := List.cons.inj rest
    exact absurd (hidden.symm.trans shown) nofun
  | @paused left record first millis pause trace met hidden _ _ _ ih =>
    rcases earlier with _ | ⟨_, _ | ⟨_, earlier⟩⟩
    · obtain ⟨rfl, -⟩ := List.cons.inj split
      exact absurd (hidden.symm.trans shown) nofun
    · obtain ⟨-, rest⟩ := List.cons.inj split
      obtain ⟨rfl, -⟩ := List.cons.inj rest
      cases polls
    · obtain ⟨rfl, rest⟩ := List.cons.inj split
      obtain ⟨rfl, behind⟩ := List.cons.inj rest
      refine ih behind ?_
      rw [← recordAfter_append]
      exact shown

/-- The polls and the pauses are the first of those that are planned, and all of them if the wait
is in vain. -/
theorem as_planned (h : Waited done interval left record trace met) (positive : 0 < interval) :
    ∃ polls pauses, schedule interval left = pollTimes trace ++ polls ∧
      pausePlan interval left = pauseLengths trace ++ pauses ∧
      (met = false → polls = [] ∧ pauses = []) := by
  induction h with
  | @met left _ _ _ =>
    rcases Nat.eq_zero_or_pos left with rfl | some
    · exact ⟨[], _, schedule_zero _, rfl, nofun⟩
    · exact ⟨_, _, schedule_of_pos positive some, rfl, nofun⟩
  | spent _ =>
    refine ⟨[], [], schedule_zero _, ?_, fun _ ↦ ⟨rfl, rfl⟩⟩
    rw [pausePlan, Nat.zero_div, Nat.zero_mod]
    rfl
  | @paused _ _ _ millis _ _ _ _ some length _ ih =>
    obtain ⟨polls, pauses, scheduled, planned, all⟩ := ih
    refine ⟨polls.map (millis.toNat + ·), pauses, ?_, ?_, ?_⟩
    · rw [schedule_of_pos positive some, ← length, scheduled, List.map_append, pollTimes_poll,
        pollTimes_pause, List.cons_append]
    · rw [pausePlan_of_pos positive some, ← length, planned, pauseLengths_poll,
        pauseLengths_pause, List.cons_append]
    · intro vain
      obtain ⟨rfl, rfl⟩ := all vain
      exact ⟨rfl, rfl⟩

theorem exact (h : Waited done interval left record trace met) (positive : 0 < interval) :
    ExactWait done interval left record trace met := by
  obtain ⟨polls, pauses, scheduled, planned, all⟩ := h.as_planned positive
  refine ⟨h.commands_eq, ⟨polls, scheduled.symm⟩, ⟨pauses, planned.symm⟩, h.ends_polling, ⟨?_, ?_⟩,
    fun _ _ _ split polls shown ↦ (h.stops split polls shown).1, ?_⟩
  · intro shown
    obtain ⟨earlier, last, rfl, polls⟩ := h.ends_polling
    exact ⟨earlier, last, [], rfl, polls, h.done_eq.trans shown⟩
  · rintro ⟨earlier, poll, later, split, polls, shown⟩
    exact (h.stops split polls shown).2
  · intro vain
    obtain ⟨rfl, rfl⟩ := all vain
    rw [List.append_nil] at scheduled planned
    subst vain
    refine ⟨scheduled.symm, ?_, planned.symm, h.pausedFor_eq⟩
    rw [← length_pollTimes, ← scheduled, length_schedule]

end Waited

/-- No poll before the last shows what is waited for. -/
theorem ExactWait.hidden {done : Record → Bool} {interval timeout : Nat} {record : Record}
    {earlier later : List Exchange} {poll last : Exchange} {met : Bool}
    (h : ExactWait done interval timeout record (earlier ++ poll :: later ++ [last]) met)
    (polls : poll.isPoll) : done (recordAfter record (earlier ++ [poll])) = false := by
  rw [← Bool.not_eq_true]
  intro shown
  exact List.append_ne_nil_of_right_ne_nil later (List.cons_ne_nil last [])
    (h.stops earlier poll (later ++ [last]) (List.append_assoc ..) polls shown)

/-! ### The counter -/

/-- The pause of a wait that has used so much of its time. -/
def nextPause (step timeout waited : UInt32) : UInt32 := min (max step 1) (timeout - waited)

/-- One round of the counter in plain numbers: the difference is not negative, and the sum stays
within the timeout, so it does not saturate. -/
structure ExactRound (step timeout waited : UInt32) : Prop where
  difference : waited.toNat + (timeout - waited).toNat = timeout.toNat
  pause : (nextPause step timeout waited).toNat =
    min (max step.toNat 1) (timeout.toNat - waited.toNat)
  sum : (saturatingAdd waited (nextPause step timeout waited)).toNat =
    waited.toNat + (nextPause step timeout waited).toNat
  within : waited.toNat + (nextPause step timeout waited).toNat ≤ timeout.toNat

theorem exactRound {step timeout waited : UInt32} (budget : waited < timeout) :
    ExactRound step timeout waited := by
  have before := UInt32.lt_iff_toNat_lt.mp budget
  have limit := timeout.toNat_lt
  have left : (timeout - waited).toNat = timeout.toNat - waited.toNat :=
    UInt32.toNat_sub_of_le _ _ (UInt32.le_of_lt budget)
  have pause : (nextPause step timeout waited).toNat =
      min (max step.toNat 1) (timeout.toNat - waited.toNat) := by
    rw [nextPause, toNat_min, toNat_max_one, left]
  refine ⟨by omega, pause, ?_, by omega⟩
  rw [toNat_saturatingAdd, UInt32.size]
  omega

end Host

namespace Wlan.Station

open Host

variable {σ : Type} [Layer σ]

/-- A wait polls on its schedule and ends at the first poll after which it is shown what it waits
for, or at its timeout. Its counter starts at zero and is exact in each round that pauses. -/
theorem waitUntil_exact (station : Station σ) (timeout : UInt32) (done : Record → Bool) :
    (∃ trace, Asked station trace (waitUntil timeout done station).2 ∧
      Steady station (waitUntil timeout done station).2 ∧
      ExactWait done (max station.config.pollInterval.toNat 1) timeout.toNat station.host.record
        trace (waitUntil timeout done station).1) ∧
    waitUntil timeout done station =
      ((waitLoop done station.config.pollInterval timeout 0 station.host).1, { station with
        host := (waitLoop done station.config.pollInterval timeout 0 station.host).2 }) ∧
    ∀ waited < timeout, ExactRound station.config.pollInterval timeout waited ∧
      ∀ host : Host σ, done (Host.poll host).2.record = false →
        waitLoop done station.config.pollInterval timeout waited host =
          waitLoop done station.config.pollInterval timeout
            (saturatingAdd waited (nextPause station.config.pollInterval timeout waited))
            (Host.pause (nextPause station.config.pollInterval timeout waited)
              (Host.poll host).2).2 := by
  refine ⟨?_, rfl, fun waited budget ↦ ⟨exactRound budget, fun host hidden ↦ ?_⟩⟩
  · obtain ⟨trace, asked, waited, steady⟩ := waitUntil_traces timeout done station
    exact ⟨trace, asked, steady, waited.exact station.config.interval_pos⟩
  · rw [waitLoop_apply, hidden, if_neg Bool.false_ne_true, if_pos budget]
    rfl

end Wlan.Station

end SpiWifi
