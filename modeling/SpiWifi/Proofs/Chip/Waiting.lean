import SpiWifi.Proofs.Chip.Trace

/-!
Polled waits. A wait polls the chip and ends if the record shows what it waits for or no time
is left. Otherwise it pauses for one interval, cut to the time that is left, and goes on.
-/

set_option autoImplicit false
set_option relaxedAutoImplicit false

namespace SpiWifi.Host

open Chip Events

/-- A wait with so many milliseconds left, and whether it was shown what it waits for. -/
inductive Waited (done : Record → Bool) (interval : Nat) :
    Nat → Record → List Exchange → Bool → Prop where
  | met {left : Nat} {record : Record} {poll : Outcome .poll}
      (shown : done (recordAfter record [⟨.poll, poll⟩]) = true) :
      Waited done interval left record [⟨.poll, poll⟩] true
  | spent {record : Record} {poll : Outcome .poll}
      (hidden : done (recordAfter record [⟨.poll, poll⟩]) = false) :
      Waited done interval 0 record [⟨.poll, poll⟩] false
  | paused {left : Nat} {record : Record} {poll : Outcome .poll} {millis : UInt32}
      {pause : Outcome (.pause millis)} {trace : List Exchange} {met : Bool}
      (hidden : done (recordAfter record [⟨.poll, poll⟩]) = false) (some : 0 < left)
      (length : millis.toNat = min interval left)
      (rest : Waited done interval (left - millis.toNat)
        (recordAfter record [⟨.poll, poll⟩, ⟨.pause millis, pause⟩]) trace met) :
      Waited done interval left record (⟨.poll, poll⟩ :: ⟨.pause millis, pause⟩ :: trace) met

namespace Waited

variable {done : Record → Bool} {interval left : Nat} {record : Record} {trace : List Exchange}
  {met : Bool}

theorem commands_eq (h : Waited done interval left record trace met) : commands trace = [] := by
  induction h with
  | met _ => rfl
  | spent _ => rfl
  | paused _ _ _ _ ih => rw [commands_poll, commands_pause, ih]

/-- The chip is polled at once, and that is all if the record then shows what is waited for. -/
theorem begins (h : Waited done interval left record trace met) :
    ∃ poll rest, trace = ⟨.poll, poll⟩ :: rest ∧
      (done (recordAfter record [⟨.poll, poll⟩]) = true → rest = [] ∧ met = true) := by
  cases h with
  | met _ => exact ⟨_, [], rfl, fun _ ↦ ⟨rfl, rfl⟩⟩
  | spent hidden => exact ⟨_, [], rfl, fun shown ↦ absurd (hidden.symm.trans shown) nofun⟩
  | paused hidden => exact ⟨_, _, rfl, fun shown ↦ absurd (hidden.symm.trans shown) nofun⟩

/-- A trace begins with at most one wait. -/
theorem unique {other rest tail : List Exchange} {seen : Bool}
    (h : Waited done interval left record trace met)
    (k : Waited done interval left record other seen) (same : trace ++ rest = other ++ tail) :
    trace = other ∧ met = seen := by
  -- Each poll decides for both waits alike whether they end with it.
  induction h generalizing other with
  | met shown =>
    obtain ⟨poll, more, rfl, ends⟩ := k.begins
    obtain ⟨first, -⟩ := List.cons.inj same
    cases first
    obtain ⟨rfl, rfl⟩ := ends shown
    exact ⟨rfl, rfl⟩
  | spent hidden =>
    cases k with
    | met shown =>
      obtain ⟨first, -⟩ := List.cons.inj same
      cases first
      exact absurd (hidden.symm.trans shown) nofun
    | spent _ =>
      obtain ⟨first, -⟩ := List.cons.inj same
      cases first
      exact ⟨rfl, rfl⟩
    | paused _ some => exact absurd some (Nat.lt_irrefl 0)
  | paused hidden some _ _ ih =>
    cases k with
    | met shown =>
      obtain ⟨first, -⟩ := List.cons.inj same
      cases first
      exact absurd (hidden.symm.trans shown) nofun
    | spent _ => exact absurd some (Nat.lt_irrefl 0)
    | paused _ _ _ more =>
      obtain ⟨first, later⟩ := List.cons.inj same
      obtain ⟨second, others⟩ := List.cons.inj later
      cases first
      cases second
      obtain ⟨rfl, rfl⟩ := ih more others
      exact ⟨rfl, rfl⟩

/-- What the record shows in the end is what the wait reports. -/
theorem done_eq (h : Waited done interval left record trace met) :
    done (recordAfter record trace) = met := by
  induction h with
  | met shown => exact shown
  | spent hidden => exact hidden
  | @paused left record poll millis pause trace met _ _ _ _ ih =>
    rw [← ih, ← recordAfter_append]
    rfl

theorem pausedFor_le (h : Waited done interval left record trace met) : pausedFor trace ≤ left := by
  induction h with
  | met _ => exact Nat.zero_le _
  | spent _ => exact Nat.le_refl _
  | paused _ _ length _ ih =>
    rw [pausedFor_poll, pausedFor_pause]
    omega

/-- A wait in vain takes all of its time. -/
theorem pausedFor_eq (h : Waited done interval left record trace false) :
    pausedFor trace = left := by
  generalize hmet : false = met at h
  induction h with
  | met _ => cases hmet
  | spent _ => rfl
  | paused _ _ length _ ih =>
    rw [pausedFor_poll, pausedFor_pause, ih hmet]
    omega

end Waited

variable {σ : Type} [Layer σ]

/-- One round of a wait. -/
theorem waitLoop_apply (done : Record → Bool) (step timeout waited : UInt32) (host : Host σ) :
    waitLoop done step timeout waited host =
      if done (poll host).2.record then (true, (poll host).2)
      else if waited < timeout then
        waitLoop done step timeout (saturatingAdd waited (min (max step 1) (timeout - waited)))
          (pause (min (max step 1) (timeout - waited)) (poll host).2).2
      else (false, (poll host).2) := by
  rw [waitLoop]
  show (if done (poll host).2.record then pure true
    else if _ : waited < timeout then _ else pure false : HostM σ Bool) (poll host).2 = _
  split
  · rfl
  · split <;> rfl

theorem waitLoop_waited (done : Record → Bool) (step timeout waited : UInt32) (host : Host σ) :
    ∃ trace, host.Made trace (waitLoop done step timeout waited host).2 ∧
      Waited done (max step.toNat 1) (timeout.toNat - waited.toNat) host.record trace
        (waitLoop done step timeout waited host).1 := by
  induction waited using waitLoop.induct step timeout generalizing host with
  | case1 waited ih =>
    obtain ⟨poll, -, polled⟩ := ask_made .poll host
    change host.Made _ (Host.poll host).2 at polled
    rw [waitLoop_apply]
    by_cases shown : done (Host.poll host).2.record = true
    · rw [if_pos shown]
      rw [polled.record] at shown
      exact ⟨_, polled, .met shown⟩
    · rw [if_neg shown]
      rw [polled.record, Bool.not_eq_true] at shown
      by_cases budget : waited < timeout
      · rw [if_pos budget]
        generalize hmillis : min (max step 1) (timeout - waited) = millis
        obtain ⟨pause, -, paused⟩ := ask_made (.pause millis) (Host.poll host).2
        change (Host.poll host).2.Made _ (Host.pause millis _).2 at paused
        obtain ⟨trace, made, rest⟩ := ih budget (Host.pause millis (Host.poll host).2).2
        rw [hmillis] at made rest
        have within : waited.toNat < timeout.toNat := UInt32.lt_iff_toNat_lt.mp budget
        have length : millis.toNat = min (max step.toNat 1) (timeout.toNat - waited.toNat) := by
          rw [← hmillis, toNat_min, toNat_max_one,
            UInt32.toNat_sub_of_le _ _ (UInt32.le_of_lt budget)]
        have left : timeout.toNat - (saturatingAdd waited millis).toNat =
            timeout.toNat - waited.toNat - millis.toNat := by
          have := timeout.toNat_lt
          rw [toNat_saturatingAdd, UInt32.size]
          omega
        rw [left, (polled.trans paused).record] at rest
        exact ⟨_, polled.trans (paused.trans made), .paused shown (by omega) length rest⟩
      · rw [if_neg budget]
        have nothing : timeout.toNat - waited.toNat = 0 := by
          rw [UInt32.lt_iff_toNat_lt] at budget
          omega
        rw [nothing]
        exact ⟨_, polled, .spent shown⟩

end SpiWifi.Host
