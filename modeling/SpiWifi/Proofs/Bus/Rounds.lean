import Mathlib.Algebra.Order.Floor.Div
import Mathlib.Logic.Function.Iterate
import SpiWifi.Proofs.Bus.FailedLook

/-!
The rounds of a blocking wait. A round is a poll and a pause, and the wait ends at the first
poll that fails or finds the engine where it should be. If none does, it ends at the poll after
its last pause; how many pauses it can make is the budget over the step, rounded up. The
counter is a 32-bit one that saturates, but that never shows.
-/

set_option autoImplicit false
set_option relaxedAutoImplicit false

namespace SpiWifi.Bus

/-- What a wait pauses for between two polls. -/
def Config.pollStep (config : Config) : UInt32 := max config.pollMicros 1

/-- The pauses that one wait can make. -/
def Config.patience (config : Config) : Nat :=
  config.timeoutMicros.toNat ⌈/⌉ config.pollStep.toNat

example : ({ pollMicros := 3, timeoutMicros := 100 } : Config).patience = 34 := by decide +kernel

/-- The length of a pause between two polls. -/
def Call.pauseMicros? : Call → Option UInt32
  | .pauseMicros duration => some duration
  | _ => none

/-- The pauses between polls that these calls made. -/
def pauses (calls : List Entry) : List UInt32 :=
  calls.filterMap fun entry ↦ entry.call.pauseMicros?

@[simp] theorem pauses_append (first second : List Entry) :
    pauses (first ++ second) = pauses first ++ pauses second := List.filterMap_append

theorem pauses_eq_nil {calls : List Entry}
    (h : ∀ entry ∈ calls, entry.call.pauseMicros? = none) : pauses calls = [] :=
  List.filterMap_eq_nil_iff.mpr h

/-! ### The counter -/

/-- The pauses that are left to a wait that has used so much of its budget. -/
def pausesLeft (step timeout waited : UInt32) : Nat :=
  (timeout.toNat - waited.toNat) ⌈/⌉ step.toNat

section Counter

variable {step timeout waited : UInt32}

theorem pausesLeft_of_spent (spent : ¬ waited < timeout) : pausesLeft step timeout waited = 0 := by
  have none : timeout.toNat - waited.toNat = 0 :=
    Nat.sub_eq_zero_of_le (Nat.not_lt.mp fun less ↦ spent (UInt32.lt_iff_toNat_lt.mpr less))
  rw [pausesLeft, none, Nat.ceilDiv_eq_add_pred_div, Nat.zero_add]
  rcases Nat.eq_zero_or_pos step.toNat with zero | positive
  · rw [zero]
  · exact Nat.div_eq_of_lt (Nat.sub_lt positive Nat.zero_lt_one)

/-- A pause takes one away, also where the counter saturates. -/
theorem pausesLeft_of_lt (less : waited < timeout) (positive : 0 < step) :
    pausesLeft step timeout waited =
      pausesLeft step timeout (saturatingAdd waited step) + 1 := by
  have less := UInt32.lt_iff_toNat_lt.mp less
  have positive : 0 < step.toNat := UInt32.lt_iff_toNat_lt.mp positive
  have limit := timeout.toNat_lt
  simp only [pausesLeft, Nat.ceilDiv_eq_add_pred_div, toNat_saturatingAdd, UInt32.size]
  have shrinks : timeout.toNat - min (waited.toNat + step.toNat) (4294967296 - 1) =
      timeout.toNat - waited.toNat - step.toNat := by omega
  rw [shrinks, ← Nat.add_div_right _ positive]
  rcases Nat.le_total step.toNat (timeout.toNat - waited.toNat) with whole | part
  · congr 1
    omega
  · rw [Nat.sub_eq_zero_of_le part]
    have one : timeout.toNat - waited.toNat + step.toNat - 1 =
        (timeout.toNat - waited.toNat - 1) + step.toNat := by omega
    have rest : timeout.toNat - waited.toNat - 1 < step.toNat := by omega
    rw [one, Nat.add_div_right _ positive, Nat.add_div_right _ positive, Nat.div_eq_of_lt rest,
      Nat.div_eq_of_lt (by omega)]

end Counter

/-! ### The loop -/

variable {σ : Type} [Board σ] {bus after : Bus σ} {target : Phase}

/-- The engine after a poll and a pause. -/
def round (step : UInt32) (bus : Bus σ) : Bus σ := (pump bus).2.called (.pauseMicros step)

/-- The engine after so many polls of a wait, each with its pause. -/
def afterRounds (bus : Bus σ) (step : UInt32) (rounds : Nat) : Bus σ := (round step)^[rounds] bus

/-- A poll that succeeds and does not bring the engine where it should be. -/
def Unserved (target : Phase) (bus : Bus σ) : Prop :=
  (pump bus).1.isOk = true ∧ (pump bus).2.phase ≠ target

theorem afterRounds_succ (bus : Bus σ) (step : UInt32) (rounds : Nat) :
    bus.afterRounds step (rounds + 1) = (bus.afterRounds step rounds).round step :=
  Function.iterate_succ_apply' _ _ _

/-- How a wait ends that can make so many pauses. -/
inductive WaitEnds (target : Phase) (step : UInt32) (budget : Nat) (bus : Bus σ) :
    Except Failure Unit → Bus σ → Prop where
  /-- No poll was served, that after the last pause included. -/
  | ranOut (unserved : ∀ rounds ≤ budget, Unserved target (bus.afterRounds step rounds)) :
      WaitEnds target step budget bus (.error .timeout) (pump (bus.afterRounds step budget)).2
  /-- The first poll that was served, or failed. -/
  | ended {rounds : Nat} (within : rounds ≤ budget)
      (unserved : ∀ earlier < rounds, Unserved target (bus.afterRounds step earlier))
      (ends : ¬ Unserved target (bus.afterRounds step rounds)) :
      WaitEnds target step budget bus ((pump (bus.afterRounds step rounds)).1.map fun _ ↦ ())
        (pump (bus.afterRounds step rounds)).2

/-- A wait that goes on after its first poll has one pause less. -/
theorem WaitEnds.next {step : UInt32} {budget : Nat} {result : Except Failure Unit}
    (first : Unserved target bus) (rest : WaitEnds target step budget (bus.round step) result after) :
    WaitEnds target step (budget + 1) bus result after := by
  -- `afterRounds` iterates from the inside, so the rounds of the rest are one further on.
  cases rest with
  | ranOut unserved =>
    refine .ranOut fun rounds within ↦ ?_
    cases rounds with
    | zero => exact first
    | succ rounds => exact unserved rounds (Nat.le_of_succ_le_succ within)
  | ended within unserved ends =>
    refine .ended (Nat.succ_le_succ within) (fun earlier before ↦ ?_) ends
    cases earlier with
    | zero => exact first
    | succ earlier => exact unserved earlier (Nat.lt_of_succ_lt_succ before)

theorem waitLoop_ends {step timeout waited : UInt32} (away : bus.phase ≠ target) :
    Ensures (waitLoop target step timeout waited) bus
      (WaitEnds target (max step 1) (pausesLeft (max step 1) timeout waited) bus) := by
  induction waited using waitLoop.induct step timeout generalizing bus with
  | case1 waited ih =>
    have polled : Ensures (discard pump) bus fun result after ↦
        result = (pump bus).1.map (fun _ ↦ ()) ∧ after = (pump bus).2 :=
      ensures_discard.mpr ⟨rfl, rfl⟩
    have ended (ends : ¬ Unserved target bus) :
        WaitEnds target (max step 1) (pausesLeft (max step 1) timeout waited) bus
          ((pump bus).1.map fun _ ↦ ()) (pump bus).2 := by
      have unserved : ∀ earlier < 0, Unserved target (bus.afterRounds (max step 1) earlier) :=
        fun _ impossible ↦ absurd impossible (Nat.not_lt_zero _)
      exact .ended (Nat.zero_le _) unserved ends
    rw [waitLoop]
    simp only [ensures_get_bind, away, ↓reduceIte]
    apply polled.bind
    · rintro _ _ ⟨ok, rfl⟩
      have sound : (pump bus).1.isOk = true := by
        cases hpump : (pump bus).1 with
        | ok _ => rfl
        | error failure => rw [hpump] at ok; cases ok
      simp only [ensures_get_bind]
      by_cases arrived : (pump bus).2.phase = target
      · rw [if_pos arrived, ensures_pure, ok]
        exact ended fun unserved ↦ unserved.2 arrived
      · rw [if_neg arrived]
        have first : Unserved target bus := ⟨sound, arrived⟩
        by_cases budget : waited < timeout
        · rw [dif_pos budget, pausesLeft_of_lt budget (zero_lt_max_one step)]
          simp only [ensures_discard_call_bind]
          have still : (bus.round (max step 1)).phase ≠ target := arrived
          exact (ih budget still).mono fun _ _ rest ↦ rest.next first
        · rw [dif_neg budget, pausesLeft_of_spent budget]
          refine .ranOut fun rounds within ↦ ?_
          rw [Nat.le_zero.mp within]
          exact first
    · rintro failure _ ⟨error, rfl⟩
      rw [error]
      refine ended fun unserved ↦ ?_
      have sound := unserved.1
      cases hpump : (pump bus).1 with
      | ok _ => rw [hpump] at error; cases error
      | error _ => rw [hpump] at sound; cases sound

theorem waitFor_ends (away : bus.phase ≠ target) :
    Ensures (waitFor target) bus
      (WaitEnds target bus.config.pollStep bus.config.patience bus) := by
  simp only [waitFor, ensures_get_bind]
  exact waitLoop_ends away

/-! ### What the polls come to -/

/-- The engine in a wait for this phase. -/
structure WaitsFor (target : Phase) (bus : Bus σ) : Prop where
  awaits : Awaits bus.phase target
  dispatching : bus.dispatching = false
  staged : bus.staged ≤ bufferCapacity

omit [Board σ] in
theorem WaitsFor.away (h : WaitsFor target bus) : bus.phase ≠ target := by
  rcases h.awaits with ⟨phase, rfl⟩ | ⟨phase, rfl⟩ <;> rw [phase] <;> decide

theorem WaitsFor.pumped (h : WaitsFor target bus) : Pumped bus (pump bus).1 (pump bus).2 :=
  pump_ensures h.dispatching h.staged

theorem Steady.waitsFor {calls : List Entry} (step : Steady bus calls after)
    (h : WaitsFor target bus) : WaitsFor target after where
  awaits := step.phase ▸ h.awaits
  dispatching := step.dispatching.trans h.dispatching
  staged := step.staged ▸ h.staged

/-- A single call is the one that the board answers in that state. -/
theorem Steady.entry_eq {entry : Entry} (step : Steady bus [entry] after) :
    entry = bus.entryOf entry.call := by
  obtain ⟨armed, enabled⟩ := step.marks entry (List.mem_singleton_self _)
  obtain ⟨reply, -⟩ := step.answered
  rcases entry with ⟨call, _, _, _⟩
  simp only at armed enabled reply
  simp only [entryOf, reply, armed, enabled]

/-- A look at the line is the next one, whether the edge was taken before it or not. -/
theorem Steady.nextLook_eq {sample : Entry} (step : Steady bus.edgeTaken [sample] after)
    (call : sample.call = .sampleLine) : bus.nextLook = sample := by
  rw [step.entry_eq, call]
  rfl

/-- No more than a look at the line, with success. -/
def Glance (calls : List Entry) : Prop := calls.length ≤ 1 ∧ ∀ entry ∈ calls, Samples entry

omit [Board σ] in
theorem Awaits.wakes {phase : Phase} (h : Awaits phase target) (edge low : Bool) :
    phase.wakes edge low = (edge || low) := by
  rcases h with ⟨rfl, -⟩ | ⟨rfl, -⟩ <;> rfl

/-- Nothing that the next poll sees asks for service, as far as it looks. -/
def Unasked (bus : Bus σ) : Prop :=
  bus.interruptEnabled = false ∨
    bus.nextLook.fails = false ∧ bus.latch.pending = false ∧ bus.nextLook.reply.low = false

namespace WaitsFor

/-- A poll that does not end its wait has seen nothing, and made one look at most. -/
theorem polled (h : WaitsFor target bus) :
    Unserved target bus ∧ bus.Unasked ∧ (∃ calls, Steady bus calls (pump bus).2 ∧ Glance calls) ∨
      ¬ Unserved target bus ∧ ¬ bus.Unasked := by
  have pumped := h.pumped
  have away := h.away
  unfold Unserved Unasked
  generalize (pump bus).1 = outcome at *
  generalize (pump bus).2 = after at *
  cases pumped with
  | off disabled =>
    have nothing : Glance [] := ⟨Nat.zero_le _, fun _ mem ↦ absurd mem List.not_mem_nil⟩
    exact Or.inl ⟨⟨rfl, away⟩, Or.inl disabled, [], .refl bus, nothing⟩
  | @unread sample _ enabled step call fails =>
    refine Or.inr ⟨fun unserved ↦ absurd unserved.1 Bool.false_ne_true, ?_⟩
    simp only [enabled, step.nextLook_eq call, fails, Bool.true_eq_false, false_and, or_self,
      not_false_eq_true]
  | @unasked sample _ enabled step samples asleep =>
    have quiet : Steady bus [sample] after := step.of_edgeTaken
    rw [h.awaits.wakes, Bool.or_eq_false_iff] at asleep
    have one : Glance [sample] := ⟨Nat.le_refl _, List.forall_mem_singleton.mpr samples⟩
    refine Or.inl ⟨⟨rfl, quiet.phase ▸ away⟩, Or.inr ?_, _, quiet, one⟩
    rw [step.nextLook_eq samples.1]
    exact ⟨samples.2, asleep⟩
  | @served sample asked _ result enabled step samples wakes served =>
    have phase : asked.phase = bus.phase := step.phase
    rw [h.awaits.wakes, Bool.or_eq_true] at wakes
    refine Or.inr ⟨fun unserved ↦ ?_, ?_⟩
    · cases result with
      | error failure => exact Bool.false_ne_true unserved.1
      | ok _ => exact unserved.2 (served.arrived (phase ▸ h.awaits))
    · rw [step.nextLook_eq samples.1]
      rcases wakes with pending | low
      · simp only [enabled, pending, Bool.true_eq_false, false_and, and_false, or_self,
          not_false_eq_true]
      · simp only [enabled, low, Bool.true_eq_false, and_false, or_self, not_false_eq_true]

/-- A wait goes on exactly as long as its polls see nothing. -/
theorem unserved_iff (h : WaitsFor target bus) : Unserved target bus ↔ bus.Unasked := by
  rcases h.polled with ⟨unserved, unasked, -⟩ | ⟨served, asked⟩
  · exact iff_of_true unserved unasked
  · exact iff_of_false served asked

theorem glance (h : WaitsFor target bus) (unserved : Unserved target bus) :
    ∃ calls, Steady bus calls (pump bus).2 ∧ Glance calls := by
  rcases h.polled with ⟨-, -, glance⟩ | ⟨served, -⟩
  · exact glance
  · exact absurd unserved served

end WaitsFor

/-- The calls of so many rounds. -/
structure Rounds (step : UInt32) (rounds : Nat) (calls : List Entry) : Prop where
  waits : Waits calls
  pauses : pauses calls = List.replicate rounds step
  few : calls.length ≤ 2 * rounds

omit [Board σ] in
theorem Samples.pauses_eq_nil {calls : List Entry} (samples : ∀ entry ∈ calls, Samples entry) :
    pauses calls = [] := by
  refine Bus.pauses_eq_nil fun entry mem ↦ ?_
  rw [(samples entry mem).1]
  rfl

/-- As long as no poll is served, nothing but looks and pauses happens to the engine. -/
theorem WaitsFor.steady_afterRounds {step : UInt32} {rounds : Nat} (h : WaitsFor target bus)
    (unserved : ∀ earlier < rounds, Unserved target (bus.afterRounds step earlier)) :
    ∃ calls, Steady bus calls (bus.afterRounds step rounds) ∧ Rounds step rounds calls := by
  induction rounds with
  | zero => exact ⟨[], .refl bus, waits_nil, rfl, Nat.zero_le _⟩
  | succ rounds ih =>
    obtain ⟨calls, before, made⟩ :=
      ih fun earlier less ↦ unserved earlier (Nat.lt_succ_of_lt less)
    have last := unserved rounds (Nat.lt_succ_self rounds)
    obtain ⟨looks, looked, few, samples⟩ := (before.waitsFor h).glance last
    have paused := Steady.call (pump (bus.afterRounds step rounds)).2 (.pauseMicros step)
    generalize hpause : (pump (bus.afterRounds step rounds)).2.entryOf (.pauseMicros step) = pause
      at paused
    have call : pause.call = .pauseMicros step := by
      rw [← hpause]
      rfl
    rw [afterRounds_succ]
    refine ⟨_, (before.trans looked).trans paused, ?_, ?_, ?_⟩
    · exact (made.waits.append fun entry mem ↦ Or.inl (samples entry mem)).append
        (List.forall_mem_singleton.mpr (Or.inr ⟨step, call⟩))
    · have one : pauses [pause] = [step] := by
        simp only [pauses, List.filterMap_cons, call, Call.pauseMicros?, List.filterMap_nil]
      rw [pauses_append, pauses_append, made.pauses, Samples.pauses_eq_nil samples, one,
        List.append_nil, ← List.replicate_succ']
    · have few' := made.few
      simp only [List.length_append, List.length_singleton]
      omega

theorem WaitsFor.afterRounds {step : UInt32} {rounds : Nat} (h : WaitsFor target bus)
    (unserved : ∀ earlier < rounds, Unserved target (bus.afterRounds step earlier)) :
    WaitsFor target (bus.afterRounds step rounds) := by
  obtain ⟨_, before, -⟩ := h.steady_afterRounds unserved
  exact before.waitsFor h

/-- A wait goes on through the rounds whose polls see nothing. -/
theorem WaitsFor.unserved_of_unasked {step : UInt32} {rounds : Nat} (h : WaitsFor target bus)
    (unasked : ∀ earlier < rounds, (bus.afterRounds step earlier).Unasked) :
    ∀ earlier < rounds, Unserved target (bus.afterRounds step earlier) := by
  induction rounds with
  | zero => exact fun _ impossible ↦ absurd impossible (Nat.not_lt_zero _)
  | succ rounds ih =>
    have before := ih fun earlier less ↦ unasked earlier (Nat.lt_succ_of_lt less)
    intro earlier less
    rcases Nat.lt_succ_iff_lt_or_eq.mp less with less | rfl
    · exact before earlier less
    · exact (h.afterRounds before).unserved_iff.mpr (unasked earlier less)

/-! ### The poll that ends a wait -/

/-- So few calls, none of them a pause between polls. -/
def Brief (bound : Nat) (before after : Bus σ) : Prop :=
  ∃ calls, Made before calls after ∧ pauses calls = [] ∧ calls.length ≤ bound

omit [Board σ] in
theorem Brief.trans {middle : Bus σ} {first second : Nat} (h : Brief first bus middle)
    (k : Brief second middle after) : Brief (first + second) bus after := by
  obtain ⟨calls, made, unpaused, few⟩ := h
  obtain ⟨later, more, unpaused', few'⟩ := k
  refine ⟨calls ++ later, made.trans more, ?_, ?_⟩
  · rw [pauses_append, unpaused, unpaused', List.append_nil]
  · rw [List.length_append]
    exact Nat.add_le_add few few'

omit [Board σ] in
theorem Brief.mono {bound more : Nat} (h : Brief bound bus after) (le : bound ≤ more) :
    Brief more bus after := by
  obtain ⟨calls, made, unpaused, few⟩ := h
  exact ⟨calls, made, unpaused, Nat.le_trans few le⟩

theorem Steady.brief {calls : List Entry} (step : Steady bus calls after)
    (unpaused : ∀ entry ∈ calls, entry.call.pauseMicros? = none) : Brief calls.length bus after :=
  ⟨calls, step.made, pauses_eq_nil unpaused, Nat.le_refl _⟩

section Scripts

variable {script : List Call} {calls : List Entry} {result : Except Failure Unit}

omit [Board σ] in
theorem Follows.length_le (h : Follows script calls result) : calls.length ≤ script.length := by
  induction h with
  | done => exact Nat.le_refl _
  | stopped _ _ => exact Nat.succ_le_succ (Nat.zero_le _)
  | next _ _ _ ih => exact Nat.succ_le_succ ih

omit [Board σ] in
theorem Transacts.length_le (h : Transacts script calls result) :
    calls.length ≤ script.length + 1 := by
  cases h with
  | intro follows _ =>
    rw [List.length_append]
    exact Nat.succ_le_succ follows.length_le

omit [Board σ] in
theorem Transacts.ne_timeout (h : Transacts script calls result) : result ≠ .error .timeout := by
  rintro rfl
  obtain ⟨_, cause, -⟩ := h.of_error
  cases cause

omit [Board σ] in
/-- A transaction that clocks a frame out does not wait for the chip. -/
theorem Transacts.unpaused (h : Transacts script calls result)
    (clocks : ∀ call ∈ script, call.clocksOut = true) :
    ∀ entry ∈ calls, entry.call.pauseMicros? = none := by
  have none_of_clocksOut {call : Call} (clocks : call.clocksOut = true) :
      call.pauseMicros? = none := by
    cases call <;> first | rfl | cases clocks
  intro entry mem
  rcases h.call_mem mem with inside | release
  · exact none_of_clocksOut (clocks _ inside)
  · rw [release]
    rfl

end Scripts

theorem Transacts.brief {script : List Call} {calls : List Entry} {result : Except Failure Unit}
    (h : Transacts script calls result) (clocks : ∀ call ∈ script, call.clocksOut = true)
    {phase : Phase} (step : Steady (bus.inPhase phase) calls after) :
    Brief (script.length + 1) bus after :=
  ⟨calls, step.made, pauses_eq_nil (h.unpaused clocks), h.length_le⟩

/-- Serving a chip that the engine waits for takes few calls, and no time. -/
theorem Served.brief {result : Except Failure Unit} (h : Served bus result after)
    (awaits : Awaits bus.phase target) : Brief 3 bus after ∧ result ≠ .error .timeout := by
  cases h with
  | ready _ => exact ⟨⟨[], rfl, rfl, Nat.zero_le _⟩, by rintro ⟨⟩⟩
  | sent _ step sent => exact ⟨sent.brief (clocksOut_frameScript _) step, sent.ne_timeout⟩
  | read phase _ => rcases awaits with ⟨other, -⟩ | ⟨other, -⟩ <;> rw [phase] at other <;> cases other

theorem WaitsFor.brief (h : WaitsFor target bus) :
    Brief 4 bus (pump bus).2 ∧ (pump bus).1 ≠ .error .timeout := by
  have pumped := h.pumped
  generalize (pump bus).1 = outcome at *
  generalize (pump bus).2 = after at *
  have look {sample : Entry} {looked : Bus σ} (step : Steady bus.edgeTaken [sample] looked)
      (call : sample.call = .sampleLine) : Brief 1 bus looked :=
    step.of_edgeTaken.brief (List.forall_mem_singleton.mpr (by rw [call]; rfl))
  cases pumped with
  | off _ => exact ⟨⟨[], rfl, rfl, Nat.zero_le _⟩, by rintro ⟨⟩⟩
  | unread _ step call _ => exact ⟨(look step call).mono (by decide), by rintro ⟨⟩⟩
  | unasked _ step samples _ => exact ⟨(look step samples.1).mono (by decide), by rintro ⟨⟩⟩
  | @served _ asked _ result _ step samples _ served =>
    have phase : asked.phase = bus.phase := step.phase
    obtain ⟨brief, prompt⟩ := served.brief (phase ▸ h.awaits)
    refine ⟨(look step samples.1).trans brief, fun late ↦ prompt ?_⟩
    cases result with
    | ok _ => cases late
    | error failure =>
      cases late
      rfl

/-- A wait was in vain exactly if none of its polls was served. -/
theorem WaitEnds.timeout_iff {step : UInt32} {budget : Nat} {result : Except Failure Unit}
    (h : WaitEnds target step budget bus result after) (waits : WaitsFor target bus) :
    result = .error .timeout ↔
      ∀ rounds ≤ budget, Unserved target (bus.afterRounds step rounds) := by
  cases h with
  | ranOut unserved => exact iff_of_true rfl unserved
  | @ended rounds within unserved served =>
    refine iff_of_false ?_ fun vain ↦ served (vain rounds within)
    have never := (waits.afterRounds unserved).brief.2
    cases hpump : (pump (bus.afterRounds step rounds)).1 with
    | ok _ => rintro ⟨⟩
    | error failure =>
      rw [hpump] at never
      rintro ⟨⟩
      exact never rfl

end SpiWifi.Bus
