import SpiWifi.Proofs.Bus.Blame
import SpiWifi.Proofs.Bus.Rounds

/-!
How long a write can take. Before the first frame of a session a write waits for the chip to
be ready, and after it has asked for consent it waits for the answer; it never does both. So
its pauses are those of one wait, and a write that gives up has made all of them and has
polled once more in vain.
-/

set_option autoImplicit false
set_option relaxedAutoImplicit false

namespace SpiWifi.Bus

open Wire

variable {σ : Type} [Board σ] {bus after : Bus σ}

/-! ### The ways through a write -/

theorem ensures_write {payload : Nat} {post : Except Failure Unit → Bus σ → Prop}
    (admits : bus.Admits payload)
    (rest : Ensures (writeFramed abort (frameLength payload)) (bus.framed payload) post) :
    Ensures (write payload) bus post := by
  rwa [Ensures, write, writeRecovering_of_admits admits]

/-- At most one release, and nothing else that a call could change. -/
def Dropped (before after : Bus σ) : Prop :=
  ∃ calls, Made before calls after ∧ calls.length ≤ 1 ∧ ∀ entry ∈ calls, entry.call = .release

/-- Giving a write up takes one release at most, and reports what it was given up for. -/
theorem abandon_dropped {α : Type} {failure : Failure} (bus : Bus σ) :
    Ensures (abandon failure : BusM σ α) bus fun result after ↦
      result = .error failure ∧ Dropped bus after := by
  have aborted : Ensures abort bus fun result after ↦ result = .ok () ∧ Dropped bus after := by
    simp only [abort, ensures_get_bind]
    split
    · simp only [ensures_discard_call_bind, ensures_enterPhase, true_and]
      exact ⟨[_], (Steady.call bus .release).made, Nat.le_refl _,
        List.forall_mem_singleton.mpr rfl⟩
    · exact ⟨rfl, [], rfl, Nat.zero_le _, fun _ mem ↦ absurd mem List.not_mem_nil⟩
  apply aborted.bind_ok
  intro after dropped
  simp only [ensures_get_bind]
  split
  · exact ⟨rfl, dropped⟩
  · exact ⟨rfl, dropped⟩

omit [Board σ] in
theorem Dropped.brief (h : Dropped bus after) : Brief 1 bus after := by
  obtain ⟨calls, made, few, releases⟩ := h
  refine ⟨calls, made, pauses_eq_nil fun entry mem ↦ ?_, few⟩
  rw [releases entry mem]
  rfl

theorem lineIsLow_nextLook (bus : Bus σ) :
    Ensures lineIsLow bus fun result after ↦ after = bus.called .sampleLine ∧
      result = if bus.nextLook.fails then .error (.hardware .sampleLine)
        else .ok bus.nextLook.reply.low := by
  have fails : bus.nextLook.fails = (bus.entryOf .sampleLine).reply.failed := fails_entryOf rfl bus
  simp only [lineIsLow, demand, bind_assoc, pure_bind, ensures_call_bind, ensures_check_bind, fails]
  split
  · exact ⟨trivial, rfl⟩
  · exact ⟨rfl, rfl⟩

/-- The engine with a frame of this length staged and the chip selected. -/
def selected (bus : Bus σ) (total : Nat) : Bus σ := ((bus.asking total).called .select).listening

/-- The engine after the look that follows a request for consent. -/
def requested (bus : Bus σ) (total : Nat) : Bus σ := (bus.selected total).called .sampleLine

/-- The next selection of the chip, with a frame of this length staged, succeeds. -/
def Selectable (bus : Bus σ) (total : Nat) : Prop :=
  ((bus.asking total).entryOf .select).fails = false

/-- A staged write up to its wait: the selection may fail, the look may fail, and the chip may
have answered by then. -/
theorem ensures_writeStaged {total : Nat} {post : Except Failure Unit → Bus σ → Prop}
    (refused : ¬ bus.Selectable total → ∀ after, Dropped ((bus.asking total).called .select) after →
      post (.error (.hardware .select)) after)
    (unread : bus.Selectable total → (bus.selected total).nextLook.fails = true →
      ∀ after, Dropped (bus.requested total) after → post (.error (.hardware .sampleLine)) after)
    (answered : bus.Selectable total → (bus.selected total).nextLook.fails = false →
      (bus.selected total).nextLook.reply.low = true →
      Ensures (do
        finishWrite
        discard takeEdge) (bus.requested total) post)
    (unanswered : bus.Selectable total → (bus.selected total).nextLook.fails = false →
      (bus.selected total).nextLook.reply.low = false → post (.ok ()) (bus.requested total)) :
    Ensures (writeStaged total) bus post := by
  have select : ((bus.asking total).entryOf .select).fails = _ := fails_entryOf rfl _
  have look : (bus.selected total).nextLook.fails = _ := fails_entryOf rfl (bus.selected total)
  have given {failure : Failure} {before : Bus σ}
      (h : ∀ after, Dropped before after → post (.error failure) after) :
      Ensures (abandon failure) before post := by
    refine (abandon_dropped before).mono ?_
    rintro _ after ⟨rfl, dropped⟩
    exact h after dropped
  unfold Selectable at *
  simp only [writeStaged, ensures_disableInterrupt_bind, ensures_asking_bind, ensures_call_bind]
  split
  · rename_i failed
    apply (abandon_dropped _).bind
    · rintro _ _ ⟨impossible, -⟩
      cases impossible
    · rintro _ after ⟨cause, dropped⟩
      cases cause
      exact refused (by rw [select, failed]; decide) after dropped
  · rename_i succeeded
    have selects := select.trans (Bool.eq_false_iff.mpr succeeded)
    simp only [ensures_enableInterrupt_bind]
    refine (lineIsLow_nextLook (bus.selected total)).observe ?_
    rintro _ _ ⟨rfl, rfl⟩
    by_cases fails : (bus.selected total).nextLook.fails = true
    · rw [if_pos fails]
      exact given (unread selects fails)
    · have sound := Bool.eq_false_iff.mpr fails
      rw [if_neg fails]
      cases low : (bus.selected total).nextLook.reply.low with
      | true => exact answered selects sound low
      | false => exact unanswered selects sound low

/-- A write that comes to wait, with the phase that it waits for and the state that its wait starts
in: for a chip that is not ready yet, or for the answer to a request for consent. -/
inductive Awaiting (bus : Bus σ) (payload : Nat) : Phase → Bus σ → Prop where
  | ready (admits : bus.Admits payload) (phase : bus.phase = .powerUp) :
      Awaiting bus payload .initialized (bus.framed payload)
  | answer (admits : bus.Admits payload) (phase : bus.phase = .idle)
      (selects : (bus.framed payload).Selectable (frameLength payload))
      (sound : ((bus.framed payload).selected (frameLength payload)).nextLook.fails = false)
      (high : ((bus.framed payload).selected (frameLength payload)).nextLook.reply.low = false) :
      Awaiting bus payload .idle ((bus.framed payload).requested (frameLength payload))

/-- How a write ends whose wait, for this phase, has ended so. -/
inductive Resumed (frame : List UInt8) :
    Phase → Except Failure Unit → Bus σ → Except Failure Unit → Bus σ → Prop where
  | unready {failure : Failure} {ended : Bus σ} :
      Resumed frame .initialized (.error failure) ended (.error failure) ended
  | first {ended after : Bus σ} {result : Except Failure Unit}
      (sent : FirstSent ended frame result after) :
      Resumed frame .initialized (.ok ()) ended result after
  | dropped {failure : Failure} {ended after : Bus σ} (dropped : Dropped ended after) :
      Resumed frame .idle (.error failure) ended (.error failure) after
  | out {ended : Bus σ} : Resumed frame .idle (.ok ()) ended (.ok ()) ended

theorem Awaiting.waitsFor {payload : Nat} {target : Phase} {waiting : Bus σ}
    (h : Awaiting bus payload target waiting) (resting : bus.Resting) :
    WaitsFor target waiting := by
  cases h with
  | ready _ phase => exact ⟨Or.inl ⟨phase, rfl⟩, resting.dispatching, resting.staged⟩
  | answer admits _ _ _ _ => exact ⟨Or.inr ⟨rfl, rfl⟩, resting.dispatching, admits.fits⟩

theorem Awaiting.config {payload : Nat} {target : Phase} {waiting : Bus σ}
    (h : Awaiting bus payload target waiting) : waiting.config = bus.config := by
  cases h <;> rfl

/-- A write waits once at most. -/
theorem Awaiting.unique {payload : Nat} {target other : Phase} {waiting another : Bus σ}
    (h : Awaiting bus payload target waiting) (k : Awaiting bus payload other another) :
    target = other ∧ waiting = another := by
  cases h with
  | ready _ powerUp =>
    cases k with
    | ready _ _ => exact ⟨rfl, rfl⟩
    | answer _ idle _ _ _ => rw [powerUp] at idle; cases idle
  | answer _ idle _ _ _ =>
    cases k with
    | ready _ powerUp => rw [powerUp] at idle; cases idle
    | answer _ _ _ _ _ => exact ⟨rfl, rfl⟩

omit [Board σ] in
/-- The frame of an admitted write can be split, and lies at the front of the buffer. -/
theorem Admits.window {payload : Nat} (admits : bus.Admits payload) :
    firstSplit ≤ (bus.frame payload).length ∧
      (bus.framed payload).transmit.window? 0 (bus.frame payload).length =
        some (bus.frame payload) := by
  refine ⟨?_, window_framed bus admits.fits⟩
  rw [length_frame bus admits.fits, frameLength]
  exact Nat.le_trans (by decide) (Nat.le_add_right _ _)

theorem write_resumes {payload : Nat} {target : Phase} {waiting : Bus σ} (resting : bus.Resting)
    (awaiting : Awaiting bus payload target waiting) :
    Ensures (write payload) bus fun result after ↦ ∃ outcome ended,
      WaitEnds target bus.config.pollStep bus.config.patience waiting outcome ended ∧
        Resumed (bus.frame payload) target outcome ended result after := by
  have waits := awaiting.waitsFor resting
  have config := awaiting.config
  have wait : Ensures (waitFor target) waiting fun result after ↦ Waited waiting result after ∧
      WaitEnds target bus.config.pollStep bus.config.patience waiting result after := by
    rw [← config]
    exact ⟨waitFor_ensures waits.awaits waits.dispatching waits.staged, waitFor_ends waits.away⟩
  cases awaiting with
  | ready admits phase =>
    obtain ⟨split, window⟩ := admits.window
    have powerUp : (bus.framed payload).phase = .powerUp := phase
    refine ensures_write admits ?_
    simp only [writeFramed, ensures_get_bind, powerUp, ↓reduceIte]
    apply wait.bind
    · rintro _ ready ⟨waited, ends⟩
      obtain ⟨calls, wait⟩ := waited.ready powerUp
      have phase : ready.phase = .initialized := wait.phase
      have long := length_frame bus admits.fits
      simp only [ensures_get_bind, phase, ↓reduceIte, ← long]
      refine (first_ensures ?_ split).mono fun _ _ sent ↦ ⟨_, _, ends, .first sent⟩
      rw [GuardedBuffer.window?_eq_some_iff, wait.transmit, ← GuardedBuffer.window?_eq_some_iff]
      exact window
    · rintro failure ended ⟨-, ends⟩
      exact ⟨_, _, ends, .unready⟩
  | answer admits phase selects sound high =>
    have idle : (bus.framed payload).phase = .idle := phase
    refine ensures_write admits ?_
    simp only [writeFramed, ensures_get_bind, idle, reduceCtorEq, ↓reduceIte]
    have staged : Ensures (writeStaged (frameLength payload)) (bus.framed payload)
        fun result after ↦
          result = .ok () ∧ after = (bus.framed payload).requested (frameLength payload) := by
      apply ensures_writeStaged
      · exact fun refused ↦ absurd selects refused
      · intro _ fails
        rw [sound] at fails
        cases fails
      · intro _ _ low
        rw [high] at low
        cases low
      · exact fun _ _ _ ↦ ⟨rfl, rfl⟩
    apply staged.bind_ok
    rintro _ rfl
    refine wait.observe ?_
    rintro outcome ended ⟨-, ends⟩
    cases outcome with
    | error failure =>
      refine (abandon_dropped ended).mono ?_
      rintro _ after ⟨rfl, dropped⟩
      exact ⟨_, _, ends, .dropped dropped⟩
    | ok _ => exact ⟨_, _, ends, .out⟩

/-! ### A write that does not wait -/

/-- The first frame, once the chip is ready, is a matter of a few calls. -/
theorem FirstSent.brief {frame : List UInt8} {result : Except Failure Unit}
    (h : FirstSent bus frame result after) : Brief 8 bus after ∧ result ≠ .error .timeout := by
  cases h with
  | unselected call _ step =>
    have alone : Brief 1 bus after := step.brief (List.forall_mem_singleton.mpr (by rw [call]; rfl))
    exact ⟨alone.mono (by decide), by rintro ⟨⟩⟩
  | @sent select body _ _ selects sent step =>
    have unpaused : ∀ entry ∈ select :: body, entry.call.pauseMicros? = none :=
      List.forall_mem_cons.mpr
        ⟨by rw [selects.1]; rfl, sent.unpaused (clocksOut_firstScript _ _)⟩
    exact ⟨Brief.mono ⟨_, step.made, pauses_eq_nil unpaused, Nat.le_refl _⟩
      (Nat.succ_le_succ sent.length_le), sent.ne_timeout⟩

/-- A staged frame that is out, or has failed, without a wait. -/
structure Settled (bus : Bus σ) (result : Except Failure Unit) (after : Bus σ) : Prop where
  brief : Brief 5 bus after
  prompt : result ≠ .error .timeout
  idle : result = .ok () → after.phase = .idle

theorem brief_requested (bus : Bus σ) (total : Nat) :
    Brief 1 bus ((bus.asking total).called .select) ∧ Brief 2 bus (bus.requested total) := by
  have chosen := Steady.call (bus.asking total) .select
  have looked := Steady.call (bus.selected total) .sampleLine
  have select : Brief 1 bus ((bus.asking total).called .select) :=
    ⟨_, chosen.made, rfl, Nat.le_refl _⟩
  have look : Brief 1 ((bus.asking total).called .select) (bus.requested total) :=
    ⟨_, looked.made, rfl, Nat.le_refl _⟩
  exact ⟨select, select.trans look⟩

theorem writeStaged_settled {total : Nat} (fits : total ≤ bufferCapacity)
    (heard : bus.Selectable total → (bus.selected total).nextLook.fails = false →
      (bus.selected total).nextLook.reply.low = true) :
    Ensures (writeStaged total) bus (Settled bus) := by
  obtain ⟨select, look⟩ := brief_requested bus total
  apply ensures_writeStaged
  · intro _ after dropped
    exact ⟨(select.trans dropped.brief).mono (by decide), by rintro ⟨⟩, by rintro ⟨⟩⟩
  · intro _ _ after dropped
    exact ⟨(look.trans dropped.brief).mono (by decide), by rintro ⟨⟩, by rintro ⟨⟩⟩
  · intro _ _ _
    have stages : (bus.requested total).staged ≤ bufferCapacity := fits
    apply (finishWrite_ensures stages).bind
    · rintro _ closed ⟨body, close, sent⟩
      exact ⟨look.trans (sent.brief (clocksOut_frameScript _) close), by rintro ⟨⟩,
        fun _ ↦ close.phase⟩
    · rintro failure closed ⟨body, close, sent⟩
      exact ⟨look.trans (sent.brief (clocksOut_frameScript _) close), sent.ne_timeout,
        by rintro ⟨⟩⟩
  · intro selects sound high
    rw [heard selects sound] at high
    cases high

theorem write_prompt {payload : Nat} (resting : bus.Resting)
    (unwaiting : ∀ target waiting, ¬ Awaiting bus payload target waiting) :
    Ensures (write payload) bus fun result after ↦
      Brief 8 bus after ∧ result ≠ .error .timeout := by
  have written : Written bus payload (write payload bus).1 (write payload bus).2 :=
    write_ensures resting payload
  have silent : Brief 8 bus bus := ⟨[], rfl, rfl, Nat.zero_le _⟩
  by_cases admits : bus.Admits payload
  case neg =>
    unfold Ensures
    generalize (write payload bus).1 = result at *
    generalize (write payload bus).2 = after at *
    cases written with
    | poisoned _ => exact ⟨silent, by rintro ⟨⟩⟩
    | tooLong _ _ => exact ⟨silent, by rintro ⟨⟩⟩
    | overrun _ _ _ => exact ⟨silent, by rintro ⟨⟩⟩
    | unready admitted _ _ _ => exact absurd admitted admits
    | first admitted _ _ => exact absurd admitted admits
    | staged admitted _ _ => exact absurd admitted admits
  obtain ⟨split, window⟩ := admits.window
  refine ensures_write admits ?_
  rcases resting.phase with powerUp | initialized | idle
  · exact absurd (Awaiting.ready admits powerUp) (unwaiting _ _)
  · have phase : (bus.framed payload).phase = .initialized := initialized
    simp only [writeFramed, ensures_get_bind, phase, reduceCtorEq, ↓reduceIte,
      ← length_frame bus admits.fits]
    exact (first_ensures window split).mono fun _ _ sent ↦ sent.brief
  · have phase : (bus.framed payload).phase = .idle := idle
    simp only [writeFramed, ensures_get_bind, phase, reduceCtorEq, ↓reduceIte]
    have settled := writeStaged_settled admits.fits fun selects sound ↦ by
      by_contra high
      exact unwaiting _ _ (.answer admits idle selects sound (Bool.eq_false_iff.mpr high))
    apply settled.bind
    · intro _ after settled
      exact awaited (settled.idle rfl) ⟨settled.brief.mono (by decide), settled.prompt⟩
    · intro failure after settled
      exact ⟨settled.brief.mono (by decide), settled.prompt⟩

/-! ### A write that waits -/

theorem Resumed.brief {frame : List UInt8} {target : Phase} {outcome result : Except Failure Unit}
    {ended : Bus σ} (h : Resumed frame target outcome ended result after) : Brief 8 ended after := by
  cases h with
  | unready => exact ⟨[], rfl, rfl, Nat.zero_le _⟩
  | first sent => exact sent.brief.1
  | dropped dropped => exact dropped.brief.mono (by decide)
  | out => exact ⟨[], rfl, rfl, Nat.zero_le _⟩

/-- A write reports that its wait was in vain exactly if it was. -/
theorem Resumed.timeout_iff {frame : List UInt8} {target : Phase}
    {outcome result : Except Failure Unit} {ended : Bus σ}
    (h : Resumed frame target outcome ended result after) :
    result = .error .timeout ↔ outcome = .error .timeout := by
  cases h with
  | unready => rfl
  | first sent => exact iff_of_false sent.brief.2 (by rintro ⟨⟩)
  | dropped _ => rfl
  | out => rfl

theorem Awaiting.brief {payload : Nat} {target : Phase} {waiting : Bus σ}
    (h : Awaiting bus payload target waiting) : Brief 2 bus waiting := by
  cases h with
  | ready _ _ => exact ⟨[], rfl, rfl, Nat.zero_le _⟩
  | answer _ _ _ _ _ => exact (brief_requested (bus.framed payload) _).2

/-- The calls of a write whose wait ends at the poll after so many rounds. -/
theorem Awaiting.paced {payload rounds : Nat} {target : Phase} {waiting : Bus σ} {step : UInt32}
    {outcome result : Except Failure Unit} (h : Awaiting bus payload target waiting)
    (resting : bus.Resting)
    (unserved : ∀ earlier < rounds, Unserved target (waiting.afterRounds step earlier))
    (resumed : Resumed (bus.frame payload) target outcome (pump (waiting.afterRounds step rounds)).2
      result after) :
    ∃ calls, Made bus calls after ∧ pauses calls = List.replicate rounds step ∧
      calls.length ≤ 2 * rounds + 14 := by
  have waits := h.waitsFor resting
  obtain ⟨before, started, unpaused, few⟩ := h.brief
  obtain ⟨made, rounded, paced⟩ := waits.steady_afterRounds unserved
  obtain ⟨last, ended, unpaused', few'⟩ :=
    (waits.afterRounds unserved).brief.1.trans resumed.brief
  refine ⟨before ++ (made ++ last), started.trans (rounded.made.trans ended), ?_, ?_⟩
  · rw [pauses_append, pauses_append, unpaused, unpaused', paced.pauses, List.append_nil,
      List.nil_append]
  · have few'' := paced.few
    simp only [List.length_append]
    omega

/-! ### The law -/

/-- A write that was admitted fails in vain or with the hardware. -/
theorem Written.failure_of_admits {payload : Nat} {result : Except Failure Unit}
    (h : Written bus payload result after) (admits : bus.Admits payload) (failure : Failure)
    (error : result = .error failure) : failure = .timeout ∨ ∃ call, failure = .hardware call := by
  cases h with
  | poisoned poisoned => rw [admits.sound] at poisoned; cases poisoned
  | tooLong _ long => exact absurd admits.fits (Nat.not_le.mpr long)
  | overrun _ _ trampled => rw [admits.intact] at trampled; cases trampled
  | unready _ _ waits _ =>
    cases error
    exact waits.cause
  | first _ _ sent =>
    obtain ⟨_, attempt⟩ := sent.attempt
    exact attempt.failure failure error
  | staged _ _ sent =>
    obtain ⟨_, attempt⟩ := sent.attempt
    exact attempt.failure failure error

/-- The law of the waits of a write. -/
structure Patient (bus : Bus σ) (payload : Nat) (calls : List Entry) (result : Except Failure Unit)
    (after : Bus σ) : Prop where
  /-- A write ends. -/
  ends : calls.length ≤ 2 * bus.config.patience + 14
  /-- It pauses between its polls no more often than one wait can, for one step each time. -/
  paces : ∃ rounds ≤ bus.config.patience,
    pauses calls = List.replicate rounds bus.config.pollStep
  /-- It gives up exactly if it has come to wait, has made all the pauses, and the poll after the
  last of them has not failed and has not brought the engine where it should be. -/
  timeout : result = .error .timeout ↔ ∃ target waiting, Awaiting bus payload target waiting ∧
    pauses calls = List.replicate bus.config.patience bus.config.pollStep ∧
      Unserved target (waiting.afterRounds bus.config.pollStep bus.config.patience)
  /-- The first poll that sees a request ends the wait, that after the last pause included, and
  the write is then up to the hardware. -/
  served : ∀ target waiting, Awaiting bus payload target waiting → ∀ rounds ≤ bus.config.patience,
    (∀ earlier < rounds, (waiting.afterRounds bus.config.pollStep earlier).Unasked) →
    ¬ (waiting.afterRounds bus.config.pollStep rounds).Unasked →
    let last := waiting.afterRounds bus.config.pollStep rounds
    pauses calls = List.replicate rounds bus.config.pollStep ∧
      Resumed (bus.frame payload) target ((pump last).1.map fun _ ↦ ()) (pump last).2 result after ∧
      ∀ failure, result = .error failure →
        ∃ entry ∈ calls, entry.fails = true ∧ failure = .hardware entry.call

theorem Awaiting.admits {payload : Nat} {target : Phase} {waiting : Bus σ}
    (h : Awaiting bus payload target waiting) : bus.Admits payload := by
  cases h with
  | ready admits _ => exact admits
  | answer admits _ _ _ _ => exact admits

theorem write_patient (resting : bus.Resting) (payload : Nat) :
    ∃ calls, Made bus calls (write payload bus).2 ∧
      Patient bus payload calls (write payload bus).1 (write payload bus).2 := by
  have written : Written bus payload (write payload bus).1 (write payload bus).2 :=
    write_ensures resting payload
  by_cases waits : ∃ target waiting, Awaiting bus payload target waiting
  case neg =>
    have unwaiting : ∀ target waiting, ¬ Awaiting bus payload target waiting :=
      fun target waiting awaiting ↦ waits ⟨target, waiting, awaiting⟩
    obtain ⟨⟨calls, made, unpaused, few⟩, prompt⟩ := write_prompt resting unwaiting
    refine ⟨calls, made, Nat.le_trans few (by omega), ⟨0, Nat.zero_le _, unpaused⟩, ?_, ?_⟩
    · exact iff_of_false prompt fun ⟨target, waiting, awaiting, _⟩ ↦ unwaiting _ _ awaiting
    · exact fun target waiting awaiting ↦ absurd awaiting (unwaiting _ _)
  obtain ⟨target, waiting, awaiting⟩ := waits
  obtain ⟨outcome, ended, ends, resumed⟩ := write_resumes resting awaiting
  have waitsFor := awaiting.waitsFor resting
  have late := resumed.timeout_iff.trans (ends.timeout_iff waitsFor)
  generalize (write payload bus).1 = result at *
  generalize (write payload bus).2 = after at *
  cases ends with
  | ranOut unserved =>
    obtain ⟨calls, made, paced, few⟩ := awaiting.paced resting
      (fun earlier less ↦ unserved earlier (Nat.le_of_lt less)) resumed
    refine ⟨calls, made, few, ⟨_, Nat.le_refl _, paced⟩, ?_, ?_⟩
    · exact iff_of_true (late.mpr unserved)
        ⟨target, waiting, awaiting, paced, unserved _ (Nat.le_refl _)⟩
    · intro other another also rounds within unasked asked
      obtain ⟨rfl, rfl⟩ := awaiting.unique also
      have before := waitsFor.unserved_of_unasked unasked
      have poll := waitsFor.afterRounds before
      exact absurd (poll.unserved_iff.mp (unserved rounds within)) asked
  | @ended rounds within unserved served =>
    obtain ⟨calls, made, paced, few⟩ := awaiting.paced resting unserved resumed
    have prompt : result ≠ .error .timeout := fun vain ↦ served (late.mp vain rounds within)
    refine ⟨calls, made, Nat.le_trans few (by omega), ⟨rounds, within, paced⟩, ?_, ?_⟩
    · refine iff_of_false prompt ?_
      rintro ⟨other, another, also, all, vain⟩
      obtain ⟨rfl, rfl⟩ := awaiting.unique also
      have same : rounds = bus.config.patience := by
        have lengths := congrArg List.length (paced.symm.trans all)
        rwa [List.length_replicate, List.length_replicate] at lengths
      exact served (same ▸ vain)
    · intro other another also first _ unasked asked
      obtain ⟨rfl, rfl⟩ := awaiting.unique also
      have before := waitsFor.unserved_of_unasked unasked
      have heard : ¬ Unserved target (waiting.afterRounds bus.config.pollStep first) :=
        fun vain ↦ asked ((waitsFor.afterRounds before).unserved_iff.mp vain)
      -- Both are the first poll that is served.
      obtain rfl : rounds = first := by
        rcases Nat.lt_trichotomy rounds first with less | same | more
        · exact absurd (before rounds less) served
        · exact same
        · exact absurd (unserved first more) heard
      refine ⟨paced, resumed, fun failure error ↦ ?_⟩
      obtain ⟨others, same, blames⟩ := written.blames
      obtain rfl : calls = others := calls_unique made same
      rcases written.failure_of_admits awaiting.admits failure error with rfl | ⟨call, rfl⟩
      · exact absurd error prompt
      · rw [error] at blames
        obtain ⟨entry, mem, fails, rfl⟩ := blames.cause
        exact ⟨entry, mem, fails, rfl⟩

/-! ### Runs -/

section Configuration

variable {result : Except Failure Unit}

theorem FrameRead.config (h : FrameRead bus result after) : after.config = bus.config := by
  cases h with
  | refused _ _ step => exact step.config
  | broken _ _ _ step => exact step.config
  | oversize _ _ _ _ _ step => exact step.config
  | unreleased _ _ step _ _ close => exact close.config.trans step.config
  | overrun _ _ step _ _ close _ => exact close.config.trans step.config
  | delivered _ _ step _ _ close _ handed _ =>
    exact handed.config.trans (close.config.trans step.config)

theorem Pumped.config {result : Except Failure Bool} (h : Pumped bus result after) :
    after.config = bus.config := by
  cases h with
  | off _ => rfl
  | unread _ step _ _ => exact step.config
  | unasked _ step _ _ => exact step.config
  | served _ looked _ _ served =>
    cases served with
    | ready _ => exact looked.config
    | sent _ step _ => exact step.config.trans looked.config
    | read _ read => exact read.config.trans looked.config

theorem FirstSent.config {frame : List UInt8} (h : FirstSent bus frame result after) :
    after.config = bus.config := by
  cases h with
  | unselected _ _ step => exact step.config
  | sent _ _ step => exact step.config

theorem Written.config {payload : Nat} (h : Written bus payload result after) :
    after.config = bus.config := by
  cases h with
  | poisoned _ => rfl
  | tooLong _ _ => rfl
  | overrun _ _ _ => rfl
  | unready _ _ _ step => exact step.config
  | first _ waited sent => exact sent.config.trans waited.steady.config
  | staged _ _ sent =>
    cases sent with
    | refused _ _ _ step => exact step.config
    | unanswered _ chosen _ _ _ step => exact step.config.trans chosen.config
    | sent _ chosen _ _ step _ close spent =>
      have closed := close.config.trans (step.config.trans chosen.config)
      rcases spent with rfl | rfl
      · exact closed
      · exact closed

theorem Acted.config {action : Action σ} {result : Except Failure (Option Bool)}
    (h : Acted bus action result after) : after.config = bus.config := by
  cases h with
  | unattached _ _ step => exact step.config
  | attached _ _ step => exact step.config
  | detached => rfl
  | powered _ step => exact step.config
  | paused _ step => exact step.config
  | sent sent =>
    cases sent with
    | tooLong _ => rfl
    | written _ written => exact written.config
  | wrote written => exact written.config
  | pumped pumped => exact pumped.config
  | edited _ _ => rfl
  | signalled => rfl
  | trampled _ _ => rfl
  | drifted _ => rfl

theorem run_config (config : Config) (board : σ) (actions : List (Action σ)) :
    (run (create config board) actions).config = config :=
  (run_keeps (P := fun later ↦ later.config = config) (resting_create config board) rfl
    fun _ _ _ _ _ _ kept acted ↦ acted.config.trans kept).2

end Configuration

theorem send_of_long {payload : List UInt8} (long : payloadLimit < payload.length) (bus : Bus σ) :
    send payload bus = (.error .tooLong, bus) := by
  rw [send, if_pos long]
  rfl

/-- A payload that fits is put in place and written. -/
theorem send_of_fits {payload : List UInt8} (fits : ¬ payloadLimit < payload.length)
    (bus : Bus σ) : send payload bus = write payload.length (bus.loaded 0 payload) := by
  rw [send, if_neg fits]
  rfl

/-- Waits are bounded. Whatever the configuration, whatever has been done to the engine and
whatever the board answers, a write ends; its pauses between polls are steps of the configured
length, of at least one microsecond, and no more than the budget over the step, rounded up; it
reports that its wait was in vain exactly if it has waited, has made all of these pauses and one
further poll has succeeded without bringing the engine where it should be; and a request that is
first seen by that last poll is served like any other. The same holds of `send`, unless the
payload is too long, which takes no call to find out. -/
theorem run_boundedWaits (config : Config) (board : σ) (actions : List (Action σ)) :
    let bus := run (create config board) actions
    bus.config = config ∧
      (∀ length : Nat, ∃ calls, Made bus calls (write length bus).2 ∧
        Patient bus length calls (write length bus).1 (write length bus).2) ∧
      ∀ payload : List UInt8, ∃ calls, Made bus calls (send payload bus).2 ∧
        if payloadLimit < payload.length then
          calls = [] ∧ (send payload bus).1 = .error .tooLong
        else
          Patient (bus.loaded 0 payload) payload.length calls (send payload bus).1
            (send payload bus).2 := by
  intro bus
  have resting : bus.Resting := run_resting config board actions
  refine ⟨run_config config board actions, write_patient resting, fun payload ↦ ?_⟩
  by_cases long : payloadLimit < payload.length
  · simp only [long, ↓reduceIte, send_of_long long]
    exact ⟨[], rfl, rfl, trivial⟩
  · have loaded : (bus.loaded 0 payload).Resting := { resting with }
    simp only [long, ↓reduceIte, send_of_fits long]
    exact write_patient loaded payload.length

end SpiWifi.Bus
