import SpiWifi.Proofs.Bus.Framing
import SpiWifi.Proofs.Bus.Service

/-!
Writing one frame. The first frame of a session waits until the chip is ready and
goes out in two portions; every later one is staged, and goes out once the chip has
answered, at once or from within the dispatcher. `Written` lists how a write can end.
-/

set_option autoImplicit false
set_option relaxedAutoImplicit false

namespace SpiWifi.Bus

open Wire

variable {σ : Type}

/-- The engine between two operations: no transaction owns the bus. -/
structure Resting (bus : Bus σ) : Prop where
  phase : bus.phase = .powerUp ∨ bus.phase = .initialized ∨ bus.phase = .idle
  dispatching : bus.dispatching = false
  staged : bus.staged ≤ bufferCapacity

/-- A write of this length is not turned down before it touches the bus. -/
structure Admits (bus : Bus σ) (payload : Nat) : Prop where
  sound : bus.poisoned = false
  fits : frameLength payload ≤ bufferCapacity
  intact : bus.transmit.intact = true

/-- The frame around the first `payload` bytes of the payload region. -/
def frame (bus : Bus σ) (payload : Nat) : List UInt8 :=
  frameOf (bus.transmit.payload.take payload)

/-- The engine with a frame staged, before it asks the chip. -/
def asking (bus : Bus σ) (total : Nat) : Bus σ :=
  { bus.deaf with phase := .writeRequested, staged := total }

/-- The calls of the first frame, from the settle pause on. -/
def firstScript (settle : UInt32) (frame : List UInt8) : List Call :=
  [.pauseMillis settle, .write (frame.take firstSplit), .flush, .pauseMillis settle,
    .write (frame.drop firstSplit), .flush]

/-- A look at the line that did not find it low. -/
def Unheard (sample : Entry) : Prop :=
  sample.call = .sampleLine ∧ (sample.fails = true ∨ sample.reply.low = false)

variable [Board σ] {bus : Bus σ}

/-- The chip is ready for the first frame, after a wait if it was not before. -/
inductive Ready (bus : Bus σ) : List Entry → Bus σ → Prop where
  | already (phase : bus.phase = .initialized) : Ready bus [] bus
  | waited {calls : List Entry} {asked : Bus σ} (phase : bus.phase = .powerUp)
      (enabled : bus.interruptEnabled = true) (step : Steady bus calls asked) (waits : Waits calls)
      (evidence : Asked bus.latch.pending calls) : Ready bus calls (asked.inPhase .initialized)

/-- How the first frame can end, once the chip is ready. -/
inductive FirstSent (bus : Bus σ) (frame : List UInt8) : Except Failure Unit → Bus σ → Prop where
  | unselected {select : Entry} {after : Bus σ} (call : select.call = .select)
      (fails : select.fails = true) (step : Steady bus [select] after) :
      FirstSent bus frame (.error (.hardware .select)) after
  | sent {select : Entry} {body : List Entry} {result : Except Failure Unit} {after : Bus σ}
      (selects : Selects select)
      (sent : Transacts (firstScript bus.config.settleMillis frame) body result)
      (step : Steady (bus.inPhase .idle) (select :: body) after) : FirstSent bus frame result after

/-- How a staged frame can end. -/
inductive StagedSent (bus : Bus σ) (frame : List UInt8) : Except Failure Unit → Bus σ → Prop where
  | refused {select release : Entry} {released : Bus σ} (call : select.call = .select)
      (fails : select.fails = true) (drops : release.call = .release)
      (step : Steady ((bus.asking frame.length).inPhase .idle) [select, release] released) :
      StagedSent bus frame (.error (.hardware .select)) released.listening
  | unanswered {select release : Entry} {calls : List Entry} {failure : Failure}
      {selected after : Bus σ} (selects : Selects select)
      (chosen : Steady (bus.asking frame.length) [select] selected) (waits : GaveUp calls failure)
      (unheard : ∃ sample ∈ calls, Unheard sample) (drops : release.call = .release)
      (step : Steady (selected.listening.inPhase .idle) (calls ++ [release]) after) :
      StagedSent bus frame (.error failure) after
  | sent {select : Entry} {calls body : List Entry} {result : Except Failure Unit}
      {selected asked closed after : Bus σ} (selects : Selects select)
      (chosen : Steady (bus.asking frame.length) [select] selected) (waits : Waits calls)
      (evidence : Asked false calls) (step : Steady selected.listening calls asked)
      (sent : Transacts (frameScript frame) body result)
      (close : Steady (asked.inPhase .idle) body closed)
      (spent : after = closed ∨ after = closed.edgeTaken) : StagedSent bus frame result after

/-- How a write can end. -/
inductive Written (bus : Bus σ) (payload : Nat) : Except Failure Unit → Bus σ → Prop where
  | poisoned (poisoned : bus.poisoned = true) : Written bus payload (.error .poisoned) bus
  | tooLong (sound : bus.poisoned = false) (long : bufferCapacity < frameLength payload) :
      Written bus payload (.error .tooLong) bus
  | overrun (sound : bus.poisoned = false) (fits : frameLength payload ≤ bufferCapacity)
      (trampled : bus.transmit.intact = false) :
      Written bus payload (.error .overrun) (bus.framed payload).halted
  | unready {calls : List Entry} {failure : Failure} {after : Bus σ} (admits : bus.Admits payload)
      (phase : bus.phase = .powerUp) (waits : GaveUp calls failure)
      (step : Steady (bus.framed payload) calls after) : Written bus payload (.error failure) after
  | first {calls : List Entry} {result : Except Failure Unit} {ready after : Bus σ}
      (admits : bus.Admits payload) (waited : Ready (bus.framed payload) calls ready)
      (sent : FirstSent ready (bus.frame payload) result after) : Written bus payload result after
  | staged {result : Except Failure Unit} {after : Bus σ} (admits : bus.Admits payload)
      (phase : bus.phase = .idle)
      (sent : StagedSent (bus.framed payload) (bus.frame payload) result after) :
      Written bus payload result after

theorem waitFor_ensures {target : Phase} (awaits : Awaits bus.phase target)
    (rest : bus.dispatching = false) (fits : bus.staged ≤ bufferCapacity) :
    Ensures (waitFor target) bus (Waited bus) := waitLoop_ensures awaits rfl rest fits

theorem waitFor_arrived (bus : Bus σ) :
    Ensures (waitFor bus.phase) bus fun result after ↦ result = .ok () ∧ after = bus := by
  unfold waitFor
  simp only [ensures_get_bind]
  rw [waitLoop]
  simp only [ensures_get_bind, ↓reduceIte, ensures_pure, and_self]

omit [Board σ] in
/-- The two portions of a frame that lies at the front of the buffer. -/
theorem window_portions {buffer : GuardedBuffer bufferCapacity} {frame : List UInt8}
    (window : buffer.window? 0 frame.length = some frame) (long : firstSplit ≤ frame.length) :
    buffer.window? 0 firstSplit = some (frame.take firstSplit) ∧
      buffer.window? firstSplit frame.length = some (frame.drop firstSplit) := by
  rw [GuardedBuffer.window?_eq_some_iff] at *
  obtain ⟨⟨-, fits⟩, bytes⟩ := window
  rw [List.drop_zero, Nat.sub_zero] at bytes
  rw [GuardedBuffer.window?_eq_some_iff]
  refine ⟨⟨⟨Nat.zero_le _, Nat.le_trans long fits⟩, ?_⟩, ⟨long, fits⟩, ?_⟩
  · rw [List.drop_zero, Nat.sub_zero]
    conv => rhs; rw [← bytes, List.take_take, Nat.min_eq_left long]
  · rw [← List.drop_take, bytes]

theorem writePortions_performs {frame : List UInt8}
    (window : bus.transmit.window? 0 frame.length = some frame)
    (long : firstSplit ≤ frame.length) :
    Performs [.write (frame.take firstSplit), .flush, .pauseMillis bus.config.settleMillis,
      .write (frame.drop firstSplit), .flush] (writePortions frame.length) bus := by
  obtain ⟨front, back⟩ := window_portions window long
  refine (clockOut_performs front).bind fun _ middle step ↦ ?_
  have second : Performs
      ([.pauseMillis bus.config.settleMillis] ++ [.write (frame.drop firstSplit), .flush])
      (pause middle.config.settleMillis >>= fun _ ↦ clockOut firstSplit frame.length) middle := by
    rw [← step.config]
    refine (performs_call rfl middle).bind fun _ last paused ↦ clockOut_performs ?_
    rw [GuardedBuffer.window?_eq_some_iff, paused.transmit, step.transmit,
      ← GuardedBuffer.window?_eq_some_iff]
    exact back
  exact second

theorem writeFirst_ensures {frame : List UInt8}
    (window : bus.transmit.window? 0 frame.length = some frame)
    (long : firstSplit ≤ frame.length) :
    Ensures (writeFirst frame.length) bus (FirstSent bus frame) := by
  have selected : Ensures (discard (demand .select)) bus fun result after ↦
      ∃ calls, Steady bus calls after ∧ Follows [.select] calls result := performs_demand rfl bus
  apply selected.bind
  · rintro _ middle ⟨calls, step, follows⟩
    have pauses := Steady.call middle (.pauseMillis middle.config.settleMillis)
    simp only [pause, ensures_get_bind, ensures_discard_call_bind, ensures_enterPhase_bind]
    generalize middle.called (.pauseMillis middle.config.settleMillis) = paused at *
    have content : (paused.inPhase .writeFirstPortion).transmit.bytes = bus.transmit.bytes :=
      pauses.transmit.trans step.transmit
    refine (writePortions_performs ?_ long).observe ?_
    · rw [GuardedBuffer.window?_eq_some_iff, content, ← GuardedBuffer.window?_eq_some_iff]
      exact window
    · rintro sent portions ⟨later, portionsStep, rest⟩
      simp only [ensures_enterPhase_bind]
      refine (conclude_ensures sent _).mono ?_
      rintro _ after ⟨release, close, drops, rfl⟩
      have config : middle.config = bus.config := step.config
      have settle : (paused.inPhase .writeFirstPortion).config = bus.config :=
        pauses.config.trans config
      rw [settle] at rest
      have portioned := ((step.trans pauses).inPhase .idle).trans (portionsStep.inPhase .idle)
      have all := portioned.trans close
      have settles : (middle.entryOf (.pauseMillis middle.config.settleMillis)).call =
          .pauseMillis bus.config.settleMillis := by
        rw [config]
        rfl
      have sent := Transacts.intro (.next settles rfl rest) drops
      cases follows with
      | next call fails tail =>
        cases tail
        exact .sent ⟨call, fails⟩ sent all
  · rintro failure after ⟨calls, step, follows⟩
    cases follows with
    | stopped call fails => exact .unselected call fails step
    | next _ _ tail => cases tail

/-- The chip was asked, and has not answered yet. -/
def Unanswered (bus : Bus σ) (frame : List UInt8) (after : Bus σ) : Prop :=
  ∃ select sample selected, Selects select ∧ Samples sample ∧ Unheard sample ∧
    Steady (bus.asking frame.length) [select] selected ∧ Steady selected.listening [sample] after

omit [Board σ] in
theorem ensures_asking_bind {β : Type} {next : Unit → BusM σ β}
    {post : Except Failure β → Bus σ → Prop} {total : Nat} :
    Ensures (modify ({ · with phase := .writeRequested, staged := total }) >>= next) bus.deaf post ↔
      Ensures (next ()) (bus.asking total) post := Iff.rfl

omit [Board σ] in
/-- Enabling an interrupt that is enabled already does nothing. -/
theorem listening_eq (enabled : bus.interruptEnabled = true) (armed : bus.latch.armed = true) :
    bus.listening = bus := by
  rcases bus with ⟨_, _, _, _, _, interruptEnabled, _, _, _, ⟨latchArmed, pending⟩, _, _⟩
  simp only at enabled armed
  subst enabled armed
  rfl

omit [Board σ] in
theorem stagedFrame_eq {frame : List UInt8} {after : Bus σ}
    (window : bus.transmit.window? 0 frame.length = some frame)
    (staged : after.staged = frame.length) (content : after.transmit.bytes = bus.transmit.bytes) :
    after.staged ≤ bufferCapacity ∧ after.stagedFrame = frame := by
  obtain ⟨⟨-, fits⟩, bytes⟩ := GuardedBuffer.window?_eq_some_iff.mp window
  rw [stagedFrame, staged, content]
  exact ⟨fits, bytes⟩

/-- A staged frame that the chip has not answered is dropped. -/
theorem giveUp_ensures {α : Type} {frame : List UInt8} {select : Entry} {calls : List Entry}
    {failure : Failure} {selected waited : Bus σ} (sound : bus.poisoned = false)
    (selects : Selects select) (chosen : Steady (bus.asking frame.length) [select] selected)
    (step : Steady selected.listening calls waited) (waits : GaveUp calls failure)
    (unheard : ∃ sample ∈ calls, Unheard sample) :
    Ensures (abandon failure : BusM σ α) waited fun result after ↦
      result = .error failure ∧ StagedSent bus frame (.error failure) after := by
  have phase : waited.phase = .writeRequested := step.phase.trans chosen.phase
  have inFlight : waited.phase.inFlight = true := by
    rw [phase]
    rfl
  have clear : waited.poisoned = false := step.poisoned.trans (chosen.poisoned.trans sound)
  refine (abandon_ensures inFlight clear).mono ?_
  rintro _ after ⟨rfl, release, released, dropping, drops, rfl⟩
  have all := (step.inPhase .idle).trans dropping
  rw [listening_eq all.interruptEnabled all.armed]
  exact ⟨rfl, .unanswered selects chosen waits unheard drops all⟩

/-- A chip that answers at once gets the frame at once. -/
theorem answered_ensures {frame : List UInt8} {select sample : Entry} {selected sampled : Bus σ}
    (window : bus.transmit.window? 0 frame.length = some frame) (selects : Selects select)
    (chosen : Steady (bus.asking frame.length) [select] selected)
    (step : Steady selected.listening [sample] sampled) (samples : Samples sample)
    (low : sample.reply.low = true) :
    Ensures (do
      finishWrite
      discard takeEdge) sampled fun result after ↦
        StagedSent bus frame result after ∧ (result.isOk → after.phase = .idle) := by
  obtain ⟨fits, frame⟩ := stagedFrame_eq window (step.staged.trans chosen.staged)
    (step.transmit.trans chosen.transmit)
  have waits : Waits [sample] := List.forall_mem_singleton.mpr (Or.inl samples)
  have evidence : Asked false [sample] :=
    Or.inr (Or.inr ⟨sample, List.mem_singleton_self _, samples, low⟩)
  apply (finishWrite_ensures fits).bind
  · rintro _ closed ⟨body, close, sent⟩
    rw [frame] at sent
    have outcome := StagedSent.sent selects chosen waits evidence step sent close (Or.inr rfl)
    exact ⟨outcome, fun _ ↦ close.phase⟩
  · rintro failure closed ⟨body, close, sent⟩
    rw [frame] at sent
    have outcome := StagedSent.sent selects chosen waits evidence step sent close (Or.inl rfl)
    exact ⟨outcome, fun ok ↦ absurd ok Bool.false_ne_true⟩

theorem writeStaged_ensures {frame : List UInt8} (sound : bus.poisoned = false)
    (window : bus.transmit.window? 0 frame.length = some frame) :
    Ensures (writeStaged frame.length) bus fun result after ↦
      StagedSent bus frame result after ∧ (result.isOk → after.phase = .idle) ∨
        result = .ok () ∧ bus.Unanswered frame after := by
  have step := Steady.call (bus.asking frame.length) .select
  have fails : ((bus.asking frame.length).entryOf .select).fails = _ := fails_entryOf rfl _
  simp only [writeStaged, ensures_disableInterrupt_bind, ensures_asking_bind, ensures_call_bind]
  split
  · rename_i failed
    have inFlight : (bus.asking frame.length).phase.inFlight = true := rfl
    apply (abandon_ensures (step.phase ▸ inFlight) (step.poisoned.trans sound)).bind
    · rintro _ _ ⟨impossible, -⟩
      cases impossible
    · rintro failure after ⟨result, release, released, drops, call, rfl⟩
      cases result
      have all := (step.inPhase .idle).trans drops
      have outcome := StagedSent.refused rfl (fails.trans failed) call all
      exact Or.inl ⟨outcome, fun ok ↦ absurd ok Bool.false_ne_true⟩
  · rename_i chosen
    have selects : Selects ((bus.asking frame.length).entryOf .select) :=
      ⟨rfl, fails.trans (Bool.eq_false_iff.mpr chosen)⟩
    generalize (bus.asking frame.length).called .select = selected at *
    simp only [ensures_enableInterrupt_bind]
    refine (lineIsLow_ensures selected.listening).observe fun level sampled looked ↦ ?_
    cases looked with
    | @unread sample _ sampling call fails =>
      have unheard : ∃ other ∈ [] ++ [sample], Unheard other :=
        ⟨sample, List.mem_singleton_self _, call, Or.inl fails⟩
      refine (giveUp_ensures sound selects step sampling (.unread waits_nil call fails)
        unheard).mono ?_
      rintro _ after ⟨rfl, outcome⟩
      exact Or.inl ⟨outcome, fun ok ↦ absurd ok Bool.false_ne_true⟩
    | @read sample _ sampling samples =>
      by_cases low : sample.reply.low = true
      · simp only [low]
        exact (answered_ensures window selects step sampling samples low).mono
          fun _ _ ↦ Or.inl
      · simp only [low]
        have unheard : Unheard sample := ⟨samples.1, Or.inr (Bool.eq_false_iff.mpr low)⟩
        exact Or.inr ⟨rfl, _, sample, selected, selects, samples, unheard, step, sampling⟩

/-- No edge from before the request is left when the interrupt is enabled again. -/
theorem pending_of_chosen {total : Nat} {calls : List Entry} {selected : Bus σ}
    (chosen : Steady (bus.asking total) calls selected) :
    selected.listening.latch.pending = false := by
  refine Bool.eq_false_iff.mpr fun pending ↦ ?_
  rcases chosen.pending pending with old | ⟨armed, -⟩
  · cases old
  · cases armed

/-- Waits for the chip's answer, and drops the frame if there is none. -/
theorem await_ensures {frame : List UInt8} {asked : Bus σ} (sound : bus.poisoned = false)
    (rest : bus.dispatching = false) (window : bus.transmit.window? 0 frame.length = some frame)
    (unanswered : bus.Unanswered frame asked) :
    Ensures awaitOut asked (StagedSent bus frame) := by
  obtain ⟨select, sample, selected, selects, samples, unheard, chosen, sampling⟩ := unanswered
  have requested : asked.phase = .writeRequested := sampling.phase.trans chosen.phase
  have clear : asked.poisoned = false := sampling.poisoned.trans (chosen.poisoned.trans sound)
  have still : asked.dispatching = false :=
    sampling.dispatching.trans (chosen.dispatching.trans rest)
  have one : Waits [sample] := List.forall_mem_singleton.mpr (Or.inl samples)
  have stages : asked.staged = frame.length := sampling.staged.trans chosen.staged
  have fits := (stagedFrame_eq window stages (sampling.transmit.trans chosen.transmit)).1
  refine (waitFor_ensures (Or.inr ⟨requested, rfl⟩) still fits).observe ?_
  rintro result after waited
  cases waited with
  | @gaveUp calls failure _ step waits =>
    have first : sample ∈ [sample] ++ calls := List.mem_append_left _ (List.mem_singleton_self _)
    refine (giveUp_ensures sound selects chosen (sampling.trans step) (waits.after one)
      ⟨sample, first, unheard⟩).mono ?_
    rintro _ last ⟨rfl, outcome⟩
    exact outcome
  | @served calls _ answered _ enabled step waits evidence served =>
    have all := sampling.trans step
    have asks := evidence.after sampling
    rw [pending_of_chosen chosen] at asks
    cases served with
    | ready other => rw [step.phase, requested] at other; cases other
    | read other _ => rw [step.phase, requested] at other; cases other
    | sent _ close sent =>
      have frame : answered.stagedFrame = frame :=
        (stagedFrame_eq window (all.staged.trans chosen.staged)
          (all.transmit.trans chosen.transmit)).2
      rw [frame] at sent
      have outcome := StagedSent.sent selects chosen (one.append waits) asks all sent close
        (Or.inl rfl)
      cases result with
      | ok _ => exact outcome
      | error failure =>
        refine (abandon_idle close.phase ?_).mono ?_
        · exact close.poisoned.trans (step.poisoned.trans clear)
        · rintro _ last ⟨rfl, rfl⟩
          have enabled := close.interruptEnabled.trans all.interruptEnabled
          rw [listening_eq enabled (close.armed.trans all.armed)]
          exact outcome

/-- A frame that is out already leaves nothing to wait for. -/
theorem awaited {post : Except Failure Unit → Bus σ → Prop} (idle : bus.phase = .idle)
    (done : post (.ok ()) bus) :
    Ensures awaitOut bus post := by
  refine (idle ▸ waitFor_arrived bus).observe ?_
  rintro _ _ ⟨rfl, rfl⟩
  exact done

theorem FirstSent.phase {frame : List UInt8} {after : Bus σ}
    (h : FirstSent bus frame (.ok ()) after) : after.phase = .idle := by
  cases h with
  | sent _ _ step => exact step.phase

/-- The first frame, once the chip is ready. -/
theorem first_ensures {frame : List UInt8}
    (window : bus.transmit.window? 0 frame.length = some frame)
    (long : firstSplit ≤ frame.length) :
    Ensures (do
      writeFirst frame.length
      awaitOut) bus (FirstSent bus frame) :=
  (writeFirst_ensures window long).bind (fun _ _ sent ↦ awaited sent.phase sent)
    fun _ _ sent ↦ sent

/-- A later frame. -/
theorem staged_ensures {frame : List UInt8} (sound : bus.poisoned = false)
    (rest : bus.dispatching = false)
    (window : bus.transmit.window? 0 frame.length = some frame) :
    Ensures (do
      writeStaged frame.length
      awaitOut) bus (StagedSent bus frame) := by
  apply (writeStaged_ensures sound window).bind
  · rintro _ after (⟨sent, arrived⟩ | ⟨-, unanswered⟩)
    · exact awaited (arrived rfl) sent
    · exact await_ensures sound rest window unanswered
  · rintro failure after (⟨sent, -⟩ | ⟨impossible, -⟩)
    · exact sent
    · cases impossible

omit [Board σ] in
theorem length_frame (bus : Bus σ) {payload : Nat} (fits : frameLength payload ≤ bufferCapacity) :
    (bus.frame payload).length = frameLength payload := by
  have room : payload ≤ bus.transmit.payload.length := by
    rw [GuardedBuffer.payload, List.length_drop, bus.transmit.length_bytes]
    simp only [frameLength, paddedLength, headerSize] at *
    omega
  rw [frame, length_frameOf, List.length_take, Nat.min_eq_left room]

omit [Board σ] in
/-- The frame is at the front of the buffer once it was put around its payload. -/
theorem window_framed (bus : Bus σ) {payload : Nat} (fits : frameLength payload ≤ bufferCapacity) :
    (bus.framed payload).transmit.window? 0 (bus.frame payload).length =
      some (bus.frame payload) := by
  rw [length_frame bus fits, GuardedBuffer.window?_eq_some_iff, List.drop_zero, Nat.sub_zero]
  exact ⟨⟨Nat.zero_le _, fits⟩, take_framedBuffer fits⟩

namespace Ready

variable {calls : List Entry} {ready : Bus σ}

theorem steady (h : Ready bus calls ready) : Steady (bus.inPhase .initialized) calls ready := by
  cases h with
  | already phase =>
    rw [← phase]
    exact .refl bus
  | waited _ _ step _ _ => exact step.inPhase .initialized

theorem waits (h : Ready bus calls ready) : Waits calls := by
  cases h with
  | already _ => exact waits_nil
  | waited _ _ _ waits _ => exact waits

theorem phase (h : Ready bus calls ready) : ready.phase = .initialized := h.steady.phase

/-- An engine that is idle does not wait for the chip to be ready. -/
theorem not_idle (h : Ready bus calls ready) : bus.phase ≠ .idle := by
  intro idle
  cases h with
  | already phase => rw [idle] at phase; cases phase
  | waited phase _ _ _ _ => rw [idle] at phase; cases phase

theorem transmit (h : Ready bus calls ready) : ready.transmit.bytes = bus.transmit.bytes :=
  h.steady.transmit

end Ready

/-- After power up the request for service means that the chip is ready. -/
theorem Waited.ready {after : Bus σ} (h : Waited bus (.ok ()) after)
    (powerUp : bus.phase = .powerUp) : ∃ calls, Ready bus calls after := by
  cases h with
  | served enabled step waits evidence served =>
    cases served with
    | ready _ => exact ⟨_, .waited powerUp enabled step waits evidence⟩
    | sent other _ _ => rw [step.phase, powerUp] at other; cases other
    | read other _ => rw [step.phase, powerUp] at other; cases other

theorem Waited.unready {failure : Failure} {after : Bus σ} (h : Waited bus (.error failure) after)
    (powerUp : bus.phase = .powerUp) : ∃ calls, Steady bus calls after ∧ GaveUp calls failure := by
  cases h with
  | gaveUp step waits => exact ⟨_, step, waits⟩
  | served _ step _ _ served =>
    cases served with
    | sent other _ _ => rw [step.phase, powerUp] at other; cases other
    | read other _ => rw [step.phase, powerUp] at other; cases other

omit [Board σ] in
theorem firstSplit_le_frame (bus : Bus σ) {payload : Nat}
    (fits : frameLength payload ≤ bufferCapacity) : firstSplit ≤ (bus.frame payload).length := by
  rw [length_frame bus fits, frameLength]
  exact Nat.le_trans (by decide) (Nat.le_add_right _ _)

/-- A frame that was admitted is waited for, sent and seen off. -/
theorem writeFramed_ensures {payload : Nat} (resting : bus.Resting) (admits : bus.Admits payload)
    (recover : BusM σ Unit) :
    Ensures (writeFramed recover (frameLength payload)) (bus.framed payload)
      (Written bus payload) := by
  have window := window_framed bus admits.fits
  have split := firstSplit_le_frame bus admits.fits
  simp only [writeFramed, ensures_get_bind]
  rw [← length_frame bus admits.fits]
  rcases resting.phase with powerUp | initialized | idle
  · have phase : (bus.framed payload).phase = .powerUp := powerUp
    simp only [phase, ↓reduceIte]
    apply (waitFor_ensures (Or.inl ⟨phase, rfl⟩) resting.dispatching resting.staged).bind
    · rintro _ ready waited
      obtain ⟨calls, wait⟩ := waited.ready phase
      have phase : ready.phase = .initialized := wait.phase
      simp only [ensures_get_bind, phase, ↓reduceIte]
      refine (first_ensures ?_ split).mono fun _ _ sent ↦ .first admits wait sent
      rw [GuardedBuffer.window?_eq_some_iff, wait.transmit, ← GuardedBuffer.window?_eq_some_iff]
      exact window
    · rintro failure after waited
      obtain ⟨calls, step, waits⟩ := waited.unready phase
      exact .unready admits powerUp waits step
  · have phase : (bus.framed payload).phase = .initialized := initialized
    simp only [phase, reduceCtorEq, ↓reduceIte, ensures_get_bind]
    exact (first_ensures window split).mono fun _ _ sent ↦ .first admits (.already phase) sent
  · have phase : (bus.framed payload).phase = .idle := idle
    simp only [phase, reduceCtorEq, ↓reduceIte, ensures_get_bind]
    have sound : (bus.framed payload).poisoned = false := admits.sound
    exact (staged_ensures sound resting.dispatching window).mono
      fun _ _ sent ↦ .staged admits idle sent

theorem writeRecovering_of_admits {payload : Nat} (admits : bus.Admits payload)
    (recover : BusM σ Unit) :
    writeRecovering recover payload bus =
      writeFramed recover (frameLength payload) (bus.framed payload) := by
  have sound := Bool.eq_false_iff.mp admits.sound
  rw [writeRecovering_apply, if_neg sound, if_neg (Nat.not_lt.mpr admits.fits),
    if_pos admits.intact]

theorem writeRecovering_of_trampled {payload : Nat} (sound : bus.poisoned = false)
    (fits : frameLength payload ≤ bufferCapacity) (trampled : bus.transmit.intact = false)
    (recover : BusM σ Unit) :
    writeRecovering recover payload bus = (.error .overrun, (bus.framed payload).halted) := by
  rw [writeRecovering_apply, if_neg (Bool.eq_false_iff.mp sound), if_neg (Nat.not_lt.mpr fits),
    if_neg (Bool.eq_false_iff.mp trampled)]

theorem write_ensures (resting : bus.Resting) (payload : Nat) :
    Ensures (write payload) bus (Written bus payload) := by
  unfold Ensures write
  cases sound : bus.poisoned with
  | true =>
    rw [writeRecovering, writeLaidOut_of_poisoned abort sound]
    exact .poisoned sound
  | false =>
    by_cases long : bufferCapacity < frameLength payload
    · rw [writeRecovering, writeLaidOut_of_long abort sound (.inl long)]
      exact .tooLong sound long
    have fits := Nat.not_lt.mp long
    cases intact : bus.transmit.intact with
    | false =>
      rw [writeRecovering_of_trampled sound fits intact]
      exact .overrun sound fits intact
    | true =>
      have admits : bus.Admits payload := ⟨sound, fits, intact⟩
      rw [writeRecovering_of_admits admits]
      exact writeFramed_ensures resting admits abort

/-- How sending a payload can end. -/
inductive Sent (bus : Bus σ) (payload : List UInt8) : Except Failure Unit → Bus σ → Prop where
  | tooLong (long : payloadLimit < payload.length) : Sent bus payload (.error .tooLong) bus
  | written {result : Except Failure Unit} {after : Bus σ} (fits : payload.length ≤ payloadLimit)
      (written : Written (bus.loaded 0 payload) payload.length result after) :
      Sent bus payload result after

theorem send_ensures (resting : bus.Resting) (payload : List UInt8) :
    Ensures (send payload) bus (Sent bus payload) := by
  unfold send
  by_cases long : payloadLimit < payload.length
  · rw [if_pos long]
    exact .tooLong long
  · rw [if_neg long]
    have loaded : (bus.loaded 0 payload).Resting := { resting with }
    exact (write_ensures loaded payload.length).mono fun _ _ ↦ .written (Nat.not_lt.mp long)

end SpiWifi.Bus
