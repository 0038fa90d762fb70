import SpiWifi.Proofs.Bus.Reading

/-!
Serving the chip, and waiting for it. `Pumped` lists what one poll can come to and
`Waited` what a blocking wait can: it gives up with the engine where it was, or a
last poll finds the chip asking and serves it.
-/

set_option autoImplicit false
set_option relaxedAutoImplicit false

namespace SpiWifi.Bus

variable {σ : Type} [Board σ] {bus : Bus σ}

/-- The calls that clock out a frame which is sent in one piece. -/
def frameScript (frame : List UInt8) : List Call := [.write frame, .flush]

/-- The frame that waits for the chip's consent. -/
def stagedFrame (bus : Bus σ) : List UInt8 := bus.transmit.bytes.take bus.staged

theorem finishWrite_ensures (fits : bus.staged ≤ bufferCapacity) :
    Ensures finishWrite bus fun result after ↦
      ∃ calls, Steady (bus.inPhase .idle) calls after ∧
        Transacts (frameScript bus.stagedFrame) calls result := by
  have window : bus.transmit.window? 0 bus.staged = some bus.stagedFrame :=
    if_pos ⟨Nat.zero_le _, fits⟩
  simp only [finishWrite, ensures_get_bind]
  refine (clockOut_performs window).observe ?_
  rintro sent middle ⟨calls, step, follows⟩
  simp only [ensures_enterPhase_bind]
  refine (conclude_ensures sent _).mono ?_
  rintro _ after ⟨release, close, call, rfl⟩
  exact ⟨calls ++ [release], (step.inPhase .idle).trans close, .intro follows call⟩

/-- What serving the chip can come to. -/
inductive Served (bus : Bus σ) : Except Failure Unit → Bus σ → Prop where
  | ready (phase : bus.phase = .powerUp) : Served bus (.ok ()) (bus.inPhase .initialized)
  | sent {calls : List Entry} {result : Except Failure Unit} {after : Bus σ}
      (phase : bus.phase = .writeRequested) (step : Steady (bus.inPhase .idle) calls after)
      (sent : Transacts (frameScript bus.stagedFrame) calls result) : Served bus result after
  | read {result : Except Failure Unit} {after : Bus σ} (phase : bus.phase = .idle)
      (read : FrameRead bus result after) : Served bus result after

/-- A sample of the line that succeeded. -/
def Samples (entry : Entry) : Prop := entry.call = .sampleLine ∧ entry.fails = false

/-- What a look at the line can come to. -/
inductive Looked (bus : Bus σ) : Except Failure Bool → Bus σ → Prop where
  | unread {sample : Entry} {after : Bus σ} (step : Steady bus [sample] after)
      (call : sample.call = .sampleLine) (fails : sample.fails = true) :
      Looked bus (.error (.hardware .sampleLine)) after
  | read {sample : Entry} {after : Bus σ} (step : Steady bus [sample] after)
      (samples : Samples sample) : Looked bus (.ok sample.reply.low) after

/-- What one poll can come to. -/
inductive Pumped (bus : Bus σ) : Except Failure Bool → Bus σ → Prop where
  | off (disabled : bus.interruptEnabled = false) : Pumped bus (.ok false) bus
  | unread {sample : Entry} {after : Bus σ} (enabled : bus.interruptEnabled = true)
      (step : Steady bus.edgeTaken [sample] after) (call : sample.call = .sampleLine)
      (fails : sample.fails = true) : Pumped bus (.error (.hardware .sampleLine)) after
  | unasked {sample : Entry} {after : Bus σ} (enabled : bus.interruptEnabled = true)
      (step : Steady bus.edgeTaken [sample] after) (samples : Samples sample)
      (asleep : bus.phase.wakes bus.latch.pending sample.reply.low = false) :
      Pumped bus (.ok false) after
  | served {sample : Entry} {asked after : Bus σ} {result : Except Failure Unit}
      (enabled : bus.interruptEnabled = true) (step : Steady bus.edgeTaken [sample] asked)
      (samples : Samples sample)
      (wakes : bus.phase.wakes bus.latch.pending sample.reply.low = true)
      (served : Served asked result after) : Pumped bus (result.map fun _ ↦ true) after

/-! No call sees the flag that marks a running dispatch. -/

theorem FrameRead.serving {result : Except Failure Unit} {after : Bus σ}
    (h : FrameRead bus result after) (dispatching : Bool) :
    FrameRead (bus.serving dispatching) result (after.serving dispatching) := by
  have landed {frame : List UInt8} {calls : List Entry} {filled : Bus σ}
      (step : Steady (bus.landed frame) calls filled) :
      Steady ((bus.serving dispatching).landed frame) calls (filled.serving dispatching) :=
    step.serving dispatching
  have closed {filled after : Bus σ} {calls : List Entry} (close : Steady filled.deaf calls after) :
      Steady (filled.serving dispatching).deaf calls (after.serving dispatching) :=
    close.serving dispatching
  cases h with
  | refused call fails step => exact .refused call fails (step.serving dispatching)
  | broken selects clocked call step => exact .broken selects clocked call (landed step)
  | oversize selects whole long drains call step =>
    exact .oversize selects whole long drains call (landed step)
  | unreleased selects clocked step call fails close =>
    have moved := FrameRead.unreleased selects clocked (landed step) call fails (closed close)
    exact moved
  | overrun selects clocked step call sound close trampled =>
    have moved := FrameRead.overrun selects clocked (landed step) call sound (closed close) trampled
    exact moved
  | delivered selects clocked step call sound close intact handed packet =>
    have moved := FrameRead.delivered selects clocked (landed step) call sound (closed close) intact
      (handed.serving dispatching) packet
    exact moved

theorem Served.serving {result : Except Failure Unit} {after : Bus σ}
    (h : Served bus result after) (dispatching : Bool) :
    Served (bus.serving dispatching) result (after.serving dispatching) := by
  cases h with
  | ready phase => exact .ready phase
  | sent phase step sent => exact .sent phase (step.serving dispatching) sent
  | read phase read => exact .read phase (read.serving dispatching)

theorem dispatch_ensures (fits : bus.staged ≤ bufferCapacity)
    (phase : bus.phase = .powerUp ∨ bus.phase = .writeRequested ∨ bus.phase = .idle) :
    Ensures dispatch bus (Served bus) := by
  simp only [dispatch, ensures_get_bind]
  rcases phase with phase | phase | phase
  · simp only [phase, ensures_enterPhase]
    exact .ready phase
  · simp only [phase]
    refine (finishWrite_ensures fits).mono ?_
    rintro result after ⟨calls, step, sent⟩
    exact .sent phase step sent
  · simp only [phase]
    exact (readFrame_ensures bus).mono fun _ _ read ↦ .read phase read

theorem lineIsLow_ensures (bus : Bus σ) : Ensures lineIsLow bus (Looked bus) := by
  apply (demand_ensures rfl bus).bind
  · rintro reply after ⟨sample, step, call, result⟩
    by_cases fails : sample.fails = true
    · rw [if_pos fails] at result
      cases result
    · rw [if_neg fails] at result
      cases result
      exact .read step ⟨call, Bool.eq_false_iff.mpr fails⟩
  · rintro failure after ⟨sample, step, call, result⟩
    by_cases fails : sample.fails = true
    · rw [if_pos fails] at result
      cases result
      exact .unread step call fails
    · rw [if_neg fails] at result
      cases result

omit [Board σ] in
theorem phase_of_wakes {phase : Phase} {edge low : Bool} (h : phase.wakes edge low = true) :
    phase = .powerUp ∨ phase = .writeRequested ∨ phase = .idle := by
  cases phase <;> simp_all [Phase.wakes]

/-- The flag is up while the chip is served, and down again whatever comes of it. -/
theorem serve_ensures (rest : bus.dispatching = false) (fits : bus.staged ≤ bufferCapacity)
    (phase : bus.phase = .powerUp ∨ bus.phase = .writeRequested ∨ bus.phase = .idle) :
    Ensures (do
      modify ({ · with dispatching := true })
      let served ← observing dispatch
      modify ({ · with dispatching := false })
      match served with
      | .error failure => throw failure
      | .ok () => return true) bus fun result after ↦
        ∃ outcome, Served bus outcome after ∧ result = outcome.map fun _ ↦ true := by
  simp only [ensures_serving_bind]
  have served : Ensures dispatch (bus.serving true) (Served (bus.serving true)) :=
    dispatch_ensures fits phase
  refine served.observe fun outcome after served ↦ ?_
  have still : (bus.serving true).serving false = bus := by
    rw [← rest]
    rfl
  have served := served.serving false
  rw [still] at served
  cases outcome with
  | error failure => exact ⟨_, served, rfl⟩
  | ok _ => exact ⟨_, served, rfl⟩

theorem pump_ensures (rest : bus.dispatching = false) (fits : bus.staged ≤ bufferCapacity) :
    Ensures pump bus (Pumped bus) := by
  simp only [pump, ensures_get_bind, rest, Bool.false_or]
  by_cases enabled : bus.interruptEnabled = true
  case neg =>
    have disabled := Bool.eq_false_iff.mpr enabled
    simp only [disabled, Bool.not_false, ↓reduceIte]
    exact .off disabled
  simp only [enabled, Bool.not_true, Bool.false_eq_true, ↓reduceIte, ensures_takeEdge_bind]
  apply (lineIsLow_ensures bus.edgeTaken).bind
  · intro low asked looked
    cases looked with
    | @read sample _ step samples =>
      have phase : asked.phase = bus.phase := step.phase
      simp only [ensures_get_bind, phase]
      by_cases wakes : bus.phase.wakes bus.latch.pending sample.reply.low = true
      · rw [if_pos wakes]
        have still : asked.dispatching = false := step.dispatching.trans rest
        have stages : asked.staged ≤ bufferCapacity := by
          rw [step.staged]
          exact fits
        have awake := phase_of_wakes wakes
        rw [← phase] at awake
        refine (serve_ensures still stages awake).mono ?_
        rintro _ after ⟨outcome, served, rfl⟩
        exact .served enabled step samples wakes served
      · rw [if_neg wakes]
        exact .unasked enabled step samples (Bool.eq_false_iff.mpr wakes)
  · intro failure after looked
    cases looked with
    | unread step call fails => exact .unread enabled step call fails

/-! ### Waiting -/

/-- The calls of a wait that has not been served yet. -/
def Waits (calls : List Entry) : Prop :=
  ∀ entry ∈ calls, Samples entry ∨ ∃ duration, entry.call = .pauseMicros duration

/-- What made a poll serve the chip: an edge from before the wait or during it, or a
line that was low. -/
def Asked (edge : Bool) (calls : List Entry) : Prop :=
  edge = true ∨ (∃ entry ∈ calls, entry.armed = true ∧ entry.reply.edge = true) ∨
    ∃ entry ∈ calls, Samples entry ∧ entry.reply.low = true

/-- How a wait fails that was never served. -/
inductive GaveUp : List Entry → Failure → Prop where
  | timeout {calls : List Entry} (waits : Waits calls) : GaveUp calls .timeout
  | unread {calls : List Entry} {sample : Entry} (waits : Waits calls)
      (call : sample.call = .sampleLine) (fails : sample.fails = true) :
      GaveUp (calls ++ [sample]) (.hardware .sampleLine)

/-- How a blocking wait can end. -/
inductive Waited (bus : Bus σ) : Except Failure Unit → Bus σ → Prop where
  | gaveUp {calls : List Entry} {failure : Failure} {after : Bus σ} (step : Steady bus calls after)
      (waits : GaveUp calls failure) : Waited bus (.error failure) after
  | served {calls : List Entry} {result : Except Failure Unit} {asked after : Bus σ}
      (enabled : bus.interruptEnabled = true) (step : Steady bus calls asked) (waits : Waits calls)
      (evidence : Asked bus.latch.pending calls) (served : Served asked result after) :
      Waited bus result after

theorem waits_nil : Waits [] := fun _ mem ↦ absurd mem List.not_mem_nil

theorem Waits.append {calls later : List Entry} (h : Waits calls) (k : Waits later) :
    Waits (calls ++ later) := List.forall_mem_append.mpr ⟨h, k⟩

/-- What holds of a look at the line and of a pause holds of each call of a wait. -/
theorem Waits.all {calls : List Entry} {P : Call → Prop} (h : Waits calls) (sample : P .sampleLine)
    (pause : ∀ duration, P (.pauseMicros duration)) : ∀ entry ∈ calls, P entry.call := by
  intro entry mem
  rcases h entry mem with samples | ⟨duration, call⟩
  · rw [samples.1]
    exact sample
  · rw [call]
    exact pause duration

theorem GaveUp.all {calls : List Entry} {failure : Failure} {P : Call → Prop}
    (h : GaveUp calls failure) (sample : P .sampleLine)
    (pause : ∀ duration, P (.pauseMicros duration)) : ∀ entry ∈ calls, P entry.call := by
  cases h with
  | timeout waits => exact waits.all sample pause
  | unread waits call _ =>
    refine List.forall_mem_append.mpr ⟨waits.all sample pause, List.forall_mem_singleton.mpr ?_⟩
    rw [call]
    exact sample

theorem GaveUp.after {calls later : List Entry} {failure : Failure} (waits : Waits calls)
    (h : GaveUp later failure) : GaveUp (calls ++ later) failure := by
  cases h with
  | timeout more => exact .timeout (waits.append more)
  | unread more call fails =>
    rw [← List.append_assoc]
    exact .unread (waits.append more) call fails

theorem Asked.after {middle : Bus σ} {calls later : List Entry} (step : Steady bus calls middle)
    (h : Asked middle.latch.pending later) : Asked bus.latch.pending (calls ++ later) := by
  rcases h with pending | ⟨entry, mem, edge⟩ | ⟨entry, mem, low⟩
  · rcases step.pending pending with old | ⟨armed, entry, mem, edge⟩
    · exact Or.inl old
    · refine Or.inr (Or.inl ⟨entry, List.mem_append_left _ mem, ?_, edge⟩)
      exact (step.marks entry mem).1.trans armed
  · exact Or.inr (Or.inl ⟨entry, List.mem_append_right _ mem, edge⟩)
  · exact Or.inr (Or.inr ⟨entry, List.mem_append_right _ mem, low⟩)

/-- A wait can be put behind polls that served nothing. -/
theorem Waited.after {middle after : Bus σ} {calls : List Entry} {result : Except Failure Unit}
    (step : Steady bus calls middle) (waits : Waits calls) (h : Waited middle result after) :
    Waited bus result after := by
  cases h with
  | gaveUp later ends => exact .gaveUp (step.trans later) (.after waits ends)
  | served enabled later more evidence served =>
    exact .served (step.interruptEnabled.symm.trans enabled) (step.trans later) (waits.append more)
      (evidence.after step) served

/-- The phases from which the engine waits, with the one that it waits for. -/
def Awaits (phase target : Phase) : Prop :=
  phase = .powerUp ∧ target = .initialized ∨ phase = .writeRequested ∧ target = .idle

theorem Served.arrived {after : Bus σ} {target : Phase} (h : Served bus (.ok ()) after)
    (awaits : Awaits bus.phase target) : after.phase = target := by
  rcases awaits with ⟨phase, rfl⟩ | ⟨phase, rfl⟩
  · cases h with
    | ready _ => rfl
    | sent other _ _ => rw [phase] at other; cases other
    | read other _ => rw [phase] at other; cases other
  · cases h with
    | ready other => rw [phase] at other; cases other
    | sent _ step _ => exact step.phase
    | read other _ => rw [phase] at other; cases other

/-- Whatever wakes the engine is evidence that the chip asks. -/
theorem asked_of_wakes {phase : Phase} {edge : Bool} {sample : Entry} (samples : Samples sample)
    (wakes : phase.wakes edge sample.reply.low = true) : Asked edge [sample] := by
  have cause : edge = true ∨ sample.reply.low = true := by
    cases phase <;> simp_all [Phase.wakes]
  rcases cause with pending | low
  · exact Or.inl pending
  · exact Or.inr (Or.inr ⟨sample, List.mem_singleton_self _, samples, low⟩)

/-- What one poll of a wait comes to: it is over, or nothing has happened. -/
theorem Pumped.polled {outcome : Except Failure Bool} {after : Bus σ} {target : Phase}
    (h : Pumped bus outcome after) (awaits : Awaits bus.phase target) :
    Waited bus (outcome.map fun _ ↦ ()) after ∧ (outcome.isOk → after.phase = target) ∨
      outcome = .ok false ∧ ∃ calls, Steady bus calls after ∧ Waits calls := by
  have alone {sample : Entry} (samples : Samples sample) : Waits [sample] :=
    List.forall_mem_singleton.mpr (Or.inl samples)
  cases h with
  | off _ => exact Or.inr ⟨rfl, [], .refl bus, waits_nil⟩
  | unread _ step call fails =>
    have ends := GaveUp.unread waits_nil call fails
    exact Or.inl ⟨.gaveUp step.of_edgeTaken ends, fun ok ↦ absurd ok Bool.false_ne_true⟩
  | unasked _ step samples _ => exact Or.inr ⟨rfl, _, step.of_edgeTaken, alone samples⟩
  | @served sample asked _ result enabled step samples wakes served =>
    have evidence := asked_of_wakes samples wakes
    have waited := Waited.served enabled step.of_edgeTaken (alone samples) evidence served
    have phase : asked.phase = bus.phase := step.phase
    cases result with
    | error failure => exact Or.inl ⟨waited, fun ok ↦ absurd ok Bool.false_ne_true⟩
    | ok _ => exact Or.inl ⟨waited, fun _ ↦ served.arrived (by rwa [phase])⟩

theorem waitLoop_ensures {phase target : Phase} {step timeout waited : UInt32}
    (awaits : Awaits phase target) (hphase : bus.phase = phase) (rest : bus.dispatching = false)
    (fits : bus.staged ≤ bufferCapacity) :
    Ensures (waitLoop target step timeout waited) bus (Waited bus) := by
  have away : phase ≠ target := by
    rcases awaits with ⟨rfl, rfl⟩ | ⟨rfl, rfl⟩ <;> decide
  induction waited using waitLoop.induct step timeout generalizing bus with
  | case1 waited ih =>
    have polled : Ensures (discard pump) bus fun result after ↦
        ∃ outcome, Pumped bus outcome after ∧ result = outcome.map fun _ ↦ () :=
      ensures_discard.mpr
        ((pump_ensures rest fits).mono fun outcome _ pumped ↦ ⟨outcome, pumped, rfl⟩)
    -- What follows a poll that found nothing to serve.
    have more {calls : List Entry} {middle : Bus σ} (quiet : Steady bus calls middle)
        (waits : Waits calls) : Ensures (do
          if _ : waited < timeout then
            discard (call (.pauseMicros (max step 1)))
            waitLoop target step timeout (saturatingAdd waited (max step 1))
          else
            throw .timeout) middle (Waited bus) := by
      by_cases budget : waited < timeout
      · rw [dif_pos budget]
        have pause := Steady.call middle (.pauseMicros (max step 1))
        have paused : Waits [middle.entryOf (.pauseMicros (max step 1))] :=
          List.forall_mem_singleton.mpr (Or.inr ⟨_, rfl⟩)
        have all := quiet.trans pause
        simp only [ensures_discard_call_bind]
        refine (ih budget (all.phase.trans hphase) (all.dispatching.trans rest) ?_).mono ?_
        · rw [all.staged]
          exact fits
        · exact fun _ _ waited ↦ waited.after all (waits.append paused)
      · rw [dif_neg budget]
        exact .gaveUp quiet (.timeout waits)
    have awaits' : Awaits bus.phase target := hphase.symm ▸ awaits
    rw [waitLoop]
    simp only [ensures_get_bind, hphase, away, ↓reduceIte]
    apply polled.bind
    · rintro _ middle ⟨outcome, pumped, result⟩
      simp only [ensures_get_bind]
      rcases pumped.polled awaits' with ⟨waited, arrived⟩ | ⟨-, calls, quiet, waits⟩
      · cases outcome with
        | error failure => cases result
        | ok value =>
          rw [if_pos (arrived rfl)]
          exact waited
      · have still : middle.phase ≠ target := by
          rw [quiet.phase, hphase]
          exact away
        rw [if_neg still]
        exact more quiet waits
    · rintro failure after ⟨outcome, pumped, result⟩
      rcases pumped.polled awaits' with ⟨waited, -⟩ | ⟨rfl, -⟩
      · rw [result]
        exact waited
      · cases result

end SpiWifi.Bus
