import SpiWifi.Proofs.Bus.Script

/-!
Reading one frame. `FrameRead` lists the ways in which a read can end: the chip was
not selected, the bytes did not come in, the frame was too long and thrown away,
chip-select was not released, the guard was run over, or the packet was handed over.
`readFrame_ensures` says that there is no other.
-/

set_option autoImplicit false
set_option relaxedAutoImplicit false

namespace SpiWifi.Bus

open Wire

/-- The calls that clock in what follows the first bytes of a frame. -/
def bodyScript (remaining : Nat) : List Call :=
  if 0 < remaining then exchangeScript remaining else []

/-- The calls that clock in a frame which the buffer can hold: its first bytes, and
as many more as these announce. -/
inductive Clocked : List Entry → Except Failure Unit → Prop where
  | lead {calls : List Entry} {failure : Failure}
      (broken : Follows (exchangeScript leadSize) calls (.error failure)) :
      Clocked calls (.error failure)
  | body {lead body : List Entry} {result : Except Failure Unit}
      (whole : Follows (exchangeScript leadSize) lead (.ok ()))
      (fits : leadSize + remainingLength (received lead) ≤ bufferCapacity)
      (rest : Follows (bodyScript (remainingLength (received lead))) body result) :
      Clocked (lead ++ body) result

/-- The chip was selected. -/
def Selects (entry : Entry) : Prop := entry.call = .select ∧ entry.fails = false

variable {σ : Type}

/-- The engine at rest with a frame in its receive buffer. -/
def landed (bus : Bus σ) (frame : List UInt8) : Bus σ := (bus.storing 0 frame).inPhase .idle

variable [Board σ] {bus : Bus σ}

/-- How reading a frame can end. -/
inductive FrameRead (bus : Bus σ) : Except Failure Unit → Bus σ → Prop where
  | refused {select : Entry} {after : Bus σ} (call : select.call = .select)
      (fails : select.fails = true) (step : Steady (bus.inPhase .idle) [select] after) :
      FrameRead bus (.error (.hardware .select)) after
  | broken {select release : Entry} {calls : List Entry} {failure : Failure} {after : Bus σ}
      (selects : Selects select) (clocked : Clocked calls (.error failure))
      (call : release.call = .release)
      (step : Steady (bus.landed (received calls)) (select :: calls ++ [release]) after) :
      FrameRead bus (.error failure) after
  | oversize {select release : Entry} {lead drained : List Entry} {body : Except Failure Unit}
      {after : Bus σ} (selects : Selects select)
      (whole : Follows (exchangeScript leadSize) lead (.ok ()))
      (long : bufferCapacity < leadSize + remainingLength (received lead))
      (drains : Follows (drainScript (remainingLength (received lead))) drained body)
      (call : release.call = .release)
      (step : Steady (bus.landed (received lead)) (select :: (lead ++ drained) ++ [release])
        after) :
      FrameRead bus ((closing body release).bind fun _ ↦ .error .tooLong) after
  | unreleased {select release : Entry} {calls : List Entry} {filled after : Bus σ}
      (selects : Selects select) (clocked : Clocked calls (.ok ()))
      (step : Steady (bus.landed (received calls)) (select :: calls) filled)
      (call : release.call = .release) (fails : release.fails = true)
      (close : Steady filled.deaf [release] after) :
      FrameRead bus (.error (.hardware .release)) after.listening
  | overrun {select release : Entry} {calls : List Entry} {filled after : Bus σ}
      (selects : Selects select) (clocked : Clocked calls (.ok ()))
      (step : Steady (bus.landed (received calls)) (select :: calls) filled)
      (call : release.call = .release) (sound : release.fails = false)
      (close : Steady filled.deaf [release] after) (trampled : after.receive.intact = false) :
      FrameRead bus (.error .overrun) after.halted
  | delivered {select release : Entry} {calls delivery : List Entry} {filled closed after : Bus σ}
      (selects : Selects select) (clocked : Clocked calls (.ok ()))
      (step : Steady (bus.landed (received calls)) (select :: calls) filled)
      (call : release.call = .release) (sound : release.fails = false)
      (close : Steady filled.deaf [release] closed) (intact : closed.receive.intact = true)
      (handed : Steady closed delivery after)
      (packet : delivery.map Entry.call =
        if bus.attached then [.deliver ((received calls).drop headerSize)] else []) :
      FrameRead bus (.ok ()) after.listening

omit [Board σ] in
theorem take_storing {frame : List UInt8} (fits : frame.length ≤ bufferCapacity) :
    (bus.storing 0 frame).receive.bytes.take frame.length = frame := by
  have room : 0 + frame.length ≤ bus.receive.bytes.length := by
    rw [bus.receive.length_bytes, Nat.zero_add]
    exact fits
  exact take_drop_overlay room

omit [Board σ] in
theorem storing_storing {first second : List UInt8} {start : Nat} (hstart : start = first.length)
    (fits : first.length + second.length ≤ bufferCapacity) :
    (bus.storing 0 first).storing start second = bus.storing 0 (first ++ second) := by
  have room : 0 + first.length + second.length ≤ bufferCapacity := by rwa [Nat.zero_add]
  have put := bus.receive.put_put_behind room
  rw [Nat.zero_add] at put
  simp only [storing, hstart, put]

omit [Board σ] in
theorem storing_nil (start : Nat) : bus.storing start [] = bus := by
  simp only [storing, GuardedBuffer.put, overlay_nil]

theorem length_received_body {remaining : Nat} {calls : List Entry} {result : Except Failure Unit}
    (h : Follows (bodyScript remaining) calls result) : (received calls).length = remaining := by
  unfold bodyScript at h
  split at h
  · exact length_received_exchange h
  · cases h
    simp only [received, List.flatMap_nil, List.length_nil]
    omega

/-- A frame that was clocked in whole is as long as its first bytes announce, and fits. -/
theorem Clocked.length_received {calls : List Entry} (h : Clocked calls (.ok ())) :
    (received calls).length =
        leadSize + remainingLength ((received calls).take leadSize) ∧
      (received calls).length ≤ bufferCapacity := by
  cases h with
  | @body lead body _ whole fits rest =>
    have hlead := length_received_exchange whole
    rw [received_append, List.take_left' hlead, List.length_append, hlead,
      length_received_body rest]
    exact ⟨rfl, fits⟩

theorem body_ensures {remaining : Nat} (fits : leadSize + remaining ≤ bufferCapacity) :
    Ensures (if 0 < remaining then clockIn leadSize (leadSize + remaining) else pure ()) bus
      fun result after ↦ ∃ calls, Steady (bus.storing leadSize (received calls)) calls after ∧
        Follows (bodyScript remaining) calls result := by
  unfold bodyScript
  by_cases more : 0 < remaining
  · simp only [more, ↓reduceIte]
    refine (clockIn_ensures (Nat.le_add_right _ _) fits).mono ?_
    rintro result after ⟨calls, step, follows⟩
    rw [Nat.add_sub_cancel_left] at follows
    exact ⟨calls, step, follows⟩
  · simp only [more, ↓reduceIte, ensures_pure]
    exact ⟨[], (storing_nil leadSize).symm ▸ .refl bus, .done⟩

theorem handOver_ensures {total : Nat} {packet : List UInt8}
    (window : bus.receive.window? headerSize total = some packet) :
    Ensures (handOver total) bus fun result after ↦ result = .ok () ∧
      ∃ delivery, Steady bus delivery after ∧
        delivery.map Entry.call = if bus.attached then [.deliver packet] else [] := by
  simp only [handOver, ensures_get_bind, window]
  by_cases attached : bus.attached = true
  · simp only [attached, ↓reduceIte]
    refine ensures_discard.mpr ⟨rfl, _, .call bus (.deliver packet), rfl⟩
  · simp only [attached, Bool.false_eq_true, ↓reduceIte, ensures_pure, true_and]
    exact ⟨[], .refl bus, rfl⟩

omit [Board σ] in
/-- The receiver gets the frame that was clocked in, from behind its header. -/
theorem Clocked.window {calls : List Entry} (clocked : Clocked calls (.ok ())) {filled : Bus σ}
    (content : filled.receive.bytes = (bus.storing 0 (received calls)).receive.bytes) :
    filled.receive.window? headerSize (received calls).length =
      some ((received calls).drop headerSize) := by
  obtain ⟨length, fits⟩ := clocked.length_received
  have order : headerSize ≤ (received calls).length := by
    rw [length]
    simp only [headerSize, leadSize]
    omega
  rw [GuardedBuffer.window?_eq_some_iff, content, ← List.drop_take, take_storing fits]
  exact ⟨⟨order, fits⟩, rfl⟩

/-- Ends the read of a frame that was clocked in. -/
theorem completeRead_ensures {select : Entry} {calls : List Entry} {filled : Bus σ}
    (selects : Selects select) (clocked : Clocked calls (.ok ()))
    (step : Steady (bus.landed (received calls)) (select :: calls) (filled.inPhase .idle)) :
    Ensures (completeRead (received calls).length) filled (FrameRead bus) := by
  simp only [completeRead, ensures_enterPhase_bind, ensures_disableInterrupt_bind,
    ensures_call_bind]
  have close := (Steady.call (filled.inPhase .readClosing).deaf .release).inPhase .idle
  have fails : ((filled.inPhase .readClosing).deaf.entryOf .release).fails = _ :=
    fails_entryOf rfl _
  split
  · rename_i failed
    simp only [ensures_enterPhase_bind, ensures_enableInterrupt_bind, ensures_throw_bind]
    exact .unreleased selects clocked step rfl (fails.trans failed) close
  · rename_i released
    have sound := fails.trans (Bool.eq_false_iff.mpr released)
    simp only [ensures_get_bind]
    split
    · rename_i intact
      simp only [ensures_enterPhase_bind]
      have content := close.receive.trans step.receive
      apply (handOver_ensures (clocked.window content)).bind_ok
      rintro after ⟨delivery, handed, packet⟩
      refine ensures_enableInterrupt.mpr ?_
      have attached := close.attached.trans step.attached
      rw [attached] at packet
      exact .delivered selects clocked step rfl sound close intact handed packet
    · rename_i trampled
      simp only [ensures_halt_bind]
      have overrun := FrameRead.overrun selects clocked step rfl sound close
        (Bool.eq_false_iff.mpr trampled)
      exact overrun

omit [Board σ] in
/-- What follows the first bytes of a frame is stored behind them. -/
theorem landed_append {lead body : List Entry}
    (hlead : (received lead).length = leadSize)
    (fits : leadSize + (received body).length ≤ bufferCapacity) :
    (bus.landed (received lead)).storing leadSize (received body) =
      bus.landed (received (lead ++ body)) := by
  rw [received_append, landed, landed, ← storing_storing hlead.symm (by rwa [hlead])]
  rfl

/-- Reads on from the first bytes of a frame. -/
theorem readBody_ensures {select : Entry} {lead : List Entry} {filled : Bus σ}
    (selects : Selects select) (whole : Follows (exchangeScript leadSize) lead (.ok ()))
    (step : Steady (bus.landed (received lead)) (select :: lead) (filled.inPhase .idle)) :
    Ensures readBody filled (FrameRead bus) := by
  have hlead := length_received_exchange whole
  have announced : (filled.inPhase .readFirstPortion).receive.bytes.take leadSize =
      received lead := by
    have content : (filled.inPhase .readFirstPortion).receive.bytes =
        (bus.storing 0 (received lead)).receive.bytes := step.receive
    have fits : (received lead).length ≤ bufferCapacity := by
      rw [hlead]
      decide
    rw [content, ← hlead, take_storing fits]
  simp only [readBody, ensures_enterPhase_bind, ensures_get_bind, announced]
  by_cases long : bufferCapacity < leadSize + remainingLength (received lead)
  · rw [if_pos long]
    refine (drain_performs _ _).observe ?_
    rintro body drainedBus ⟨drained, drainStep, drains⟩
    apply (conclude_ensures body drainedBus).bind
    all_goals
      rintro outcome after ⟨release, close, call, result⟩
      have all := (step.trans (drainStep.inPhase .idle)).trans close
      have read := FrameRead.oversize selects whole long drains call all
      rw [← result] at read
      exact read
  · rw [if_neg long]
    have fits := Nat.not_lt.mp long
    refine (body_ensures fits).observe ?_
    rintro result filledBus ⟨body, bodyStep, rest⟩
    have clocked := Clocked.body whole fits rest
    have stored := step.storing leadSize (received body)
    rw [landed_append hlead (by rwa [length_received_body rest])] at stored
    have all := stored.trans (bodyStep.inPhase .idle)
    cases result with
    | error failure =>
      refine (conclude_ensures (.error failure) filledBus).mono ?_
      rintro _ after ⟨release, close, call, rfl⟩
      exact .broken selects clocked call (all.trans close)
    | ok _ =>
      have total :
          leadSize + remainingLength (received lead) = (received (lead ++ body)).length := by
        rw [received_append, List.length_append, hlead, length_received_body rest]
      have complete := completeRead_ensures selects clocked all
      rwa [← total] at complete

theorem readFrame_ensures (bus : Bus σ) : Ensures readFrame bus (FrameRead bus) := by
  simp only [readFrame, ensures_enterPhase_bind, ensures_call_bind]
  have step := (Steady.call (bus.inPhase .readRequested) .select).inPhase .idle
  have fails : ((bus.inPhase .readRequested).entryOf .select).fails = _ := fails_entryOf rfl _
  split
  · rename_i failed
    simp only [ensures_enterPhase_bind, ensures_throw_bind]
    exact .refused rfl (fails.trans failed) step
  · rename_i selected
    have selects : Selects ((bus.inPhase .readRequested).entryOf .select) :=
      ⟨rfl, fails.trans (Bool.eq_false_iff.mpr selected)⟩
    refine (clockIn_ensures (Nat.zero_le _) (by decide)).observe ?_
    rintro result filled ⟨lead, leadStep, follows⟩
    have all := (step.storing 0 (received lead)).trans (leadStep.inPhase .idle)
    cases result with
    | error failure =>
      refine (conclude_ensures (.error failure) filled).mono ?_
      rintro _ after ⟨release, close, call, rfl⟩
      exact .broken selects (.lead follows) call (all.trans close)
    | ok _ => exact readBody_ensures selects follows all

end SpiWifi.Bus
