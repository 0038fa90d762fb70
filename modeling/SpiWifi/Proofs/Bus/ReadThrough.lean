import SpiWifi.Proofs.Bus.Overrun

/-!
Which overruns are noticed. A read looks at the guard behind the receive buffer once, after
it has released the chip at the end of a whole frame. So an overrun during a poll stops the
engine exactly when the poll has read its frame to the end; a frame that is too long, or
whose bytes or whose release fail, leaves the guard run over and the engine running.
-/

set_option autoImplicit false
set_option relaxedAutoImplicit false

namespace SpiWifi.Bus

open Wire

/-- The calls of a frame that was read to its end: all of it came in while the chip was
selected, and the chip was released. -/
inductive ReadsThrough : List Entry → Prop where
  | intro {select release : Entry} {fetched : List Entry} (selects : Selects select)
      (clocked : Clocked fetched (.ok ())) (call : release.call = .release)
      (sound : release.fails = false) : ReadsThrough (select :: fetched ++ [release])

theorem Clocked.sound {calls : List Entry} (h : Clocked calls (.ok ())) :
    ∀ entry ∈ calls, entry.fails = false := by
  cases h with
  | body whole _ rest => exact List.forall_mem_append.mpr ⟨whole.of_ok.2, rest.of_ok.2⟩

namespace ReadsThrough

/-- A frame is read to its end by the calls between a first and a last that were all made
as they should. -/
theorem inside {select release : Entry} {fetched : List Entry}
    (h : ReadsThrough (select :: fetched ++ [release])) :
    Clocked fetched (.ok ()) ∧ release.call = .release ∧ release.fails = false := by
  generalize hcalls : select :: fetched ++ [release] = calls at h
  cases h with
  | intro selects clocked call sound =>
    obtain ⟨same, last⟩ := List.append_inj' hcalls rfl
    obtain ⟨-, rfl⟩ := List.cons_eq_cons.mp same
    obtain rfl := List.singleton_inj.mp last
    exact ⟨clocked, call, sound⟩

theorem not_nil : ¬ ReadsThrough [] := by
  generalize hcalls : ([] : List Entry) = calls
  rintro ⟨⟩
  cases hcalls

theorem not_singleton {entry : Entry} : ¬ ReadsThrough [entry] := by
  generalize hcalls : [entry] = calls
  rintro ⟨⟩
  obtain ⟨-, impossible⟩ := List.cons_eq_cons.mp hcalls
  exact List.append_ne_nil_of_right_ne_nil _ (List.cons_ne_nil _ _) impossible.symm

/-- The last call of such a frame releases the chip, so no packet has been handed over yet. -/
theorem last_call {calls : List Entry} {last : Entry} (h : ReadsThrough (calls ++ [last])) :
    last.call = .release := by
  generalize hcalls : calls ++ [last] = all at h
  cases h with
  | intro selects clocked call sound =>
    obtain ⟨-, same⟩ := List.append_inj' hcalls rfl
    exact List.singleton_inj.mp same ▸ call

/-- A frame that the buffer cannot hold is not read to its end. -/
theorem not_oversize {select release : Entry} {lead drained : List Entry}
    (whole : Follows (exchangeScript leadSize) lead (.ok ()))
    (long : bufferCapacity < leadSize + remainingLength (received lead)) :
    ¬ ReadsThrough (select :: (lead ++ drained) ++ [release]) := by
  intro through
  obtain ⟨total, fits⟩ := through.inside.1.length_received
  rw [received_append, List.take_left' (length_received_exchange whole)] at total
  rw [received_append, total] at fits
  exact Nat.not_le.mpr long fits

end ReadsThrough

variable {σ : Type} [Board σ] {bus after : Bus σ}

/-- The one place where the receive guard is looked at. -/
theorem FrameRead.overrun_iff {result : Except Failure Unit} (h : FrameRead bus result after)
    {calls : List Entry} (made : Made bus calls after) :
    result = .error .overrun ↔ ReadsThrough calls ∧ after.receive.intact = false := by
  have missed {result : Except Failure Unit} (other : result ≠ .error .overrun)
      (ends : ¬ ReadsThrough calls) :
      result = .error .overrun ↔ ReadsThrough calls ∧ after.receive.intact = false :=
    iff_of_false other fun through ↦ ends through.1
  cases h with
  | refused call fails step =>
    obtain rfl := calls_unique made step.history
    exact missed (by rintro ⟨⟩) ReadsThrough.not_singleton
  | broken selects clocked call step =>
    obtain rfl := calls_unique made step.history
    refine missed clocked.ne_overrun fun through ↦ ?_
    obtain ⟨entry, mem, fails⟩ := clocked.of_error
    rw [through.inside.1.sound entry mem] at fails
    cases fails
  | oversize selects whole long drains call step =>
    obtain rfl := calls_unique made step.history
    exact missed (Transacts.intro drains call).tooLong_ne_overrun
      (ReadsThrough.not_oversize whole long)
  | unreleased selects clocked step call fails close =>
    obtain rfl := calls_unique made (step.converses.trans close.converses).history
    refine missed (by rintro ⟨⟩) fun through ↦ ?_
    rw [through.inside.2.2] at fails
    cases fails
  | overrun selects clocked step call sound close trampled =>
    obtain rfl := calls_unique made (step.converses.trans close.converses).history
    exact iff_of_true rfl ⟨.intro selects clocked call sound, trampled⟩
  | @delivered _ _ _ _ _ closed after selects clocked step call sound close intact handed packet =>
    obtain rfl := calls_unique made
      ((step.converses.trans close.converses).trans handed.converses).history
    refine iff_of_false (by rintro ⟨⟩) ?_
    rintro ⟨through, trampled⟩
    split at packet
    · obtain ⟨delivery, rfl, deliver⟩ := List.map_eq_singleton_iff.mp packet
      have release := through.last_call
      rw [deliver] at release
      cases release
    · have kept := handed.receiveGuard
      rw [List.map_eq_nil_iff.mp packet] at kept
      have still : after.receive.intact = closed.receive.intact :=
        congrArg (· == GuardedBuffer.guardMark) kept
      cases intact.symm.trans (still.symm.trans trampled)

/-- A poll reports an overrun exactly if it has read a frame to its end and found the guard
run over there. -/
theorem Pumped.overrun_iff {result : Except Failure Bool} (h : Pumped bus result after)
    (unasked : bus.phase ≠ .writeRequested) {calls : List Entry} (made : Made bus calls after) :
    result = .error .overrun ↔
      ∃ sample frame, calls = sample :: frame ∧ ReadsThrough frame ∧
        after.receive.intact = false := by
  have lone {entry : Entry} (alone : calls = [entry]) :
      ¬ ∃ sample frame, calls = sample :: frame ∧ ReadsThrough frame ∧
        after.receive.intact = false := by
    subst alone
    rintro ⟨sample, frame, same, through, -⟩
    obtain ⟨-, rfl⟩ := List.cons_eq_cons.mp same
    exact ReadsThrough.not_nil through
  cases h with
  | off disabled =>
    obtain rfl := calls_unique made (Converses.refl bus.world).history
    refine iff_of_false (by rintro ⟨⟩) ?_
    rintro ⟨_, _, impossible, -⟩
    cases impossible
  | unread enabled step call fails =>
    exact iff_of_false (by rintro ⟨⟩) (lone (calls_unique made step.history))
  | unasked enabled step samples asleep =>
    exact iff_of_false (by rintro ⟨⟩) (lone (calls_unique made step.history))
  | @served sample asked _ outcome enabled step samples wakes served =>
    have phase : asked.phase = bus.phase := step.phase
    cases served with
    | ready _ =>
      exact iff_of_false (by rintro ⟨⟩) (lone (calls_unique made step.history))
    | sent requested _ _ => exact absurd (phase.symm.trans requested) unasked
    | read _ read =>
      obtain ⟨frame, converses, -⟩ := read.converses
      obtain rfl := calls_unique made (step.converses.trans converses).history
      have noticed := read.overrun_iff converses.history
      constructor
      · intro overrun
        have found : outcome = .error .overrun := by
          cases outcome with
          | error failure =>
            cases overrun
            rfl
          | ok _ => cases overrun
        exact ⟨sample, frame, rfl, noticed.mp found⟩
      · rintro ⟨other, rest, same, through⟩
        obtain ⟨-, rfl⟩ := List.cons_eq_cons.mp same
        rw [noticed.mpr through]
        rfl

/-- A poll notices an overrun of the receive buffer exactly if it reads a frame to its end.
In every state that can be reached, the guard after a poll is what the answers to the calls
of the poll have made of it, and the poll reports an overrun if and only if these calls are a
look at the line and a whole frame, with the guard run over when they are through. That is
the only way in which a poll stops the engine. -/
theorem run_pump_noticesOverrun (config : Config) (board : σ) (actions : List (Action σ)) :
    let bus := run (create config board) actions
    let after := (pump bus).2
    ∃ calls, Made bus calls after ∧
      after.receive.guardByte = calls.foldl Entry.receiveGuard bus.receive.guardByte ∧
      ((pump bus).1 = .error .overrun ↔
        ∃ sample frame, calls = sample :: frame ∧ ReadsThrough frame ∧
          after.receive.intact = false) ∧
      (after.poisoned = true ↔ bus.poisoned = true ∨ (pump bus).1 = .error .overrun) := by
  intro bus after
  have resting : bus.Resting := run_resting config board actions
  have pumped : Pumped bus (pump bus).1 after := pump_ensures resting.dispatching resting.staged
  have unasked : bus.phase ≠ .writeRequested := by
    rcases resting.phase with phase | phase | phase <;> rw [phase] <;> rintro ⟨⟩
  obtain ⟨calls, converses, -⟩ := pumped.converses
  have stops := pumped.stopsOnOverrun
  refine ⟨calls, converses.history, converses.receiveGuard,
    pumped.overrun_iff unasked converses.history, fun poisoned ↦ ?_, ?_⟩
  · by_cases overrun : (pump bus).1 = .error .overrun
    · exact Or.inr overrun
    · exact Or.inl ((stops.keeps overrun).symm.trans poisoned)
  · rintro (poisoned | overrun)
    · by_cases overrun : (pump bus).1 = .error .overrun
      · exact (stops.stops overrun).poisoned
      · exact (stops.keeps overrun).trans poisoned
    · exact (stops.stops overrun).poisoned

/-- An engine whose next frame is too long for the buffer and runs over it. -/
def facingLongFrame : Bus Bench.Board :=
  run (create {} {}) [.attach, .edge, .pump, .send [1],
    .drift { lineLow := true, overrunNext := true
             queued := [3, 0, 0, 0, 0, 2, 0, 0, 200, 0] ++ List.replicate 201 9 }]

/-- The poll that throws such a frame away leaves the engine running with its guard run
over. -/
theorem pump_facingLongFrame :
    facingLongFrame.poisoned = false ∧ facingLongFrame.receive.intact = true ∧
      (pump facingLongFrame).2.receive.intact = false ∧
      (pump facingLongFrame).2.poisoned = false := by
  decide +kernel

end SpiWifi.Bus
