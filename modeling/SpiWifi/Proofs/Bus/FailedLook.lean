import SpiWifi.Proofs.Bus.Interrupt

/-!
What a look at the line costs that fails. A poll takes the edge from the latch before it looks
at the line, and fails with the look. So the edge by which the chip has said that it is ready
is gone after a failed look, and the polls that follow go by the level of the line and by the
edges that came later.
-/

set_option autoImplicit false
set_option relaxedAutoImplicit false

namespace SpiWifi.Bus

variable {σ : Type} [Board σ] {bus after : Bus σ}

/-- The look at the line that the next poll takes. -/
def nextLook (bus : Bus σ) : Entry := bus.entryOf .sampleLine

/-- The engine after some polls in a row. -/
def polled (bus : Bus σ) (polls : Nat) : Bus σ := run bus (List.replicate polls .pump)

theorem polled_succ (bus : Bus σ) (polls : Nat) :
    bus.polled (polls + 1) = (pump (bus.polled polls)).2 := by
  rw [polled, List.replicate_succ', run, List.foldl_append]
  show ((some <$> pump) (bus.polled polls)).2 = _
  rw [map_apply]

/-- The engine waits for the chip to be ready, with its interrupt on. -/
structure Expects (bus : Bus σ) : Prop where
  phase : bus.phase = .powerUp
  enabled : bus.interruptEnabled = true
  armed : bus.latch.armed = true
  resting : bus.Resting

/-- What a poll of an engine that waits for the chip can come to. The edge is gone in any case. -/
inductive Heard (bus : Bus σ) : Except Failure Bool → Bus σ → Prop where
  | unread (fails : bus.nextLook.fails = true) :
      Heard bus (.error (.hardware .sampleLine)) (bus.edgeTaken.called .sampleLine)
  | ready (sound : bus.nextLook.fails = false)
      (shown : (bus.latch.pending || bus.nextLook.reply.low) = true) :
      Heard bus (.ok true) ((bus.edgeTaken.called .sampleLine).inPhase .initialized)
  | unready (sound : bus.nextLook.fails = false)
      (hidden : (bus.latch.pending || bus.nextLook.reply.low) = false) :
      Heard bus (.ok false) (bus.edgeTaken.called .sampleLine)

theorem pump_heard (expects : bus.Expects) : Ensures pump bus (Heard bus) := by
  have step := Steady.call bus.edgeTaken .sampleLine
  have phase : (bus.edgeTaken.called .sampleLine).phase = .powerUp := expects.phase
  have fails : bus.nextLook.fails = (bus.edgeTaken.entryOf .sampleLine).reply.failed :=
    fails_entryOf rfl bus.edgeTaken
  simp only [pump, ensures_get_bind, expects.resting.dispatching, expects.enabled, Bool.not_true,
    Bool.or_self, Bool.false_eq_true, ↓reduceIte, ensures_takeEdge_bind, lineIsLow, demand,
    bind_assoc, pure_bind, ensures_call_bind, ensures_check_bind, phase, Phase.wakes]
  split
  · next failed => exact .unread (fails.trans failed)
  next succeeded =>
  have sound : bus.nextLook.fails = false := fails.trans (Bool.eq_false_iff.mpr succeeded)
  split
  · next shown =>
    have rests := step.resting expects.resting.edgeTaken
    refine (serve_ensures rests.dispatching rests.staged (Or.inl phase)).mono ?_
    rintro _ _ ⟨_, served, rfl⟩
    cases served with
    | ready _ => exact .ready sound shown
    | sent other _ _ => rw [phase] at other; cases other
    | read other _ => rw [phase] at other; cases other
  · next hidden => exact .unready sound (Bool.eq_false_iff.mpr hidden)

/-- A look that fails leaves the engine waiting, with no edge but one that came during it. -/
theorem Expects.failedLook (expects : bus.Expects) (fails : bus.nextLook.fails = true) :
    (pump bus).1 = .error (.hardware .sampleLine) ∧ (pump bus).2.Expects ∧
      (pump bus).2.latch.pending = bus.nextLook.reply.edge := by
  have heard : Heard bus (pump bus).1 (pump bus).2 := pump_heard expects
  generalize (pump bus).1 = result at heard
  generalize (pump bus).2 = after at heard
  cases heard with
  | unread _ =>
    have step := Steady.call bus.edgeTaken .sampleLine
    refine ⟨rfl, ⟨expects.phase, expects.enabled, step.armed.trans expects.armed,
      step.resting expects.resting.edgeTaken⟩, ?_⟩
    show (if bus.nextLook.reply.edge then bus.edgeTaken.latch.signal
      else bus.edgeTaken.latch).pending = _
    split
    · next edge =>
      rw [edge]
      exact expects.armed
    · next none => exact (Bool.eq_false_iff.mpr none).symm
  | ready sound _ => rw [fails] at sound; cases sound
  | unready sound _ => rw [fails] at sound; cases sound

/-- A look that succeeds finds the chip ready by an edge or by a low line. -/
theorem Expects.soundLook (expects : bus.Expects) (sound : bus.nextLook.fails = false) :
    (pump bus).1 = .ok (bus.latch.pending || bus.nextLook.reply.low) ∧
      (pump bus).2.phase =
        if bus.latch.pending || bus.nextLook.reply.low then .initialized else .powerUp := by
  have heard : Heard bus (pump bus).1 (pump bus).2 := pump_heard expects
  generalize (pump bus).1 = result at heard
  generalize (pump bus).2 = after at heard
  cases heard with
  | unread fails => rw [fails] at sound; cases sound
  | ready _ shown => rw [shown]; exact ⟨rfl, rfl⟩
  | unready _ hidden => rw [hidden]; exact ⟨rfl, expects.phase⟩

/-- Polls whose looks all fail leave the engine waiting. -/
theorem Expects.polled {polls : Nat} (expects : bus.Expects)
    (fails : ∀ done < polls, (bus.polled done).nextLook.fails = true) :
    (bus.polled polls).Expects := by
  induction polls with
  | zero => exact expects
  | succ polls ih =>
    have before := ih fun done less ↦ fails done (Nat.lt_succ_of_lt less)
    rw [polled_succ]
    exact (before.failedLook (fails polls (Nat.lt_succ_self polls))).2.1

/-- Failed looks at the line, and one that succeeds, on an engine that waits for the chip with an
edge in its latch. Each poll whose look fails reports that, and leaves the engine waiting with its
interrupt on. But its edge is spent: after the last of them the latch holds one only if it came
during that look. So the poll that succeeds finds the chip ready if no look has failed before, if
such an edge came, or if the line is low; else it finds nothing, and the engine waits on. -/
theorem run_pump_failedLooks (config : Config) (board : σ) (actions : List (Action σ))
    (reached : bus = run (create config board) actions) (waits : bus.phase = .powerUp)
    (enabled : bus.interruptEnabled = true) (pending : bus.latch.pending = true) (polls : Nat)
    (fails : ∀ done < polls, (bus.polled done).nextLook.fails = true)
    (sound : (bus.polled polls).nextLook.fails = false) :
    (∀ done < polls, (pump (bus.polled done)).1 = .error (.hardware .sampleLine) ∧
      (bus.polled (done + 1)).phase = .powerUp ∧
      (bus.polled (done + 1)).interruptEnabled = true ∧
      (bus.polled (done + 1)).latch.pending = (bus.polled done).nextLook.reply.edge) ∧
    ∃ shown : Bool,
      (shown = true ↔
        polls = 0 ∨ (∃ last, polls = last + 1 ∧ (bus.polled last).nextLook.reply.edge = true) ∨
          (bus.polled polls).nextLook.reply.low = true) ∧
        (pump (bus.polled polls)).1 = .ok shown ∧
        (pump (bus.polled polls)).2.phase = if shown then .initialized else .powerUp := by
  have resting : bus.Resting := reached ▸ run_resting config board actions
  have latched : bus.Latched := reached ▸
    run_latched (resting_create config board) (latched_create config board)
  have expects : bus.Expects := ⟨waits, enabled, latched.pending pending, resting⟩
  refine ⟨fun done less ↦ ?_, ?_⟩
  · have before : (bus.polled done).Expects :=
      expects.polled fun earlier before ↦ fails earlier (Nat.lt_trans before less)
    obtain ⟨failed, after, edge⟩ := before.failedLook (fails done less)
    rw [polled_succ]
    exact ⟨failed, after.phase, after.enabled, edge⟩
  -- The edge that was there at first is gone after one poll, so only the last look can have left
  -- one in the latch.
  have held : (bus.polled polls).latch.pending = true ↔
      polls = 0 ∨ ∃ last, polls = last + 1 ∧ (bus.polled last).nextLook.reply.edge = true := by
    cases polls with
    | zero => exact iff_of_true pending (Or.inl rfl)
    | succ last =>
      have before : (bus.polled last).Expects :=
        expects.polled fun earlier before ↦ fails earlier (Nat.lt_succ_of_lt before)
      obtain ⟨-, -, edge⟩ := before.failedLook (fails last (Nat.lt_succ_self last))
      rw [polled_succ, edge]
      refine ⟨fun edge ↦ Or.inr ⟨last, rfl, edge⟩, ?_⟩
      rintro (impossible | ⟨_, same, edge⟩)
      · cases impossible
      · cases same
        exact edge
  refine ⟨_, ?_, (expects.polled fails).soundLook sound⟩
  rw [Bool.or_eq_true, held, or_assoc]

/-- An engine that waits for a chip which has said that it is ready. The next look at the line
fails, and the line is at this level. -/
def signalled (low : Bool) : Bus Bench.Board :=
  run (create {} { lineLow := low, faults := [⟨.sampleLine, 0, 1⟩] }) [.attach, .edge]

theorem run_pump_failedLooks_low :
    (pump (signalled true)).1 = .error (.hardware .sampleLine) ∧
      (pump ((signalled true).polled 1)).1 = .ok true := by
  have fails : ∀ done < 1, ((signalled true).polled done).nextLook.fails = true := by
    decide +kernel
  obtain ⟨failed, shown, ready, told, -⟩ := run_pump_failedLooks {} _ [.attach, .edge] rfl
    (by decide +kernel) (by decide +kernel) (by decide +kernel) 1 fails
    (show ((signalled true).polled 1).nextLook.fails = false by decide +kernel)
  have low : ((signalled true).polled 1).nextLook.reply.low = true := by decide +kernel
  exact ⟨(failed 0 Nat.zero_lt_one).1, told.trans (congrArg _ (ready.mpr (Or.inr (Or.inr low))))⟩

/-- Once a look has failed, a line that is high hides that the chip has said so. -/
theorem pump_signalled_high :
    (signalled false).phase = .powerUp ∧ (signalled false).interruptEnabled = true ∧
      (signalled false).latch.pending = true ∧ (signalled false).nextLook.fails = true ∧
      (signalled false).nextLook.reply.edge = false ∧
      ((signalled false).polled 1).nextLook.fails = false ∧
      ((signalled false).polled 1).latch.pending = false ∧
      (pump ((signalled false).polled 1)).1.toOption = some false ∧
      (pump ((signalled false).polled 1)).2.phase = .powerUp := by
  decide +kernel

end SpiWifi.Bus
