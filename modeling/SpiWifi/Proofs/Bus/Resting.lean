import SpiWifi.Bench.Board
import SpiWifi.Proofs.Bus.Traffic

/-!
The engine at rest. Every action that starts between two operations ends between two
operations: no transaction is left on the bus, the dispatcher is not marked as running
and the staged length stays within the buffer. So a write never finds an older one to
recover from.
-/

set_option autoImplicit false
set_option relaxedAutoImplicit false

namespace SpiWifi.Bus

variable {σ : Type} {bus : Bus σ}

namespace Resting

theorem inPhase (h : bus.Resting) {phase : Phase} (rest : phase = .initialized ∨ phase = .idle) :
    (bus.inPhase phase).Resting where
  phase := Or.inr rest
  dispatching := h.dispatching
  staged := h.staged

theorem landed (h : bus.Resting) (frame : List UInt8) : (bus.landed frame).Resting where
  phase := Or.inr (Or.inr rfl)
  dispatching := h.dispatching
  staged := h.staged

theorem deaf (h : bus.Resting) : bus.deaf.Resting := ⟨h.phase, h.dispatching, h.staged⟩

theorem listening (h : bus.Resting) : bus.listening.Resting := ⟨h.phase, h.dispatching, h.staged⟩

theorem edgeTaken (h : bus.Resting) : bus.edgeTaken.Resting := ⟨h.phase, h.dispatching, h.staged⟩

theorem halted (h : bus.Resting) : bus.halted.Resting where
  phase := Or.inr (Or.inr rfl)
  dispatching := h.dispatching
  staged := h.staged

theorem framed (h : bus.Resting) (payload : Nat) : (bus.framed payload).Resting :=
  ⟨h.phase, h.dispatching, h.staged⟩

end Resting

theorem resting_create (config : Config) (board : σ) : (create config board).Resting where
  phase := Or.inl rfl
  dispatching := rfl
  staged := Nat.zero_le _

/-- The engine is at rest again once its staged frame is dropped or out. -/
theorem resting_asked {total : Nat} (h : bus.Resting) (fits : total ≤ bufferCapacity) :
    ((bus.asking total).inPhase .idle).Resting where
  phase := Or.inr (Or.inr rfl)
  dispatching := h.dispatching
  staged := fits

variable [Board σ] {after : Bus σ} {result : Except Failure Unit}

theorem Steady.resting {calls : List Entry} (step : Steady bus calls after) (h : bus.Resting) :
    after.Resting where
  phase := by
    rw [step.phase]
    exact h.phase
  dispatching := step.dispatching.trans h.dispatching
  staged := by
    rw [step.staged]
    exact h.staged

theorem FrameRead.resting (h : FrameRead bus result after) (resting : bus.Resting) :
    after.Resting := by
  cases h with
  | refused _ _ step => exact step.resting (resting.inPhase (Or.inr rfl))
  | broken _ _ _ step => exact step.resting (resting.landed _)
  | oversize _ _ _ _ _ step => exact step.resting (resting.landed _)
  | unreleased _ _ step _ _ close =>
    exact (close.resting (step.resting (resting.landed _)).deaf).listening
  | overrun _ _ step _ _ close _ =>
    exact (close.resting (step.resting (resting.landed _)).deaf).halted
  | delivered _ _ step _ _ close _ handed _ =>
    exact (handed.resting (close.resting (step.resting (resting.landed _)).deaf)).listening

theorem Served.resting (h : Served bus result after) (resting : bus.Resting) : after.Resting := by
  cases h with
  | ready _ => exact resting.inPhase (Or.inl rfl)
  | sent _ step _ => exact step.resting (resting.inPhase (Or.inr rfl))
  | read _ read => exact read.resting resting

theorem Pumped.resting {result : Except Failure Bool} (h : Pumped bus result after)
    (resting : bus.Resting) : after.Resting := by
  cases h with
  | off _ => exact resting
  | unread _ step _ _ => exact step.resting resting.edgeTaken
  | unasked _ step _ _ => exact step.resting resting.edgeTaken
  | served _ step _ _ served => exact served.resting (step.resting resting.edgeTaken)

theorem FirstSent.resting {frame : List UInt8} (h : FirstSent bus frame result after)
    (resting : bus.Resting) : after.Resting := by
  cases h with
  | unselected _ _ step => exact step.resting resting
  | sent _ _ step => exact step.resting (resting.inPhase (Or.inr rfl))

theorem StagedSent.resting {frame : List UInt8} (h : StagedSent bus frame result after)
    (resting : bus.Resting) (fits : frame.length ≤ bufferCapacity) : after.Resting := by
  have asked := resting_asked resting fits
  cases h with
  | refused _ _ _ step => exact (step.resting asked).listening
  | unanswered _ chosen _ _ _ step =>
    exact step.resting (((chosen.inPhase .idle).resting asked).listening)
  | sent _ chosen _ _ step _ close spent =>
    have sampled := ((chosen.inPhase .idle).resting asked).listening
    have closed := close.resting ((step.inPhase .idle).resting sampled)
    rcases spent with rfl | rfl
    · exact closed
    · exact closed.edgeTaken

theorem Written.resting {payload : Nat} (h : Written bus payload result after)
    (resting : bus.Resting) : after.Resting := by
  cases h with
  | poisoned _ => exact resting
  | tooLong _ _ => exact resting
  | overrun _ _ _ => exact (resting.framed payload).halted
  | unready _ _ _ step => exact step.resting (resting.framed payload)
  | first _ waited sent =>
    exact sent.resting (waited.steady.resting ((resting.framed payload).inPhase (Or.inl rfl)))
  | staged admits _ sent =>
    refine sent.resting (resting.framed payload) ?_
    rw [length_frame bus admits.fits]
    exact admits.fits

theorem Acted.resting {action : Action σ} {result : Except Failure (Option Bool)}
    (h : Acted bus action result after) (resting : bus.Resting) : after.Resting := by
  have started : bus.fresh.Resting := ⟨Or.inl rfl, rfl, Nat.zero_le _⟩
  have loaded (start : Nat) (bytes : List UInt8) : (bus.loaded start bytes).Resting :=
    ⟨resting.phase, resting.dispatching, resting.staged⟩
  cases h with
  | unattached _ _ step => exact step.resting started
  | attached _ _ step => exact (step.resting started).listening
  | detached => exact ⟨resting.phase, resting.dispatching, resting.staged⟩
  | powered _ step => exact step.resting resting
  | paused _ step => exact step.resting resting
  | sent sent =>
    cases sent with
    | tooLong _ => exact resting
    | written _ written => exact written.resting (loaded 0 _)
  | wrote written => exact written.resting resting
  | pumped pumped => exact pumped.resting resting
  | edited start bytes => exact loaded start bytes
  | signalled => exact ⟨resting.phase, resting.dispatching, resting.staged⟩
  | trampled _ _ => exact ⟨resting.phase, resting.dispatching, resting.staged⟩
  | drifted _ => exact ⟨resting.phase, resting.dispatching, resting.staged⟩

/-! ### Runs -/

/-- The actions of a run keep what each of them keeps. -/
theorem run_keeps {P : Bus σ → Prop} {actions : List (Action σ)} (resting : bus.Resting)
    (start : P bus)
    (step : ∀ (bus : Bus σ) (action : Action σ) (result : Except Failure (Option Bool))
      (after : Bus σ), action ∈ actions → bus.Resting → P bus → Acted bus action result after →
      P after) :
    (run bus actions).Resting ∧ P (run bus actions) := by
  induction actions generalizing bus with
  | nil => exact ⟨resting, start⟩
  | cons action rest ih =>
    have acted : Acted bus action (action.perform bus).1 (bus.act action) :=
      perform_ensures resting action
    refine ih (acted.resting resting) (step _ _ _ _ List.mem_cons_self resting start acted) ?_
    exact fun _ _ _ _ mem ↦ step _ _ _ _ (List.mem_cons_of_mem _ mem)

theorem run_traffic {actions : List (Action σ)} (resting : bus.Resting) :
    Traffic bus (run bus actions) :=
  (run_keeps (P := Traffic bus) resting (.refl bus)
    fun _ _ _ _ _ rests before acted ↦ before.trans (acted.traffic rests)).2

theorem run_resting (config : Config) (board : σ) (actions : List (Action σ)) :
    (run (create config board) actions).Resting :=
  (run_keeps (P := fun _ ↦ True) (resting_create config board) trivial
    fun _ _ _ _ _ _ _ _ ↦ trivial).1

theorem tidy_run (config : Config) (board : σ) (actions : List (Action σ)) :
    Tidy (run (create config board) actions).history.reverse := by
  obtain ⟨calls, made, tidy⟩ : Traffic (create config board) (run (create config board) actions) :=
    run_traffic (resting_create config board)
  rw [made, List.reverse_append, List.reverse_reverse]
  exact tidy

/-! ### Recovery -/

/-- Two operations that go on alike from every state that the first step can leave. -/
theorem bind_congr_of {σ α β : Type} {bus : Bus σ} {op : BusM σ α} {first second : α → BusM σ β}
    {mid : Except Failure α → Bus σ → Prop} (h : Ensures op bus mid)
    (same : ∀ value after, mid (.ok value) after → first value after = second value after) :
    (op >>= first) bus = (op >>= second) bus := by
  unfold Ensures at h
  rw [bind_apply, bind_apply]
  rcases hop : op bus with ⟨_ | value, after⟩
  · rfl
  · rw [hop] at h
    exact same value after h

theorem writeFramed_congr (resting : bus.Resting) (recover other : BusM σ Unit) (total : Nat) :
    writeFramed recover total bus = writeFramed other total bus := by
  simp only [writeFramed, get_apply]
  rcases resting.phase with powerUp | initialized | idle
  · simp only [powerUp, ↓reduceIte]
    refine bind_congr_of (waitFor_ensures (Or.inl ⟨powerUp, rfl⟩) resting.dispatching
      resting.staged) fun _ ready waited ↦ ?_
    obtain ⟨_, wait⟩ := waited.ready powerUp
    simp only [get_apply, wait.phase, ↓reduceIte]
  · simp only [initialized, reduceCtorEq, ↓reduceIte, get_apply]
  · simp only [idle, reduceCtorEq, ↓reduceIte, get_apply]

/-- A write that starts at rest has nothing to recover from. -/
theorem writeRecovering_congr (resting : bus.Resting) (recover other : BusM σ Unit)
    (payload : Nat) : writeRecovering recover payload bus = writeRecovering other payload bus := by
  rw [writeRecovering_apply, writeRecovering_apply,
    writeFramed_congr (resting.framed payload) recover other]

/-- The level of chip-select, low being `true`, if it was high at first. -/
def chipSelectLow (bus : Bus σ) : Bool := bus.history.reverse.foldl Entry.chipSelect false

/-- Whatever has been done to an engine and whatever the board has answered, no operation
leaves a transaction behind: the engine is in one of the three phases of rest, its dispatcher is
not running, its staged length fits the buffer, and chip-select is high unless a release of it
has failed. A write from there takes the same course whatever it would do to recover from an
older one. -/
theorem run_atRest (config : Config) (board : σ) (actions : List (Action σ)) :
    let bus := run (create config board) actions
    (bus.phase = .powerUp ∨ bus.phase = .initialized ∨ bus.phase = .idle) ∧
      bus.dispatching = false ∧ bus.staged ≤ bufferCapacity ∧
      (Released bus.history → bus.chipSelectLow = false) ∧
      ∀ (recover : BusM σ Unit) (payload : Nat),
        writeRecovering recover payload bus = write payload bus := by
  intro bus
  have resting : bus.Resting := run_resting config board actions
  have tidy : Tidy bus.history.reverse := tidy_run config board actions
  refine ⟨resting.phase, resting.dispatching, resting.staged, ?_, ?_⟩
  · intro released
    exact tidy.closes fun entry mem ↦ released entry (List.mem_reverse.mp mem)
  · exact fun recover payload ↦ writeRecovering_congr resting recover abort payload

/-- A board that fails the second selection, the fourth write and the third look at the line. -/
def flakyBoard : Bench.Board where
  answerSelect := true
  faults := [⟨.select, 1, 1⟩, ⟨.write, 3, 1⟩, ⟨.sampleLine, 2, 1⟩]

/-- A session in which each of these faults strikes a write. -/
def flakySession : List (Action Bench.Board) :=
  [.edge, .pump, .send [1], .send [2], .send [3], .send [4], .send [5], .pump]

theorem run_atRest_flaky :
    (run (create {} flakyBoard) (.attach :: flakySession)).chipSelectLow = false :=
  (run_atRest {} flakyBoard (.attach :: flakySession)).2.2.2.1 (by decide +kernel)

end SpiWifi.Bus
