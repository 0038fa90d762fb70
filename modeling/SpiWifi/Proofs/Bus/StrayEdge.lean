import SpiWifi.Proofs.Bus.Resting

/-!
An edge that nothing has taken. Once the chip is up an edge alone is no reason to act: a
poll takes it and goes by the level of the line, and a write forgets it before it asks the
chip. So two engines that differ only in whether their latch holds an edge do the same until
the next session starts: they make the same calls, hand over the same packets, and come to
the same results.
-/

set_option autoImplicit false
set_option relaxedAutoImplicit false

namespace SpiWifi.Bus

open Wire

variable {σ α β : Type} {bus other : Bus σ}

/-- The engine with an edge in its latch, or with none. -/
def holding (bus : Bus σ) (edge : Bool) : Bus σ :=
  { bus with latch := { bus.latch with pending := edge } }

/-- Two engines that differ at most in whether their latch holds an edge. -/
def Alike (bus other : Bus σ) : Prop := ∃ edge, other = bus.holding edge

/-- The operation comes to the same on either engine. -/
structure Agree (op : BusM σ α) (bus other : Bus σ) : Prop where
  result : (op other).1 = (op bus).1
  alike : Alike (op bus).2 (op other).2

/-- The operation does not see whether the latch holds an edge. -/
def Blind (op : BusM σ α) : Prop := ∀ (bus : Bus σ) (edge : Bool), Agree op bus (bus.holding edge)

theorem Alike.refl (bus : Bus σ) : Alike bus bus := ⟨bus.latch.pending, rfl⟩

namespace Agree

theorem of_eq {op : BusM σ α} (h : op other = op bus) : Agree op bus other :=
  ⟨congrArg _ h, h ▸ .refl _⟩

theorem of_reached {op : BusM σ α} {result : Except Failure α} {after : Bus σ} {edge : Bool}
    (h : Ensures op bus fun outcome later ↦ outcome = result ∧ later = after)
    (k : Ensures op other fun outcome later ↦ outcome = result ∧ later = after.holding edge) :
    Agree op bus other :=
  ⟨k.1.trans h.1.symm, edge, by rw [h.2, k.2]⟩

theorem of_applies {op : BusM σ α} {result : Except Failure α} {after later : Bus σ}
    (h : op bus = (result, after)) (k : op other = (result, later)) (alike : Alike after later) :
    Agree op bus other := by
  constructor
  · rw [h, k]
  · rwa [h, k]

/-- Where an operation goes on as another one, they agree alike. -/
theorem of_starts {op second : BusM σ α} {start restart : Bus σ} (agree : Agree second start restart)
    (h : op bus = second start) (k : op other = second restart) : Agree op bus other := by
  constructor
  · rw [h, k, agree.result]
  · rw [h, k]
    exact agree.alike

theorem of_throw {failure : Failure} {next : α → BusM σ β} (h : Alike bus other) :
    Agree (throw failure >>= next) bus other := ⟨rfl, h⟩

theorem mapped {op : BusM σ α} (h : Agree op bus other) (f : α → β) :
    Agree (f <$> op) bus other := by
  constructor
  · rw [map_apply, map_apply, h.result]
  · rw [map_apply, map_apply]
    exact h.alike

/-- What follows may go by all that is known of the first operation. -/
theorem bind {op : BusM σ α} {next : α → BusM σ β} {mid : Except Failure α → Bus σ → Prop}
    (h : Agree op bus other) (known : Ensures op bus mid)
    (rest : ∀ value after edge, mid (.ok value) after →
      Agree (next value) after (after.holding edge)) :
    Agree (op >>= next) bus other := by
  obtain ⟨result, edge, alike⟩ := h
  unfold Ensures at known
  constructor
  all_goals
    rw [bind_apply, bind_apply]
    rcases hbus : op bus with ⟨failure | value, after⟩ <;>
      rcases hother : op other with ⟨_ | _, later⟩ <;>
      rw [hbus, hother] at result alike <;> cases result <;> cases alike
  · rfl
  · rw [hbus] at known
    exact (rest value after edge known).result
  · exact ⟨edge, rfl⟩
  · rw [hbus] at known
    exact (rest value after edge known).alike

/-- What is read off the state goes on alike if it is not the edge. -/
theorem get_bind {next : Bus σ → BusM σ β} (same : next other = next bus)
    (h : Agree (next bus) bus other) : Agree (get >>= next) bus other := by
  constructor
  · rw [get_apply, get_apply, same]
    exact h.result
  · rw [get_apply, get_apply, same]
    exact h.alike

end Agree

namespace Blind

theorem bind {op : BusM σ α} {next : α → BusM σ β} (h : Blind op)
    (rest : ∀ value, Blind (next value)) : Blind (op >>= next) := by
  intro bus edge
  have known : Ensures op bus fun _ _ ↦ True := trivial
  exact (h bus edge).bind known fun value after edge _ ↦ rest value after edge

theorem get_bind {next : Bus σ → BusM σ β} (same : ∀ bus edge, next (bus.holding edge) = next bus)
    (h : ∀ bus, Blind (next bus)) : Blind (get >>= next) :=
  fun bus edge ↦ .get_bind (same bus edge) (h bus bus edge)

theorem discarded {op : BusM σ α} (h : Blind op) : Blind (discard op) :=
  fun bus edge ↦ (h bus edge).mapped _

theorem observed {op : BusM σ α} (h : Blind op) : Blind (observing op) := by
  intro bus edge
  constructor
  · rw [observing_apply, observing_apply, (h bus edge).result]
  · rw [observing_apply, observing_apply]
    exact (h bus edge).alike

end Blind

theorem blind_pure (value : α) : Blind (pure value : BusM σ α) := fun _ edge ↦ ⟨rfl, edge, rfl⟩

theorem blind_throw (failure : Failure) : Blind (throw failure : BusM σ α) :=
  fun _ edge ↦ ⟨rfl, edge, rfl⟩

theorem blind_modify {f : Bus σ → Bus σ} (h : ∀ bus edge, Alike (f bus) (f (bus.holding edge))) :
    Blind (modify f : BusM σ Unit) := fun bus edge ↦ ⟨rfl, h bus edge⟩

theorem blind_enterPhase (phase : Phase) : Blind (enterPhase phase : BusM σ Unit) :=
  blind_modify fun _ edge ↦ ⟨edge, rfl⟩

theorem blind_check (request : Call) (reply : Reply) :
    Blind (check request reply : BusM σ Unit) := by
  unfold check
  split
  · exact blind_throw _
  · exact blind_pure _

/-! ### Before the chip is asked -/

variable [Board σ]

theorem blind_call (request : Call) : Blind (call request : BusM σ Reply) := by
  intro bus edge
  refine ⟨rfl, ?_⟩
  show Alike (bus.called request) ((bus.holding edge).called request)
  by_cases raised : (Board.respond request bus.board).1.edge = true
  · refine ⟨edge || bus.latch.armed, ?_⟩
    simp only [called, absorb, holding, raised, ↓reduceIte]
    rfl
  · refine ⟨edge, ?_⟩
    simp only [called, absorb, holding, raised, Bool.false_eq_true, ↓reduceIte]

theorem blind_demand (request : Call) : Blind (demand request : BusM σ Reply) :=
  (blind_call request).bind fun _ ↦ (blind_check request _).bind fun _ ↦ blind_pure _

theorem blind_pause (millis : UInt32) : Blind (pause millis : BusM σ Unit) :=
  (blind_call _).discarded

theorem blind_clockOut (start stop : Nat) : Blind (clockOut start stop : BusM σ Unit) := by
  refine .get_bind (fun _ _ ↦ rfl) fun bus ↦ ?_
  split
  · exact blind_throw _
  · exact (blind_demand _).discarded.bind fun _ ↦ (blind_demand _).discarded

theorem blind_conclude (body : Except Failure Unit) : Blind (conclude body : BusM σ Unit) := by
  refine (blind_enterPhase _).bind fun _ ↦ (blind_call _).bind fun reply ↦ ?_
  split
  · exact blind_throw _
  · exact blind_check _ _

theorem blind_writePortions (total : Nat) : Blind (writePortions total : BusM σ Unit) :=
  (blind_clockOut _ _).bind fun _ ↦ .get_bind (fun _ _ ↦ rfl) fun _ ↦
    (blind_pause _).bind fun _ ↦ blind_clockOut _ _

theorem blind_writeFirst (total : Nat) : Blind (writeFirst total : BusM σ Unit) :=
  (blind_demand _).discarded.bind fun _ ↦ .get_bind (fun _ _ ↦ rfl) fun _ ↦
    (blind_pause _).bind fun _ ↦ (blind_enterPhase _).bind fun _ ↦
      (blind_writePortions _).observed.bind fun _ ↦ (blind_enterPhase _).bind fun _ ↦
        blind_conclude _

/-! ### Once the chip is up -/

/-- The chip has been found ready in this session. -/
def Up (bus : Bus σ) : Prop := bus.phase = .initialized ∨ bus.phase = .idle

/-- A poll takes the edge, and then goes by the line. -/
theorem pump_holding (up : bus.Up) (edge : Bool) : Agree pump bus (bus.holding edge) := by
  unfold pump
  refine .get_bind rfl ?_
  split
  · exact blind_pure _ _ _
  · refine .of_eq ?_
    show (lineIsLow >>= _) bus.edgeTaken = (lineIsLow >>= _) bus.edgeTaken
    refine bind_congr_of (lineIsLow_ensures bus.edgeTaken) fun low after looked ↦ ?_
    have phase : after.phase = bus.phase := by
      cases looked with
      | read step _ => exact step.phase
    simp only [get_apply, phase]
    rcases up with up | up <;> simp only [up, Phase.wakes]

theorem awaited_holding (idle : bus.phase = .idle) (edge : Bool) :
    Agree awaitOut bus (bus.holding edge) := by
  have other : (bus.holding edge).phase = .idle := idle
  exact .of_reached (awaited idle ⟨rfl, rfl⟩) (awaited other ⟨rfl, rfl⟩)

theorem first_holding {frame : List UInt8}
    (window : bus.transmit.window? 0 frame.length = some frame) (long : firstSplit ≤ frame.length)
    (edge : Bool) : Agree (do
      writeFirst frame.length
      awaitOut) bus (bus.holding edge) :=
  (blind_writeFirst _ bus edge).bind (writeFirst_ensures window long)
    fun _ _ edge sent ↦ awaited_holding sent.phase edge

/-- A staged write switches the latch off first, and its edge with it. -/
theorem staged_holding (edge : Bool) (total : Nat) :
    writeStaged total (bus.holding edge) = writeStaged total bus := rfl

theorem framed_holding {payload : Nat} (up : bus.Up)
    (fits : frameLength payload ≤ bufferCapacity) (edge : Bool) :
    Agree (writeFramed abort (frameLength payload)) (bus.framed payload)
      ((bus.framed payload).holding edge) := by
  unfold writeFramed
  refine .get_bind rfl ?_
  rcases up with initialized | idle
  · have phase : (bus.framed payload).phase = .initialized := initialized
    simp only [phase, reduceCtorEq, ↓reduceIte]
    refine .get_bind rfl ?_
    simp only [phase, ↓reduceIte, ← length_frame bus fits]
    exact first_holding (window_framed bus fits) (firstSplit_le_frame bus fits) edge
  · have phase : (bus.framed payload).phase = .idle := idle
    simp only [phase, reduceCtorEq, ↓reduceIte]
    refine .get_bind rfl ?_
    simp only [phase, reduceCtorEq, ↓reduceIte]
    refine .get_bind rfl ?_
    simp only [phase, ↓reduceIte]
    refine .of_eq ?_
    rw [bind_apply, bind_apply, staged_holding]

theorem write_holding (up : bus.Up) (payload : Nat) (edge : Bool) :
    Agree (write payload) bus (bus.holding edge) := by
  cases sound : bus.poisoned with
  | true =>
    have other : (bus.holding edge).poisoned = true := sound
    exact .of_applies (writeLaidOut_of_poisoned abort sound) (writeLaidOut_of_poisoned abort other)
      ⟨edge, rfl⟩
  | false =>
    have other : (bus.holding edge).poisoned = false := sound
    by_cases long : bufferCapacity < frameLength payload
    · exact .of_applies (writeLaidOut_of_long abort sound (.inl long))
        (writeLaidOut_of_long abort other (.inl long)) ⟨edge, rfl⟩
    have fits := Nat.not_lt.mp long
    cases intact : bus.transmit.intact with
    | false =>
      -- The engine halts, and the latch is emptied with it.
      exact .of_applies (writeRecovering_of_trampled sound fits intact abort)
        (writeRecovering_of_trampled other fits intact abort) (.refl _)
    | true =>
      have admits : bus.Admits payload := ⟨sound, fits, intact⟩
      have others : (bus.holding edge).Admits payload := ⟨other, fits, intact⟩
      exact (framed_holding up fits edge).of_starts (writeRecovering_of_admits admits abort)
        (writeRecovering_of_admits others abort)

theorem send_holding (up : bus.Up) (payload : List UInt8) (edge : Bool) :
    Agree (send payload) bus (bus.holding edge) := by
  unfold send
  split
  · exact .of_throw ⟨edge, rfl⟩
  · have loaded : (bus.loaded 0 payload).Up := up
    have written := write_holding loaded payload.length edge
    exact ⟨written.result, written.alike⟩

theorem perform_holding {action : Action σ} (up : bus.Up) (within : action ≠ .attach)
    (edge : Bool) : Agree action.perform bus (bus.holding edge) := by
  cases action with
  | attach => exact absurd rfl within
  | detach => exact .of_eq rfl
  | power on => exact ((blind_demand _).discarded bus edge).mapped _
  | pause millis => exact (blind_pause millis bus edge).mapped _
  | send payload => exact (send_holding up payload edge).mapped _
  | write payload => exact (write_holding up payload edge).mapped _
  | pump => exact (pump_holding up edge).mapped _
  | edit start bytes => exact ⟨rfl, edge, rfl⟩
  | edge => exact ⟨rfl, edge || bus.latch.armed, rfl⟩
  | trample transmit receive => exact ⟨rfl, edge, rfl⟩
  | drift board => exact ⟨rfl, edge, rfl⟩

/-! ### Until the next session -/

variable {after : Bus σ} {result : Except Failure Unit}

theorem FrameRead.idle (h : FrameRead bus result after) : after.phase = .idle := by
  cases h with
  | refused _ _ step => exact step.phase
  | broken _ _ _ step => exact step.phase
  | oversize _ _ _ _ _ step => exact step.phase
  | unreleased _ _ step _ _ close => exact close.phase.trans step.phase
  | overrun _ _ _ _ _ _ _ => rfl
  | delivered _ _ step _ _ close _ handed _ =>
    exact handed.phase.trans (close.phase.trans step.phase)

/-- Serving the chip finds it ready, if it was not up before. -/
theorem Served.up (h : Served bus result after) : after.Up := by
  cases h with
  | ready _ => exact Or.inl rfl
  | sent _ step _ => exact Or.inr step.phase
  | read _ read => exact Or.inr read.idle

theorem Steady.up {calls : List Entry} (step : Steady bus calls after) (up : bus.Up) :
    after.Up := by
  unfold Up
  rw [step.phase]
  exact up

theorem Pumped.up {result : Except Failure Bool} (h : Pumped bus result after) (up : bus.Up) :
    after.Up := by
  cases h with
  | off _ => exact up
  | unread _ step _ _ => exact step.of_edgeTaken.up up
  | unasked _ step _ _ => exact step.of_edgeTaken.up up
  | served _ _ _ _ served => exact served.up

theorem FirstSent.up {frame : List UInt8} (h : FirstSent bus frame result after)
    (up : bus.Up) : after.Up := by
  cases h with
  | unselected _ _ step => exact step.up up
  | sent _ _ step => exact Or.inr step.phase

theorem StagedSent.idle {frame : List UInt8} (h : StagedSent bus frame result after) :
    after.phase = .idle := by
  cases h with
  | refused _ _ _ step => exact step.phase
  | unanswered _ _ _ _ _ step => exact step.phase
  | sent _ _ _ _ _ _ close spent =>
    rcases spent with rfl | rfl
    · exact close.phase
    · exact close.phase

theorem Written.up {payload : Nat} (h : Written bus payload result after) (up : bus.Up) :
    after.Up := by
  cases h with
  | poisoned _ => exact up
  | tooLong _ _ => exact up
  | overrun _ _ _ => exact Or.inr rfl
  | unready _ _ _ step =>
    have framed : (bus.framed payload).Up := up
    exact step.up framed
  | first _ waited sent => exact sent.up (Or.inl waited.phase)
  | staged _ _ sent => exact Or.inr sent.idle

/-- Only the start of a session makes the engine wait for the chip again. -/
theorem Acted.up {action : Action σ} {result : Except Failure (Option Bool)}
    (h : Acted bus action result after) (within : action ≠ .attach) (up : bus.Up) : after.Up := by
  have loaded (start : Nat) (bytes : List UInt8) : (bus.loaded start bytes).Up := up
  cases h with
  | unattached _ _ _ => exact absurd rfl within
  | attached _ _ _ => exact absurd rfl within
  | detached => exact up
  | powered _ step => exact step.up up
  | paused _ step => exact step.up up
  | sent sent =>
    cases sent with
    | tooLong _ => exact up
    | written _ written => exact written.up (loaded 0 _)
  | wrote written => exact written.up up
  | pumped pumped => exact pumped.up up
  | edited _ _ => exact up
  | signalled => exact up
  | trampled _ _ => exact up
  | drifted _ => exact up

/-- What some actions come to, one after the other. -/
def outcomes (bus : Bus σ) : List (Action σ) → List (Except Failure (Option Bool))
  | [] => []
  | action :: rest => (action.perform bus).1 :: outcomes (bus.act action) rest

theorem session_holding {session : List (Action σ)} (resting : bus.Resting) (up : bus.Up)
    (within : ∀ action ∈ session, action ≠ .attach) (edge : Bool) :
    (bus.holding edge).outcomes session = bus.outcomes session ∧
      Alike (run bus session) (run (bus.holding edge) session) := by
  induction session generalizing bus edge with
  | nil => exact ⟨rfl, edge, rfl⟩
  | cons action rest ih =>
    obtain ⟨internal, others⟩ := List.forall_mem_cons.mp within
    have acted : Acted bus action (action.perform bus).1 (bus.act action) :=
      perform_ensures resting action
    obtain ⟨result, pending, alike⟩ := perform_holding up internal edge
    have later : (bus.holding edge).act action = (bus.act action).holding pending := alike
    obtain ⟨results, reached⟩ := ih (acted.resting resting) (acted.up internal up) others pending
    constructor
    · rw [outcomes, outcomes, later, results, result]
    · show Alike (run (bus.act action) rest) (run ((bus.holding edge).act action) rest)
      rw [later]
      exact reached

/-- Once the chip is up, an edge that nothing has taken makes no difference. From every state
that can be reached in which the engine is past the start of its session, whatever is done
until the next session comes to the same results whether the latch holds an edge or not: the
same calls are made and answered, the same packets handed over, and the engine ends in the same
state but for the edge that its latch may hold. -/
theorem run_edgeBlind (config : Config) (board : σ) (actions : List (Action σ)) :
    let bus := run (create config board) actions
    bus.phase = .initialized ∨ bus.phase = .idle →
      ∀ (edge : Bool) (session : List (Action σ)), (∀ action ∈ session, action ≠ .attach) →
        let other := bus.holding edge
        other.outcomes session = bus.outcomes session ∧
          (run other session).history = (run bus session).history ∧
          ∃ pending, run other session = (run bus session).holding pending := by
  intro bus up edge session within other
  have resting : bus.Resting := run_resting config board actions
  obtain ⟨results, pending, alike⟩ := session_holding resting up within edge
  refine ⟨results, ?_, pending, alike⟩
  rw [alike]
  rfl

/-- An engine whose chip is up, on a board that fails some of its calls. -/
def flakyUp : Bus Bench.Board := run (create {} flakyBoard) [.attach, .edge, .pump]

theorem run_edgeBlind_flaky :
    (flakyUp.holding true).outcomes [.send [1], .send [2], .send [3], .pump, .send [4], .pump] =
      flakyUp.outcomes [.send [1], .send [2], .send [3], .pump, .send [4], .pump] := by
  have up : flakyUp.phase = .initialized := by decide +kernel
  exact (run_edgeBlind {} flakyBoard [.attach, .edge, .pump] (Or.inl up) true _ (by simp)).1

end SpiWifi.Bus
