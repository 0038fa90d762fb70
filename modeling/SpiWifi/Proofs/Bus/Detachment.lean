import SpiWifi.Proofs.Bus.Overrun
import SpiWifi.Proofs.Bus.WriteLaw

/-!
An engine whose session has ended. It has no receiver and its interrupt is off, so it serves
nothing and reads nothing. A staged write undoes that: it enables the interrupt whether there
is a receiver or not, and from then on a poll reads the chip's frames again and drops them.
So the engine stays closed until the next session exactly if no write is staged, and none is
staged if the session ended before its first frame or by an overrun.
-/

set_option autoImplicit false
set_option relaxedAutoImplicit false

namespace SpiWifi.Bus

open Wire

variable {σ : Type} {bus after : Bus σ} {result : Except Failure Unit}

/-- The engine takes no notice of the chip, and nothing would take its packets. -/
structure Closed (bus : Bus σ) : Prop where
  disabled : bus.interruptEnabled = false
  disarmed : bus.latch.armed = false
  empty : bus.latch.pending = false
  unattached : bus.attached = false

/-- No byte was clocked in on the way, and no packet handed over. -/
def Unread (before after : Bus σ) : Prop :=
  ∃ calls, Made before calls after ∧ ∀ entry ∈ calls,
    (∀ outgoing, entry.call ≠ .exchange outgoing) ∧ ∀ packet, entry.call ≠ .deliver packet

instance (bus : Bus σ) (payload : Nat) : Decidable (bus.Admits payload) :=
  decidable_of_iff (bus.poisoned = false ∧ frameLength payload ≤ bufferCapacity ∧
      bus.transmit.intact = true)
    ⟨fun ⟨sound, fits, intact⟩ ↦ ⟨sound, fits, intact⟩,
      fun ⟨sound, fits, intact⟩ ↦ ⟨sound, fits, intact⟩⟩

/-- The action is a write that is admitted and does not go out directly. -/
def Action.Stages (bus : Bus σ) : Action σ → Prop
  | .send payload => bus.phase = .idle ∧ bus.Admits payload.length
  | .write payload => bus.phase = .idle ∧ bus.Admits payload
  | _ => False

instance (bus : Bus σ) : (action : Action σ) → Decidable (action.Stages bus)
  | .send payload => inferInstanceAs (Decidable (_ ∧ bus.Admits payload.length))
  | .write payload => inferInstanceAs (Decidable (_ ∧ bus.Admits payload))
  | .attach | .detach | .power _ | .pause _ | .pump | .edit _ _ | .edge | .trample _ _ | .drift _ =>
    inferInstanceAs (Decidable False)

theorem Unread.refl (bus : Bus σ) : Unread bus bus :=
  ⟨[], rfl, fun _ mem ↦ absurd mem List.not_mem_nil⟩

theorem Unread.trans {middle : Bus σ} (h : Unread bus middle) (k : Unread middle after) :
    Unread bus after := by
  obtain ⟨calls, made, unread⟩ := h
  obtain ⟨later, more, others⟩ := k
  exact made.forall_trans more unread others

theorem closed_detached (bus : Bus σ) : bus.detached.Closed := ⟨rfl, rfl, rfl, rfl⟩

variable [Board σ]

/-- Some action of the session stages a write. -/
def Stages (bus : Bus σ) : List (Action σ) → Prop
  | [] => False
  | action :: rest => action.Stages bus ∨ Stages (bus.act action) rest

instance decidableStages (bus : Bus σ) : (session : List (Action σ)) → Decidable (bus.Stages session)
  | [] => inferInstanceAs (Decidable False)
  | action :: rest =>
    have := decidableStages (bus.act action) rest
    inferInstanceAs (Decidable (_ ∨ _))

theorem Stages.of_prefix {done session : List (Action σ)} (h : done <+: session)
    (stages : bus.Stages done) : bus.Stages session := by
  obtain ⟨rest, rfl⟩ := h
  induction done generalizing bus with
  | nil => exact stages.elim
  | cons action done ih => exact stages.imp_right ih

/-! ### While no write is staged -/

theorem Steady.closed {calls : List Entry} (step : Steady bus calls after) (closed : bus.Closed) :
    after.Closed where
  disabled := step.interruptEnabled.trans closed.disabled
  disarmed := step.armed.trans closed.disarmed
  empty := by
    refine Bool.eq_false_iff.mpr fun pending ↦ ?_
    rcases step.pending pending with old | ⟨armed, -⟩
    · rw [closed.empty] at old
      cases old
    · rw [closed.disarmed] at armed
      cases armed
  unattached := step.attached.trans closed.unattached

theorem Steady.unread {entry : Entry} (step : Steady bus [entry] after)
    (exchange : ∀ outgoing, entry.call ≠ .exchange outgoing)
    (deliver : ∀ packet, entry.call ≠ .deliver packet) : Unread bus after :=
  ⟨[entry], step.made, List.forall_mem_singleton.mpr ⟨exchange, deliver⟩⟩

theorem FirstSent.closed {frame : List UInt8} (h : FirstSent bus frame result after)
    (closed : bus.Closed) : after.Closed := by
  cases h with
  | unselected _ _ step => exact step.closed closed
  | sent _ _ step => exact step.closed { closed with }

/-- With the interrupt off the chip cannot be found ready. -/
theorem Ready.closed {calls : List Entry} {ready : Bus σ} (h : Ready bus calls ready)
    (closed : bus.Closed) : bus.phase = .initialized ∧ ready = bus := by
  cases h with
  | already phase => exact ⟨phase, rfl⟩
  | waited _ enabled _ _ _ =>
    rw [closed.disabled] at enabled
    cases enabled

theorem Written.closed {payload : Nat} (h : Written bus payload result after) (closed : bus.Closed)
    (unstaged : ¬ (bus.phase = .idle ∧ bus.Admits payload)) : after.Closed := by
  have framed : (bus.framed payload).Closed := { closed with }
  cases h with
  | poisoned _ => exact closed
  | tooLong _ _ => exact closed
  | overrun _ _ _ => exact ⟨rfl, rfl, rfl, closed.unattached⟩
  | unready _ _ _ step => exact step.closed framed
  | first _ waited sent =>
    obtain ⟨-, rfl⟩ := waited.closed framed
    exact sent.closed framed
  | staged admits phase _ => exact absurd ⟨phase, admits⟩ unstaged

/-- A closed engine stays closed and reads nothing, unless a session is started or a write is
staged. -/
theorem Acted.closed {action : Action σ} {result : Except Failure (Option Bool)}
    (h : Acted bus action result after) (within : action ≠ .attach) (closed : bus.Closed)
    (unstaged : ¬ action.Stages bus) : after.Closed ∧ Unread bus after := by
  cases h with
  | unattached _ _ _ => exact absurd rfl within
  | attached _ _ _ => exact absurd rfl within
  | detached => exact ⟨closed_detached bus, .refl bus⟩
  | @powered on _ _ _ switches step =>
    refine ⟨step.closed closed, _, step.made, fun entry mem ↦ ?_⟩
    rw [List.mem_singleton.mp (switches.call_mem mem)]
    cases on <;> exact ⟨fun _ ↦ Call.noConfusion, fun _ ↦ Call.noConfusion⟩
  | @paused _ pause _ call step =>
    refine ⟨step.closed closed, step.unread ?_ ?_⟩
    · rw [call]
      exact fun _ ↦ Call.noConfusion
    · rw [call]
      exact fun _ ↦ Call.noConfusion
  | sent sent =>
    obtain ⟨calls, lawful⟩ := sent.lawful
    refine ⟨?_, calls, lawful.untouched.1, lawful.unread⟩
    cases sent with
    | tooLong _ => exact closed
    | written _ written =>
      exact written.closed { closed with } fun ⟨phase, admits⟩ ↦ unstaged ⟨phase, { admits with }⟩
  | wrote written =>
    obtain ⟨calls, lawful⟩ := written.lawful
    exact ⟨written.closed closed unstaged, calls, lawful.untouched.1, lawful.unread⟩
  | pumped pumped =>
    obtain ⟨-, rfl⟩ := pumped.of_disabled closed.disabled
    exact ⟨closed, .refl _⟩
  | edited _ _ => exact ⟨{ closed with }, .refl bus⟩
  | signalled =>
    refine ⟨⟨closed.disabled, closed.disarmed, ?_, closed.unattached⟩, .refl bus⟩
    show (bus.latch.pending || bus.latch.armed) = false
    rw [closed.empty, closed.disarmed, Bool.or_false]
  | trampled _ _ => exact ⟨{ closed with }, .refl bus⟩
  | drifted _ => exact ⟨{ closed with }, .refl bus⟩

theorem closed_run {session : List (Action σ)} (resting : bus.Resting) (closed : bus.Closed)
    (within : ∀ action ∈ session, action ≠ .attach) (unstaged : ¬ bus.Stages session) :
    (run bus session).Closed ∧ Unread bus (run bus session) := by
  induction session generalizing bus with
  | nil => exact ⟨closed, .refl bus⟩
  | cons action rest ih =>
    obtain ⟨first, others⟩ := not_or.mp unstaged
    obtain ⟨internal, within⟩ := List.forall_mem_cons.mp within
    have acted : Acted bus action (action.perform bus).1 (bus.act action) :=
      perform_ensures resting action
    obtain ⟨still, unread⟩ := acted.closed internal closed first
    obtain ⟨last, later⟩ := ih (acted.resting resting) still within others
    exact ⟨last, unread.trans later⟩

/-! ### Once a write is staged -/

theorem Written.listens {payload : Nat} (h : Written bus payload result after)
    (idle : bus.phase = .idle) (admits : bus.Admits payload) : after.Listens := by
  cases h with
  | poisoned poisoned =>
    rw [admits.sound] at poisoned
    cases poisoned
  | tooLong _ long => exact absurd admits.fits (Nat.not_le.mpr long)
  | overrun _ _ trampled =>
    rw [admits.intact] at trampled
    cases trampled
  | unready _ phase _ _ =>
    rw [idle] at phase
    cases phase
  | first _ waited _ => exact absurd idle waited.not_idle
  | staged admits _ sent => exact sent.listens admits.sound

theorem Acted.listens_of_stages {action : Action σ} {result : Except Failure (Option Bool)}
    (h : Acted bus action result after) (stages : action.Stages bus) : after.Listens := by
  cases h with
  | sent sent =>
    obtain ⟨idle, admits⟩ := stages
    cases sent with
    | tooLong long => exact absurd (fits_iff.mp admits.fits) (Nat.not_le.mpr long)
    | written _ written => exact written.listens idle { admits with }
  | wrote written => exact written.listens stages.1 stages.2
  | _ => exact stages.elim

theorem listens_of_stages {session : List (Action σ)} (resting : bus.Resting)
    (stages : bus.Stages session) : ∃ done, done <+: session ∧ (run bus done).Listens := by
  induction session generalizing bus with
  | nil => exact stages.elim
  | cons action rest ih =>
    have acted : Acted bus action (action.perform bus).1 (bus.act action) :=
      perform_ensures resting action
    rcases stages with first | later
    · exact ⟨[action], List.prefix_append [action] rest, acted.listens_of_stages first⟩
    · obtain ⟨done, within, listens⟩ := ih (acted.resting resting) later
      exact ⟨action :: done, List.cons_prefix_cons.mpr ⟨rfl, within⟩, listens⟩

/-! ### Sessions that end before the first frame, or by an overrun -/

/-- The engine will stage no write before the next session. -/
def Spent (bus : Bus σ) : Prop := bus.phase = .powerUp ∨ bus.poisoned = true

omit [Board σ] in
theorem Spent.unstaged (h : bus.Spent) (action : Action σ) : ¬ action.Stages bus := by
  have stopped {payload : Nat} : ¬ (bus.phase = .idle ∧ bus.Admits payload) := by
    rintro ⟨idle, admits⟩
    rcases h with powerUp | poisoned
    · rw [idle] at powerUp
      cases powerUp
    · rw [admits.sound] at poisoned
      cases poisoned
  cases action with
  | send _ => exact stopped
  | write _ => exact stopped
  | _ => exact id

theorem Steady.spent {calls : List Entry} (step : Steady bus calls after) (spent : bus.Spent) :
    after.Spent := by
  rw [Spent, step.phase, step.poisoned]
  exact spent

theorem Written.spent {payload : Nat} (h : Written bus payload result after) (closed : bus.Closed)
    (spent : bus.Spent) : after.Spent := by
  have powerUp (admits : bus.Admits payload) : bus.phase = .powerUp := by
    refine spent.resolve_right fun poisoned ↦ ?_
    rw [admits.sound] at poisoned
    cases poisoned
  cases h with
  | poisoned _ => exact spent
  | tooLong _ _ => exact spent
  | overrun _ _ _ => exact Or.inr rfl
  | unready admits _ _ step => exact Or.inl (step.phase.trans (powerUp admits))
  | first admits waited _ =>
    have framed : (bus.framed payload).Closed := { closed with }
    have phase : bus.phase = .initialized := (waited.closed framed).1
    rw [powerUp admits] at phase
    cases phase
  | staged admits phase _ =>
    rw [powerUp admits] at phase
    cases phase

theorem Acted.spent {action : Action σ} {result : Except Failure (Option Bool)}
    (h : Acted bus action result after) (within : action ≠ .attach) (closed : bus.Closed)
    (spent : bus.Spent) : after.Spent := by
  cases h with
  | unattached _ _ _ => exact absurd rfl within
  | attached _ _ _ => exact absurd rfl within
  | powered _ step => exact step.spent spent
  | paused _ step => exact step.spent spent
  | sent sent =>
    cases sent with
    | tooLong _ => exact spent
    | written _ written => exact written.spent { closed with } spent
  | wrote written => exact written.spent closed spent
  | pumped pumped =>
    obtain ⟨-, rfl⟩ := pumped.of_disabled closed.disabled
    exact spent
  | detached | edited _ _ | signalled | trampled _ _ | drifted _ => exact spent

theorem unstaged_of_spent {session : List (Action σ)} (resting : bus.Resting) (closed : bus.Closed)
    (spent : bus.Spent) (within : ∀ action ∈ session, action ≠ .attach) :
    ¬ bus.Stages session := by
  induction session generalizing bus with
  | nil => exact id
  | cons action rest ih =>
    obtain ⟨internal, within⟩ := List.forall_mem_cons.mp within
    have acted : Acted bus action (action.perform bus).1 (bus.act action) :=
      perform_ensures resting action
    have unstaged := spent.unstaged action
    exact not_or.mpr ⟨unstaged, ih (acted.resting resting) (acted.closed internal closed unstaged).1
      (acted.spent internal closed spent) within⟩

/-- How far an engine stays closed when its session has ended. From every state that can be
reached, after `detach` and until the next session, its interrupt is off, its latch disarmed and
its receiver gone after every action if and only if no write is staged among them. As long as
none is staged, a poll finds nothing to do and no byte is clocked in. None is ever staged if
the session ended while the engine still waited for the chip, or was stopped by an overrun. -/
theorem run_detach_closed (config : Config) (board : σ) (actions : List (Action σ)) :
    let ended := (detach (run (create config board) actions)).2
    ∀ session : List (Action σ), (∀ action ∈ session, action ≠ .attach) →
      ((∀ done, done <+: session → (run ended done).Closed) ↔ ¬ ended.Stages session) ∧
      (¬ ended.Stages session →
        (pump (run ended session)).1 = .ok false ∧ Unread ended (run ended session)) ∧
      (ended.phase = .powerUp ∨ ended.poisoned = true → ¬ ended.Stages session) := by
  intro ended session within
  have before := run_resting config board actions
  have resting : ended.Resting := ⟨before.phase, before.dispatching, before.staged⟩
  have closed : ended.Closed := closed_detached _
  refine ⟨⟨fun stays stages ↦ ?_, fun unstaged done begun ↦ ?_⟩, fun unstaged ↦ ?_,
    fun spent ↦ unstaged_of_spent resting closed spent within⟩
  · obtain ⟨done, begun, listens⟩ := listens_of_stages resting stages
    have enabled := listens.enabled
    rw [(stays done begun).disabled] at enabled
    cases enabled
  · exact (closed_run resting closed (fun action mem ↦ within action (begun.subset mem))
      fun stages ↦ unstaged (stages.of_prefix begun)).1
  · obtain ⟨still, unread⟩ := closed_run resting closed within unstaged
    have rests : (run ended session).Resting :=
      (run_keeps (P := fun _ ↦ True) resting trivial fun _ _ _ _ _ _ _ _ ↦ trivial).1
    have pumped : Pumped (run ended session) _ _ := pump_ensures rests.dispatching rests.staged
    exact ⟨(pumped.of_disabled still.disabled).1, unread⟩

/-- A board with a frame queued for the host, which it announces on its line. -/
def announcing : Bench.Board :=
  { answerSelect := true, lineLow := true, queued := [3, 0, 0, 0, 0, 4, 16, 64, 2, 0, 7, 0] }

/-- A session that ends before its first frame leaves one frame that is not staged. -/
theorem run_detach_closed_announced :
    (pump (run (detach (run (create {} ({} : Bench.Board)) [.attach, .edge, .pump])).2
      [.send [1], .drift announcing, .edge, .pump])).1 = .ok false :=
  ((run_detach_closed {} ({} : Bench.Board) [.attach, .edge, .pump]
    [.send [1], .drift announcing, .edge, .pump] (by simp)).2.1 (by decide +kernel)).1

/-- An engine whose session has ended after its first frame. -/
def letGo : Bus Bench.Board :=
  run (create {} { answerSelect := true }) [.attach, .edge, .pump, .send [1], .detach]

/-- A frame that is sent over such an engine makes it listen again, and the next poll clocks in
what the chip has queued though there is no receiver. -/
theorem send_letGo :
    letGo.interruptEnabled = false ∧ letGo.latch.armed = false ∧
      (send [2] letGo).2.interruptEnabled = true ∧ (send [2] letGo).2.latch.armed = true ∧
      (send [2] letGo).2.attached = false ∧
      (pump (run letGo [.send [2], .drift announcing])).1.toOption = some true ∧
      (pump (run letGo [.send [2], .drift announcing])).2.board.queued = [] := by
  decide +kernel

end SpiWifi.Bus
