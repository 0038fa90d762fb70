import SpiWifi.Proofs.Bus.Conversation
import SpiWifi.Proofs.Bus.Interrupt

/-!
What comes of an overrun. The transmit guard is looked at before a write and the receive
guard between the end of a read and the delivery, so nothing goes out of a buffer that was
run over and nothing is handed over out of one. An overrun that is found stops the engine
until the next session. But a read that ends early does not look at its guard: only a frame
that was read to its end can be found to have run over it.
-/

set_option autoImplicit false
set_option relaxedAutoImplicit false

namespace SpiWifi.Bus

open Wire

/-! ### Which failures are overruns -/

theorem Follows.ne_overrun {script : List Call} {calls : List Entry} {result : Except Failure Unit}
    (h : Follows script calls result) : result ≠ .error .overrun := by
  rintro rfl
  obtain ⟨_, -, -, cause⟩ := h.failed
  cases cause

theorem Transacts.ne_overrun {script : List Call} {calls : List Entry}
    {result : Except Failure Unit} (h : Transacts script calls result) :
    result ≠ .error .overrun := by
  rintro rfl
  obtain ⟨_, cause, -⟩ := h.of_error
  cases cause

theorem Clocked.ne_overrun {calls : List Entry} {result : Except Failure Unit}
    (h : Clocked calls result) : result ≠ .error .overrun := by
  cases h with
  | lead broken => exact broken.ne_overrun
  | body _ _ rest => exact rest.ne_overrun

/-- A frame that is thrown away is too long, or a call has failed. -/
theorem Transacts.tooLong_ne_overrun {script : List Call} {calls : List Entry}
    {result : Except Failure Unit} (h : Transacts script calls result) :
    (result.bind fun _ ↦ .error .tooLong : Except Failure Unit) ≠ .error .overrun := by
  cases result with
  | error failure => exact h.ne_overrun
  | ok _ => rintro ⟨⟩

variable {σ : Type} {bus after : Bus σ}

/-- An overrun stops the engine, and no other result changes whether it has stopped. -/
structure StopsOnOverrun {α : Type} (bus : Bus σ) (result : Except Failure α) (after : Bus σ) :
    Prop where
  stops : result = .error .overrun → after.Halted
  keeps : result ≠ .error .overrun → after.poisoned = bus.poisoned

namespace StopsOnOverrun

variable {α β : Type} {result : Except Failure α}

theorem of_found (after : Bus σ) : StopsOnOverrun (α := α) bus (.error .overrun) after.halted where
  stops := fun _ ↦ .of_halted after
  keeps := fun other ↦ absurd rfl other

theorem of_kept (other : result ≠ .error .overrun) (kept : after.poisoned = bus.poisoned) :
    StopsOnOverrun bus result after where
  stops := fun overrun ↦ absurd overrun other
  keeps := fun _ ↦ kept

theorem map (h : StopsOnOverrun bus result after) (f : α → β) :
    StopsOnOverrun bus (result.map f) after := by
  cases result with
  | error failure =>
    refine ⟨fun overrun ↦ h.stops ?_, fun other ↦ h.keeps fun overrun ↦ other ?_⟩
    · cases overrun
      rfl
    · cases overrun
      rfl
  | ok value => exact .of_kept (by rintro ⟨⟩) (h.keeps (by rintro ⟨⟩))

theorem after_kept {middle : Bus σ} (kept : middle.poisoned = bus.poisoned)
    (h : StopsOnOverrun middle result after) : StopsOnOverrun bus result after :=
  ⟨h.stops, fun other ↦ (h.keeps other).trans kept⟩

end StopsOnOverrun

variable [Board σ] {result : Except Failure Unit}

theorem FrameRead.stopsOnOverrun (h : FrameRead bus result after) :
    StopsOnOverrun bus result after := by
  cases h with
  | refused _ _ step => exact .of_kept (by rintro ⟨⟩) step.poisoned
  | broken _ clocked _ step => exact .of_kept clocked.ne_overrun step.poisoned
  | oversize _ _ _ drains call step =>
    exact .of_kept (Transacts.intro drains call).tooLong_ne_overrun step.poisoned
  | unreleased _ _ step _ _ close =>
    exact .of_kept (by rintro ⟨⟩) (close.poisoned.trans step.poisoned)
  | overrun _ _ _ _ _ _ _ => exact .of_found _
  | delivered _ _ step _ _ close _ handed _ =>
    exact .of_kept (by rintro ⟨⟩) (handed.poisoned.trans (close.poisoned.trans step.poisoned))

theorem Served.stopsOnOverrun (h : Served bus result after) : StopsOnOverrun bus result after := by
  cases h with
  | ready _ => exact .of_kept (by rintro ⟨⟩) rfl
  | sent _ step sent => exact .of_kept sent.ne_overrun step.poisoned
  | read _ read => exact read.stopsOnOverrun

theorem Pumped.stopsOnOverrun {result : Except Failure Bool} (h : Pumped bus result after) :
    StopsOnOverrun bus result after := by
  cases h with
  | off _ => exact .of_kept (by rintro ⟨⟩) rfl
  | unread _ step _ _ => exact .of_kept (by rintro ⟨⟩) step.poisoned
  | unasked _ step _ _ => exact .of_kept (by rintro ⟨⟩) step.poisoned
  | @served _ asked _ _ _ step _ _ served =>
    have kept : asked.poisoned = bus.poisoned := step.poisoned
    exact (served.stopsOnOverrun.after_kept kept).map _

theorem FirstSent.stopsOnOverrun {frame : List UInt8} (h : FirstSent bus frame result after) :
    StopsOnOverrun bus result after := by
  cases h with
  | unselected _ _ step => exact .of_kept (by rintro ⟨⟩) step.poisoned
  | sent _ sent step => exact .of_kept sent.ne_overrun step.poisoned

theorem StagedSent.stopsOnOverrun {frame : List UInt8} (h : StagedSent bus frame result after) :
    StopsOnOverrun bus result after := by
  cases h with
  | refused _ _ _ step => exact .of_kept (by rintro ⟨⟩) step.poisoned
  | unanswered _ chosen waits _ _ step =>
    refine .of_kept ?_ (step.poisoned.trans chosen.poisoned)
    rintro ⟨⟩
    rcases waits.cause with impossible | ⟨_, impossible⟩ <;> cases impossible
  | sent _ chosen _ _ step sent close spent =>
    refine .of_kept sent.ne_overrun ?_
    have closed := close.poisoned.trans (step.poisoned.trans chosen.poisoned)
    rcases spent with rfl | rfl
    · exact closed
    · exact closed

theorem Written.stopsOnOverrun {payload : Nat} (h : Written bus payload result after) :
    StopsOnOverrun bus result after := by
  cases h with
  | poisoned _ => exact .of_kept (by rintro ⟨⟩) rfl
  | tooLong _ _ => exact .of_kept (by rintro ⟨⟩) rfl
  | overrun _ _ _ => exact .of_found _
  | unready _ _ waits step =>
    refine .of_kept ?_ step.poisoned
    rintro ⟨⟩
    rcases waits.cause with impossible | ⟨_, impossible⟩ <;> cases impossible
  | first _ waited sent => exact sent.stopsOnOverrun.after_kept waited.steady.poisoned
  | staged _ _ sent =>
    have kept : (bus.framed payload).poisoned = bus.poisoned := rfl
    exact sent.stopsOnOverrun.after_kept kept

theorem Sent.stopsOnOverrun {payload : List UInt8} (h : Sent bus payload result after) :
    StopsOnOverrun bus result after := by
  cases h with
  | tooLong _ => exact .of_kept (by rintro ⟨⟩) rfl
  | written _ written =>
    have kept : (bus.loaded 0 payload).poisoned = bus.poisoned := rfl
    exact written.stopsOnOverrun.after_kept kept

theorem Acted.stopsOnOverrun {action : Action σ} {result : Except Failure (Option Bool)}
    (h : Acted bus action result after) (within : action ≠ .attach) :
    StopsOnOverrun bus result after := by
  cases h with
  | unattached _ _ _ => exact absurd rfl within
  | attached _ _ _ => exact absurd rfl within
  | detached => exact .of_kept (by rintro ⟨⟩) rfl
  | powered switches step =>
    exact (StopsOnOverrun.of_kept switches.ne_overrun step.poisoned).map _
  | paused _ step => exact .of_kept (by rintro ⟨⟩) step.poisoned
  | sent sent => exact sent.stopsOnOverrun.map _
  | wrote written => exact written.stopsOnOverrun.map _
  | pumped pumped => exact pumped.stopsOnOverrun.map _
  | edited _ _ => exact .of_kept (by rintro ⟨⟩) rfl
  | signalled => exact .of_kept (by rintro ⟨⟩) rfl
  | trampled _ _ => exact .of_kept (by rintro ⟨⟩) rfl
  | drifted _ => exact .of_kept (by rintro ⟨⟩) rfl

/-! ### The engine after an overrun -/

/-- Calls that go neither to the bus nor to the chip's line nor to the receiver. -/
def Call.aside : Call → Bool
  | .powerOn | .powerOff | .pauseMillis _ => true
  | _ => false

/-- The history has grown by such calls alone. -/
def Withdrawn (before after : Bus σ) : Prop :=
  ∃ calls, Made before calls after ∧ ∀ entry ∈ calls, entry.call.aside = true

omit [Board σ] in
theorem Withdrawn.refl (bus : Bus σ) : Withdrawn bus bus :=
  ⟨[], rfl, fun _ mem ↦ absurd mem List.not_mem_nil⟩

omit [Board σ] in
theorem Withdrawn.trans {middle : Bus σ} (h : Withdrawn bus middle) (k : Withdrawn middle after) :
    Withdrawn bus after := by
  obtain ⟨calls, made, aside⟩ := h
  obtain ⟨later, more, others⟩ := k
  exact made.forall_trans more aside others

theorem Written.of_poisoned {payload : Nat} (h : Written bus payload result after)
    (poisoned : bus.poisoned = true) : result = .error .poisoned ∧ after = bus := by
  have stopped (sound : bus.poisoned = false) : False := by
    rw [poisoned] at sound
    cases sound
  cases h with
  | poisoned _ => exact ⟨rfl, rfl⟩
  | tooLong sound _ => exact (stopped sound).elim
  | overrun sound _ _ => exact (stopped sound).elim
  | unready admits _ _ _ => exact (stopped admits.sound).elim
  | first admits _ _ => exact (stopped admits.sound).elim
  | staged admits _ _ => exact (stopped admits.sound).elim

theorem Sent.of_poisoned {payload : List UInt8} (h : Sent bus payload result after)
    (poisoned : bus.poisoned = true) :
    result = .error (if payloadLimit < payload.length then .tooLong else .poisoned) ∧
      after.history = bus.history := by
  cases h with
  | tooLong long => exact ⟨by rw [if_pos long], rfl⟩
  | written fits written =>
    obtain ⟨rfl, rfl⟩ := written.of_poisoned poisoned
    exact ⟨by rw [if_neg (Nat.not_lt.mpr fits)], rfl⟩

theorem Pumped.of_disabled {result : Except Failure Bool} (h : Pumped bus result after)
    (disabled : bus.interruptEnabled = false) : result = .ok false ∧ after = bus := by
  have off (enabled : bus.interruptEnabled = true) : False := by
    rw [disabled] at enabled
    cases enabled
  cases h with
  | off _ => exact ⟨rfl, rfl⟩
  | unread enabled _ _ _ => exact (off enabled).elim
  | unasked enabled _ _ _ => exact (off enabled).elim
  | served enabled _ _ _ _ => exact (off enabled).elim

/-- An engine that has stopped stays so and keeps to itself, unless a session is started. -/
theorem Acted.halted {action : Action σ} {result : Except Failure (Option Bool)}
    (h : Acted bus action result after) (within : action ≠ .attach) (halted : bus.Halted) :
    after.Halted ∧ Withdrawn bus after := by
  have alike {calls : List Entry} {after : Bus σ} (step : Steady bus calls after)
      (aside : ∀ entry ∈ calls, entry.call.aside = true) : after.Halted ∧ Withdrawn bus after :=
    ⟨⟨step.interruptEnabled.trans halted.disabled, step.poisoned.trans halted.poisoned,
      step.phase.trans halted.idle⟩, calls, step.made, aside⟩
  cases h with
  | unattached _ _ _ => exact absurd rfl within
  | attached _ _ _ => exact absurd rfl within
  | detached => exact ⟨⟨rfl, halted.poisoned, halted.idle⟩, .refl bus⟩
  | @powered on _ _ _ switches step =>
    refine alike step fun entry mem ↦ ?_
    rw [List.mem_singleton.mp (switches.call_mem mem)]
    cases on <;> rfl
  | paused call step => exact alike step (List.forall_mem_singleton.mpr (by rw [call]; rfl))
  | sent sent =>
    cases sent with
    | tooLong _ => exact ⟨halted, .refl bus⟩
    | written _ written =>
      obtain ⟨-, rfl⟩ := written.of_poisoned halted.poisoned
      exact ⟨⟨halted.disabled, halted.poisoned, halted.idle⟩, .refl bus⟩
  | wrote written =>
    obtain ⟨-, rfl⟩ := written.of_poisoned halted.poisoned
    exact ⟨halted, .refl _⟩
  | pumped pumped =>
    obtain ⟨-, rfl⟩ := pumped.of_disabled halted.disabled
    exact ⟨halted, .refl _⟩
  | edited _ _ => exact ⟨⟨halted.disabled, halted.poisoned, halted.idle⟩, .refl bus⟩
  | signalled => exact ⟨⟨halted.disabled, halted.poisoned, halted.idle⟩, .refl bus⟩
  | trampled _ _ => exact ⟨⟨halted.disabled, halted.poisoned, halted.idle⟩, .refl bus⟩
  | drifted _ => exact ⟨⟨halted.disabled, halted.poisoned, halted.idle⟩, .refl bus⟩

theorem Acted.halted_of_overrun {action : Action σ} {result : Except Failure (Option Bool)}
    (h : Acted bus action result after) (overrun : result = .error .overrun) : after.Halted := by
  by_cases starts : action = .attach
  · subst starts
    cases h <;> cases overrun
  · exact (h.stopsOnOverrun starts).stops overrun

omit [Board σ] in
theorem Latched.disarmed (h : bus.Latched) (disabled : bus.interruptEnabled = false) :
    bus.latch.armed = false ∧ bus.latch.pending = false := by
  have armed : bus.latch.armed = false := h.armed.symm.trans disabled
  refine ⟨armed, Bool.eq_false_iff.mpr fun pending ↦ ?_⟩
  have kept := h.pending pending
  rw [armed] at kept
  cases kept

/-- A poisoned engine is one that has stopped. -/
theorem Acted.halted_of_poisoned {action : Action σ} {result : Except Failure (Option Bool)}
    (h : Acted bus action result after) (before : bus.poisoned = true → bus.Halted)
    (poisoned : after.poisoned = true) : after.Halted := by
  by_cases starts : action = .attach
  · subst starts
    have sound : after.poisoned = false := by
      cases h with
      | unattached _ _ step => exact step.poisoned
      | attached _ _ step => exact step.poisoned
    rw [sound] at poisoned
    cases poisoned
  · by_cases overrun : result = .error .overrun
    · exact (h.stopsOnOverrun starts).stops overrun
    · have stopped : bus.poisoned = true := ((h.stopsOnOverrun starts).keeps overrun) ▸ poisoned
      exact (h.halted starts (before stopped)).1

theorem run_halted_of_poisoned {actions : List (Action σ)} (resting : bus.Resting)
    (before : bus.poisoned = true → bus.Halted) :
    (run bus actions).poisoned = true → (run bus actions).Halted :=
  (run_keeps resting before fun _ _ _ _ _ _ before acted ↦ acted.halted_of_poisoned before).2

theorem run_withdrawn {actions : List (Action σ)} (resting : bus.Resting) (halted : bus.Halted)
    (within : ∀ action ∈ actions, action ≠ .attach) :
    (run bus actions).Halted ∧ Withdrawn bus (run bus actions) := by
  refine (run_keeps (P := fun later ↦ later.Halted ∧ Withdrawn bus later) resting
    ⟨halted, .refl bus⟩ ?_).2
  intro middle action result later mem _ before acted
  obtain ⟨stopped, aside⟩ := acted.halted (within action mem) before.1
  exact ⟨stopped, before.2.trans aside⟩

/-! ### Guards -/

/-- Whatever is done, a packet is handed over only while the receive guard is in place. -/
theorem Acted.guarded {action : Action σ} {result : Except Failure (Option Bool)}
    (h : Acted bus action result after) :
    ∃ calls, Made bus calls after ∧ Guarded bus.receive.guardByte calls := by
  have single {entry : Entry} {call : Call} (is : entry.call = call)
      (other : ∀ packet, call ≠ .deliver packet) : Guarded bus.receive.guardByte [entry] :=
    .of_undelivered (.single is other) _
  cases h with
  | unattached call _ step => exact ⟨_, step.made, single call fun _ ↦ Call.noConfusion⟩
  | attached call _ step => exact ⟨_, step.made, single call fun _ ↦ Call.noConfusion⟩
  | detached => exact ⟨[], rfl, trivial⟩
  | @powered on _ _ _ switches step =>
    refine ⟨_, step.made, .of_undelivered (fun entry mem packet deliver ↦ ?_) _⟩
    have call := List.mem_singleton.mp (switches.call_mem mem)
    rw [deliver] at call
    cases on <;> cases call
  | paused call step => exact ⟨_, step.made, single call fun _ ↦ Call.noConfusion⟩
  | sent sent =>
    obtain ⟨calls, lawful⟩ := sent.lawful
    exact ⟨calls, lawful.untouched.1, .of_undelivered (fun entry mem ↦ (lawful.unread entry mem).2) _⟩
  | wrote written =>
    obtain ⟨calls, lawful⟩ := written.lawful
    exact ⟨calls, lawful.untouched.1, .of_undelivered (fun entry mem ↦ (lawful.unread entry mem).2) _⟩
  | pumped pumped =>
    obtain ⟨calls, converses, guarded⟩ := pumped.converses
    exact ⟨calls, converses.history, guarded⟩
  | edited _ _ => exact ⟨[], rfl, trivial⟩
  | signalled => exact ⟨[], rfl, trivial⟩
  | trampled _ _ => exact ⟨[], rfl, trivial⟩
  | drifted _ => exact ⟨[], rfl, trivial⟩

/-- How a write is turned down whose buffer was run over. -/
theorem Written.of_trampled {payload : Nat} (h : Written bus payload result after)
    (trampled : bus.transmit.intact = false) :
    after.history = bus.history ∧ result = .error (if bus.poisoned then .poisoned
      else if payloadLimit < payload then .tooLong else .overrun) := by
  have admitted (admits : bus.Admits payload) : False := by
    have intact := admits.intact
    rw [trampled] at intact
    cases intact
  cases h with
  | poisoned poisoned => exact ⟨rfl, by rw [if_pos poisoned]⟩
  | tooLong sound long =>
    have excess := Nat.not_le.mp fun fits ↦ Nat.not_le.mpr long (fits_iff.mpr fits)
    simp only [sound, Bool.false_eq_true, ↓reduceIte, excess, and_self]
  | overrun sound fits _ =>
    have short := Nat.not_lt.mpr (fits_iff.mp fits)
    simp only [sound, Bool.false_eq_true, ↓reduceIte, short, and_true]
    rfl
  | unready admits _ _ _ => exact (admitted admits).elim
  | first admits _ _ => exact (admitted admits).elim
  | staged admits _ _ => exact (admitted admits).elim

theorem Sent.of_trampled {payload : List UInt8} (h : Sent bus payload result after)
    (trampled : bus.transmit.intact = false) :
    after.history = bus.history ∧ result = .error (if payloadLimit < payload.length then .tooLong
      else if bus.poisoned then .poisoned else .overrun) := by
  cases h with
  | tooLong long => exact ⟨rfl, by rw [if_pos long]⟩
  | written fits written =>
    have short := Nat.not_lt.mpr fits
    obtain ⟨history, rfl⟩ := written.of_trampled trampled
    refine ⟨history, ?_⟩
    simp only [short, ↓reduceIte]
    rfl

/-- An overrun lets nothing corrupted through and stops the engine until the next session.
In every state that can be reached: whatever is done next, a packet is handed over only while
the receive guard is in place; a write that starts with its guard run over makes no call and
says so, unless it is turned down for an earlier reason; an action that reports an overrun
leaves the engine poisoned and idle, with its interrupt off and its latch empty; and from a
poisoned state, whatever is done short of a new session, the engine stays poisoned with its
interrupt off, makes no call but those of the power pin and of pauses, turns every write down
and serves nothing. -/
theorem run_overrunStops (config : Config) (board : σ) (actions : List (Action σ)) :
    let bus := run (create config board) actions
    (∀ action : Action σ, ∃ calls, Made bus calls (bus.act action) ∧
        Guarded bus.receive.guardByte calls) ∧
      (bus.transmit.intact = false →
        (∀ length, (write length bus).2.history = bus.history ∧
          (write length bus).1 = .error (if bus.poisoned then .poisoned
            else if payloadLimit < length then .tooLong else .overrun)) ∧
        ∀ payload, (send payload bus).2.history = bus.history ∧
          (send payload bus).1 = .error (if payloadLimit < payload.length then .tooLong
            else if bus.poisoned then .poisoned else .overrun)) ∧
      (∀ action : Action σ, (action.perform bus).1 = .error .overrun →
        let after := bus.act action
        after.poisoned = true ∧ after.phase = .idle ∧ after.interruptEnabled = false ∧
          after.latch.armed = false ∧ after.latch.pending = false) ∧
      (bus.poisoned = true → ∀ session : List (Action σ), (∀ action ∈ session, action ≠ .attach) →
        let later := run bus session
        later.poisoned = true ∧ later.interruptEnabled = false ∧ later.latch.armed = false ∧
          Withdrawn bus later ∧ (∀ length, (write length later).1 = .error .poisoned) ∧
          (∀ payload, (send payload later).1 =
            .error (if payloadLimit < payload.length then .tooLong else .poisoned)) ∧
          (pump later).1 = .ok false) := by
  intro bus
  have created := resting_create config board
  have resting : bus.Resting := run_resting config board actions
  have latched : bus.Latched := run_latched created (latched_create config board)
  have acted (action : Action σ) : Acted bus action (action.perform bus).1 (bus.act action) :=
    perform_ensures resting action
  refine ⟨fun action ↦ (acted action).guarded, fun trampled ↦ ⟨fun length ↦ ?_, fun payload ↦ ?_⟩,
    fun action overrun ↦ ?_, fun poisoned session within ↦ ?_⟩
  · have written : Written bus length (write length bus).1 (write length bus).2 :=
      write_ensures resting length
    exact written.of_trampled trampled
  · have sent : Sent bus payload (send payload bus).1 (send payload bus).2 :=
      send_ensures resting payload
    exact sent.of_trampled trampled
  · have stops : (bus.act action).Halted := (acted action).halted_of_overrun overrun
    have empty : (bus.act action).Latched := (acted action).latched latched
    exact ⟨stops.poisoned, stops.idle, stops.disabled, empty.disarmed stops.disabled⟩
  · have halted : bus.Halted :=
      run_halted_of_poisoned created (fun impossible ↦ by cases impossible) poisoned
    obtain ⟨stopped, withdrawn⟩ := run_withdrawn resting halted within
    have rests : (run bus session).Resting := (run_keeps (P := fun _ ↦ True) resting trivial
      fun _ _ _ _ _ _ _ _ ↦ trivial).1
    have empty : (run bus session).Latched := run_latched resting latched
    refine ⟨stopped.poisoned, stopped.disabled, (empty.disarmed stopped.disabled).1, withdrawn,
      fun length ↦ ?_, fun payload ↦ ?_, ?_⟩
    · have written : Written (run bus session) length _ _ := write_ensures rests length
      exact (written.of_poisoned stopped.poisoned).1
    · have sent : Sent (run bus session) payload _ _ := send_ensures rests payload
      exact (sent.of_poisoned stopped.poisoned).1
    · have pumped : Pumped (run bus session) _ _ := pump_ensures rests.dispatching rests.staged
      exact (pumped.of_disabled stopped.disabled).1

/-- A session whose only frame runs over the receive buffer. -/
def overrunSession : List (Action Bench.Board) :=
  [.attach, .edge, .pump, .send [1],
    .drift { lineLow := true, queued := [3, 0, 0, 0, 0, 4, 1, 64, 1, 0], overrunNext := true },
    .pump]

theorem run_overrunStops_session :
    (pump (run (run (create {} {}) overrunSession) [.edge, .send [7], .power true, .detach])).1 =
      .ok false := by
  have poisoned : (run (create {} {}) overrunSession).poisoned = true := by decide +kernel
  have within : ∀ action ∈ ([.edge, .send [7], .power true, .detach] :
      List (Action Bench.Board)), action ≠ .attach := by simp
  obtain ⟨-, -, -, stays⟩ := run_overrunStops {} {} overrunSession
  obtain ⟨-, -, -, -, -, -, pumped⟩ := stays poisoned _ within
  exact pumped

end SpiWifi.Bus
