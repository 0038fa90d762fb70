import SpiWifi.Proofs.Bus.Patience
import SpiWifi.Proofs.Bus.WholeFrames

/-!
Nothing is asked for outside of a buffer, and the engine does not run over its own guards. The
lengths that the bounds depend on come from the caller, from the chip, and from a frame that was
staged earlier; each is compared with the capacity before the first part is taken. So a guard
that is found run over was written by something else.
-/

set_option autoImplicit false
set_option relaxedAutoImplicit false

namespace SpiWifi.Bus

open Wire

/-! ### What is taken of the buffers -/

theorem Blames.ne_outOfWindow {α : Type} {calls : List Entry} {result : Except Failure α}
    (h : Blames calls result) : result ≠ .error .outOfWindow := by
  rintro rfl
  cases h with
  | refused _ refusal => cases refusal

/-- What came in fits the buffer as a whole, or was thrown away chunk by chunk. -/
def Contained (calls : List Entry) : Prop :=
  (received calls).length ≤ bufferCapacity ∨
    ∀ entry ∈ calls, entry.received.length ≤ drainChunk

theorem Contained.of_nothing {calls : List Entry}
    (idle : ∀ entry ∈ calls, ∀ outgoing, entry.call ≠ .exchange outgoing) : Contained calls := by
  refine Or.inl ?_
  rw [received_eq_nil idle]
  exact Nat.zero_le _

/-- A call that is no exchange takes nothing of the buffer. -/
theorem Contained.cons {entry : Entry} {call : Call} {calls : List Entry} (is : entry.call = call)
    (other : ∀ outgoing, call ≠ .exchange outgoing) (h : Contained calls) :
    Contained (entry :: calls) := by
  rcases h with whole | chunks
  · refine Or.inl ?_
    rwa [received_cons is other]
  · refine Or.inr (List.forall_mem_cons.mpr ⟨?_, chunks⟩)
    have nothing := received_cons is other []
    rw [received, List.flatMap_singleton] at nothing
    rw [nothing]
    exact Nat.zero_le _

theorem clocksIn_drainScript (count : Nat) :
    ∀ call ∈ drainScript count, call.clocksIn ≤ drainChunk := by
  fun_induction drainScript count with
  | case1 => exact List.forall_mem_singleton.mpr (Nat.zero_le _)
  | case2 count more ih =>
    refine List.forall_mem_cons.mpr ⟨?_, ih⟩
    rw [Call.clocksIn, List.length_replicate]
    exact Nat.min_le_right _ _

/-- What is clocked in for a frame that fits never goes past the end of the buffer. -/
theorem Clocked.length_le {calls : List Entry} {result : Except Failure Unit}
    (h : Clocked calls result) : (received calls).length ≤ bufferCapacity := by
  cases h with
  | lead broken =>
    rw [length_received_exchange broken]
    decide
  | body whole fits rest =>
    rw [received_append, List.length_append, length_received_exchange whole,
      length_received_body rest]
    exact fits

/-- A frame that fits stays inside of the buffer, whatever comes of it. -/
theorem Clocked.contained {select release : Entry} {calls after : List Entry}
    {result : Except Failure Unit} (h : Clocked calls result) (selects : Selects select)
    (drops : release.call = .release)
    (delivers : ∀ entry ∈ after, ∃ packet, entry.call = .deliver packet) :
    Contained (select :: calls ++ release :: after) := by
  refine Or.inl ?_
  rw [received_window selects.1 drops delivers]
  exact h.length_le

/-- A frame that does not fit is clocked in by small chunks. -/
theorem contained_oversize {select release : Entry} {lead drained : List Entry} {count : Nat}
    {body : Except Failure Unit} (selects : Selects select)
    (whole : Follows (exchangeScript leadSize) lead (.ok ()))
    (drains : Follows (drainScript count) drained body) (drops : release.call = .release) :
    Contained (select :: (lead ++ drained) ++ [release]) := by
  have small {entry : Entry} (clocksIn : entry.call.clocksIn ≤ drainChunk) :
      entry.received.length ≤ drainChunk := by rwa [entry.length_received_eq]
  refine Or.inr ?_
  simp only [List.cons_append, List.append_assoc, List.forall_mem_cons, List.forall_mem_append]
  refine ⟨small ?_, fun entry mem ↦ small ?_, fun entry mem ↦ small ?_, small ?_,
    fun _ mem ↦ absurd mem List.not_mem_nil⟩
  · rw [selects.1]
    exact Nat.zero_le _
  · have first := whole.call_mem mem
    simp only [exchangeScript, List.mem_cons, List.not_mem_nil, or_false] at first
    rcases first with call | call <;> rw [call] <;> decide
  · exact clocksIn_drainScript _ _ (drains.call_mem mem)
  · rw [drops]
    exact Nat.zero_le _

variable {σ : Type} [Board σ] {bus after : Bus σ}

theorem FrameRead.contained {result : Except Failure Unit} (h : FrameRead bus result after) :
    ∃ calls, Made bus calls after ∧ Contained calls := by
  have none : ∀ entry ∈ ([] : List Entry), ∃ packet, entry.call = .deliver packet :=
    fun _ mem ↦ absurd mem List.not_mem_nil
  cases h with
  | refused call _ step =>
    have silent : Contained [_] := .cons call (fun _ ↦ Call.noConfusion) (Or.inl (Nat.zero_le _))
    exact ⟨_, step.made, silent⟩
  | broken selects clocked drops step => exact ⟨_, step.made, clocked.contained selects drops none⟩
  | oversize selects whole _ drains drops step =>
    exact ⟨_, step.made, contained_oversize selects whole drains drops⟩
  | unreleased selects clocked step drops _ close =>
    exact ⟨_, step.made.trans close.made, clocked.contained selects drops none⟩
  | overrun selects clocked step drops _ close _ =>
    exact ⟨_, step.made.trans close.made, clocked.contained selects drops none⟩
  | delivered selects clocked step drops _ close _ handed packet =>
    have made := (step.made.trans close.made).trans handed.made
    rw [List.append_assoc] at made
    exact ⟨_, made, clocked.contained selects drops (delivers_of_map packet)⟩

theorem Pumped.contained {result : Except Failure Bool} (h : Pumped bus result after) :
    ∃ calls, Made bus calls after ∧ Contained calls := by
  have looks {sample : Entry} (call : sample.call = .sampleLine) {calls : List Entry}
      (rest : Contained calls) : Contained (sample :: calls) :=
    .cons call (fun _ ↦ Call.noConfusion) rest
  have nothing : Contained [] := Or.inl (Nat.zero_le _)
  cases h with
  | off _ => exact ⟨[], rfl, nothing⟩
  | unread _ step call _ => exact ⟨_, step.made, looks call nothing⟩
  | unasked _ step samples _ => exact ⟨_, step.made, looks samples.1 nothing⟩
  | served _ step samples _ served =>
    cases served with
    | ready _ => exact ⟨_, step.made, looks samples.1 nothing⟩
    | sent _ close sent =>
      have idle : Contained _ := .of_nothing fun entry mem outgoing exchange ↦ by
        rcases sent.call_mem mem with script | release
        · have clocks := clocksOut_frameScript _ _ script
          rw [exchange] at clocks
          cases clocks
        · rw [exchange] at release
          cases release
      exact ⟨_, step.made.trans close.made, looks samples.1 idle⟩
    | read _ read =>
      obtain ⟨calls, made, contained⟩ := read.contained
      exact ⟨_, step.made.trans made, looks samples.1 contained⟩

/-- What every action keeps to: it asks for no part of a buffer that lies outside of it. -/
structure InBounds (bus : Bus σ) : Prop where
  /-- No action has asked for a part that is not there, for such a failure is never dropped. -/
  windows : ∀ action : Action σ, (action.perform bus).1 ≠ .error .outOfWindow
  staged : bus.staged ≤ bufferCapacity
  /-- A payload is copied only where it fits behind the header. -/
  copied : ∀ payload : List UInt8, send payload bus = (.error .tooLong, bus) ∨
    headerSize + payload.length ≤ bufferCapacity
  /-- A frame is built only if all of it fits, its pad byte being the last; and it can always be
  split for the first write. -/
  built : ∀ length : Nat, write length bus = (.error .poisoned, bus) ∨
    write length bus = (.error .tooLong, bus) ∨
      firstSplit ≤ frameLength length ∧ headerSize + length ≤ frameLength length ∧
        frameLength length ≤ headerSize + length + 1 ∧ frameLength length ≤ bufferCapacity
  /-- What a poll clocks in fits the receive buffer, or goes through the small chunk. -/
  fetched : ∃ calls, Made bus calls (pump bus).2 ∧ Contained calls

omit [Board σ] in
theorem firstSplit_le_frameLength (length : Nat) : firstSplit ≤ frameLength length ∧
    headerSize + length ≤ frameLength length ∧ frameLength length ≤ headerSize + length + 1 := by
  simp only [firstSplit, frameLength, paddedLength, headerSize]
  omega

theorem write_built (resting : bus.Resting) (length : Nat) :
    write length bus = (.error .poisoned, bus) ∨ write length bus = (.error .tooLong, bus) ∨
      frameLength length ≤ bufferCapacity := by
  have written : Written bus length (write length bus).1 (write length bus).2 :=
    write_ensures resting length
  rcases hwrite : write length bus with ⟨result, after⟩
  rw [hwrite] at written
  cases written with
  | poisoned _ => exact Or.inl rfl
  | tooLong _ _ => exact Or.inr (Or.inl rfl)
  | overrun _ fits _ => exact Or.inr (Or.inr fits)
  | unready admits _ _ _ => exact Or.inr (Or.inr admits.fits)
  | first admits _ _ => exact Or.inr (Or.inr admits.fits)
  | staged admits _ _ => exact Or.inr (Or.inr admits.fits)

theorem Resting.inBounds (resting : bus.Resting) : bus.InBounds where
  windows := by
    intro action
    have acted : Acted bus action (action.perform bus).1 (bus.act action) :=
      perform_ensures resting action
    obtain ⟨_, -, blames⟩ := acted.blames
    exact blames.ne_outOfWindow
  staged := resting.staged
  copied := by
    intro payload
    by_cases long : payloadLimit < payload.length
    · exact Or.inl (send_of_long long bus)
    · refine Or.inr ?_
      simp only [payloadLimit, bufferCapacity, headerSize] at long ⊢
      omega
  built := by
    intro length
    obtain ⟨split, behind, pad⟩ := firstSplit_le_frameLength length
    rcases write_built resting length with poisoned | tooLong | fits
    · exact Or.inl poisoned
    · exact Or.inr (Or.inl tooLong)
    · exact Or.inr (Or.inr ⟨split, behind, pad, fits⟩)
  fetched := by
    have pumped : Pumped bus (pump bus).1 (pump bus).2 :=
      pump_ensures resting.dispatching resting.staged
    exact pumped.contained

/-! ### The guards -/

/-- Nothing was written over a guard during the call. -/
def Entry.spares (entry : Entry) : Bool :=
  entry.reply.transmitGuard.isNone && entry.reply.receiveGuard.isNone

/-- The action is not that of something else that writes over a guard. -/
def Action.spares : Action σ → Bool
  | .trample transmit receive => transmit.isNone && receive.isNone
  | _ => true

/-- Nothing was ever written over a guard during a call. -/
def Spared (bus : Bus σ) : Prop := ∀ entry ∈ bus.history, entry.spares = true

instance (bus : Bus σ) : Decidable bus.Spared :=
  inferInstanceAs (Decidable (∀ entry ∈ bus.history, entry.spares = true))

/-- Both guards are in place, and the engine has not stopped over one. -/
structure Unharmed (bus : Bus σ) : Prop where
  transmit : bus.transmit.guardByte = GuardedBuffer.guardMark
  receive : bus.receive.guardByte = GuardedBuffer.guardMark
  sound : bus.poisoned = false

/-- The engine does no harm to its guards by itself. -/
def Kept (bus : Bus σ) : Prop := bus.Spared → bus.Unharmed

theorem intact_iff {buffer : GuardedBuffer bufferCapacity} :
    buffer.intact = true ↔ buffer.guardByte = GuardedBuffer.guardMark := beq_iff_eq

namespace Kept

omit [Board σ] in
/-- What has left history, guards and poison as they were. -/
theorem of_same (h : bus.Kept) (history : after.history = bus.history)
    (transmit : after.transmit.guardByte = bus.transmit.guardByte)
    (receive : after.receive.guardByte = bus.receive.guardByte)
    (poisoned : after.poisoned = bus.poisoned) : after.Kept := by
  intro spared
  have unharmed : bus.Unharmed := h fun entry mem ↦ spared entry (history ▸ mem)
  exact ⟨transmit.trans unharmed.transmit, receive.trans unharmed.receive,
    poisoned.trans unharmed.sound⟩

omit [Board σ] in
theorem inPhase (h : bus.Kept) (phase : Phase) : (bus.inPhase phase).Kept :=
  h.of_same rfl rfl rfl rfl

omit [Board σ] in
theorem landed (h : bus.Kept) (frame : List UInt8) : (bus.landed frame).Kept :=
  h.of_same rfl rfl rfl rfl

omit [Board σ] in
theorem deaf (h : bus.Kept) : bus.deaf.Kept := h.of_same rfl rfl rfl rfl

omit [Board σ] in
theorem listening (h : bus.Kept) : bus.listening.Kept := h.of_same rfl rfl rfl rfl

omit [Board σ] in
theorem framed (h : bus.Kept) (payload : Nat) : (bus.framed payload).Kept :=
  h.of_same rfl (guardByte_framedBuffer _ _) rfl rfl

omit [Board σ] in
/-- A guard that is found run over shows that something else has written. -/
theorem halted (h : bus.Kept) (trampled : bus.transmit.intact = false ∨ bus.receive.intact = false) :
    bus.halted.Kept := by
  intro spared
  have unharmed := h spared
  rcases trampled with transmit | receive
  · rw [intact_iff.mpr unharmed.transmit] at transmit
    cases transmit
  · rw [intact_iff.mpr unharmed.receive] at receive
    cases receive

end Kept

theorem Steady.kept {calls : List Entry} (step : Steady bus calls after) (h : bus.Kept) :
    after.Kept := by
  intro spared
  rw [Spared, step.history, List.forall_mem_append] at spared
  obtain ⟨during, before⟩ := spared
  have unharmed := h before
  have guards {entry : Entry} (mem : entry ∈ calls) :
      entry.reply.transmitGuard = none ∧ entry.reply.receiveGuard = none := by
    have spares := during entry (List.mem_reverse.mpr mem)
    rwa [Entry.spares, Bool.and_eq_true, Option.isNone_iff_eq_none, Option.isNone_iff_eq_none]
      at spares
  refine ⟨?_, ?_, step.poisoned.trans unharmed.sound⟩
  · rw [step.transmitGuard, foldl_guard _ fun entry mem byte ↦ ?_]
    · exact unharmed.transmit
    · rw [Entry.transmitGuard, (guards mem).1]
      rfl
  · rw [step.receiveGuard, foldl_guard _ fun entry mem byte ↦ ?_]
    · exact unharmed.receive
    · rw [Entry.receiveGuard, (guards mem).2]
      rfl

section Operations

variable {result : Except Failure Unit}

theorem FrameRead.kept (h : FrameRead bus result after) (kept : bus.Kept) : after.Kept := by
  cases h with
  | refused _ _ step => exact step.kept (kept.inPhase _)
  | broken _ _ _ step => exact step.kept (kept.landed _)
  | oversize _ _ _ _ _ step => exact step.kept (kept.landed _)
  | unreleased _ _ step _ _ close => exact (close.kept (step.kept (kept.landed _)).deaf).listening
  | overrun _ _ step _ _ close trampled =>
    exact (close.kept (step.kept (kept.landed _)).deaf).halted (Or.inr trampled)
  | delivered _ _ step _ _ close _ handed _ =>
    exact (handed.kept (close.kept (step.kept (kept.landed _)).deaf)).listening

theorem Pumped.kept {result : Except Failure Bool} (h : Pumped bus result after)
    (kept : bus.Kept) : after.Kept := by
  have taken : bus.edgeTaken.Kept := kept.of_same rfl rfl rfl rfl
  cases h with
  | off _ => exact kept
  | unread _ step _ _ => exact step.kept taken
  | unasked _ step _ _ => exact step.kept taken
  | served _ step _ _ served =>
    cases served with
    | ready _ => exact (step.kept taken).inPhase _
    | sent _ close _ => exact close.kept ((step.kept taken).inPhase _)
    | read _ read => exact read.kept (step.kept taken)

theorem FirstSent.kept {frame : List UInt8} (h : FirstSent bus frame result after)
    (kept : bus.Kept) : after.Kept := by
  cases h with
  | unselected _ _ step => exact step.kept kept
  | sent _ _ step => exact step.kept (kept.inPhase _)

theorem StagedSent.kept {frame : List UInt8} (h : StagedSent bus frame result after)
    (kept : bus.Kept) : after.Kept := by
  have asked : (bus.asking frame.length).Kept := kept.of_same rfl rfl rfl rfl
  cases h with
  | refused _ _ _ step => exact (step.kept (asked.inPhase _)).listening
  | unanswered _ chosen _ _ _ step => exact step.kept ((chosen.kept asked).listening.inPhase _)
  | @sent _ _ _ _ _ _ closed _ _ chosen _ _ step _ close spent =>
    have out : closed.Kept := close.kept ((step.kept (chosen.kept asked).listening).inPhase _)
    rcases spent with rfl | rfl
    · exact out
    · exact out.of_same rfl rfl rfl rfl

theorem Written.kept {payload : Nat} (h : Written bus payload result after) (kept : bus.Kept) :
    after.Kept := by
  have framed := kept.framed payload
  cases h with
  | poisoned _ => exact kept
  | tooLong _ _ => exact kept
  | overrun _ _ trampled => exact framed.halted (Or.inl ((intact_framedBuffer _ _).trans trampled))
  | unready _ _ _ step => exact step.kept framed
  | first _ waited sent => exact sent.kept (waited.steady.kept (framed.inPhase _))
  | staged _ _ sent => exact sent.kept framed

theorem Acted.kept {action : Action σ} {result : Except Failure (Option Bool)}
    (h : Acted bus action result after) (spares : action.spares = true) (kept : bus.Kept) :
    after.Kept := by
  have started : bus.fresh.Kept := fun _ ↦ ⟨rfl, rfl, rfl⟩
  have loaded (start : Nat) (bytes : List UInt8) : (bus.loaded start bytes).Kept :=
    kept.of_same rfl rfl rfl rfl
  cases h with
  | unattached _ _ step => exact step.kept started
  | attached _ _ step => exact (step.kept started).listening
  | detached => exact kept.of_same rfl rfl rfl rfl
  | powered _ step => exact step.kept kept
  | paused _ step => exact step.kept kept
  | sent sent =>
    cases sent with
    | tooLong _ => exact kept
    | written _ written => exact written.kept (loaded 0 _)
  | wrote written => exact written.kept kept
  | pumped pumped => exact pumped.kept kept
  | edited start bytes => exact loaded start bytes
  | signalled => exact kept.of_same rfl rfl rfl rfl
  | trampled transmit receive =>
    rw [Action.spares, Bool.and_eq_true, Option.isNone_iff_eq_none, Option.isNone_iff_eq_none]
      at spares
    obtain ⟨rfl, rfl⟩ := spares
    exact kept
  | drifted _ => exact kept.of_same rfl rfl rfl rfl

/-- Only an engine that has stopped over a guard says so. -/
theorem Written.poisoned_of_error {payload : Nat} (h : Written bus payload result after)
    (error : result = .error .poisoned) : bus.poisoned = true := by
  have admitted (admits : bus.Admits payload) : False := by
    rcases h.failure_of_admits admits _ error with late | ⟨_, hardware⟩
    · cases late
    · cases hardware
  cases h with
  | poisoned poisoned => exact poisoned
  | tooLong _ _ => cases error
  | overrun _ _ _ => cases error
  | unready admits _ _ _ => exact (admitted admits).elim
  | first admits _ _ => exact (admitted admits).elim
  | staged admits _ _ => exact (admitted admits).elim

theorem Acted.poisoned_of_error {action : Action σ} {result : Except Failure (Option Bool)}
    (h : Acted bus action result after) (error : result = .error .poisoned) :
    bus.poisoned = true := by
  cases h with
  | unattached _ _ _ => cases error
  | attached _ _ _ => cases error
  | detached => cases error
  | powered switches _ =>
    rw [map_eq_error_iff] at error
    obtain ⟨_, -, -, cause⟩ := (error ▸ switches).failed
    cases cause
  | paused _ _ => cases error
  | sent sent =>
    rw [map_eq_error_iff] at error
    cases sent with
    | tooLong _ => cases error
    | written _ written => exact written.poisoned_of_error error
  | wrote written => exact written.poisoned_of_error (map_eq_error_iff.mp error)
  | pumped pumped => cases pumped.pollFails _ (map_eq_error_iff.mp error)
  | edited _ _ => cases error
  | signalled => cases error
  | trampled _ _ => cases error
  | drifted _ => cases error

end Operations

/-- The engine stays in bounds and does not run over its own guards. Whatever has been done to it,
whatever its arguments were, whatever came in and whatever failed, every part that an action takes
of a buffer is inside of it. And as long as nothing else has written over a guard, neither between
two actions nor during a call, both guards are in place, the engine has not stopped, and whatever
is done next in the same way reports neither an overrun nor an earlier one. -/
theorem run_inBounds (config : Config) (board : σ) (actions : List (Action σ)) :
    let bus := run (create config board) actions
    bus.InBounds ∧
      ((∀ action ∈ actions, action.spares = true) → bus.Spared →
        bus.transmit.intact = true ∧ bus.receive.intact = true ∧ bus.poisoned = false ∧
          ∀ action : Action σ, action.spares = true → (bus.act action).Spared →
            (action.perform bus).1 ≠ .error .overrun ∧
              (action.perform bus).1 ≠ .error .poisoned) := by
  intro bus
  have created : (create config board).Kept := fun _ ↦ ⟨rfl, rfl, rfl⟩
  have resting : bus.Resting := run_resting config board actions
  refine ⟨resting.inBounds, fun apart spared ↦ ?_⟩
  have kept : bus.Kept := (run_keeps (resting_create config board) created
    fun _ action _ _ mem _ before acted ↦ acted.kept (apart action mem) before).2
  have unharmed := kept spared
  refine ⟨intact_iff.mpr unharmed.transmit, intact_iff.mpr unharmed.receive, unharmed.sound,
    fun action spares still ↦ ⟨fun overrun ↦ ?_, fun stopped ↦ ?_⟩⟩
  all_goals
    have acted : Acted bus action (action.perform bus).1 (bus.act action) :=
      perform_ensures resting action
  · have sound := (acted.kept spares kept still).sound
    rw [(acted.halted_of_overrun overrun).poisoned] at sound
    cases sound
  · have sound := unharmed.sound
    rw [acted.poisoned_of_error stopped] at sound
    cases sound

/-- A session with faults of every kind but one. -/
theorem run_inBounds_flaky :
    (Action.perform (.send [6]) (run (create {} flakyBoard) (.attach :: flakySession))).1 ≠
      .error .overrun := by
  have apart : ∀ action ∈ (.attach :: flakySession : List (Action Bench.Board)),
      action.spares = true := by decide +kernel
  obtain ⟨-, guards⟩ := run_inBounds {} flakyBoard (.attach :: flakySession)
  obtain ⟨-, -, -, next⟩ := guards apart (by decide +kernel)
  exact (next (.send [6]) rfl (by decide +kernel)).1

end SpiWifi.Bus
