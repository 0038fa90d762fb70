import SpiWifi.Proofs.Bus.Resting

/-!
What a write does to the bus. A frame goes out whole inside one selection of the chip,
on whichever of the three paths it takes, or a failure says how far it has come; and no
write ever reads.
-/

set_option autoImplicit false
set_option relaxedAutoImplicit false

namespace SpiWifi.Bus

open Wire

/-- One transaction that puts these bytes on the bus. Before it the engine may wait for
the chip, and inside of it for the chip's answer. -/
def Window (calls : List Entry) (bytes : List UInt8) : Prop :=
  ∃ before select inside release, calls = before ++ (select :: inside ++ [release]) ∧
    Waits before ∧ Selects select ∧ (release.call = .release ∧ release.fails = false) ∧
    (∀ entry ∈ inside, entry.call ≠ .select ∧ entry.call ≠ .release) ∧ written inside = bytes

/-- The failures of a write that has put nothing on the bus. -/
def Failure.early : Failure → Bool
  | .timeout | .overrun | .poisoned | .tooLong | .hardware .select | .hardware .sampleLine => true
  | _ => false

/-- The calls that a write can make. -/
def Call.transmits : Call → Bool
  | .select | .release | .write _ | .flush | .sampleLine | .pauseMicros _ | .pauseMillis _ => true
  | _ => false

def Unwritten (calls : List Entry) : Prop := ∀ entry ∈ calls, ∀ bytes, entry.call ≠ .write bytes

/-- The calls of a write that put nothing on the bus. -/
def Call.quiet : Call → Bool
  | .select | .release | .sampleLine | .pauseMicros _ => true
  | _ => false

def Quiet (calls : List Entry) : Prop := ∀ entry ∈ calls, entry.call.quiet = true

variable {σ : Type}

/-- The history has grown by these calls, and only the hardware has been at the receive
buffer. -/
def Untouched (before : Bus σ) (calls : List Entry) (after : Bus σ) : Prop :=
  Made before calls after ∧ after.receive.bytes = before.receive.bytes ∧
    after.receive.guardByte = calls.foldl Entry.receiveGuard before.receive.guardByte

/-- A write of `payload`, the first `length` bytes of the payload region, that has come to
`result` by `calls`. -/
structure Lawful (before : Bus σ) (payload : List UInt8) (length : Nat) (calls : List Entry)
    (result : Except Failure Unit) (after : Bus σ) : Prop where
  /-- The frame of this payload is all that has gone out. -/
  sent : result = .ok () → Window calls (frameOf payload)
  unsent : ∀ failure, result = .error failure → failure.early = true → Unwritten calls
  unread : ∀ entry ∈ calls, (∀ outgoing, entry.call ≠ .exchange outgoing) ∧
    ∀ packet, entry.call ≠ .deliver packet
  untouched : Untouched before calls after
  tooLong : before.poisoned = false → payloadLimit < length → result = .error .tooLong
  silent : result = .error .tooLong → payloadLimit < length ∧ calls = [] ∧ after = before

/-- A write that was admitted, up to the failures that only the admission can report. -/
structure Attempt (before : Bus σ) (frame : List UInt8) (calls : List Entry)
    (result : Except Failure Unit) (after : Bus σ) : Prop where
  sent : result = .ok () → Window calls frame
  unsent : ∀ failure, result = .error failure → failure.early = true → Unwritten calls
  transmits : ∀ entry ∈ calls, entry.call.transmits = true
  untouched : Untouched before calls after
  failure : ∀ failure, result = .error failure → failure = .timeout ∨
    ∃ call, failure = .hardware call

theorem Untouched.trans {before middle after : Bus σ} {calls later : List Entry}
    (h : Untouched before calls middle) (k : Untouched middle later after) :
    Untouched before (calls ++ later) after := by
  refine ⟨h.1.trans k.1, k.2.1.trans h.2.1, ?_⟩
  rw [List.foldl_append, ← h.2.2]
  exact k.2.2

theorem Waits.quiet {calls : List Entry} (h : Waits calls) : Quiet calls :=
  h.all (P := fun call ↦ call.quiet = true) rfl fun _ ↦ rfl

theorem GaveUp.quiet {calls : List Entry} {failure : Failure} (h : GaveUp calls failure) :
    Quiet calls := h.all (P := fun call ↦ call.quiet = true) rfl fun _ ↦ rfl

theorem GaveUp.cause {calls : List Entry} {failure : Failure} (h : GaveUp calls failure) :
    failure = .timeout ∨ ∃ call, failure = .hardware call := by
  cases h with
  | timeout _ => exact Or.inl rfl
  | unread _ _ _ => exact Or.inr ⟨_, rfl⟩

namespace Quiet

variable {calls later : List Entry}

theorem append (h : Quiet calls) (k : Quiet later) : Quiet (calls ++ later) :=
  List.forall_mem_append.mpr ⟨h, k⟩

theorem single {entry : Entry} {call : Call} (is : entry.call = call)
    (quiet : call.quiet = true) : Quiet [entry] := by
  refine List.forall_mem_singleton.mpr ?_
  rwa [is]

theorem unwritten (h : Quiet calls) : Unwritten calls := by
  intro entry mem bytes write
  have quiet := h entry mem
  rw [write] at quiet
  cases quiet

theorem transmits (h : Quiet calls) : ∀ entry ∈ calls, entry.call.transmits = true := by
  intro entry mem
  have quiet := h entry mem
  revert quiet
  cases entry.call <;> simp [Call.quiet, Call.transmits]

end Quiet

variable {bus after : Bus σ} {result : Except Failure Unit} {frame : List UInt8}

/-- The chip was selected and the frame clocked out, perhaps after a wait for its answer. -/
theorem Transacts.attempt {script : List Call} {select : Entry} {waits body : List Entry}
    (selects : Selects select) (quiet : Waits waits) (sent : Transacts script body result)
    (clocks : ∀ call ∈ script, call.clocksOut = true) (whole : script.flatMap Call.written = frame)
    (untouched : Untouched bus (select :: waits ++ body) after) :
    Attempt bus frame (select :: waits ++ body) result after where
  sent := by
    rintro rfl
    obtain ⟨inside, release, rfl, calls, drops, sound⟩ := sent.of_ok
    refine ⟨[], select, waits ++ inside, release, ?_, waits_nil, selects,
      ⟨drops, sound⟩, ?_, ?_⟩
    · simp only [List.nil_append, List.cons_append, List.append_assoc]
    · intro entry mem
      rcases List.mem_append.mp mem with mem | mem
      · exact quiet.all (P := fun call ↦ call ≠ .select ∧ call ≠ .release)
          ⟨Call.noConfusion, Call.noConfusion⟩ (fun _ ↦ ⟨Call.noConfusion, Call.noConfusion⟩)
          entry mem
      · have clocked := clocks _ (calls ▸ List.mem_map_of_mem mem)
        constructor <;> intro other <;> rw [other] at clocked <;> cases clocked
    · rw [written_append, written_of_map calls, whole, written_eq_nil quiet.quiet.unwritten,
        List.nil_append]
  unsent := by
    rintro failure rfl early
    obtain ⟨call, rfl, mem | rfl⟩ := sent.of_error
    · have clocked := clocks call mem
      cases call <;> simp_all [Failure.early, Call.clocksOut]
    · cases early
  transmits := by
    have opens := (Quiet.single selects.1 rfl).append quiet.quiet
    refine List.forall_mem_append.mpr ⟨opens.transmits, fun entry mem ↦ ?_⟩
    rcases sent.call_mem mem with mem | drops
    · have clocked := clocks _ mem
      revert clocked
      cases entry.call <;> simp [Call.clocksOut, Call.transmits]
    · rw [drops]
      rfl
  untouched := untouched
  failure := by
    rintro failure rfl
    obtain ⟨call, rfl, -⟩ := sent.of_error
    exact Or.inr ⟨call, rfl⟩

/-- An attempt that made no write and failed before any. -/
theorem Attempt.of_quiet {calls : List Entry} {failure : Failure} (quiet : Quiet calls)
    (untouched : Untouched bus calls after)
    (cause : failure = .timeout ∨ ∃ call, failure = .hardware call) :
    Attempt bus frame calls (.error failure) after where
  sent := by rintro ⟨⟩
  unsent := fun _ _ _ ↦ quiet.unwritten
  transmits := quiet.transmits
  untouched := untouched
  failure := by
    rintro _ ⟨⟩
    exact cause

/-- A wait that was not served before an attempt changes nothing about it. -/
theorem Attempt.delayed {middle : Bus σ} {calls later : List Entry} (waits : Waits calls)
    (untouched : Untouched bus calls middle) (h : Attempt middle frame later result after) :
    Attempt bus frame (calls ++ later) result after where
  sent := by
    intro ok
    obtain ⟨before, select, inside, release, rfl, quiet, rest⟩ := h.sent ok
    refine ⟨calls ++ before, select, inside, release, ?_, waits.append quiet, rest⟩
    rw [List.append_assoc]
  unsent := fun failure error early ↦
    List.forall_mem_append.mpr ⟨waits.quiet.unwritten, h.unsent failure error early⟩
  transmits := List.forall_mem_append.mpr ⟨waits.quiet.transmits, h.transmits⟩
  untouched := untouched.trans h.untouched
  failure := h.failure

variable [Board σ]

theorem Steady.untouched {calls : List Entry} (step : Steady bus calls after) :
    Untouched bus calls after := ⟨step.history, step.receive, step.receiveGuard⟩

theorem written_firstScript (settle : UInt32) (frame : List UInt8) :
    (firstScript settle frame).flatMap Call.written = frame := by
  simp [firstScript, Call.written]

theorem written_frameScript (frame : List UInt8) :
    (frameScript frame).flatMap Call.written = frame := by
  simp [frameScript, Call.written]

theorem FirstSent.attempt (h : FirstSent bus frame result after) :
    ∃ calls, Attempt bus frame calls result after := by
  cases h with
  | unselected call _ step =>
    exact ⟨_, .of_quiet (.single call rfl) step.untouched (Or.inr ⟨_, rfl⟩)⟩
  | sent selects sent step =>
    exact ⟨_, sent.attempt selects waits_nil (clocksOut_firstScript _ _) (written_firstScript _ _)
      step.untouched⟩

theorem StagedSent.attempt (h : StagedSent bus frame result after) :
    ∃ calls, Attempt bus frame calls result after := by
  cases h with
  | refused call _ drops step =>
    have quiet := (Quiet.single call rfl).append (.single drops rfl)
    exact ⟨_, .of_quiet quiet step.untouched (Or.inr ⟨_, rfl⟩)⟩
  | unanswered selects chosen waits _ drops step =>
    have quiet := (Quiet.single selects.1 rfl).append (waits.quiet.append (.single drops rfl))
    exact ⟨_, .of_quiet quiet (chosen.untouched.trans step.untouched) waits.cause⟩
  | sent selects chosen waits _ step sent close spent =>
    refine ⟨_, sent.attempt selects waits (clocksOut_frameScript _) (written_frameScript _) ?_⟩
    rcases spent with rfl | rfl
    · exact (chosen.untouched.trans step.untouched).trans close.untouched
    · exact (chosen.untouched.trans step.untouched).trans close.untouched

omit [Board σ] in
/-- What was tried with the frame of an admitted write is lawful. -/
theorem Attempt.lawful {payload : Nat} {calls : List Entry} (admits : bus.Admits payload)
    (h : Attempt (bus.framed payload) (bus.frame payload) calls result after) :
    Lawful bus (bus.transmit.payload.take payload) payload calls result after where
  sent := h.sent
  unsent := h.unsent
  unread := by
    intro entry mem
    have transmits := h.transmits entry mem
    constructor <;> intro _ call <;> rw [call] at transmits <;> cases transmits
  untouched := h.untouched
  tooLong := fun _ long ↦ absurd (fits_iff.mp admits.fits) (Nat.not_le.mpr long)
  silent := by
    intro error
    rcases h.failure _ error with impossible | ⟨_, impossible⟩ <;> cases impossible

omit [Board σ] in
/-- A write that was turned down has made no call. -/
theorem Lawful.of_refused {payload : List UInt8} {length : Nat} {failure : Failure}
    (untouched : Untouched bus [] after)
    (tooLong : bus.poisoned = false → payloadLimit < length → failure = .tooLong)
    (silent : failure = .tooLong → payloadLimit < length ∧ after = bus) :
    Lawful bus payload length [] (.error failure) after where
  sent := by rintro ⟨⟩
  unsent := fun _ _ _ _ mem ↦ absurd mem List.not_mem_nil
  unread := fun _ mem ↦ absurd mem List.not_mem_nil
  untouched := untouched
  tooLong := fun sound long ↦ congrArg _ (tooLong sound long)
  silent := by
    rintro ⟨⟩
    exact ⟨(silent rfl).1, rfl, (silent rfl).2⟩

theorem Written.lawful {payload : Nat} (h : Written bus payload result after) :
    ∃ calls, Lawful bus (bus.transmit.payload.take payload) payload calls result after := by
  cases h with
  | poisoned poisoned =>
    refine ⟨[], .of_refused ⟨rfl, rfl, rfl⟩ (fun sound ↦ ?_) Failure.noConfusion⟩
    rw [poisoned] at sound
    cases sound
  | tooLong sound long =>
    have excess := Nat.not_le.mp (fun fits ↦ Nat.not_le.mpr long (fits_iff.mpr fits))
    exact ⟨[], .of_refused ⟨rfl, rfl, rfl⟩ (fun _ _ ↦ rfl) fun _ ↦ ⟨excess, rfl⟩⟩
  | overrun sound fits _ =>
    refine ⟨[], .of_refused ⟨rfl, rfl, rfl⟩ (fun _ long ↦ ?_) Failure.noConfusion⟩
    exact absurd (fits_iff.mp fits) (Nat.not_le.mpr long)
  | unready admits _ waits step =>
    exact ⟨_, (Attempt.of_quiet waits.quiet step.untouched waits.cause).lawful admits⟩
  | @first calls _ ready _ admits waited sent =>
    obtain ⟨later, attempt⟩ := sent.attempt
    have untouched : Untouched (bus.framed payload) calls ready := waited.steady.untouched
    exact ⟨_, (attempt.delayed waited.waits untouched).lawful admits⟩
  | staged admits _ sent =>
    obtain ⟨calls, attempt⟩ := sent.attempt
    exact ⟨calls, attempt.lawful admits⟩

theorem Sent.lawful {payload : List UInt8} (h : Sent bus payload result after) :
    ∃ calls, Lawful bus payload payload.length calls result after := by
  cases h with
  | tooLong long =>
    exact ⟨[], .of_refused ⟨rfl, rfl, rfl⟩ (fun _ _ ↦ rfl) fun _ ↦ ⟨long, rfl⟩⟩
  | written fits written =>
    obtain ⟨calls, lawful⟩ := written.lawful
    rw [take_payload_loaded fits] at lawful
    refine ⟨calls, lawful.sent, lawful.unsent, lawful.unread, lawful.untouched, lawful.tooLong, ?_⟩
    intro error
    exact absurd (lawful.silent error).1 (Nat.not_lt.mpr fits)

/-! ### Lengths in machine words -/

omit [Board σ] in
/-- The last byte of a header is zero, as a pad byte is. -/
theorem laid_wrapped (bus : Bus σ) : bus.laid (writeHeader 0) .wrapped = bus.framed 0 := by
  have header : (writeHeader 0).encode = [1, 0, 0, 0] ++ [0] := by decide
  have split : bus.transmit.put 0 ([1, 0, 0, 0] ++ [0]) =
      (bus.transmit.put 0 [1, 0, 0, 0]).put 4 [0] :=
    (bus.transmit.put_put_behind (by decide)).symm
  have again : (bus.transmit.put 0 (writeHeader 0).encode).put 4 [0] =
      bus.transmit.put 0 (writeHeader 0).encode := by
    rw [header, split]
    exact GuardedBuffer.put_put_front _ (Nat.le_refl 1) (by decide)
  exact congrArg (fun transmit ↦ { bus with transmit }) again

theorem writeWord_allOnes {bits : Nat} (wide : 2 < bits) :
    (writeWord (BitVec.allOnes bits) : BusM σ Unit) = write 0 := by
  funext bus
  rw [writeWord, Layout.ofWord_allOnes wide, write, writeRecovering]
  cases sound : bus.poisoned with
  | true => rw [writeLaidOut_of_poisoned abort sound, writeLaidOut_of_poisoned abort sound]
  | false =>
    have room : frameLength 0 ≤ bufferCapacity := by decide
    have encodes := forWrite?_eq_some room
    have wrapped := @writeLaidOut_of_header _ bus _ abort .wrapped _ sound room encodes
    rw [laid_wrapped, ← laid_of] at wrapped
    exact wrapped.trans (@writeLaidOut_of_header _ bus _ abort (.of 0) _ sound room encodes).symm

theorem writeWord_of_wraps {bits : Nat} {length : BitVec bits} (wide : 16 < bits)
    (wraps : (BitVec.allOnes bits).toNat < frameLength length.toNat)
    (other : length ≠ BitVec.allOnes bits) :
    (writeWord length : BusM σ Unit) = write length.toNat := by
  have long : bufferCapacity < frameLength length.toNat := by
    have room : 2 ^ 17 ≤ 2 ^ bits := Nat.pow_le_pow_right (by decide) wide
    have capacity : bufferCapacity < 2 ^ 17 := by decide
    rw [BitVec.toNat_allOnes] at wraps
    omega
  funext bus
  rw [writeWord, write, writeRecovering]
  cases sound : bus.poisoned with
  | true => rw [writeLaidOut_of_poisoned abort sound, writeLaidOut_of_poisoned abort sound]
  | false =>
    rw [writeLaidOut_of_long abort sound (.inr (Layout.header?_ofWord_of_wraps wide wraps other))]
    exact (writeLaidOut_of_long abort sound (.inl long)).symm

theorem writeWord_of_fits {bits : Nat} {length : BitVec bits}
    (fits : frameLength length.toNat ≤ (BitVec.allOnes bits).toNat) :
    (writeWord length : BusM σ Unit) = write length.toNat := by
  rw [writeWord, Layout.ofWord_eq fits, write, writeRecovering]

/-- A machine writes the length that it is given, unless it is the longest, which wraps to nothing
at all. So it does nothing that a write of some length does not. -/
theorem writeWord_eq {bits : Nat} (wide : 16 < bits) (length : BitVec bits) :
    (writeWord length : BusM σ Unit) =
      write (if length = BitVec.allOnes bits then 0 else length.toNat) := by
  by_cases longest : length = BitVec.allOnes bits
  · rw [if_pos longest, longest]
    exact writeWord_allOnes (by omega)
  · rw [if_neg longest]
    rcases Nat.lt_or_ge (BitVec.allOnes bits).toNat (frameLength length.toNat) with wraps | fits
    · exact writeWord_of_wraps wide wraps longest
    · exact writeWord_of_fits fits

/-- Every write is lawful, from whatever state the engine has come to: `send` of any payload,
and `write` of any part of the payload region, on a machine with words of any size, as long as a
word holds the length of the frame. -/
theorem run_writeLaw (config : Config) (board : σ) (actions : List (Action σ)) :
    let bus := run (create config board) actions
    (∀ payload : List UInt8, ∃ calls,
        Lawful bus payload payload.length calls (send payload bus).1 (send payload bus).2) ∧
      ∀ {bits : Nat} (length : BitVec bits),
        frameLength length.toNat ≤ (BitVec.allOnes bits).toNat → ∃ calls,
          Lawful bus (bus.transmit.payload.take length.toNat) length.toNat calls
            (writeWord length bus).1 (writeWord length bus).2 := by
  intro bus
  have resting : bus.Resting := run_resting config board actions
  constructor
  · intro payload
    have sent : Sent bus payload (send payload bus).1 (send payload bus).2 :=
      send_ensures resting payload
    exact sent.lawful
  · intro bits length fits
    have written : Written bus length.toNat (write length.toNat bus).1 (write length.toNat bus).2 :=
      write_ensures resting length.toNat
    rw [writeWord_of_fits fits]
    exact written.lawful

/-- A session on a prompt board, in which a longer frame has gone out before. -/
def rewriting : List (Action Bench.Board) :=
  [.attach, .edge, .pump, .send [1, 2, 3, 4, 5, 6], .edit 0 [7, 8, 9]]

def promptBoard : Bench.Board where
  answerSelect := true

/-- Three bytes, written by a machine with words of 32 bits. -/
theorem run_writeLaw_rewriting :
    frameLength (3 : BitVec 32).toNat ≤ (BitVec.allOnes 32).toNat ∧
      ∃ calls, Made (run (create {} promptBoard) rewriting) calls
          (writeWord (3 : BitVec 32) (run (create {} promptBoard) rewriting)).2 ∧
        Window calls [1, 0, 4, 0, 0, 7, 8, 9, 0] := by
  have fits : frameLength (3 : BitVec 32).toNat ≤ (BitVec.allOnes 32).toNat := by decide
  obtain ⟨calls, lawful⟩ := (run_writeLaw {} promptBoard rewriting).2 (3 : BitVec 32) fits
  have content : frameOf ((run (create {} promptBoard) rewriting).transmit.payload.take 3) =
      [1, 0, 4, 0, 0, 7, 8, 9, 0] := by decide +kernel
  have out : (writeWord (3 : BitVec 32) (run (create {} promptBoard) rewriting)).1.isOk = true := by
    decide +kernel
  cases result : (writeWord (3 : BitVec 32) (run (create {} promptBoard) rewriting)).1 with
  | error failure => rw [result] at out; cases out
  | ok _ => exact ⟨fits, calls, lawful.untouched.1, content ▸ lawful.sent result⟩

end SpiWifi.Bus
