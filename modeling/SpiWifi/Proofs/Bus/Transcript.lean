import SpiWifi.Proofs.Bus.Ensures

/-!
The calls between two states. `Steady before calls after` says that the engine
went from `before` to `after` by `calls` alone, apart from taking edges: of its own
fields none has changed, and all that the hardware changed is read off the calls.
`Follows script calls result` says that the calls were those of a script, up to
the first that failed.
-/

set_option autoImplicit false
set_option relaxedAutoImplicit false

namespace SpiWifi.Bus

/-! ### One call -/

namespace Entry

/-- Whether the engine sees the call fail. -/
def fails (entry : Entry) : Bool := entry.call.part?.isSome && entry.reply.failed

/-- The bytes that an exchange leaves in its window. Where the chip has none, the
fill byte stays. -/
def received (entry : Entry) : List UInt8 :=
  match entry.call with
  | .exchange outgoing =>
    let incoming := entry.reply.incoming.take outgoing.length
    incoming ++ List.replicate (outgoing.length - incoming.length) Wire.readFill
  | _ => []

/-- The guard byte of the receive buffer after the call. -/
def receiveGuard (guard : UInt8) (entry : Entry) : UInt8 := entry.reply.receiveGuard.getD guard

/-- The guard byte of the transmit buffer after the call. -/
def transmitGuard (guard : UInt8) (entry : Entry) : UInt8 := entry.reply.transmitGuard.getD guard

theorem length_received {entry : Entry} {outgoing : List UInt8}
    (h : entry.call = .exchange outgoing) : entry.received.length = outgoing.length := by
  simp only [received, h, List.length_append, List.length_take, List.length_replicate]
  omega

end Entry

/-- The bytes that a call puts on the bus. -/
def Call.written : Call → List UInt8
  | .write bytes => bytes
  | _ => []

/-- The bytes that went out during some calls. -/
def written (calls : List Entry) : List UInt8 := calls.flatMap fun entry ↦ entry.call.written

/-- The bytes that came in during some calls. -/
def received (calls : List Entry) : List UInt8 := calls.flatMap Entry.received

@[simp] theorem written_append (first second : List Entry) :
    written (first ++ second) = written first ++ written second := List.flatMap_append

@[simp] theorem received_append (first second : List Entry) :
    received (first ++ second) = received first ++ received second := List.flatMap_append

/-- Calls other than exchanges bring nothing in. -/
theorem received_eq_nil {calls : List Entry}
    (h : ∀ entry ∈ calls, ∀ outgoing, entry.call ≠ .exchange outgoing) : received calls = [] := by
  refine List.flatMap_eq_nil_iff.mpr fun entry mem ↦ ?_
  unfold Entry.received
  split
  · rename_i outgoing call
    exact absurd call (h entry mem outgoing)
  · rfl

/-- Calls other than writes put nothing on the bus. -/
theorem written_eq_nil {calls : List Entry}
    (h : ∀ entry ∈ calls, ∀ bytes, entry.call ≠ .write bytes) : written calls = [] := by
  refine List.flatMap_eq_nil_iff.mpr fun entry mem ↦ ?_
  unfold Call.written
  split
  · rename_i bytes call
    exact absurd call (h entry mem bytes)
  · rfl

theorem written_of_map {calls : List Entry} {script : List Call}
    (h : calls.map Entry.call = script) : written calls = script.flatMap Call.written := by
  rw [← h, written, List.flatMap_map]

variable {σ : Type} [Board σ]

/-- What the history keeps of a call. -/
def entryOf (request : Call) (bus : Bus σ) : Entry :=
  ⟨request, (Board.respond request bus.board).1, bus.latch.armed, bus.interruptEnabled⟩

/-- The engine after a call. -/
def called (request : Call) (bus : Bus σ) : Bus σ :=
  bus.absorb request (Board.respond request bus.board).1 (Board.respond request bus.board).2

theorem fails_entryOf {request : Call} (visible : request.part?.isSome = true) (bus : Bus σ) :
    (bus.entryOf request).fails = (bus.entryOf request).reply.failed := by
  simp only [Entry.fails, entryOf, visible, Bool.true_and]

section Rules

variable {β : Type} {bus : Bus σ} {post : Except Failure β → Bus σ → Prop} {request : Call}

@[simp] theorem ensures_call_bind {next : Reply → BusM σ β} :
    Ensures (call request >>= next) bus post ↔
      Ensures (next (bus.entryOf request).reply) (bus.called request) post := Iff.rfl

@[simp] theorem ensures_discard_call_bind {next : Unit → BusM σ β} :
    Ensures (discard (call request) >>= next) bus post ↔
      Ensures (next ()) (bus.called request) post := Iff.rfl

omit [Board σ] in
theorem ensures_check {reply : Reply} {post : Except Failure Unit → Bus σ → Prop} :
    Ensures (check request reply) bus post ↔
      if reply.failed then post (.error (.hardware request)) bus else post (.ok ()) bus := by
  unfold check
  split <;> rfl

omit [Board σ] in
theorem ensures_check_bind {reply : Reply} {next : Unit → BusM σ β} :
    Ensures (check request reply >>= next) bus post ↔
      if reply.failed then post (.error (.hardware request)) bus
      else Ensures (next ()) bus post := by
  unfold check
  split <;> rfl

end Rules

/-- The replies to some calls are those of the board. -/
def Answered : σ → List Entry → σ → Prop
  | board, [], last => last = board
  | board, entry :: rest, last =>
    (Board.respond entry.call board).1 = entry.reply ∧
      Answered (Board.respond entry.call board).2 rest last

theorem Answered.append {first middle last : σ} {before later : List Entry}
    (h : Answered first before middle) (k : Answered middle later last) :
    Answered first (before ++ later) last := by
  induction before generalizing first with
  | nil => exact h ▸ k
  | cons entry rest ih => exact ⟨h.1, ih h.2⟩

/-- From one state to another by calls alone. -/
structure Steady (before : Bus σ) (calls : List Entry) (after : Bus σ) : Prop where
  config : after.config = before.config
  phase : after.phase = before.phase
  staged : after.staged = before.staged
  interruptEnabled : after.interruptEnabled = before.interruptEnabled
  dispatching : after.dispatching = before.dispatching
  poisoned : after.poisoned = before.poisoned
  attached : after.attached = before.attached
  armed : after.latch.armed = before.latch.armed
  /-- An edge is new only if the latch was armed when a call raised it. -/
  pending : after.latch.pending = true → before.latch.pending = true ∨
    before.latch.armed = true ∧ ∃ entry ∈ calls, entry.reply.edge = true
  transmit : after.transmit.bytes = before.transmit.bytes
  receive : after.receive.bytes = before.receive.bytes
  transmitGuard : after.transmit.guardByte =
    calls.foldl Entry.transmitGuard before.transmit.guardByte
  receiveGuard : after.receive.guardByte = calls.foldl Entry.receiveGuard before.receive.guardByte
  history : after.history = calls.reverse ++ before.history
  marks : ∀ entry ∈ calls, entry.armed = before.latch.armed ∧
    entry.enabled = before.interruptEnabled
  answered : Answered before.board calls after.board

namespace Steady

variable {before middle after : Bus σ} {calls later : List Entry}

theorem refl (bus : Bus σ) : Steady bus [] bus where
  config := rfl
  phase := rfl
  staged := rfl
  interruptEnabled := rfl
  dispatching := rfl
  poisoned := rfl
  attached := rfl
  armed := rfl
  pending := Or.inl
  transmit := rfl
  receive := rfl
  transmitGuard := rfl
  receiveGuard := rfl
  history := rfl
  marks := fun _ h ↦ absurd h List.not_mem_nil
  answered := rfl

theorem trans (h : Steady before calls middle) (k : Steady middle later after) :
    Steady before (calls ++ later) after where
  config := k.config.trans h.config
  phase := k.phase.trans h.phase
  staged := k.staged.trans h.staged
  interruptEnabled := k.interruptEnabled.trans h.interruptEnabled
  dispatching := k.dispatching.trans h.dispatching
  poisoned := k.poisoned.trans h.poisoned
  attached := k.attached.trans h.attached
  armed := k.armed.trans h.armed
  pending := by
    intro pending
    rcases k.pending pending with old | ⟨armed, entry, mem, edge⟩
    · rcases h.pending old with older | ⟨armed, entry, mem, edge⟩
      · exact Or.inl older
      · exact Or.inr ⟨armed, entry, List.mem_append_left _ mem, edge⟩
    · exact Or.inr ⟨h.armed ▸ armed, entry, List.mem_append_right _ mem, edge⟩
  transmit := k.transmit.trans h.transmit
  receive := k.receive.trans h.receive
  transmitGuard := by rw [k.transmitGuard, h.transmitGuard, List.foldl_append]
  receiveGuard := by rw [k.receiveGuard, h.receiveGuard, List.foldl_append]
  history := by rw [k.history, h.history, List.reverse_append, List.append_assoc]
  marks := by
    intro entry mem
    rcases List.mem_append.mp mem with mem | mem
    · exact h.marks entry mem
    · rw [← h.armed, ← h.interruptEnabled]
      exact k.marks entry mem
  answered := h.answered.append k.answered

/-- One call. -/
theorem call (bus : Bus σ) (request : Call) :
    Steady bus [bus.entryOf request] (bus.called request) where
  config := rfl
  phase := rfl
  staged := rfl
  interruptEnabled := rfl
  dispatching := rfl
  poisoned := rfl
  attached := rfl
  armed := by
    simp only [called, absorb]
    split <;> rfl
  pending := by
    intro pending
    simp only [called, absorb] at pending
    split at pending
    · rename_i edge
      rcases Bool.or_eq_true _ _ ▸ pending with old | armed
      · exact Or.inl old
      · exact Or.inr ⟨armed, _, List.mem_singleton_self _, edge⟩
    · exact Or.inl pending
  transmit := by
    simp only [called, absorb]
    cases (Board.respond request bus.board).1.transmitGuard <;> rfl
  receive := by
    simp only [called, absorb]
    cases (Board.respond request bus.board).1.receiveGuard <;> rfl
  transmitGuard := by
    simp only [called, absorb, List.foldl_cons, List.foldl_nil, Entry.transmitGuard, entryOf]
    cases (Board.respond request bus.board).1.transmitGuard <;> rfl
  receiveGuard := by
    simp only [called, absorb, List.foldl_cons, List.foldl_nil, Entry.receiveGuard, entryOf]
    cases (Board.respond request bus.board).1.receiveGuard <;> rfl
  history := rfl
  marks := by
    intro entry mem
    rw [List.mem_singleton.mp mem]
    exact ⟨rfl, rfl⟩
  answered := ⟨rfl, rfl⟩

/-! A field that the calls leave alone can be set before them as well as after. -/

theorem inPhase (h : Steady before calls after) (phase : Phase) :
    Steady (before.inPhase phase) calls (after.inPhase phase) :=
  { h with phase := rfl }

theorem serving (h : Steady before calls after) (dispatching : Bool) :
    Steady (before.serving dispatching) calls (after.serving dispatching) :=
  { h with dispatching := rfl }

theorem storing (h : Steady before calls after) (start : Nat) (bytes : List UInt8) :
    Steady (before.storing start bytes) calls (after.storing start bytes) :=
  { h with receive := by simp only [Bus.storing, GuardedBuffer.put, h.receive] }

/-- Edges that were taken before the calls are gone after them too. -/
theorem of_edgeTaken (h : Steady before.edgeTaken calls after) : Steady before calls after :=
  { h with pending := fun pending ↦ (h.pending pending).elim (fun old ↦ by cases old) Or.inr }

end Steady

end SpiWifi.Bus
