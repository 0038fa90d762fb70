import SpiWifi.Bus.Session

/-!
What an operation of the engine leaves behind. `Ensures op bus post` says that
`post` holds of the result of `op` on `bus` and of the state that it leaves, also
when `op` fails. Each primitive has one rule here, and `Ensures.bind` chains them
along a `do` block.
-/

set_option autoImplicit false
set_option relaxedAutoImplicit false

namespace SpiWifi.Bus

variable {σ α β : Type} {bus : Bus σ}

def Ensures (op : BusM σ α) (bus : Bus σ) (post : Except Failure α → Bus σ → Prop) : Prop :=
  post (op bus).1 (op bus).2

theorem Ensures.mono {op : BusM σ α} {mid post : Except Failure α → Bus σ → Prop}
    (h : Ensures op bus mid) (weaken : ∀ result after, mid result after → post result after) :
    Ensures op bus post := weaken _ _ h

theorem bind_apply (op : BusM σ α) (next : α → BusM σ β) (bus : Bus σ) :
    (op >>= next) bus =
      match op bus with
      | (.ok value, after) => next value after
      | (.error failure, after) => (.error failure, after) := by
  simp only [bind, ExceptT.bind, ExceptT.mk, StateT.bind, ExceptT.bindCont]
  rcases op bus with ⟨_ | _, after⟩ <;> rfl

theorem get_apply (next : Bus σ → BusM σ β) (bus : Bus σ) :
    (get >>= next : BusM σ β) bus = next bus bus := rfl

/-- A failure of the first operation is the failure of the whole. -/
theorem Ensures.bind {op : BusM σ α} {next : α → BusM σ β}
    {mid : Except Failure α → Bus σ → Prop} {post : Except Failure β → Bus σ → Prop}
    (h : Ensures op bus mid)
    (ok : ∀ value after, mid (.ok value) after → Ensures (next value) after post)
    (error : ∀ failure after, mid (.error failure) after → post (.error failure) after) :
    Ensures (op >>= next) bus post := by
  unfold Ensures at *
  rw [bind_apply]
  rcases hop : op bus with ⟨failure | value, after⟩ <;> rw [hop] at h
  · exact error failure after h
  · exact ok value after h

/-- An operation that cannot fail goes on to what follows. -/
theorem Ensures.bind_ok {op : BusM σ α} {next : α → BusM σ β} {value : α} {mid : Bus σ → Prop}
    {post : Except Failure β → Bus σ → Prop}
    (h : Ensures op bus fun result after ↦ result = .ok value ∧ mid after)
    (rest : ∀ after, mid after → Ensures (next value) after post) :
    Ensures (op >>= next) bus post := by
  apply h.bind
  · rintro _ after ⟨ok, reached⟩
    cases ok
    exact rest after reached
  · rintro _ _ ⟨error, -⟩
    cases error

theorem observing_apply (op : BusM σ α) (bus : Bus σ) :
    observing op bus = (.ok (op bus).1, (op bus).2) := by
  change (ExceptT.tryCatch (op >>= fun value ↦ pure (Except.ok value))
    (fun failure ↦ pure (Except.error failure))) bus = _
  simp only [ExceptT.tryCatch, ExceptT.mk, bind, StateT.bind, ExceptT.bind, ExceptT.bindCont]
  rcases op bus with ⟨_ | _, after⟩ <;> rfl

/-- An observed operation never fails: its result goes to what follows. -/
theorem Ensures.observe {op : BusM σ α} {next : Except Failure α → BusM σ β}
    {mid : Except Failure α → Bus σ → Prop} {post : Except Failure β → Bus σ → Prop}
    (h : Ensures op bus mid)
    (rest : ∀ result after, mid result after → Ensures (next result) after post) :
    Ensures (observing op >>= next) bus post := by
  have run := rest _ _ h
  unfold Ensures at *
  rwa [bind_apply, observing_apply]

theorem ensures_discard {op : BusM σ α} {post : Except Failure Unit → Bus σ → Prop} :
    Ensures (discard op) bus post ↔
      Ensures op bus fun result after ↦ post (result.map fun _ ↦ ()) after := by
  unfold Ensures
  simp only [discard, Functor.mapConst, Function.comp, ExceptT.map, ExceptT.mk, bind, StateT.bind]
  rcases op bus with ⟨_ | _, after⟩ <;> rfl

section Primitives

variable {post : Except Failure β → Bus σ → Prop}

@[simp] theorem ensures_pure {value : β} :
    Ensures (pure value) bus post ↔ post (.ok value) bus := Iff.rfl

@[simp] theorem ensures_pure_bind {value : α} {next : α → BusM σ β} :
    Ensures (pure value >>= next) bus post ↔ Ensures (next value) bus post := Iff.rfl

@[simp] theorem ensures_throw {failure : Failure} :
    Ensures (throw failure) bus post ↔ post (.error failure) bus := Iff.rfl

@[simp] theorem ensures_throw_bind {failure : Failure} {next : α → BusM σ β} :
    Ensures (throw failure >>= next) bus post ↔ post (.error failure) bus := Iff.rfl

@[simp] theorem ensures_get_bind {next : Bus σ → BusM σ β} :
    Ensures (get >>= next) bus post ↔ Ensures (next bus) bus post := Iff.rfl

end Primitives

/-! ### The moves of the engine

What the primitives do to the state, under names that the statements about whole
operations use. -/

def inPhase (bus : Bus σ) (phase : Phase) : Bus σ := { bus with phase }

/-- The engine with its interrupt enabled. -/
def listening (bus : Bus σ) : Bus σ :=
  { bus with interruptEnabled := true, latch := bus.latch.arm }

/-- The engine with its interrupt disabled. -/
def deaf (bus : Bus σ) : Bus σ :=
  { bus with interruptEnabled := false, latch := bus.latch.disarm }

/-- The engine after the pending edge, if there is one, was taken. -/
def edgeTaken (bus : Bus σ) : Bus σ := { bus with latch := bus.latch.take.2 }

def serving (bus : Bus σ) (dispatching : Bool) : Bus σ := { bus with dispatching }

/-- The engine with some bytes written into its receive buffer. -/
def storing (bus : Bus σ) (start : Nat) (bytes : List UInt8) : Bus σ :=
  { bus with receive := bus.receive.put start bytes }

/-- The engine after an overrun was found. -/
def halted (bus : Bus σ) : Bus σ := { bus with poisoned := true, phase := .idle }.deaf

section Moves

variable {post : Except Failure β → Bus σ → Prop} {next : Unit → BusM σ β}

@[simp] theorem ensures_enterPhase_bind {phase : Phase} :
    Ensures (enterPhase phase >>= next) bus post ↔ Ensures (next ()) (bus.inPhase phase) post :=
  Iff.rfl

@[simp] theorem ensures_enterPhase {phase : Phase} {post : Except Failure Unit → Bus σ → Prop} :
    Ensures (enterPhase phase) bus post ↔ post (.ok ()) (bus.inPhase phase) := Iff.rfl

@[simp] theorem ensures_enableInterrupt_bind :
    Ensures (enableInterrupt >>= next) bus post ↔ Ensures (next ()) bus.listening post := Iff.rfl

@[simp] theorem ensures_enableInterrupt {post : Except Failure Unit → Bus σ → Prop} :
    Ensures enableInterrupt bus post ↔ post (.ok ()) bus.listening := Iff.rfl

@[simp] theorem ensures_disableInterrupt_bind :
    Ensures (disableInterrupt >>= next) bus post ↔ Ensures (next ()) bus.deaf post := Iff.rfl

@[simp] theorem ensures_takeEdge_bind {next : Bool → BusM σ β} :
    Ensures (takeEdge >>= next) bus post ↔
      Ensures (next bus.latch.pending) bus.edgeTaken post := Iff.rfl

@[simp] theorem ensures_serving_bind {dispatching : Bool} :
    Ensures (modify ({ · with dispatching }) >>= next) bus post ↔
      Ensures (next ()) (bus.serving dispatching) post := Iff.rfl

@[simp] theorem ensures_storing_bind {start : Nat} {bytes : List UInt8} :
    Ensures (modify (fun bus ↦ { bus with receive := bus.receive.put start bytes }) >>= next)
      bus post ↔ Ensures (next ()) (bus.storing start bytes) post := Iff.rfl

@[simp] theorem ensures_halt_bind {next : α → BusM σ β} :
    Ensures (halt >>= next) bus post ↔ post (.error .overrun) bus.halted := Iff.rfl

end Moves

end SpiWifi.Bus
