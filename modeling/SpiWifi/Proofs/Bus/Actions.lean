import SpiWifi.Proofs.Bus.Writing

/-!
Everything that can happen to an engine. Its operations come in any order, the
payload region is edited in place, and between two operations the interrupt vector
may signal an edge, something may run over the guards, and the board may come to any
other state. `Acted` lists what one such action can come to.
-/

set_option autoImplicit false
set_option relaxedAutoImplicit false

namespace SpiWifi.Bus

inductive Action (σ : Type) where
  | attach
  | detach
  | power (on : Bool)
  | pause (millis : UInt32)
  | send (payload : List UInt8)
  | write (payload : Nat)
  | pump
  | edit (start : Nat) (bytes : List UInt8)
  | edge
  | trample (transmit receive : Option UInt8)
  | drift (board : σ)

variable {σ : Type}

/-- The engine at the start of a session. -/
def fresh (bus : Bus σ) : Bus σ :=
  { bus with
    phase := .powerUp
    transmit := .empty bufferCapacity
    receive := .empty bufferCapacity
    staged := 0
    poisoned := false
    dispatching := false
    attached := true }

/-- The engine after its session has ended. -/
def detached (bus : Bus σ) : Bus σ := { bus.deaf with attached := false }

/-- The engine with its guards run over. -/
def trampled (bus : Bus σ) (transmit receive : Option UInt8) : Bus σ :=
  { bus with
    transmit := (transmit.map bus.transmit.overrun).getD bus.transmit
    receive := (receive.map bus.receive.overrun).getD bus.receive }

/-- The engine with its board in another state. -/
def drifted (bus : Bus σ) (board : σ) : Bus σ := { bus with board }

variable [Board σ]

/-- Performs an action. Pumping and detaching have an answer. -/
def Action.perform : Action σ → BusM σ (Option Bool)
  | .attach => (fun _ ↦ none) <$> Bus.attach
  | .detach => some <$> Bus.detach
  | .power on => (fun _ ↦ none) <$> Bus.power on
  | .pause millis => (fun _ ↦ none) <$> Bus.pause millis
  | .send payload => (fun _ ↦ none) <$> Bus.send payload
  | .write payload => (fun _ ↦ none) <$> Bus.write payload
  | .pump => some <$> Bus.pump
  | .edit start bytes => (fun _ ↦ none) <$> putPayload start bytes
  | .edge => (fun _ ↦ none) <$> modify signal
  | .trample transmit receive => (fun _ ↦ none) <$> modify (trampled · transmit receive)
  | .drift board => (fun _ ↦ none) <$> modify (drifted · board)

/-- The engine after an action. -/
def act (bus : Bus σ) (action : Action σ) : Bus σ := (action.perform bus).2

/-- The engine after some actions. -/
def run (bus : Bus σ) (actions : List (Action σ)) : Bus σ := actions.foldl act bus

/-- What an action can come to. -/
inductive Acted (bus : Bus σ) : Action σ → Except Failure (Option Bool) → Bus σ → Prop where
  | unattached {release : Entry} {after : Bus σ} (call : release.call = .release)
      (fails : release.fails = true) (step : Steady bus.fresh [release] after) :
      Acted bus .attach (.error (.hardware .release)) after
  | attached {release : Entry} {after : Bus σ} (call : release.call = .release)
      (sound : release.fails = false) (step : Steady bus.fresh [release] after) :
      Acted bus .attach (.ok none) after.listening
  | detached : Acted bus .detach (.ok (some bus.attached)) bus.detached
  | powered {on : Bool} {calls : List Entry} {result : Except Failure Unit} {after : Bus σ}
      (switches : Follows [if on then .powerOn else .powerOff] calls result)
      (step : Steady bus calls after) : Acted bus (.power on) (result.map fun _ ↦ none) after
  | paused {millis : UInt32} {pause : Entry} {after : Bus σ}
      (call : pause.call = .pauseMillis millis) (step : Steady bus [pause] after) :
      Acted bus (.pause millis) (.ok none) after
  | sent {payload : List UInt8} {result : Except Failure Unit} {after : Bus σ}
      (sent : Sent bus payload result after) :
      Acted bus (.send payload) (result.map fun _ ↦ none) after
  | wrote {payload : Nat} {result : Except Failure Unit} {after : Bus σ}
      (written : Written bus payload result after) :
      Acted bus (.write payload) (result.map fun _ ↦ none) after
  | pumped {result : Except Failure Bool} {after : Bus σ} (pumped : Pumped bus result after) :
      Acted bus .pump (result.map some) after
  | edited (start : Nat) (bytes : List UInt8) :
      Acted bus (.edit start bytes) (.ok none) (bus.loaded start bytes)
  | signalled : Acted bus .edge (.ok none) bus.signal
  | trampled (transmit receive : Option UInt8) :
      Acted bus (.trample transmit receive) (.ok none) (bus.trampled transmit receive)
  | drifted (board : σ) : Acted bus (.drift board) (.ok none) (bus.drifted board)

variable {bus : Bus σ}

omit [Board σ] in
theorem map_apply {α β : Type} (f : α → β) (op : BusM σ α) (bus : Bus σ) :
    (f <$> op) bus = ((op bus).1.map f, (op bus).2) := by
  simp only [Functor.map, ExceptT.map, ExceptT.mk, bind, StateT.bind]
  rcases op bus with ⟨_ | _, after⟩ <;> rfl

omit [Board σ] in
theorem ensures_map {α β : Type} {f : α → β} {op : BusM σ α}
    {post : Except Failure β → Bus σ → Prop} :
    Ensures (f <$> op) bus post ↔ Ensures op bus fun result after ↦ post (result.map f) after := by
  unfold Ensures
  rw [map_apply]

theorem attach_ensures (bus : Bus σ) :
    Ensures attach bus fun result after ↦ Acted bus .attach (result.map fun _ ↦ none) after := by
  have released : Ensures (discard (demand .release)) bus.fresh fun result after ↦
      ∃ calls, Steady bus.fresh calls after ∧ Follows [.release] calls result :=
    performs_demand rfl bus.fresh
  show Ensures (discard (demand .release) >>= fun _ ↦ enableInterrupt) bus.fresh
    fun result after ↦ Acted bus .attach (result.map fun _ ↦ none) after
  apply released.bind
  · rintro _ after ⟨calls, step, follows⟩
    cases follows with
    | next call sound tail =>
      cases tail
      exact .attached call sound step
  · rintro failure after ⟨calls, step, follows⟩
    cases follows with
    | stopped call fails => exact .unattached call fails step
    | next _ _ tail => cases tail

theorem perform_ensures (resting : bus.Resting) (action : Action σ) :
    Ensures action.perform bus (Acted bus action) := by
  cases action with
  | attach => exact ensures_map.mpr (attach_ensures bus)
  | detach => exact .detached
  | power on =>
    refine ensures_map.mpr (Ensures.mono (performs_demand ?_ bus) ?_)
    · cases on <;> rfl
    · rintro result after ⟨calls, step, switches⟩
      exact .powered switches step
  | pause millis => exact .paused rfl (.call bus _)
  | send payload => exact ensures_map.mpr ((send_ensures resting payload).mono fun _ _ ↦ .sent)
  | write payload => exact ensures_map.mpr ((write_ensures resting payload).mono fun _ _ ↦ .wrote)
  | pump =>
    exact ensures_map.mpr
      ((pump_ensures resting.dispatching resting.staged).mono fun _ _ ↦ .pumped)
  | edit start bytes => exact .edited start bytes
  | edge => exact .signalled
  | trample transmit receive => exact .trampled transmit receive
  | drift board => exact .drifted board

end SpiWifi.Bus
