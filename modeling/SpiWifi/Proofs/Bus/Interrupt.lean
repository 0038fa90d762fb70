import SpiWifi.Proofs.Bus.Resting

/-!
The interrupt and its latch. The two are switched together, so in every state the latch
is armed exactly while the interrupt is enabled. Within a session the interrupt is off
only after an overrun: each operation that disables it on the way enables it again,
whatever fails in between.
-/

set_option autoImplicit false
set_option relaxedAutoImplicit false

namespace SpiWifi.Bus

variable {σ : Type} {bus : Bus σ}

/-- The latch is switched with the interrupt, and holds an edge only while it is armed. -/
structure Latched (bus : Bus σ) : Prop where
  armed : bus.interruptEnabled = bus.latch.armed
  pending : bus.latch.pending = true → bus.latch.armed = true

/-- The engine takes part in its session. -/
structure Listens (bus : Bus σ) : Prop where
  enabled : bus.interruptEnabled = true
  sound : bus.poisoned = false

/-- The engine has stopped for good. -/
structure Halted (bus : Bus σ) : Prop where
  disabled : bus.interruptEnabled = false
  poisoned : bus.poisoned = true
  idle : bus.phase = .idle

/-- The engine listens until an overrun stops it. -/
def Attentive (bus : Bus σ) : Prop := bus.Listens ∨ bus.Halted

namespace Latched

/-- A latch that holds no edge need only be switched with the interrupt. -/
theorem of_empty (armed : bus.interruptEnabled = bus.latch.armed)
    (empty : bus.latch.pending = false) : bus.Latched where
  armed := armed
  pending := by
    intro pending
    rw [empty] at pending
    cases pending

theorem listening (bus : Bus σ) : bus.listening.Latched := ⟨rfl, fun _ ↦ rfl⟩

theorem halted (bus : Bus σ) : bus.halted.Latched := .of_empty rfl rfl

theorem edgeTaken (h : bus.Latched) : bus.edgeTaken.Latched := .of_empty h.armed rfl

theorem inPhase (h : bus.Latched) (phase : Phase) : (bus.inPhase phase).Latched :=
  ⟨h.armed, h.pending⟩

theorem landed (h : bus.Latched) (frame : List UInt8) : (bus.landed frame).Latched :=
  ⟨h.armed, h.pending⟩

theorem framed (h : bus.Latched) (payload : Nat) : (bus.framed payload).Latched :=
  ⟨h.armed, h.pending⟩

theorem loaded (h : bus.Latched) (start : Nat) (bytes : List UInt8) :
    (bus.loaded start bytes).Latched := ⟨h.armed, h.pending⟩

theorem signal (h : bus.Latched) : bus.signal.Latched where
  armed := h.armed
  pending := by
    intro pending
    rcases Bool.or_eq_true _ _ ▸ pending with old | armed
    · exact h.pending old
    · exact armed

end Latched

theorem latched_create (config : Config) (board : σ) : (create config board).Latched :=
  .of_empty rfl rfl

theorem Halted.of_halted (bus : Bus σ) : bus.halted.Halted := ⟨rfl, rfl, rfl⟩

variable [Board σ] {after : Bus σ} {result : Except Failure Unit}

namespace Steady

variable {calls : List Entry}

theorem latched (step : Steady bus calls after) (h : bus.Latched) : after.Latched where
  armed := by
    rw [step.interruptEnabled, step.armed]
    exact h.armed
  pending := by
    intro pending
    rw [step.armed]
    rcases step.pending pending with old | ⟨armed, -⟩
    · exact h.pending old
    · exact armed

theorem listens (step : Steady bus calls after) (h : bus.Listens) : after.Listens where
  enabled := step.interruptEnabled.trans h.enabled
  sound := step.poisoned.trans h.sound

theorem attentive (step : Steady bus calls after) (h : bus.Attentive) : after.Attentive := by
  rcases h with listens | halted
  · exact Or.inl (step.listens listens)
  · exact Or.inr ⟨step.interruptEnabled.trans halted.disabled, step.poisoned.trans halted.poisoned,
      step.phase.trans halted.idle⟩

end Steady

/-! ### Reading -/

theorem FrameRead.latched (h : FrameRead bus result after) (latched : bus.Latched) :
    after.Latched := by
  cases h with
  | refused _ _ step => exact step.latched (latched.inPhase .idle)
  | broken _ _ _ step => exact step.latched (latched.landed _)
  | oversize _ _ _ _ _ step => exact step.latched (latched.landed _)
  | unreleased _ _ _ _ _ _ => exact .listening _
  | overrun _ _ _ _ _ _ _ => exact .halted _
  | delivered _ _ _ _ _ _ _ _ _ => exact .listening _

/-- Only an overrun leaves the interrupt off. -/
theorem FrameRead.attentive (h : FrameRead bus result after) (listens : bus.Listens) :
    after.Attentive := by
  have landed (frame : List UInt8) : (bus.landed frame).Listens := ⟨listens.enabled, listens.sound⟩
  cases h with
  | refused _ _ step => exact Or.inl ((step.listens ⟨listens.enabled, listens.sound⟩))
  | broken _ _ _ step => exact Or.inl (step.listens (landed _))
  | oversize _ _ _ _ _ step => exact Or.inl (step.listens (landed _))
  | unreleased _ _ step _ _ close =>
    exact Or.inl ⟨rfl, close.poisoned.trans (step.poisoned.trans listens.sound)⟩
  | overrun _ _ _ _ _ _ _ => exact Or.inr (.of_halted _)
  | delivered _ _ step _ _ close _ handed _ =>
    have sound := handed.poisoned.trans (close.poisoned.trans (step.poisoned.trans listens.sound))
    exact Or.inl ⟨rfl, sound⟩

theorem Served.latched (h : Served bus result after) (latched : bus.Latched) : after.Latched := by
  cases h with
  | ready _ => exact latched.inPhase .initialized
  | sent _ step _ => exact step.latched (latched.inPhase .idle)
  | read _ read => exact read.latched latched

theorem Served.attentive (h : Served bus result after) (listens : bus.Listens) :
    after.Attentive := by
  cases h with
  | ready _ => exact Or.inl ⟨listens.enabled, listens.sound⟩
  | sent _ step _ => exact Or.inl (step.listens ⟨listens.enabled, listens.sound⟩)
  | read _ read => exact read.attentive listens

theorem Pumped.latched {result : Except Failure Bool} (h : Pumped bus result after)
    (latched : bus.Latched) : after.Latched := by
  cases h with
  | off _ => exact latched
  | unread _ step _ _ => exact step.latched latched.edgeTaken
  | unasked _ step _ _ => exact step.latched latched.edgeTaken
  | served _ step _ _ served => exact served.latched (step.latched latched.edgeTaken)

theorem Pumped.attentive {result : Except Failure Bool} (h : Pumped bus result after)
    (attentive : bus.Attentive) : after.Attentive := by
  have listens (enabled : bus.interruptEnabled = true) : bus.edgeTaken.Listens := by
    rcases attentive with listens | halted
    · exact ⟨listens.enabled, listens.sound⟩
    · rw [halted.disabled] at enabled
      cases enabled
  cases h with
  | off _ => exact attentive
  | unread enabled step _ _ => exact Or.inl (step.listens (listens enabled))
  | unasked enabled step _ _ => exact Or.inl (step.listens (listens enabled))
  | served enabled step _ _ served => exact served.attentive (step.listens (listens enabled))

/-! ### Writing -/

theorem FirstSent.latched {frame : List UInt8} (h : FirstSent bus frame result after)
    (latched : bus.Latched) : after.Latched := by
  cases h with
  | unselected _ _ step => exact step.latched latched
  | sent _ _ step => exact step.latched (latched.inPhase .idle)

theorem FirstSent.listens {frame : List UInt8} (h : FirstSent bus frame result after)
    (listens : bus.Listens) : after.Listens := by
  cases h with
  | unselected _ _ step => exact step.listens listens
  | sent _ _ step => exact step.listens ⟨listens.enabled, listens.sound⟩

theorem StagedSent.latched {frame : List UInt8} (h : StagedSent bus frame result after) :
    after.Latched := by
  cases h with
  | refused _ _ _ _ => exact .listening _
  | unanswered _ _ _ _ _ step => exact step.latched ((Latched.listening _).inPhase .idle)
  | sent _ _ _ _ step _ close spent =>
    have closed := close.latched ((step.latched (.listening _)).inPhase .idle)
    rcases spent with rfl | rfl
    · exact closed
    · exact closed.edgeTaken

/-- A staged write enables the interrupt again, whatever comes of it. -/
theorem StagedSent.listens {frame : List UInt8} (h : StagedSent bus frame result after)
    (sound : bus.poisoned = false) : after.Listens := by
  cases h with
  | refused _ _ _ step => exact ⟨rfl, step.poisoned.trans sound⟩
  | unanswered _ chosen _ _ _ step => exact step.listens ⟨rfl, chosen.poisoned.trans sound⟩
  | sent _ chosen _ _ step _ close spent =>
    have closed := close.listens ((step.inPhase .idle).listens ⟨rfl, chosen.poisoned.trans sound⟩)
    rcases spent with rfl | rfl
    · exact closed
    · exact ⟨closed.enabled, closed.sound⟩

theorem Written.latched {payload : Nat} (h : Written bus payload result after)
    (latched : bus.Latched) : after.Latched := by
  cases h with
  | poisoned _ => exact latched
  | tooLong _ _ => exact latched
  | overrun _ _ _ => exact .halted _
  | unready _ _ _ step => exact step.latched (latched.framed payload)
  | first _ waited sent =>
    exact sent.latched (waited.steady.latched ((latched.framed payload).inPhase .initialized))
  | staged _ _ sent => exact sent.latched

theorem Written.attentive {payload : Nat} (h : Written bus payload result after)
    (attentive : bus.Attentive) : after.Attentive := by
  have listens (sound : bus.poisoned = false) : bus.Listens := by
    rcases attentive with listens | halted
    · exact listens
    · rw [halted.poisoned] at sound
      cases sound
  cases h with
  | poisoned _ => exact attentive
  | tooLong _ _ => exact attentive
  | overrun _ _ _ => exact Or.inr (.of_halted _)
  | unready admits _ _ step =>
    have before := listens admits.sound
    exact Or.inl (step.listens ⟨before.enabled, before.sound⟩)
  | first admits waited sent =>
    have before := listens admits.sound
    exact Or.inl (sent.listens (waited.steady.listens ⟨before.enabled, before.sound⟩))
  | staged admits _ sent => exact Or.inl (sent.listens admits.sound)

/-! ### Runs -/

theorem Acted.latched {action : Action σ} {result : Except Failure (Option Bool)}
    (h : Acted bus action result after) (latched : bus.Latched) : after.Latched := by
  cases h with
  | unattached _ _ step => exact step.latched ⟨latched.armed, latched.pending⟩
  | attached _ _ _ => exact .listening _
  | detached => exact .of_empty rfl rfl
  | powered _ step => exact step.latched latched
  | paused _ step => exact step.latched latched
  | sent sent =>
    cases sent with
    | tooLong _ => exact latched
    | written _ written => exact written.latched (latched.loaded 0 _)
  | wrote written => exact written.latched latched
  | pumped pumped => exact pumped.latched latched
  | edited start bytes => exact latched.loaded start bytes
  | signalled => exact latched.signal
  | trampled _ _ => exact ⟨latched.armed, latched.pending⟩
  | drifted _ => exact ⟨latched.armed, latched.pending⟩

/-- Actions that neither start nor end a session. -/
def Action.withinSession : Action σ → Bool
  | .attach | .detach => false
  | _ => true

theorem Acted.attentive {action : Action σ} {result : Except Failure (Option Bool)}
    (h : Acted bus action result after) (within : action.withinSession = true)
    (attentive : bus.Attentive) : after.Attentive := by
  have alike {other : Bus σ} (enabled : other.interruptEnabled = bus.interruptEnabled)
      (poisoned : other.poisoned = bus.poisoned) (phase : other.phase = bus.phase) :
      other.Attentive := by
    rcases attentive with listens | halted
    · exact Or.inl ⟨enabled.trans listens.enabled, poisoned.trans listens.sound⟩
    · exact Or.inr ⟨enabled.trans halted.disabled, poisoned.trans halted.poisoned,
        phase.trans halted.idle⟩
  cases h with
  | unattached _ _ _ => cases within
  | attached _ _ _ => cases within
  | detached => cases within
  | powered _ step => exact step.attentive attentive
  | paused _ step => exact step.attentive attentive
  | sent sent =>
    cases sent with
    | tooLong _ => exact attentive
    | written _ written => exact written.attentive (alike rfl rfl rfl)
  | wrote written => exact written.attentive attentive
  | pumped pumped => exact pumped.attentive attentive
  | edited start bytes => exact alike rfl rfl rfl
  | signalled => exact alike rfl rfl rfl
  | trampled _ _ => exact alike rfl rfl rfl
  | drifted _ => exact alike rfl rfl rfl

theorem run_latched {actions : List (Action σ)} (resting : bus.Resting) (latched : bus.Latched) :
    (run bus actions).Latched :=
  (run_keeps resting latched fun _ _ _ _ _ _ before acted ↦ acted.latched before).2

/-- A session that was started keeps listening. -/
theorem run_attentive {session : List (Action σ)} (resting : bus.Resting)
    (attached : (attach bus).1 = .ok ())
    (within : ∀ action ∈ session, action.withinSession = true) :
    (run (attach bus).2 session).Attentive := by
  have acted : Acted bus .attach ((attach bus).1.map fun _ ↦ none) (attach bus).2 :=
    attach_ensures bus
  refine (run_keeps (acted.resting resting) ?_ fun _ action _ _ mem _ before acted ↦
    acted.attentive (within action mem) before).2
  rw [attached] at acted
  generalize (attach bus).2 = started at acted ⊢
  cases acted with
  | attached _ _ step => exact Or.inl ⟨rfl, step.poisoned⟩

/-- The engine is never left deaf. In every state that can be reached the latch is armed
exactly while the interrupt is enabled, it holds an edge only while it is armed, and every
packet was handed over with both switched off. From a successful `attach` until the session
ends, whatever is done and whatever fails, the interrupt is enabled unless an overrun has
stopped the engine, which is then idle with its interrupt off. -/
theorem run_neverDeaf (config : Config) (board : σ) (actions : List (Action σ)) :
    let bus := run (create config board) actions
    bus.interruptEnabled = bus.latch.armed ∧
      (bus.latch.pending = true → bus.latch.armed = true) ∧
      (∀ entry ∈ bus.history, ∀ packet, entry.call = .deliver packet →
        entry.enabled = false ∧ entry.armed = false) ∧
      ∀ session : List (Action σ), (attach bus).1 = .ok () →
        (∀ action ∈ session, action.withinSession = true) →
        let later := run (attach bus).2 session
        (later.poisoned = false → later.interruptEnabled = true) ∧
          (later.poisoned = true → later.interruptEnabled = false ∧ later.phase = .idle) := by
  intro bus
  have created := resting_create config board
  have resting : bus.Resting := run_resting config board actions
  have latched : bus.Latched := run_latched created (latched_create config board)
  have tidy : Tidy bus.history.reverse := tidy_run config board actions
  refine ⟨latched.armed, latched.pending, ?_, ?_⟩
  · intro entry mem packet deliver
    exact (tidy.discreet entry (List.mem_reverse.mpr mem) packet deliver).symm
  · intro session attached within later
    rcases run_attentive resting attached within with listens | halted
    · refine ⟨fun _ ↦ listens.enabled, fun poisoned ↦ ?_⟩
      rw [listens.sound] at poisoned
      cases poisoned
    · refine ⟨fun sound ↦ ?_, fun _ ↦ ⟨halted.disabled, halted.idle⟩⟩
      rw [halted.poisoned] at sound
      cases sound

theorem run_neverDeaf_flaky :
    (run (attach (create {} flakyBoard)).2 flakySession).interruptEnabled = true :=
  ((run_neverDeaf {} flakyBoard []).2.2.2 flakySession rfl (by decide)).1 (by decide +kernel)

end SpiWifi.Bus
