import SpiWifi.Proofs.Bus.Overrun

/-!
How the engine learns that the chip is ready. It waits at the start of a session until
something rouses it: an edge that comes while the latch is armed, or a line that is found
low. Until then no byte crosses the bus. All this is so unless the latch holds an edge when
the session starts. Starting a session does not empty the latch, and such an edge passes for
a sign of the chip.
-/

set_option autoImplicit false
set_option relaxedAutoImplicit false

namespace SpiWifi.Bus

/-! ### What happens in a session -/

/-- Whether the call may have told the engine that the chip asks. -/
def Entry.Rouses (entry : Entry) : Prop :=
  entry.armed = true ∧ entry.reply.edge = true ∨ Samples entry ∧ entry.reply.low = true

instance (entry : Entry) : Decidable entry.Rouses :=
  inferInstanceAs (Decidable (_ ∧ _ ∨ (_ ∧ _) ∧ _))

/-- Whether a call moves bytes over the bus. -/
def Call.crosses : Call → Bool
  | .write _ | .exchange _ => true
  | _ => false

/-- What a session consists of: calls, and edges between two actions. -/
inductive Moment where
  | call (entry : Entry)
  /-- An edge, and whether the latch was armed. -/
  | edge (armed : Bool)

namespace Moment

def Rouses : Moment → Prop
  | .call entry => entry.Rouses
  | .edge armed => armed = true

instance : DecidablePred Rouses
  | .call entry => inferInstanceAs (Decidable entry.Rouses)
  | .edge armed => inferInstanceAs (Decidable (armed = true))

def crosses : Moment → Bool
  | .call entry => entry.call.crosses
  | .edge _ => false

end Moment

/-- Some moment has roused the engine. -/
def Roused (moments : List Moment) : Prop := ∃ moment ∈ moments, moment.Rouses

instance (moments : List Moment) : Decidable (Roused moments) :=
  inferInstanceAs (Decidable (∃ moment ∈ moments, moment.Rouses))

@[simp] theorem not_roused_nil : ¬ Roused [] := fun ⟨_, mem, _⟩ ↦ List.not_mem_nil mem

@[simp] theorem roused_cons {moment : Moment} {rest : List Moment} :
    Roused (moment :: rest) ↔ moment.Rouses ∨ Roused rest := by
  simp only [Roused, List.mem_cons, exists_eq_or_imp]

@[simp] theorem roused_append {first second : List Moment} :
    Roused (first ++ second) ↔ Roused first ∨ Roused second := by
  induction first with
  | nil => simp only [List.nil_append, not_roused_nil, false_or]
  | cons moment rest ih => simp only [List.cons_append, roused_cons, ih, or_assoc]

/-- No byte crosses the bus before the engine has been roused; `roused` tells whether it had
been before the first of these moments. -/
def Heralded : Prop → List Moment → Prop
  | _, [] => True
  | roused, moment :: rest =>
    (moment.crosses = true → roused) ∧ Heralded (roused ∨ moment.Rouses) rest

namespace Heralded

variable {roused : Prop} {moments later : List Moment}

theorem of_roused (h : roused) : Heralded roused moments := by
  induction moments generalizing roused with
  | nil => trivial
  | cons moment rest ih => exact ⟨fun _ ↦ h, ih (Or.inl h)⟩

theorem of_uncrossed (h : ∀ moment ∈ moments, moment.crosses = false) :
    Heralded roused moments := by
  induction moments generalizing roused with
  | nil => trivial
  | cons moment rest ih =>
    obtain ⟨first, others⟩ := List.forall_mem_cons.mp h
    refine ⟨fun crosses ↦ ?_, ih others⟩
    rw [first] at crosses
    cases crosses

theorem mono {already : Prop} (h : Heralded roused moments) (weaker : roused → already) :
    Heralded already moments := by
  induction moments generalizing roused already with
  | nil => trivial
  | cons moment rest ih => exact ⟨weaker ∘ h.1, ih h.2 (Or.imp_left weaker)⟩

theorem append (h : Heralded roused moments) (k : Heralded (roused ∨ Roused moments) later) :
    Heralded roused (moments ++ later) := by
  induction moments generalizing roused with
  | nil => rwa [eq_false not_roused_nil, or_false] at k
  | cons moment rest ih =>
    refine ⟨h.1, ih h.2 ?_⟩
    rwa [or_assoc, ← roused_cons]

end Heralded

variable {σ : Type}

/-- The calls that lead from one state to a later one. -/
def callsTo (before after : Bus σ) : List Entry :=
  (after.history.take (after.history.length - before.history.length)).reverse

theorem Made.callsTo {before after : Bus σ} {calls : List Entry} (made : Made before calls after) :
    before.callsTo after = calls := by
  unfold Made at made
  rw [Bus.callsTo, made, List.length_append, Nat.add_sub_cancel, List.take_left' rfl,
    List.reverse_reverse]

variable [Board σ]

/-- What happens in one action. -/
def momentsOf (bus : Bus σ) : Action σ → List Moment
  | .edge => [.edge bus.latch.armed]
  | action => (bus.callsTo (bus.act action)).map .call

/-- What happens in some actions. -/
def moments (bus : Bus σ) : List (Action σ) → List Moment
  | [] => []
  | action :: rest => bus.momentsOf action ++ moments (bus.act action) rest

/-! ### Until something happens -/

/-- The engine holds no edge, and waits for the chip or has stopped. -/
structure Dormant (bus : Bus σ) : Prop where
  unasked : bus.latch.pending = false
  waits : bus.phase = .powerUp ∨ bus.poisoned = true

/-- What came of a dormant engine: no byte has crossed the bus before something roused it,
and if nothing has it is dormant still. -/
structure Slept (moments : List Moment) (after : Bus σ) : Prop where
  heralded : Heralded False moments
  dormant : Roused moments ∨ Dormant after

variable {bus after : Bus σ}

/-- Calls that move no bytes. -/
def Uncrossed (calls : List Entry) : Prop := ∀ entry ∈ calls, entry.call.crosses = false

namespace Slept

omit [Board σ] in
theorem nil (dormant : Dormant after) : Slept [] after := ⟨trivial, Or.inr dormant⟩

omit [Board σ] in
/-- Once the engine has been roused, whatever follows is of no account. -/
theorem of_roused {moments : List Moment} (heralded : Heralded False moments)
    (roused : Roused moments) (later : List Moment) : Slept (moments ++ later) after where
  heralded := heralded.append (.of_roused (Or.inr roused))
  dormant := Or.inl (roused_append.mpr (Or.inl roused))

omit [Board σ] in
theorem append {middle : Bus σ} {moments later : List Moment} (h : Slept moments middle)
    (k : Dormant middle → Slept later after) : Slept (moments ++ later) after := by
  rcases h.dormant with roused | dormant
  · exact .of_roused h.heralded roused later
  · obtain ⟨heralded, sleeps⟩ := k dormant
    refine ⟨h.heralded.append (heralded.mono False.elim), sleeps.imp_left fun roused ↦ ?_⟩
    exact roused_append.mpr (Or.inr roused)

end Slept

omit [Board σ] in
theorem roused_calls {calls : List Entry} (h : ∃ entry ∈ calls, entry.Rouses) :
    Roused (calls.map .call) := by
  obtain ⟨entry, mem, rouses⟩ := h
  exact ⟨.call entry, List.mem_map_of_mem mem, rouses⟩

omit [Board σ] in
theorem Uncrossed.heralded {calls : List Entry} (h : Uncrossed calls) (roused : Prop) :
    Heralded roused (calls.map .call) :=
  .of_uncrossed (List.forall_mem_map.mpr h)

/-- An edge that is pending only now came during the calls. -/
theorem Steady.rouses {calls : List Entry} (step : Steady bus calls after)
    (unasked : bus.latch.pending = false) (pending : after.latch.pending = true) :
    ∃ entry ∈ calls, entry.Rouses := by
  rcases step.pending pending with old | ⟨armed, entry, mem, edge⟩
  · rw [unasked] at old
    cases old
  · exact ⟨entry, mem, Or.inl ⟨(step.marks entry mem).1.trans armed, edge⟩⟩

theorem Steady.slept {calls : List Entry} (step : Steady bus calls after) (dormant : Dormant bus)
    (uncrossed : Uncrossed calls) : Slept (calls.map .call) after where
  heralded := uncrossed.heralded False
  dormant := by
    by_cases pending : after.latch.pending = true
    · exact Or.inl (roused_calls (step.rouses dormant.unasked pending))
    · rw [Bool.not_eq_true] at pending
      refine Or.inr ⟨pending, ?_⟩
      rw [step.phase, step.poisoned]
      exact dormant.waits

theorem Waits.uncrossed {calls : List Entry} (h : Waits calls) : Uncrossed calls :=
  h.all (P := fun call ↦ call.crosses = false) rfl fun _ ↦ rfl

theorem GaveUp.uncrossed {calls : List Entry} {failure : Failure} (h : GaveUp calls failure) :
    Uncrossed calls := h.all (P := fun call ↦ call.crosses = false) rfl fun _ ↦ rfl

theorem Uncrossed.single {entry : Entry} {call : Call} (is : entry.call = call)
    (none : call.crosses = false) : Uncrossed [entry] :=
  List.forall_mem_singleton.mpr (is ▸ none)

theorem Asked.rouses {calls : List Entry} (h : Asked false calls) :
    ∃ entry ∈ calls, entry.Rouses := by
  rcases h with impossible | ⟨entry, mem, edge⟩ | ⟨entry, mem, low⟩
  · cases impossible
  · exact ⟨entry, mem, Or.inl edge⟩
  · exact ⟨entry, mem, Or.inr low⟩

theorem Pumped.slept {result : Except Failure Bool} (h : Pumped bus result after)
    (dormant : Dormant bus) (stopped : bus.poisoned = true → bus.Halted) :
    ∃ calls, Made bus calls after ∧ Slept (calls.map .call) after := by
  have powerUp (enabled : bus.interruptEnabled = true) : bus.phase = .powerUp := by
    rcases dormant.waits with phase | poisoned
    · exact phase
    · rw [(stopped poisoned).disabled] at enabled
      cases enabled
  have looks {sample : Entry} (call : sample.call = .sampleLine) : Uncrossed [sample] :=
    .single call rfl
  cases h with
  | off _ => exact ⟨[], rfl, .nil dormant⟩
  | unread _ step call _ =>
    exact ⟨_, step.history, step.of_edgeTaken.slept dormant (looks call)⟩
  | unasked _ step samples _ =>
    exact ⟨_, step.history, step.of_edgeTaken.slept dormant (looks samples.1)⟩
  | @served sample asked _ _ enabled step samples wakes served =>
    have phase := powerUp enabled
    rw [phase, dormant.unasked] at wakes
    have before : asked.phase = .powerUp := step.phase.trans phase
    cases served with
    | ready _ =>
      refine ⟨_, step.history, (looks samples.1).heralded False, Or.inl (roused_calls ?_)⟩
      exact ⟨sample, List.mem_singleton_self _, Or.inr ⟨samples, wakes⟩⟩
    | sent other _ _ => rw [before] at other; cases other
    | read other _ => rw [before] at other; cases other

theorem Written.slept {payload : Nat} {result : Except Failure Unit}
    (h : Written bus payload result after) (dormant : Dormant bus) :
    ∃ calls, Made bus calls after ∧ Slept (calls.map .call) after := by
  have framed : Dormant (bus.framed payload) := ⟨dormant.unasked, dormant.waits⟩
  have powerUp (admits : bus.Admits payload) : bus.phase = .powerUp := by
    rcases dormant.waits with phase | poisoned
    · exact phase
    · rw [admits.sound] at poisoned
      cases poisoned
  cases h with
  | poisoned _ => exact ⟨[], rfl, .nil dormant⟩
  | tooLong _ _ => exact ⟨[], rfl, .nil dormant⟩
  | overrun _ _ _ => exact ⟨[], rfl, .nil ⟨rfl, Or.inr rfl⟩⟩
  | unready _ _ waits step => exact ⟨_, step.history, step.slept framed waits.uncrossed⟩
  | @first calls _ ready _ admits waited sent =>
    obtain ⟨later, converses⟩ := sent.converses
    have all := waited.steady.converses.trans converses
    refine ⟨_, all.history, ?_⟩
    cases waited with
    | already phase =>
      have before : (bus.framed payload).phase = .powerUp := powerUp admits
      rw [before] at phase
      cases phase
    | waited _ _ _ waits evidence =>
      have quiet : (bus.framed payload).latch.pending = false := dormant.unasked
      rw [quiet] at evidence
      rw [List.map_append]
      exact .of_roused (waits.uncrossed.heralded False) (roused_calls evidence.rouses) _
  | staged admits phase _ =>
    rw [powerUp admits] at phase
    cases phase

/-- A session that starts with the latch empty finds the engine dormant, wherever it stood. -/
theorem Acted.slept_attach {result : Except Failure (Option Bool)}
    (h : Acted bus .attach result after) (unasked : bus.latch.pending = false) :
    ∃ calls, Made bus calls after ∧ Slept (calls.map .call) after := by
  have fresh : Dormant bus.fresh := ⟨unasked, Or.inl rfl⟩
  cases h with
  | unattached call _ step => exact ⟨_, step.history, step.slept fresh (.single call rfl)⟩
  | attached call _ step =>
    have slept := step.slept fresh (.single call rfl)
    exact ⟨_, step.history, slept.heralded, slept.dormant.imp_right fun dormant ↦
      ⟨dormant.unasked, dormant.waits⟩⟩

theorem Acted.slept {action : Action σ} {result : Except Failure (Option Bool)}
    (h : Acted bus action result after) (dormant : Dormant bus)
    (stopped : bus.poisoned = true → bus.Halted) (internal : action ≠ .edge) :
    ∃ calls, Made bus calls after ∧ Slept (calls.map .call) after := by
  by_cases starts : action = .attach
  · subst starts
    exact h.slept_attach dormant.unasked
  have alike {other : Bus σ} (latch : other.latch = bus.latch) (phase : other.phase = bus.phase)
      (poisoned : other.poisoned = bus.poisoned) : Dormant other := by
    refine ⟨?_, ?_⟩
    · rw [latch]
      exact dormant.unasked
    · rw [phase, poisoned]
      exact dormant.waits
  cases h with
  | unattached _ _ _ => exact absurd rfl starts
  | attached _ _ _ => exact absurd rfl starts
  | detached => exact ⟨[], rfl, .nil ⟨rfl, dormant.waits⟩⟩
  | @powered on _ _ _ switches step =>
    refine ⟨_, step.history, step.slept dormant fun entry mem ↦ ?_⟩
    rw [List.mem_singleton.mp (switches.call_mem mem)]
    cases on <;> rfl
  | paused call step => exact ⟨_, step.history, step.slept dormant (.single call rfl)⟩
  | sent sent =>
    cases sent with
    | tooLong _ => exact ⟨[], rfl, .nil dormant⟩
    | written _ written => exact written.slept (alike rfl rfl rfl)
  | wrote written => exact written.slept dormant
  | pumped pumped => exact pumped.slept dormant stopped
  | edited _ _ => exact ⟨[], rfl, .nil (alike rfl rfl rfl)⟩
  | signalled => exact absurd rfl internal
  | trampled _ _ => exact ⟨[], rfl, .nil (alike rfl rfl rfl)⟩
  | drifted _ => exact ⟨[], rfl, .nil (alike rfl rfl rfl)⟩

theorem momentsOf_eq {action : Action σ} (internal : action ≠ .edge) {calls : List Entry}
    (made : Made bus calls (bus.act action)) : bus.momentsOf action = calls.map .call := by
  rw [← made.callsTo]
  cases action <;> first | rfl | exact absurd rfl internal

/-- An edge rouses the engine if the latch is armed, and else is lost. -/
theorem slept_edge (dormant : Dormant bus) : Slept (bus.momentsOf .edge) (bus.act .edge) := by
  refine ⟨.of_uncrossed (List.forall_mem_singleton.mpr rfl), ?_⟩
  by_cases armed : bus.latch.armed = true
  · exact Or.inl ⟨_, List.mem_singleton_self _, armed⟩
  · refine Or.inr ⟨?_, dormant.waits⟩
    show (bus.latch.pending || bus.latch.armed) = false
    rw [dormant.unasked, Bool.false_or]
    exact Bool.eq_false_iff.mpr armed

theorem slept_run {session : List (Action σ)} (resting : bus.Resting)
    (stopped : bus.poisoned = true → bus.Halted) (dormant : Dormant bus) :
    Slept (bus.moments session) (run bus session) := by
  induction session generalizing bus with
  | nil => exact .nil dormant
  | cons action rest ih =>
    have acted : Acted bus action (action.perform bus).1 (bus.act action) :=
      perform_ensures resting action
    have first : Slept (bus.momentsOf action) (bus.act action) := by
      by_cases external : action = .edge
      · subst external
        exact slept_edge dormant
      · obtain ⟨calls, made, slept⟩ := acted.slept dormant stopped external
        rwa [momentsOf_eq external made]
    exact first.append (ih (acted.resting resting) (acted.halted_of_poisoned stopped))

/-! ### An edge from before -/

/-- A call does not take an edge from the latch. -/
theorem pending_called {request : Call} (pending : bus.latch.pending = true) :
    (bus.called request).latch.pending = true := by
  simp only [called, absorb]
  split
  · simp only [Latch.signal, pending, Bool.true_or]
  · exact pending

theorem attach_keepsEdge (pending : bus.latch.pending = true) :
    Ensures attach bus fun _ after ↦ after.latch.pending = true := by
  have released : Ensures (discard (demand .release)) bus.fresh
      fun _ after ↦ after.latch.pending = true := by
    refine ensures_discard.mpr ?_
    simp only [demand, ensures_call_bind]
    refine ensures_check_bind.mpr ?_
    have kept : (bus.fresh.called .release).latch.pending = true := pending_called pending
    split
    · exact kept
    · exact kept
  show Ensures (discard (demand .release) >>= fun _ ↦ enableInterrupt) bus.fresh
    fun _ after ↦ after.latch.pending = true
  exact released.bind (fun _ _ kept ↦ kept) fun _ _ kept ↦ kept

/-- At the start of a session an edge is enough for a poll to find the chip ready. -/
theorem Pumped.of_pending {result : Except Failure Bool} (h : Pumped bus result after)
    (enabled : bus.interruptEnabled = true) (phase : bus.phase = .powerUp)
    (pending : bus.latch.pending = true) :
    result = .error (.hardware .sampleLine) ∨ result = .ok true ∧ after.phase = .initialized := by
  cases h with
  | off disabled =>
    rw [enabled] at disabled
    cases disabled
  | unread _ _ _ _ => exact Or.inl rfl
  | unasked _ _ _ asleep =>
    rw [phase, pending] at asleep
    cases asleep
  | @served _ asked _ _ _ step _ _ served =>
    have before : asked.phase = .powerUp := step.phase.trans phase
    cases served with
    | ready _ => exact Or.inr ⟨rfl, rfl⟩
    | sent other _ _ => rw [before] at other; cases other
    | read other _ => rw [before] at other; cases other

/-- Chip-ready is not forged unless the latch holds an edge when the session starts. In every
state that can be reached: the latch is empty while the interrupt is off, so a first session,
one after another that has ended and one after an overrun find it so; and if it is empty, then
in whatever follows the engine stands where it waits for the chip, or was stopped there by an
overrun, until a call or an edge from after the start of the session rouses it, and no byte
crosses the bus before. If the latch does hold an edge, as it can when a session is started
before the last has ended, the next poll takes the chip to be ready at whatever level it
reads. -/
theorem run_attach_heralded (config : Config) (board : σ) (actions : List (Action σ)) :
    let bus := run (create config board) actions
    (bus.interruptEnabled = false → bus.latch.pending = false) ∧
      (bus.latch.pending = false → ∀ session : List (Action σ),
        let since := bus.moments (.attach :: session)
        let later := run bus (.attach :: session)
        (later.phase = .powerUp ∨ later.poisoned = true ∨ Roused since) ∧ Heralded False since) ∧
      (bus.latch.pending = true → (attach bus).1 = .ok () →
        let polled := pump (attach bus).2
        polled.1 = .error (.hardware .sampleLine) ∨
          polled.1 = .ok true ∧ polled.2.phase = .initialized) := by
  intro bus
  have created := resting_create config board
  have resting : bus.Resting := run_resting config board actions
  have latched : bus.Latched := run_latched created (latched_create config board)
  have stopped : bus.poisoned = true → bus.Halted :=
    run_halted_of_poisoned created (fun impossible ↦ by cases impossible)
  refine ⟨fun disabled ↦ (latched.disarmed disabled).2, fun unasked session ↦ ?_,
    fun pending attached ↦ ?_⟩
  · have acted : Acted bus .attach (Action.attach.perform bus).1 (bus.act .attach) :=
      perform_ensures resting .attach
    obtain ⟨calls, made, slept⟩ := acted.slept_attach unasked
    rw [← momentsOf_eq (by rintro ⟨⟩) made] at slept
    have whole : Slept (bus.moments (.attach :: session)) (run bus (.attach :: session)) :=
      slept.append (slept_run (acted.resting resting) (acted.halted_of_poisoned stopped))
    refine ⟨?_, whole.heralded⟩
    rcases whole.dormant with roused | dormant
    · exact Or.inr (Or.inr roused)
    · exact dormant.waits.imp_right Or.inl
  · have acted : Acted bus .attach ((attach bus).1.map fun _ ↦ none) (attach bus).2 :=
      attach_ensures bus
    have kept : (attach bus).2.latch.pending = true := attach_keepsEdge pending
    have rests : (attach bus).2.Resting := acted.resting resting
    have polled : Pumped (attach bus).2 (pump (attach bus).2).1 (pump (attach bus).2).2 :=
      pump_ensures rests.dispatching rests.staged
    rw [attached] at acted
    generalize (attach bus).2 = opened at acted kept polled
    cases acted with
    | attached _ _ step => exact polled.of_pending rfl step.phase kept

/-- An engine whose last session was ended, and whose next one the chip answers. -/
theorem run_attach_heralded_reopened :
    Roused ((run (create {} {}) [.attach, .edge, .detach]).moments
      ([.attach, .edge, .pump] : List (Action Bench.Board))) := by
  obtain ⟨empty, waits, -⟩ := run_attach_heralded {} {}
    ([.attach, .edge, .detach] : List (Action Bench.Board))
  obtain ⟨phase | poisoned | roused, -⟩ := waits (empty (by decide +kernel)) [.edge, .pump]
  · exact absurd phase (by decide +kernel)
  · exact absurd poisoned (by decide +kernel)
  · exact roused

/-- An engine in a session, with an edge that no poll has taken yet. -/
def holdingEdge : Bus Bench.Board := run (create {} {}) [.attach, .edge]

/-- A session that is started over such an engine finds the chip ready though nothing has
come from it. -/
theorem attach_holdingEdge :
    (attach holdingEdge).1 = .ok () ∧
      (run holdingEdge [.attach, .pump]).phase = .initialized ∧
      (run holdingEdge [.attach, .pump]).poisoned = false ∧
      ¬ Roused (holdingEdge.moments [.attach, .pump]) := by
  refine ⟨rfl, ?_, ?_, ?_⟩ <;> decide +kernel

end SpiWifi.Bus
