import SpiWifi.Proofs.Bus.Actions

/-!
The calls that an action adds to the history. Whatever comes of it, chip-select is
high again at its end unless a release has failed, and packets are handed over only
while the interrupt is off.
-/

set_option autoImplicit false
set_option relaxedAutoImplicit false

namespace SpiWifi.Bus

/-- The level of chip-select after a call, low being `true`. A call that fails leaves it
as it was. -/
def Entry.chipSelect (low : Bool) (entry : Entry) : Bool :=
  if entry.fails then
    low
  else
    match entry.call with
    | .select => true
    | .release => false
    | _ => low

/-- No release of chip-select has failed. -/
def Released (calls : List Entry) : Prop :=
  ∀ entry ∈ calls, entry.call = .release → entry.fails = false

instance (calls : List Entry) : Decidable (Released calls) :=
  decidable_of_iff (calls.all (fun entry ↦ !(decide (entry.call = .release) && entry.fails)) = true)
    (by simp [Released, Decidable.imp_iff_not_or])

/-- The packets of these calls are handed over with the interrupt off. -/
def Discreet (calls : List Entry) : Prop :=
  ∀ entry ∈ calls, ∀ packet, entry.call = .deliver packet →
    entry.armed = false ∧ entry.enabled = false

/-- Calls that leave chip-select high and the receiver undisturbed. -/
structure Tidy (calls : List Entry) : Prop where
  closes : Released calls → calls.foldl Entry.chipSelect false = false
  discreet : Discreet calls

/-- Calls other than a selection or a delivery. -/
def Call.plain : Call → Bool
  | .select | .deliver _ => false
  | _ => true

/-- The calls that a transaction clocks a frame in by. -/
def Call.fetches : Call → Bool
  | .exchange _ | .flush => true
  | _ => false

/-- The calls that a transaction clocks a frame out by. -/
def Call.clocksOut : Call → Bool
  | .write _ | .flush | .pauseMillis _ => true
  | _ => false

def Plain (calls : List Entry) : Prop := ∀ entry ∈ calls, entry.call.plain = true

theorem Released.of_append {first second : List Entry} (h : Released (first ++ second)) :
    Released first ∧ Released second :=
  ⟨fun entry mem ↦ h entry (List.mem_append_left _ mem),
    fun entry mem ↦ h entry (List.mem_append_right _ mem)⟩

/-- From high, only a selection that succeeds pulls chip-select low. -/
theorem chipSelect_unselected {calls : List Entry} (unselected : ∀ entry ∈ calls, ¬ Selects entry) :
    calls.foldl Entry.chipSelect false = false := by
  induction calls with
  | nil => rfl
  | cons entry rest ih =>
    have high : entry.chipSelect false = false := by
      unfold Entry.chipSelect
      split
      · rfl
      · rename_i sound
        split
        · rename_i select
          exact absurd ⟨select, Bool.eq_false_iff.mpr sound⟩ (unselected entry List.mem_cons_self)
        · rfl
        · rfl
    rw [List.foldl_cons, high]
    exact ih fun other mem ↦ unselected other (List.mem_cons_of_mem _ mem)

namespace Tidy

variable {calls later : List Entry}

theorem append (h : Tidy calls) (k : Tidy later) : Tidy (calls ++ later) where
  closes := by
    intro released
    obtain ⟨first, second⟩ := released.of_append
    rw [List.foldl_append, h.closes first]
    exact k.closes second
  discreet := List.forall_mem_append.mpr ⟨h.discreet, k.discreet⟩

theorem of_unselected (unselected : ∀ entry ∈ calls, ¬ Selects entry) (discreet : Discreet calls) :
    Tidy calls :=
  ⟨fun _ ↦ chipSelect_unselected unselected, discreet⟩

theorem of_plain (plain : Plain calls) : Tidy calls := by
  refine of_unselected (fun entry mem select ↦ ?_) fun entry mem packet deliver ↦ ?_
  · have := plain entry mem
    rw [select.1] at this
    cases this
  · have := plain entry mem
    rw [deliver] at this
    cases this

/-- A transaction: whatever was selected is released. -/
theorem window {select release : Entry} {inside : List Entry} (call : select.call = .select)
    (plain : Plain inside) (drops : release.call = .release) :
    Tidy (select :: inside ++ [release]) where
  closes := by
    intro released
    have sound : release.fails = false :=
      released release (List.mem_append_right _ (List.mem_singleton_self _)) drops
    simp only [List.foldl_append, List.foldl_cons, List.foldl_nil, Entry.chipSelect, sound,
      Bool.false_eq_true, ↓reduceIte, drops]
  discreet := by
    intro entry mem packet deliver
    rcases List.mem_append.mp mem with mem | mem
    · rcases List.mem_cons.mp mem with rfl | mem
      · rw [call] at deliver
        cases deliver
      · exact (of_plain plain).discreet entry mem packet deliver
    · rw [List.mem_singleton.mp mem, drops] at deliver
      cases deliver

end Tidy

/-! ### What the scripts are made of -/

section Scripts

variable {calls : List Entry} {result : Except Failure Unit}

theorem Follows.plain {script : List Call} (h : Follows script calls result)
    (plain : ∀ call ∈ script, call.plain = true) : Plain calls :=
  fun _ mem ↦ plain _ (h.call_mem mem)

theorem plain_append {first second : List Entry} (h : Plain first) (k : Plain second) :
    Plain (first ++ second) := List.forall_mem_append.mpr ⟨h, k⟩

theorem fetches_exchangeScript (width : Nat) :
    ∀ call ∈ exchangeScript width, call.fetches = true := by
  simp [exchangeScript, Call.fetches]

theorem fetches_bodyScript (remaining : Nat) :
    ∀ call ∈ bodyScript remaining, call.fetches = true := by
  unfold bodyScript
  split
  · exact fetches_exchangeScript remaining
  · exact fun _ mem ↦ absurd mem List.not_mem_nil

theorem fetches_drainScript (count : Nat) : ∀ call ∈ drainScript count, call.fetches = true := by
  fun_induction drainScript count with
  | case1 => simp [Call.fetches]
  | case2 count more ih => exact List.forall_mem_cons.mpr ⟨rfl, ih⟩

theorem clocksOut_frameScript (frame : List UInt8) :
    ∀ call ∈ frameScript frame, call.clocksOut = true := by
  simp [frameScript, Call.clocksOut]

theorem clocksOut_firstScript (settle : UInt32) (frame : List UInt8) :
    ∀ call ∈ firstScript settle frame, call.clocksOut = true := by
  simp [firstScript, Call.clocksOut]

theorem plain_of_fetches {script : List Call} (h : ∀ call ∈ script, call.fetches = true) :
    ∀ call ∈ script, call.plain = true := by
  intro call mem
  have fetches := h call mem
  cases call <;> first | rfl | cases fetches

theorem plain_of_clocksOut {script : List Call} (h : ∀ call ∈ script, call.clocksOut = true) :
    ∀ call ∈ script, call.plain = true := by
  intro call mem
  have clocks := h call mem
  cases call <;> first | rfl | cases clocks

theorem Clocked.plain (h : Clocked calls result) : Plain calls := by
  cases h with
  | lead broken => exact broken.plain (plain_of_fetches (fetches_exchangeScript _))
  | body whole _ rest =>
    exact plain_append (whole.plain (plain_of_fetches (fetches_exchangeScript _)))
      (rest.plain (plain_of_fetches (fetches_bodyScript _)))

theorem plain_nil : Plain [] := fun _ mem ↦ absurd mem List.not_mem_nil

theorem Samples.plain {sample : Entry} (call : sample.call = .sampleLine) : Plain [sample] :=
  List.forall_mem_singleton.mpr (by rw [call]; rfl)

theorem Waits.plain (h : Waits calls) : Plain calls :=
  h.all (P := fun call ↦ call.plain = true) rfl fun _ ↦ rfl

theorem GaveUp.plain {failure : Failure} (h : GaveUp calls failure) : Plain calls :=
  h.all (P := fun call ↦ call.plain = true) rfl fun _ ↦ rfl

end Scripts

/-! ### What each operation adds -/

variable {σ : Type}

/-- The history has grown by these calls. -/
def Made (before : Bus σ) (calls : List Entry) (after : Bus σ) : Prop :=
  after.history = calls.reverse ++ before.history

/-- The history has grown by calls that leave everything in order. -/
def Traffic (before after : Bus σ) : Prop := ∃ calls, Made before calls after ∧ Tidy calls

theorem Made.trans {before middle after : Bus σ} {calls later : List Entry}
    (h : Made before calls middle) (k : Made middle later after) :
    Made before (calls ++ later) after := by
  unfold Made at *
  rw [k, h, List.reverse_append, List.append_assoc]

/-- What holds of the calls on both parts of the way holds of those on the whole. -/
theorem Made.forall_trans {before middle after : Bus σ} {calls later : List Entry}
    {P : Entry → Prop} (h : Made before calls middle) (k : Made middle later after)
    (first : ∀ entry ∈ calls, P entry) (rest : ∀ entry ∈ later, P entry) :
    ∃ all, Made before all after ∧ ∀ entry ∈ all, P entry :=
  ⟨calls ++ later, h.trans k, List.forall_mem_append.mpr ⟨first, rest⟩⟩

namespace Traffic

variable {before middle after : Bus σ}

theorem refl (bus : Bus σ) : Traffic bus bus := ⟨[], rfl, .of_plain plain_nil⟩

theorem trans (h : Traffic before middle) (k : Traffic middle after) : Traffic before after := by
  obtain ⟨calls, made, tidy⟩ := h
  obtain ⟨later, more, tidier⟩ := k
  exact ⟨calls ++ later, made.trans more, tidy.append tidier⟩

theorem of_plain {calls : List Entry} (made : Made before calls after) (plain : Plain calls) :
    Traffic before after := ⟨calls, made, .of_plain plain⟩

end Traffic

variable [Board σ] {bus after : Bus σ} {result : Except Failure Unit}

theorem Steady.made {calls : List Entry} (h : Steady bus calls after) : Made bus calls after :=
  h.history

theorem tidy_refused {select : Entry} (call : select.call = .select) (fails : select.fails = true) :
    Tidy [select] := by
  refine .of_unselected (List.forall_mem_singleton.mpr fun selects ↦ ?_)
    (List.forall_mem_singleton.mpr fun packet deliver ↦ ?_)
  · rw [selects.2] at fails
    cases fails
  · rw [call] at deliver
    cases deliver

/-- A packet is handed over while the interrupt is off. -/
theorem tidy_handed {closed : Bus σ} {delivery : List Entry} {packet : List UInt8} {attached : Bool}
    (handed : Steady closed delivery after) (disarmed : closed.latch.armed = false)
    (disabled : closed.interruptEnabled = false)
    (calls : delivery.map Entry.call = if attached then [.deliver packet] else []) :
    Tidy delivery := by
  have deliver : ∀ entry ∈ delivery, entry.call = .deliver packet := by
    intro entry mem
    have mem := List.mem_map_of_mem (f := Entry.call) mem
    rw [calls] at mem
    split at mem
    · exact List.mem_singleton.mp mem
    · cases mem
  refine .of_unselected (fun entry mem selects ↦ ?_) fun entry mem _ _ ↦ ?_
  · have select := selects.1
    rw [deliver entry mem] at select
    cases select
  · obtain ⟨armed, enabled⟩ := handed.marks entry mem
    exact ⟨armed.trans disarmed, enabled.trans disabled⟩

theorem FrameRead.traffic (h : FrameRead bus result after) : Traffic bus after := by
  cases h with
  | refused call fails step => exact ⟨_, step.made, tidy_refused call fails⟩
  | broken selects clocked drops step => exact ⟨_, step.made, .window selects.1 clocked.plain drops⟩
  | oversize selects whole _ drains drops step =>
    have plain := plain_append (whole.plain (plain_of_fetches (fetches_exchangeScript _)))
      (drains.plain (plain_of_fetches (fetches_drainScript _)))
    exact ⟨_, step.made, .window selects.1 plain drops⟩
  | unreleased selects clocked step drops _ close =>
    exact ⟨_, step.made.trans close.made, .window selects.1 clocked.plain drops⟩
  | overrun selects clocked step drops _ close _ =>
    exact ⟨_, step.made.trans close.made, .window selects.1 clocked.plain drops⟩
  | delivered selects clocked step drops _ close _ handed packet =>
    have all := (step.made.trans close.made).trans handed.made
    have tidy := tidy_handed handed close.armed close.interruptEnabled packet
    exact ⟨_, all, (Tidy.window selects.1 clocked.plain drops).append tidy⟩

theorem Transacts.window {script : List Call} {select : Entry} {waits body : List Entry}
    (call : select.call = .select) (plain : Plain waits) (sent : Transacts script body result)
    (clocks : ∀ call ∈ script, call.clocksOut = true) : Tidy (select :: waits ++ body) := by
  cases sent with
  | intro follows drops =>
    rw [← List.append_assoc]
    exact .window call (plain_append plain (follows.plain (plain_of_clocksOut clocks))) drops

/-- Outside of a staged write, serving the chip is making it ready or reading a frame. -/
theorem Served.traffic (h : Served bus result after) (phase : bus.phase ≠ .writeRequested) :
    Traffic bus after := by
  cases h with
  | ready _ => exact .refl bus
  | sent other _ _ => exact absurd other phase
  | read _ read => exact read.traffic

theorem Pumped.traffic {result : Except Failure Bool} (h : Pumped bus result after)
    (phase : bus.phase ≠ .writeRequested) : Traffic bus after := by
  cases h with
  | off _ => exact .refl bus
  | unread _ step call _ => exact .of_plain step.made (Samples.plain call)
  | unasked _ step samples _ => exact .of_plain step.made (Samples.plain samples.1)
  | served _ step samples _ served =>
    have sampled : Traffic bus _ := .of_plain step.made (Samples.plain samples.1)
    exact sampled.trans (served.traffic (by rwa [step.phase]))

theorem FirstSent.traffic {frame : List UInt8} (h : FirstSent bus frame result after) :
    Traffic bus after := by
  cases h with
  | unselected call fails step => exact ⟨_, step.made, tidy_refused call fails⟩
  | sent selects sent step =>
    have tidy := sent.window selects.1 plain_nil (clocksOut_firstScript _ _)
    exact ⟨_, step.made, tidy⟩

theorem StagedSent.traffic {frame : List UInt8} (h : StagedSent bus frame result after) :
    Traffic bus after := by
  cases h with
  | refused call fails drops step =>
    have drop : Plain [_] := List.forall_mem_singleton.mpr (by rw [drops]; rfl)
    exact ⟨_, step.made, (tidy_refused call fails).append (.of_plain drop)⟩
  | unanswered selects chosen waits _ drops step =>
    exact ⟨_, chosen.made.trans step.made, .window selects.1 waits.plain drops⟩
  | sent selects chosen waits _ step sent close spent =>
    have tidy := sent.window selects.1 waits.plain (clocksOut_frameScript _)
    refine ⟨_, ?_, tidy⟩
    rcases spent with rfl | rfl
    · exact (chosen.made.trans step.made).trans close.made
    · exact (chosen.made.trans step.made).trans close.made

theorem Written.traffic {payload : Nat} (h : Written bus payload result after) :
    Traffic bus after := by
  cases h with
  | poisoned _ => exact .refl bus
  | tooLong _ _ => exact .refl bus
  | overrun _ _ _ => exact .refl bus
  | unready _ _ waits step => exact .of_plain step.made waits.plain
  | first _ waited sent =>
    have ready : Traffic bus _ := .of_plain waited.steady.made waited.waits.plain
    exact ready.trans sent.traffic
  | staged _ _ sent => exact sent.traffic

theorem Sent.traffic {payload : List UInt8} (h : Sent bus payload result after) :
    Traffic bus after := by
  cases h with
  | tooLong _ => exact .refl bus
  | written _ written => exact written.traffic

theorem Acted.traffic {action : Action σ} {result : Except Failure (Option Bool)}
    (h : Acted bus action result after) (resting : bus.Resting) : Traffic bus after := by
  have plain {entry : Entry} {call : Call} (is : entry.call = call) (plain : call.plain = true) :
      Plain [entry] := List.forall_mem_singleton.mpr (by rwa [is])
  cases h with
  | unattached call _ step => exact .of_plain step.made (plain call rfl)
  | attached call _ step => exact .of_plain step.made (plain call rfl)
  | detached => exact .refl bus
  | powered switches step =>
    refine .of_plain step.made (switches.plain (List.forall_mem_singleton.mpr ?_))
    split <;> rfl
  | paused call step => exact .of_plain step.made (plain call rfl)
  | sent sent => exact sent.traffic
  | wrote written => exact written.traffic
  | pumped pumped =>
    refine pumped.traffic fun requested ↦ ?_
    have := resting.phase
    simp only [requested, reduceCtorEq, or_self] at this
  | edited start bytes => exact .refl bus
  | signalled => exact .refl bus
  | trampled transmit receive => exact .refl bus
  | drifted board => exact .refl bus

end SpiWifi.Bus
