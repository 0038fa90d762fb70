import SpiWifi.Proofs.Bus.ReadThrough

/-!
What an operation reports, and which of its calls failed. Of several failures the first is
reported, and the only calls made after it are releases of chip-select. `Blames calls result`
says so, and holds of whatever an action can come to.
-/

set_option autoImplicit false
set_option relaxedAutoImplicit false

namespace SpiWifi.Bus

/-- None of these calls fails. -/
def Sound (calls : List Entry) : Prop := ∀ entry ∈ calls, entry.fails = false

/-- These calls do no more than let go of the chip. -/
def Releases (calls : List Entry) : Prop := ∀ entry ∈ calls, entry.call = .release

/-- The failures by which the engine itself turns something down. -/
def Failure.refusal : Failure → Bool
  | .overrun | .tooLong | .poisoned => true
  | .hardware _ | .timeout | .outOfWindow => false

/-- An answer that is put another way fails as before. -/
theorem map_eq_error_iff {α β : Type} {f : α → β} {result : Except Failure α} {failure : Failure} :
    result.map f = .error failure ↔ result = .error failure := by
  cases result with
  | error _ => exact Iff.of_eq (by simp only [Except.map, Except.error.injEq])
  | ok _ => exact iff_of_false (by rintro ⟨⟩) (by rintro ⟨⟩)

/-- How a result goes with the calls that led to it. -/
inductive Blames {α : Type} : List Entry → Except Failure α → Prop where
  | ok {calls : List Entry} {value : α} (sound : Sound calls) : Blames calls (.ok value)
  | refused {calls : List Entry} {failure : Failure} (sound : Sound calls)
      (refusal : failure.refusal = true) : Blames calls (.error failure)
  | failed {before rest : List Entry} {first : Entry} (sound : Sound before)
      (fails : first.fails = true) (unwinds : Releases rest) :
      Blames (before ++ first :: rest) (.error (.hardware first.call))
  | ranOut {before rest : List Entry} (sound : Sound before) (unwinds : Releases rest) :
      Blames (before ++ rest) (.error .timeout)

theorem sound_nil : Sound [] := fun _ mem ↦ absurd mem List.not_mem_nil

theorem Sound.append {calls later : List Entry} (h : Sound calls) (k : Sound later) :
    Sound (calls ++ later) := List.forall_mem_append.mpr ⟨h, k⟩

theorem Sound.cons {entry : Entry} {calls : List Entry} (first : entry.fails = false)
    (rest : Sound calls) : Sound (entry :: calls) := List.forall_mem_cons.mpr ⟨first, rest⟩

theorem Sound.single {entry : Entry} (sound : entry.fails = false) : Sound [entry] :=
  List.forall_mem_singleton.mpr sound

/-- Pauses and deliveries cannot fail. -/
theorem Entry.fails_of_silent {entry : Entry} (silent : entry.call.part? = none) :
    entry.fails = false := by
  simp only [fails, silent, Option.isSome_none, Bool.false_and]

theorem Waits.sound {calls : List Entry} (h : Waits calls) : Sound calls := by
  intro entry mem
  rcases h entry mem with samples | ⟨duration, call⟩
  · exact samples.2
  · exact Entry.fails_of_silent (by rw [call]; rfl)

namespace Blames

variable {α β : Type} {calls : List Entry} {result : Except Failure α}

/-- A call that failed is the cause. -/
theorem single {entry : Entry} {call : Call} (is : entry.call = call)
    (fails : entry.fails = true) : Blames (α := α) [entry] (.error (.hardware call)) := by
  rw [← is]
  exact .failed sound_nil fails fun _ mem ↦ absurd mem List.not_mem_nil

/-- Calls that succeed before an operation leave the blame where it is. -/
theorem after {before : List Entry} (sound : Sound before) (h : Blames calls result) :
    Blames (before ++ calls) result := by
  cases h with
  | ok later => exact .ok (sound.append later)
  | refused later refusal => exact .refused (sound.append later) refusal
  | failed later fails unwinds =>
    rw [← List.append_assoc]
    exact .failed (sound.append later) fails unwinds
  | ranOut later unwinds =>
    rw [← List.append_assoc]
    exact .ranOut (sound.append later) unwinds

/-- A release after a failure, or after a wait in vain, is not asked how it went. -/
theorem released {failure : Failure} (h : Blames (α := α) calls (.error failure))
    (cause : failure.refusal = false) {release : Entry} (call : release.call = .release) :
    Blames (α := α) (calls ++ [release]) (.error failure) := by
  have one : Releases [release] := List.forall_mem_singleton.mpr call
  cases h with
  | refused _ refusal => rw [cause] at refusal; cases refusal
  | failed sound fails unwinds =>
    rw [List.append_assoc, List.cons_append]
    exact .failed sound fails (List.forall_mem_append.mpr ⟨unwinds, one⟩)
  | ranOut sound unwinds =>
    rw [List.append_assoc]
    exact .ranOut sound (List.forall_mem_append.mpr ⟨unwinds, one⟩)

theorem behind {entry : Entry} (sound : entry.fails = false) (h : Blames calls result) :
    Blames (entry :: calls) result := h.after (Sound.single sound)

/-- A frame that is thrown away without a failure is reported as too long. -/
theorem oversize {result : Except Failure Unit} (h : Blames calls result) :
    Blames (α := Unit) calls (result.bind fun _ ↦ .error .tooLong) := by
  cases h with
  | ok sound => exact .refused sound rfl
  | refused sound refusal => exact .refused sound refusal
  | failed sound fails unwinds => exact .failed sound fails unwinds
  | ranOut sound unwinds => exact .ranOut sound unwinds

/-- A failure of the hardware is reported only where a call has failed. -/
theorem cause {call : Call} (h : Blames (α := α) calls (.error (.hardware call))) :
    ∃ entry ∈ calls, entry.fails = true ∧ entry.call = call := by
  cases h with
  | refused _ refusal => cases refusal
  | failed _ fails _ => exact ⟨_, List.mem_append_right _ List.mem_cons_self, fails, rfl⟩

theorem map (h : Blames calls result) (f : α → β) : Blames calls (result.map f) := by
  cases h with
  | ok sound => exact .ok sound
  | refused sound refusal => exact .refused sound refusal
  | failed sound fails unwinds => exact .failed sound fails unwinds
  | ranOut sound unwinds => exact .ranOut sound unwinds

end Blames

section Scripts

variable {script : List Call} {calls : List Entry} {result : Except Failure Unit}

theorem Follows.blames (h : Follows script calls result) : Blames calls result := by
  cases result with
  | ok _ => exact .ok h.of_ok.2
  | error failure =>
    obtain ⟨sound, last, rfl, quiet, fails, rfl⟩ := h.of_error
    exact .after quiet (.single rfl fails)

/-- Of the failures of a transaction and of its release, the first is reported. -/
theorem Blames.closing {release : Entry} (h : Blames calls result)
    (cause : ∀ failure, result = .error failure → failure.refusal = false)
    (call : release.call = .release) : Blames (calls ++ [release]) (closing result release) := by
  cases result with
  | error failure => exact h.released (cause failure rfl) call
  | ok _ =>
    cases h with
    | ok sound =>
      unfold Bus.closing
      by_cases fails : release.fails = true
      · simp only [fails, ↓reduceIte]
        exact .after sound (.single call fails)
      · simp only [fails, Bool.false_eq_true, ↓reduceIte]
        exact .ok (sound.append (.single (Bool.eq_false_iff.mpr fails)))

theorem Follows.not_refusal (h : Follows script calls result) :
    ∀ failure, result = .error failure → failure.refusal = false := by
  rintro failure rfl
  obtain ⟨_, -, -, rfl⟩ := h.failed
  rfl

theorem Transacts.blames (h : Transacts script calls result) : Blames calls result := by
  cases h with
  | intro follows call => exact follows.blames.closing follows.not_refusal call

theorem Clocked.blames (h : Clocked calls result) : Blames calls result := by
  cases h with
  | lead broken => exact broken.blames
  | body whole _ rest => exact .after whole.of_ok.2 rest.blames

theorem Clocked.not_refusal (h : Clocked calls result) :
    ∀ failure, result = .error failure → failure.refusal = false := by
  cases h with
  | lead broken => exact broken.not_refusal
  | body _ _ rest => exact rest.not_refusal

theorem GaveUp.blames {failure : Failure} (h : GaveUp calls failure) :
    Blames (α := Unit) calls (.error failure) := by
  cases h with
  | timeout waits =>
    rw [← List.append_nil calls]
    exact .ranOut waits.sound fun _ mem ↦ absurd mem List.not_mem_nil
  | unread waits call fails => exact .after waits.sound (.single call fails)

end Scripts

/-! ### What a poll can report -/

/-- The failures of a poll: it neither waits nor looks whether the engine has stopped. -/
def Failure.ofPoll : Failure → Bool
  | .hardware _ | .tooLong | .overrun => true
  | .timeout | .poisoned | .outOfWindow => false

section Polls

variable {script : List Call} {calls : List Entry} {result : Except Failure Unit}

/-- Whatever fails here is a failure that a poll can report. -/
def PollFails {α : Type} (result : Except Failure α) : Prop :=
  ∀ failure, result = .error failure → failure.ofPoll = true

theorem PollFails.ok {α : Type} {value : α} : PollFails (.ok value) := by rintro _ ⟨⟩

theorem PollFails.error {α : Type} {failure : Failure} (is : failure.ofPoll = true) :
    PollFails (α := α) (.error failure) := by
  rintro _ ⟨⟩
  exact is

theorem Follows.pollFails (h : Follows script calls result) : PollFails result := by
  rintro failure rfl
  obtain ⟨_, -, -, rfl⟩ := h.failed
  rfl

theorem Transacts.pollFails (h : Transacts script calls result) : PollFails result := by
  rintro failure rfl
  obtain ⟨_, rfl, -⟩ := h.of_error
  rfl

theorem Clocked.pollFails (h : Clocked calls result) : PollFails result := by
  cases h with
  | lead broken => exact broken.pollFails
  | body _ _ rest => exact rest.pollFails

variable {σ : Type} [Board σ] {bus after : Bus σ}

theorem FrameRead.pollFails (h : FrameRead bus result after) : PollFails result := by
  cases h with
  | refused _ _ _ => exact .error rfl
  | broken _ clocked _ _ => exact clocked.pollFails
  | @oversize _ release _ _ body _ _ _ _ drains call _ =>
    have shut := (Transacts.intro drains call).pollFails
    generalize closing body release = outcome at shut ⊢
    cases outcome with
    | error failure => exact .error (shut failure rfl)
    | ok _ => exact .error rfl
  | unreleased _ _ _ _ _ _ => exact .error rfl
  | overrun _ _ _ _ _ _ _ => exact .error rfl
  | delivered _ _ _ _ _ _ _ _ _ => exact .ok

theorem Pumped.pollFails {result : Except Failure Bool} (h : Pumped bus result after) :
    PollFails result := by
  cases h with
  | off _ => exact .ok
  | unread _ _ _ _ => exact .error rfl
  | unasked _ _ _ _ => exact .ok
  | @served _ _ _ outcome _ _ _ _ served =>
    have fails : PollFails outcome := by
      cases served with
      | ready _ => exact .ok
      | sent _ _ sent => exact sent.pollFails
      | read _ read => exact read.pollFails
    cases outcome with
    | error failure => exact .error (fails failure rfl)
    | ok _ => exact .ok

end Polls

/-! ### Whole operations -/

variable {σ : Type} [Board σ] {bus after : Bus σ} {result : Except Failure Unit}

omit [Board σ] in
/-- What follows a frame that was read to its end hands it over, if there is a receiver. -/
theorem delivers_of_map {delivery : List Entry} {attached : Bool} {packet : List UInt8}
    (calls : delivery.map Entry.call = if attached then [.deliver packet] else []) :
    ∀ entry ∈ delivery, ∃ packet, entry.call = .deliver packet := by
  intro entry mem
  have call := List.mem_map_of_mem (f := Entry.call) mem
  rw [calls] at call
  split at call
  · exact ⟨packet, List.mem_singleton.mp call⟩
  · cases call

theorem FrameRead.blames (h : FrameRead bus result after) :
    ∃ calls, Made bus calls after ∧ Blames calls result := by
  cases h with
  | refused call fails step => exact ⟨_, step.made, .single call fails⟩
  | broken selects clocked call step =>
    have blames := clocked.blames.released (clocked.not_refusal _ rfl) call
    exact ⟨_, step.made, blames.behind selects.2⟩
  | oversize selects whole _ drains call step =>
    have shut := (Transacts.intro drains call).blames.oversize.after whole.of_ok.2
    rw [← List.append_assoc] at shut
    exact ⟨_, step.made, shut.behind selects.2⟩
  | unreleased selects clocked step call fails close =>
    have opened := Sound.cons selects.2 clocked.sound
    exact ⟨_, step.made.trans close.made, .after opened (.single call fails)⟩
  | overrun selects clocked step _ sound close _ =>
    have opened := Sound.cons selects.2 clocked.sound
    exact ⟨_, step.made.trans close.made, .refused (opened.append (.single sound)) rfl⟩
  | @delivered _ _ _ delivery _ _ _ selects clocked step _ sound close _ handed packet =>
    have opened := Sound.cons selects.2 clocked.sound
    have given : Sound delivery := by
      intro entry mem
      obtain ⟨_, deliver⟩ := delivers_of_map packet entry mem
      exact Entry.fails_of_silent (by rw [deliver]; rfl)
    exact ⟨_, (step.made.trans close.made).trans handed.made,
      .ok ((opened.append (.single sound)).append given)⟩

theorem Served.blames (h : Served bus result after) :
    ∃ calls, Made bus calls after ∧ Blames calls result := by
  cases h with
  | ready _ => exact ⟨[], rfl, .ok sound_nil⟩
  | sent _ step sent => exact ⟨_, step.made, sent.blames⟩
  | read _ read => exact read.blames

theorem Pumped.blames {result : Except Failure Bool} (h : Pumped bus result after) :
    ∃ calls, Made bus calls after ∧ Blames calls result := by
  cases h with
  | off _ => exact ⟨[], rfl, .ok sound_nil⟩
  | unread _ step call fails => exact ⟨_, step.made, .single call fails⟩
  | unasked _ step samples _ => exact ⟨_, step.made, .ok (.single samples.2)⟩
  | served _ step samples _ served =>
    obtain ⟨calls, made, blames⟩ := served.blames
    exact ⟨_, step.made.trans made, (blames.behind samples.2).map _⟩

theorem FirstSent.blames {frame : List UInt8} (h : FirstSent bus frame result after) :
    ∃ calls, Made bus calls after ∧ Blames calls result := by
  cases h with
  | unselected call fails step => exact ⟨_, step.made, .single call fails⟩
  | sent selects sent step => exact ⟨_, step.made, sent.blames.behind selects.2⟩

theorem GaveUp.not_refusal {calls : List Entry} {failure : Failure} (h : GaveUp calls failure) :
    failure.refusal = false := by
  cases h <;> rfl

theorem StagedSent.blames {frame : List UInt8} (h : StagedSent bus frame result after) :
    ∃ calls, Made bus calls after ∧ Blames calls result := by
  cases h with
  | refused call fails drops step =>
    exact ⟨_, step.made, Blames.released (.single call fails) rfl drops⟩
  | unanswered selects chosen waits _ drops step =>
    have gaveUp := waits.blames.released waits.not_refusal drops
    exact ⟨_, chosen.made.trans step.made, gaveUp.behind selects.2⟩
  | sent selects chosen waits _ step sent close spent =>
    have blames := sent.blames.after (Sound.cons selects.2 waits.sound)
    refine ⟨_, ?_, blames⟩
    rcases spent with rfl | rfl
    · exact (chosen.made.trans step.made).trans close.made
    · exact (chosen.made.trans step.made).trans close.made

theorem Written.blames {payload : Nat} (h : Written bus payload result after) :
    ∃ calls, Made bus calls after ∧ Blames calls result := by
  cases h with
  | poisoned _ => exact ⟨[], rfl, .refused sound_nil rfl⟩
  | tooLong _ _ => exact ⟨[], rfl, .refused sound_nil rfl⟩
  | overrun _ _ _ => exact ⟨[], rfl, .refused sound_nil rfl⟩
  | unready _ _ waits step => exact ⟨_, step.made, waits.blames⟩
  | first _ waited sent =>
    obtain ⟨calls, made, blames⟩ := sent.blames
    exact ⟨_, waited.steady.made.trans made, blames.after waited.waits.sound⟩
  | staged _ _ sent => exact sent.blames

theorem Sent.blames {payload : List UInt8} (h : Sent bus payload result after) :
    ∃ calls, Made bus calls after ∧ Blames calls result := by
  cases h with
  | tooLong _ => exact ⟨[], rfl, .refused sound_nil rfl⟩
  | written _ written => exact written.blames

theorem Acted.blames {action : Action σ} {result : Except Failure (Option Bool)}
    (h : Acted bus action result after) : ∃ calls, Made bus calls after ∧ Blames calls result := by
  cases h with
  | unattached call fails step => exact ⟨_, step.made, .single call fails⟩
  | attached _ sound step => exact ⟨_, step.made, .ok (.single sound)⟩
  | detached => exact ⟨[], rfl, .ok sound_nil⟩
  | powered switches step => exact ⟨_, step.made, switches.blames.map _⟩
  | paused call step =>
    exact ⟨_, step.made, .ok (.single (Entry.fails_of_silent (by rw [call]; rfl)))⟩
  | sent sent =>
    obtain ⟨calls, made, blames⟩ := sent.blames
    exact ⟨calls, made, blames.map _⟩
  | wrote written =>
    obtain ⟨calls, made, blames⟩ := written.blames
    exact ⟨calls, made, blames.map _⟩
  | pumped pumped =>
    obtain ⟨calls, made, blames⟩ := pumped.blames
    exact ⟨calls, made, blames.map _⟩
  | edited _ _ => exact ⟨[], rfl, .ok sound_nil⟩
  | signalled => exact ⟨[], rfl, .ok sound_nil⟩
  | trampled _ _ => exact ⟨[], rfl, .ok sound_nil⟩
  | drifted _ => exact ⟨[], rfl, .ok sound_nil⟩

end SpiWifi.Bus
