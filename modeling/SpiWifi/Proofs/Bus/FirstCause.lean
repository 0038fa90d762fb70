import SpiWifi.Proofs.Bus.Patience

/-!
First causes. An action reports the first of its calls that failed. The one thing that comes
before a later failure without being a call is a wait in vain: once it has been declared, only
the release that unwinds the write is left, and its failure goes unreported. So nothing is ever
swallowed but releases after an action has failed already.
-/

set_option autoImplicit false
set_option relaxedAutoImplicit false

namespace SpiWifi.Bus

variable {σ : Type} [Board σ] {bus after : Bus σ}

/-! ### Waits in vain -/

/-- A write of this many bytes waits in vain, and declares so in this state. -/
def WaitsInVain (bus : Bus σ) (payload : Nat) (moment : Bus σ) : Prop :=
  ∃ target waiting, Awaiting bus payload target waiting ∧
    (∀ rounds ≤ bus.config.patience,
      Unserved target (waiting.afterRounds bus.config.pollStep rounds)) ∧
    moment = (pump (waiting.afterRounds bus.config.pollStep bus.config.patience)).2

/-- An action waits in vain, and declares so in this state. -/
def RunsOut (bus : Bus σ) : Action σ → Bus σ → Prop
  | .send payload, moment =>
    payload.length ≤ payloadLimit ∧ (bus.loaded 0 payload).WaitsInVain payload.length moment
  | .write payload, moment => bus.WaitsInVain payload moment
  | _, _ => False

/-- The calls up to a wait in vain have all succeeded. -/
theorem Awaiting.sound {payload : Nat} {target : Phase} {waiting : Bus σ}
    (h : Awaiting bus payload target waiting) :
    ∃ calls, Made bus calls waiting ∧ Sound calls := by
  cases h with
  | ready _ _ => exact ⟨[], rfl, sound_nil⟩
  | answer _ _ selects sound _ =>
    have chosen := Steady.call ((bus.framed payload).asking (Wire.frameLength payload)) .select
    have looked := Steady.call ((bus.framed payload).selected (Wire.frameLength payload)) .sampleLine
    exact ⟨_, chosen.made.trans looked.made, (Sound.single selects).append (.single sound)⟩

/-- How a write ends that has waited in vain: every call up to then was sound, and one release at
most has followed. -/
structure EndsInVain {α : Type} (bus moment : Bus σ) (result : Except Failure α) (after : Bus σ) :
    Prop where
  timeout : result = .error .timeout
  earlier : ∃ calls, Made bus calls moment ∧ Sound calls
  unwound : Dropped moment after

theorem write_timeout_iff (resting : bus.Resting) (payload : Nat) :
    ((write payload bus).1 = .error .timeout ↔ ∃ moment, bus.WaitsInVain payload moment) ∧
      ∀ moment, bus.WaitsInVain payload moment →
        EndsInVain bus moment (write payload bus).1 (write payload bus).2 := by
  by_cases waits : ∃ target waiting, Awaiting bus payload target waiting
  case neg =>
    have unwaiting : ∀ target waiting, ¬ Awaiting bus payload target waiting :=
      fun target waiting awaiting ↦ waits ⟨target, waiting, awaiting⟩
    have never : ∀ moment, ¬ bus.WaitsInVain payload moment :=
      fun moment ⟨target, waiting, awaiting, _⟩ ↦ unwaiting target waiting awaiting
    refine ⟨iff_of_false (write_prompt resting unwaiting).2 ?_, ?_⟩
    · exact fun ⟨moment, vain⟩ ↦ never moment vain
    · exact fun moment vain ↦ absurd vain (never moment)
  obtain ⟨target, waiting, awaiting⟩ := waits
  obtain ⟨outcome, ended, ends, resumed⟩ := write_resumes resting awaiting
  have waitsFor := awaiting.waitsFor resting
  have late := resumed.timeout_iff.trans (ends.timeout_iff waitsFor)
  refine ⟨late.trans ⟨fun vain ↦ ⟨_, target, waiting, awaiting, vain, rfl⟩, ?_⟩, ?_⟩
  · rintro ⟨_, other, another, also, vain, -⟩
    obtain ⟨rfl, rfl⟩ := awaiting.unique also
    exact vain
  · rintro _ ⟨other, another, also, vain, rfl⟩
    obtain ⟨rfl, rfl⟩ := awaiting.unique also
    refine ⟨late.mpr vain, ?_, ?_⟩
    · obtain ⟨before, started, sound⟩ := awaiting.sound
      have reached := fun rounds less ↦ vain rounds (Nat.le_of_lt less)
      obtain ⟨made, rounded, paced⟩ := waitsFor.steady_afterRounds reached
      obtain ⟨looks, looked, -, samples⟩ :=
        (waitsFor.afterRounds reached).glance (vain _ (Nat.le_refl _))
      have quiet : Sound looks := fun entry mem ↦ (samples entry mem).2
      exact ⟨_, started.trans (rounded.made.trans looked.made),
        sound.append (paced.waits.sound.append quiet)⟩
    · cases ends with
      | ranOut _ =>
        generalize (write payload bus).1 = result at *
        generalize (write payload bus).2 = after at *
        cases resumed with
        | unready => exact ⟨[], rfl, Nat.zero_le _, fun _ mem ↦ absurd mem List.not_mem_nil⟩
        | dropped dropped => exact dropped
      | ended within _ served => exact absurd (vain _ within) served

/-- Only writes wait. -/
theorem Acted.writes_of_timeout {action : Action σ} {result : Except Failure (Option Bool)}
    (h : Acted bus action result after) (late : result = .error .timeout) :
    (∃ payload, action = .send payload) ∨ ∃ length, action = .write length := by
  cases h with
  | sent _ => exact Or.inl ⟨_, rfl⟩
  | wrote _ => exact Or.inr ⟨_, rfl⟩
  | unattached _ _ _ => cases late
  | attached _ _ _ => cases late
  | detached => cases late
  | powered switches _ =>
    obtain ⟨_, -, -, cause⟩ := (map_eq_error_iff.mp late ▸ switches).failed
    cases cause
  | paused _ _ => cases late
  | pumped pumped => cases pumped.pollFails _ (map_eq_error_iff.mp late)
  | edited _ _ => cases late
  | signalled => cases late
  | trampled _ _ => cases late
  | drifted _ => cases late

/-- An action reports that it has waited in vain exactly if it has. -/
theorem act_timeout_iff (resting : bus.Resting) (action : Action σ) :
    ((action.perform bus).1 = .error .timeout ↔ ∃ moment, bus.RunsOut action moment) ∧
      ∀ moment, bus.RunsOut action moment →
        EndsInVain bus moment (action.perform bus).1 (bus.act action) := by
  have acted : Acted bus action (action.perform bus).1 (bus.act action) :=
    perform_ensures resting action
  have writes {start : Bus σ} {length : Nat} (resting : start.Resting)
      (same : action.perform bus = ((write length start).1.map fun _ ↦ none, (write length start).2))
      (history : start.history = bus.history)
      (runsOut : ∀ moment, bus.RunsOut action moment ↔ start.WaitsInVain length moment) :
      ((action.perform bus).1 = .error .timeout ↔ ∃ moment, bus.RunsOut action moment) ∧
        ∀ moment, bus.RunsOut action moment →
          EndsInVain bus moment (action.perform bus).1 (bus.act action) := by
    obtain ⟨late, vain⟩ := write_timeout_iff resting length
    simp only [act, same, runsOut]
    refine ⟨map_eq_error_iff.trans late, fun moment waits ↦ ?_⟩
    obtain ⟨timeout, ⟨calls, made, sound⟩, unwound⟩ := vain moment waits
    refine ⟨map_eq_error_iff.mpr timeout, ⟨calls, ?_, sound⟩, unwound⟩
    rw [Made, ← history]
    exact made
  by_cases sends : ∃ payload, action = .send payload
  · obtain ⟨payload, rfl⟩ := sends
    have mapped : (Action.send payload).perform bus = _ := map_apply _ (send payload) bus
    by_cases long : payloadLimit < payload.length
    · rw [send_of_long long] at mapped
      have never : ∀ moment, ¬ bus.RunsOut (.send payload) moment :=
        fun moment runsOut ↦ absurd long (Nat.not_lt.mpr runsOut.1)
      refine ⟨iff_of_false ?_ fun ⟨moment, runsOut⟩ ↦ never moment runsOut,
        fun moment runsOut ↦ absurd runsOut (never moment)⟩
      rw [mapped]
      rintro ⟨⟩
    · rw [send_of_fits long] at mapped
      have loaded : (bus.loaded 0 payload).Resting := { resting with }
      exact writes loaded mapped rfl fun _ ↦ and_iff_right (Nat.not_lt.mp long)
  by_cases waits : ∃ length, action = .write length
  · obtain ⟨length, rfl⟩ := waits
    exact writes resting (map_apply _ _ _) rfl fun _ ↦ Iff.rfl
  have silent : ∀ moment, ¬ bus.RunsOut action moment := by
    intro moment runsOut
    cases action with
    | send payload => exact sends ⟨_, rfl⟩
    | write length => exact waits ⟨_, rfl⟩
    | _ => exact runsOut
  refine ⟨iff_of_false (fun late ↦ ?_) fun ⟨moment, runsOut⟩ ↦ silent moment runsOut,
    fun moment runsOut ↦ absurd runsOut (silent moment)⟩
  exact (acted.writes_of_timeout late).elim sends waits

/-! ### The law -/

/-- By the end of these calls the action has declared that it waited in vain. -/
def Declared (bus : Bus σ) (action : Action σ) (calls : List Entry) : Prop :=
  ∃ moment earlier, bus.RunsOut action moment ∧ Made bus earlier moment ∧ earlier <+: calls

/-- The law of what an action reports. The failure of a call names the call, and so the part of
the board. -/
structure FirstCause (bus : Bus σ) (action : Action σ) (calls : List Entry)
    (result : Except Failure (Option Bool)) : Prop where
  /-- The first call that fails is reported, unless a wait was in vain before it. -/
  reported : ∀ before first rest, calls = before ++ first :: rest → Sound before →
    first.fails = true → ¬ Declared bus action before → result = .error (.hardware first.call)
  /-- A wait in vain is reported, whatever fails after it; and nothing else is reported so. -/
  declared : result = .error .timeout ↔ Declared bus action calls
  /-- A failure of the hardware is reported only if it was the first to happen. -/
  cause : ∀ call, result = .error (.hardware call) → ∃ before first rest,
    calls = before ++ first :: rest ∧ Sound before ∧ first.fails = true ∧ first.call = call
  /-- A failure that goes unreported is that of a release after the action had failed. -/
  swallowed : ∀ before entry rest, calls = before ++ entry :: rest → entry.fails = true →
    Sound before ∧ result = .error (.hardware entry.call) ∨
      entry.call = .release ∧
        ((∃ first ∈ before, first.fails = true) ∨ Declared bus action before)

omit [Board σ] in
/-- A call that fails comes after the calls that do not. -/
theorem exists_between {before rest sound later : List Entry} {entry : Entry}
    (same : before ++ entry :: rest = sound ++ later) (succeeds : Sound sound)
    (fails : entry.fails = true) :
    ∃ between, before = sound ++ between ∧ later = between ++ entry :: rest := by
  rcases List.append_eq_append_iff.mp same with ⟨more, rfl, split⟩ | ⟨between, rfl, split⟩
  · cases more with
    | nil => exact ⟨[], by simp only [List.append_nil], split.symm⟩
    | cons other more =>
      obtain ⟨rfl, -⟩ := List.cons_eq_cons.mp split
      have quiet := succeeds entry (List.mem_append_right _ List.mem_cons_self)
      rw [fails] at quiet
      cases quiet
  · exact ⟨between, rfl, split⟩

omit [Board σ] in
/-- A call that fails among such calls is the first that does, or a release behind it. -/
theorem first_or_release {before rest earlier later : List Entry} {first entry : Entry}
    (same : before ++ first :: rest = earlier ++ entry :: later) (sound : Sound before)
    (unwinds : Releases rest) (fails : entry.fails = true) :
    earlier = before ∧ entry = first ∨ first ∈ earlier ∧ entry.call = .release := by
  obtain ⟨between, rfl, split⟩ := exists_between same.symm sound fails
  cases between with
  | nil =>
    obtain ⟨rfl, -⟩ := List.cons_eq_cons.mp split
    exact Or.inl ⟨List.append_nil _, rfl⟩
  | cons other between =>
    obtain ⟨rfl, rfl⟩ := List.cons_eq_cons.mp split
    exact Or.inr ⟨List.mem_append_right _ List.mem_cons_self,
      unwinds entry (List.mem_append_right _ List.mem_cons_self)⟩

namespace FirstCause

variable {action : Action σ} {calls : List Entry} {result : Except Failure (Option Bool)}

/-- Without a failure there is nothing to report. -/
theorem of_sound (sound : Sound calls)
    (declared : result = .error .timeout ↔ Declared bus action calls)
    (blameless : ∀ call, result ≠ .error (.hardware call)) :
    FirstCause bus action calls result := by
  have never {before rest : List Entry} {entry : Entry} (at_ : calls = before ++ entry :: rest)
      (fails : entry.fails = true) : False := by
    have quiet := sound entry (at_ ▸ List.mem_append_right _ List.mem_cons_self)
    rw [fails] at quiet
    cases quiet
  refine ⟨?_, declared, ?_, ?_⟩
  · exact fun before first rest at_ _ fails _ ↦ (never at_ fails).elim
  · exact fun call hardware ↦ absurd hardware (blameless call)
  · exact fun before entry rest at_ fails ↦ (never at_ fails).elim

theorem of_failed {before rest : List Entry} {first : Entry} (sound : Sound before)
    (fails : first.fails = true) (unwinds : Releases rest)
    (declared : (.error (.hardware first.call) : Except Failure (Option Bool)) = .error .timeout ↔
      Declared bus action (before ++ first :: rest)) :
    FirstCause bus action (before ++ first :: rest) (.error (.hardware first.call)) := by
  refine ⟨?_, declared, ?_, ?_⟩
  · intro earlier entry later at_ quiet fails' _
    rcases first_or_release at_ sound unwinds fails' with ⟨-, rfl⟩ | ⟨mem, -⟩
    · rfl
    · have sound := quiet first mem
      rw [fails] at sound
      cases sound
  · rintro call ⟨⟩
    exact ⟨before, first, rest, rfl, sound, fails, rfl⟩
  · intro earlier entry later at_ fails'
    rcases first_or_release at_ sound unwinds fails' with ⟨rfl, rfl⟩ | ⟨mem, release⟩
    · exact Or.inl ⟨sound, rfl⟩
    · exact Or.inr ⟨release, Or.inl ⟨first, mem, fails⟩⟩

/-- After a wait in vain only releases can fail. -/
theorem of_vain {moment : Bus σ} {earlier unwinding : List Entry}
    (runsOut : bus.RunsOut action moment) (reached : Made bus earlier moment)
    (sound : Sound earlier) (releases : Releases unwinding) :
    FirstCause bus action (earlier ++ unwinding) (.error .timeout) := by
  have after {before rest : List Entry} {entry : Entry}
      (at_ : earlier ++ unwinding = before ++ entry :: rest) (fails : entry.fails = true) :
      Declared bus action before ∧ entry.call = .release := by
    obtain ⟨between, rfl, rfl⟩ := exists_between at_.symm sound fails
    exact ⟨⟨moment, earlier, runsOut, reached, List.prefix_append _ _⟩,
      releases entry (List.mem_append_right _ List.mem_cons_self)⟩
  refine ⟨?_, ?_, by rintro _ ⟨⟩, ?_⟩
  · intro before first rest at_ _ fails undeclared
    exact absurd (after at_ fails).1 undeclared
  · exact iff_of_true rfl ⟨moment, earlier, runsOut, reached, List.prefix_append _ _⟩
  · intro before entry rest at_ fails
    exact Or.inr ⟨(after at_ fails).2, Or.inr (after at_ fails).1⟩

end FirstCause

theorem act_firstCause (resting : bus.Resting) (action : Action σ) :
    ∃ calls, Made bus calls (bus.act action) ∧
      FirstCause bus action calls (action.perform bus).1 := by
  have acted : Acted bus action (action.perform bus).1 (bus.act action) :=
    perform_ensures resting action
  obtain ⟨calls, made, blames⟩ := acted.blames
  obtain ⟨late, vain⟩ := act_timeout_iff resting action
  refine ⟨calls, made, ?_⟩
  by_cases timeout : (action.perform bus).1 = .error .timeout
  · obtain ⟨moment, runsOut⟩ := late.mp timeout
    obtain ⟨-, ⟨earlier, reached, sound⟩, unwinding, unwound, -, releases⟩ := vain moment runsOut
    obtain rfl := calls_unique made (reached.trans unwound)
    rw [timeout]
    exact .of_vain runsOut reached sound releases
  have declared (calls : List Entry) :
      (action.perform bus).1 = .error .timeout ↔ Declared bus action calls :=
    iff_of_false timeout fun ⟨moment, _, runsOut, _⟩ ↦ timeout (late.mpr ⟨moment, runsOut⟩)
  generalize (action.perform bus).1 = result at *
  cases blames with
  | ok sound => exact .of_sound sound (declared _) (by rintro _ ⟨⟩)
  | refused sound refusal =>
    refine .of_sound sound (declared _) ?_
    rintro call ⟨⟩
    cases refusal
  | failed sound fails unwinds => exact .of_failed sound fails unwinds (declared _)
  | ranOut _ _ => exact absurd rfl timeout

/-- Failures are reported by their first cause. Whatever has been done to the engine, whatever is
done next and whatever the board fails: if a call fails before a wait was declared to be in vain,
the first such call is what the action reports, also if releases fail after it; if a wait was in
vain, that is what it reports, also if the release after it fails; and it blames the hardware only
for the first call that failed. So the failures that go unreported are those of releases, after the
action had failed already. -/
theorem run_firstCause (config : Config) (board : σ) (actions : List (Action σ))
    (action : Action σ) :
    let bus := run (create config board) actions
    ∃ calls, Made bus calls (bus.act action) ∧
      FirstCause bus action calls (action.perform bus).1 :=
  act_firstCause (run_resting config board actions) action

end SpiWifi.Bus
