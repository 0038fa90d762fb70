import Mathlib.Data.List.Induction
import SpiWifi.Latch

/-!
A latch over time. What a take is told follows from what has happened to the latch before: there
is an edge for it if one came while the latch was armed, and the latch was neither disarmed nor
taken from since. How many edges came does not matter, nor does an edge that came while the latch
was disarmed.
-/

set_option autoImplicit false
set_option relaxedAutoImplicit false

namespace SpiWifi.Latch

/-! ### Histories -/

/-- Whether an action switches the latch on or off. -/
def Action.switch? : Action → Option Bool
  | arm => some true
  | disarm => some false
  | signal | take => none

/-- Of the actions that switch the latch, the last one was to arm it. -/
def Armed (history : List Action) : Prop :=
  (history.filterMap Action.switch?).getLast? = some true

/-- An edge came while the latch was armed, and it has not been forgotten or taken since. -/
def Due (history : List Action) : Prop :=
  ∃ earlier later, history = earlier ++ .signal :: later ∧ Armed earlier ∧
    .disarm ∉ later ∧ .take ∉ later

variable {history : List Action} {action : Action}

theorem armed_concat :
    Armed (history ++ [action]) ↔ action = .arm ∨ action ≠ .disarm ∧ Armed history := by
  rw [Armed, List.filterMap_append, List.getLast?_append]
  cases action <;> simp [Action.switch?, Armed]

theorem due_concat :
    Due (history ++ [action]) ↔ action = .signal ∧ Armed history ∨
      action ≠ .disarm ∧ action ≠ .take ∧ Due history := by
  constructor
  · rintro ⟨earlier, later, split, armed, kept, waiting⟩
    -- Either the last action is the edge itself, or it comes after the edge.
    rcases List.eq_nil_or_concat later with rfl | ⟨before, last, rfl⟩
    · obtain ⟨rfl, ⟨⟩⟩ := List.append_inj' split rfl
      exact .inl ⟨rfl, armed⟩
    · rw [List.concat_eq_append, ← List.cons_append, ← List.append_assoc] at split
      obtain ⟨rfl, ⟨⟩⟩ := List.append_inj' split rfl
      rw [List.concat_eq_append, List.mem_append, not_or, List.mem_singleton] at kept waiting
      exact .inr ⟨Ne.symm kept.2, Ne.symm waiting.2, earlier, before, rfl, armed, kept.1,
        waiting.1⟩
  · rintro (⟨rfl, armed⟩ | ⟨kept, waiting, earlier, later, rfl, armed, before, untaken⟩)
    · exact ⟨history, [], rfl, armed, List.not_mem_nil, List.not_mem_nil⟩
    · refine ⟨earlier, later ++ [action], by rw [List.append_assoc, List.cons_append], armed,
        ?_, ?_⟩
      · rw [List.mem_append, not_or, List.mem_singleton]
        exact ⟨before, Ne.symm kept⟩
      · rw [List.mem_append, not_or, List.mem_singleton]
        exact ⟨untaken, Ne.symm waiting⟩

theorem not_due_nil : ¬ Due [] := by
  rintro ⟨earlier, later, split, -⟩
  exact List.append_ne_nil_of_right_ne_nil earlier (List.cons_ne_nil _ later) split.symm

/-- Without an edge since it was taken from, there is nothing to take. -/
theorem not_due_of_quiet {earlier between : List Action} (quiet : .signal ∉ between) :
    ¬ Due (earlier ++ .take :: between) := by
  induction between using List.reverseRecOn with
  | nil =>
    rw [due_concat]
    rintro (⟨⟨⟩, -⟩ | ⟨-, untaken, -⟩)
    exact untaken rfl
  | append_singleton between action ih =>
    rw [List.mem_append, not_or, List.mem_singleton] at quiet
    rw [← List.cons_append, ← List.append_assoc, due_concat]
    rintro (⟨rfl, -⟩ | ⟨-, -, due⟩)
    · exact quiet.2 rfl
    · exact ih quiet.1 due

/-! ### Runs -/

/-- What becomes of a latch. -/
def run (latch : Latch) (history : List Action) : Latch :=
  history.foldl (fun latch action ↦ (latch.act action).2) latch

/-- What the latch answers to each action. -/
def answers (latch : Latch) : List Action → List (Option Bool)
  | [] => []
  | action :: rest => (latch.act action).1 :: answers (latch.act action).2 rest

/-- What the takes are told, the first one first. -/
def told (latch : Latch) (history : List Action) : List Bool :=
  (latch.answers history).filterMap id

variable {latch : Latch} {earlier later : List Action}

theorem run_append (latch : Latch) (earlier later : List Action) :
    latch.run (earlier ++ later) = (latch.run earlier).run later := List.foldl_append

theorem run_concat (latch : Latch) (history : List Action) (action : Action) :
    latch.run (history ++ [action]) = ((latch.run history).act action).2 := run_append ..

theorem length_answers (latch : Latch) (history : List Action) :
    (latch.answers history).length = history.length := by
  induction history generalizing latch with
  | nil => rfl
  | cons action rest ih => exact congrArg Nat.succ (ih _)

theorem answers_append (latch : Latch) (earlier later : List Action) :
    latch.answers (earlier ++ later) =
      latch.answers earlier ++ (latch.run earlier).answers later := by
  induction earlier generalizing latch with
  | nil => rfl
  | cons action rest ih => exact congrArg _ (ih _)

theorem answers_getElem? (latch : Latch) (earlier later : List Action) (action : Action) :
    (latch.answers (earlier ++ action :: later))[earlier.length]? =
      some ((latch.run earlier).act action).1 := by
  rw [answers_append, List.getElem?_append_right (Nat.le_of_eq (length_answers ..)),
    length_answers, Nat.sub_self]
  rfl

/-- An action that answers nothing and changes nothing might as well not happen. -/
theorem told_skip (idle : (latch.run earlier).act action = (none, latch.run earlier)) :
    latch.told (earlier ++ action :: later) = latch.told (earlier ++ later) := by
  rw [told, told, answers_append, answers_append, answers, idle, List.filterMap_append,
    List.filterMap_append]
  rfl

/-- A new latch is as its history says. -/
theorem run_known (history : List Action) :
    ((run {} history).armed = true ↔ Armed history) ∧
      ((run {} history).pending = true ↔ Due history) := by
  induction history using List.reverseRecOn with
  | nil =>
    exact ⟨iff_of_false Bool.false_ne_true nofun, iff_of_false Bool.false_ne_true not_due_nil⟩
  | append_singleton history action ih =>
    obtain ⟨armed, pending⟩ := ih
    rw [run_concat, armed_concat, due_concat, ← armed, ← pending]
    cases action <;> simp [act, signal, arm, disarm, take, or_comm]

theorem act_signal_of_pending (pending : latch.pending = true) :
    latch.act .signal = (none, latch) := by
  rw [act, signal, pending, Bool.true_or, ← pending]

theorem act_signal_of_disarmed (disarmed : latch.armed = false) :
    latch.act .signal = (none, latch) := by
  rw [act, signal, disarmed, Bool.or_false, ← disarmed]

theorem act_arm_of_armed (armed : latch.armed = true) : latch.act .arm = (none, latch) := by
  rw [act, arm, ← armed]

/-! ### What a latch tells -/

/-- What a new latch tells, for what happens to it between some earlier and some later actions. -/
structure Tells (earlier later : List Action) : Prop where
  /-- A take gets an edge exactly if one is due. -/
  edge_iff : (answers {} (earlier ++ .take :: later))[earlier.length]? = some (some true) ↔
    Due earlier
  none_iff : (answers {} (earlier ++ .take :: later))[earlier.length]? = some (some false) ↔
    ¬ Due earlier
  /-- Nothing else is answered. -/
  silent : ∀ action, action ≠ .take →
    (answers {} (earlier ++ action :: later))[earlier.length]? = some none
  /-- A second edge makes no difference as long as the first one is due. -/
  collapsed : ∀ between, Armed earlier → .disarm ∉ between → .take ∉ between →
    told {} (earlier ++ .signal :: (between ++ .signal :: later)) =
      told {} (earlier ++ .signal :: (between ++ later))
  /-- However many edges there were, they are gone with the first take. -/
  spent : ∀ between, .signal ∉ between →
    (answers {} (earlier ++ .take :: (between ++ .take :: later)))[earlier.length + 1 +
      between.length]? = some (some false)
  /-- An edge that comes while the latch is disarmed is never told of, whatever comes later. -/
  lost : ¬ Armed earlier → told {} (earlier ++ .signal :: later) = told {} (earlier ++ later)
  /-- Arming a latch that is armed makes no difference. -/
  rearmed : Armed earlier → told {} (earlier ++ .arm :: later) = told {} (earlier ++ later)

theorem answers_take (earlier later : List Action) (got : Bool) :
    (answers {} (earlier ++ .take :: later))[earlier.length]? = some (some got) ↔
      (run {} earlier).pending = got := by
  rw [answers_getElem?, Option.some_inj]
  exact Option.some_inj

/-- A new latch tells a take of an edge exactly if one came while the latch was armed, and it was
neither disarmed nor taken from since. -/
theorem answers_tells (earlier later : List Action) : Tells earlier later where
  edge_iff := (answers_take ..).trans (run_known earlier).2
  none_iff := by
    rw [answers_take, ← (run_known earlier).2, Bool.not_eq_true]
  silent action other := by
    rw [answers_getElem?]
    cases action with
    | take => exact absurd rfl other
    | _ => rfl
  collapsed between armed kept untaken := by
    have due : Due (earlier ++ .signal :: between) := ⟨earlier, between, rfl, armed, kept, untaken⟩
    have skip : told {} ((earlier ++ .signal :: between) ++ .signal :: later) =
        told {} ((earlier ++ .signal :: between) ++ later) :=
      told_skip (act_signal_of_pending ((run_known _).2.mpr due))
    rwa [List.append_assoc, List.append_assoc] at skip
  spent between quiet := by
    have empty := (answers_take (earlier ++ .take :: between) later false).mpr
      (Bool.eq_false_iff.mpr (mt (run_known _).2.mp (not_due_of_quiet quiet)))
    rw [List.append_assoc, List.length_append, List.length_cons] at empty
    rwa [Nat.add_right_comm, Nat.add_assoc]
  lost disarmed := told_skip (act_signal_of_disarmed
    (Bool.eq_false_iff.mpr (mt (run_known earlier).1.mp disarmed)))
  rearmed armed := told_skip (act_arm_of_armed ((run_known earlier).1.mpr armed))

/-- The edge from before it was armed is lost, and of the others one is left. -/
example : told {} [.signal, .arm, .signal, .arm, .signal, .take, .take] = [true, false] := by decide

end SpiWifi.Latch
