import SpiWifi.Chip.Host

/-!
Traces: what a host has asked of its chip and what came back, the first request first. The
record of a host follows from the reports in its trace. In particular the link counts as up
exactly if the last report on it said so.
-/

set_option autoImplicit false
set_option relaxedAutoImplicit false

namespace SpiWifi

namespace Chip

/-- The reports that came in during some requests. -/
def reports (trace : List Exchange) : List Notice := trace.flatMap (·.outcome.notices)

@[simp] theorem reports_append (first second : List Exchange) :
    reports (first ++ second) = reports first ++ reports second := List.flatMap_append

namespace Exchange

/-- The exchange serves the chip. -/
def isPoll : Exchange → Bool
  | ⟨.poll, _⟩ => true
  | _ => false

def command? : Exchange → Option Command
  | ⟨.command request, _⟩ => some request
  | _ => none

/-- The status of a command that failed. -/
def failure? : Exchange → Option Status
  | ⟨.command _, outcome⟩ =>
    match outcome.answer with
    | .error status => some status
    | .ok _ => none
  | _ => none

theorem exists_command?_of_failure? {exchange : Exchange} {status : Status}
    (h : exchange.failure? = some status) : ∃ request, exchange.command? = some request := by
  obtain ⟨_ | _ | request, outcome⟩ := exchange
  · cases h
  · cases h
  · exact ⟨request, rfl⟩

theorem failure?_error {request : Command} {outcome : Outcome (.command request)} {status : Status}
    (h : outcome.answer = .error status) : failure? ⟨.command request, outcome⟩ = some status := by
  simp only [failure?, h]

theorem failure?_ok {request : Command} {outcome : Outcome (.command request)}
    {answer : request.Answer} (h : outcome.answer = .ok answer) :
    failure? ⟨.command request, outcome⟩ = none := by
  simp only [failure?, h]

/-- How long an exchange pauses. -/
def millis : Exchange → Nat
  | ⟨.pause millis, _⟩ => millis.toNat
  | _ => 0

end Exchange

/-- The commands among some requests. -/
def commands (trace : List Exchange) : List Command := trace.filterMap Exchange.command?

@[simp] theorem commands_command (request : Command) (outcome : Outcome (.command request))
    (rest : List Exchange) :
    commands (⟨.command request, outcome⟩ :: rest) = request :: commands rest := rfl

@[simp] theorem commands_poll (outcome : Outcome .poll) (rest : List Exchange) :
    commands (⟨.poll, outcome⟩ :: rest) = commands rest := rfl

@[simp] theorem commands_pause {millis : UInt32} (outcome : Outcome (.pause millis))
    (rest : List Exchange) : commands (⟨.pause millis, outcome⟩ :: rest) = commands rest := rfl

@[simp] theorem commands_append (first second : List Exchange) :
    commands (first ++ second) = commands first ++ commands second := List.filterMap_append

theorem command?_mem {trace : List Exchange} {exchange : Exchange} {request : Command}
    (mem : exchange ∈ trace) (command : exchange.command? = some request) :
    request ∈ commands trace := List.mem_filterMap.mpr ⟨exchange, mem, command⟩

/-- Where no command is issued none fails. -/
theorem failure?_eq_none {trace : List Exchange} (h : commands trace = []) {exchange : Exchange}
    (mem : exchange ∈ trace) : exchange.failure? = none := by
  cases fails : exchange.failure? with
  | none => rfl
  | some status =>
    obtain ⟨request, command⟩ := Exchange.exists_command?_of_failure? fails
    have listed := command?_mem mem command
    rw [h] at listed
    cases listed

/-- An exchange of a trace in two parts is in one of them. -/
theorem split_append {first second earlier later : List Exchange} {exchange : Exchange}
    (h : first ++ second = earlier ++ exchange :: later) :
    (∃ tail, first = earlier ++ exchange :: tail ∧ later = tail ++ second) ∨
      ∃ middle, earlier = first ++ middle ∧ second = middle ++ exchange :: later := by
  rcases List.append_eq_append_iff.mp h with ⟨middle, front, back⟩ | ⟨tail, front, back⟩
  · exact Or.inr ⟨middle, front, back⟩
  cases tail with
  | nil =>
    rw [List.append_nil] at front
    exact Or.inr ⟨[], by rw [front, List.append_nil], back.symm⟩
  | cons next tail =>
    obtain ⟨rfl, rfl⟩ := List.cons.inj back
    exact Or.inl ⟨tail, front, rfl⟩

/-- What is not asked for in the first part of a trace is asked for behind it. -/
theorem split_behind {first second earlier later : List Exchange} {exchange : Exchange}
    {request : Command} (h : first ++ second = earlier ++ exchange :: later)
    (command : exchange.command? = some request) (absent : request ∉ commands first) :
    ∃ middle, earlier = first ++ middle ∧ second = middle ++ exchange :: later := by
  rcases split_append h with ⟨tail, rfl, -⟩ | behind
  · exact absurd (command?_mem (List.mem_append_right _ List.mem_cons_self) command) absent
  · exact behind

/-- What only one exchange of a trace can be is that exchange, wherever it is found. -/
theorem split_unique {special : Exchange → Prop} {first second earlier later : List Exchange}
    {only found : Exchange} (h : first ++ only :: second = earlier ++ found :: later)
    (before : ∀ exchange ∈ first, ¬ special exchange)
    (after : ∀ exchange ∈ second, ¬ special exchange) (holds : special found) :
    earlier = first ∧ found = only ∧ later = second := by
  rcases split_append h with ⟨tail, rfl, -⟩ | ⟨middle, rfl, rest⟩
  · exact absurd holds (before found (List.mem_append_right _ List.mem_cons_self))
  cases middle with
  | nil =>
    obtain ⟨same, rest⟩ := List.cons.inj rest
    exact ⟨List.append_nil first, same.symm, rest.symm⟩
  | cons next middle =>
    obtain ⟨-, rfl⟩ := List.cons.inj rest
    exact absurd holds (after found (List.mem_append_right _ List.mem_cons_self))

/-- What no command of a trace is none of its exchanges asks for. -/
theorem any_command?_eq_false {trace : List Exchange} {kind : Command → Bool}
    (none : ∀ request ∈ commands trace, kind request = false) {exchange : Exchange}
    (mem : exchange ∈ trace) : exchange.command?.any kind = false := by
  cases command : exchange.command? with
  | none => rfl
  | some request => exact none request (command?_mem mem command)

/-- How long some requests pause altogether. -/
def pausedFor : List Exchange → Nat
  | [] => 0
  | exchange :: rest => exchange.millis + pausedFor rest

@[simp] theorem pausedFor_poll (outcome : Outcome .poll) (rest : List Exchange) :
    pausedFor (⟨.poll, outcome⟩ :: rest) = pausedFor rest := Nat.zero_add _

@[simp] theorem pausedFor_pause {millis : UInt32} (outcome : Outcome (.pause millis))
    (rest : List Exchange) :
    pausedFor (⟨.pause millis, outcome⟩ :: rest) = millis.toNat + pausedFor rest := rfl

@[simp] theorem pausedFor_append (first second : List Exchange) :
    pausedFor (first ++ second) = pausedFor first + pausedFor second := by
  induction first with
  | nil => exact (Nat.zero_add _).symm
  | cons exchange rest ih => rw [List.cons_append, pausedFor, pausedFor, ih, Nat.add_assoc]

/-! ### The link -/

/-- What a report says about the link. -/
def Notice.link? (notice : Notice) : Option Bool :=
  if notice.opcode = Wire.Opcode.linkUp then some true
  else if notice.opcode = Wire.Opcode.linkDown then some false
  else none

/-- What the last report on the link said. -/
def lastLink (notices : List Notice) : Option Bool := (notices.filterMap Notice.link?).getLast?

theorem lastLink_append (first second : List Notice) :
    lastLink (first ++ second) = (lastLink second).or (lastLink first) := by
  rw [lastLink, List.filterMap_append, List.getLast?_append, lastLink, lastLink]

theorem lastLink_singleton (notice : Notice) : lastLink [notice] = notice.link? := by
  rw [lastLink, List.filterMap_cons]
  cases notice.link? <;> rfl

end Chip

namespace Host

open Chip Events

theorem linkUp_apply (record : Record) (notice : Notice) :
    (record.apply notice.opcode notice.args).flags.linkUp =
      notice.link?.getD record.flags.linkUp := by
  by_cases up : notice.opcode = Wire.Opcode.linkUp
  · rw [Notice.link?, if_pos up, up]
    rfl
  by_cases down : notice.opcode = Wire.Opcode.linkDown
  · rw [Notice.link?, if_neg up, if_pos down, down]
    rfl
  · rw [Notice.link?, if_neg up, if_neg down]
    unfold Record.apply
    simp only [up, down, if_false]
    repeat' split
    all_goals rfl

theorem linkUp_applyNotices (record : Record) (notices : List Notice) :
    (applyNotices record notices).flags.linkUp =
      (lastLink notices).getD record.flags.linkUp := by
  induction notices generalizing record with
  | nil => rfl
  | cons first rest ih =>
    rw [← List.singleton_append, lastLink_append, lastLink_singleton]
    show (applyNotices (record.apply first.opcode first.args) rest).flags.linkUp = _
    rw [ih, linkUp_apply]
    cases lastLink rest <;> rfl

/-- A record after what came in during some requests. -/
def recordAfter (record : Record) (trace : List Exchange) : Record :=
  applyNotices record (reports trace)

theorem recordAfter_append (record : Record) (first second : List Exchange) :
    recordAfter record (first ++ second) = recordAfter (recordAfter record first) second := by
  rw [recordAfter, reports_append, applyNotices, List.foldl_append]
  rfl

theorem linkUp_recordAfter (record : Record) (trace : List Exchange) :
    (recordAfter record trace).flags.linkUp =
      (lastLink (reports trace)).getD record.flags.linkUp :=
  linkUp_applyNotices record (reports trace)

/-- The link counts as up if it was reported so last, or was up and not reported on. -/
theorem linkUp_recordAfter_iff {record : Record} {trace : List Exchange} :
    (recordAfter record trace).flags.linkUp = true ↔
      lastLink (reports trace) = some true ∨
        lastLink (reports trace) = none ∧ record.flags.linkUp = true := by
  rw [linkUp_recordAfter]
  cases lastLink (reports trace) <;> simp

/-- A link that was up in between and is down has been reported down last. -/
theorem lastLink_of_dropped {record : Record} {first second : List Exchange}
    (up : (recordAfter record first).flags.linkUp = true)
    (down : (recordAfter record (first ++ second)).flags.linkUp = false) :
    lastLink (reports (first ++ second)) = some false := by
  rw [recordAfter_append, linkUp_recordAfter, up] at down
  rw [reports_append, lastLink_append]
  cases link : lastLink (reports second) with
  | none =>
    rw [link] at down
    cases down
  | some last =>
    rw [link] at down
    exact congrArg some down

/-! ### From one state to another by requests alone -/

variable {σ : Type}

/-- The requests of the trace led from one state to the other, and nothing else did. -/
structure Made (before : Host σ) (trace : List Exchange) (after : Host σ) : Prop where
  history : after.history = trace.reverse ++ before.history
  record : after.record = recordAfter before.record trace

namespace Made

variable {before middle after : Host σ} {trace later : List Exchange}

theorem refl (host : Host σ) : Made host [] host := ⟨rfl, rfl⟩

theorem trans (h : Made before trace middle) (k : Made middle later after) :
    Made before (trace ++ later) after where
  history := by rw [k.history, h.history, List.reverse_append, List.append_assoc]
  record := by rw [k.record, h.record, recordAfter_append]

end Made

/-- A link that counts as up has been reported, and not as down since. -/
def LinkTold (host : Host σ) : Prop :=
  host.record.flags.linkUp = true → lastLink (reports host.history.reverse) = some true

theorem LinkTold.made {before after : Host σ} {trace : List Exchange} (told : LinkTold before)
    (made : Made before trace after) : LinkTold after := by
  intro up
  rw [made.record, linkUp_recordAfter_iff] at up
  rw [made.history, List.reverse_append, List.reverse_reverse, reports_append, lastLink_append]
  rcases up with raised | ⟨silent, up⟩
  · rw [raised, Option.some_or]
  · rw [silent, Option.none_or, told up]

theorem ask_made [Layer σ] (request : Request) (host : Host σ) :
    ∃ outcome : Outcome request, (ask request host).1 = outcome.answer ∧
      Made host [⟨request, outcome⟩] (ask request host).2 := by
  refine ⟨(Layer.respond request host.layer).1, rfl, rfl, ?_⟩
  rw [recordAfter, reports, List.flatMap_singleton]
  rfl

end Host

end SpiWifi
