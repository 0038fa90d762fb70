import SpiWifi.Proofs.Wlan.Tracing

/-!
Procedures: lists of tasks that a station carries out with its chip, one after the other.
`Performed tasks trace result` says that the trace is what the tasks ask for, up to the first
command that the procedure depends on and that failed.
-/

set_option autoImplicit false
set_option relaxedAutoImplicit false

namespace SpiWifi.Wlan

open Chip

inductive Task where
  | poll
  /-- A wait of exactly so many milliseconds. -/
  | settle (millis : UInt32)
  /-- A command whose failure changes nothing. -/
  | attempt (request : Command)
  /-- A command whose failure ends the procedure. -/
  | demand (request : Command)

def Task.command? : Task → Option Command
  | .attempt request | .demand request => some request
  | _ => none

/-- The commands of a procedure that nothing stops. -/
def taskCommands (tasks : List Task) : List Command := tasks.filterMap Task.command?

/-- What some tasks ask of the chip, up to the first command they depend on that failed. -/
inductive Performed (interval : Nat) :
    List Task → List Exchange → Except WifiError Unit → Prop where
  | done : Performed interval [] [] (.ok ())
  | poll {outcome : Outcome .poll} {tasks : List Task} {trace : List Exchange}
      {result : Except WifiError Unit} (rest : Performed interval tasks trace result) :
      Performed interval (.poll :: tasks) (⟨.poll, outcome⟩ :: trace) result
  | settle {millis : UInt32} {record : Events.Record} {wait : List Exchange} {tasks : List Task}
      {trace : List Exchange} {result : Except WifiError Unit}
      (waited : Host.Waited (fun _ ↦ false) interval millis.toNat record wait false)
      (rest : Performed interval tasks trace result) :
      Performed interval (.settle millis :: tasks) (wait ++ trace) result
  | attempt {request : Command} {outcome : Outcome (.command request)} {tasks : List Task}
      {trace : List Exchange} {result : Except WifiError Unit}
      (rest : Performed interval tasks trace result) :
      Performed interval (.attempt request :: tasks) (⟨.command request, outcome⟩ :: trace) result
  | demand {request : Command} {outcome : Outcome (.command request)} {answer : request.Answer}
      {tasks : List Task} {trace : List Exchange} {result : Except WifiError Unit}
      (accepted : outcome.answer = .ok answer) (rest : Performed interval tasks trace result) :
      Performed interval (.demand request :: tasks) (⟨.command request, outcome⟩ :: trace) result
  | refused {request : Command} {outcome : Outcome (.command request)} {status : Status}
      {tasks : List Task} (refused : outcome.answer = .error status) :
      Performed interval (.demand request :: tasks) [⟨.command request, outcome⟩]
        (.error (.command status))

/-- The command is one that may fail. -/
def Dispensable (tasks : List Task) (exchange : Exchange) : Prop :=
  ∃ request, exchange.command? = some request ∧ .attempt request ∈ tasks

theorem Dispensable.cons {tasks : List Task} {exchange : Exchange} (h : Dispensable tasks exchange)
    (task : Task) : Dispensable (task :: tasks) exchange := by
  obtain ⟨request, command, mem⟩ := h
  exact ⟨request, command, List.mem_cons_of_mem _ mem⟩

/-- The last command is one that the tasks depend on, and it failed. -/
def Stopped (tasks : List Task) (trace : List Exchange) (failure : WifiError) : Prop :=
  ∃ earlier last request status, trace = earlier ++ [last] ∧ last.command? = some request ∧
    .demand request ∈ tasks ∧ last.failure? = some status ∧ failure = .command status

theorem Stopped.prepend {tasks : List Task} {trace : List Exchange} {failure : WifiError}
    (h : Stopped tasks trace failure) (task : Task) (first : List Exchange) :
    Stopped (task :: tasks) (first ++ trace) failure := by
  obtain ⟨earlier, last, request, status, rfl, command, mem, fails⟩ := h
  exact ⟨first ++ earlier, last, request, status, (List.append_assoc ..).symm, command,
    List.mem_cons_of_mem _ mem, fails⟩

namespace Performed

variable {interval : Nat} {tasks more : List Task} {trace later : List Exchange}
  {result : Except WifiError Unit}

theorem append (h : Performed interval tasks trace (.ok ()))
    (k : Performed interval more later result) :
    Performed interval (tasks ++ more) (trace ++ later) result := by
  generalize hok : (Except.ok () : Except WifiError Unit) = finished at h
  induction h with
  | done => exact k
  | poll _ ih => exact .poll (ih hok)
  | settle waited _ ih =>
    rw [List.append_assoc]
    exact .settle waited (ih hok)
  | attempt _ ih => exact .attempt (ih hok)
  | demand accepted _ ih => exact .demand accepted (ih hok)
  | refused => cases hok

/-- A procedure that was stopped never comes to more tasks. -/
theorem append_error {failure : WifiError} (h : Performed interval tasks trace (.error failure))
    (more : List Task) : Performed interval (tasks ++ more) trace (.error failure) := by
  generalize herror : Except.error failure = finished at h ⊢
  induction h with
  | done => cases herror
  | poll _ ih => exact .poll (ih herror)
  | settle waited _ ih => exact .settle waited (ih herror)
  | attempt _ ih => exact .attempt (ih herror)
  | demand accepted _ ih => exact .demand accepted (ih herror)
  | refused refused => exact .refused refused

/-- A procedure in two parts stops in the first of them or comes to the second. -/
theorem split (h : Performed interval (tasks ++ more) trace result) :
    (∃ failure, result = .error failure ∧ Performed interval tasks trace (.error failure)) ∨
      ∃ early late, trace = early ++ late ∧ Performed interval tasks early (.ok ()) ∧
        Performed interval more late result := by
  induction tasks generalizing trace with
  | nil => exact Or.inr ⟨[], trace, rfl, .done, h⟩
  | cons task tasks ih =>
    cases h with
    | poll rest =>
      rcases ih rest with ⟨failure, ends, failed⟩ | ⟨early, late, rfl, first, second⟩
      · exact Or.inl ⟨failure, ends, .poll failed⟩
      · exact Or.inr ⟨_ :: early, late, rfl, .poll first, second⟩
    | settle waited rest =>
      rcases ih rest with ⟨failure, ends, failed⟩ | ⟨early, late, rfl, first, second⟩
      · exact Or.inl ⟨failure, ends, .settle waited failed⟩
      · exact Or.inr ⟨_, late, (List.append_assoc ..).symm, .settle waited first, second⟩
    | attempt rest =>
      rcases ih rest with ⟨failure, ends, failed⟩ | ⟨early, late, rfl, first, second⟩
      · exact Or.inl ⟨failure, ends, .attempt failed⟩
      · exact Or.inr ⟨_ :: early, late, rfl, .attempt first, second⟩
    | demand accepted rest =>
      rcases ih rest with ⟨failure, ends, failed⟩ | ⟨early, late, rfl, first, second⟩
      · exact Or.inl ⟨failure, ends, .demand accepted failed⟩
      · exact Or.inr ⟨_ :: early, late, rfl, .demand accepted first, second⟩
    | refused refused => exact Or.inl ⟨_, rfl, .refused refused⟩

/-- The commands of the procedure come in its order, none is left out. -/
theorem commands_isPrefix (h : Performed interval tasks trace result) :
    commands trace <+: taskCommands tasks := by
  induction h with
  | done => exact List.nil_prefix
  | poll _ ih => exact ih
  | settle waited _ ih =>
    rw [commands_append, waited.commands_eq]
    exact ih
  | attempt _ ih => exact List.cons_prefix_cons.mpr ⟨rfl, ih⟩
  | demand _ _ ih => exact List.cons_prefix_cons.mpr ⟨rfl, ih⟩
  | @refused request _ _ tasks _ => exact List.prefix_append [request] (taskCommands tasks)

/-- A procedure that was not stopped has issued all of its commands. -/
theorem commands_eq (h : Performed interval tasks trace (.ok ())) :
    commands trace = taskCommands tasks := by
  generalize hok : (Except.ok () : Except WifiError Unit) = finished at h
  induction h with
  | done => rfl
  | poll _ ih => exact ih hok
  | settle waited _ ih =>
    rw [commands_append, waited.commands_eq]
    exact ih hok
  | attempt _ ih => exact congrArg _ (ih hok)
  | demand _ _ ih => exact congrArg _ (ih hok)
  | refused => cases hok

theorem stopped {failure : WifiError} (h : Performed interval tasks trace (.error failure)) :
    Stopped tasks trace failure := by
  generalize herror : Except.error failure = finished at h
  induction h with
  | done => cases herror
  | poll _ ih => exact (ih herror).prepend _ [_]
  | @settle _ _ wait _ _ _ _ _ ih => exact (ih herror).prepend _ wait
  | attempt _ ih => exact (ih herror).prepend _ [_]
  | demand _ _ ih => exact (ih herror).prepend _ [_]
  | @refused request _ status _ refused =>
    cases herror
    exact ⟨[], _, request, status, rfl, rfl, List.mem_cons_self, Exchange.failure?_error refused,
      rfl⟩

/-- What nothing stopped has succeeded in all that it depends on. -/
theorem accepted {request : Command} (h : Performed interval tasks trace (.ok ()))
    (mem : .demand request ∈ tasks) :
    ∃ exchange ∈ trace, exchange.command? = some request ∧ exchange.failure? = none := by
  generalize hok : (Except.ok () : Except WifiError Unit) = finished at h
  induction h with
  | done => cases mem
  | poll _ ih =>
    obtain ⟨exchange, listed, succeeds⟩ := ih ((List.mem_cons.mp mem).resolve_left nofun) hok
    exact ⟨exchange, List.mem_cons_of_mem _ listed, succeeds⟩
  | settle _ _ ih =>
    obtain ⟨exchange, listed, succeeds⟩ := ih ((List.mem_cons.mp mem).resolve_left nofun) hok
    exact ⟨exchange, List.mem_append_right _ listed, succeeds⟩
  | attempt _ ih =>
    obtain ⟨exchange, listed, succeeds⟩ := ih ((List.mem_cons.mp mem).resolve_left nofun) hok
    exact ⟨exchange, List.mem_cons_of_mem _ listed, succeeds⟩
  | demand answered _ ih =>
    rcases List.mem_cons.mp mem with same | mem
    · cases same
      exact ⟨_, List.mem_cons_self, rfl, Exchange.failure?_ok answered⟩
    · obtain ⟨exchange, listed, succeeds⟩ := ih mem hok
      exact ⟨exchange, List.mem_cons_of_mem _ listed, succeeds⟩
  | refused => cases hok

/-- What was stopped has not succeeded in its last command, if it asks for that only once. -/
theorem last_fails {failure : WifiError} {request : Command}
    (h : Performed interval (tasks ++ [.demand request]) trace (.error failure))
    (once : request ∉ taskCommands tasks) {exchange : Exchange} (mem : exchange ∈ trace)
    (command : exchange.command? = some request) : exchange.failure? ≠ none := by
  obtain ⟨earlier, last, stopper, status, rfl, stops, -, fails, -⟩ := h.stopped
  rcases List.mem_append.mp mem with mem | mem
  · have order : commands earlier ++ [stopper] <+: taskCommands tasks ++ [request] := by
      simpa [commands, stops, taskCommands, Task.command?] using h.commands_isPrefix
    have listed := command?_mem mem command
    rcases List.prefix_concat_iff.mp order with all | some
    · rw [(List.append_inj' all rfl).1] at listed
      exact absurd listed once
    · exact absurd (some.subset (List.mem_append_left _ listed)) once
  · rw [List.mem_singleton.mp mem, fails]
    nofun

/-- A command that failed is one that may fail, or it has stopped the procedure. -/
theorem dispensable_or_error (h : Performed interval tasks trace result) {exchange : Exchange}
    {status : Status} (mem : exchange ∈ trace) (fails : exchange.failure? = some status) :
    Dispensable tasks exchange ∨ result = .error (.command status) := by
  induction h with
  | done => cases mem
  | poll _ ih =>
    rcases List.mem_cons.mp mem with rfl | mem
    · cases fails
    · exact (ih mem).imp_left fun dispensable ↦ dispensable.cons _
  | settle waited _ ih =>
    rcases List.mem_append.mp mem with mem | mem
    · rw [failure?_eq_none waited.commands_eq mem] at fails
      cases fails
    · exact (ih mem).imp_left fun dispensable ↦ dispensable.cons _
  | @attempt request _ _ _ _ _ ih =>
    rcases List.mem_cons.mp mem with rfl | mem
    · exact Or.inl ⟨request, rfl, List.mem_cons_self⟩
    · exact (ih mem).imp_left fun dispensable ↦ dispensable.cons _
  | demand accepted _ ih =>
    rcases List.mem_cons.mp mem with rfl | mem
    · rw [Exchange.failure?_ok accepted] at fails
      cases fails
    · exact (ih mem).imp_left fun dispensable ↦ dispensable.cons _
  | refused refused =>
    rw [List.mem_singleton.mp mem, Exchange.failure?_error refused] at fails
    cases fails
    exact Or.inr rfl

end Performed

namespace Station

variable {σ α β : Type} {station : Station σ}

/-- Nothing has changed but what the host keeps of the chip. -/
def Steady (before after : Station σ) : Prop := after = { before with host := after.host }

namespace Steady

variable {before middle after : Station σ}

theorem trans (h : Steady before middle) (k : Steady middle after) : Steady before after := by
  unfold Steady at h k ⊢
  rw [k, h]

theorem config (h : Steady before after) : after.config = before.config := by rw [h]

theorem stage (h : Steady before after) : after.stage = before.stage := by rw [h]

theorem isInitialized (h : Steady before after) : after.isInitialized = before.isInitialized := by
  rw [Station.isInitialized, h.stage, Station.isInitialized]

end Steady

theorem onHost_traces {work : HostM σ α} {holds : List Exchange → α → Prop}
    (h : ∃ trace, station.host.Made trace (work station.host).2 ∧
      holds trace (work station.host).1) :
    Traces (onHost work) station fun trace value after ↦
      holds trace value ∧ Steady station after := by
  obtain ⟨trace, made, holds⟩ := h
  exact ⟨trace, ⟨made, rfl⟩, holds, rfl⟩

variable [Layer σ]

theorem poll_traces (station : Station σ) :
    Traces poll station fun trace _ after ↦
      (∃ outcome : Outcome .poll, trace = [⟨.poll, outcome⟩]) ∧ Steady station after := by
  apply onHost_traces
  obtain ⟨outcome, -, made⟩ := Host.ask_made .poll station.host
  exact ⟨_, made, outcome, rfl⟩

theorem pause_traces (millis : UInt32) (station : Station σ) :
    Traces (pause millis) station fun trace _ after ↦
      (∃ outcome : Outcome (.pause millis), trace = [⟨.pause millis, outcome⟩]) ∧
        Steady station after := by
  apply onHost_traces
  obtain ⟨outcome, -, made⟩ := Host.ask_made (.pause millis) station.host
  exact ⟨_, made, outcome, rfl⟩

theorem ask_traces (request : Command) (station : Station σ) :
    Traces (ask request) station fun trace answer after ↦
      (∃ outcome : Outcome (.command request), trace = [⟨.command request, outcome⟩] ∧
        answer = outcome.answer) ∧ Steady station after := by
  apply onHost_traces
  obtain ⟨outcome, answer, made⟩ := Host.ask_made (.command request) station.host
  exact ⟨_, made, outcome, rfl, answer⟩

theorem tryCommand_traces (request : Command) (station : Station σ) :
    Traces (tryCommand request) station fun trace _ after ↦
      (∃ outcome : Outcome (.command request), trace = [⟨.command request, outcome⟩]) ∧
        Steady station after := by
  obtain ⟨trace, asked, ⟨outcome, rfl, -⟩, steady⟩ := ask_traces request station
  exact ⟨_, asked, ⟨outcome, rfl⟩, steady⟩

theorem waitUntil_traces (timeout : UInt32) (done : Events.Record → Bool) (station : Station σ) :
    Traces (waitUntil timeout done) station fun trace met after ↦
      Host.Waited done station.config.interval timeout.toNat station.host.record trace met ∧
        Steady station after := by
  unfold waitUntil
  simp only [traces_get_andThen]
  exact onHost_traces
    (Host.waitLoop_waited done station.config.pollInterval timeout 0 station.host)

theorem settle_traces (millis : UInt32) (station : Station σ) :
    Traces (settle millis) station fun trace _ after ↦
      (∃ record, Host.Waited (fun _ ↦ false) station.config.interval millis.toNat record trace
        false) ∧ Steady station after := by
  obtain ⟨trace, asked, waited, steady⟩ := waitUntil_traces millis (fun _ ↦ false) station
  refine ⟨trace, asked, ⟨station.host.record, ?_⟩, steady⟩
  rwa [← waited.done_eq] at waited

/-! ### One task after the other

Each rule prefixes what follows a task with what the task asked for. -/

section Rules

variable {next : Unit → StationM σ β} {post : List Exchange → Except WifiError β → Station σ → Prop}

theorem Traces.poll (rest : ∀ (outcome : Outcome .poll) (middle : Station σ),
      Asked station [⟨.poll, outcome⟩] middle → Steady station middle →
      Traces (next ()) middle fun later result last ↦
        post (⟨.poll, outcome⟩ :: later) result last) :
    Traces (liftM (Station.poll (σ := σ)) >>= next : StationM σ β) station post := by
  refine (poll_traces station).lift ?_
  rintro _ _ middle asked ⟨⟨outcome, rfl⟩, steady⟩
  exact rest outcome middle asked steady

theorem Traces.settle {millis : UInt32}
    (rest : ∀ (wait : List Exchange) (record : Events.Record) (middle : Station σ),
      Host.Waited (fun _ ↦ false) station.config.interval millis.toNat record wait false →
      Asked station wait middle → Steady station middle →
      Traces (next ()) middle fun later result last ↦ post (wait ++ later) result last) :
    Traces (liftM (Station.settle (σ := σ) millis) >>= next : StationM σ β) station post := by
  refine (settle_traces millis station).lift ?_
  rintro wait _ middle asked ⟨⟨record, waited⟩, steady⟩
  exact rest wait record middle waited asked steady

theorem command_traces (request : Command) (station : Station σ) :
    Traces (command request) station fun trace result after ↦
      (∃ outcome : Outcome (.command request), trace = [⟨.command request, outcome⟩] ∧
        result = outcome.answer.mapError .command) ∧ Steady station after := by
  unfold command
  refine (ask_traces request station).lift ?_
  rintro _ _ middle asked ⟨⟨outcome, rfl, rfl⟩, steady⟩
  cases hanswer : outcome.answer with
  | ok answer => exact traces_pure ⟨⟨outcome, rfl, by rw [hanswer]; rfl⟩, steady⟩
  | error status => exact traces_throw ⟨⟨outcome, rfl, by rw [hanswer]; rfl⟩, steady⟩

theorem Traces.demand {request : Command} {next : request.Answer → StationM σ β}
    (accepted : ∀ (outcome : Outcome (.command request)) (answer : request.Answer)
      (middle : Station σ), outcome.answer = .ok answer →
      Asked station [⟨.command request, outcome⟩] middle → Steady station middle →
      Traces (next answer) middle fun later result last ↦
        post (⟨.command request, outcome⟩ :: later) result last)
    (refused : ∀ (outcome : Outcome (.command request)) (status : Status) (after : Station σ),
      outcome.answer = .error status → Steady station after →
      post [⟨.command request, outcome⟩] (.error (.command status)) after) :
    Traces (command request >>= next : StationM σ β) station post := by
  refine (command_traces request station).bind ?_ ?_
  · rintro _ answer middle asked ⟨⟨outcome, rfl, result⟩, steady⟩
    cases hanswer : outcome.answer with
    | ok value =>
      rw [hanswer] at result
      cases result
      exact accepted outcome answer middle hanswer asked steady
    | error status =>
      rw [hanswer] at result
      cases result
  · rintro _ failure after ⟨⟨outcome, rfl, result⟩, steady⟩
    cases hanswer : outcome.answer with
    | ok value =>
      rw [hanswer] at result
      cases result
    | error status =>
      rw [hanswer] at result
      cases result
      exact refused outcome status after hanswer steady

end Rules

end Station

end SpiWifi.Wlan
