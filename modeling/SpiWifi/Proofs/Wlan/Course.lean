import SpiWifi.Proofs.Wlan.Procedure

/-!
Courses: all the ways an operation can go, by its requests and its result. Courses follow one
another, each from the record that the one before it has left, and a failure ends them all. A
course with a script asks for what the script says in its order, up to the first command that
fails; a disconnect is in no script.
-/

set_option autoImplicit false
set_option relaxedAutoImplicit false

namespace SpiWifi.Wlan

open Chip Events Host

abbrev Course : Type := Record → List Exchange → Except WifiError Unit → Prop

/-- The second course is taken where the first has succeeded. -/
inductive Chained (first second : Course) (record : Record) :
    List Exchange → Except WifiError Unit → Prop where
  | stopped {trace : List Exchange} {failure : WifiError}
      (stopped : first record trace (.error failure)) :
      Chained first second record trace (.error failure)
  | passed {early late : List Exchange} {result : Except WifiError Unit}
      (passed : first record early (.ok ())) (rest : second (recordAfter record early) late result) :
      Chained first second record (early ++ late) result

def Course.followedBy (first second : Course) : Course := Chained first second

def performs (interval : Nat) (tasks : List Task) : Course := fun _ ↦ Performed interval tasks

/-- A wait for what must come in time. -/
inductive Heard (done : Record → Bool) (interval timeout : Nat) (record : Record) :
    List Exchange → Except WifiError Unit → Prop where
  | heard {wait : List Exchange} (waited : Waited done interval timeout record wait true) :
      Heard done interval timeout record wait (.ok ())
  | missed {wait : List Exchange} (waited : Waited done interval timeout record wait false) :
      Heard done interval timeout record wait (.error .timeout)

theorem Heard.commands_eq {done : Record → Bool} {interval timeout : Nat} {record : Record}
    {trace : List Exchange} {result : Except WifiError Unit}
    (h : Heard done interval timeout record trace result) : commands trace = [] := by
  cases h with
  | heard waited => exact waited.commands_eq
  | missed waited => exact waited.commands_eq

theorem followedBy_assoc (first second third : Course) :
    (first.followedBy second).followedBy third =
      first.followedBy (second.followedBy third) := by
  funext record trace result
  apply propext
  constructor
  · intro h
    cases h with
    | stopped stopped =>
      cases stopped with
      | stopped stopped => exact .stopped stopped
      | passed passed stopped => exact .passed passed (.stopped stopped)
    | @passed _ later _ passed rest =>
      cases passed with
      | passed passed more =>
        rw [recordAfter_append] at rest
        rw [List.append_assoc]
        exact .passed passed (.passed more rest)
  · intro h
    cases h with
    | stopped stopped => exact .stopped (.stopped stopped)
    | passed passed rest =>
      cases rest with
      | stopped stopped => exact .stopped (.passed passed stopped)
      | passed more rest =>
        rw [← recordAfter_append] at rest
        rw [← List.append_assoc]
        exact .passed (.passed passed more) rest

theorem performs_append (interval : Nat) (tasks more : List Task) :
    (performs interval tasks).followedBy (performs interval more) =
      performs interval (tasks ++ more) := by
  funext record trace result
  apply propext
  constructor
  · intro h
    cases h with
    | stopped stopped => exact stopped.append_error more
    | passed passed rest => exact passed.append rest
  · intro h
    rcases h.split with ⟨failure, rfl, stopped⟩ | ⟨early, late, rfl, passed, rest⟩
    · exact .stopped stopped
    · exact .passed passed rest

/-- A wait that succeeds ends with what it was for. -/
theorem shown_of_heard {first : Course} {done : Record → Bool} {interval timeout : Nat}
    {record : Record} {trace : List Exchange}
    (h : first.followedBy (Heard done interval timeout) record trace (.ok ())) :
    done (recordAfter record trace) = true := by
  cases h with
  | passed _ rest =>
    cases rest with
    | heard waited =>
      rw [recordAfter_append]
      exact waited.done_eq

/-! ### Scripts -/

/-- The commands of a trace, disconnects left out. -/
def scripted (trace : List Exchange) : List Command := (commands trace).filter (· ≠ .disconnect)

@[simp] theorem scripted_append (first second : List Exchange) :
    scripted (first ++ second) = scripted first ++ scripted second := by
  rw [scripted, commands_append, List.filter_append, scripted, scripted]

theorem scripted_eq_nil {trace : List Exchange} (h : commands trace = []) :
    scripted trace = [] := by
  rw [scripted, h, List.filter_nil]

theorem mem_scripted {trace : List Exchange} {request : Command} (listed : request ∈ commands trace)
    (other : request ≠ .disconnect) : request ∈ scripted trace :=
  List.mem_filter.mpr ⟨listed, decide_eq_true other⟩

/-- No command of the trace has failed. -/
def Faultless (trace : List Exchange) : Prop := ∀ exchange ∈ trace, exchange.failure? = none

theorem Faultless.append {first second : List Exchange} (h : Faultless first)
    (k : Faultless second) : Faultless (first ++ second) := fun exchange mem ↦
  (List.mem_append.mp mem).elim (h exchange) (k exchange)

theorem faultless_of_waited {done : Record → Bool} {interval left : Nat} {record : Record}
    {trace : List Exchange} {met : Bool} (h : Waited done interval left record trace met) :
    Faultless trace := fun _ ↦ failure?_eq_none h.commands_eq

/-- At most the last command of a trace has failed, and then its status is the result. -/
inductive FailsLast : List Exchange → Except WifiError Unit → Prop where
  | faultless {trace : List Exchange} {result : Except WifiError Unit}
      (faultless : Faultless trace) (other : ∀ status, result ≠ .error (.command status)) :
      FailsLast trace result
  | failed {earlier : List Exchange} {last : Exchange} {status : Status}
      (faultless : Faultless earlier) (fails : last.failure? = some status) :
      FailsLast (earlier ++ [last]) (.error (.command status))

namespace FailsLast

variable {first trace : List Exchange} {result : Except WifiError Unit}

theorem after (h : FailsLast trace result) (before : Faultless first) :
    FailsLast (first ++ trace) result := by
  cases h with
  | faultless faultless other => exact .faultless (before.append faultless) other
  | failed faultless fails =>
    rw [← List.append_assoc]
    exact .failed (before.append faultless) fails

theorem cons {exchange : Exchange} (h : FailsLast trace result)
    (succeeds : exchange.failure? = none) : FailsLast (exchange :: trace) result := by
  have before : Faultless [exchange] := fun only mem ↦ by rw [List.mem_singleton.mp mem, succeeds]
  exact h.after before

theorem single {last : Exchange} {status : Status} (fails : last.failure? = some status) :
    FailsLast [last] (.error (.command status)) := by
  rw [← List.nil_append [last]]
  exact .failed nofun fails

theorem faultless_of_ok (h : FailsLast trace (.ok ())) : Faultless trace := by
  cases h with
  | faultless faultless _ => exact faultless

theorem failed_iff (h : FailsLast trace result) (status : Status) :
    result = .error (.command status) ↔ ∃ exchange ∈ trace, exchange.failure? = some status := by
  cases h with
  | faultless faultless other =>
    constructor
    · intro failed
      exact absurd failed (other status)
    · intro ⟨exchange, mem, fails⟩
      rw [faultless exchange mem] at fails
      cases fails
  | @failed earlier last code faultless fails =>
    constructor
    · intro failed
      cases failed
      exact ⟨last, List.mem_append_right _ List.mem_cons_self, fails⟩
    · intro ⟨exchange, mem, other⟩
      rcases List.mem_append.mp mem with mem | mem
      · rw [faultless exchange mem] at other
        cases other
      · rw [List.mem_singleton.mp mem, fails] at other
        cases other
        rfl

end FailsLast

/-- The course keeps to a script. -/
structure Keeps (course : Course) (script : List Command) : Prop where
  in_order : ∀ {record : Record} {trace : List Exchange} {result : Except WifiError Unit},
    course record trace result → scripted trace <+: script
  complete : ∀ {record : Record} {trace : List Exchange},
    course record trace (.ok ()) → scripted trace = script
  failsLast : ∀ {record : Record} {trace : List Exchange} {result : Except WifiError Unit},
    course record trace result → FailsLast trace result

namespace Keeps

variable {first second : Course} {script more : List Command} {record : Record}

theorem followedBy (h : Keeps first script) (k : Keeps second more) :
    Keeps (first.followedBy second) (script ++ more) where
  in_order := by
    intro record trace result run
    cases run with
    | stopped stopped => exact (h.in_order stopped).trans (List.prefix_append _ _)
    | passed passed rest =>
      rw [scripted_append, h.complete passed]
      exact (List.prefix_append_right_inj _).mpr (k.in_order rest)
  complete := by
    intro record trace run
    cases run with
    | passed passed rest => rw [scripted_append, h.complete passed, k.complete rest]
  failsLast := by
    intro record trace result run
    cases run with
    | stopped stopped => exact h.failsLast stopped
    | passed passed rest => exact (k.failsLast rest).after (h.failsLast passed).faultless_of_ok

/-- What is not in the script is not asked for. -/
theorem not_mem_commands (h : Keeps first script) {request : Command} (absent : request ∉ script)
    (other : request ≠ .disconnect) {trace : List Exchange} {result : Except WifiError Unit}
    (run : first record trace result) : request ∉ commands trace := fun listed ↦
  absent ((h.in_order run).subset (mem_scripted listed other))

/-- What the first of two courses never asks for is asked for behind it. -/
theorem behind (h : Keeps first script) {request : Command} (absent : request ∉ script)
    (other : request ≠ .disconnect) {earlier later : List Exchange} {exchange : Exchange}
    {result : Except WifiError Unit}
    (run : first.followedBy second record (earlier ++ exchange :: later) result)
    (command : exchange.command? = some request) :
    ∃ early middle, earlier = early ++ middle ∧ first record early (.ok ()) ∧
      second (recordAfter record early) (middle ++ exchange :: later) result := by
  generalize whole : earlier ++ exchange :: later = trace at run
  cases run with
  | stopped stopped =>
    have listed : request ∈ commands trace :=
      command?_mem (whole ▸ List.mem_append_right _ List.mem_cons_self) command
    exact absurd listed (h.not_mem_commands absent other stopped)
  | passed passed rest =>
    obtain ⟨middle, split, there⟩ :=
      split_behind whole.symm command (h.not_mem_commands absent other passed)
    rw [there] at rest
    exact ⟨_, middle, split, passed, rest⟩

end Keeps

/-- The task is not a disconnect, and no failure of it is passed over. -/
def Task.isStrict : Task → Bool
  | .attempt _ => false
  | .demand request => request ≠ .disconnect
  | _ => true

theorem Performed.failsLast {interval : Nat} {tasks : List Task} {trace : List Exchange}
    {result : Except WifiError Unit} (h : Performed interval tasks trace result)
    (strict : tasks.all Task.isStrict = true) : FailsLast trace result := by
  induction h with
  | done => exact .faultless nofun nofun
  | poll _ ih => exact (ih (Bool.and_eq_true_iff.mp strict).2).cons rfl
  | settle waited _ ih =>
    exact (ih (Bool.and_eq_true_iff.mp strict).2).after (faultless_of_waited waited)
  | attempt _ _ => cases strict
  | demand accepted _ ih =>
    exact (ih (Bool.and_eq_true_iff.mp strict).2).cons (Exchange.failure?_ok accepted)
  | refused refused => exact .single (Exchange.failure?_error refused)

theorem keeps_performs (interval : Nat) {tasks : List Task}
    (strict : tasks.all Task.isStrict = true) :
    Keeps (performs interval tasks) (taskCommands tasks) := by
  have kept : (taskCommands tasks).filter (· ≠ .disconnect) = taskCommands tasks := by
    refine List.filter_eq_self.mpr fun request listed ↦ ?_
    obtain ⟨task, mem, command⟩ := List.mem_filterMap.mp listed
    have plain := List.all_eq_true.mp strict task mem
    cases task with
    | poll => cases command
    | settle _ => cases command
    | attempt _ => cases plain
    | demand _ =>
      cases command
      exact plain
  refine ⟨fun h ↦ ?_, fun h ↦ ?_, fun h ↦ Performed.failsLast h strict⟩
  · rw [← kept]
    exact h.commands_isPrefix.filter _
  · rw [scripted, h.commands_eq, kept]

theorem keeps_heard (done : Record → Bool) (interval timeout : Nat) :
    Keeps (Heard done interval timeout) [] := by
  refine ⟨fun h ↦ List.prefix_nil.mpr (scripted_eq_nil h.commands_eq),
    fun h ↦ scripted_eq_nil h.commands_eq, fun h ↦ ?_⟩
  cases h with
  | heard waited => exact .faultless (faultless_of_waited waited) nofun
  | missed waited => exact .faultless (faultless_of_waited waited) nofun

/-! ### The course of an operation -/

namespace Station

variable {σ α β : Type} {config : Config} {first second : Course}

/-- With these settings the operation takes the course, whatever else the station has come to. -/
def Follows (config : Config) (op : StationM σ α) (course : Course) : Prop :=
  ∀ station : Station σ, station.config = config → Traces op station fun trace result _ ↦
    course station.host.record trace (result.map fun _ ↦ ())

theorem Follows.run {op : StationM σ Unit} (h : Follows config op first) {station : Station σ}
    (same : station.config = config) :
    ∃ trace, Asked station trace (op station).2 ∧
      first station.host.record trace (op station).1 := by
  obtain ⟨trace, asked, run⟩ := h station same
  refine ⟨trace, asked, ?_⟩
  cases result : (op station).1 <;> rwa [result] at run

theorem Follows.bind {op : StationM σ α} {next : α → StationM σ β} (h : Follows config op first)
    (k : ∀ value, Follows config (next value) second) :
    Follows config (op >>= next) (first.followedBy second) := by
  intro station same
  refine (h station same).bind ?_ fun trace failure after stopped ↦ .stopped stopped
  intro trace value after asked passed
  obtain ⟨later, more, rest⟩ := k value after (asked.config.trans same)
  rw [asked.host.record] at rest
  exact ⟨later, more, .passed passed rest⟩

theorem follows_get {next : Station σ → StationM σ α}
    (h : ∀ station, station.config = config → Follows config (next station) first) :
    Follows config (get >>= next) first := fun station same ↦ h station same station same

theorem follows_enter {stage : Stage} {next : Unit → StationM σ α}
    (h : Follows config (next ()) first) :
    Follows config (liftM (enter (σ := σ) stage) >>= next) first := fun station same ↦
  traces_enter_bind (h (station.inStage stage) same)

variable [Layer σ]

theorem follows_command (request : Command) :
    Follows config (command (σ := σ) request) (performs config.interval [.demand request]) := by
  intro station _
  refine (command_traces request station).mono ?_
  intro trace result after ⟨⟨outcome, asked, answered⟩, _⟩
  rw [asked, answered]
  cases answer : outcome.answer with
  | ok _ => exact .demand answer .done
  | error _ => exact .refused answer

theorem follows_await (timeout : UInt32) (done : Record → Bool) :
    Follows config (await (σ := σ) timeout done) (Heard done config.interval timeout.toNat) := by
  intro station same
  unfold await
  refine (waitUntil_traces timeout done station).lift ?_
  intro wait met middle _ ⟨waited, _⟩
  rw [same] at waited
  cases met with
  | false =>
    refine traces_throw ?_
    rw [List.append_nil]
    exact .missed waited
  | true =>
    refine traces_pure ?_
    rw [List.append_nil]
    exact .heard waited

theorem follows_settle (millis : UInt32) :
    Follows config (liftM (settle (σ := σ) millis) : StationM σ Unit)
      (performs config.interval [.settle millis]) := by
  intro station same
  obtain ⟨wait, asked, ⟨record, waited⟩, _⟩ := settle_traces millis station
  rw [same] at waited
  have settled : Performed config.interval [.settle millis] (wait ++ []) (.ok ()) :=
    .settle waited .done
  rw [List.append_nil] at settled
  exact ⟨wait, asked, settled⟩

end Station

end SpiWifi.Wlan
