import SpiWifi.Proofs.Wlan.Moves
import SpiWifi.Proofs.Wlan.Procedure

/-!
Bringing a station up. The commands up to the event mask are a fixed procedure. Once the chip has
taken the mask the station counts as brought up, whatever becomes of the link it may then wait
for. So a station runs exactly if the mask of one of its bring-ups was taken.
-/

set_option autoImplicit false
set_option relaxedAutoImplicit false

namespace SpiWifi.Wlan

open Chip Events Host

def policyTasks (useProfiles : Bool) : List Task :=
  if useProfiles then [.attempt (.setPolicy .stored)]
  else [.attempt (.setPolicy .manual), .attempt .deleteProfiles]

def setupTasks (channel patch : UInt8) (useProfiles : Bool) : List Task :=
  [.demand (.attach channel), .demand (.start patch)] ++ policyTasks useProfiles ++
    [.demand (.setEventMask maskedEvents)]

/-- A wait for a lease. The name is made known if there is a lease and a name. -/
inductive Advertised (config : Config) (name : String) (record : Record) :
    List Exchange → Prop where
  | silent {wait : List Exchange} {leased : Bool}
      (waited : Waited (·.flags.leased) config.interval config.linkSettle.toNat record wait leased)
      (silent : leased = false ∨ name = "") : Advertised config name record wait
  | told {wait : List Exchange}
      {outcome : Outcome (.command (.advertise name.toUTF8.data.toList))}
      (waited : Waited (·.flags.leased) config.interval config.linkSettle.toNat record wait true)
      (named : name ≠ "") : Advertised config name record (wait ++ [⟨_, outcome⟩])

/-- What follows once the chip has taken the event mask, with the result and the stage. Only
with stored profiles the station waits for the link. -/
inductive Followed (config : Config) (name : String) (record : Record) :
    Bool → List Exchange → Except WifiError Unit → Stage → Prop where
  | onRequest : Followed config name record false [] (.ok ()) .initialized
  | unlinked {wait : List Exchange}
      (waited : Waited (·.flags.linkUp) config.interval config.connectTimeout.toNat record wait
        false) : Followed config name record true wait (.error .timeout) .initialized
  | linked {wait rest : List Exchange}
      (waited : Waited (·.flags.linkUp) config.interval config.connectTimeout.toNat record wait
        true)
      (advertised : Advertised config name (recordAfter record wait) rest) :
      Followed config name record true (wait ++ rest) (.ok ()) .connected

/-- The ways to bring a station up. -/
inductive BroughtUp (config : Config) (patch : UInt8) (useProfiles : Bool) (name : String)
    (record : Record) : List Exchange → Except WifiError Unit → Stage → Prop where
  | unmapped (unmapped : config.channel? = none) :
      BroughtUp config patch useProfiles name record [] (.error .pinNotMapped) .uninitialized
  | refused {channel : UInt8} {setup : List Exchange} {failure : WifiError}
      (mapped : config.channel? = some channel)
      (performed : Performed config.interval (setupTasks channel patch useProfiles) setup
        (.error failure)) :
      BroughtUp config patch useProfiles name record setup (.error failure) .uninitialized
  | accepted {channel : UInt8} {setup rest : List Exchange} {result : Except WifiError Unit}
      {stage : Stage} (mapped : config.channel? = some channel)
      (performed : Performed config.interval (setupTasks channel patch useProfiles) setup (.ok ()))
      (followed : Followed config name (recordAfter record setup) useProfiles rest result stage) :
      BroughtUp config patch useProfiles name record (setup ++ rest) result stage

/-! ### What a bring-up asks for -/

/-- The commands of a bring-up, as far as it gets. -/
def bringUpScript (channel patch : UInt8) (useProfiles : Bool) (name : String) : List Command :=
  if useProfiles then
    [.attach channel, .start patch, .setPolicy .stored, .setEventMask maskedEvents] ++
      if name = "" then [] else [.advertise name.toUTF8.data.toList]
  else
    [.attach channel, .start patch, .setPolicy .manual, .deleteProfiles, .setEventMask maskedEvents]

/-- A command without which the station is not brought up. -/
def isVital : Command → Bool
  | .attach _ | .start _ | .setEventMask _ => true
  | _ => false

/-- The chip has taken the event mask. -/
def TakesMask (exchange : Exchange) : Prop :=
  exchange.command? = some (.setEventMask maskedEvents) ∧ exchange.failure? = none

/-- A command that ends the bring-up has failed. -/
def FailsVital (status : Status) (exchange : Exchange) : Prop :=
  (∃ request, exchange.command? = some request ∧ isVital request = true) ∧
    exchange.failure? = some status

section Setup

variable {interval : Nat} {channel patch : UInt8} {useProfiles : Bool} {setup : List Exchange}
  {result : Except WifiError Unit}

/-- The setup depends on the vital commands and on no others. -/
theorem setupTasks_vital (channel patch : UInt8) (useProfiles : Bool) :
    (setupTasks channel patch useProfiles).all (fun
      | .demand request => isVital request
      | .attempt request => !isVital request
      | _ => true) = true := by
  cases useProfiles <;> rfl

theorem setup_takesMask
    (h : Performed interval (setupTasks channel patch useProfiles) setup (.ok ())) :
    ∃ exchange ∈ setup, TakesMask exchange :=
  h.accepted (List.mem_append_right _ List.mem_cons_self)

theorem setup_not_takesMask {failure : WifiError}
    (h : Performed interval (setupTasks channel patch useProfiles) setup (.error failure))
    {exchange : Exchange} (mem : exchange ∈ setup) : ¬ TakesMask exchange := by
  rintro ⟨command, succeeds⟩
  refine h.last_fails ?_ mem command succeeds
  cases useProfiles <;> simp [policyTasks, taskCommands, Task.command?]

theorem setup_fails_last {status : Status}
    (h : Performed interval (setupTasks channel patch useProfiles) setup
      (.error (.command status))) :
    ∃ earlier last, setup = earlier ++ [last] ∧ FailsVital status last := by
  obtain ⟨earlier, last, request, _, rfl, command, demanded, fails, ⟨⟩⟩ := h.stopped
  have vital := List.all_eq_true.mp (setupTasks_vital channel patch useProfiles) _ demanded
  exact ⟨earlier, last, rfl, ⟨request, command, vital⟩, fails⟩

theorem setup_failed_iff
    (h : Performed interval (setupTasks channel patch useProfiles) setup result) (status : Status) :
    result = .error (.command status) ↔ ∃ exchange ∈ setup, FailsVital status exchange := by
  constructor
  · rintro rfl
    obtain ⟨earlier, last, rfl, fails⟩ := setup_fails_last h
    exact ⟨last, List.mem_append_right _ List.mem_cons_self, fails⟩
  · rintro ⟨exchange, mem, ⟨request, command, vital⟩, fails⟩
    refine (h.dispensable_or_error mem fails).resolve_left ?_
    rintro ⟨attempted, same, listed⟩
    have idle : (!isVital attempted) = true :=
      List.all_eq_true.mp (setupTasks_vital channel patch useProfiles) _ listed
    rw [command] at same
    cases same
    rw [vital] at idle
    cases idle

theorem setup_ne_nil (h : Performed interval (setupTasks channel patch useProfiles) setup result) :
    setup ≠ [] := by
  cases h <;> exact List.cons_ne_nil _ _

end Setup

namespace Followed

variable {config : Config} {name : String} {record : Record} {useProfiles : Bool}
  {rest : List Exchange} {result : Except WifiError Unit} {stage : Stage}

theorem result_eq (h : Followed config name record useProfiles rest result stage) :
    result = .ok () ∨ result = .error .timeout := by
  cases h with
  | onRequest => exact Or.inl rfl
  | unlinked => exact Or.inr rfl
  | linked => exact Or.inl rfl

theorem stage_ne (h : Followed config name record useProfiles rest result stage) :
    stage ≠ .uninitialized := by
  cases h <;> decide

theorem timeout_iff (h : Followed config name record useProfiles rest result stage) :
    result = .error .timeout ↔ useProfiles = true ∧ stage = .initialized := by
  cases h <;> simp

theorem commands_eq (h : Followed config name record useProfiles rest result stage) :
    commands rest = [] ∨
      useProfiles = true ∧ name ≠ "" ∧ commands rest = [.advertise name.toUTF8.data.toList] := by
  cases h with
  | onRequest => exact Or.inl rfl
  | unlinked waited => exact Or.inl waited.commands_eq
  | linked waited advertised =>
    rw [commands_append, waited.commands_eq, List.nil_append]
    cases advertised with
    | silent waited _ => exact Or.inl waited.commands_eq
    | told waited named =>
      rw [commands_append, waited.commands_eq]
      exact Or.inr ⟨rfl, named, rfl⟩

/-- Nothing that the station depends on is asked for again. -/
theorem command_not_vital (h : Followed config name record useProfiles rest result stage)
    {exchange : Exchange} (mem : exchange ∈ rest) {request : Command}
    (command : exchange.command? = some request) : isVital request = false := by
  have listed := command?_mem mem command
  rcases h.commands_eq with none | ⟨-, -, one⟩
  · rw [none] at listed
    cases listed
  · rw [one, List.mem_singleton] at listed
    rw [listed]
    rfl

end Followed

namespace BroughtUp

variable {config : Config} {patch : UInt8} {useProfiles : Bool} {name : String} {record : Record}
  {trace : List Exchange} {result : Except WifiError Unit} {stage : Stage}

theorem script (h : BroughtUp config patch useProfiles name record trace result stage)
    {channel : UInt8} (mapped : config.channel? = some channel) :
    commands trace <+: bringUpScript channel patch useProfiles name := by
  have setupFirst : taskCommands (setupTasks channel patch useProfiles) <+:
      bringUpScript channel patch useProfiles name := by
    cases useProfiles with
    | false => exact List.prefix_rfl
    | true => exact List.prefix_append _ _
  cases h with
  | unmapped none =>
    rw [none] at mapped
    cases mapped
  | refused found performed =>
    rw [found] at mapped
    cases mapped
    exact performed.commands_isPrefix.trans setupFirst
  | accepted found performed followed =>
    rw [found] at mapped
    cases mapped
    rw [commands_append, performed.commands_eq]
    rcases followed.commands_eq with none | ⟨rfl, named, told⟩
    · rw [none, List.append_nil]
      exact setupFirst
    · rw [told, bringUpScript, if_pos rfl, if_neg named]
      exact List.prefix_rfl

theorem silent_iff (h : BroughtUp config patch useProfiles name record trace result stage) :
    trace = [] ↔ config.channel? = none := by
  cases h with
  | unmapped none => exact ⟨fun _ ↦ none, fun _ ↦ rfl⟩
  | refused mapped performed =>
    rw [mapped]
    exact ⟨fun silent ↦ absurd silent (setup_ne_nil performed), nofun⟩
  | accepted mapped performed followed =>
    rw [mapped]
    exact ⟨fun silent ↦ absurd (List.append_eq_nil_iff.mp silent).1 (setup_ne_nil performed), nofun⟩

theorem unmapped_iff (h : BroughtUp config patch useProfiles name record trace result stage) :
    result = .error .pinNotMapped ↔ config.channel? = none := by
  cases h with
  | unmapped none => exact ⟨fun _ ↦ none, fun _ ↦ rfl⟩
  | refused mapped performed =>
    rw [mapped]
    obtain ⟨-, -, -, status, -, -, -, -, rfl⟩ := performed.stopped
    exact ⟨nofun, nofun⟩
  | accepted mapped performed followed =>
    rw [mapped]
    rcases followed.result_eq with rfl | rfl <;> exact ⟨nofun, nofun⟩

theorem failed_iff (h : BroughtUp config patch useProfiles name record trace result stage)
    (status : Status) :
    result = .error (.command status) ↔ ∃ exchange ∈ trace, FailsVital status exchange := by
  cases h with
  | unmapped none => simp
  | refused mapped performed => exact setup_failed_iff performed status
  | accepted mapped performed followed =>
    constructor
    · rintro rfl
      rcases followed.result_eq with impossible | impossible <;> cases impossible
    · rintro ⟨exchange, mem, failed⟩
      rcases List.mem_append.mp mem with mem | mem
      · cases (setup_failed_iff performed status).mpr ⟨exchange, mem, failed⟩
      · obtain ⟨request, command, vital⟩ := failed.1
        rw [followed.command_not_vital mem command] at vital
        cases vital

theorem failed_last (h : BroughtUp config patch useProfiles name record trace result stage)
    {status : Status} (failed : result = .error (.command status)) :
    stage = .uninitialized ∧
      ∃ earlier last, trace = earlier ++ [last] ∧ FailsVital status last := by
  subst failed
  cases h with
  | refused mapped performed => exact ⟨rfl, setup_fails_last performed⟩
  | accepted mapped performed followed =>
    rcases followed.result_eq with impossible | impossible <;> cases impossible

/-- The station is brought up exactly if the chip takes the event mask. -/
theorem started_iff (h : BroughtUp config patch useProfiles name record trace result stage) :
    stage ≠ .uninitialized ↔ ∃ exchange ∈ trace, TakesMask exchange := by
  cases h with
  | unmapped none => simp
  | refused mapped performed =>
    exact ⟨fun started ↦ absurd rfl started,
      fun ⟨_, mem, takes⟩ ↦ absurd takes (setup_not_takesMask performed mem)⟩
  | accepted mapped performed followed =>
    obtain ⟨exchange, mem, takes⟩ := setup_takesMask performed
    exact ⟨fun _ ↦ ⟨exchange, List.mem_append_left _ mem, takes⟩, fun _ ↦ followed.stage_ne⟩

theorem timeout_iff (h : BroughtUp config patch useProfiles name record trace result stage) :
    result = .error .timeout ↔ useProfiles = true ∧ stage = .initialized := by
  cases h with
  | unmapped none => exact ⟨nofun, nofun⟩
  | refused mapped performed =>
    obtain ⟨-, -, -, status, -, -, -, -, rfl⟩ := performed.stopped
    exact ⟨nofun, nofun⟩
  | accepted mapped performed followed => exact followed.timeout_iff

end BroughtUp

namespace Station

variable {σ : Type} [Layer σ] {station : Station σ}

theorem choosePolicy_traces (useProfiles : Bool) (station : Station σ) :
    Traces (choosePolicy useProfiles) station fun trace _ after ↦
      Performed station.config.interval (policyTasks useProfiles) trace (.ok ()) ∧
        Steady station after := by
  cases useProfiles with
  | true =>
    refine (tryCommand_traces _ station).mono ?_
    rintro _ _ after ⟨⟨outcome, rfl⟩, steady⟩
    exact ⟨.attempt .done, steady⟩
  | false =>
    refine (tryCommand_traces _ station).andThen ?_
    rintro _ _ middle _ ⟨⟨policy, rfl⟩, steady⟩
    refine (tryCommand_traces _ middle).mono ?_
    rintro _ _ after ⟨⟨erased, rfl⟩, still⟩
    exact ⟨.attempt (.attempt .done), steady.trans still⟩

theorem advertise_traces (name : String) (station : Station σ) :
    Traces (advertise name) station fun trace _ after ↦
      Advertised station.config name station.host.record trace ∧ Steady station after := by
  unfold advertise
  simp only [traces_get_andThen]
  refine (waitUntil_traces _ _ station).andThen ?_
  rintro wait leased middle _ ⟨waited, steady⟩
  by_cases tells : leased = true ∧ name ≠ ""
  · obtain ⟨rfl, named⟩ := tells
    have condition : (true && !name.isEmpty) = true := by simpa [String.isEmpty_iff] using named
    rw [if_pos condition]
    refine (tryCommand_traces _ middle).mono ?_
    rintro _ _ after ⟨⟨outcome, rfl⟩, still⟩
    exact ⟨.told waited named, steady.trans still⟩
  · have condition : ¬ (leased && !name.isEmpty) = true := by
      simpa [String.isEmpty_iff] using tells
    rw [if_neg condition]
    refine traces_pure ⟨?_, steady⟩
    rw [List.append_nil]
    cases leased with
    | false => exact .silent waited (Or.inl rfl)
    | true =>
      exact .silent waited (Or.inr (Decidable.of_not_not fun named ↦ tells ⟨rfl, named⟩))

theorem followed_traces (started : station.stage = .initialized) (useProfiles : Bool)
    (name : String) :
    Traces (if useProfiles then do
        awaitLink
        enter (σ := σ) .connected
        advertise (σ := σ) name
      else return () : StationM σ Unit) station fun trace result after ↦
        Followed station.config name station.host.record useProfiles trace result after.stage := by
  cases useProfiles with
  | false =>
    rw [if_neg Bool.false_ne_true]
    exact traces_pure (started ▸ .onRequest)
  | true =>
    rw [if_pos rfl]
    unfold awaitLink await
    simp only [bind_assoc, traces_get_bind]
    refine (waitUntil_traces _ _ station).lift ?_
    rintro wait met middle asked ⟨waited, steady⟩
    cases met with
    | false =>
      rw [if_neg Bool.false_ne_true]
      refine traces_throw_bind ?_
      rw [List.append_nil, steady.stage, started]
      exact .unlinked waited
    | true =>
      rw [if_pos rfl]
      simp only [traces_pure_bind]
      refine traces_enter_bind ?_
      obtain ⟨rest, more, advertised, still⟩ := advertise_traces name (middle.inStage .connected)
      refine ⟨rest, more, ?_⟩
      rw [show (middle.inStage .connected).config = station.config from asked.config,
        show (middle.inStage .connected).host.record = _ from asked.host.record] at advertised
      show Followed _ _ _ true _ (.ok ()) (advertise name (middle.inStage .connected)).2.stage
      rw [still.stage]
      exact .linked waited advertised

/-- The setup either goes through or ends with the command that failed. -/
theorem traces_setup_bind {channel patch : UInt8} {useProfiles : Bool} {next : StationM σ Unit}
    {post : List Exchange → Except WifiError Unit → Station σ → Prop}
    (accepted : ∀ (setup : List Exchange) (middle : Station σ), Asked station setup middle →
      Steady station middle →
      Performed station.config.interval (setupTasks channel patch useProfiles) setup (.ok ()) →
      Traces next middle fun later result last ↦ post (setup ++ later) result last)
    (refused : ∀ (setup : List Exchange) (failure : WifiError) (after : Station σ),
      Performed station.config.interval (setupTasks channel patch useProfiles) setup
        (.error failure) → Steady station after → post setup (.error failure) after) :
    Traces (do
      command (.attach channel)
      command (.start patch)
      choosePolicy (σ := σ) useProfiles
      command (.setEventMask maskedEvents)
      next : StationM σ Unit) station post := by
  refine Traces.demand ?_ fun _ _ after fails steady ↦ refused _ _ after (.refused fails) steady
  intro attach _ first attached askedFirst steady
  refine Traces.demand ?_ fun _ _ after fails more ↦
    refused _ _ after (.demand attached (.refused fails)) (steady.trans more)
  intro start _ second started askedSecond more
  have steady := steady.trans more
  refine (choosePolicy_traces useProfiles second).lift ?_
  rintro policy _ third askedThird ⟨chosen, more⟩
  rw [steady.config] at chosen
  have steady := steady.trans more
  have before : Performed station.config.interval
      ([.demand (.attach channel), .demand (.start patch)] ++ policyTasks useProfiles)
      (⟨.command (.attach channel), attach⟩ :: ⟨.command (.start patch), start⟩ :: policy)
      (.ok ()) :=
    .demand attached (.demand started chosen)
  refine Traces.demand ?_ fun _ _ after fails more ↦
    refused _ _ after (before.append (.refused fails)) (steady.trans more)
  intro mask _ fourth masked askedFourth more
  have asked := ((askedFirst.trans askedSecond).trans askedThird).trans askedFourth
  simpa using accepted _ fourth asked (steady.trans more) (before.append (.demand masked .done))

theorem bringUp_traces (idle : station.stage = .uninitialized) (patch : UInt8) (useProfiles : Bool)
    (name : String) :
    Traces (bringUp patch useProfiles name) station fun trace result after ↦
      BroughtUp station.config patch useProfiles name station.host.record trace result
        after.stage := by
  unfold bringUp
  simp only [traces_get_bind]
  rw [if_neg (by rw [isInitialized_eq_false_iff.mpr idle]; exact Bool.false_ne_true)]
  simp only [traces_get_bind]
  cases mapped : station.config.channel? with
  | none => exact traces_throw (idle ▸ .unmapped mapped)
  | some channel =>
    refine traces_setup_bind (fun setup middle asked steady performed ↦ ?_)
      fun setup failure after performed steady ↦ ?_
    · refine traces_enter_bind ((followed_traces rfl useProfiles name).mono ?_)
      rw [show (middle.inStage .initialized).config = station.config from asked.config,
        show (middle.inStage .initialized).host.record = _ from asked.host.record]
      exact fun _ _ _ followed ↦ .accepted mapped performed followed
    · rw [steady.stage, idle]
      exact .refused mapped performed

/-- A bring-up with its requests, its result, and the station that it leaves. -/
structure BringsUp (before : Station σ) (patch : UInt8) (useProfiles : Bool) (name : String)
    (trace : List Exchange) (result : Except WifiError Unit) (after : Station σ) : Prop where
  made : before.host.Made trace after.host
  course : BroughtUp before.config patch useProfiles name before.host.record trace result
    after.stage
  script : ∀ channel, before.config.channel? = some channel →
    commands trace <+: bringUpScript channel patch useProfiles name
  silent_iff : trace = [] ↔ before.config.channel? = none
  unmapped_iff : result = .error .pinNotMapped ↔ before.config.channel? = none
  failed_iff : ∀ status, result = .error (.command status) ↔
    ∃ exchange ∈ trace, FailsVital status exchange
  /-- Such a failure comes last, and the next bring-up starts anew. -/
  failed_last : ∀ status, result = .error (.command status) → after.stage = .uninitialized ∧
    ∃ earlier last, trace = earlier ++ [last] ∧ FailsVital status last
  started_iff : after.stage ≠ .uninitialized ↔ ∃ exchange ∈ trace, TakesMask exchange
  timeout_iff : result = .error .timeout ↔ useProfiles = true ∧ after.stage = .initialized

theorem bringUp_bringsUp (idle : station.stage = .uninitialized) (patch : UInt8)
    (useProfiles : Bool) (name : String) :
    ∃ trace, BringsUp station patch useProfiles name trace
      (bringUp patch useProfiles name station).1 (bringUp patch useProfiles name station).2 := by
  obtain ⟨trace, asked, course⟩ := bringUp_traces idle patch useProfiles name
  exact ⟨trace, asked.host, course, fun _ ↦ course.script, course.silent_iff, course.unmapped_iff,
    course.failed_iff, fun _ ↦ course.failed_last, course.started_iff, course.timeout_iff⟩

/-! ### Any run -/

/-- The chip has taken the event mask of a bring-up among some operations. -/
def MaskTaken (station : Station σ) (ops : List Operation) : Prop :=
  ∃ (earlier : List Operation) (patch : UInt8) (useProfiles : Bool) (name : String)
      (later : List Operation) (trace : List Exchange),
    ops = earlier ++ .bringUp patch useProfiles name :: later ∧
    (bringUp patch useProfiles name (station.run earlier)).2.host.history =
      trace.reverse ++ (station.run earlier).host.history ∧
    ∃ exchange ∈ trace, TakesMask exchange

/-- A bring-up that the chip's mask confirms leaves the station running for good. -/
theorem MaskTaken.isInitialized {ops : List Operation} (taken : MaskTaken station ops) :
    (station.run ops).isInitialized = true := by
  obtain ⟨earlier, patch, useProfiles, name, later, trace, rfl, history, takes⟩ := taken
  rw [run_append]
  refine isInitialized_of_path (run_walks _ later) ?_
  cases started : (station.run earlier).isInitialized with
  | true => exact isInitialized_of_path (walks_bringUp patch useProfiles name _) started
  | false =>
    obtain ⟨own, ran⟩ :=
      bringUp_bringsUp (isInitialized_eq_false_iff.mp started) patch useProfiles name
    rw [ran.made.history, List.append_cancel_right_eq, List.reverse_inj] at history
    rw [← history] at takes
    exact decide_eq_true (ran.started_iff.mpr takes)

/-- Nothing but a bring-up gets a station running. -/
theorem maskTaken_of_isInitialized (idle : station.stage = .uninitialized) {ops : List Operation}
    (started : (station.run ops).isInitialized = true) : MaskTaken station ops := by
  induction ops generalizing station with
  | nil => exact absurd idle (of_decide_eq_true started)
  | cons op rest ih =>
    cases now : (op.perform station).2.isInitialized with
    | true =>
      have up : ∃ patch useProfiles name, op = .bringUp patch useProfiles name := by
        refine Classical.byContradiction fun other ↦ of_decide_eq_true now ?_
        exact stage_perform_of_uninitialized idle fun patch useProfiles name same ↦
          other ⟨patch, useProfiles, name, same⟩
      obtain ⟨patch, useProfiles, name, rfl⟩ := up
      obtain ⟨trace, ran⟩ := bringUp_bringsUp idle patch useProfiles name
      exact ⟨[], patch, useProfiles, name, rest, trace, rfl, ran.made.history,
        ran.started_iff.mp (of_decide_eq_true now)⟩
    | false =>
      obtain ⟨earlier, patch, useProfiles, name, later, trace, rfl, history, takes⟩ :=
        ih (isInitialized_eq_false_iff.mp now) started
      exact ⟨op :: earlier, patch, useProfiles, name, later, trace, rfl, history, takes⟩

/-- A station runs from the first bring-up on whose mask the chip has taken. -/
theorem run_isInitialized_iff (layer : σ) (config : Config) (ops : List Operation) :
    (((fresh layer config).run ops).isInitialized = true ↔ MaskTaken (fresh layer config) ops) ∧
    (∀ later, ((fresh layer config).run ops).isInitialized = true →
      ((fresh layer config).run (ops ++ later)).isInitialized = true) ∧
    ∀ station : Station σ, station.stage = .uninitialized → ∀ patch useProfiles name,
      ∃ trace, BringsUp station patch useProfiles name trace
        (bringUp patch useProfiles name station).1 (bringUp patch useProfiles name station).2 := by
  refine ⟨⟨maskTaken_of_isInitialized rfl, MaskTaken.isInitialized⟩, fun later started ↦ ?_,
    fun station ↦ bringUp_bringsUp⟩
  rw [run_append]
  exact isInitialized_of_path (run_walks _ later) started

theorem newStation_bringUp :
    (newStation.run [.bringUp 0 false ""]).isInitialized = true ∧
      MaskTaken newStation [.bringUp 0 false ""] ∧
      (newStation.run [.bringUp 0 false "", .stop]).isInitialized = true ∧
      ∃ trace, BringsUp newStation 0 true "node" trace (bringUp 0 true "node" newStation).1
        (bringUp 0 true "node" newStation).2 := by
  have started : (newStation.run [.bringUp 0 false ""]).isInitialized = true := by decide +kernel
  obtain ⟨gate, kept, ups⟩ :=
    run_isInitialized_iff ({} : Bench.Chip) {} [.bringUp 0 false ""]
  exact ⟨started, gate.mp started, kept [.stop] started, ups newStation rfl 0 true "node"⟩

end Station

end SpiWifi.Wlan
