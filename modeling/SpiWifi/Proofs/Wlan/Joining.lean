import SpiWifi.Bench.Chip
import SpiWifi.Proofs.Wlan.Procedure
import SpiWifi.Wlan.Station.Join

/-!
Joining a network. An attempt is a fixed procedure, and if that goes through a wait for the
link. Attempts follow one another as long as the link is down and the budget lasts, so a join
fails exactly if the link was down at first and after each of all its attempts.
-/

set_option autoImplicit false
set_option relaxedAutoImplicit false

namespace SpiWifi.Wlan

open Chip Events Host

/-- How the chip is asked to connect. Without a key the network counts as open. -/
def connectCommand (name key : String) (security : Security) : Command :=
  if security = .unsecured ∨ key = "" then
    .connectNetwork .unsecured name.toUTF8.data.toList []
  else
    .connectNetwork security name.toUTF8.data.toList key.toUTF8.data.toList

def scanTasks (config : Config) : List Task :=
  [.poll, .attempt (.setScanParams (.allChannels config.scanWindow)), .settle config.scanSettle,
    .attempt (.setScanParams (.allChannels 0))]

def connectTasks (config : Config) (request : Command) : List Task :=
  [.demand (.setPolicy .manual), .settle config.policySettle, .demand request]

/-- One attempt to join. -/
inductive JoinAttempt (config : Config) (request : Command) (record : Record) :
    List Exchange → Prop where
  /-- A failure ends the attempt before the wait. -/
  | refused {trace : List Exchange} {failure : WifiError}
      (performed : Performed config.interval (scanTasks config ++ connectTasks config request) trace
        (.error failure)) : JoinAttempt config request record trace
  | requested {trace wait : List Exchange} {met : Bool}
      (performed : Performed config.interval (scanTasks config ++ connectTasks config request) trace
        (.ok ()))
      (waited : Waited (·.flags.linkUp) config.interval config.connectTimeout.toNat
        (recordAfter record trace) wait met) : JoinAttempt config request record (trace ++ wait)

/-! ### Attempts in a row -/

/-- Whether the link counts as up after so many of the attempts. -/
def linkAfter (record : Record) (attempts : List (List Exchange)) (count : Nat) : Bool :=
  (recordAfter record (attempts.take count).flatten).flags.linkUp

theorem linkAfter_cons_succ (record : Record) (first : List Exchange)
    (rest : List (List Exchange)) (count : Nat) :
    linkAfter record (first :: rest) (count + 1) =
      linkAfter (recordAfter record first) rest count := by
  rw [linkAfter, List.take_succ_cons, List.flatten_cons, recordAfter_append, linkAfter]

theorem linkAfter_length (record : Record) (attempts : List (List Exchange)) :
    linkAfter record attempts attempts.length =
      (recordAfter record attempts.flatten).flags.linkUp := by
  rw [linkAfter, List.take_length]

/-- The link was down at first and after each of so many attempts. -/
def Fruitless (record : Record) (attempts : List (List Exchange)) (budget : Nat) : Prop :=
  attempts.length = budget ∧ ∀ count ≤ budget, linkAfter record attempts count = false

/-- Attempts as long as the link is down and the budget lasts. -/
inductive Rounds (attempt : Record → List Exchange → Prop) (failure : WifiError) :
    Nat → Record → List (List Exchange) → Except WifiError Unit → Prop where
  | linked {budget : Nat} {record : Record} (up : record.flags.linkUp = true) :
      Rounds attempt failure budget record [] (.ok ())
  | spent {record : Record} (down : record.flags.linkUp = false) :
      Rounds attempt failure 0 record [] (.error failure)
  | tried {budget : Nat} {record : Record} {first : List Exchange} {rest : List (List Exchange)}
      {result : Except WifiError Unit} (down : record.flags.linkUp = false)
      (tried : attempt record first)
      (more : Rounds attempt failure budget (recordAfter record first) rest result) :
      Rounds attempt failure (budget + 1) record (first :: rest) result

namespace Rounds

variable {attempt : Record → List Exchange → Prop} {failure : WifiError} {budget : Nat}
  {record : Record} {attempts : List (List Exchange)} {result : Except WifiError Unit}

theorem length_le (h : Rounds attempt failure budget record attempts result) :
    attempts.length ≤ budget := by
  induction h with
  | linked _ => exact Nat.zero_le _
  | spent _ => exact Nat.zero_le _
  | tried _ _ _ ih => exact Nat.succ_le_succ ih

/-- With the link up nothing is attempted. -/
theorem eq_nil_of_linkUp (h : Rounds attempt failure budget record attempts result)
    (up : record.flags.linkUp = true) : attempts = [] := by
  cases h with
  | linked _ => rfl
  | spent _ => rfl
  | tried down =>
    rw [down] at up
    cases up

/-- Every attempt finds the link down and is an attempt from the record at its start. -/
theorem attempted (h : Rounds attempt failure budget record attempts result) (index : Nat)
    (hindex : index < attempts.length) :
    linkAfter record attempts index = false ∧
      attempt (recordAfter record (attempts.take index).flatten) attempts[index] := by
  induction h generalizing index with
  | linked _ => cases hindex
  | spent _ => cases hindex
  | tried down tried _ ih =>
    cases index with
    | zero => exact ⟨down, tried⟩
    | succ index =>
      obtain ⟨hidden, made⟩ := ih index (Nat.lt_of_succ_lt_succ hindex)
      refine ⟨(linkAfter_cons_succ ..).trans hidden, ?_⟩
      rwa [List.take_succ_cons, List.flatten_cons, recordAfter_append, List.getElem_cons_succ]

/-- The link decides how the attempts end. Without it all of the budget is spent. -/
theorem ended (h : Rounds attempt failure budget record attempts result) :
    linkAfter record attempts attempts.length = true ∧ result = .ok () ∨
      linkAfter record attempts attempts.length = false ∧ attempts.length = budget ∧
        result = .error failure := by
  induction h with
  | linked up => exact Or.inl ⟨up, rfl⟩
  | spent down => exact Or.inr ⟨down, rfl, rfl⟩
  | tried _ _ _ ih =>
    rw [List.length_cons, linkAfter_cons_succ, Nat.succ_inj]
    exact ih

theorem ok_iff (h : Rounds attempt failure budget record attempts result) :
    result = .ok () ↔ linkAfter record attempts attempts.length = true := by
  rcases h.ended with ⟨up, rfl⟩ | ⟨down, -, rfl⟩
  · exact ⟨fun _ ↦ up, fun _ ↦ rfl⟩
  · rw [down]
    exact ⟨nofun, nofun⟩

/-- They fail if they were in vain. -/
theorem error_iff (h : Rounds attempt failure budget record attempts result) :
    result = .error failure ↔ Fruitless record attempts budget := by
  constructor
  · rintro rfl
    rcases h.ended with ⟨-, impossible⟩ | ⟨down, length, -⟩
    · cases impossible
    · refine ⟨length, fun count hcount ↦ ?_⟩
      rw [← length] at hcount
      rcases Nat.lt_or_eq_of_le hcount with before | rfl
      · exact (h.attempted count before).1
      · exact down
  · rintro ⟨length, down⟩
    rcases h.ended with ⟨up, -⟩ | ⟨-, -, ends⟩
    · rw [length, down budget (Nat.le_refl budget)] at up
      cases up
    · exact ends

end Rounds

namespace Station

variable {σ : Type} [Layer σ] {station : Station σ}

theorem requestConnect_traces (started : station.isInitialized = true) (security : Security)
    (name key : String) :
    Traces (requestConnect security name key) station fun trace result after ↦
      Performed station.config.interval (connectTasks station.config
        (.connectNetwork security name.toUTF8.data.toList key.toUTF8.data.toList)) trace result ∧
      after.isInitialized = true := by
  unfold requestConnect
  refine Traces.demand ?_ ?_
  · intro _ _ middle accepted _ steady
    simp only [traces_get_bind]
    refine Traces.settle ?_
    intro wait _ settled waited _ still
    rw [steady.config] at waited
    refine Traces.demand ?_ ?_
    · intro _ _ last agreed _ _
      exact traces_enter ⟨.demand accepted (.settle waited (.demand agreed .done)), rfl⟩
    · intro _ _ after refused same
      exact ⟨.demand accepted (.settle waited (.refused refused)),
        ((steady.trans still).trans same).isInitialized.trans started⟩
  · intro _ _ after refused steady
    exact ⟨.refused refused, steady.isInitialized.trans started⟩

theorem requestJoin_traces (started : station.isInitialized = true) (name key : String)
    (security : Security) :
    Traces (requestJoin name key security) station fun trace result after ↦
      Performed station.config.interval
        (connectTasks station.config (connectCommand name key security)) trace result ∧
      after.isInitialized = true := by
  unfold requestJoin connectCommand
  by_cases unsecured : security = .unsecured ∨ key = ""
  · have condition : (security = .unsecured || key.isEmpty) = true := by
      simpa [String.isEmpty_iff] using unsecured
    rw [if_pos condition, if_pos unsecured]
    exact requestConnect_traces started .unsecured name ""
  · have condition : ¬ (security = .unsecured || key.isEmpty) = true := by
      simpa [String.isEmpty_iff] using unsecured
    rw [if_neg condition, if_neg unsecured]
    exact requestConnect_traces started security name key

/-- Setting the scan window of a running station is one command. -/
theorem setScanWindow_traces (started : station.isInitialized = true) (millis : UInt32) :
    Traces (setScanWindow millis) station fun trace _ after ↦
      (∃ outcome : Outcome (.command (.setScanParams (.allChannels millis))),
        trace = [⟨.command (.setScanParams (.allChannels millis)), outcome⟩]) ∧
      Steady station after := by
  unfold setScanWindow requireInitialized
  simp only [bind_assoc, traces_get_bind, started]
  refine (command_traces _ station).mono ?_
  rintro _ _ after ⟨⟨outcome, rfl, -⟩, steady⟩
  exact ⟨⟨outcome, rfl⟩, steady⟩

/-- The scan that precedes a request. -/
theorem traces_scan_bind {next : StationM σ Unit}
    {post : List Exchange → Except WifiError Unit → Station σ → Prop}
    (started : station.isInitialized = true)
    (rest : ∀ (scan : List Exchange) (middle : Station σ), Asked station scan middle →
      Steady station middle →
      Performed station.config.interval (scanTasks station.config) scan (.ok ()) →
      Traces next middle fun later result last ↦ post (scan ++ later) result last) :
    Traces (do
      poll (σ := σ)
      discard (observing (setScanWindow (← get).config.scanWindow))
      settle (σ := σ) (← get).config.scanSettle
      discard (observing (setScanWindow 0))
      next : StationM σ Unit) station post := by
  refine Traces.poll fun polled first askedFirst steady ↦ ?_
  simp only [traces_get_bind]
  rw [steady.config]
  refine (setScanWindow_traces (steady.isInitialized.trans started) _).ignore ?_
  rintro _ _ second askedSecond ⟨⟨scan, rfl⟩, more⟩
  have steady := steady.trans more
  simp only [traces_get_bind]
  rw [steady.config]
  refine Traces.settle fun wait record third waited askedThird more ↦ ?_
  rw [steady.config] at waited
  have steady := steady.trans more
  refine (setScanWindow_traces (steady.isInitialized.trans started) _).ignore ?_
  rintro _ _ fourth askedFourth ⟨⟨stopped, rfl⟩, more⟩
  have asked := ((askedFirst.trans askedSecond).trans askedThird).trans askedFourth
  have performed : Performed station.config.interval (scanTasks station.config)
      (⟨.poll, polled⟩ :: ⟨_, scan⟩ :: (wait ++ [⟨_, stopped⟩])) (.ok ()) :=
    .poll (.attempt (.settle waited (.attempt .done)))
  have := rest _ fourth asked (steady.trans more) (by simpa using performed)
  simpa using this

theorem attemptJoin_traces (started : station.isInitialized = true) (name key : String)
    (security : Security) :
    Traces (attemptJoin name key security) station fun trace result after ↦
      result = .ok () ∧ after.isInitialized = true ∧
        JoinAttempt station.config (connectCommand name key security) station.host.record
          trace := by
  refine traces_scan_bind started fun scan middle asked steady scanned ↦ ?_
  refine (requestJoin_traces (steady.isInitialized.trans started) name key security).observe ?_
  rintro connect result last connected ⟨performed, startedLast⟩
  rw [steady.config] at performed
  have performed := scanned.append performed
  cases result with
  | error failure =>
    refine traces_pure ⟨rfl, startedLast, .refused (by simpa using performed)⟩
  | ok value =>
    simp only [traces_get_bind]
    have asked := asked.trans connected
    obtain ⟨wait, waiting, waited, still⟩ := waitUntil_traces last.config.connectTimeout
      (fun record ↦ record.flags.linkUp) last
    refine ⟨wait, waiting, rfl, still.isInitialized.trans startedLast, ?_⟩
    rw [asked.host.record, asked.config] at waited
    simpa using JoinAttempt.requested performed waited

theorem joinLoop_traces (started : station.isInitialized = true) (name key : String)
    (security : Security) (failure : WifiError) (budget : Nat) :
    Traces (joinLoop (attemptJoin name key security) failure budget) station
      fun trace result _ ↦ ∃ attempts, trace = attempts.flatten ∧
        Rounds (JoinAttempt station.config (connectCommand name key security)) failure budget
          station.host.record attempts result := by
  induction budget generalizing station with
  | zero =>
    unfold joinLoop
    simp only [traces_get_bind]
    by_cases up : station.isLinkUp = true
    · rw [if_pos up]
      exact traces_pure ⟨[], rfl, .linked up⟩
    · rw [if_neg up]
      exact traces_throw ⟨[], rfl, .spent (Bool.not_eq_true _ ▸ up)⟩
  | succ budget ih =>
    unfold joinLoop
    simp only [traces_get_bind]
    by_cases up : station.isLinkUp = true
    · rw [if_pos up]
      exact traces_pure ⟨[], rfl, .linked up⟩
    · rw [if_neg up]
      refine (attemptJoin_traces started name key security).bind ?_ ?_
      · rintro first _ middle asked ⟨-, startedMiddle, attempted⟩
        refine (ih startedMiddle).mono ?_
        rintro _ result _ ⟨rest, rfl, rounds⟩
        rw [asked.config, asked.host.record] at rounds
        exact ⟨first :: rest, rfl, .tried (Bool.not_eq_true _ ▸ up) attempted rounds⟩
      · rintro _ _ _ ⟨impossible, -⟩
        cases impossible

/-- A station that runs, with credentials short enough, makes attempts. -/
theorem join_traces (started : station.isInitialized = true) {name key : String}
    (nameFits : name.utf8ByteSize ≤ nameLimit) (keyFits : key.utf8ByteSize ≤ keyLimit)
    (patience : Nat) (security : Security) (attempts : UInt8) :
    Traces (join patience name key security attempts) station fun trace result after ↦
      (∃ cycles, trace = cycles.flatten ∧
        Rounds (JoinAttempt station.config (connectCommand name key security))
          (if attempts = 0 then .outOfPatience else .timeout)
          (if attempts = 0 then patience else attempts.toNat)
          station.host.record cycles result) ∧
      (result = .ok () → after.stage = .connected) := by
  have fits : ¬ (nameLimit < name.utf8ByteSize ∨ keyLimit < key.utf8ByteSize) := by omega
  unfold join requireInitialized checkCredentials
  simp only [bind_assoc, traces_get_bind, started, if_neg fits, reduceIte, traces_pure_bind]
  have last (failure : WifiError) (budget : Nat) :
      Traces (joinLoop (attemptJoin name key security) failure budget >>= fun _ ↦
          liftM (enter (σ := σ) .connected) : StationM σ Unit) station fun trace result after ↦
        (∃ cycles, trace = cycles.flatten ∧
          Rounds (JoinAttempt station.config (connectCommand name key security)) failure budget
            station.host.record cycles result) ∧
        (result = .ok () → after.stage = .connected) := by
    refine (joinLoop_traces started name key security failure budget).bind ?_ ?_
    · rintro _ _ middle _ ⟨cycles, rfl, rounds⟩
      exact traces_enter ⟨⟨cycles, List.append_nil _, rounds⟩, fun _ ↦ rfl⟩
    · rintro _ _ _ ⟨cycles, rfl, rounds⟩
      refine ⟨⟨cycles, rfl, rounds⟩, ?_⟩
      rintro ⟨⟩
  split
  · exact last .outOfPatience patience
  · exact last .timeout attempts.toNat

/-- A join within a budget of attempts, each of them a list of requests. -/
structure Joined (station : Station σ) (request : Command) (budget : Nat)
    (attempts : List (List Exchange)) (result : Except WifiError Unit) (after : Station σ) :
    Prop where
  made : station.host.Made attempts.flatten after.host
  within : attempts.length ≤ budget
  /-- No attempt is made with the link up. -/
  down : ∀ index < attempts.length, linkAfter station.host.record attempts index = false
  attempted : ∀ (index : Nat) (h : index < attempts.length), JoinAttempt station.config request
    (recordAfter station.host.record (attempts.take index).flatten) attempts[index]
  timeout_iff : result = .error .timeout ↔ Fruitless station.host.record attempts budget
  ok_iff : result = .ok () ↔ ¬ Fruitless station.host.record attempts budget
  connected : result = .ok () → linkAfter station.host.record attempts attempts.length = true ∧
    after.visibleStage = .connected

/-- A limited join is over once the link is up, and fails if all of its attempts were in vain. -/
theorem join_attempts_until_linked (started : station.isInitialized = true) {name key : String}
    (nameFits : name.utf8ByteSize ≤ 32) (keyFits : key.utf8ByteSize ≤ 32) {attempts : UInt8}
    (limited : attempts ≠ 0) (patience : Nat) (security : Security) :
    ∃ cycles, Joined station (connectCommand name key security) attempts.toNat cycles
      (join patience name key security attempts station).1
      (join patience name key security attempts station).2 := by
  obtain ⟨_, asked, ⟨cycles, rfl, rounds⟩, stage⟩ :=
    join_traces started nameFits keyFits patience security attempts
  rw [if_neg limited, if_neg limited] at rounds
  refine ⟨cycles, asked.host, rounds.length_le, fun index h ↦ (rounds.attempted index h).1,
    fun index h ↦ (rounds.attempted index h).2, rounds.error_iff, ?_, fun ok ↦ ?_⟩
  · rw [← rounds.error_iff]
    rcases rounds.ended with ⟨-, ended⟩ | ⟨-, -, ended⟩ <;> rw [ended]
    · exact ⟨fun _ ↦ nofun, fun _ ↦ rfl⟩
    · exact ⟨nofun, fun h ↦ (h rfl).elim⟩
  · have up := rounds.ok_iff.mp ok
    refine ⟨up, ?_⟩
    rw [linkAfter_length, ← asked.host.record] at up
    rw [visibleStage, isLinkUp, stage ok, up]
    rfl

/-- The link comes up with the second request. -/
def secondTry : Station Bench.Chip where
  host := { layer := { reactions := [("connect_ap", [⟨2, -1, ⟨Wire.Opcode.linkUp, []⟩⟩])] } }
  config := { scanSettle := 0, policySettle := 0, connectTimeout := 0 }
  stage := .initialized

theorem secondTry_joins :
    secondTry.isInitialized = true ∧ "home".utf8ByteSize ≤ 32 ∧ "".utf8ByteSize ≤ 32 ∧
      (3 : UInt8) ≠ 0 ∧
      (∃ cycles, Joined secondTry (connectCommand "home" "" .wpa2) (3 : UInt8).toNat cycles
        (join 0 "home" "" .wpa2 3 secondTry).1 (join 0 "home" "" .wpa2 3 secondTry).2) ∧
      (join 0 "home" "" .wpa2 3 secondTry).2.visibleStage = .connected :=
  ⟨by decide, by decide, by decide, by decide,
    join_attempts_until_linked (by decide) (by decide) (by decide) (by decide) 0 .wpa2,
    by decide +kernel⟩

end Station

end SpiWifi.Wlan
