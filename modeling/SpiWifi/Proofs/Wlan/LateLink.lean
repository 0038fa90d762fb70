import SpiWifi.Proofs.Wlan.LinkBacking

/-!
A link that comes up late. A join looks at the link before each attempt and while it waits after a
request, but not in between. So a link that an earlier attempt has brought up during the scan of
the next one is not noticed there: the network is asked for all the same. If the chip keeps the
link through that request, the first poll behind it ends the join; if it drops it, the link is lost.
-/

set_option autoImplicit false
set_option relaxedAutoImplicit false

namespace SpiWifi

namespace Chip

def Command.asksToJoin : Command → Bool
  | .connectNetwork _ _ _ => true
  | _ => false

/-- The chip is asked to connect to a network. -/
def Exchange.asksToJoin (exchange : Exchange) : Bool := exchange.command?.any Command.asksToJoin

end Chip

namespace Wlan

open Chip Events Host

/-- All that an attempt to join does before its request. -/
def preludeTasks (config : Config) : List Task :=
  scanTasks config ++ [.demand (.setPolicy .manual), .settle config.policySettle]

/-! ### One attempt -/

section Attempt

variable {config : Config} {request : Command} {record : Record}

theorem prelude_asksNothing {interval : Nat} {trace : List Exchange}
    {result : Except WifiError Unit} (h : Performed interval (preludeTasks config) trace result) :
    ∀ exchange ∈ trace, ¬ exchange.asksToJoin = true := by
  have silent : (taskCommands (preludeTasks config)).all (!·.asksToJoin) = true := rfl
  intro exchange mem
  rw [Bool.not_eq_true]
  refine any_command?_eq_false (fun asked listed ↦ ?_) mem
  simpa using List.all_eq_true.mp silent asked (h.commands_isPrefix.subset listed)

theorem waited_asksNothing {done : Record → Bool} {interval left : Nat} {trace : List Exchange}
    {met : Bool} (h : Waited done interval left record trace met) :
    ∀ exchange ∈ trace, ¬ exchange.asksToJoin = true := by
  intro exchange mem
  rw [Bool.not_eq_true]
  refine any_command?_eq_false (fun asked listed ↦ ?_) mem
  rw [h.commands_eq] at listed
  cases listed

/-- An attempt asks for the network once, when all before it is done, and if the chip agrees goes
on to wait for the link. -/
theorem JoinAttempt.asked {trace earlier tail : List Exchange} {exchange : Exchange}
    (attempt : JoinAttempt config request record trace)
    (at_request : trace = earlier ++ exchange :: tail) (asks : exchange.asksToJoin = true) :
    Performed config.interval (preludeTasks config) earlier (.ok ()) ∧
      exchange.command? = some request ∧
      (exchange.failure? = none → ∃ met, Waited (·.flags.linkUp) config.interval
        config.connectTimeout.toNat (recordAfter record (earlier ++ [exchange])) tail met) := by
  have stops {failure : WifiError}
      (failed : Performed config.interval (preludeTasks config) trace (.error failure)) : False :=
    prelude_asksNothing failed exchange
      (at_request ▸ List.mem_append_right _ List.mem_cons_self) asks
  have parts {result : Except WifiError Unit} {front : List Exchange}
      (performed : Performed config.interval (preludeTasks config ++ [.demand request]) front
        result) := performed.split
  cases attempt with
  | refused performed =>
    rcases parts performed with ⟨failure, -, failed⟩ | ⟨early, late, rfl, prepared, last⟩
    · exact (stops failed).elim
    cases last with
    | demand _ rest => cases rest
    | refused refused =>
      obtain ⟨rfl, rfl, rfl⟩ :=
        split_unique at_request (prelude_asksNothing prepared) nofun asks
      refine ⟨prepared, rfl, fun succeeds ↦ ?_⟩
      rw [Exchange.failure?_error refused] at succeeds
      cases succeeds
  | @requested front wait met performed waited =>
    rcases parts performed with ⟨failure, impossible, -⟩ | ⟨early, late, rfl, prepared, last⟩
    · cases impossible
    cases last with
    | demand accepted rest =>
      cases rest
      rw [List.append_assoc] at at_request
      obtain ⟨rfl, rfl, rfl⟩ :=
        split_unique at_request (prelude_asksNothing prepared) (waited_asksNothing waited) asks
      exact ⟨prepared, rfl, fun _ ↦ ⟨met, waited⟩⟩

end Attempt

/-! ### Any attempt of a join -/

/-- A request of a join, its attempt having begun after `before`, and the rest of the join. -/
structure Requested (config : Config) (record : Record) (request : Command)
    (before within : List Exchange) (exchange : Exchange) (later : List Exchange)
    (result : Except WifiError Unit) : Prop where
  command : exchange.command? = some request
  /-- The attempt has begun with the link down. -/
  down : (recordAfter record before).flags.linkUp = false
  /-- It has not looked at the link since. -/
  prelude : Performed config.interval (preludeTasks config) within (.ok ())
  linkUp_iff : (recordAfter record (before ++ within)).flags.linkUp = true ↔
    lastLink (reports within) = some true
  /-- A link that outlives the request is noticed by the first poll behind it. -/
  noticed : exchange.failure? = none → ∃ poll rest, later = ⟨.poll, poll⟩ :: rest ∧
    ((recordAfter record (before ++ within ++ [exchange, ⟨.poll, poll⟩])).flags.linkUp = true →
      rest = [] ∧ result = .ok ())

theorem Requested.prepend {config : Config} {record : Record} {request : Command}
    {first before within later : List Exchange} {exchange : Exchange}
    {result : Except WifiError Unit}
    (h : Requested config (recordAfter record first) request before within exchange later result) :
    Requested config record request (first ++ before) within exchange later result where
  command := h.command
  down := by
    rw [recordAfter_append]
    exact h.down
  prelude := h.prelude
  linkUp_iff := by
    rw [List.append_assoc, recordAfter_append]
    exact h.linkUp_iff
  noticed := by
    intro accepted
    obtain ⟨poll, rest, split, ends⟩ := h.noticed accepted
    refine ⟨poll, rest, split, fun up ↦ ends ?_⟩
    rwa [List.append_assoc first, List.append_assoc first, recordAfter_append] at up

theorem Rounds.requested {config : Config} {request : Command} {failure : WifiError} {budget : Nat}
    {record : Record} {attempts : List (List Exchange)} {result : Except WifiError Unit}
    (rounds : Rounds (JoinAttempt config request) failure budget record attempts result)
    {earlier later : List Exchange} {exchange : Exchange}
    (at_request : attempts.flatten = earlier ++ exchange :: later)
    (asks : exchange.asksToJoin = true) :
    ∃ before within, earlier = before ++ within ∧
      Requested config record request before within exchange later result := by
  induction rounds generalizing earlier with
  | linked _ => exact absurd at_request (by simp)
  | spent _ => exact absurd at_request (by simp)
  | @tried budget record first rest result down tried more ih =>
    rw [List.flatten_cons] at at_request
    rcases split_append at_request with ⟨tail, here, rfl⟩ | ⟨middle, rfl, there⟩
    · obtain ⟨prepared, command, waits⟩ := tried.asked here asks
      refine ⟨[], earlier, rfl, command, down, prepared, ?_, fun accepted ↦ ?_⟩
      · rw [List.nil_append, linkUp_recordAfter_iff, down]
        exact or_iff_left nofun
      · obtain ⟨met, waited⟩ := waits accepted
        obtain ⟨poll, remaining, rfl, ends⟩ := waited.begins
        refine ⟨poll, remaining ++ rest.flatten, rfl, fun up ↦ ?_⟩
        have shown : (recordAfter (recordAfter record (earlier ++ [exchange]))
            [⟨.poll, poll⟩]).flags.linkUp = true := by
          rw [← recordAfter_append, List.append_assoc]
          exact up
        obtain ⟨rfl, -⟩ := ends shown
        -- With the link up no attempt follows.
        have linked : (recordAfter record first).flags.linkUp = true := by
          rw [here]
          exact up
        obtain rfl := more.eq_nil_of_linkUp linked
        refine ⟨rfl, more.ok_iff.mpr ?_⟩
        rw [linkAfter_length]
        exact linked
    · obtain ⟨before, within, rfl, requested⟩ := ih there
      exact ⟨first ++ before, within, (List.append_assoc ..).symm, requested.prepend⟩

namespace Station

variable {σ : Type} [Layer σ]

/-- A join that is refused asks for nothing, and any other makes attempts. -/
theorem join_rounds (station : Station σ) (patience : Nat) (name key : String)
    (security : Security) (attempts : UInt8) :
    Traces (join patience name key security attempts) station fun trace result _ ↦
      trace = [] ∨ ∃ cycles failure budget, trace = cycles.flatten ∧
        Rounds (JoinAttempt station.config (connectCommand name key security)) failure budget
          station.host.record cycles result := by
  by_cases started : station.isInitialized = true
  · by_cases fits : name.utf8ByteSize ≤ nameLimit ∧ key.utf8ByteSize ≤ keyLimit
    · refine (join_traces started fits.1 fits.2 patience security attempts).mono ?_
      intro trace result after ⟨⟨cycles, flat, rounds⟩, _⟩
      exact Or.inr ⟨cycles, _, _, flat, rounds⟩
    · have long : nameLimit < name.utf8ByteSize ∨ keyLimit < key.utf8ByteSize := by omega
      unfold join requireInitialized checkCredentials
      simp only [bind_assoc, traces_get_bind, started, if_pos long, reduceIte, traces_pure_bind]
      exact traces_throw_bind (Or.inl rfl)
  · rw [Bool.not_eq_true] at started
    unfold Traces join
    rw [requireInitialized_bind_apply started]
    exact ⟨[], .refl _, Or.inl rfl⟩

/-- Every request of a join belongs to an attempt that began with the link down, and is made with
the link up exactly if the last report on the link within this attempt says so. It does no harm
if the chip keeps the link: then the join is over with the next poll, and has succeeded. -/
theorem join_asksBlindly (station : Station σ) (patience : Nat) (name key : String)
    (security : Security) (attempts : UInt8) :
    ∃ trace, station.host.Made trace (join patience name key security attempts station).2.host ∧
      ∀ earlier exchange later, trace = earlier ++ exchange :: later →
        exchange.asksToJoin = true →
        ∃ before within, earlier = before ++ within ∧
          Requested station.config station.host.record (connectCommand name key security)
            before within exchange later (join patience name key security attempts station).1 := by
  obtain ⟨trace, asked, course⟩ := join_rounds station patience name key security attempts
  refine ⟨trace, asked.host, fun earlier exchange later at_request asks ↦ ?_⟩
  rcases course with rfl | ⟨cycles, failure, budget, rfl, rounds⟩
  · exact absurd at_request (by simp)
  · exact rounds.requested at_request asks

/-- The link comes up during the second scan, and goes down with the second request. -/
def lateStation : Station Bench.Chip where
  host := { layer := { reactions := [("connect_ap",
    [⟨1, 20, ⟨Wire.Opcode.linkUp, []⟩⟩, ⟨2, -1, ⟨Wire.Opcode.linkDown, []⟩⟩])] } }
  config := { scanSettle := 20, policySettle := 0, connectTimeout := 10 }
  stage := .initialized

def lateJoin : Except WifiError Unit × Station Bench.Chip := join 0 "home" "" .wpa2 2 lateStation

/-- The last request to join that a host has served, and all that it had served before, the last
first. -/
def lastRequest (host : Host σ) : List Exchange := host.history.dropWhile (!·.asksToJoin)

omit [Layer σ] in
theorem history_of_lastRequest {host : Host σ} {exchange : Exchange} {earlier : List Exchange}
    (last : lastRequest host = exchange :: earlier) :
    ∃ later, host.history.reverse = earlier.reverse ++ exchange :: later := by
  have whole : host.history.takeWhile (!·.asksToJoin) ++ exchange :: earlier = host.history :=
    last ▸ List.takeWhile_append_dropWhile
  generalize host.history.takeWhile (!·.asksToJoin) = after at whole
  exact ⟨after.reverse, by simp [← whole]⟩

/-- A link that is there is asked for once more, and the join fails without one. -/
theorem lateJoin_asksLinked :
    lateJoin.1.toBool = false ∧ ∃ earlier exchange later,
      lateJoin.2.host.history.reverse = earlier ++ exchange :: later ∧
        exchange.asksToJoin = true ∧
        (recordAfter lateStation.host.record earlier).flags.linkUp = true := by
  have asks : (lastRequest lateJoin.2.host).head?.any Exchange.asksToJoin = true := by
    decide +kernel
  have up : (recordAfter lateStation.host.record
      (lastRequest lateJoin.2.host).tail.reverse).flags.linkUp = true := by decide +kernel
  obtain ⟨exchange, head, asks⟩ := (Option.any_eq_true _ _).mp asks
  obtain ⟨earlier, last⟩ := List.head?_eq_some_iff.mp head
  obtain ⟨later, split⟩ := history_of_lastRequest last
  rw [last, List.tail_cons] at up
  exact ⟨by decide +kernel, earlier.reverse, exchange, later, split, asks, up⟩

end Station

end Wlan

end SpiWifi
