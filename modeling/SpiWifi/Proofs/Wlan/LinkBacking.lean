import SpiWifi.Proofs.Wlan.Joining
import SpiWifi.Proofs.Wlan.Moves

/-!
What backs a successful join. The last report on the link is always that it is up. A join that
found the link down has seen this report itself, so no stop and no disconnect came after it. A
join that found the flag raised asks nothing of the chip, and the flag may be left from before a
stop: a station does not lower it when it takes the link down.
-/

set_option autoImplicit false
set_option relaxedAutoImplicit false

namespace SpiWifi

open Chip

namespace Chip

/-- The commands that take the link down. -/
def Command.endsLink : Command → Bool
  | .stop | .disconnect => true
  | _ => false

/-- The chip was told to take the link down, and did. -/
def Exchange.endsLink (exchange : Exchange) : Bool :=
  exchange.command?.any Command.endsLink && exchange.failure?.isNone

end Chip

namespace Host

variable {σ : Type} {before after : Host σ} {trace : List Exchange}

/-- The requests since the link was last ended. -/
def sinceEnded (host : Host σ) : List Exchange :=
  (host.history.takeWhile fun exchange ↦ !exchange.endsLink).reverse

/-- Since the link was last ended it has been reported up, and not down again. -/
def LinkBacked (host : Host σ) : Prop := lastLink (reports host.sinceEnded) = some true

instance (host : Host σ) : Decidable host.LinkBacked := inferInstanceAs (Decidable (_ = _))

theorem sinceEnded_append (made : before.Made trace after)
    (keeps : ∀ exchange ∈ trace, exchange.endsLink = false) :
    after.sinceEnded = before.sinceEnded ++ trace := by
  have kept : ∀ exchange ∈ trace.reverse, (!exchange.endsLink) = true := fun exchange mem ↦ by
    rw [keeps exchange (List.mem_reverse.mp mem)]
    rfl
  rw [sinceEnded, made.history, List.takeWhile_append_of_pos kept, List.reverse_append,
    List.reverse_reverse]
  rfl

/-- A link that came up during some requests that do not end it is backed. -/
theorem linkBacked_of_made (made : before.Made trace after)
    (keeps : ∀ exchange ∈ trace, exchange.endsLink = false)
    (down : before.record.flags.linkUp = false) (up : after.record.flags.linkUp = true) :
    LinkBacked after := by
  rw [made.record, linkUp_recordAfter_iff, down] at up
  rcases up with raised | ⟨-, impossible⟩
  · rw [LinkBacked, sinceEnded_append made keeps, reports_append, lastLink_append, raised,
      Option.some_or]
  · cases impossible

end Host

namespace Wlan

/-- An attempt to join asks for two scan windows, the policy and the network. -/
theorem JoinAttempt.commands_isPrefix {config : Config} {request : Command}
    {record : Events.Record} {trace : List Exchange}
    (attempt : JoinAttempt config request record trace) :
    commands trace <+: taskCommands (scanTasks config ++ connectTasks config request) := by
  cases attempt with
  | refused performed => exact performed.commands_isPrefix
  | requested performed waited =>
    rw [commands_append, waited.commands_eq, List.append_nil]
    exact performed.commands_isPrefix

/-- No attempt to join takes the link down. -/
theorem JoinAttempt.keepsLink {config : Config} {name key : String} {security : Security}
    {record : Events.Record} {trace : List Exchange}
    (attempt : JoinAttempt config (connectCommand name key security) record trace)
    {exchange : Exchange} (mem : exchange ∈ trace) : exchange.endsLink = false := by
  have kept : (taskCommands (scanTasks config ++
      connectTasks config (connectCommand name key security))).all (!·.endsLink) = true := by
    unfold connectCommand
    split <;> rfl
  have keeps : ∀ request ∈ commands trace, request.endsLink = false := by
    intro request listed
    simpa using List.all_eq_true.mp kept request (attempt.commands_isPrefix.subset listed)
  rw [Exchange.endsLink, any_command?_eq_false keeps mem, Bool.false_and]

/-- No list of attempts takes the link down. -/
theorem Rounds.keepsLink {config : Config} {name key : String} {security : Security}
    {failure : WifiError} {budget : Nat} {record : Events.Record}
    {attempts : List (List Exchange)} {result : Except WifiError Unit}
    (rounds : Rounds (JoinAttempt config (connectCommand name key security)) failure budget record
      attempts result) {exchange : Exchange} (mem : exchange ∈ attempts.flatten) :
    exchange.endsLink = false := by
  obtain ⟨attempt, listed, mem⟩ := List.mem_flatten.mp mem
  obtain ⟨index, bound, rfl⟩ := List.mem_iff_getElem.mp listed
  exact (rounds.attempted index bound).2.keepsLink mem

namespace Station

variable {σ : Type} [Layer σ] {station : Station σ}

/-- A join that succeeds got past its checks. -/
theorem join_checked {patience : Nat} {name key : String} {security : Security} {attempts : UInt8}
    (joined : (join patience name key security attempts station).1 = .ok ()) :
    station.isInitialized = true ∧ name.utf8ByteSize ≤ nameLimit ∧ key.utf8ByteSize ≤ keyLimit := by
  have started : station.isInitialized = true := by
    rw [← Bool.not_eq_false]
    intro idle
    unfold join at joined
    rw [requireInitialized_bind_apply idle] at joined
    cases joined
  have fits : ¬ (nameLimit < name.utf8ByteSize ∨ keyLimit < key.utf8ByteSize) := by
    intro long
    have fails : Traces (join patience name key security attempts) station
        fun _ result _ ↦ result = .error .invalidArgument := by
      unfold join requireInitialized checkCredentials
      simp only [bind_assoc, traces_get_bind, started, if_pos long, reduceIte, traces_pure_bind]
      have refused : Traces (throw .invalidArgument : StationM σ Unit) station
          fun _ result _ ↦ result = .error .invalidArgument := traces_throw rfl
      refine refused.bind ?_ fun _ _ _ fails ↦ fails
      rintro _ _ _ _ ⟨⟩
    obtain ⟨_, -, failed⟩ := fails
    rw [joined] at failed
    cases failed
  exact ⟨started, by omega, by omega⟩

/-- A join succeeds with the link reported up, either by itself or before it did anything. -/
theorem joined_linkBacked {patience : Nat} {name key : String} {security : Security}
    {attempts : UInt8} (joined : (join patience name key security attempts station).1 = .ok ()) :
    (join patience name key security attempts station).2.isLinkUp = true ∧
      ((station.isLinkUp = true ∧ station.host.Made []
          (join patience name key security attempts station).2.host) ∨
        (station.isLinkUp = false ∧
          (join patience name key security attempts station).2.host.LinkBacked)) := by
  obtain ⟨started, nameFits, keyFits⟩ := join_checked joined
  obtain ⟨_, asked, ⟨cycles, rfl, rounds⟩, -⟩ :=
    join_traces started nameFits keyFits patience security attempts
  have up := rounds.ok_iff.mp joined
  rw [linkAfter_length, ← asked.host.record] at up
  refine ⟨up, ?_⟩
  cases before : station.isLinkUp with
  | true =>
    obtain rfl := rounds.eq_nil_of_linkUp before
    exact Or.inl ⟨rfl, asked.host⟩
  | false =>
    exact Or.inr ⟨rfl, Host.linkBacked_of_made asked.host (fun _ ↦ rounds.keepsLink) before up⟩

/-- A join that succeeds leaves a link whose last report is that it is up. It came in during the
join, unless the flag was raised before; then the join has asked nothing. -/
theorem run_joined_linkBacked (layer : σ) (config : Config) (ops : List Operation)
    {before after : Station σ} (reached : before = (fresh layer config).run ops) {patience : Nat}
    {name key : String} {security : Security} {attempts : UInt8}
    (joined : join patience name key security attempts before = (.ok (), after)) :
    lastLink (reports after.host.history.reverse) = some true ∧
      (before.isLinkUp = true ∧ after.host.history = before.host.history ∨
        before.isLinkUp = false ∧ after.host.LinkBacked) := by
  have ok : (join patience name key security attempts before).1 = .ok () := by rw [joined]
  obtain ⟨up, backed⟩ := joined_linkBacked ok
  have told : (join patience name key security attempts before).2.host.LinkTold := by
    rw [reached]
    exact linkTold_of_path (walks_join patience name key security attempts _)
      (run_linkTold layer config ops)
  rw [joined] at up told backed
  exact ⟨told up, backed.imp_left fun ⟨raised, made⟩ ↦ ⟨raised, made.history⟩⟩

/-- Some operations with a chip whose link comes up with every request to connect. -/
def eagerRun (ops : List Operation) : Station Bench.Chip :=
  (fresh { reactions := [("connect_ap", [⟨0, -1, ⟨Wire.Opcode.linkUp, []⟩⟩])] }
    { scanSettle := 0, policySettle := 0, connectTimeout := 0 }).run ops

def eagerJoin (station : Station Bench.Chip) : Except WifiError Unit × Station Bench.Chip :=
  join 0 "home" "" .wpa2 1 station

theorem ok_of_toBool {result : Except WifiError Unit} (h : result.toBool = true) :
    result = .ok () := by
  cases result with
  | ok _ => rfl
  | error _ => cases h

theorem eagerJoin_linkBacked :
    eagerJoin (eagerRun [.bringUp 0 false ""]) =
        (.ok (), (eagerJoin (eagerRun [.bringUp 0 false ""])).2) ∧
      (eagerRun [.bringUp 0 false ""]).isLinkUp = false ∧
      (eagerJoin (eagerRun [.bringUp 0 false ""])).2.host.LinkBacked := by
  have joined : eagerJoin (eagerRun [.bringUp 0 false ""]) =
      (.ok (), (eagerJoin (eagerRun [.bringUp 0 false ""])).2) :=
    Prod.ext (ok_of_toBool (by decide +kernel)) rfl
  obtain ⟨-, backed⟩ := run_joined_linkBacked _ _ [.bringUp 0 false ""] rfl joined
  have down : (eagerRun [.bringUp 0 false ""]).isLinkUp = false := by decide +kernel
  refine ⟨joined, down, ?_⟩
  rcases backed with ⟨raised, -⟩ | ⟨-, backed⟩
  · rw [← eagerRun, down] at raised
    cases raised
  · exact backed

/-- After a stop the flag is left, and a join takes it for a link. -/
theorem eagerJoin_after_stop :
    (eagerJoin (eagerRun [.bringUp 0 false "", .join 0 "home" "" .wpa2 1, .stop])).1 = .ok () ∧
      ¬ (eagerJoin (eagerRun
        [.bringUp 0 false "", .join 0 "home" "" .wpa2 1, .stop])).2.host.LinkBacked :=
  ⟨ok_of_toBool (by decide +kernel), by decide +kernel⟩

end Station

end Wlan

end SpiWifi
