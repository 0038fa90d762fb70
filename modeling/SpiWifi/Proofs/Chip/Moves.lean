import Mathlib.Logic.Relation
import SpiWifi.Net.Client
import SpiWifi.Proofs.Chip.Waiting

/-!
The moves of a host: serving the chip, running a command, a short pause after the chip has been
served, and three changes to the record that the host makes on its own. Connecting a socket takes
two of them, so it leaves commands alone in the history.
-/

set_option autoImplicit false
set_option relaxedAutoImplicit false

namespace SpiWifi

open Chip Relation

namespace Host

variable {σ α β : Type}

/-- The chip has been served since the last pause. The history comes last request first. -/
def Served (history : List Exchange) : Prop :=
  ∃ recent outcome earlier, history = recent ++ ⟨.poll, outcome⟩ :: earlier ∧
    ∀ exchange ∈ recent, exchange.command?.isSome

inductive Move [Layer σ] (interval : Nat) : Host σ → Host σ → Prop where
  | poll (host : Host σ) : Move interval host (poll host).2
  | command (request : Command) (host : Host σ) : Move interval host (command request host).2
  | pause {millis : UInt32} {host : Host σ} (short : millis.toNat ≤ interval)
      (served : Served host.history) : Move interval host (pause millis host).2
  | clearFlags (host : Host σ) : Move interval host (onRecord Events.Record.clearFlags host).2
  | resetPing (host : Host σ) : Move interval host (onRecord Events.Record.resetPing host).2
  | markOpen (socket : Nat) (host : Host σ) :
      Move interval host (onRecord (·.markClosed socket false) host).2

/-- The moves that connecting a socket needs. -/
inductive Errand [Layer σ] : Host σ → Host σ → Prop where
  | command (request : Command) (host : Host σ) : Errand host (command request host).2
  | markOpen (socket : Nat) (host : Host σ) :
      Errand host (onRecord (·.markClosed socket false) host).2

/-- What works on a host gets by with such steps. -/
def Follows (step : Host σ → Host σ → Prop) (work : HostM σ α) : Prop :=
  ∀ host, ReflTransGen step host (work host).2

section Follows

variable {step : Host σ → Host σ → Prop}

theorem path_bind {work : HostM σ α} {next : α → HostM σ β}
    (rest : ∀ value, Follows step (next value)) (host : Host σ) :
    ReflTransGen step (work host).2 ((work >>= next) host).2 := rest _ _

theorem Follows.bind {work : HostM σ α} {next : α → HostM σ β} (first : Follows step work)
    (second : ∀ value, Follows step (next value)) : Follows step (work >>= next) :=
  fun host ↦ (first host).trans (path_bind second host)

theorem follows_pure (value : α) : Follows step (pure value : HostM σ α) := fun _ ↦ .refl

end Follows

variable [Layer σ] {interval : Nat}

abbrev Walks (interval : Nat) (work : HostM σ α) : Prop := Follows (Move interval) work

theorem walks_poll : Walks interval (poll : HostM σ Unit) := fun host ↦ .single (.poll host)

theorem walks_command (request : Command) : Walks interval (command (σ := σ) request) :=
  fun host ↦ .single (.command request host)

theorem served_poll (host : Host σ) : Served (poll host).2.history :=
  ⟨[], _, host.history, rfl, nofun⟩

theorem Served.command {host : Host σ} (served : Served host.history) (request : Command) :
    Served (Host.command request host).2.history := by
  obtain ⟨recent, outcome, earlier, history, commands⟩ := served
  refine ⟨⟨.command request, (Layer.respond (.command request) host.layer).1⟩ :: recent, outcome,
    earlier, ?_, ?_⟩
  · show _ :: host.history = _
    rw [history]
    rfl
  · intro exchange mem
    rcases List.mem_cons.mp mem with rfl | mem
    · rfl
    · exact commands exchange mem

theorem walks_waitLoop (done : Events.Record → Bool) (step timeout waited : UInt32) :
    Walks (max step.toNat 1) (waitLoop (σ := σ) done step timeout waited) := by
  induction waited using waitLoop.induct step timeout with
  | case1 waited ih =>
    intro host
    rw [waitLoop_apply]
    split
    · exact .single (.poll host)
    · split
      · rename_i budget
        have short : (min (max step 1) (timeout - waited)).toNat ≤ max step.toNat 1 := by
          rw [toNat_min, toNat_max_one]
          exact Nat.min_le_left ..
        exact .head (.poll host) (.head (.pause short (served_poll host)) (ih budget _))
      · exact .single (.poll host)

/-! ### Connecting a socket -/

theorem follows_tryCommand (request : Command) : Follows Errand (tryCommand (σ := σ) request) :=
  fun host ↦ .single (.command request host)

/-- Connecting begins with a request for a socket. -/
theorem connect_path (kind : SocketKind) (ip : Net.Ipv4) (port : UInt16) (host : Host σ) :
    ReflTransGen Errand (command (.openSocket kind) host).2
      (Net.Client.connect kind ip port host).2 := by
  unfold Net.Client.connect
  refine path_bind (fun opened ↦ ?_) host
  cases opened with
  | error status => exact follows_pure _
  | ok socket =>
    dsimp only
    split
    · exact (follows_tryCommand _).bind fun _ ↦ follows_pure _
    have mark : Follows Errand (Net.Client.markOpen (σ := σ) socket) :=
      fun host ↦ .single (.markOpen socket.toNat host)
    have connects : Follows Errand
        (Host.command (σ := σ) (.connectSocket socket (.internet ip port))) :=
      fun host ↦ .single (.command _ host)
    refine mark.bind fun _ ↦ connects.bind fun connected ↦ ?_
    cases connected with
    | error status => exact (follows_tryCommand _).bind fun _ ↦ follows_pure _
    | ok _ => exact follows_pure _

theorem Errand.move {before after : Host σ} (errand : Errand before after) :
    Move interval before after := by
  cases errand with
  | command request => exact .command request before
  | markOpen socket => exact .markOpen socket before

theorem walks_connect (kind : SocketKind) (ip : Net.Ipv4) (port : UInt16) :
    Walks interval (Net.Client.connect (σ := σ) kind ip port) := fun host ↦
  .head (.command (.openSocket kind) host)
    (ReflTransGen.mono (fun _ _ ↦ Errand.move) _ _ (connect_path kind ip port host))

theorem applyNotices_closed (record : Events.Record) (closed : Vector Bool Events.socketCount)
    (notices : List Notice) :
    ∃ marks, applyNotices { record with closed } notices =
      { applyNotices record notices with closed := marks } := by
  induction notices generalizing record closed with
  | nil => exact ⟨closed, rfl⟩
  | cons first rest ih =>
    have one : ∃ marks, Events.Record.apply { record with closed } first.opcode first.args =
        { record.apply first.opcode first.args with closed := marks } := by
      unfold Events.Record.apply
      repeat' split
      all_goals exact ⟨_, rfl⟩
    obtain ⟨marks, one⟩ := one
    show ∃ marks, applyNotices (Events.Record.apply _ _ _) rest = _
    rw [one]
    exact ih _ marks

/-- Commands leave nothing but their reports; marks on sockets apart. -/
theorem commands_of_errands {before after : Host σ} (path : ReflTransGen Errand before after) :
    ∃ trace closed, after.history = trace.reverse ++ before.history ∧
      (∀ exchange ∈ trace, exchange.command?.isSome) ∧
      after.record = { recordAfter before.record trace with closed } := by
  induction path with
  | refl => exact ⟨[], before.record.closed, rfl, nofun, rfl⟩
  | @tail host _ _ errand ih =>
    obtain ⟨trace, closed, history, commands, record⟩ := ih
    cases errand with
    | command request =>
      obtain ⟨outcome, -, made⟩ := ask_made (.command request) host
      obtain ⟨marks, reported⟩ := applyNotices_closed (recordAfter before.record trace) closed
        (reports [⟨.command request, outcome⟩])
      refine ⟨trace ++ [⟨.command request, outcome⟩], marks, ?_, ?_, ?_⟩
      · show (ask (.command request) host).2.history = _
        rw [made.history, history, List.reverse_append, List.append_assoc]
      · intro exchange mem
        rcases List.mem_append.mp mem with mem | mem
        · exact commands exchange mem
        · rw [List.mem_singleton.mp mem]
          rfl
      · show (ask (.command request) host).2.record = _
        rw [made.record, record, recordAfter_append]
        exact reported
    | markOpen socket =>
      refine ⟨trace, closed.setIfInBounds socket false, history, commands, ?_⟩
      show host.record.markClosed socket false = _
      rw [record]
      rfl

/-- Connecting asks for a socket, and then for nothing but commands. -/
theorem connect_commands (kind : SocketKind) (ip : Net.Ipv4) (port : UInt16) (host : Host σ) :
    ∃ outcome later closed,
      (Net.Client.connect kind ip port host).2.history =
        (⟨.command (.openSocket kind), outcome⟩ :: later).reverse ++ host.history ∧
      (∀ exchange ∈ later, exchange.command?.isSome) ∧
      (Net.Client.connect kind ip port host).2.record =
        { recordAfter host.record (⟨.command (.openSocket kind), outcome⟩ :: later) with
          closed } := by
  obtain ⟨outcome, -, made⟩ := ask_made (.command (.openSocket kind)) host
  obtain ⟨later, closed, history, commands, record⟩ :=
    commands_of_errands (connect_path kind ip port host)
  have opened : (command (.openSocket kind) host).2.record =
      recordAfter host.record [⟨_, outcome⟩] := made.record
  refine ⟨outcome, later, closed, ?_, commands, ?_⟩
  · rw [List.reverse_cons, List.append_assoc]
    exact history.trans (congrArg _ made.history)
  · rw [record, opened, ← recordAfter_append]
    rfl

/-! ### What the moves keep -/

variable {before after : Host σ}

theorem LinkTold.move (told : LinkTold before) (move : Move interval before after) :
    LinkTold after := by
  have asked (request : Request) : LinkTold (ask request before).2 := by
    obtain ⟨_, -, made⟩ := ask_made request before
    exact told.made made
  cases move with
  | poll => exact asked _
  | command => exact asked _
  | pause => exact asked _
  | clearFlags => exact nofun
  | resetPing => exact told
  | markOpen => exact told

end Host

end SpiWifi
