import SpiWifi.Net.Server
import SpiWifi.Proofs.Net.Release

/-!
What a server does with its slots, one after the other. In a sweep every slot whose client cannot
be used is offered one connection, right after the chip has been served; whatever comes of that,
the sweep goes on to the next slot.
-/

set_option autoImplicit false
set_option relaxedAutoImplicit false

namespace SpiWifi

open Chip

namespace Chip

def Exchange.isAccept : Exchange → Bool
  | ⟨.command (.accept _), _⟩ => true
  | _ => false

/-- How often a connection was asked for. -/
def accepts (trace : List Exchange) : Nat := trace.countP Exchange.isAccept

@[simp] theorem accepts_append (first second : List Exchange) :
    accepts (first ++ second) = accepts first + accepts second := List.countP_append

/-- Connections are asked for only right after the chip has been served. `served` tells whether it
was served just before. -/
def AcceptsServed : Bool → List Exchange → Prop
  | _, [] => True
  | served, exchange :: rest =>
    (exchange.isAccept = true → served = true) ∧ AcceptsServed exchange.isPoll rest

theorem AcceptsServed.mono {served : Bool} {trace : List Exchange}
    (h : AcceptsServed false trace) : AcceptsServed served trace := by
  cases trace with
  | nil => trivial
  | cons exchange rest => exact ⟨fun accept ↦ absurd (h.1 accept) Bool.false_ne_true, h.2⟩

theorem AcceptsServed.append {served : Bool} {first second : List Exchange}
    (h : AcceptsServed served first) (k : AcceptsServed false second) :
    AcceptsServed served (first ++ second) := by
  induction first generalizing served with
  | nil => exact k.mono
  | cons exchange rest ih => exact ⟨h.1, ih h.2⟩

theorem acceptsServed_of_accepts {trace : List Exchange} (none : accepts trace = 0) :
    AcceptsServed false trace := by
  induction trace with
  | nil => trivial
  | cons exchange rest ih =>
    rw [accepts, List.countP_cons] at none
    have other : ¬ exchange.isAccept = true := fun accept ↦ by simp [accept] at none
    exact ⟨fun accept ↦ absurd accept other, (ih (by rw [accepts]; omega)).mono⟩

/-- Who asks for no connection accepts none. -/
theorem accepted_of_accepts {trace : List Exchange} (none : accepts trace = 0) :
    accepted (dealings trace) = 0 := by
  induction trace with
  | nil => rfl
  | cons exchange rest ih =>
    rw [accepts, List.countP_cons] at none
    have after := ih (by rw [accepts]; omega)
    rw [← List.singleton_append, dealings_append, accepted_append, after]
    obtain ⟨_ | _ | request, outcome⟩ := exchange
    · rfl
    · rfl
    · cases request with
      | accept _ => simp [Exchange.isAccept] at none
      | openSocket kind =>
        rcases answer : outcome.answer with status | socket
        · rw [dealings_unopened answer]
          rfl
        · rw [dealings_opened answer]
          rfl
      | _ => rfl

/-- How many of the connections that were accepted got a slot. -/
def seats (dealings : List Dealing) : Nat :=
  (accepted dealings).countP (·.toNat < Events.socketCount)

@[simp] theorem seats_append (first second : List Dealing) :
    seats (first ++ second) = seats first + seats second := by
  rw [seats, accepted_append, Multiset.countP_add, seats, seats]

theorem seats_accepted (socket : SocketId) (rest : List Dealing) :
    seats (.accepted socket :: rest) =
      (if socket.toNat < Events.socketCount then 1 else 0) + seats rest := by
  show Multiset.countP _ (socket ::ₘ accepted rest) = _
  rw [Multiset.countP_cons, Nat.add_comm, seats]

theorem seats_of_accepts {trace : List Exchange} (none : accepts trace = 0) :
    seats (dealings trace) = 0 := by
  rw [seats, accepted_of_accepts none, Multiset.countP_zero]

end Chip

namespace Net

namespace Client

variable {client after : Client} {trace : List Exchange} {up : Bool} {count : Nat}

theorem calls_bind_apply {σ α β : Type} (op : ClientM σ α) (next : α → ClientM σ β)
    (client : Client) (host : Host σ) :
    (op >>= next : ClientM σ β) client host =
      next (op client host).1.1 (op client host).1.2 (op client host).2 := rfl

theorem Probed.accepts_eq (probed : Probed client trace count) : accepts trace = 0 := by
  cases probed <;> rfl

theorem Sends.accepts_eq (sends : client.Sends trace) : accepts trace = 0 := by
  refine List.countP_eq_zero.mpr fun exchange mem ↦ ?_
  obtain ⟨_, _, _, rfl⟩ := sends.exists_eq mem
  exact Bool.false_ne_true

/-- The client is seen to, and no connection is accepted. -/
structure Attended (client : Client) (trace : List Exchange) (after : Client) : Prop where
  turns : Turns [client.socket] (dealings trace) [after.socket]
  silent : accepts trace = 0

namespace Attended

variable {middle : Client} {later : List Exchange}

theorem refl (client : Client) : Attended client [] client := ⟨.refl _, rfl⟩

theorem trans (h : Attended client trace middle) (k : Attended middle later after) :
    Attended client (trace ++ later) after where
  turns := by
    rw [dealings_append]
    exact h.turns.trans k.turns
  silent := by rw [accepts_append, h.silent, k.silent]

/-- Requests that deal with no socket. -/
theorem quiet (undealt : dealings trace = []) (silent : accepts trace = 0) :
    Attended client trace client := by
  refine ⟨?_, silent⟩
  rw [undealt]
  exact .refl _

end Attended

theorem Checked.attended (checked : Checked client trace up after) :
    Attended client trace after := by
  cases checked with
  | unopened _ => exact .refl client
  | usable probed => exact .quiet probed.dealings_eq probed.accepts_eq
  | drained opened probed =>
    constructor
    · rw [dealings_append, probed.dealings_eq, opened]
      exact (Turn.released [] []).turns
    · rw [accepts_append, probed.accepts_eq]
      rfl

/-- A client that cannot be used has no socket. -/
theorem Checked.socket_eq (checked : Checked client trace false after) : after.socket = none := by
  cases checked with
  | unopened none => exact none
  | drained _ _ => rfl

end Client

namespace Server

variable {σ α β : Type} {clients afters : List Client} {trace : List Exchange}
  {turn : Client → List Exchange → Client → Prop}

theorem get_bind_apply (next : Server → ServerM σ α) (server : Server) (host : Host σ) :
    (get >>= next : ServerM σ α) server host = next server server host := rfl

/-- The slots of a server are seen to as the list of its clients is. -/
theorem table_mapM (work : Client → HostM σ β) (server : Server) (host : Host σ) :
    (server.table.mapM work host).1.toList = (server.clients.mapM work host).1 ∧
      (server.table.mapM work host).2 = (server.clients.mapM work host).2 := by
  have array : Vector.toArray <$> server.table.mapM work = server.table.toArray.mapM work :=
    Vector.toArray_mapM
  have list : Array.toList <$> server.table.toArray.mapM work = server.clients.mapM work :=
    Array.toList_mapM
  rw [← array] at list
  have same := congrFun list host
  exact ⟨congrArg Prod.fst same, congrArg Prod.snd same⟩

/-- Some clients are seen to one after the other. -/
inductive Each (turn : Client → List Exchange → Client → Prop) :
    List Client → List Exchange → List Client → Prop where
  | nil : Each turn [] [] []
  | cons {client after : Client} {trace later : List Exchange} {clients afters : List Client}
      (first : turn client trace after) (rest : Each turn clients later afters) :
      Each turn (client :: clients) (trace ++ later) (after :: afters)

namespace Each

theorem refl (still : ∀ client, turn client [] client) (clients : List Client) :
    Each turn clients [] clients := by
  induction clients with
  | nil => exact .nil
  | cons client rest ih => exact .cons (still client) ih

theorem mapM {work : Client → HostM σ β} (view : β → Client)
    (step : ∀ client host, ∃ trace, host.Logged trace (work client host).2 ∧
      turn client trace (view (work client host).1)) (clients : List Client) (host : Host σ) :
    ∃ trace, host.Logged trace (clients.mapM work host).2 ∧
      Each turn clients trace ((clients.mapM work host).1.map view) := by
  induction clients generalizing host with
  | nil => exact ⟨[], .refl host, .nil⟩
  | cons client rest ih =>
    obtain ⟨trace, logged, first⟩ := step client host
    obtain ⟨later, more, others⟩ := ih (work client host).2
    rw [List.mapM_cons]
    exact ⟨trace ++ later, logged.trans more, .cons first others⟩

theorem turns (each : Each turn clients trace afters)
    (one : ∀ {client trace after}, turn client trace after →
      Turns [client.socket] (dealings trace) [after.socket]) :
    Turns (clients.map (·.socket)) (dealings trace) (afters.map (·.socket)) := by
  induction each with
  | nil => exact .refl []
  | @cons client after _ _ clients afters first _ ih =>
    -- The first slot takes its turns while the others stand by, and then they take theirs.
    have front := (one first).frame [] (clients.map (·.socket))
    have back := ih.frame [after.socket] []
    rw [List.append_nil, List.append_nil] at back
    rw [dealings_append]
    exact front.trans back

theorem accepts_eq (each : Each Client.Attended clients trace afters) : accepts trace = 0 := by
  induction each with
  | nil => rfl
  | cons first _ ih => rw [accepts_append, first.silent, ih]

end Each

/-! ### Offering connections -/

/-- A slot in a sweep. One whose client can be used is left alone; any other is offered one
connection. -/
inductive Offered (listener : SocketId) (client : Client) : List Exchange → Client → Prop where
  | busy {socket : SocketId} {trace : List Exchange} {count : Nat}
      (opened : client.socket = some socket) (probed : Client.Probed client trace count) :
      Offered listener client trace client
  | empty {trace : List Exchange} {after : Client} {poll : Outcome .poll}
      {accepting : Outcome (.command (.accept listener))}
      (checked : Client.Checked client trace false after)
      (nobody : ∀ socket, accepting.answer ≠ .ok (some socket)) :
      Offered listener client (trace ++ [⟨_, poll⟩, ⟨_, accepting⟩]) after
  | seated {trace : List Exchange} {after : Client} {poll : Outcome .poll}
      {accepting : Outcome (.command (.accept listener))} {socket : SocketId}
      (checked : Client.Checked client trace false after)
      (answer : accepting.answer = .ok (some socket))
      (tracked : socket.toNat < Events.socketCount) :
      Offered listener client (trace ++ [⟨_, poll⟩, ⟨_, accepting⟩]) { socket := some socket }
  | rejected {trace : List Exchange} {after : Client} {poll : Outcome .poll}
      {accepting : Outcome (.command (.accept listener))} {socket : SocketId}
      {closing : Outcome (.command (.closeSocket socket))}
      (checked : Client.Checked client trace false after)
      (answer : accepting.answer = .ok (some socket))
      (untracked : Events.socketCount ≤ socket.toNat) :
      Offered listener client (trace ++ [⟨_, poll⟩, ⟨_, accepting⟩, ⟨_, closing⟩]) after

section Accepting

variable {listener socket : SocketId} {accepting : Outcome (.command (.accept listener))}
  {rest : List Exchange}

theorem dealings_accepted (answer : accepting.answer = .ok (some socket)) (poll : Outcome .poll) :
    dealings (⟨_, poll⟩ :: ⟨_, accepting⟩ :: rest) = .accepted socket :: dealings rest := by
  rw [dealings_poll, dealings, List.filterMap_cons, Exchange.dealing?, answer]
  rfl

theorem dealings_nobody (nobody : ∀ socket, accepting.answer ≠ .ok (some socket))
    (poll : Outcome .poll) :
    dealings [⟨_, poll⟩, ⟨_, accepting⟩] = [] := by
  rw [dealings_poll, dealings, List.filterMap_cons, Exchange.dealing?]
  rcases answer : accepting.answer with status | _ | socket
  · rfl
  · rfl
  · exact absurd answer (nobody socket)

end Accepting

namespace Offered

variable {listener : SocketId} {client after : Client}

theorem turns (offered : Offered listener client trace after) :
    Turns [client.socket] (dealings trace) [after.socket] := by
  cases offered with
  | busy opened probed =>
    rw [probed.dealings_eq]
    exact .refl _
  | empty checked nobody =>
    rw [dealings_append, dealings_nobody nobody, List.append_nil]
    exact checked.attended.turns
  | seated checked answer tracked =>
    have freed := checked.attended.turns
    rw [checked.socket_eq] at freed
    rw [dealings_append, dealings_accepted answer]
    exact freed.trans (Turn.seated [] [] tracked).turns
  | rejected checked answer untracked =>
    have freed := checked.attended.turns
    rw [checked.socket_eq] at freed
    rw [dealings_append, dealings_accepted answer, checked.socket_eq]
    exact freed.trans (Turn.rejected [] [] untracked).turns

theorem acceptsServed (offered : Offered listener client trace after) :
    AcceptsServed false trace := by
  cases offered with
  | busy _ probed => exact acceptsServed_of_accepts probed.accepts_eq
  | empty checked _ =>
    exact (acceptsServed_of_accepts checked.attended.silent).append ⟨nofun, fun _ ↦ rfl, trivial⟩
  | seated checked _ _ =>
    exact (acceptsServed_of_accepts checked.attended.silent).append ⟨nofun, fun _ ↦ rfl, trivial⟩
  | rejected checked _ _ =>
    exact (acceptsServed_of_accepts checked.attended.silent).append
      ⟨nofun, fun _ ↦ rfl, nofun, trivial⟩

/-- A slot that was offered a connection is still free, or somebody sits there now. -/
theorem accepts_eq (offered : Offered listener client trace after) :
    accepts trace = (if after.isOpen then 0 else 1) + seats (dealings trace) := by
  cases offered with
  | busy opened probed =>
    rw [probed.accepts_eq, seats_of_accepts probed.accepts_eq, Client.isOpen, opened]
    rfl
  | empty checked nobody =>
    rw [accepts_append, dealings_append, seats_append, checked.attended.silent,
      seats_of_accepts checked.attended.silent, dealings_nobody nobody, Client.isOpen,
      checked.socket_eq]
    rfl
  | seated checked answer tracked =>
    rw [accepts_append, dealings_append, seats_append, checked.attended.silent,
      seats_of_accepts checked.attended.silent, dealings_accepted answer]
    rw [seats_accepted, if_pos tracked]
    rfl
  | rejected checked answer untracked =>
    rw [accepts_append, dealings_append, seats_append, checked.attended.silent,
      seats_of_accepts checked.attended.silent, dealings_accepted answer, Client.isOpen,
      checked.socket_eq]
    rw [seats_accepted, if_neg (Nat.not_lt.mpr untracked)]
    rfl

end Offered

/-- A sweep over some slots. -/
structure Swept (listener : SocketId) (clients : List Client) (trace : List Exchange)
    (afters : List Client) : Prop where
  each : Each (Offered listener) clients trace afters
  /-- Each connection is asked for right after the chip was served. -/
  served : AcceptsServed false trace
  /-- One connection is asked for on behalf of each slot that is free at the end or got its client
  in this sweep. -/
  accepts_eq : accepts trace = afters.countP (!·.isOpen) + seats (dealings trace)

theorem Each.swept {listener : SocketId} (each : Each (Offered listener) clients trace afters) :
    Swept listener clients trace afters := by
  refine ⟨each, ?_, ?_⟩
  · induction each with
    | nil => trivial
    | cons first _ ih => exact first.acceptsServed.append ih
  · induction each with
    | nil => rfl
    | @cons _ after _ _ _ _ first _ ih =>
      rw [accepts_append, dealings_append, seats_append, first.accepts_eq, ih, List.countP_cons]
      cases after.isOpen <;> simp <;> omega

variable [Layer σ]

theorem acceptInto_apply (listener : SocketId) (client : Client) (host : Host σ) :
    acceptInto listener client host =
      match Client.connected client host with
      | ((true, after), last) => (after, last)
      | ((false, after), last) =>
        match Host.command (.accept listener) (Host.poll last).2 with
        | (.ok (some socket), asked) =>
          if Client.isTracked socket then
            ({ socket := some socket }, (Client.markOpen socket asked).2)
          else (after, (Host.command (.closeSocket socket) asked).2)
        | (_, asked) => (after, asked) := by
  unfold acceptInto
  rw [Host.bind_apply]
  rcases Client.connected client host with ⟨⟨_ | _, after⟩, last⟩
  · simp only [Bool.false_eq_true, if_false, Host.bind_apply]
    rcases Host.command (.accept listener) (Host.poll last).2 with ⟨_ | _ | socket, asked⟩
    · rfl
    · rfl
    · dsimp only
      split <;> rfl
  · rfl

theorem acceptInto_offered (listener : SocketId) (client : Client) (host : Host σ) :
    ∃ trace, host.Logged trace (acceptInto listener client host).2 ∧
      Offered listener client trace (acceptInto listener client host).1 := by
  obtain ⟨checking, checked, outcome⟩ := Client.connected_checked client host
  rw [acceptInto_apply]
  rcases found : Client.connected client host with ⟨⟨_ | _, after⟩, last⟩
  · rw [found] at checked outcome
    obtain ⟨poll, polled⟩ := Host.poll_logged last
    obtain ⟨accepting, answer, asked⟩ := Host.command_logged (.accept listener) (Host.poll last).2
    have sofar := checked.trans (polled.trans asked)
    dsimp only
    generalize Host.command (.accept listener) (Host.poll last).2 = result at *
    obtain ⟨status | _ | socket, answered⟩ := result
    · exact ⟨_, sofar, .empty outcome fun _ got ↦ by rw [← answer] at got; cases got⟩
    · exact ⟨_, sofar, .empty outcome fun _ got ↦ by rw [← answer] at got; cases got⟩
    · by_cases tracked : Client.isTracked socket = true
      · simp only [if_pos tracked]
        exact ⟨_, sofar, .seated outcome answer.symm ((Client.isTracked_iff socket).mp tracked)⟩
      · obtain ⟨closing, -, closed⟩ := Host.command_logged (.closeSocket socket) answered
        simp only [if_neg tracked]
        refine ⟨_, sofar.trans closed, ?_⟩
        rw [List.append_assoc]
        exact .rejected outcome answer.symm (Nat.le_of_not_lt fun small ↦
          tracked ((Client.isTracked_iff socket).mpr small))
  · rw [found] at checked outcome
    cases opened : client.socket with
    | none =>
      rw [Client.connected_of_none opened] at found
      cases found
    | some socket =>
      cases outcome with
      | usable probed => exact ⟨checking, checked, .busy opened probed⟩

theorem acceptAll_of_none {server : Server} (idle : server.listener = none) (host : Host σ) :
    acceptAll server host = (((), server), host) := by
  rw [acceptAll, get_bind_apply, idle]
  rfl

theorem acceptAll_of_some {server : Server} {listener : SocketId}
    (listening : server.listener = some listener) (host : Host σ) :
    let clients := server.clients.mapM (acceptInto listener) host
    ∃ width, acceptAll server host = (((), server.reseat clients.1 width), clients.2) := by
  obtain ⟨clients, last⟩ := table_mapM (acceptInto listener) server host
  obtain ⟨width, same⟩ := server.exists_reseat clients
  refine ⟨width, ?_⟩
  rw [← same, ← last, acceptAll, get_bind_apply, listening]
  rfl

theorem acceptAll_swept {server : Server} {listener : SocketId}
    (listening : server.listener = some listener) (host : Host σ) :
    ∃ trace, host.Logged trace (acceptAll server host).2 ∧
      Swept listener server.clients trace (acceptAll server host).1.2.clients := by
  obtain ⟨trace, logged, each⟩ := Each.mapM id (acceptInto_offered listener) server.clients host
  obtain ⟨_, swept⟩ := acceptAll_of_some listening host
  rw [List.map_id] at each
  rw [swept]
  exact ⟨trace, logged, each.swept⟩

/-! ### Looking and writing -/

theorem isReady_attended (client : Client) (host : Host σ) :
    ∃ trace, host.Logged trace (isReady client host).2 ∧
      client.Attended trace (isReady client host).1.2 := by
  obtain ⟨trace, logged, checked⟩ := Client.connected_checked client host
  rw [isReady, Client.calls_bind_apply]
  rcases found : Client.connected client host with ⟨⟨_ | _, after⟩, last⟩ <;>
    rw [found] at logged checked
  · exact ⟨trace, logged, checked.attended⟩
  · obtain ⟨later, more, same, probed⟩ := Client.available_probed after last
    simp only [if_true, Client.calls_bind_apply]
    refine ⟨_, logged.trans more, ?_⟩
    show client.Attended _ (Client.available after last).1.2
    rw [same]
    exact checked.attended.trans (.quiet probed.dealings_eq probed.accepts_eq)

theorem firstReady_attended (clients : List Client) (host : Host σ) :
    ∃ trace, host.Logged trace (firstReady clients host).2 ∧
      Each Client.Attended clients trace (firstReady clients host).1.2 := by
  induction clients generalizing host with
  | nil => exact ⟨[], .refl host, .nil⟩
  | cons client rest ih =>
    obtain ⟨trace, logged, first⟩ := isReady_attended client host
    rw [firstReady, Host.bind_apply]
    rcases found : isReady client host with ⟨⟨_ | _, after⟩, last⟩ <;> rw [found] at logged first
    · obtain ⟨later, more, others⟩ := ih last
      exact ⟨_, logged.trans more, .cons first others⟩
    · exact ⟨_, logged.trans (.refl last), .cons first (.refl .refl rest)⟩

theorem writeTo_attended (data : List UInt8) (client : Client) (host : Host σ) :
    ∃ trace, host.Logged trace (writeTo data client host).2 ∧
      client.Attended trace (writeTo data client host).1.2 := by
  obtain ⟨trace, logged, checked⟩ := Client.connected_checked client host
  rw [writeTo, Host.bind_apply]
  rcases found : Client.connected client host with ⟨⟨_ | _, after⟩, last⟩ <;>
    rw [found] at logged checked
  · exact ⟨trace, logged, checked.attended⟩
  · obtain ⟨later, more, same, sends⟩ := Client.onlySends_write data after last
    simp only [if_true, Host.bind_apply]
    refine ⟨_, logged.trans more, ?_⟩
    show client.Attended _ (Client.write data after last).1.2
    rw [same]
    exact checked.attended.trans (.quiet sends.dealings_eq sends.accepts_eq)

end Server

end Net

end SpiWifi
