import SpiWifi.Bench.Chip
import SpiWifi.Proofs.Net.Listening

/-!
A server at work, with calls on the server and on the clients in its slots. No socket is lost:
those of the connections that were accepted have been closed, or are in the slots.
-/

set_option autoImplicit false
set_option relaxedAutoImplicit false

namespace SpiWifi

open Chip

namespace Host

variable {σ : Type} {before after : Host σ} {trace : List Exchange}

/-- What was asked from one state of a host to a later one. -/
def since (before after : Host σ) : List Exchange :=
  (after.history.take (after.history.length - before.history.length)).reverse

theorem Logged.since_eq (logged : before.Logged trace after) : before.since after = trace := by
  rw [since, logged, List.length_append, Nat.add_sub_cancel, List.take_left, List.reverse_reverse]

end Host

namespace Net.Server

/-- The slots and who sits in them. -/
def slots (server : Server) : List Slot := server.clients.map (·.socket)

inductive Call where
  | listen
  | available
  | write (data : List UInt8)
  | writeByte (byte : UInt8)
  /-- A call on the client in a slot. -/
  | client (slot : Nat) (call : Net.Call)

/-- Without such a slot there is no client to make the call on. -/
def onSlot {σ : Type} [Layer σ] (slot : Nat) (call : Net.Call) :
    ServerM σ (Option call.Result) := do
  let server ← get
  match server.client? (some slot) with
  | none => return none
  | some client =>
    let (result, client) ← (call.perform client : HostM σ (call.Result × Client))
    set (server.reseat (server.clients.set slot client) List.length_set)
    return some result

namespace Call

@[reducible] def Result : Call → Type
  | listen => Except SocketError Unit
  | available => Option Nat
  | write _ | writeByte _ => Nat
  | client _ call => Option call.Result

def perform {σ : Type} [Layer σ] : (call : Call) → ServerM σ call.Result
  | listen => Server.listen
  | available => Server.available
  | write data => Server.write data
  | writeByte byte => Server.writeByte byte
  | client slot call => onSlot slot call

def isListen : Call → Bool
  | listen => true
  | _ => false

end Call

/-- A call with its result, and what was asked of the chip in it. -/
structure Visit where
  call : Call
  result : call.Result
  trace : List Exchange

/-- What became of sockets in some visits. -/
def dealt (visits : List Visit) : List Dealing := visits.flatMap fun visit ↦ dealings visit.trace

@[simp] theorem dealt_cons (visit : Visit) (rest : List Visit) :
    dealt (visit :: rest) = dealings visit.trace ++ dealt rest := List.flatMap_cons

/-- The visits that listen. -/
def listens (visits : List Visit) : List Visit := visits.filter (·.call.isListen)

/-- All other visits. -/
def others (visits : List Visit) : List Visit := visits.filter (!·.call.isListen)

/-- The socket of the new listener, if it was a call to listen that succeeded. -/
def Visit.installed? : Visit → Option SocketId
  | ⟨.listen, .ok (), trace⟩ => ((dealings trace).filterMap Dealing.opened?).head?
  | _ => none

/-- The sockets that have become listeners, the first one first. -/
def installed (visits : List Visit) : List SocketId := visits.filterMap Visit.installed?

variable {σ : Type} [Layer σ]

/-- Some calls one after the other. -/
def play : List Call → ServerM σ (List Visit)
  | [] => return []
  | call :: rest => do
    let before ← (get : HostM σ (Host σ))
    let result ← call.perform
    let after ← (get : HostM σ (Host σ))
    let visits ← play rest
    return ⟨call, result, before.since after⟩ :: visits

theorem play_cons (call : Call) (rest : List Call) (server : Server) (host : Host σ) :
    play (call :: rest) server host =
      ((⟨call, (call.perform server host).1.1, host.since (call.perform server host).2⟩ ::
          (play rest (call.perform server host).1.2 (call.perform server host).2).1.1,
        (play rest (call.perform server host).1.2 (call.perform server host).2).1.2),
        (play rest (call.perform server host).1.2 (call.perform server host).2).2) := rfl

/-! ### One call -/

theorem available_apply (server : Server) (host : Host σ) :
    available server host =
      let swept := acceptAll server host
      let found := firstReady swept.1.2.clients swept.2
      ((found.1.1, swept.1.2.reseat found.1.2 found.1.2.property), found.2) := rfl

theorem write_apply (data : List UInt8) (server : Server) (host : Host σ) :
    let results := server.clients.mapM (writeTo data) host
    ∃ width, write data server host =
      (((results.1.map Prod.fst).foldl (· + ·) 0, server.reseat (results.1.map Prod.snd) width),
        results.2) := by
  obtain ⟨results, last⟩ := table_mapM (writeTo data) server host
  obtain ⟨width, same⟩ := server.exists_reseat
    (Vector.toList_map.trans (congrArg (List.map Prod.snd) results))
  refine ⟨width, ?_⟩
  rw [← same, ← last, ← results]
  rfl

theorem onSlot_of_none {slot : Nat} {server : Server} (beyond : server.clients[slot]? = none)
    (call : Net.Call) (host : Host σ) :
    onSlot slot call server host = ((none, server), host) := by
  have nobody : server.client? (some slot) = none := beyond
  rw [onSlot, get_bind_apply, nobody]
  rfl

theorem onSlot_of_some {slot : Nat} {server : Server} {client : Client}
    (inside : server.clients[slot]? = some client) (call : Net.Call) (host : Host σ) :
    onSlot slot call server host =
      let done := call.perform client host
      ((some done.1.1, server.reseat (server.clients.set slot done.1.2) List.length_set),
        done.2) := by
  have present : server.client? (some slot) = some client := inside
  rw [onSlot, get_bind_apply, present]
  rfl

/-- A call other than one to listen leaves the listener alone; only the clients in the slots open
and close sockets in it. -/
structure Served (server : Server) (trace : List Exchange) (after : Server) : Prop where
  turns : Turns server.slots (dealings trace) after.slots
  listener : after.listener = server.listener

theorem available_served (server : Server) (host : Host σ) :
    ∃ trace, host.Logged trace (available server host).2 ∧
      Served server trace (available server host).1.2 := by
  rw [available_apply]
  obtain ⟨looks, looked, found⟩ :=
    firstReady_attended (acceptAll server host).1.2.clients (acceptAll server host).2
  have looking := found.turns Client.Attended.turns
  cases listening : server.listener with
  | none =>
    rw [acceptAll_of_none listening] at looked looking ⊢
    exact ⟨looks, looked, looking, rfl⟩
  | some listener =>
    obtain ⟨sweep, swept, each⟩ := acceptAll_swept listening host
    have sweeping := each.each.turns Offered.turns
    refine ⟨_, swept.trans looked, ?_, ?_⟩
    · rw [dealings_append]
      exact sweeping.trans looking
    · obtain ⟨_, swept⟩ := acceptAll_of_some listening host
      show (acceptAll server host).1.2.listener = _
      rw [swept]
      rfl

theorem write_served (data : List UInt8) (server : Server) (host : Host σ) :
    ∃ trace, host.Logged trace (write data server host).2 ∧
      Served server trace (write data server host).1.2 := by
  obtain ⟨trace, logged, each⟩ := Each.mapM Prod.snd (writeTo_attended data) server.clients host
  obtain ⟨_, written⟩ := write_apply data server host
  rw [written]
  exact ⟨trace, logged, each.turns Client.Attended.turns, rfl⟩

theorem onSlot_served (slot : Nat) (call : Net.Call) (server : Server) (host : Host σ) :
    ∃ trace, host.Logged trace (onSlot slot call server host).2 ∧
      Served server trace (onSlot slot call server host).1.2 := by
  cases found : server.clients[slot]? with
  | none =>
    rw [onSlot_of_none found]
    exact ⟨[], .refl host, .refl _, rfl⟩
  | some client =>
    rw [onSlot_of_some found]
    obtain ⟨trace, passes⟩ := Net.Call.perform_gets call client host
    refine ⟨trace, passes.logged, ?_, rfl⟩
    -- The slots on both sides of the one that is called on stand by.
    have turns := passes.turns.frame ((server.clients.take slot).map (·.socket))
      ((server.clients.drop (slot + 1)).map (·.socket))
    show Turns (server.clients.map _) _ ((server.clients.set slot _).map _)
    obtain ⟨inside, rfl⟩ := List.getElem?_eq_some_iff.mp found
    rw [List.set_eq_take_append_cons_drop, if_pos inside]
    nth_rewrite 1 [← List.take_append_drop slot server.clients]
    rw [← List.getElem_cons_drop inside]
    simpa only [List.map_append, List.map_cons, List.append_assoc,
      List.singleton_append] using turns

theorem Call.perform_served {call : Call} (other : call.isListen = false) (server : Server)
    (host : Host σ) : ∃ trace, host.Logged trace (call.perform server host).2 ∧
      Served server trace (call.perform server host).1.2 := by
  cases call with
  | listen => cases other
  | available => exact available_served server host
  | write data => exact write_served data server host
  | writeByte byte => exact write_served [byte] server host
  | client slot call => exact onSlot_served slot call server host

/-! ### A run -/

theorem dealt_perm (visits : List Visit) :
    (dealt (listens visits) ++ dealt (others visits)).Perm (dealt visits) := by
  rw [dealt, dealt, ← List.flatMap_append]
  exact (List.filter_append_perm (·.call.isListen) visits).flatMap_right _

/-- The books of a run. Outside of the calls to listen, the slots take their turns. Each call to
listen has closed the socket that it opened or made it the listener. -/
structure Books (server : Server) (visits : List Visit) (after : Server) : Prop where
  turns : Turns server.slots (dealt (others visits)) after.slots
  accepted : accepted (dealt (listens visits)) = 0
  opened : opened (dealt (listens visits)) = closed (dealt (listens visits)) + installed visits
  listener : after.listener = (installed visits).getLast?.or server.listener

namespace Books

variable {server middle after : Server} {trace : List Exchange} {rest : List Visit}

theorem other {call : Call} {result : call.Result} (kind : call.isListen = false)
    (served : Served server trace middle) (books : Books middle rest after) :
    Books server (⟨call, result, trace⟩ :: rest) after := by
  have skipped : listens (⟨call, result, trace⟩ :: rest) = listens rest :=
    List.filter_cons_of_neg (by simp [kind])
  have kept : others (⟨call, result, trace⟩ :: rest) = ⟨call, result, trace⟩ :: others rest :=
    List.filter_cons_of_pos (by simp [kind])
  have same : installed (⟨call, result, trace⟩ :: rest) = installed rest := by
    cases call <;> first | rfl | cases kind
  constructor
  · rw [kept, dealt_cons]
    exact served.turns.trans books.turns
  · rw [skipped, books.accepted]
  · rw [skipped, same, books.opened]
  · rw [same, books.listener, served.listener]

theorem listen {result : Except SocketError Unit} (listened : Listened server trace result middle)
    (books : Books middle rest after) : Books server (⟨.listen, result, trace⟩ :: rest) after := by
  have skipped : others (⟨.listen, result, trace⟩ :: rest) = others rest := rfl
  have kept : dealt (listens (⟨.listen, result, trace⟩ :: rest)) =
      dealings trace ++ dealt (listens rest) := rfl
  cases listened with
  | refused undealt =>
    rw [undealt] at kept
    exact ⟨books.turns, kept ▸ books.accepted, kept ▸ books.opened, books.listener⟩
  | abandoned given =>
    rw [given] at kept
    refine ⟨books.turns, ?_, ?_, books.listener⟩
    · rw [kept, accepted_append, books.accepted]
      rfl
    · rw [kept, opened_append, closed_append, books.opened, Multiset.add_assoc]
      rfl
  | @listening socket obtained =>
    rw [obtained] at kept
    have more : installed (⟨.listen, .ok (), trace⟩ :: rest) = socket :: installed rest := by
      rw [installed, List.filterMap_cons, Visit.installed?, obtained]
      rfl
    refine ⟨skipped ▸ books.turns, ?_, ?_, ?_⟩
    · rw [kept, accepted_append, books.accepted]
      rfl
    · rw [kept, more, opened_append, closed_append, books.opened, ← Multiset.cons_coe,
        Multiset.add_cons]
      exact (Multiset.singleton_add _ _).trans (congrArg _ (Multiset.zero_add _).symm)
    · rw [more, List.getLast?_cons, books.listener]
      cases (installed rest).getLast? <;> rfl

end Books

theorem play_books (calls : List Call) (server : Server) (host : Host σ) :
    Books server (play calls server host).1.1 (play calls server host).1.2 := by
  induction calls generalizing server host with
  | nil => exact ⟨.refl _, rfl, rfl, rfl⟩
  | cons call rest ih =>
    rw [play_cons]
    have books := ih (call.perform server host).1.2 (call.perform server host).2
    -- A call to listen deals with the listener alone, any other with the slots alone.
    cases kind : call.isListen with
    | true =>
      cases call with
      | listen =>
        obtain ⟨trace, logged, listened⟩ := listen_listened server host
        have since : host.since (Call.listen.perform server host).2 = trace := logged.since_eq
        rw [since]
        exact .listen listened books
      | _ => cases kind
    | false =>
      obtain ⟨trace, logged, served⟩ := call.perform_served kind server host
      rw [logged.since_eq]
      exact .other kind served books

/-! ### The clients' sockets -/

/-- What a server that was new has to show for the connections that it has accepted. -/
structure Accounts (visits : List Visit) (server : Server) : Prop where
  width : server.slots.length = slotCount
  /-- Every socket that was accepted has been closed, not counting what calls to listen have
  closed, or is in a slot. -/
  balance : accepted (dealt visits) = closed (dealt (others visits)) + held server.slots
  /-- A slot got a socket only while it had none. A socket that is not kept track of was closed at
  once, and its slot stayed free. -/
  turns : Turns (List.replicate slotCount none) (dealt (others visits)) server.slots
  tracked : ∀ socket ∈ held server.slots, socket.toNat < Events.socketCount
  /-- If no connection was accepted on a socket that was still open, the slots hold different
  sockets. -/
  distinct : Fresh 0 (dealt (others visits)) → (held server.slots).Nodup

/-- What is asked of the chip to find a client with data to read: a sweep if the server listens,
and then looks that accept nobody. -/
def Sweeps (server : Server) (host : Host σ) : Prop :=
  ∃ sweep looks, host.Logged sweep (acceptAll server host).2 ∧
    (acceptAll server host).2.Logged looks (available server host).2 ∧ accepts looks = 0 ∧
    (server.listener = none → sweep = []) ∧
    ∀ listener, server.listener = some listener →
      Swept listener server.clients sweep (acceptAll server host).1.2.clients

theorem sweeps (server : Server) (host : Host σ) : Sweeps server host := by
  obtain ⟨looks, looked, found⟩ :=
    firstReady_attended (acceptAll server host).1.2.clients (acceptAll server host).2
  cases listening : server.listener with
  | none =>
    have idle : host.Logged [] (acceptAll server host).2 := by
      rw [acceptAll_of_none listening]
      exact .refl host
    exact ⟨[], looks, idle, looked, found.accepts_eq, fun _ ↦ rfl, listening ▸ nofun⟩
  | some listener =>
    obtain ⟨sweep, logged, swept⟩ := acceptAll_swept listening host
    refine ⟨sweep, looks, logged, looked, found.accepts_eq, listening ▸ nofun, fun other same ↦ ?_⟩
    cases listening.symm.trans same
    exact swept

theorem Books.accounts {visits : List Visit} {port : UInt16} {after : Server}
    (books : Books { port } visits after) : Accounts visits after := by
  have turns : Turns (List.replicate slotCount none) (dealt (others visits)) after.slots :=
    books.turns
  have all : Chip.accepted (dealt visits) = Chip.accepted (dealt (others visits)) := by
    rw [← accepted_perm (dealt_perm visits), accepted_append, books.accepted, Multiset.zero_add]
  have balance : Chip.accepted (dealt (others visits)) + 0 = _ := turns.balance
  rw [Multiset.add_zero] at balance
  exact {
    width := turns.length_eq
    balance := all.trans balance
    turns
    tracked := turns.tracked nofun
    distinct := fun fresh ↦ turns.nodup fresh Multiset.nodup_zero }

/-- However the calls on a new server and on the clients in its slots follow each other, no socket
of theirs is lost, closed twice, or replaced while it is open. -/
theorem play_accounts (port : UInt16) (calls : List Call) (host : Host σ) :
    Accounts (play calls { port } host).1.1 (play calls { port } host).1.2 ∧
      Sweeps (play calls { port } host).1.2 (play calls { port } host).2 :=
  ⟨(play_books calls { port } host).accounts, sweeps _ _⟩

/-- Four peers, of which the second comes on a socket that is not kept track of. The first one
sends a little and leaves. -/
def busyHost : Host Bench.Chip where
  layer := {
    accepts := [.ok (some 1), .ok (some 7), .error ⟨-1⟩, .ok (some 2), .ok none, .ok (some 3)]
    arrivals := [(1, [.ok ⟨[104, 105], none⟩])] }

def busyCalls : List Call :=
  [.listen, .available, .client 0 (.read 4 8), .client 0 (.read 4 8), .available, .write [33]]

-- Irreducible, so that the run is evaluated only where `decide` asks for it.
@[irreducible] def busy : (List Visit × Server) × Host Bench.Chip :=
  play busyCalls { port := 80 } busyHost

theorem play_accounts_busy :
    Fresh 0 (dealt (others busy.1.1)) ∧ busy.1.2.slots = [some 2, none, some 3] ∧
      (held busy.1.2.slots).Nodup := by
  have fresh : Fresh 0 (dealt (others busy.1.1)) := by decide +kernel
  obtain ⟨accounts, -⟩ := play_accounts 80 busyCalls busyHost
  rw [← busy] at accounts
  exact ⟨fresh, by decide +kernel, accounts.distinct fresh⟩

end Net.Server

end SpiWifi
