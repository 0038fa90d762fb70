import Mathlib.Algebra.Ring.Nat
import SpiWifi.Proofs.Net.LazyClose
import SpiWifi.Proofs.Net.Serving

/-!
How a server writes to its clients. Each slot has one turn: a client that the check of the
connection keeps is sent all of the data once, one that it finds drained is closed and sent
nothing. What one client's turn comes to has no bearing on the turns of the others, and the total
is what the chip has taken.
-/

set_option autoImplicit false
set_option relaxedAutoImplicit false

namespace SpiWifi

open Chip

namespace Chip

/-- Where data was sent, and which. -/
def Exchange.sent? : Exchange → Option (SocketId × List UInt8)
  | ⟨.command (.send socket data), _⟩ => some (socket, data)
  | _ => none

/-- How many bytes the chip took, if it was sent any and did not refuse. -/
def Exchange.count? : Exchange → Option Nat
  | ⟨.command (.send _ _), outcome⟩ => outcome.answer.toOption
  | _ => none

def sends (trace : List Exchange) : List (SocketId × List UInt8) :=
  trace.filterMap Exchange.sent?

/-- The counts of the sends that succeeded. -/
def counts (trace : List Exchange) : List Nat := trace.filterMap Exchange.count?

@[simp] theorem sends_append (first second : List Exchange) :
    sends (first ++ second) = sends first ++ sends second := List.filterMap_append

@[simp] theorem counts_append (first second : List Exchange) :
    counts (first ++ second) = counts first ++ counts second := List.filterMap_append

theorem sum_counts_send {socket : SocketId} {data : List UInt8}
    (sending : Outcome (.command (.send socket data))) :
    (counts [⟨_, sending⟩]).sum = sending.answer.toOption.getD 0 := by
  rw [counts, List.filterMap_cons, Exchange.count?]
  cases sending.answer <;> rfl

end Chip

namespace Net.Server

variable {σ : Type} [Layer σ]

/-- A slot whose turn it is: its client, and the chip as it then is. -/
structure Delivery (σ : Type) where
  client : Client
  host : Host σ

/-- The turns of some slots, one after the other. -/
def deliveries (data : List UInt8) : List Client → Host σ → List (Delivery σ)
  | [], _ => []
  | client :: rest, host => ⟨client, host⟩ :: deliveries data rest (writeTo data client host).2

namespace Delivery

variable {delivery : Delivery σ} {socket : SocketId} {data : List UInt8}

/-- The check of the connection says that the client can be used. -/
def reached (delivery : Delivery σ) : Bool :=
  (Client.connected delivery.client delivery.host).1.1

/-- The check of the connection loses a client that was open. -/
def lost (delivery : Delivery σ) : Bool := delivery.client.isOpen && !delivery.reached

/-- The client that is left in the slot. -/
def after (delivery : Delivery σ) : Client :=
  if delivery.lost then delivery.client.closed else delivery.client

/-- All that is asked of the chip in the turn. -/
def trace (delivery : Delivery σ) (data : List UInt8) : List Exchange :=
  delivery.host.since (writeTo data delivery.client delivery.host).2

/-- What a turn asks of the chip. -/
inductive Asks (delivery : Delivery σ) (data : List UInt8) : List Exchange → Prop where
  | vacant (unopened : delivery.client.socket = none) : Asks delivery data []
  /-- There is nothing to read and the peer has left, so nothing is sent. -/
  | drained {socket : SocketId} {probe : Outcome (.command (.selectReadable socket 5000))}
      {closing : Outcome (.command (.closeSocket socket))}
      (drained : Client.Drained delivery.client socket delivery.host) :
      Asks delivery data [⟨_, probe⟩, ⟨_, closing⟩]
  | buffered {socket : SocketId} {sending : Outcome (.command (.send socket data))}
      (opened : delivery.client.socket = some socket) (some : 0 < delivery.client.buffered) :
      Asks delivery data [⟨_, sending⟩]
  | probed {socket : SocketId} {probe : Outcome (.command (.selectReadable socket 5000))}
      {sending : Outcome (.command (.send socket data))}
      (opened : delivery.client.socket = some socket) (empty : delivery.client.buffered = 0)
      (kept : ¬ Client.Drained delivery.client socket delivery.host) :
      Asks delivery data [⟨_, probe⟩, ⟨_, sending⟩]

theorem lost_iff :
    delivery.lost = true ↔ ∃ socket, Client.Drained delivery.client socket delivery.host := by
  rw [lost, Bool.and_eq_true, Bool.not_eq_true', reached, Client.connected_eq_false_iff]
  constructor
  · rintro ⟨opened, unopened | drained⟩
    · rw [Client.isOpen, unopened] at opened
      cases opened
    · exact drained
  · rintro ⟨socket, drained⟩
    refine ⟨?_, .inr ⟨socket, drained⟩⟩
    rw [Client.isOpen, drained.opened]
    rfl

namespace Asks

variable {trace : List Exchange}

/-- All of the data is sent once if the check keeps the client, and nothing is sent otherwise. -/
theorem sends_eq (asks : delivery.Asks data trace) :
    (sends trace).map (fun sent ↦ (some sent.1, sent.2)) =
      if delivery.reached then [(delivery.client.socket, data)] else [] := by
  cases asks with
  | vacant unopened =>
    rw [reached, Client.connected_of_none unopened]
    rfl
  | drained drained =>
    rw [reached, Client.connected_of_drained drained]
    rfl
  | buffered opened some =>
    rw [reached, Client.connected_of_buffered opened some, opened]
    rfl
  | probed opened _ kept =>
    rw [reached, Client.connected_of_undrained opened kept, opened]
    rfl

/-- The socket is closed if the check loses the client, and no other socket is opened or closed. -/
theorem dealings_eq (asks : delivery.Asks data trace) :
    (dealings trace).map some =
      if delivery.lost then [delivery.client.socket.map .closed] else [] := by
  cases asks with
  | vacant unopened =>
    rw [lost, Client.isOpen, unopened]
    rfl
  | drained drained =>
    rw [lost_iff.mpr ⟨_, drained⟩, drained.opened]
    rfl
  | buffered opened some =>
    rw [lost, reached, Client.connected_of_buffered opened some, Bool.not_true, Bool.and_false]
    rfl
  | probed opened _ kept =>
    rw [lost, reached, Client.connected_of_undrained opened kept, Bool.not_true, Bool.and_false]
    rfl

end Asks

end Delivery

/-! ### One turn -/

section Turn

variable {client : Client} {host middle : Host σ} {socket : SocketId}

theorem writeTo_of_lost (data : List UInt8) (lost : (Client.connected client host).1.1 = false) :
    writeTo data client host =
      ((0, (Client.connected client host).1.2), (Client.connected client host).2) := by
  rw [writeTo, Host.bind_apply]
  rcases checked : Client.connected client host with ⟨⟨_ | _, after⟩, last⟩
  · rfl
  · rw [checked] at lost
    cases lost

theorem writeTo_of_kept (data : List UInt8) (opened : client.socket = some socket)
    (kept : Client.connected client host = ((true, client), middle)) :
    writeTo data client host =
      (((Host.command (.send socket data) middle).1.toOption.getD 0, client),
        (Host.command (.send socket data) middle).2) := by
  rw [writeTo, Host.bind_apply, kept]
  simp only [if_true, Host.bind_apply]
  show (((Client.write data client middle).1.1.toOption.getD 0,
    (Client.write data client middle).1.2), (Client.write data client middle).2) = _
  rw [Client.write_of_some opened]
  rcases Host.command (.send socket data) middle with ⟨_ | _, last⟩ <;> rfl

/-- A client that its check keeps is left alone, and sent the data. -/
theorem writeTo_sends (data : List UInt8) (opened : client.socket = some socket)
    {checking : List Exchange} (logged : host.Logged checking middle)
    (uncounted : counts checking = [])
    (kept : Client.connected client host = ((true, client), middle)) :
    ∃ sending : Outcome (.command (.send socket data)),
      host.Logged (checking ++ [⟨_, sending⟩]) (writeTo data client host).2 ∧
      (writeTo data client host).1 =
        ((counts (checking ++ [⟨_, sending⟩])).sum, Delivery.after ⟨client, host⟩) := by
  obtain ⟨sending, answer, asked⟩ := Host.command_logged (.send socket data) middle
  refine ⟨sending, ?_, ?_⟩
  · rw [writeTo_of_kept data opened kept]
    exact logged.trans asked
  · rw [writeTo_of_kept data opened kept, answer, counts_append, uncounted, List.nil_append,
      sum_counts_send, Delivery.after, Delivery.lost, Delivery.reached, kept, Bool.not_true,
      Bool.and_false]
    rfl

/-- A turn asks for what it should, counts what the chip has taken, and leaves the client alone
unless it closes it. -/
theorem writeTo_asks (data : List UInt8) (client : Client) (host : Host σ) :
    ∃ trace, host.Logged trace (writeTo data client host).2 ∧
      Delivery.Asks ⟨client, host⟩ data trace ∧
      (writeTo data client host).1 = ((counts trace).sum, Delivery.after ⟨client, host⟩) := by
  cases opened : client.socket with
  | none =>
    have checked := Client.connected_of_none opened host
    rw [writeTo_of_lost data (congrArg (·.1.1) checked), checked]
    refine ⟨[], .refl host, .vacant opened, ?_⟩
    rw [Delivery.after, Delivery.lost, Client.isOpen, opened]
    rfl
  | some socket =>
    rcases Nat.eq_zero_or_pos client.buffered with empty | some
    · obtain ⟨probe, probes⟩ := Client.probes_of_empty opened empty host
      by_cases drained : Client.Drained client socket host
      · obtain ⟨closing, logged, lost⟩ := probes.closes drained
        rw [writeTo_of_lost data (congrArg (·.1) lost), lost]
        refine ⟨_, logged, .drained drained, ?_⟩
        rw [Delivery.after, Delivery.lost_iff.mpr ⟨socket, drained⟩]
        rfl
      · obtain ⟨sending, logged, result⟩ :=
          writeTo_sends data opened probes.asked.history rfl (probes.keeps drained)
        exact ⟨_, logged, .probed opened empty drained, result⟩
    · obtain ⟨sending, logged, result⟩ := writeTo_sends data opened (.refl host) rfl
        (Client.connected_of_buffered opened some host)
      exact ⟨_, logged, .buffered opened some, result⟩

end Turn

/-! ### One turn after the other -/

section Turns

variable {client : Client} {host : Host σ} {data : List UInt8} {clients : List Client}

theorem Delivery.logged (delivery : Delivery σ) (data : List UInt8) :
    delivery.host.Logged (delivery.trace data) (writeTo data delivery.client delivery.host).2 := by
  obtain ⟨_, logged, -⟩ := writeTo_asks data delivery.client delivery.host
  rwa [Delivery.trace, logged.since_eq]

theorem Delivery.asks (delivery : Delivery σ) (data : List UInt8) :
    delivery.Asks data (delivery.trace data) := by
  obtain ⟨_, logged, asks, -⟩ := writeTo_asks data delivery.client delivery.host
  rwa [Delivery.trace, logged.since_eq]

theorem Delivery.result_eq (delivery : Delivery σ) (data : List UInt8) :
    (writeTo data delivery.client delivery.host).1 =
      ((counts (delivery.trace data)).sum, delivery.after) := by
  obtain ⟨_, logged, -, result⟩ := writeTo_asks data delivery.client delivery.host
  rwa [Delivery.trace, logged.since_eq]

theorem deliveries_clients (data : List UInt8) (clients : List Client) (host : Host σ) :
    (deliveries data clients host).map (·.client) = clients := by
  induction clients generalizing host with
  | nil => rfl
  | cons client rest ih => exact congrArg _ (ih _)

/-- A turn begins where the turns before it have ended. -/
theorem deliveries_moment {earlier later : List (Delivery σ)} {delivery : Delivery σ}
    (split : deliveries data clients host = earlier ++ delivery :: later) :
    host.Logged (earlier.flatMap (·.trace data)) delivery.host := by
  induction clients generalizing host earlier with
  | nil => exact absurd split.symm (List.append_ne_nil_of_right_ne_nil _ (List.cons_ne_nil _ _))
  | cons client rest ih =>
    cases earlier with
    | nil =>
      cases split
      exact .refl host
    | cons first earlier =>
      rw [deliveries, List.cons_append] at split
      obtain ⟨rfl, behind⟩ := List.cons.inj split
      rw [List.flatMap_cons]
      exact (Delivery.logged ⟨client, host⟩ data).trans (ih behind)

omit [Layer σ] in
theorem mapM_cons_apply {β : Type} (work : Client → HostM σ β) (client : Client)
    (rest : List Client) (host : Host σ) :
    (client :: rest).mapM work host =
      ((work client host).1 :: (rest.mapM work (work client host).2).1,
        (rest.mapM work (work client host).2).2) := by
  rw [List.mapM_cons]
  rfl

theorem mapM_writeTo (data : List UInt8) (clients : List Client) (host : Host σ) :
    host.Logged ((deliveries data clients host).flatMap (·.trace data))
        (clients.mapM (writeTo data) host).2 ∧
      (clients.mapM (writeTo data) host).1 = (deliveries data clients host).map fun delivery ↦
        ((counts (delivery.trace data)).sum, delivery.after) := by
  induction clients generalizing host with
  | nil => exact ⟨.refl host, rfl⟩
  | cons client rest ih =>
    obtain ⟨logged, results⟩ := ih (writeTo data client host).2
    have result := Delivery.result_eq ⟨client, host⟩ data
    rw [mapM_cons_apply, deliveries, List.flatMap_cons, List.map_cons, results, ← result]
    exact ⟨(Delivery.logged ⟨client, host⟩ data).trans logged, rfl⟩

variable (turns : List (Delivery σ)) (data)

theorem sends_flatMap :
    (sends (turns.flatMap (·.trace data))).map (fun sent ↦ (some sent.1, sent.2)) =
      (turns.filter (·.reached)).map fun delivery ↦ (delivery.client.socket, data) := by
  induction turns with
  | nil => rfl
  | cons delivery rest ih =>
    rw [List.flatMap_cons, sends_append, List.map_append, (delivery.asks data).sends_eq, ih,
      List.filter_cons]
    cases delivery.reached <;> rfl

theorem dealings_flatMap :
    (dealings (turns.flatMap (·.trace data))).map some =
      (turns.filter (·.lost)).map fun delivery ↦ delivery.client.socket.map .closed := by
  induction turns with
  | nil => rfl
  | cons delivery rest ih =>
    rw [List.flatMap_cons, dealings_append, List.map_append, (delivery.asks data).dealings_eq, ih,
      List.filter_cons]
    cases delivery.lost <;> rfl

theorem sum_counts_flatMap :
    (counts (turns.flatMap (·.trace data))).sum =
      (turns.map fun delivery ↦ (counts (delivery.trace data)).sum).sum := by
  induction turns with
  | nil => rfl
  | cons delivery rest ih =>
    rw [List.flatMap_cons, counts_append, List.sum_append, ih, List.map_cons, List.sum_cons]

end Turns

/-! ### The whole broadcast -/

/-- The total is the sum of all counts, and only the clients that are lost are changed. -/
theorem write_eq (data : List UInt8) (server : Server) (host : Host σ) :
    let turns := deliveries data server.clients host
    ∃ width, write data server host =
      (((counts (turns.flatMap (·.trace data))).sum, server.reseat (turns.map (·.after)) width),
        (server.clients.mapM (writeTo data) host).2) := by
  obtain ⟨-, results⟩ := mapM_writeTo data server.clients host
  obtain ⟨width, written⟩ := write_apply data server host
  have clients : (server.clients.mapM (writeTo data) host).1.map Prod.snd =
      (deliveries data server.clients host).map (·.after) := by
    rw [results, List.map_map]
    rfl
  have total : ((server.clients.mapM (writeTo data) host).1.map Prod.fst).foldl (· + ·) 0 =
      (counts ((deliveries data server.clients host).flatMap (·.trace data))).sum := by
    rw [results, List.map_map, ← List.sum_eq_foldl, sum_counts_flatMap]
    rfl
  refine ⟨clients ▸ width, ?_⟩
  rw [written, total]
  simp only [clients]

/-- What a server asks of the chip to write to its clients, and what comes of it. -/
structure Broadcasts (data : List UInt8) (server : Server) (host : Host σ)
    (trace : List Exchange) : Prop where
  logged : host.Logged trace (write data server host).2
  /-- The slots take turns in order, and each turn begins where the one before has ended. -/
  clients_eq : (deliveries data server.clients host).map (·.client) = server.clients
  moment : ∀ earlier delivery later,
    deliveries data server.clients host = earlier ++ delivery :: later →
      host.Logged (earlier.flatMap (·.trace data)) delivery.host
  trace_eq : trace = (deliveries data server.clients host).flatMap (·.trace data)
  asks : ∀ delivery ∈ deliveries data server.clients host,
    delivery.Asks data (delivery.trace data)
  /-- The data is sent once to each client that its check keeps, and to nobody else, whatever the
  chip says to it. -/
  sends_eq : (sends trace).map (fun sent ↦ (some sent.1, sent.2)) =
    ((deliveries data server.clients host).filter (·.reached)).map fun delivery ↦
      (delivery.client.socket, data)
  total_eq : (write data server host).1.1 = (counts trace).sum
  /-- A client is lost in its check exactly if it is drained. -/
  lost_iff : ∀ delivery ∈ deliveries data server.clients host,
    delivery.lost = true ↔ ∃ socket, Client.Drained delivery.client socket delivery.host
  /-- The sockets of the clients that are lost are closed, and no others. -/
  closed_eq : (dealings trace).map some =
    ((deliveries data server.clients host).filter (·.lost)).map fun delivery ↦
      delivery.client.socket.map .closed
  /-- All else about the server is as before. -/
  server_eq : ∃ width, (write data server host).1.2 =
    server.reseat ((deliveries data server.clients host).map fun delivery ↦
      if delivery.lost then delivery.client.closed else delivery.client) width

/-- A server sends what it is given to every client that is still connected, and to each of them
once, however the chip answers to the others. -/
theorem write_broadcasts (data : List UInt8) (server : Server) (host : Host σ) :
    ∃ trace, Broadcasts data server host trace := by
  obtain ⟨logged, -⟩ := mapM_writeTo data server.clients host
  obtain ⟨width, written⟩ := write_eq data server host
  exact ⟨_, {
    logged := written ▸ logged
    clients_eq := deliveries_clients data server.clients host
    moment := fun earlier delivery later split ↦ deliveries_moment split
    trace_eq := rfl
    asks := fun delivery _ ↦ delivery.asks data
    sends_eq := sends_flatMap data _
    total_eq := congrArg (·.1.1) written
    lost_iff := fun delivery _ ↦ Delivery.lost_iff
    closed_eq := dealings_flatMap data _
    server_eq := ⟨width, congrArg (·.1.2) written⟩ }⟩

/-- A peer that has left, one that the chip refuses to send to, and one that has not been read to
the end. -/
def audience : Server where
  port := 80
  table := #v[{ socket := some 1 }, { socket := some 2 }, { socket := some 3, filled := 2 }]

def audienceHost : Host Bench.Chip where
  layer := { sends := [(2, [.error .failed]), (3, [.ok 5])] }
  record := ({} : Events.Record).markClosed 1 true

example : (write [7, 8] audience audienceHost).1 = (5, { audience with
      table := #v[{}, { socket := some 2 }, { socket := some 3, filled := 2 }] }) ∧
    sends (audienceHost.since (write [7, 8] audience audienceHost).2) =
      [(2, [7, 8]), (3, [7, 8])] := by
  decide +kernel

end Net.Server

end SpiWifi
