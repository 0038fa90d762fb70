import SpiWifi.Proofs.Net.Serving

/-!
The listeners of a server. A call to listen that fails has closed the socket that it opened. One
that succeeds has made it the server's listener, and the listener from before is forgotten: no call
closes it.
-/

set_option autoImplicit false
set_option relaxedAutoImplicit false

namespace SpiWifi

open Chip

namespace Net.Server

variable {σ : Type} [Layer σ] {visits : List Visit} {server after : Server}

/-- What a server that was new has to show for the sockets that it has opened to listen. -/
structure ListenerAccounts (visits : List Visit) (server : Server) : Prop where
  /-- Nothing but a call to listen has opened a socket, and each of these has closed its own or
  made it the listener. -/
  opened : opened (dealt visits) = closed (dealt (listens visits)) + installed visits
  /-- All other sockets that were closed had been accepted. -/
  balance : Chip.opened (dealt visits) + accepted (dealt visits) =
    closed (dealt visits) + held server.slots + installed visits
  listener : server.listener = (installed visits).getLast?
  /-- All sockets that were opened are closed or the listener, as long as no more than one call to
  listen has succeeded. -/
  kept : Chip.opened (dealt visits) =
      closed (dealt (listens visits)) + (server.listener.toList : Multiset SocketId) ↔
    (installed visits).length ≤ 1

/-- What is left of some sockets if only the last one is kept. -/
theorem coe_eq_getLast?_iff {α : Type} (items : List α) :
    (items : Multiset α) = (items.getLast?.toList : Multiset α) ↔ items.length ≤ 1 := by
  constructor
  · intro same
    have size := congrArg Multiset.card same
    rw [Multiset.coe_card, Multiset.coe_card] at size
    rw [size]
    exact Option.length_toList_le
  · intro short
    match items, short with
    | [], _ => rfl
    | [item], _ => rfl

theorem Books.opened_eq (books : Books server visits after) :
    Chip.opened (dealt visits) = closed (dealt (listens visits)) + installed visits := by
  rw [← opened_perm (dealt_perm visits), opened_append, books.turns.opened_eq, Multiset.add_zero,
    books.opened]

/-- However the calls on a new server follow each other, the sockets that it has opened to listen
have been closed, once each, except for those that have become its listener; of these, only the
last one is its listener still. So none is lost exactly as long as no more than one call to listen
has succeeded. -/
theorem play_listenerAccounts (port : UInt16) (calls : List Call) (host : Host σ) :
    ListenerAccounts (play calls { port } host).1.1 (play calls { port } host).1.2 := by
  have books := play_books calls { port } host
  generalize (play calls { port } host).1.1 = visits at books ⊢
  generalize (play calls { port } host).1.2 = after at books ⊢
  have last : after.listener = (installed visits).getLast? := by
    rw [books.listener, Option.or_none]
  refine ⟨books.opened_eq, ?_, last, ?_⟩
  · have clients := books.accounts.balance
    rw [books.opened_eq, clients, ← closed_perm (dealt_perm visits), closed_append]
    ac_rfl
  · rw [books.opened_eq, last, add_right_inj]
    exact coe_eq_getLast?_iff (installed visits)

/-- A server that listens twice to a chip that grants everything. -/
def listenedTwice : (List Visit × Server) × Host Bench.Chip :=
  play [.listen, .listen] { port := 80 } { layer := {} }

/-- The first listener is neither the listener any more nor closed. -/
theorem listenedTwice_forgets :
    installed listenedTwice.1.1 = [0, 1] ∧ .opened 0 ∈ dealt listenedTwice.1.1 ∧
      listenedTwice.1.2.listener = some 1 ∧ closed (dealt listenedTwice.1.1) = 0 := by
  decide +kernel

end Net.Server

end SpiWifi
