import SpiWifi.Bench.Chip
import SpiWifi.Proofs.Net.Release

/-!
When a client lets go of a socket whose peer has left. It does so in a check of the connection that
finds nothing to read, neither in the buffer nor by the one probe that it makes, and the peer marked
as gone once the probe is answered. Before that no check closes anything, and none takes a byte.
-/

set_option autoImplicit false
set_option relaxedAutoImplicit false

namespace SpiWifi

open Chip

namespace Net.Client

section Unread

variable {client : Client}

theorem unread_of_buffered (empty : client.buffered = 0) : client.unread = [] := by
  rw [buffered] at empty
  rw [unread, ← List.length_eq_zero_iff, List.length_drop, List.length_take]
  omega

theorem unread_closed (client : Client) : client.closed.unread = [] :=
  unread_of_buffered rfl

/-- Without a socket there is nothing to read. -/
def Tidy (client : Client) : Prop := client.socket = none → client.unread = []

theorem tidy_closed (client : Client) : client.closed.Tidy := fun _ ↦ unread_closed client

theorem tidy_new (socket : SocketId) : Tidy { socket := some socket } := nofun

/-- A client that a check finds lost has nothing to read, and had nothing before. -/
theorem Checked.unread_eq_nil {trace : List Exchange} {after : Client}
    (checked : Checked client trace false after) (tidy : client.Tidy) :
    client.unread = [] ∧ after.unread = [] := by
  cases checked with
  | unopened none => exact ⟨tidy none, tidy none⟩
  | drained opened probed =>
    exact ⟨unread_of_buffered (probed.buffered_eq_zero opened rfl), unread_closed client⟩

theorem Checked.tidy {trace : List Exchange} {up : Bool} {after : Client}
    (checked : Checked client trace up after) (tidy : client.Tidy) : after.Tidy := by
  cases checked with
  | drained _ _ => exact tidy_closed client
  | _ => exact tidy

theorem Passes.tidy {σ : Type} [Layer σ] {host last : Host σ} {trace : List Exchange}
    {after : Client} (passes : Passes client host trace after last) (tidy : client.Tidy) :
    after.Tidy := by
  cases passes with
  | idle _ => exact tidy
  | kept _ same _ _ => exact fun none ↦ absurd (none.symm.trans same) nofun
  | released _ _ _ vacated _ =>
    obtain ⟨-, filled, -⟩ := Client.vacated vacated
    exact fun _ ↦ unread_of_buffered (by rw [buffered, filled, Nat.zero_sub])

end Unread

variable {σ : Type} [Layer σ] {client : Client} {host : Host σ} {socket : SocketId}

/-- There is nothing to read in the buffer, the chip tells of nothing, and with its answer the peer
is marked as gone. -/
structure Drained (client : Client) (socket : SocketId) (host : Host σ) : Prop where
  opened : client.socket = some socket
  empty : client.buffered = 0
  silent : (Host.command (.selectReadable socket 5000) host).1 ≠ .ok true
  marked : (Host.command (.selectReadable socket 5000) host).2.record.isClosed socket.toNat = true

/-- A look into an empty buffer is one probe. -/
theorem available_of_empty (opened : client.socket = some socket) (empty : client.buffered = 0)
    (host : Host σ) :
    (available client host).1.2 = client ∧
      (available client host).2 = (Host.command (.selectReadable socket 5000) host).2 ∧
      ((Host.command (.selectReadable socket 5000) host).1 = .ok true ∧
          (available client host).1.1 = 1 ∨
        (Host.command (.selectReadable socket 5000) host).1 ≠ .ok true ∧
          (available client host).1.1 = 0) := by
  rw [available_of_some opened, if_neg (by rw [empty]; exact Nat.lt_irrefl 0), probeMicros]
  rcases Host.command (.selectReadable socket 5000) host with ⟨status | _ | _, last⟩
  · exact ⟨rfl, rfl, .inr ⟨nofun, rfl⟩⟩
  · exact ⟨rfl, rfl, .inr ⟨nofun, rfl⟩⟩
  · exact ⟨rfl, rfl, .inl ⟨rfl, rfl⟩⟩

theorem available_of_buffered (opened : client.socket = some socket) (some : 0 < client.buffered)
    (host : Host σ) : available client host = ((client.buffered, client), host) := by
  rw [available_of_some opened, if_pos some]

/-- A client is drained where a look finds nothing and leaves the peer marked as gone. -/
theorem drained_iff (opened : client.socket = some socket) :
    Drained client socket host ↔ (available client host).1.1 = 0 ∧
      (available client host).2.record.isClosed socket.toNat = true := by
  rcases Nat.eq_zero_or_pos client.buffered with empty | some
  · obtain ⟨-, last, found⟩ := available_of_empty opened empty host
    rw [last]
    constructor
    · intro drained
      exact ⟨(found.resolve_left fun told ↦ drained.silent told.1).2, drained.marked⟩
    · rintro ⟨nothing, marked⟩
      refine ⟨opened, empty, fun told ↦ ?_, marked⟩
      rcases found with ⟨-, count⟩ | ⟨silent, -⟩
      · rw [nothing] at count
        cases count
      · exact silent told
  · rw [available_of_buffered opened some]
    exact iff_of_false (fun drained ↦ Nat.ne_of_gt some drained.empty)
      fun found ↦ Nat.ne_of_gt some found.1

theorem connected_of_drained (drained : Drained client socket host) :
    connected client host = ((false, (close client (available client host).2).1.2),
      (close client (available client host).2).2) := by
  rw [connected_of_some drained.opened, if_pos ((drained_iff drained.opened).mp drained)]

/-- A check that does not close is a look. -/
theorem connected_of_undrained (opened : client.socket = some socket)
    (undrained : ¬ Drained client socket host) :
    connected client host = ((true, client), (available client host).2) := by
  rw [connected_of_some opened, if_neg (mt (drained_iff opened).mpr undrained)]

theorem connected_of_buffered (opened : client.socket = some socket) (some : 0 < client.buffered)
    (host : Host σ) : connected client host = ((true, client), host) := by
  rw [connected_of_undrained opened fun drained ↦ Nat.ne_of_gt some drained.empty,
    available_of_buffered opened some]

/-- No check takes a byte, not even one that closes. -/
theorem connected_unread (client : Client) (host : Host σ) :
    (connected client host).1.2.unread = client.unread ∧
      (connected client host).1.2.buffer = client.buffer := by
  cases opened : client.socket with
  | none =>
    rw [connected_of_none opened]
    exact ⟨rfl, rfl⟩
  | some socket =>
    by_cases drained : Drained client socket host
    · obtain ⟨_, left, -⟩ := close_logged opened (available client host).2
      rw [connected_of_drained drained, left, unread_closed, unread_of_buffered drained.empty]
      exact ⟨rfl, rfl⟩
    · rw [connected_of_undrained opened drained]
      exact ⟨rfl, rfl⟩

theorem connected_eq_false_iff : (connected client host).1.1 = false ↔
    client.socket = none ∨ ∃ socket, Drained client socket host := by
  cases opened : client.socket with
  | none =>
    rw [connected_of_none opened]
    exact iff_of_true rfl (.inl rfl)
  | some socket =>
    by_cases drained : Drained client socket host
    · rw [connected_of_drained drained]
      exact iff_of_true rfl (.inr ⟨socket, drained⟩)
    · rw [connected_of_undrained opened drained]
      refine iff_of_false nofun ?_
      rintro (none | ⟨other, elsewhere⟩)
      · cases none
      · cases opened.symm.trans elsewhere.opened
        exact drained elsewhere

/-- What a check and a look with an empty buffer ask of the chip, and what they tell. -/
structure Probes (client : Client) (socket : SocketId) (host : Host σ)
    (probe : Outcome (.command (.selectReadable socket 5000))) : Prop where
  /-- The probe is all that a look asks for. -/
  asked : host.Made [⟨_, probe⟩] (available client host).2
  readable : probe.answer = .ok true ∧ (available client host).1.1 = 1 ∨
    probe.answer ≠ .ok true ∧ (available client host).1.1 = 0
  drained_iff : Drained client socket host ↔ probe.answer ≠ .ok true ∧
    (available client host).2.record.isClosed socket.toNat = true
  /-- A client that is drained is closed in the check. -/
  closes : Drained client socket host → ∃ closing : Outcome (.command (.closeSocket socket)),
    host.Logged [⟨_, probe⟩, ⟨_, closing⟩] (connected client host).2 ∧
      (connected client host).1 = (false, client.closed)
  /-- With any other a check asks for no more than a look. -/
  keeps : ¬ Drained client socket host →
    connected client host = ((true, client), (available client host).2)

theorem probes_of_empty (opened : client.socket = some socket) (empty : client.buffered = 0)
    (host : Host σ) : ∃ probe, Probes client socket host probe := by
  obtain ⟨probe, answer, asked⟩ :=
    Host.ask_made (.command (.selectReadable socket 5000)) host
  change (Host.command _ host).1 = _ at answer
  change host.Made _ (Host.command _ host).2 at asked
  obtain ⟨-, last, found⟩ := available_of_empty opened empty host
  rw [← last] at asked
  rw [answer] at found
  refine ⟨probe, asked, found, ?_, fun drained ↦ ?_, connected_of_undrained opened⟩
  · rw [Client.drained_iff opened]
    refine and_congr_left fun _ ↦ ?_
    rcases found with ⟨told, count⟩ | ⟨silent, count⟩
    · exact iff_of_false (by rw [count]; nofun) (not_not_intro told)
    · exact iff_of_true count silent
  · obtain ⟨closing, left, closed⟩ := close_logged opened (available client host).2
    rw [connected_of_drained drained, left]
    exact ⟨closing, Host.Logged.trans asked.history closed, rfl⟩

/-- A check closes the socket of a client that is drained, and no other. -/
theorem connected_closes (client : Client) (host : Host σ) :
    ∃ trace, host.Logged trace (connected client host).2 ∧
      ∀ socket, .closed socket ∈ dealings trace ↔ Drained client socket host := by
  cases opened : client.socket with
  | none =>
    rw [connected_of_none opened]
    refine ⟨[], .refl host, fun socket ↦ iff_of_false nofun fun drained ↦ ?_⟩
    cases opened.symm.trans drained.opened
  | some owned =>
    obtain ⟨looking, looked, -, probed⟩ := available_probed client host
    by_cases drained : Drained client owned host
    · obtain ⟨closing, -, closed⟩ := close_logged opened (available client host).2
      rw [connected_of_drained drained]
      refine ⟨_, looked.trans closed, fun socket ↦ ?_⟩
      rw [dealings_append, probed.dealings_eq, List.nil_append]
      refine List.mem_singleton.trans ⟨?_, fun elsewhere ↦ ?_⟩
      · rintro ⟨⟩
        exact drained
      · rw [Option.some.inj (opened.symm.trans elsewhere.opened)]
    · rw [connected_of_undrained opened drained]
      refine ⟨_, looked, fun socket ↦ ?_⟩
      rw [probed.dealings_eq]
      refine iff_of_false nofun fun elsewhere ↦ ?_
      cases opened.symm.trans elsewhere.opened
      exact drained elsewhere

/-- When a check closes, and what checks and looks ask for otherwise. -/
structure ClosesLazily (client : Client) (host : Host σ) : Prop where
  lost_iff : (connected client host).1.1 = false ↔
    client.socket = none ∨ ∃ socket, Drained client socket host
  closed_iff : ∃ trace, host.Logged trace (connected client host).2 ∧
    ∀ socket, .closed socket ∈ dealings trace ↔ Drained client socket host
  /-- As long as bytes wait to be read nothing is asked, whatever the record shows. -/
  buffered : client.isOpen = true → 0 < client.buffered →
    connected client host = ((true, client), host) ∧
      available client host = ((client.buffered, client), host)
  unopened : client.socket = none →
    connected client host = ((false, client), host) ∧ available client host = ((0, client), host)
  probed : ∀ socket, client.socket = some socket → client.buffered = 0 →
    ∃ probe, Probes client socket host probe
  kept : (available client host).1.2 = client ∧
    (connected client host).1.2.unread = client.unread ∧
    (connected client host).1.2.buffer = client.buffer

/-- A client holds on to its socket until it has nothing more to read and its peer is gone. It is
closed in the check that finds it so, and by no look; and looking takes no bytes. -/
theorem looks_closeLazily (client : Client) (host : Host σ) : ClosesLazily client host where
  lost_iff := connected_eq_false_iff
  closed_iff := connected_closes client host
  buffered opened some := by
    obtain ⟨socket, owned⟩ := Option.isSome_iff_exists.mp opened
    exact ⟨connected_of_buffered owned some host, available_of_buffered owned some host⟩
  unopened none := ⟨connected_of_none none host, available_of_none none host⟩
  probed socket opened empty := probes_of_empty opened empty host
  kept := by
    obtain ⟨_, -, same, -⟩ := available_probed client host
    exact ⟨same, connected_unread client host⟩

/-- The mark may come with the probe itself. -/
example : (connected { socket := some 1 } { layer := ({
    reactions := [("select_readable", [⟨1, -1, ⟨Wire.Opcode.peerClosed, [1]⟩⟩])] } :
      Bench.Chip) }).1 = (false, {}) := by decide +kernel

end Net.Client

end SpiWifi
