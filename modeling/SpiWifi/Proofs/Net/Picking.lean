import SpiWifi.Proofs.Net.Broadcasting

/-!
How a server finds a client with data to read. After its sweep it looks into one slot after the
other and stops at the first that is ready, so what it names is a slot with a client that is open,
and the slots after that one are left alone. No bytes are taken on the way.
-/

set_option autoImplicit false
set_option relaxedAutoImplicit false

namespace SpiWifi

open Chip

namespace Net.Server

variable {σ : Type} [Layer σ] {host last middle : Host σ} {client : Client}
  {clients afters : List Client} {found : Option Nat}

/-! ### One slot -/

/-- How a look into a slot goes, from one state of the chip to another, and whether the slot is
ready. An empty buffer is probed by the check of the connection, and once more after it. -/
inductive Looked (client : Client) (host : Host σ) : Bool → Client → Host σ → Prop where
  | vacant (unopened : client.socket = none) : Looked client host false client host
  /-- There is nothing to read and the peer has left. -/
  | drained {socket : SocketId} {probe : Outcome (.command (.selectReadable socket 5000))}
      {closing : Outcome (.command (.closeSocket socket))} {last : Host σ}
      (drained : Client.Drained client socket host)
      (logged : host.Logged [⟨_, probe⟩, ⟨_, closing⟩] last) :
      Looked client host false client.closed last
  | buffered {socket : SocketId} (opened : client.socket = some socket)
      (some : 0 < client.buffered) : Looked client host true client host
  | readable {socket : SocketId} {first second : Outcome (.command (.selectReadable socket 5000))}
      {last : Host σ} (opened : client.socket = some socket) (empty : client.buffered = 0)
      (logged : host.Logged [⟨_, first⟩, ⟨_, second⟩] last) (told : second.answer = .ok true) :
      Looked client host true client last
  | idle {socket : SocketId} {first second : Outcome (.command (.selectReadable socket 5000))}
      {last : Host σ} (opened : client.socket = some socket) (empty : client.buffered = 0)
      (logged : host.Logged [⟨_, first⟩, ⟨_, second⟩] last) (silent : second.answer ≠ .ok true) :
      Looked client host false client last

/-- A probe of a client's socket, or its end. -/
def Touches (client : Client) (exchange : Exchange) : Prop :=
  ∃ socket, client.socket = some socket ∧
    (exchange.request = .command (.selectReadable socket 5000) ∨
      exchange.request = .command (.closeSocket socket))

namespace Looked

variable {after : Client} {ready : Bool}

theorem isOpen (looked : Looked client host true after last) : after.isOpen = true := by
  cases looked with
  | buffered opened _ => rw [Client.isOpen, opened]; rfl
  | readable opened _ _ _ => rw [Client.isOpen, opened]; rfl

theorem unread_eq (looked : Looked client host ready after last) :
    after.unread = client.unread := by
  cases looked with
  | drained drained _ => rw [Client.unread_closed, Client.unread_of_buffered drained.empty]
  | _ => rfl

theorem tidy (looked : Looked client host ready after last) (tidy : client.Tidy) :
    after.Tidy := by
  cases looked with
  | drained _ _ => exact client.tidy_closed
  | _ => exact tidy

theorem touches (looked : Looked client host ready after last) :
    ∃ trace, host.Logged trace last ∧ ∀ exchange ∈ trace, Touches client exchange := by
  cases looked with
  | vacant _ => exact ⟨[], .refl host, nofun⟩
  | buffered _ _ => exact ⟨[], .refl host, nofun⟩
  | @drained socket _ _ _ drained logged =>
    refine ⟨_, logged, List.forall_mem_cons.mpr ⟨⟨socket, drained.opened, .inl rfl⟩, ?_⟩⟩
    exact List.forall_mem_singleton.mpr ⟨socket, drained.opened, .inr rfl⟩
  | @readable socket _ _ _ opened _ logged _ | @idle socket _ _ _ opened _ logged _ =>
    refine ⟨_, logged, List.forall_mem_cons.mpr ⟨⟨socket, opened, .inl rfl⟩, ?_⟩⟩
    exact List.forall_mem_singleton.mpr ⟨socket, opened, .inl rfl⟩

end Looked

theorem isReady_of_lost (lost : (Client.connected client host).1.1 = false) :
    isReady client host =
      ((false, (Client.connected client host).1.2), (Client.connected client host).2) := by
  rw [isReady, Client.calls_bind_apply, lost]
  rfl

theorem isReady_of_kept (kept : Client.connected client host = ((true, client), middle)) :
    isReady client host =
      ((decide (0 < (Client.available client middle).1.1), (Client.available client middle).1.2),
        (Client.available client middle).2) := by
  rw [isReady, Client.calls_bind_apply, kept]
  rfl

theorem isReady_looked (client : Client) (host : Host σ) :
    Looked client host (isReady client host).1.1 (isReady client host).1.2
      (isReady client host).2 := by
  cases opened : client.socket with
  | none =>
    have checked := Client.connected_of_none opened host
    rw [isReady_of_lost (congrArg (·.1.1) checked), checked]
    exact .vacant opened
  | some socket =>
    rcases Nat.eq_zero_or_pos client.buffered with empty | some
    · obtain ⟨first, probes⟩ := Client.probes_of_empty opened empty host
      by_cases drained : Client.Drained client socket host
      · obtain ⟨closing, logged, lost⟩ := probes.closes drained
        rw [isReady_of_lost (congrArg (·.1) lost), lost]
        exact .drained drained logged
      · -- The check has not closed the client, so it is probed a second time.
        obtain ⟨second, again⟩ :=
          Client.probes_of_empty opened empty (Client.available client host).2
        obtain ⟨same, -⟩ :=
          Client.available_of_empty opened empty (Client.available client host).2
        have logged := Host.Logged.trans probes.asked.history again.asked.history
        rw [isReady_of_kept (probes.keeps drained), same]
        rcases again.readable with ⟨told, count⟩ | ⟨silent, count⟩ <;> rw [count]
        · exact .readable opened empty logged told
        · exact .idle opened empty logged silent
    · rw [isReady_of_kept (Client.connected_of_buffered opened some host),
        Client.available_of_buffered opened some, decide_eq_true some]
      exact .buffered opened some

/-! ### One slot after the other -/

/-- How many slots are looked into until one of them is found ready. -/
def reach (found : Option Nat) (slots : Nat) : Nat := found.elim slots (· + 1)

theorem reach_map_succ (found : Option Nat) (slots : Nat) :
    reach (found.map (· + 1)) (slots + 1) = reach found slots + 1 := by
  cases found <;> rfl

/-- Looks into the slots up to the first that is ready. -/
structure Scanned (clients : List Client) (host : Host σ) (found : Option Nat)
    (afters : List Client) (last : Host σ) : Prop where
  inside : ∀ slot, found = some slot → slot < clients.length
  /-- Each slot in reach is looked into once, in order, and of them only the last can be ready. -/
  looked : ∃ moments : Nat → Host σ, moments 0 = host ∧
    moments (reach found clients.length) = last ∧
    ∀ slot client, slot < reach found clients.length → clients[slot]? = some client →
      ∃ after, afters[slot]? = some after ∧
        Looked client (moments slot) (decide (found = some slot)) after (moments (slot + 1))
  spared : ∀ slot, reach found clients.length ≤ slot → afters[slot]? = clients[slot]?
  /-- All that is asked is about the clients in reach. -/
  asked : ∃ looks, host.Logged looks last ∧ ∀ exchange ∈ looks,
    ∃ slot client, slot < reach found clients.length ∧ clients[slot]? = some client ∧
      Touches client exchange
  unread_eq : afters.map (·.unread) = clients.map (·.unread)

namespace Scanned

variable {after : Client}

theorem nil (host : Host σ) : Scanned [] host none [] host where
  inside := nofun
  looked := ⟨fun _ ↦ host, rfl, rfl, nofun⟩
  spared _ _ := rfl
  asked := ⟨[], .refl host, nofun⟩
  unread_eq := rfl

theorem ready (first : Looked client host true after last) (rest : List Client) :
    Scanned (client :: rest) host (some 0) (after :: rest) last where
  inside := by
    rintro _ ⟨⟩
    exact Nat.succ_pos _
  looked := by
    refine ⟨@Nat.rec (fun _ ↦ Host σ) host fun _ _ ↦ last, rfl, rfl, ?_⟩
    rintro (_ | slot) seen inside same
    · cases same
      exact ⟨after, rfl, first⟩
    · exact absurd (Nat.lt_of_succ_lt_succ inside) (Nat.not_lt_zero slot)
  spared := by
    rintro (_ | slot) beyond
    · exact absurd beyond (Nat.not_succ_le_zero 0)
    · rfl
  asked := by
    obtain ⟨trace, logged, touches⟩ := first.touches
    exact ⟨trace, logged, fun exchange mem ↦
      ⟨0, client, Nat.zero_lt_one, rfl, touches exchange mem⟩⟩
  unread_eq := by rw [List.map_cons, List.map_cons, first.unread_eq]

theorem passed (first : Looked client host false after middle)
    (rest : Scanned clients middle found afters last) :
    Scanned (client :: clients) host (found.map (· + 1)) (after :: afters) last := by
  constructor
  case inside =>
    intro slot same
    obtain ⟨earlier, here, rfl⟩ := Option.map_eq_some_iff.mp same
    exact Nat.succ_lt_succ (rest.inside earlier here)
  case unread_eq => rw [List.map_cons, List.map_cons, first.unread_eq, rest.unread_eq]
  all_goals rw [List.length_cons, reach_map_succ]
  case looked =>
    obtain ⟨moments, rfl, done, looked⟩ := rest.looked
    refine ⟨@Nat.rec (fun _ ↦ Host σ) host fun slot _ ↦ moments slot, rfl, done, ?_⟩
    rintro (_ | slot) seen inside same
    · cases same
      have busy : decide (found.map (· + 1) = some 0) = false := by
        cases found <;> rfl
      rw [busy]
      exact ⟨after, rfl, first⟩
    · obtain ⟨later, there, look⟩ := looked slot seen (Nat.lt_of_succ_lt_succ inside) same
      refine ⟨later, there, ?_⟩
      have shifted : decide (found.map (· + 1) = some (slot + 1)) = decide (found = some slot) := by
        cases found <;> simp
      rw [shifted]
      exact look
  case spared =>
    rintro (_ | slot) beyond
    · exact absurd beyond (Nat.not_succ_le_zero _)
    · exact rest.spared slot (Nat.le_of_succ_le_succ beyond)
  case asked =>
    obtain ⟨trace, logged, touches⟩ := first.touches
    obtain ⟨looks, more, others⟩ := rest.asked
    refine ⟨trace ++ looks, logged.trans more, List.forall_mem_append.mpr ⟨?_, ?_⟩⟩
    · exact fun exchange mem ↦ ⟨0, client, Nat.succ_pos _, rfl, touches exchange mem⟩
    · intro exchange mem
      obtain ⟨slot, seen, inside, same, touched⟩ := others exchange mem
      exact ⟨slot + 1, seen, Nat.succ_lt_succ inside, same, touched⟩

/-- The client in the slot that is found is open. -/
theorem isOpen {slot : Nat} (scanned : Scanned clients host (some slot) afters last) :
    ∃ client, afters[slot]? = some client ∧ client.isOpen = true := by
  obtain ⟨_, -, -, looked⟩ := scanned.looked
  have inside := scanned.inside slot rfl
  obtain ⟨client, there, look⟩ :=
    looked slot clients[slot] (Nat.lt_succ_self slot) (List.getElem?_eq_getElem inside)
  rw [decide_eq_true rfl] at look
  exact ⟨client, there, look.isOpen⟩

end Scanned

theorem firstReady_scanned (clients : List Client) (host : Host σ) :
    Scanned clients host (firstReady clients host).1.1 (firstReady clients host).1.2
      (firstReady clients host).2 := by
  induction clients generalizing host with
  | nil => exact .nil host
  | cons client rest ih =>
    have first := isReady_looked client host
    rw [firstReady, Host.bind_apply]
    rcases looked : isReady client host with ⟨⟨_ | _, after⟩, last⟩ <;> rw [looked] at first
    · exact .passed first (ih last)
    · exact .ready first rest

/-! ### The sweep before -/

theorem Each.exists_turn {turn : Client → List Exchange → Client → Prop} {trace : List Exchange}
    (each : Each turn clients trace afters) {slot : Nat} (there : clients[slot]? = some client) :
    ∃ part after, afters[slot]? = some after ∧ turn client part after := by
  induction each generalizing slot with
  | nil => cases there
  | cons first _ ih =>
    cases slot with
    | zero =>
      cases there
      exact ⟨_, _, rfl, first⟩
    | succ slot => exact ih there

theorem Offered.unread_eq {listener : SocketId} {trace : List Exchange} {after : Client}
    (offered : Offered listener client trace after)
    (tidy : client.Tidy) : after.unread = client.unread := by
  cases offered with
  | busy _ _ => rfl
  | empty checked _ | rejected checked _ _ =>
    obtain ⟨before, now⟩ := checked.unread_eq_nil tidy
    rw [before, now]
  | seated checked _ _ =>
    obtain ⟨before, -⟩ := checked.unread_eq_nil tidy
    rw [before]
    rfl

theorem acceptAll_unread {server : Server} (host : Host σ) {slot : Nat}
    (there : server.clients[slot]? = some client)
    (tidy : client.Tidy) :
    ∃ after, (acceptAll server host).1.2.clients[slot]? = some after ∧
      after.unread = client.unread := by
  cases listening : server.listener with
  | none =>
    rw [acceptAll_of_none listening]
    exact ⟨client, there, rfl⟩
  | some listener =>
    obtain ⟨_, -, swept⟩ := acceptAll_swept listening host
    obtain ⟨_, after, same, offered⟩ := swept.each.exists_turn there
    exact ⟨after, same, offered.unread_eq tidy⟩

/-! ### Slots without a socket -/

theorem Each.tidy {turn : Client → List Exchange → Client → Prop} {trace : List Exchange}
    (each : Each turn clients trace afters)
    (one : ∀ {client trace after}, turn client trace after → client.Tidy → after.Tidy)
    (tidy : ∀ client ∈ clients, client.Tidy) : ∀ client ∈ afters, client.Tidy := by
  induction each with
  | nil => exact tidy
  | cons first _ ih =>
    obtain ⟨here, others⟩ := List.forall_mem_cons.mp tidy
    exact List.forall_mem_cons.mpr ⟨one first here, ih others⟩

theorem Offered.tidy {listener : SocketId} {trace : List Exchange} {after : Client}
    (offered : Offered listener client trace after) (tidy : client.Tidy) : after.Tidy := by
  cases offered with
  | busy _ _ => exact tidy
  | empty checked _ | rejected checked _ _ => exact checked.tidy tidy
  | seated _ _ _ => exact Client.tidy_new _

theorem acceptAll_tidy {server : Server} (tidy : ∀ client ∈ server.clients, client.Tidy)
    (host : Host σ) : ∀ client ∈ (acceptAll server host).1.2.clients, client.Tidy := by
  cases listening : server.listener with
  | none =>
    rw [acceptAll_of_none listening]
    exact tidy
  | some listener =>
    obtain ⟨_, -, swept⟩ := acceptAll_swept listening host
    exact swept.each.tidy Offered.tidy tidy

theorem Scanned.tidy (scanned : Scanned clients host found afters last)
    (tidy : ∀ client ∈ clients, client.Tidy) : ∀ client ∈ afters, client.Tidy := by
  intro after mem
  obtain ⟨slot, there⟩ := List.mem_iff_getElem?.mp mem
  by_cases seen : slot < reach found clients.length
  · have width : afters.length = clients.length := by
      simpa only [List.length_map] using congrArg List.length scanned.unread_eq
    obtain ⟨inside, -⟩ := List.getElem?_eq_some_iff.mp there
    obtain ⟨_, -, -, looked⟩ := scanned.looked
    have before := List.getElem?_eq_getElem (width ▸ inside)
    obtain ⟨same, here, look⟩ := looked slot _ seen before
    cases there.symm.trans here
    exact look.tidy (tidy _ (List.mem_of_getElem? before))
  · rw [scanned.spared slot (Nat.le_of_not_lt seen)] at there
    exact tidy after (List.mem_of_getElem? there)

theorem Delivery.tidy {delivery : Delivery σ} (tidy : delivery.client.Tidy) :
    delivery.after.Tidy := by
  unfold Delivery.after
  split
  · exact delivery.client.tidy_closed
  · exact tidy

theorem write_tidy (data : List UInt8) {server : Server}
    (tidy : ∀ client ∈ server.clients, client.Tidy) (host : Host σ) :
    ∀ client ∈ (write data server host).1.2.clients, client.Tidy := by
  obtain ⟨_, written⟩ := write_eq data server host
  rw [written]
  intro after mem
  obtain ⟨delivery, among, rfl⟩ := List.mem_map.mp mem
  refine Delivery.tidy (tidy delivery.client ?_)
  rw [← deliveries_clients data server.clients host]
  exact List.mem_map_of_mem among

theorem Call.perform_tidy (call : Call) {server : Server}
    (tidy : ∀ client ∈ server.clients, client.Tidy) (host : Host σ) :
    ∀ client ∈ (call.perform server host).1.2.clients, client.Tidy := by
  cases call with
  | listen =>
    obtain ⟨_, -, listened⟩ := listen_listened server host
    change ∀ client ∈ (Server.listen server host).1.2.clients, client.Tidy
    generalize Server.listen server host = result at listened ⊢
    obtain ⟨⟨result, after⟩, last⟩ := result
    cases listened <;> exact tidy
  | available => exact (firstReady_scanned _ _).tidy (acceptAll_tidy tidy host)
  | write data => exact write_tidy data tidy host
  | writeByte byte => exact write_tidy [byte] tidy host
  | client slot call =>
    show ∀ client ∈ (onSlot slot call server host).1.2.clients, client.Tidy
    cases there : server.clients[slot]? with
    | none =>
      rw [onSlot_of_none there]
      exact tidy
    | some client =>
      rw [onSlot_of_some there]
      obtain ⟨_, passes⟩ := Net.Call.perform_gets call client host
      intro other mem
      rcases List.mem_or_eq_of_mem_set mem with old | rfl
      · exact tidy other old
      · exact passes.tidy (tidy client (List.mem_of_getElem? there))

/-- Whatever is called on a new server and on its clients, a client without a socket has nothing to
read. -/
theorem play_tidy (port : UInt16) (calls : List Call) (host : Host σ) :
    ∀ client ∈ (play calls { port } host).1.2.clients, client.Tidy := by
  have start : ∀ client ∈ ({ port } : Server).clients, client.Tidy := fun client mem ↦ by
    rw [List.eq_of_mem_replicate mem]
    exact fun _ ↦ rfl
  generalize ({ port } : Server) = server at start ⊢
  induction calls generalizing server host with
  | nil => exact start
  | cons call rest ih =>
    rw [play_cons]
    exact ih _ _ (call.perform_tidy start host)

/-! ### The whole call -/

/-- What a server does to name a slot, after its sweep and in all. -/
structure Picks (server : Server) (host : Host σ) : Prop where
  scanned : Scanned (acceptAll server host).1.2.clients (acceptAll server host).2
    (available server host).1.1 (available server host).1.2.clients (available server host).2
  width : (acceptAll server host).1.2.clients.length = slotCount
  /-- A slot that is named exists, and the client in it is open. -/
  genuine : ∀ slot, (available server host).1.1 = some slot → slot < slotCount ∧
    ∃ client, (available server host).1.2.client? (some slot) = some client ∧
      client.isOpen = true
  /-- No slot loses bytes that its client has to read, neither in the sweep nor after it. Whatever
  is done with a new server, its clients stay tidy. -/
  kept : ∀ (slot : Nat) (client : Client), server.clients[slot]? = some client → client.Tidy →
    ∃ after : Client, (available server host).1.2.clients[slot]? = some after ∧
      after.unread = client.unread

/-- A server names the first slot that it finds ready after its sweep, with the client that has
data to read in it, and leaves the slots after that one alone. -/
theorem available_picks (server : Server) (host : Host σ) : Picks server host := by
  have width := (acceptAll server host).1.2.length_clients
  have scanned := firstReady_scanned (acceptAll server host).1.2.clients (acceptAll server host).2
  refine ⟨scanned, width, fun slot named ↦ ?_, fun slot client there tidy ↦ ?_⟩
  · rw [available_apply] at named
    have found : (firstReady _ _).1.1 = some slot := named
    rw [found] at scanned
    exact ⟨width ▸ scanned.inside slot rfl, scanned.isOpen⟩
  · obtain ⟨middle, swept, same⟩ := acceptAll_unread host there tidy
    have unread := congrArg (·[slot]?) scanned.unread_eq
    simp only [List.getElem?_map, swept, Option.map_some] at unread
    obtain ⟨after, found, still⟩ := Option.map_eq_some_iff.mp unread
    exact ⟨after, found, still.trans same⟩

/-- One client with nothing to say, a free slot, and a client that has not been read to the end. -/
def lobby : Server where
  port := 80
  listener := some 0
  table := #v[{ socket := some 1 }, {}, { socket := some 3, filled := 2 }]

/-- A peer comes into the free slot and sends a byte. -/
def lobbyHost : Host Bench.Chip where
  layer := { accepts := [.ok (some 2)], arrivals := [(2, [.ok ⟨[104], none⟩])] }

theorem available_picks_lobby : (available lobby lobbyHost).1.1 = some 1 ∧
    (∃ client, (available lobby lobbyHost).1.2.client? (some 1) = some client ∧
      client.isOpen = true) ∧
    ∃ client, (available lobby lobbyHost).1.2.clients[2]? = some client ∧
      client.unread = [0, 0] := by
  have named : (available lobby lobbyHost).1.1 = some 1 := by decide +kernel
  have picks := available_picks lobby lobbyHost
  obtain ⟨-, client⟩ := picks.genuine 1 named
  exact ⟨named, client, picks.kept 2 _ rfl nofun⟩

end Net.Server

end SpiWifi
