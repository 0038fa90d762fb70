import SpiWifi.Net.Stream
import SpiWifi.Proofs.Chip.Trace

/-!
The calls on a client: what each of them asks of the chip, what it returns, and what becomes of
the client. A call that fills the buffer goes on until there is something to read, and stops
early only if the peer has reset the connection or the caller has run out of patience.
-/

set_option autoImplicit false
set_option relaxedAutoImplicit false

namespace SpiWifi

open Chip

namespace Host

variable {σ : Type} {before middle after : Host σ} {trace later : List Exchange}

/-- The host has made the requests of the trace. -/
def Logged (before : Host σ) (trace : List Exchange) (after : Host σ) : Prop :=
  after.history = trace.reverse ++ before.history

namespace Logged

theorem refl (host : Host σ) : Logged host [] host := rfl

theorem trans (h : Logged before trace middle) (k : Logged middle later after) :
    Logged before (trace ++ later) after := by
  rw [Logged, k, h, List.reverse_append, List.append_assoc]

theorem unique (h : Logged before trace after) (k : Logged before later after) : trace = later :=
  List.reverse_inj.mp (List.append_cancel_right (h.symm.trans k))

end Logged

theorem command_logged [Layer σ] (request : Command) (host : Host σ) :
    ∃ outcome : Outcome (.command request), (command request host).1 = outcome.answer ∧
      host.Logged [⟨.command request, outcome⟩] (command request host).2 := by
  obtain ⟨outcome, answer, made⟩ := ask_made (.command request) host
  exact ⟨outcome, answer, made.history⟩

theorem poll_logged [Layer σ] (host : Host σ) :
    ∃ outcome, host.Logged [⟨.poll, outcome⟩] (poll host).2 := by
  obtain ⟨outcome, -, made⟩ := ask_made .poll host
  exact ⟨outcome, made.history⟩

end Host

namespace Net

namespace Client

variable {σ α β : Type} {client : Client} {host : Host σ} {socket : SocketId}

/-! ### Chains -/

theorem bind_apply (op : SocketM σ α) (next : α → SocketM σ β) (client : Client) (host : Host σ) :
    (op >>= next : SocketM σ β) client host =
      match op client host with
      | ((.ok value, after), last) => next value after last
      | ((.error failure, after), last) => ((.error failure, after), last) := by
  simp only [bind, ExceptT.bind, ExceptT.mk, StateT.bind, ExceptT.bindCont]
  rcases op client host with ⟨⟨_ | _, after⟩, last⟩ <;> rfl

theorem get_bind_apply (next : Client → SocketM σ β) (client : Client) (host : Host σ) :
    (get >>= next : SocketM σ β) client host = next client client host := rfl

theorem view_bind_apply (next : Client → ClientM σ β) (client : Client) (host : Host σ) :
    (get >>= next : ClientM σ β) client host = next client client host := rfl

theorem modify_bind_apply (f : Client → Client) (next : PUnit → SocketM σ β) (client : Client)
    (host : Host σ) : (modify f >>= next : SocketM σ β) client host = next ⟨⟩ (f client) host := rfl

theorem lift_bind_apply (work : HostM σ α) (next : α → SocketM σ β) (client : Client)
    (host : Host σ) :
    (liftM work >>= next : SocketM σ β) client host = next (work host).1 client (work host).2 := rfl

theorem ask_bind_apply (work : HostM σ α) (next : α → ClientM σ β) (client : Client)
    (host : Host σ) :
    (liftM work >>= next : ClientM σ β) client host = next (work host).1 client (work host).2 := rfl

variable [Layer σ]

/-! ### Closing -/

/-- The client once it has let go of its socket. -/
def closed (client : Client) : Client := { client.emptied with socket := none }

theorem close_of_none (unopened : client.socket = none) :
    close client host = ((.error .notOpen, client), host) := by
  unfold close
  simp only [get_bind_apply, unopened]
  rfl

theorem close_of_some (opened : client.socket = some socket) :
    close client host =
      (((Host.command (.closeSocket socket) (markOpen socket host).2).1.mapError .command,
        client.closed), (Host.command (.closeSocket socket) (markOpen socket host).2).2) := by
  unfold close
  simp only [get_bind_apply, opened, modify_bind_apply, lift_bind_apply]
  rcases Host.command (.closeSocket socket) (markOpen socket host).2 with ⟨_ | _, last⟩ <;> rfl

/-- A client that is open closes its socket, whatever the chip says to that. -/
theorem close_logged (opened : client.socket = some socket) (host : Host σ) :
    ∃ closing, (close client host).1.2 = client.closed ∧
      host.Logged [⟨.command (.closeSocket socket), closing⟩] (close client host).2 := by
  obtain ⟨closing, -, logged⟩ := Host.command_logged (.closeSocket socket) (markOpen socket host).2
  rw [close_of_some opened]
  exact ⟨closing, rfl, logged⟩

/-! ### Filling the buffer -/

/-- Waiting for data: the requests, the result, and the client that is left. -/
inductive Filled (socket : SocketId) :
    Nat → Client → List Exchange → Except SocketError Unit → Client → Prop where
  | ready {patience : Nat} {client : Client} (some : client.cursor < client.filled) :
      Filled socket patience client [] (.ok ()) client
  | spent {client : Client} (none : client.filled ≤ client.cursor) :
      Filled socket 0 client [] (.error .outOfPatience) client
  | received {patience : Nat} {client after : Client} {poll : Outcome .poll}
      {receipt : Outcome (.command (.receive socket clientCapacity))} {received : Received}
      {trace : List Exchange} {result : Except SocketError Unit}
      (none : client.filled ≤ client.cursor) (answer : receipt.answer = .ok received)
      (rest : Filled socket patience (client.refill received) trace result after) :
      Filled socket (patience + 1) client (⟨.poll, poll⟩ :: ⟨_, receipt⟩ :: trace) result after
  | failed {patience : Nat} {client after : Client} {poll : Outcome .poll}
      {receipt : Outcome (.command (.receive socket clientCapacity))} {status : Status}
      {trace : List Exchange} {result : Except SocketError Unit}
      (none : client.filled ≤ client.cursor) (answer : receipt.answer = .error status)
      (running : status ≠ .socketInactive)
      (rest : Filled socket patience client.emptied trace result after) :
      Filled socket (patience + 1) client (⟨.poll, poll⟩ :: ⟨_, receipt⟩ :: trace) result after
  | reset {patience : Nat} {client : Client} {poll : Outcome .poll}
      {receipt : Outcome (.command (.receive socket clientCapacity))}
      {closing : Outcome (.command (.closeSocket socket))}
      (none : client.filled ≤ client.cursor) (answer : receipt.answer = .error .socketInactive) :
      Filled socket (patience + 1) client [⟨.poll, poll⟩, ⟨_, receipt⟩, ⟨_, closing⟩]
        (.error .closed) client.closed

theorem reset_apply (client : Client) (host : Host σ) :
    (reset : SocketM σ α) client host =
      ((.error .closed, (close client host).1.2), (close client host).2) := rfl

theorem fillLoop_of_lt {patience : Nat} (some : client.cursor < client.filled) :
    fillLoop socket patience client host = ((.ok (), client), host) := by
  unfold fillLoop
  simp only [get_bind_apply, some, if_true]
  rfl

theorem fillLoop_zero (none : ¬ client.cursor < client.filled) :
    fillLoop socket 0 client host = ((.error .outOfPatience, client), host) := by
  unfold fillLoop
  simp only [get_bind_apply, none, if_false]
  rfl

/-- One round of the wait for data. -/
theorem fillLoop_succ {patience : Nat} (none : ¬ client.cursor < client.filled) :
    fillLoop socket (patience + 1) client host =
      match Host.command (.receive socket clientCapacity) (Host.poll host).2 with
      | (.ok received, last) => fillLoop socket patience (client.refill received) last
      | (.error status, last) =>
        if status = .socketInactive then reset client last
        else fillLoop socket patience client.emptied last := by
  rw [fillLoop]
  simp only [get_bind_apply, none, if_false, lift_bind_apply]
  rcases Host.command (.receive socket clientCapacity) (Host.poll host).2 with ⟨status | _, last⟩
  · dsimp only
    split <;> rfl
  · rfl

theorem fillLoop_filled (opened : client.socket = some socket) (patience : Nat) (host : Host σ) :
    ∃ trace, host.Logged trace (fillLoop socket patience client host).2 ∧
      Filled socket patience client trace (fillLoop socket patience client host).1.1
        (fillLoop socket patience client host).1.2 := by
  induction patience generalizing client host with
  | zero =>
    by_cases some : client.cursor < client.filled
    · rw [fillLoop_of_lt some]
      exact ⟨[], .refl _, .ready some⟩
    · rw [fillLoop_zero some]
      exact ⟨[], .refl _, .spent (Nat.le_of_not_lt some)⟩
  | succ patience ih =>
    by_cases some : client.cursor < client.filled
    · rw [fillLoop_of_lt some]
      exact ⟨[], .refl _, .ready some⟩
    rw [fillLoop_succ some]
    have none := Nat.le_of_not_lt some
    obtain ⟨poll, polled⟩ := Host.poll_logged host
    obtain ⟨receipt, answer, asked⟩ :=
      Host.command_logged (.receive socket clientCapacity) (Host.poll host).2
    generalize Host.command (.receive socket clientCapacity) (Host.poll host).2 = round at *
    obtain ⟨status | received, last⟩ := round
    · by_cases inactive : status = .socketInactive
      · obtain ⟨closing, left, closed⟩ := close_logged opened last
        simp only [if_pos inactive, reset_apply, left]
        rw [inactive] at answer
        exact ⟨_, polled.trans (asked.trans closed), .reset none answer.symm⟩
      · obtain ⟨trace, logged, rest⟩ := ih (show client.emptied.socket = _ from opened) last
        simp only [if_neg inactive]
        exact ⟨_, polled.trans (asked.trans logged), .failed none answer.symm inactive rest⟩
    · obtain ⟨trace, logged, rest⟩ := ih (show (client.refill received).socket = _ from opened) last
      exact ⟨_, polled.trans (asked.trans logged), .received none answer.symm rest⟩

namespace Filled

variable {patience : Nat} {trace : List Exchange} {result : Except SocketError Unit}
  {after : Client}

theorem some_of_ok (filled : Filled socket patience client trace result after)
    (ok : result = .ok ()) : after.cursor < after.filled := by
  induction filled with
  | ready some => exact some
  | spent _ => cases ok
  | received _ _ _ ih => exact ih ok
  | failed _ _ _ _ ih => exact ih ok
  | reset _ _ => cases ok

/-- Unless the peer has reset the connection, the client keeps its socket. -/
theorem socket_eq (filled : Filled socket patience client trace result after)
    (running : result ≠ .error .closed) : after.socket = client.socket := by
  induction filled with
  | ready _ => rfl
  | spent _ => rfl
  | received _ _ _ ih => exact ih running
  | failed _ _ _ _ ih => exact ih running
  | reset _ _ => exact absurd rfl running

/-- The requests end with a receive call that told of a reset, and the client let go of its
socket. -/
def EndsInReset (socket : SocketId) (trace : List Exchange) (after : Client) : Prop :=
  after.socket = none ∧
    ∃ earlier, ∃ receipt : Outcome (.command (.receive socket clientCapacity)), ∃ closing,
      receipt.answer = .error .socketInactive ∧
      trace = earlier ++ [⟨_, receipt⟩, ⟨.command (.closeSocket socket), closing⟩]

theorem endsInReset (filled : Filled socket patience client trace result after)
    (reset : result = .error .closed) : EndsInReset socket trace after := by
  induction filled with
  | ready _ => cases reset
  | spent _ => cases reset
  | @received _ _ _ poll receipt _ _ _ _ _ _ ih =>
    obtain ⟨left, earlier, last, closing, inactive, rfl⟩ := ih reset
    exact ⟨left, ⟨.poll, poll⟩ :: ⟨_, receipt⟩ :: earlier, last, closing, inactive, rfl⟩
  | @failed _ _ _ poll receipt _ _ _ _ _ _ _ ih =>
    obtain ⟨left, earlier, last, closing, inactive, rfl⟩ := ih reset
    exact ⟨left, ⟨.poll, poll⟩ :: ⟨_, receipt⟩ :: earlier, last, closing, inactive, rfl⟩
  | @reset _ _ poll receipt closing _ inactive =>
    exact ⟨rfl, [⟨.poll, poll⟩], receipt, closing, inactive, rfl⟩

end Filled

/-! ### Reading -/

theorem fill_of_none (unopened : client.socket = none) (patience : Nat) (host : Host σ) :
    fill patience client host = ((.error .notOpen, client), host) := by
  unfold fill
  simp only [get_bind_apply, unopened]
  rfl

theorem fill_of_some (opened : client.socket = some socket) (patience : Nat) (host : Host σ) :
    fill patience client host = fillLoop socket patience client host := by
  unfold fill
  simp only [get_bind_apply, opened]

theorem read_zero (patience : Nat) (client : Client) (host : Host σ) :
    read patience 0 client host = ((.ok [], client), host) := rfl

/-- What a read gets once there is something to read. -/
def taken (size : Nat) (client : Client) : Client :=
  client.advance (client.unread.take size).length

theorem read_apply {size : Nat} (some : 0 < size) (patience : Nat) (client : Client)
    (host : Host σ) :
    read patience size client host =
      match fill patience client host with
      | ((.ok (), after), last) => ((.ok (after.unread.take size), after.taken size), last)
      | ((.error failure, after), last) => ((.error failure, after), last) := by
  unfold read
  rw [if_neg (Nat.ne_of_gt some), bind_apply]
  rcases fill patience client host with ⟨⟨_ | _, after⟩, last⟩ <;> rfl

theorem readByte_apply (patience : Nat) (client : Client) (host : Host σ) :
    readByte patience client host =
      match fill patience client host with
      | ((.ok (), after), last) => ((.ok (after.unread.headD 0), after.advance 1), last)
      | ((.error failure, after), last) => ((.error failure, after), last) := by
  unfold readByte
  rw [bind_apply]
  rcases fill patience client host with ⟨⟨_ | _, after⟩, last⟩ <;> rfl

theorem streamRead_apply (patience size : Nat) (client : Client) (host : Host σ) :
    Stream.read patience size client host =
      match read patience size client host with
      | ((.error .closed, after), last) => ((.ok [], after), last)
      | other => other := by
  unfold Stream.read
  simp only [tryCatch, tryCatchThe, MonadExceptOf.tryCatch, ExceptT.tryCatch, ExceptT.mk, bind,
    StateT.bind]
  rcases read patience size client host with ⟨⟨failure | _, after⟩, last⟩
  · cases failure <;> rfl
  · rfl

theorem receive_of_none (unopened : client.socket = none) (size : Nat) (host : Host σ) :
    receive size client host = ((.error .notOpen, client), host) := by
  unfold receive
  simp only [get_bind_apply, unopened]
  rfl

theorem receive_of_some (opened : client.socket = some socket) (size : Nat) (host : Host σ) :
    receive size client host =
      match Host.command (.receive socket size) host with
      | (.ok received, last) =>
        ((.ok { received with data := received.data.take size }, client), last)
      | (.error status, last) =>
        if status = .socketInactive then reset client last
        else ((.error (.command status), client), last) := by
  unfold receive
  simp only [get_bind_apply, opened, lift_bind_apply]
  rcases Host.command (.receive socket size) host with ⟨status | _, last⟩
  · dsimp only
    split <;> rfl
  · rfl

/-! ### Looking -/

/-- A look at what there is to read: the requests and the answer. -/
inductive Probed (client : Client) : List Exchange → Nat → Prop where
  | unopened (none : client.socket = none) : Probed client [] 0
  | buffered (some : 0 < client.buffered) : Probed client [] client.buffered
  | asked {socket : SocketId}
      {probe : Outcome (.command (.selectReadable socket probeMicros))} {count : Nat}
      (opened : client.socket = some socket) (none : client.buffered = 0) :
      Probed client [⟨_, probe⟩] count

theorem available_of_none (unopened : client.socket = none) (host : Host σ) :
    available client host = ((0, client), host) := by
  unfold available
  simp only [view_bind_apply, unopened]
  rfl

theorem available_of_some (opened : client.socket = some socket) (host : Host σ) :
    available client host =
      if 0 < client.buffered then ((client.buffered, client), host)
      else match Host.command (.selectReadable socket probeMicros) host with
        | (.ok true, last) => ((1, client), last)
        | (_, last) => ((0, client), last) := by
  unfold available
  simp only [view_bind_apply, opened]
  by_cases some : 0 < client.buffered
  · rw [if_pos some, if_pos some]
    rfl
  · rw [if_neg some, if_neg some, ask_bind_apply]
    rcases Host.command (.selectReadable socket probeMicros) host with ⟨_ | ⟨_ | _⟩, last⟩ <;> rfl

theorem available_probed (client : Client) (host : Host σ) :
    ∃ trace, host.Logged trace (available client host).2 ∧
      (available client host).1.2 = client ∧ Probed client trace (available client host).1.1 := by
  cases opened : client.socket with
  | none =>
    rw [available_of_none opened]
    exact ⟨[], .refl _, rfl, .unopened opened⟩
  | some socket =>
    rw [available_of_some opened]
    split
    · next some => exact ⟨[], .refl _, rfl, .buffered some⟩
    · next none =>
      obtain ⟨probe, -, asked⟩ := Host.command_logged (.selectReadable socket probeMicros) host
      refine ⟨[⟨_, probe⟩], ?_, ?_, .asked opened (Nat.eq_zero_of_not_pos none)⟩
      all_goals
        generalize Host.command (.selectReadable socket probeMicros) host = round at *
        rcases round with ⟨_ | ⟨_ | _⟩, last⟩
      · exact asked
      · exact asked
      · exact asked
      all_goals rfl

/-- A check of the connection: the requests, the answer, and the client that is left. -/
inductive Checked (client : Client) : List Exchange → Bool → Client → Prop where
  | unopened (none : client.socket = none) : Checked client [] false client
  | usable {trace : List Exchange} {count : Nat} (probed : Probed client trace count) :
      Checked client trace true client
  | drained {socket : SocketId} {trace : List Exchange}
      {closing : Outcome (.command (.closeSocket socket))} (opened : client.socket = some socket)
      (probed : Probed client trace 0) :
      Checked client (trace ++ [⟨_, closing⟩]) false client.closed

theorem connected_of_none (unopened : client.socket = none) (host : Host σ) :
    connected client host = ((false, client), host) := by
  unfold connected
  simp only [view_bind_apply, unopened]
  rfl

theorem connected_of_some (opened : client.socket = some socket) (host : Host σ) :
    connected client host =
      if (available client host).1.1 = 0 ∧
          (available client host).2.record.isClosed socket.toNat = true then
        ((false, (close client (available client host).2).1.2),
          (close client (available client host).2).2)
      else ((true, client), (available client host).2) := by
  obtain ⟨_, -, left, -⟩ := available_probed client host
  unfold connected
  simp only [view_bind_apply, opened]
  show (if (available client host).1.1 = 0 then _ else _ : ClientM σ Bool)
    (available client host).1.2 (available client host).2 = _
  rw [left]
  by_cases none : (available client host).1.1 = 0
  · rw [if_pos none]
    show (if (available client host).2.record.isClosed socket.toNat = true then _ else _ :
      ClientM σ Bool) client (available client host).2 = _
    by_cases gone : (available client host).2.record.isClosed socket.toNat = true
    · rw [if_pos gone, if_pos ⟨none, gone⟩]
      rfl
    · rw [if_neg gone, if_neg fun both ↦ gone both.2]
      rfl
  · rw [if_neg none, if_neg fun both ↦ none both.1]
    rfl

theorem connected_checked (client : Client) (host : Host σ) :
    ∃ trace, host.Logged trace (connected client host).2 ∧
      Checked client trace (connected client host).1.1 (connected client host).1.2 := by
  cases opened : client.socket with
  | none =>
    rw [connected_of_none opened]
    exact ⟨[], .refl _, .unopened opened⟩
  | some socket =>
    obtain ⟨trace, asked, -, probed⟩ := available_probed client host
    rw [connected_of_some opened]
    split
    · next gone =>
      obtain ⟨closing, left, closed⟩ := close_logged opened (available client host).2
      rw [gone.1] at probed
      rw [left]
      exact ⟨_, asked.trans closed, .drained opened probed⟩
    · exact ⟨trace, asked, .usable probed⟩

/-! ### Writing -/

/-- All that is asked for is to send data on the client's socket. -/
def Sends (client : Client) (trace : List Exchange) : Prop :=
  ∀ exchange ∈ trace, ∃ socket data, client.socket = some socket ∧
    exchange.command? = some (.send socket data)

omit [Layer σ] in
theorem Sends.exists_eq {trace : List Exchange} (sends : client.Sends trace) {exchange : Exchange}
    (mem : exchange ∈ trace) : ∃ socket data outcome,
      exchange = ⟨.command (.send socket data), outcome⟩ := by
  obtain ⟨socket, data, -, command⟩ := sends exchange mem
  obtain ⟨request, outcome⟩ := exchange
  cases request with
  | command request =>
    obtain rfl := Option.some.inj command
    exact ⟨socket, data, outcome, rfl⟩
  | _ => cases command

/-- The call sends, and leaves the client as it is. -/
def OnlySends (op : SocketM σ α) : Prop :=
  ∀ client host, ∃ trace, host.Logged trace (op client host).2 ∧ (op client host).1.2 = client ∧
    client.Sends trace

omit [Layer σ] in
theorem onlySends_pure (value : α) : OnlySends (pure value : SocketM σ α) :=
  fun _ host ↦ ⟨[], .refl host, rfl, nofun⟩

omit [Layer σ] in
theorem OnlySends.bind {op : SocketM σ α} {next : α → SocketM σ β} (first : OnlySends op)
    (second : ∀ value, OnlySends (next value)) : OnlySends (op >>= next : SocketM σ β) := by
  intro client host
  obtain ⟨trace, asked, same, sends⟩ := first client host
  rw [bind_apply]
  rcases called : op client host with ⟨⟨failure | value, after⟩, last⟩ <;>
    rw [called] at asked same
  · exact ⟨trace, asked, same, sends⟩
  · obtain rfl : after = client := same
    obtain ⟨later, more, same, others⟩ := second value after last
    exact ⟨trace ++ later, asked.trans more, same, List.forall_mem_append.mpr ⟨sends, others⟩⟩

theorem write_of_none (unopened : client.socket = none) (data : List UInt8) (host : Host σ) :
    write data client host = ((.error .notOpen, client), host) := by
  unfold write
  simp only [get_bind_apply, unopened]
  rfl

theorem write_of_some (opened : client.socket = some socket) (data : List UInt8) (host : Host σ) :
    write data client host =
      (((Host.command (.send socket data) host).1.mapError .command, client),
        (Host.command (.send socket data) host).2) := by
  unfold write
  simp only [get_bind_apply, opened, lift_bind_apply]
  rcases Host.command (.send socket data) host with ⟨_ | _, last⟩ <;> rfl

theorem onlySends_write (data : List UInt8) : OnlySends (write (σ := σ) data) := by
  intro client host
  cases opened : client.socket with
  | none =>
    rw [write_of_none opened]
    exact ⟨[], .refl _, rfl, nofun⟩
  | some socket =>
    obtain ⟨sending, -, asked⟩ := Host.command_logged (.send socket data) host
    rw [write_of_some opened]
    refine ⟨_, asked, rfl, fun exchange mem ↦ ⟨socket, data, opened, ?_⟩⟩
    rw [List.mem_singleton.mp mem]
    rfl

theorem onlySends_writeText (text : String) : OnlySends (writeText (σ := σ) text) := by
  unfold writeText
  split
  · exact onlySends_pure 0
  · exact onlySends_write _

theorem onlySends_writeLine (text : String) : OnlySends (writeLine (σ := σ) text) :=
  (onlySends_writeText text).bind fun _ ↦ (onlySends_write _).bind fun _ ↦ onlySends_pure _

theorem onlySends_streamWrite (data : List UInt8) : OnlySends (Stream.write (σ := σ) data) := by
  unfold Stream.write
  split
  · exact onlySends_pure 0
  · exact onlySends_write data

end Client

/-! ### Any call -/

inductive Call where
  | readByte (patience : Nat)
  | read (patience size : Nat)
  | streamRead (patience size : Nat)
  | receive (size : Nat)
  | available
  | connected
  | write (data : List UInt8)
  | writeByte (byte : UInt8)
  | writeText (text : String)
  | writeLine (text : String)
  | streamWrite (data : List UInt8)
  | close

namespace Call

@[reducible] def Result : Call → Type
  | readByte _ => Except SocketError UInt8
  | read _ _ | streamRead _ _ => Except SocketError (List UInt8)
  | receive _ => Except SocketError Received
  | available => Nat
  | connected => Bool
  | write _ | writeByte _ | writeText _ | writeLine _ | streamWrite _ => Except SocketError Nat
  | close => Except SocketError Unit

def perform {σ : Type} [Layer σ] : (call : Call) → ClientM σ call.Result
  | readByte patience => Client.readByte patience
  | read patience size => Client.read patience size
  | streamRead patience size => Stream.read patience size
  | receive size => Client.receive size
  | available => Client.available
  | connected => Client.connected
  | write data => Client.write data
  | writeByte byte => Client.writeByte byte
  | writeText text => Client.writeText text
  | writeLine text => Client.writeLine text
  | streamWrite data => Stream.write data
  | close => Client.close

/-- All but the calls that pass the buffer by or throw it away. -/
def isBuffered : Call → Bool
  | receive _ | close => false
  | _ => true

/-- The bytes that a call reads from the buffer. -/
def bytes : (call : Call) → call.Result → List UInt8
  | readByte _, .ok byte => [byte]
  | read _ _, .ok bytes | streamRead _ _, .ok bytes => bytes
  | _, _ => []

end Call

end Net

end SpiWifi
