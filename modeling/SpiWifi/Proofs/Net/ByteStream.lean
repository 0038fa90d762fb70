import SpiWifi.Bench.Chip
import SpiWifi.Proofs.Net.Calls

/-!
A client as a stream of bytes. What its reads return, one after the other, and what is still in
its buffer is exactly what the receive calls have delivered since it was opened. A stream ends
only in a read that lets go of the socket because the peer has reset the connection.
-/

set_option autoImplicit false
set_option relaxedAutoImplicit false

namespace SpiWifi

open Chip

namespace Chip

/-- What a receive call returned that did not fail. -/
def Exchange.received? : Exchange → Option Received
  | ⟨.command (.receive _ _), outcome⟩ => outcome.answer.toOption
  | _ => none

def receipts (trace : List Exchange) : List Received := trace.filterMap Exchange.received?

theorem receipts_append (first second : List Exchange) :
    receipts (first ++ second) = receipts first ++ receipts second := List.filterMap_append

theorem receipts_failed {poll : Outcome .poll} {socket : SocketId} {size : Nat}
    {receipt : Outcome (.command (.receive socket size))} {status : Status}
    (answer : receipt.answer = .error status) :
    receipts [⟨.poll, poll⟩, ⟨_, receipt⟩] = [] := by
  show List.filterMap Exchange.received? [⟨_, receipt⟩] = _
  rw [List.filterMap_cons, Exchange.received?, answer]
  rfl

/-- A buffer after some receive calls. -/
def landed (buffer : List UInt8) (receipts : List Received) : List UInt8 :=
  receipts.foldl (fun buffer received ↦ overlay buffer 0 received.data) buffer

/-- What some receive calls leave in the part of the buffer that each of them counts. -/
def delivered (buffer : List UInt8) : List Received → List UInt8
  | [] => []
  | received :: rest =>
    (overlay buffer 0 received.data).take received.count ++
      delivered (overlay buffer 0 received.data) rest

theorem delivered_append (buffer : List UInt8) (first second : List Received) :
    delivered buffer (first ++ second) =
      delivered buffer first ++ delivered (landed buffer first) second := by
  induction first generalizing buffer with
  | nil => rfl
  | cons received rest ih =>
    rw [List.cons_append, delivered, delivered, ih, List.append_assoc]
    rfl

/-- The call copied as many bytes as it counts, and they fit the buffer. -/
def Received.IsExact (received : Received) : Prop :=
  received.data.length = received.count ∧ received.count ≤ Net.clientCapacity

instance (received : Received) : Decidable received.IsExact := inferInstanceAs (Decidable (_ ∧ _))

/-- Receive calls that copy what they count deliver their data. -/
theorem delivered_of_isExact {buffer : List UInt8} {receipts : List Received}
    (width : buffer.length = Net.clientCapacity) (exact : ∀ received ∈ receipts, received.IsExact) :
    delivered buffer receipts = receipts.flatMap (·.data) := by
  induction receipts generalizing buffer with
  | nil => rfl
  | cons received rest ih =>
    obtain ⟨⟨copied, fits⟩, others⟩ := List.forall_mem_cons.mp exact
    have front : (overlay buffer 0 received.data).take received.count = received.data := by
      have readBack := @take_drop_overlay _ buffer received.data 0 (by omega)
      rwa [List.drop_zero, copied] at readBack
    rw [delivered, front, ih (by rw [length_overlay, width]) others, List.flatMap_cons]

end Chip

namespace Net

namespace Client

/-- What the buffer of a client looks like. -/
structure Sound (client : Client) : Prop where
  width : client.buffer.length = clientCapacity
  filled_le : client.filled ≤ clientCapacity
  cursor_le : client.cursor ≤ client.filled

/-- From one client to another: what was there and what came in is what was read and what is
there. -/
structure Flows (before : Client) (trace : List Exchange) (bytes : List UInt8) (after : Client) :
    Prop where
  sound : after.Sound
  buffer : after.buffer = landed before.buffer (receipts trace)
  balance : before.unread ++ delivered before.buffer (receipts trace) = bytes ++ after.unread

variable {client before middle after : Client} {trace later : List Exchange}
  {bytes more : List UInt8}

namespace Sound

theorem length_unread (sound : client.Sound) : client.unread.length = client.buffered := by
  have := sound.width
  have := sound.filled_le
  rw [unread, List.length_drop, List.length_take, buffered]
  omega

theorem unread_eq_nil_iff (sound : client.Sound) :
    client.unread = [] ↔ client.filled ≤ client.cursor := by
  rw [← List.length_eq_zero_iff, sound.length_unread, buffered]
  omega

theorem emptied (sound : client.Sound) : client.emptied.Sound :=
  ⟨sound.width, Nat.zero_le _, Nat.le_refl _⟩

theorem refill (sound : client.Sound) (received : Received) : (client.refill received).Sound where
  width := by
    show (overlay client.buffer 0 received.data).length = clientCapacity
    rw [length_overlay, sound.width]
  filled_le := Nat.min_le_right _ _
  cursor_le := Nat.zero_le _

theorem closed (sound : client.Sound) : client.closed.Sound :=
  ⟨sound.width, Nat.zero_le _, Nat.le_refl _⟩

theorem advance (sound : client.Sound) {count : Nat} (inside : count ≤ client.buffered) :
    (client.advance count).Sound where
  width := sound.width
  filled_le := sound.filled_le
  cursor_le := by
    have := sound.cursor_le
    rw [buffered] at inside
    show client.cursor + count ≤ client.filled
    omega

end Sound

theorem unread_advance (client : Client) (count : Nat) :
    (client.advance count).unread = client.unread.drop count := by
  rw [unread, unread, List.drop_drop]
  rfl

namespace Flows

theorem refl (sound : client.Sound) : Flows client [] [] client :=
  ⟨sound, rfl, List.append_nil _⟩

theorem trans (h : Flows before trace bytes middle) (k : Flows middle later more after) :
    Flows before (trace ++ later) (bytes ++ more) after where
  sound := k.sound
  buffer := by rw [k.buffer, h.buffer, receipts_append, landed, landed, landed, List.foldl_append]
  balance := by
    rw [receipts_append, delivered_append, ← h.buffer, ← List.append_assoc, h.balance,
      List.append_assoc, k.balance, List.append_assoc]

/-- Requests that receive nothing leave the stream alone. -/
theorem quiet (sound : after.Sound) (nothing : receipts trace = [])
    (buffer : after.buffer = before.buffer) (unread : after.unread = before.unread) :
    Flows before trace [] after where
  sound := sound
  buffer := by rw [nothing, buffer]; rfl
  balance := by rw [nothing, unread, delivered, List.append_nil, List.nil_append]

/-- Reading takes bytes from the front of what is there. -/
theorem taken (sound : client.Sound) (size : Nat) :
    Flows client [] (client.unread.take size) (client.taken size) where
  sound := by
    refine sound.advance ?_
    rw [← sound.length_unread, List.length_take]
    exact Nat.min_le_right _ _
  buffer := rfl
  balance := by
    have rest : client.unread.drop (client.unread.take size).length = client.unread.drop size := by
      rw [List.length_take]
      rcases Nat.le_total size client.unread.length with inside | beyond
      · rw [Nat.min_eq_left inside]
      · rw [Nat.min_eq_right beyond, List.drop_length, List.drop_eq_nil_of_le beyond]
    rw [Client.taken, unread_advance, rest, List.take_append_drop]
    exact List.append_nil _

/-- A receive call fills a buffer that has been read to its end. -/
theorem refill (sound : client.Sound) (none : client.filled ≤ client.cursor) {poll : Outcome .poll}
    {socket : SocketId} {receipt : Outcome (.command (.receive socket clientCapacity))}
    {received : Received} (answer : receipt.answer = .ok received) :
    Flows client [⟨.poll, poll⟩, ⟨_, receipt⟩] [] (client.refill received) := by
  have width : (overlay client.buffer 0 received.data).length = clientCapacity :=
    (sound.refill received).width
  have one : receipts [⟨.poll, poll⟩, ⟨_, receipt⟩] = [received] := by
    show List.filterMap Exchange.received? [⟨_, receipt⟩] = _
    rw [List.filterMap_cons, Exchange.received?, answer]
    rfl
  constructor
  · exact sound.refill received
  · rw [one]
    rfl
  · rw [one, sound.unread_eq_nil_iff.mpr none, delivered, delivered, List.append_nil]
    refine congrArg _ (List.take_eq_take_iff.mpr ?_)
    show min received.count _ = min (min received.count clientCapacity) _
    rw [width, Nat.min_assoc, Nat.min_self]

end Flows

theorem Filled.flows {socket : SocketId} {patience : Nat} {result : Except SocketError Unit}
    (filled : Filled socket patience client trace result after) (sound : client.Sound) :
    Flows client trace [] after := by
  induction filled with
  | ready some => exact .refl sound
  | spent none => exact .refl sound
  | received none answer rest ih =>
    exact (Flows.refill sound none answer).trans (ih (sound.refill _))
  | @failed _ client _ poll receipt _ _ _ none answer running rest ih =>
    have first : Flows client [⟨.poll, poll⟩, ⟨_, receipt⟩] [] client.emptied :=
      .quiet sound.emptied (receipts_failed answer) rfl (sound.unread_eq_nil_iff.mpr none).symm
    exact first.trans (ih first.sound)
  | @reset _ client poll receipt closing none answer =>
    have nothing : receipts ([⟨.poll, poll⟩, ⟨_, receipt⟩] ++ [⟨_, closing⟩]) = [] := by
      rw [receipts_append, receipts_failed answer]
      rfl
    exact .quiet sound.closed nothing rfl (sound.unread_eq_nil_iff.mpr none).symm

variable {σ : Type} [Layer σ]

/-! ### The calls -/

theorem fill_flows (sound : client.Sound) (patience : Nat) (host : Host σ) :
    ∃ trace, host.Logged trace (fill patience client host).2 ∧
      Flows client trace [] (fill patience client host).1.2 ∧
      ((fill patience client host).1.1 = .ok () →
        (fill patience client host).1.2.cursor < (fill patience client host).1.2.filled) := by
  cases opened : client.socket with
  | none =>
    rw [fill_of_none opened]
    exact ⟨[], .refl _, .refl sound, nofun⟩
  | some socket =>
    rw [fill_of_some opened]
    obtain ⟨trace, logged, filled⟩ := fillLoop_filled opened patience host
    exact ⟨trace, logged, filled.flows sound, filled.some_of_ok⟩

theorem read_flows (sound : client.Sound) (patience size : Nat) (host : Host σ) :
    ∃ trace, host.Logged trace (read patience size client host).2 ∧
      Flows client trace (Call.bytes (.read patience size) (read patience size client host).1.1)
        (read patience size client host).1.2 := by
  rcases Nat.eq_zero_or_pos size with rfl | some
  · rw [read_zero]
    exact ⟨[], .refl _, .refl sound⟩
  · obtain ⟨trace, logged, flows, -⟩ := fill_flows sound patience host
    rw [read_apply some]
    generalize fill patience client host = result at *
    obtain ⟨⟨failure | _, after⟩, last⟩ := result
    · exact ⟨trace, logged, flows⟩
    · refine ⟨trace, logged, ?_⟩
      have read := flows.trans (.taken flows.sound size)
      rwa [List.append_nil] at read

theorem streamRead_flows (sound : client.Sound) (patience size : Nat) (host : Host σ) :
    ∃ trace, host.Logged trace (Stream.read patience size client host).2 ∧
      Flows client trace
        (Call.bytes (.streamRead patience size) (Stream.read patience size client host).1.1)
        (Stream.read patience size client host).1.2 := by
  obtain ⟨trace, logged, flows⟩ := read_flows sound patience size host
  rw [streamRead_apply]
  generalize read patience size client host = result at *
  obtain ⟨⟨failure | bytes, after⟩, last⟩ := result
  · cases failure <;> exact ⟨trace, logged, flows⟩
  · exact ⟨trace, logged, flows⟩

theorem readByte_flows (sound : client.Sound) (patience : Nat) (host : Host σ) :
    ∃ trace, host.Logged trace (readByte patience client host).2 ∧
      Flows client trace (Call.bytes (.readByte patience) (readByte patience client host).1.1)
        (readByte patience client host).1.2 := by
  obtain ⟨trace, logged, flows, some⟩ := fill_flows sound patience host
  rw [readByte_apply]
  generalize fill patience client host = result at *
  obtain ⟨⟨failure | _, after⟩, last⟩ := result
  · exact ⟨trace, logged, flows⟩
  · refine ⟨trace, logged, ?_⟩
    have read := flows.trans (.taken flows.sound 1)
    have unread : after.unread ≠ [] := mt flows.sound.unread_eq_nil_iff.mp (Nat.not_le.mpr (some rfl))
    obtain ⟨byte, rest, split⟩ := List.exists_cons_of_ne_nil unread
    rw [List.append_nil, Client.taken, split] at read
    show Flows client trace [after.unread.headD 0] (after.advance 1)
    rw [split]
    exact read

/-- What was looked at and found empty is empty, if it is open at all. -/
theorem Probed.buffered_eq_zero {socket : SocketId} {count : Nat}
    (probed : Probed client trace count) (opened : client.socket = some socket)
    (none : count = 0) : client.buffered = 0 := by
  cases probed with
  | unopened unopened =>
    rw [unopened] at opened
    cases opened
  | buffered some => exact none
  | asked _ empty => exact empty

theorem Probed.receipts_eq {count : Nat} (probed : Probed client trace count) :
    receipts trace = [] := by
  cases probed <;> rfl

theorem Sends.receipts_eq (sends : client.Sends trace) : receipts trace = [] := by
  refine List.filterMap_eq_nil_iff.mpr fun exchange mem ↦ ?_
  obtain ⟨_, _, _, rfl⟩ := sends.exists_eq mem
  rfl

theorem Checked.flows {usable : Bool} (checked : Checked client trace usable after)
    (sound : client.Sound) : Flows client trace [] after := by
  cases checked with
  | unopened none => exact .refl sound
  | usable probed => exact .quiet sound probed.receipts_eq rfl rfl
  | @drained socket trace closing opened probed =>
    have read : client.unread = [] := by
      rw [← List.length_eq_zero_iff, sound.length_unread]
      exact probed.buffered_eq_zero opened rfl
    refine .quiet sound.closed ?_ rfl read.symm
    rw [receipts_append, probed.receipts_eq]
    rfl

omit [Layer σ] in
theorem OnlySends.flows {α : Type} {op : SocketM σ α} (only : OnlySends op) (sound : client.Sound)
    (host : Host σ) :
    ∃ trace, host.Logged trace (op client host).2 ∧ Flows client trace [] (op client host).1.2 := by
  obtain ⟨trace, logged, same, sends⟩ := only client host
  rw [same]
  exact ⟨trace, logged, .quiet sound sends.receipts_eq rfl rfl⟩

/-- A read that succeeds returns at least one byte, and no more than there is room for. -/
theorem read_length (sound : client.Sound) {patience size : Nat} (some : 0 < size) {host : Host σ}
    (ok : (read patience size client host).1.1 = .ok bytes) :
    0 < bytes.length ∧ bytes.length ≤ min size clientCapacity := by
  obtain ⟨trace, -, flows, found⟩ := fill_flows sound patience host
  rw [read_apply some] at ok
  generalize fill patience client host = result at *
  obtain ⟨⟨failure | _, after⟩, last⟩ := result
  · cases ok
  · obtain rfl := Except.ok.inj ok
    have sound : after.Sound := flows.sound
    have ready : after.cursor < after.filled := found rfl
    have room := sound.filled_le
    rw [List.length_take, sound.length_unread, buffered]
    omega

/-- The requests of a call end with a receive call that told of a reset, and the client let go of
its socket in it. -/
def LetGo (client : Client) (host : Host σ) (after : Client) (last : Host σ) : Prop :=
  ∃ socket trace, client.socket = some socket ∧ host.Logged trace last ∧
    Filled.EndsInReset socket trace after

omit [Layer σ] in
theorem not_letGo {socket : SocketId} {host last : Host σ} (opened : client.socket = some socket)
    (kept : after.socket = client.socket) : ¬ LetGo client host after last := by
  rintro ⟨_, _, _, _, left, _⟩
  rw [kept, opened] at left
  cases left

/-- A stream ends exactly where the client lets go of its socket for a reset by the peer. -/
theorem streamRead_eq_nil_iff (sound : client.Sound) {patience size : Nat} (some : 0 < size)
    (host : Host σ) :
    (Stream.read patience size client host).1.1 = .ok [] ↔
      LetGo client host (Stream.read patience size client host).1.2
        (Stream.read patience size client host).2 := by
  have full {bytes : List UInt8} (ok : (read patience size client host).1.1 = .ok bytes) :
      bytes ≠ [] := List.length_pos_iff.mp (read_length sound some ok).1
  cases opened : client.socket with
  | none =>
    have refused : Stream.read patience size client host = ((.error .notOpen, client), host) := by
      rw [streamRead_apply, read_apply some, fill_of_none opened]
    rw [refused]
    refine ⟨nofun, fun ⟨socket, _, owned, _⟩ ↦ ?_⟩
    rw [opened] at owned
    cases owned
  | some socket =>
    obtain ⟨trace, logged, filled⟩ := fillLoop_filled opened patience host
    have kept := filled.socket_eq
    rw [streamRead_apply]
    rw [read_apply some, fill_of_some opened] at full ⊢
    generalize fillLoop socket patience client host = result at *
    obtain ⟨⟨failure | _, after⟩, last⟩ := result
    · cases failure with
      | closed => exact iff_of_true rfl ⟨socket, trace, opened, logged, filled.endsInReset rfl⟩
      | notOpen => exact iff_of_false nofun (not_letGo opened (kept nofun))
      | exhausted => exact iff_of_false nofun (not_letGo opened (kept nofun))
      | outOfPatience => exact iff_of_false nofun (not_letGo opened (kept nofun))
      | command status => exact iff_of_false nofun (not_letGo opened (kept nofun))
    · exact iff_of_false (fun ok ↦ full ok rfl) (not_letGo opened (kept nofun))

end Client

namespace Call

variable {σ : Type} [Layer σ]

theorem perform_flows {call : Call} (buffered : call.isBuffered = true) {client : Client}
    (sound : client.Sound) (host : Host σ) :
    ∃ trace, host.Logged trace (call.perform client host).2 ∧
      client.Flows trace (call.bytes (call.perform client host).1.1)
        (call.perform client host).1.2 := by
  cases call with
  | readByte patience => exact Client.readByte_flows sound patience host
  | read patience size => exact Client.read_flows sound patience size host
  | streamRead patience size => exact Client.streamRead_flows sound patience size host
  | receive _ => cases buffered
  | close => cases buffered
  | available =>
    obtain ⟨trace, logged, same, probed⟩ := Client.available_probed client host
    refine ⟨trace, logged, ?_⟩
    show client.Flows trace [] (Client.available client host).1.2
    rw [same]
    exact .quiet sound probed.receipts_eq rfl rfl
  | connected =>
    obtain ⟨trace, logged, checked⟩ := Client.connected_checked client host
    exact ⟨trace, logged, checked.flows sound⟩
  | write data => exact (Client.onlySends_write data).flows sound host
  | writeByte byte => exact (Client.onlySends_write [byte]).flows sound host
  | writeText text => exact (Client.onlySends_writeText text).flows sound host
  | writeLine text => exact (Client.onlySends_writeLine text).flows sound host
  | streamWrite data => exact (Client.onlySends_streamWrite data).flows sound host

/-- Some calls one after the other, and all the bytes that they read. -/
def play : List Call → ClientM σ (List UInt8)
  | [] => return []
  | call :: rest => do
    let result ← call.perform
    let more ← play rest
    return call.bytes result ++ more

theorem play_flows {calls : List Call} (buffered : ∀ call ∈ calls, call.isBuffered = true)
    {client : Client} (sound : client.Sound) (host : Host σ) :
    ∃ trace, host.Logged trace (play calls client host).2 ∧
      client.Flows trace (play calls client host).1.1 (play calls client host).1.2 := by
  induction calls generalizing client host with
  | nil => exact ⟨[], .refl host, .refl sound⟩
  | cons call rest ih =>
    obtain ⟨first, others⟩ := List.forall_mem_cons.mp buffered
    obtain ⟨trace, logged, flows⟩ := perform_flows first sound host
    obtain ⟨later, more, on⟩ := ih others flows.sound (call.perform client host).2
    exact ⟨trace ++ later, logged.trans more, flows.trans on⟩

/-- Where a client stands after some requests whose reads have returned some bytes. -/
structure InOrder (trace : List Exchange) (bytes : List UInt8) (client : Client) (host : Host σ) :
    Prop where
  balance : bytes ++ client.unread =
    delivered (List.replicate clientCapacity 0) (receipts trace)
  order : (∀ received ∈ receipts trace, received.IsExact) →
    bytes ++ client.unread = (receipts trace).flatMap (·.data)
  sound : client.Sound
  /-- A read that succeeds now returns something. -/
  reads : ∀ patience size read, 0 < size → (client.read patience size host).1.1 = .ok read →
    0 < read.length ∧ read.length ≤ min size clientCapacity
  /-- A stream ends now if and only if the client lets go of its socket for a reset. -/
  ends : ∀ patience size, 0 < size → ((Stream.read patience size client host).1.1 = .ok [] ↔
    client.LetGo host (Stream.read patience size client host).1.2
      (Stream.read patience size client host).2)

/-- However the calls on a client that was just opened follow each other, its reads return what
was received, in order and without a gap, and what they have not returned yet is in its buffer. -/
theorem play_inOrder {calls : List Call} (buffered : ∀ call ∈ calls, call.isBuffered = true)
    (socket : Option SocketId) (host : Host σ) :
    ∃ trace, host.Logged trace (play calls { socket } host).2 ∧
      InOrder trace (play calls { socket } host).1.1 (play calls { socket } host).1.2
        (play calls { socket } host).2 := by
  have sound : Client.Sound { socket } := ⟨List.length_replicate, Nat.zero_le _, Nat.le_refl _⟩
  obtain ⟨trace, logged, flows⟩ := play_flows buffered sound host
  refine ⟨trace, logged, ?_⟩
  have balance : _ ++ _ = delivered (List.replicate clientCapacity 0) (receipts trace) :=
    flows.balance.symm
  exact {
    balance
    order := fun exact ↦ balance.trans (delivered_of_isExact List.length_replicate exact)
    sound := flows.sound
    reads := fun _ _ _ some ok ↦ Client.read_length flows.sound some ok
    ends := fun _ _ some ↦ Client.streamRead_eq_nil_iff flows.sound some _ }

/-- A peer that sends twice, with an empty answer and a failure in between, and then resets. -/
def terseChip : Bench.Chip where
  arrivals := [(2, [.ok ⟨[1, 2, 3], none⟩, .ok ⟨[], none⟩, .error ⟨-1⟩, .ok ⟨[4, 5], none⟩])]

def visit : List Call :=
  [.readByte 4, .available, .streamRead 4 1, .write [7], .read 4 8, .connected, .read 4 8]

def visited : (List UInt8 × Client) × Host Bench.Chip :=
  play visit { socket := some 2 } { layer := terseChip }

theorem eq_ok_of_toOption {ε α : Type} {result : Except ε α} {value : α}
    (h : result.toOption = some value) : result = .ok value := by
  cases result with
  | ok _ => exact congrArg _ (Option.some.inj h)
  | error _ => cases h

theorem play_inOrder_visit :
    (∀ call ∈ visit, call.isBuffered = true) ∧
      (∀ received ∈ receipts visited.2.history.reverse, received.IsExact) ∧
      visited.1.1 ++ visited.1.2.unread =
        (receipts visited.2.history.reverse).flatMap (·.data) ∧
      visited.1.1 = [1, 2, 3, 4, 5] ∧
      visited.1.2.LetGo visited.2 (Stream.read 4 8 visited.1.2 visited.2).1.2
        (Stream.read 4 8 visited.1.2 visited.2).2 := by
  have buffered : ∀ call ∈ visit, call.isBuffered = true := by decide
  have played := play_inOrder buffered (some 2) { layer := terseChip }
  rw [← visited] at played
  obtain ⟨trace, logged, inOrder⟩ := played
  have whole : visited.2.history.reverse = trace := by
    rw [logged, List.append_nil, List.reverse_reverse]
  have exact : ∀ received ∈ receipts visited.2.history.reverse, received.IsExact := by
    decide +kernel
  have ended : (Stream.read 4 8 visited.1.2 visited.2).1.1 = .ok [] :=
    eq_ok_of_toOption (by decide +kernel)
  rw [← whole] at inOrder
  exact ⟨buffered, exact, inOrder.order exact, by decide +kernel,
    (inOrder.ends 4 8 (by decide)).mp ended⟩

end Call

end Net

end SpiWifi
