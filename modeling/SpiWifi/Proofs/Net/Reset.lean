import SpiWifi.Proofs.Net.Calls

/-!
How a reset by the peer is told. A call in which a receive call reports it says so to its caller
and leaves a client without a socket.
-/

set_option autoImplicit false
set_option relaxedAutoImplicit false

namespace SpiWifi

open Chip

namespace Chip

/-- A receive call that told of a reset by the peer. -/
def Exchange.isReset : Exchange → Bool
  | ⟨.command (.receive _ _), outcome⟩ =>
    match outcome.answer with
    | .error status => status = .socketInactive
    | .ok _ => false
  | _ => false

def wasReset (trace : List Exchange) : Bool := trace.any Exchange.isReset

@[simp] theorem wasReset_poll (outcome : Outcome .poll) (rest : List Exchange) :
    wasReset (⟨.poll, outcome⟩ :: rest) = wasReset rest := rfl

@[simp] theorem wasReset_append (first second : List Exchange) :
    wasReset (first ++ second) = (wasReset first || wasReset second) := List.any_append

section Receipt

variable {socket : SocketId} {size : Nat} {receipt : Outcome (.command (.receive socket size))}
  {rest : List Exchange}

theorem wasReset_received {received : Received} (answer : receipt.answer = .ok received) :
    wasReset (⟨_, receipt⟩ :: rest) = wasReset rest := by
  rw [wasReset, List.any_cons, Exchange.isReset, answer]
  rfl

theorem wasReset_failed {status : Status} (answer : receipt.answer = .error status)
    (running : status ≠ .socketInactive) :
    wasReset (⟨_, receipt⟩ :: rest) = wasReset rest := by
  rw [wasReset, List.any_cons, Exchange.isReset, answer]
  simp only [running, decide_false, Bool.false_or, wasReset]

end Receipt

end Chip

namespace Net

/-- The call tells that the peer has reset the connection. A stream tells so by its end. -/
def Call.TellsReset : (call : Call) → call.Result → Prop
  | .readByte _, result => result = .error .closed
  | .read _ _, result => result = .error .closed
  | .streamRead _ _, result => result = .ok []
  | .receive _, result => result = .error .closed
  | _, _ => False

namespace Client

variable {σ α β : Type} [Layer σ] {client after : Client} {socket : SocketId}
  {trace : List Exchange} {closed : α → Prop}

/-- Whoever makes the call is told of a reset, and the client has let go of its socket. -/
def Learns (closed : α → Prop) (op : ClientM σ α) : Prop :=
  ∀ (client : Client) (host : Host σ), ∃ trace, host.Logged trace (op client host).2 ∧
    (wasReset trace = true → closed (op client host).1.1 ∧ (op client host).1.2.socket = none)

omit [Layer σ] in
/-- There is nothing to tell if nothing is received. -/
theorem learns_of_false {op : ClientM σ α}
    (quiet : ∀ (client : Client) (host : Host σ), ∃ trace, host.Logged trace (op client host).2 ∧
      wasReset trace = false) : Learns closed op := by
  intro client host
  obtain ⟨trace, logged, none⟩ := quiet client host
  exact ⟨trace, logged, fun reset ↦ Bool.noConfusion (none.symm.trans reset)⟩

omit [Layer σ] in
theorem Learns.bind {op : SocketM σ α} {next : α → SocketM σ β}
    (first : Learns (· = .error .closed) op)
    (silent : ∀ value client host, (next value client host).2 = host) :
    Learns (· = .error .closed) (op >>= next : SocketM σ β) := by
  intro client host
  obtain ⟨trace, logged, told⟩ := first client host
  refine ⟨trace, ?_⟩
  rw [bind_apply]
  generalize op client host = result at *
  obtain ⟨⟨failure | value, after⟩, last⟩ := result
  · refine ⟨logged, fun reset ↦ ?_⟩
    obtain ⟨closed, left⟩ := told reset
    cases closed
    exact ⟨rfl, left⟩
  · dsimp only
    rw [silent]
    exact ⟨logged, fun reset ↦ nomatch (told reset).1⟩

theorem Filled.closed_of_reset {patience : Nat} {result : Except SocketError Unit}
    (filled : Filled socket patience client trace result after) (reset : wasReset trace = true) :
    result = .error .closed := by
  induction filled with
  | ready _ => cases reset
  | spent _ => cases reset
  | received _ answer _ ih =>
    rw [wasReset_poll, wasReset_received answer] at reset
    exact ih reset
  | failed _ answer running _ ih =>
    rw [wasReset_poll, wasReset_failed answer running] at reset
    exact ih reset
  | reset _ _ => rfl

theorem learns_fill (patience : Nat) :
    Learns (· = .error .closed) (fill (σ := σ) patience) := by
  intro client host
  cases opened : client.socket with
  | none =>
    rw [fill_of_none opened]
    exact ⟨[], .refl _, nofun⟩
  | some socket =>
    rw [fill_of_some opened]
    obtain ⟨trace, logged, filled⟩ := fillLoop_filled opened patience host
    refine ⟨trace, logged, fun reset ↦ ?_⟩
    have told := filled.closed_of_reset reset
    exact ⟨told, (filled.endsInReset told).1⟩

theorem learns_read (patience size : Nat) :
    Learns (· = .error .closed) (read (σ := σ) patience size) := by
  unfold read
  split
  · exact fun _ host ↦ ⟨[], .refl host, nofun⟩
  · exact (learns_fill patience).bind fun _ _ _ ↦ rfl

theorem learns_readByte (patience : Nat) :
    Learns (· = .error .closed) (readByte (σ := σ) patience) :=
  (learns_fill patience).bind fun _ _ _ ↦ rfl

theorem learns_streamRead (patience size : Nat) :
    Learns (· = .ok []) (Stream.read (σ := σ) patience size) := by
  intro client host
  obtain ⟨trace, logged, told⟩ := learns_read patience size client host
  refine ⟨trace, ?_⟩
  rw [streamRead_apply]
  generalize read patience size client host = result at *
  obtain ⟨⟨failure | _, after⟩, last⟩ := result
  · cases failure with
    | closed => exact ⟨logged, fun reset ↦ ⟨rfl, (told reset).2⟩⟩
    | _ => exact ⟨logged, fun reset ↦ nomatch (told reset).1⟩
  · exact ⟨logged, fun reset ↦ nomatch (told reset).1⟩

theorem learns_receive (size : Nat) :
    Learns (· = .error .closed) (receive (σ := σ) size) := by
  intro client host
  cases opened : client.socket with
  | none =>
    rw [receive_of_none opened]
    exact ⟨[], .refl _, nofun⟩
  | some socket =>
    obtain ⟨receipt, answer, asked⟩ := Host.command_logged (.receive socket size) host
    rw [receive_of_some opened]
    generalize Host.command (.receive socket size) host = result at *
    obtain ⟨status | received, last⟩ := result
    · by_cases inactive : status = .socketInactive
      · obtain ⟨closing, left, closed⟩ := close_logged opened last
        simp only [if_pos inactive, reset_apply, left]
        exact ⟨_, asked.trans closed, fun _ ↦ ⟨trivial, rfl⟩⟩
      · simp only [if_neg inactive]
        refine ⟨_, asked, fun reset ↦ ?_⟩
        rw [wasReset_failed answer.symm inactive] at reset
        cases reset
    · refine ⟨_, asked, fun reset ↦ ?_⟩
      rw [wasReset_received answer.symm] at reset
      cases reset

theorem learns_close {closed : Except SocketError Unit → Prop} :
    Learns closed (close (σ := σ)) := by
  refine learns_of_false fun client host ↦ ?_
  cases opened : client.socket with
  | none =>
    rw [close_of_none opened]
    exact ⟨[], .refl _, rfl⟩
  | some socket =>
    obtain ⟨closing, -, logged⟩ := close_logged opened host
    exact ⟨_, logged, rfl⟩

theorem Probed.wasReset_eq {count : Nat} (probed : Probed client trace count) :
    wasReset trace = false := by
  cases probed <;> rfl

theorem Checked.wasReset_eq {up : Bool} (checked : Checked client trace up after) :
    wasReset trace = false := by
  cases checked with
  | unopened _ => rfl
  | usable probed => exact probed.wasReset_eq
  | drained _ probed =>
    rw [wasReset_append, probed.wasReset_eq]
    rfl

theorem learns_available {closed : Nat → Prop} : Learns closed (available (σ := σ)) := by
  refine learns_of_false fun client host ↦ ?_
  obtain ⟨trace, logged, -, probed⟩ := available_probed client host
  exact ⟨trace, logged, probed.wasReset_eq⟩

theorem learns_connected {closed : Bool → Prop} : Learns closed (connected (σ := σ)) := by
  refine learns_of_false fun client host ↦ ?_
  obtain ⟨trace, logged, checked⟩ := connected_checked client host
  exact ⟨trace, logged, checked.wasReset_eq⟩

theorem Sends.wasReset_eq (sends : client.Sends trace) : wasReset trace = false := by
  refine List.any_eq_false.mpr fun exchange mem ↦ ?_
  obtain ⟨_, _, _, rfl⟩ := sends.exists_eq mem
  exact Bool.false_ne_true

omit [Layer σ] in
theorem OnlySends.learns {op : SocketM σ α} {closed : Except SocketError α → Prop}
    (only : OnlySends op) : Learns closed op := by
  refine learns_of_false fun client host ↦ ?_
  obtain ⟨trace, logged, -, sends⟩ := only client host
  exact ⟨trace, logged, sends.wasReset_eq⟩

end Client

namespace Call

variable {σ : Type} [Layer σ]

theorem learns_perform (call : Call) : Client.Learns call.TellsReset (call.perform (σ := σ)) := by
  cases call with
  | readByte patience => exact Client.learns_readByte patience
  | read patience size => exact Client.learns_read patience size
  | streamRead patience size => exact Client.learns_streamRead patience size
  | receive size => exact Client.learns_receive size
  | available => exact Client.learns_available
  | connected => exact Client.learns_connected
  | write data => exact (Client.onlySends_write data).learns
  | writeByte byte => exact (Client.onlySends_write [byte]).learns
  | writeText text => exact (Client.onlySends_writeText text).learns
  | writeLine text => exact (Client.onlySends_writeLine text).learns
  | streamWrite data => exact (Client.onlySends_streamWrite data).learns
  | close => exact Client.learns_close

end Call

end Net

end SpiWifi
