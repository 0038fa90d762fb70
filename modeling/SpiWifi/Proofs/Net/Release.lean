import SpiWifi.Proofs.Events.Chronicle
import SpiWifi.Proofs.Net.ByteStream
import SpiWifi.Proofs.Net.Custody

/-!
What becomes of the socket of a client. A call leaves the client its socket, or closes it as the
last thing that it asks for; and a client that has let go of its socket asks for nothing more.
-/

set_option autoImplicit false
set_option relaxedAutoImplicit false

namespace SpiWifi

open Chip

theorem Host.bind_apply {σ α β : Type} (work : HostM σ α) (next : α → HostM σ β) (host : Host σ) :
    (work >>= next) host = next (work host).1 (work host).2 := rfl

namespace Net

namespace Client

variable {σ α β : Type} {client after : Client} {host last : Host σ} {socket : SocketId}
  {trace later : List Exchange}

/-- The first half of closing. The client gives up its socket and is emptied, and it is forgotten
that the peer has closed. -/
def vacate : SocketM σ SocketId := do
  let some socket := (← get).socket | throw .notOpen
  modify fun client ↦ { client.emptied with socket := none }
  markOpen (σ := σ) socket
  return socket

theorem vacate_of_some (opened : client.socket = some socket) (host : Host σ) :
    vacate client host = ((.ok socket, client.closed), (markOpen socket host).2) := by
  unfold vacate
  simp only [get_bind_apply, opened]
  rfl

theorem vacate_of_none (unopened : client.socket = none) (host : Host σ) :
    vacate client host = ((.error .notOpen, client), host) := by
  unfold vacate
  simp only [get_bind_apply, unopened]
  rfl

theorem isTracked_iff (socket : SocketId) :
    isTracked socket = true ↔ socket.toNat < Events.socketCount := decide_eq_true_iff

theorem isClosed_markOpen (socket : SocketId) (host : Host σ) :
    (markOpen socket host).2.record.isClosed socket.toNat = false := by
  show (host.record.markClosed socket.toNat false).isClosed socket.toNat = false
  by_cases tracked : socket.toNat < Events.socketCount
  · rw [Events.Record.isClosed_markClosed tracked, if_pos rfl]
  · exact Events.Record.isClosed_of_le (Nat.le_of_not_lt tracked)

/-- What a client that has given up its socket looks like. -/
theorem vacated {before : Client} {start moment : Host σ}
    (vacated : vacate before start = ((.ok socket, after), moment)) :
    after.socket = none ∧ after.filled = 0 ∧ after.cursor = 0 ∧ start.Logged [] moment ∧
      moment.record.isClosed socket.toNat = false := by
  cases opened : before.socket with
  | none =>
    rw [vacate_of_none opened] at vacated
    cases vacated
  | some _ =>
    rw [vacate_of_some opened] at vacated
    cases vacated
    exact ⟨rfl, rfl, rfl, rfl, isClosed_markOpen _ start⟩

variable [Layer σ]

/-- A client closes its socket after it has given it up. -/
theorem close_eq : close (σ := σ) = do
    let socket ← vacate
    match ← Host.command (σ := σ) (.closeSocket socket) with
    | .error status => throw (.command status)
    | .ok () => return () := by
  funext client host
  rw [bind_apply]
  cases opened : client.socket with
  | none => rw [close_of_none opened, vacate_of_none opened]
  | some socket =>
    rw [close_of_some opened, vacate_of_some opened]
    simp only [lift_bind_apply]
    rcases Host.command (.closeSocket socket) (markOpen socket host).2 with ⟨_ | _, last⟩ <;> rfl

/-- What a client and its socket go through. A client asks for its socket to be closed when it has
given it up, and asks for nothing after that. -/
inductive Passes (client : Client) (host : Host σ) :
    List Exchange → Client → Host σ → Prop where
  | idle (unopened : client.socket = none) : Passes client host [] client host
  | kept {socket : SocketId} {trace : List Exchange} {after : Client} {last : Host σ}
      (opened : client.socket = some socket) (same : after.socket = some socket)
      (logged : host.Logged trace last) (undealt : dealings trace = []) :
      Passes client host trace after last
  | released {socket : SocketId} {earlier : List Exchange} {before after : Client}
      {start moment : Host σ} {closing : Outcome (.command (.closeSocket socket))}
      (opened : client.socket = some socket) (logged : host.Logged earlier start)
      (undealt : dealings earlier = [])
      (vacated : vacate before start = ((.ok socket, after), moment))
      (asked : moment.Logged [⟨_, closing⟩] (Host.command (.closeSocket socket) moment).2) :
      Passes client host (earlier ++ [⟨_, closing⟩]) after
        (Host.command (.closeSocket socket) moment).2

namespace Passes

variable {middle : Client} {moment : Host σ}

theorem logged (passes : Passes client host trace after last) : host.Logged trace last := by
  cases passes with
  | idle _ => exact .refl _
  | kept _ _ logged _ => exact logged
  | released _ logged _ vacated asked =>
    obtain ⟨-, -, -, silent, -⟩ := Client.vacated vacated
    exact logged.trans (silent.trans asked)

theorem refl (client : Client) (host : Host σ) : Passes client host [] client host := by
  cases opened : client.socket with
  | none => exact .idle opened
  | some socket => exact .kept opened opened (.refl _) rfl

theorem trans (h : Passes client host trace middle moment)
    (k : Passes middle moment later after last) :
    Passes client host (trace ++ later) after last := by
  cases h with
  | idle _ => exact k
  | kept opened same logged undealt =>
    cases k with
    | idle unopened => rw [same] at unopened; cases unopened
    | kept owned still more nothing =>
      rw [same] at owned
      exact .kept opened (still.trans owned.symm) (logged.trans more) (by simp [undealt, nothing])
    | released owned more nothing vacated asked =>
      rw [same] at owned
      cases owned
      rw [← List.append_assoc]
      exact .released opened (logged.trans more) (by simp [undealt, nothing]) vacated asked
  | released opened logged undealt vacated asked =>
    -- The client has no socket any more, so nothing can follow.
    obtain ⟨unopened, -⟩ := Client.vacated vacated
    cases k with
    | idle _ =>
      rw [List.append_nil]
      exact .released opened logged undealt vacated asked
    | kept owned _ _ _ => rw [unopened] at owned; cases owned
    | released owned _ _ _ _ => rw [unopened] at owned; cases owned

theorem turns (passes : Passes client host trace after last) :
    Turns [client.socket] (dealings trace) [after.socket] := by
  cases passes with
  | idle _ => exact .refl _
  | kept opened same _ undealt =>
    rw [undealt, same, opened]
    exact .refl _
  | released opened _ undealt vacated _ =>
    rw [dealings_append, undealt, opened, (Client.vacated vacated).1]
    exact (Turn.released [] []).turns

/-- Changes to a client that keeps its socket. -/
theorem edited {edited : Client} (passes : Passes client host trace after last)
    (opened : after.socket = some socket) (same : edited.socket = some socket) :
    Passes client host trace edited last := by
  have edit : Passes after last [] edited last := .kept opened same (.refl _) rfl
  have both := passes.trans edit
  rwa [List.append_nil] at both

end Passes

/-- The client gets to some point. -/
def Gets (client : Client) (host : Host σ) (after : Client) (last : Host σ) : Prop :=
  ∃ trace, Passes client host trace after last

namespace Gets

variable {middle : Client} {moment : Host σ}

theorem refl (client : Client) (host : Host σ) : Gets client host client host :=
  ⟨[], .refl _ _⟩

theorem trans (h : Gets client host middle moment) (k : Gets middle moment after last) :
    Gets client host after last := by
  obtain ⟨trace, passes⟩ := h
  obtain ⟨later, goes⟩ := k
  exact ⟨trace ++ later, passes.trans goes⟩

theorem edited {edited : Client} (gets : Gets client host after last)
    (opened : after.socket = some socket) (same : edited.socket = some socket) :
    Gets client host edited last := by
  obtain ⟨trace, passes⟩ := gets
  exact ⟨trace, passes.edited opened same⟩

/-- A request by a client that is open, unless it hands out or closes a socket. -/
theorem asked (opened : client.socket = some socket) {request : Request}
    (undealt : ∀ outcome : Outcome request, Exchange.dealing? ⟨request, outcome⟩ = none)
    (host : Host σ) : Gets client host client (Host.ask request host).2 := by
  obtain ⟨outcome, -, made⟩ := Host.ask_made request host
  exact ⟨_, .kept opened opened made.history (List.filterMap_eq_nil_iff.mpr fun _ mem ↦
    List.mem_singleton.mp mem ▸ undealt outcome)⟩

/-- What follows a call that leaves the client open may change the client, as long as it asks for
nothing and keeps the socket. -/
theorem bind {op : SocketM σ α} {next : α → SocketM σ β}
    (first : Gets client host (op client host).1.2 (op client host).2)
    (kept : ∀ value, (op client host).1.1 = .ok value → (op client host).1.2.socket = some socket)
    (edits : ∀ value client host, (next value client host).2 = host ∧
      (next value client host).1.2.socket = client.socket) :
    Gets client host ((op >>= next : SocketM σ β) client host).1.2
      ((op >>= next : SocketM σ β) client host).2 := by
  rw [bind_apply]
  generalize op client host = result at *
  obtain ⟨⟨failure | value, after⟩, last⟩ := result
  · exact first
  · obtain ⟨silent, same⟩ := edits value after last
    have opened := kept value rfl
    dsimp only
    rw [silent]
    exact first.edited opened (same.trans opened)

end Gets

/-! ### The calls -/

theorem close_gets (opened : client.socket = some socket) (host : Host σ) :
    Gets client host (close client host).1.2 (close client host).2 := by
  obtain ⟨closing, -, asked⟩ := Host.command_logged (.closeSocket socket) (markOpen socket host).2
  rw [close_of_some opened]
  exact ⟨_, .released opened (.refl _) rfl (vacate_of_some opened host) asked⟩

theorem fillLoop_gets (opened : client.socket = some socket) (patience : Nat) (host : Host σ) :
    Gets client host (fillLoop socket patience client host).1.2
      (fillLoop socket patience client host).2 := by
  induction patience generalizing client host with
  | zero =>
    by_cases some : client.cursor < client.filled
    · rw [fillLoop_of_lt some]
      exact .refl _ _
    · rw [fillLoop_zero some]
      exact .refl _ _
  | succ patience ih =>
    by_cases some : client.cursor < client.filled
    · rw [fillLoop_of_lt some]
      exact .refl _ _
    have round : Gets client host client
        (Host.command (.receive socket clientCapacity) (Host.poll host).2).2 :=
      (Gets.asked opened (fun _ ↦ rfl) host).trans (.asked opened (fun _ ↦ rfl) _)
    rw [fillLoop_succ some]
    generalize Host.command (.receive socket clientCapacity) (Host.poll host).2 = received at *
    obtain ⟨status | received, last⟩ := received
    · by_cases inactive : status = .socketInactive
      · simp only [if_pos inactive, reset_apply]
        exact round.trans (close_gets opened last)
      · simp only [if_neg inactive]
        have emptied : client.emptied.socket = Option.some socket := opened
        exact (round.edited opened emptied).trans (ih emptied last)
    · have refilled : (client.refill received).socket = Option.some socket := opened
      exact (round.edited opened refilled).trans (ih refilled last)

theorem fill_gets (opened : client.socket = some socket) (patience : Nat) (host : Host σ) :
    Gets client host (fill patience client host).1.2 (fill patience client host).2 ∧
      ∀ value, (fill patience client host).1.1 = .ok value →
        (fill patience client host).1.2.socket = some socket := by
  rw [fill_of_some opened]
  refine ⟨fillLoop_gets opened patience host, fun _ ok ↦ ?_⟩
  obtain ⟨_, -, filled⟩ := fillLoop_filled opened patience host
  rw [filled.socket_eq (by rw [ok]; nofun), opened]

theorem read_gets (opened : client.socket = some socket) (patience size : Nat) (host : Host σ) :
    Gets client host (read patience size client host).1.2 (read patience size client host).2 := by
  unfold read
  split
  · exact .refl _ _
  · obtain ⟨gets, kept⟩ := fill_gets opened patience host
    exact gets.bind kept fun _ _ _ ↦ ⟨rfl, rfl⟩

theorem readByte_gets (opened : client.socket = some socket) (patience : Nat) (host : Host σ) :
    Gets client host (readByte patience client host).1.2 (readByte patience client host).2 := by
  obtain ⟨gets, kept⟩ := fill_gets opened patience host
  exact gets.bind kept fun _ _ _ ↦ ⟨rfl, rfl⟩

theorem streamRead_gets (opened : client.socket = some socket) (patience size : Nat)
    (host : Host σ) :
    Gets client host (Stream.read patience size client host).1.2
      (Stream.read patience size client host).2 := by
  have gets := read_gets opened patience size host
  rw [streamRead_apply]
  generalize read patience size client host = result at *
  obtain ⟨⟨failure | _, after⟩, last⟩ := result
  · cases failure <;> exact gets
  · exact gets

theorem receive_gets (opened : client.socket = some socket) (size : Nat) (host : Host σ) :
    Gets client host (receive size client host).1.2 (receive size client host).2 := by
  have asked : Gets client host client (Host.command (.receive socket size) host).2 :=
    .asked opened (fun _ ↦ rfl) host
  rw [receive_of_some opened]
  generalize Host.command (.receive socket size) host = answer at *
  obtain ⟨status | _, last⟩ := answer
  · by_cases inactive : status = .socketInactive
    · simp only [if_pos inactive, reset_apply]
      exact asked.trans (close_gets opened last)
    · simp only [if_neg inactive]
      exact asked
  · exact asked

theorem Probed.dealings_eq {count : Nat} (probed : Probed client trace count) :
    dealings trace = [] := by
  cases probed <;> rfl

theorem available_gets (opened : client.socket = some socket) (host : Host σ) :
    (available client host).1.2 = client ∧
      Gets client host client (available client host).2 := by
  obtain ⟨trace, logged, same, probed⟩ := available_probed client host
  exact ⟨same, trace, .kept opened opened logged probed.dealings_eq⟩

theorem connected_gets (opened : client.socket = some socket) (host : Host σ) :
    Gets client host (connected client host).1.2 (connected client host).2 := by
  obtain ⟨-, looked⟩ := available_gets opened host
  rw [connected_of_some opened]
  split
  · exact looked.trans (close_gets opened _)
  · exact looked

theorem Sends.dealings_eq (sends : client.Sends trace) : dealings trace = [] := by
  refine List.filterMap_eq_nil_iff.mpr fun exchange mem ↦ ?_
  obtain ⟨_, _, _, rfl⟩ := sends.exists_eq mem
  rfl

theorem OnlySends.gets {op : SocketM σ α} (only : OnlySends op)
    (opened : client.socket = some socket) (host : Host σ) :
    Gets client host (op client host).1.2 (op client host).2 := by
  obtain ⟨trace, logged, same, sends⟩ := only client host
  rw [same]
  exact ⟨trace, .kept opened opened logged sends.dealings_eq⟩

/-! ### A client without a socket -/

theorem writeText_of_none (unopened : client.socket = none) (text : String) (host : Host σ) :
    (writeText text client host).1.2 = client ∧ (writeText text client host).2 = host := by
  unfold writeText
  split
  · exact ⟨rfl, rfl⟩
  · rw [write_of_none unopened]
    exact ⟨rfl, rfl⟩

end Client

namespace Call

variable {σ : Type} [Layer σ] {client : Client}

/-- Without a socket, no call does anything. -/
theorem perform_of_none (unopened : client.socket = none) (call : Call) (host : Host σ) :
    (call.perform client host).1.2 = client ∧ (call.perform client host).2 = host := by
  cases call with
  | readByte patience =>
    rw [perform, Client.readByte_apply, Client.fill_of_none unopened]
    exact ⟨rfl, rfl⟩
  | read patience size =>
    rcases Nat.eq_zero_or_pos size with rfl | some
    · exact ⟨rfl, rfl⟩
    · rw [perform, Client.read_apply some, Client.fill_of_none unopened]
      exact ⟨rfl, rfl⟩
  | streamRead patience size =>
    rw [perform, Client.streamRead_apply]
    rcases Nat.eq_zero_or_pos size with rfl | some
    · exact ⟨rfl, rfl⟩
    · rw [Client.read_apply some, Client.fill_of_none unopened]
      exact ⟨rfl, rfl⟩
  | receive size =>
    rw [perform, Client.receive_of_none unopened]
    exact ⟨rfl, rfl⟩
  | available =>
    rw [perform, Client.available_of_none unopened]
    exact ⟨rfl, rfl⟩
  | connected =>
    rw [perform, Client.connected_of_none unopened]
    exact ⟨rfl, rfl⟩
  | write data =>
    rw [perform, Client.write_of_none unopened]
    exact ⟨rfl, rfl⟩
  | writeByte byte =>
    rw [perform, Client.writeByte, Client.write_of_none unopened]
    exact ⟨rfl, rfl⟩
  | writeText text => exact Client.writeText_of_none unopened text host
  | writeLine text =>
    obtain ⟨same, still⟩ := Client.writeText_of_none unopened text host
    rw [perform, Client.writeLine, Client.bind_apply]
    generalize Client.writeText text client host = result at *
    obtain ⟨⟨failure | _, after⟩, last⟩ := result
    · exact ⟨same, still⟩
    · cases same
      cases still
      simp only [Client.bind_apply, Client.write_of_none unopened]
      exact ⟨trivial, trivial⟩
  | streamWrite data =>
    rw [perform, Stream.write]
    split
    · exact ⟨rfl, rfl⟩
    · rw [Client.write_of_none unopened]
      exact ⟨rfl, rfl⟩
  | close =>
    rw [perform, Client.close_of_none unopened]
    exact ⟨rfl, rfl⟩

theorem perform_gets (call : Call) (client : Client) (host : Host σ) :
    client.Gets host (call.perform client host).1.2 (call.perform client host).2 := by
  cases opened : client.socket with
  | none =>
    obtain ⟨same, still⟩ := perform_of_none opened call host
    rw [same, still]
    exact .refl _ _
  | some socket =>
    cases call with
    | readByte patience => exact Client.readByte_gets opened patience host
    | read patience size => exact Client.read_gets opened patience size host
    | streamRead patience size => exact Client.streamRead_gets opened patience size host
    | receive size => exact Client.receive_gets opened size host
    | available =>
      obtain ⟨same, looked⟩ := Client.available_gets opened host
      rwa [perform, same]
    | connected => exact Client.connected_gets opened host
    | write data => exact (Client.onlySends_write data).gets opened host
    | writeByte byte => exact (Client.onlySends_write [byte]).gets opened host
    | writeText text => exact (Client.onlySends_writeText text).gets opened host
    | writeLine text => exact (Client.onlySends_writeLine text).gets opened host
    | streamWrite data => exact (Client.onlySends_streamWrite data).gets opened host
    | close => exact Client.close_gets opened host

theorem play_gets (calls : List Call) (client : Client) (host : Host σ) :
    client.Gets host (play calls client host).1.2 (play calls client host).2 := by
  induction calls generalizing client host with
  | nil => exact .refl _ _
  | cons call rest ih => exact (perform_gets call client host).trans (ih _ _)

end Call

end Net

end SpiWifi
