import SpiWifi.Proofs.Net.Release
import SpiWifi.Proofs.Net.Reset

/-!
The life of a client. Connecting hands out a client with the socket that was opened for it, or
closes that socket again. From then on the socket is closed once, however the calls follow each
other and wherever one of them gives up.
-/

set_option autoImplicit false
set_option relaxedAutoImplicit false

namespace SpiWifi

open Chip

namespace Net

namespace Client

variable {σ : Type} [Layer σ] {kind : SocketKind} {ip : Ipv4} {port : UInt16} {host last : Host σ}
  {trace : List Exchange} {result : Except SocketError Client}

/-- How connecting can go. -/
inductive Connects (kind : SocketKind) (ip : Ipv4) (port : UInt16) (host : Host σ) :
    List Exchange → Except SocketError Client → Host σ → Prop where
  | refused {opening : Outcome (.command (.openSocket kind))} {status : Status} {last : Host σ}
      (answer : opening.answer = .error status) (logged : host.Logged [⟨_, opening⟩] last) :
      Connects kind ip port host [⟨_, opening⟩] (.error (.command status)) last
  | untracked {opening : Outcome (.command (.openSocket kind))} {socket : SocketId}
      {closing : Outcome (.command (.closeSocket socket))} {last : Host σ}
      (answer : opening.answer = .ok socket) (beyond : Events.socketCount ≤ socket.toNat)
      (logged : host.Logged [⟨_, opening⟩, ⟨_, closing⟩] last) :
      Connects kind ip port host [⟨_, opening⟩, ⟨_, closing⟩] (.error .exhausted) last
  | failed {opening : Outcome (.command (.openSocket kind))} {socket : SocketId}
      {connecting : Outcome (.command (.connectSocket socket (.internet ip port)))}
      {status : Status} {closing : Outcome (.command (.closeSocket socket))} {last : Host σ}
      (answer : opening.answer = .ok socket) (tracked : socket.toNat < Events.socketCount)
      (logged : host.Logged [⟨_, opening⟩, ⟨_, connecting⟩, ⟨_, closing⟩] last) :
      Connects kind ip port host [⟨_, opening⟩, ⟨_, connecting⟩, ⟨_, closing⟩]
        (.error (.command status)) last
  | connected {opening : Outcome (.command (.openSocket kind))} {socket : SocketId}
      {connecting : Outcome (.command (.connectSocket socket (.internet ip port)))}
      {moment : Host σ}
      (answer : opening.answer = .ok socket) (tracked : socket.toNat < Events.socketCount)
      (logged : host.Logged [⟨_, opening⟩] moment)
      (unmarked : moment.record.isClosed socket.toNat = false)
      (asked : moment.Logged [⟨_, connecting⟩]
        (Host.command (.connectSocket socket (.internet ip port)) moment).2) :
      Connects kind ip port host [⟨_, opening⟩, ⟨_, connecting⟩] (.ok { socket := some socket })
        (Host.command (.connectSocket socket (.internet ip port)) moment).2

section Connecting

variable (ip : Ipv4) (port : UInt16)

theorem connect_of_refused {status : Status}
    (refused : (Host.command (.openSocket kind) host).1 = .error status) :
    connect kind ip port host =
      (.error (.command status), (Host.command (.openSocket kind) host).2) := by
  rw [connect, Host.bind_apply, refused]
  rfl

variable {socket : SocketId} {middle : Host σ}

theorem connect_of_untracked (answer : (Host.command (.openSocket kind) host).1 = .ok socket)
    (next : (Host.command (.openSocket kind) host).2 = middle)
    (untracked : isTracked socket = false) :
    connect kind ip port host =
      (.error .exhausted, (Host.command (.closeSocket socket) middle).2) := by
  rw [connect, Host.bind_apply, answer, next]
  simp only [untracked, Bool.not_false, if_true]
  rfl

/-- A socket that is kept track of is asked to connect once its mark is cleared. -/
theorem connect_of_tracked (answer : (Host.command (.openSocket kind) host).1 = .ok socket)
    (next : (markOpen socket (Host.command (.openSocket kind) host).2).2 = middle)
    (tracked : isTracked socket = true) :
    (∀ status, (Host.command (.connectSocket socket (.internet ip port)) middle).1 = .error status →
      connect kind ip port host = (.error (.command status), (Host.command (.closeSocket socket)
        (Host.command (.connectSocket socket (.internet ip port)) middle).2).2)) ∧
    ((Host.command (.connectSocket socket (.internet ip port)) middle).1 = .ok () →
      connect kind ip port host = (.ok { socket := some socket },
        (Host.command (.connectSocket socket (.internet ip port)) middle).2)) := by
  rw [connect, Host.bind_apply, answer]
  simp only [tracked, Bool.not_true, Bool.false_eq_true, if_false, Host.bind_apply, next]
  constructor
  · intro status failed
    rw [failed]
    rfl
  · intro done
    rw [done]
    rfl

end Connecting

theorem connect_connects (kind : SocketKind) (ip : Ipv4) (port : UInt16) (host : Host σ) :
    ∃ trace, Connects kind ip port host trace (connect kind ip port host).1
      (connect kind ip port host).2 := by
  obtain ⟨opening, got, opened⟩ := Host.command_logged (.openSocket kind) host
  cases answer : opening.answer with
  | error status =>
    rw [connect_of_refused ip port (got.trans answer)]
    exact ⟨_, .refused answer opened⟩
  | ok socket =>
    by_cases tracked : isTracked socket = true
    · obtain ⟨middle, next⟩ :
          ∃ middle, (markOpen socket (Host.command (.openSocket kind) host).2).2 = middle :=
        ⟨_, rfl⟩
      have marked : host.Logged [⟨_, opening⟩] middle := next ▸ opened
      have unmarked : middle.record.isClosed socket.toNat = false :=
        next ▸ isClosed_markOpen socket _
      have small := (isTracked_iff socket).mp tracked
      obtain ⟨connecting, -, asked⟩ :=
        Host.command_logged (.connectSocket socket (.internet ip port)) middle
      obtain ⟨failed, done⟩ := connect_of_tracked ip port (got.trans answer) next tracked
      rcases outcome : (Host.command (.connectSocket socket (.internet ip port)) middle).1
        with status | _
      · obtain ⟨closing, -, closed⟩ := Host.command_logged (.closeSocket socket)
          (Host.command (.connectSocket socket (.internet ip port)) middle).2
        rw [failed status outcome]
        exact ⟨_, .failed answer small (marked.trans (asked.trans closed))⟩
      · rw [done outcome]
        exact ⟨_, .connected answer small marked unmarked asked⟩
    · obtain ⟨closing, -, closed⟩ := Host.command_logged (.closeSocket socket)
        (Host.command (.openSocket kind) host).2
      rw [connect_of_untracked ip port (got.trans answer) rfl (Bool.eq_false_iff.mpr tracked)]
      exact ⟨_, .untracked answer (Nat.le_of_not_lt fun small ↦
        tracked ((isTracked_iff socket).mpr small)) (opened.trans closed)⟩

/-- What connecting does with the socket that it opens. -/
structure Opening (kind : SocketKind) (ip : Ipv4) (port : UInt16) (host : Host σ)
    (trace : List Exchange) (result : Except SocketError Client) (last : Host σ) : Prop where
  /-- The client has the socket that was opened, and nothing was closed. When the socket was asked
  to connect, its mark had been cleared. -/
  connected : ∀ client, result = .ok client →
    ∃ (socket : SocketId) (opening : Outcome (.command (.openSocket kind)))
      (connecting : Outcome (.command (.connectSocket socket (.internet ip port))))
      (moment : Host σ),
      trace = [⟨_, opening⟩, ⟨_, connecting⟩] ∧ opening.answer = .ok socket ∧
      client = { socket := some socket } ∧ socket.toNat < Events.socketCount ∧
      host.Logged [⟨_, opening⟩] moment ∧ moment.record.isClosed socket.toNat = false ∧
      last = (Host.command (.connectSocket socket (.internet ip port)) moment).2
  /-- A socket that was opened in vain is closed, once and as the last thing. -/
  failed : ∀ failure, result = .error failure → dealings trace = [] ∨
    ∃ (socket : SocketId) (earlier : List Exchange)
      (closing : Outcome (.command (.closeSocket socket))),
      dealings earlier = [.opened socket] ∧ trace = earlier ++ [⟨_, closing⟩]
  exhausted : result = .error .exhausted ↔
    ∃ socket : SocketId, .opened socket ∈ dealings trace ∧ Events.socketCount ≤ socket.toNat
  untried : result = .error .exhausted →
    ∀ socket address, .connectSocket socket address ∉ commands trace

namespace Connects

theorem logged (connects : Connects kind ip port host trace result last) :
    host.Logged trace last := by
  cases connects with
  | refused _ logged => exact logged
  | untracked _ _ logged => exact logged
  | failed _ _ logged => exact logged
  | connected _ _ logged _ asked => exact logged.trans asked

theorem exhausted_iff (connects : Connects kind ip port host trace result last) :
    result = .error .exhausted ↔
      ∃ socket : SocketId, .opened socket ∈ dealings trace ∧
        Events.socketCount ≤ socket.toNat := by
  cases connects with
  | refused answer _ =>
    rw [dealings_unopened answer]
    exact iff_of_false nofun nofun
  | untracked answer beyond _ =>
    rw [dealings_opened answer]
    exact iff_of_true rfl ⟨_, List.mem_cons_self, beyond⟩
  | failed answer tracked _ =>
    rw [dealings_opened answer]
    refine iff_of_false nofun fun ⟨other, mem, beyond⟩ ↦ ?_
    rcases List.mem_cons.mp mem with same | mem
    · cases same
      exact Nat.not_lt.mpr beyond tracked
    · cases mem with
      | tail _ mem => cases mem
  | connected answer tracked _ _ _ =>
    rw [dealings_opened answer]
    refine iff_of_false nofun fun ⟨other, mem, beyond⟩ ↦ ?_
    cases List.mem_singleton.mp mem
    exact Nat.not_lt.mpr beyond tracked

theorem opening (connects : Connects kind ip port host trace result last) :
    Opening kind ip port host trace result last where
  connected client ok := by
    cases connects with
    | connected answer tracked logged unmarked asked =>
      cases ok
      exact ⟨_, _, _, _, rfl, answer, rfl, tracked, logged, unmarked, rfl⟩
    | _ => cases ok
  failed failure error := by
    cases connects with
    | refused answer _ => exact .inl (dealings_unopened answer [])
    | @untracked opening socket closing _ answer _ _ =>
      exact .inr ⟨socket, [⟨_, opening⟩], closing, dealings_opened answer [], rfl⟩
    | @failed opening socket connecting _ closing _ answer _ _ =>
      exact .inr ⟨socket, [⟨_, opening⟩, ⟨_, connecting⟩], closing, dealings_opened answer _, rfl⟩
    | connected _ _ _ _ _ => cases error
  exhausted := connects.exhausted_iff
  untried exhausted socket address mem := by
    cases connects with
    | untracked _ _ _ =>
      rcases List.mem_cons.mp mem with same | mem
      · cases same
      · cases List.mem_singleton.mp mem
    | _ => cases exhausted

end Connects

/-- What is left after some calls of a client that had this socket and its host. -/
structure Custody (socket : SocketId) (host : Host σ) (trace : List Exchange) (after : Client)
    (last : Host σ) : Prop where
  held : after.isOpen = true → after.socket = some socket
  /-- The socket is closed if and only if the client has let go of it, and then once. -/
  dealt : dealings trace = if after.isOpen then [] else [.closed socket]
  /-- Closing was the last request, whatever came of it. When it was made, the client had given up
  its socket and was empty, and the mark was cleared. -/
  released : after.isOpen = false →
    ∃ (earlier : List Exchange) (closing : Outcome (.command (.closeSocket socket)))
      (before : Client) (start moment : Host σ),
      trace = earlier ++ [⟨_, closing⟩] ∧ host.Logged earlier moment ∧
      vacate before start = ((.ok socket, after), moment) ∧
      after.filled = 0 ∧ after.cursor = 0 ∧ moment.record.isClosed socket.toNat = false ∧
      moment.Logged [⟨_, closing⟩] last ∧ last = (Host.command (.closeSocket socket) moment).2
  /-- A client that has let go of its socket does nothing more. -/
  silent : after.isOpen = false → ∀ call : Call,
    (call.perform after last).1.2 = after ∧ (call.perform after last).2 = last
  /-- If the peer turns out to have reset the connection, the call tells so, and the client has
  let go of its socket. -/
  reset : ∀ call : Call, ∃ more, last.Logged more (call.perform after last).2 ∧
    (wasReset more = true →
      call.TellsReset (call.perform after last).1.1 ∧ (call.perform after last).1.2.isOpen = false)

theorem isOpen_eq_false_iff {client : Client} : client.isOpen = false ↔ client.socket = none := by
  rw [isOpen, Option.isSome_eq_false_iff, Option.isNone_iff_eq_none]

theorem Passes.custody {client after : Client} {socket : SocketId}
    (passes : Passes client host trace after last) (opened : client.socket = some socket) :
    Custody socket host trace after last where
  held still := by
    cases passes with
    | idle _ => exact opened
    | kept owned same _ _ => exact same.trans (owned.symm.trans opened)
    | released _ _ _ vacated _ =>
      rw [isOpen, (Client.vacated vacated).1] at still
      cases still
  dealt := by
    cases passes with
    | idle unopened =>
      rw [opened] at unopened
      cases unopened
    | kept _ same _ undealt =>
      rw [undealt, isOpen, same]
      rfl
    | released owned _ undealt vacated _ =>
      cases owned.symm.trans opened
      rw [dealings_append, undealt, isOpen, (Client.vacated vacated).1]
      rfl
  released left := by
    rw [isOpen_eq_false_iff] at left
    cases passes with
    | idle unopened =>
      rw [opened] at unopened
      cases unopened
    | kept _ same _ _ =>
      rw [same] at left
      cases left
    | released owned logged _ vacated asked =>
      cases owned.symm.trans opened
      obtain ⟨-, filled, cursor, silent, unmarked⟩ := Client.vacated vacated
      have before := logged.trans silent
      rw [List.append_nil] at before
      exact ⟨_, _, _, _, _, rfl, before, vacated, filled, cursor, unmarked, asked, rfl⟩
  silent left call := Call.perform_of_none (isOpen_eq_false_iff.mp left) call last
  reset call := by
    obtain ⟨more, logged, told⟩ := Call.learns_perform call after last
    refine ⟨more, logged, fun reset ↦ ?_⟩
    obtain ⟨tells, left⟩ := told reset
    exact ⟨tells, isOpen_eq_false_iff.mpr left⟩

/-- Connecting either hands out a client with the socket that it has opened, or has closed it
again. However the calls on the client then follow each other, its socket is closed once it lets go
of it, and never again. -/
theorem connect_custody (kind : SocketKind) (ip : Ipv4) (port : UInt16) (host : Host σ) :
    ∃ trace, host.Logged trace (connect kind ip port host).2 ∧
      Opening kind ip port host trace (connect kind ip port host).1
        (connect kind ip port host).2 ∧
      ∀ client, (connect kind ip port host).1 = .ok client → ∃ socket,
        client.socket = some socket ∧ ∀ calls : List Call, ∃ later,
          (connect kind ip port host).2.Logged later
            (Call.play calls client (connect kind ip port host).2).2 ∧
          Custody socket (connect kind ip port host).2 later
            (Call.play calls client (connect kind ip port host).2).1.2
            (Call.play calls client (connect kind ip port host).2).2 := by
  obtain ⟨trace, connects⟩ := connect_connects kind ip port host
  refine ⟨trace, connects.logged, connects.opening, fun client ok ↦ ?_⟩
  obtain ⟨socket, _, _, _, -, -, rfl, -⟩ := connects.opening.connected client ok
  refine ⟨socket, rfl, fun calls ↦ ?_⟩
  obtain ⟨later, passes⟩ :=
    Call.play_gets calls { socket := some socket } (connect kind ip port host).2
  exact ⟨later, passes.logged, passes.custody rfl⟩

/-- A peer that sends once and resets. -/
def briefHost : Host Bench.Chip where
  layer := { sockets := [2], arrivals := [(2, [.ok ⟨[104, 105], none⟩])] }

def briefCalls : List Call := [.read 4 8, .connected, .receive 8, .write [1], .close]

theorem connect_custody_brief :
    (connect .tcp ⟨192, 168, 1, 7⟩ 80 briefHost).1 = .ok { socket := some 2 } ∧
      ∃ later,
        (connect .tcp ⟨192, 168, 1, 7⟩ 80 briefHost).2.Logged later
          (Call.play briefCalls { socket := some 2 }
            (connect .tcp ⟨192, 168, 1, 7⟩ 80 briefHost).2).2 ∧
        dealings later = [.closed 2] := by
  have connected : (connect .tcp ⟨192, 168, 1, 7⟩ 80 briefHost).1 = .ok { socket := some 2 } :=
    Call.eq_ok_of_toOption (by decide +kernel)
  obtain ⟨-, -, -, owns⟩ := connect_custody .tcp ⟨192, 168, 1, 7⟩ 80 briefHost
  obtain ⟨socket, owned, calls⟩ := owns _ connected
  cases owned
  obtain ⟨later, logged, custody⟩ := calls briefCalls
  have left : (Call.play briefCalls { socket := some 2 }
      (connect .tcp ⟨192, 168, 1, 7⟩ 80 briefHost).2).1.2.isOpen = false := by decide +kernel
  refine ⟨connected, later, logged, ?_⟩
  rw [custody.dealt, left]
  rfl

end Client

end Net

end SpiWifi
