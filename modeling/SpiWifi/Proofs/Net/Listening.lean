import SpiWifi.Proofs.Net.Sweep

/-!
The steps by which a server comes to listen, each right after the chip was served, and what becomes
of the socket that it opens for that. The first step that fails is the last one. A socket that
cannot be made to listen is closed again, and the server is left as it was; otherwise it becomes
the server's listener.
-/

set_option autoImplicit false
set_option relaxedAutoImplicit false

namespace SpiWifi

open Chip

namespace Net.Server

variable {σ α β : Type} {trace later : List Exchange} {requests more : List Command}
  {failure : Option Status}

theorem lift_bind_apply (work : HostM σ α) (next : α → ServerM σ β) (server : Server)
    (host : Host σ) :
    (liftM work >>= next : ServerM σ β) server host = next (work host).1 server (work host).2 := rfl

theorem status_bind_apply (work : ExceptT Status (HostM σ) α)
    (next : α → ExceptT Status (HostM σ) β) (host : Host σ) :
    (work >>= next : ExceptT Status (HostM σ) β) host =
      match work host with
      | (.ok value, last) => next value last
      | (.error status, last) => (.error status, last) := by
  simp only [bind, ExceptT.bind, ExceptT.mk, StateT.bind, ExceptT.bindCont]
  rcases work host with ⟨_ | _, last⟩ <;> rfl

theorem status_tryCatch_apply (work : ExceptT Status (HostM σ) α)
    (handler : Status → ExceptT Status (HostM σ) α) (host : Host σ) :
    (tryCatch work handler : ExceptT Status (HostM σ) α) host =
      match work host with
      | (.ok value, last) => (.ok value, last)
      | (.error status, last) => handler status last := by
  simp only [tryCatch, tryCatchThe, MonadExceptOf.tryCatch, ExceptT.tryCatch, ExceptT.mk, bind,
    StateT.bind]
  rcases work host with ⟨_ | _, last⟩ <;> rfl

/-- What is done to sockets without opening or closing one, or taking one from the chip. -/
def Undealt (work : ExceptT Status (HostM σ) α) : Prop :=
  ∀ host : Host σ, ∃ trace, host.Logged trace (work host).2 ∧ dealings trace = []

theorem Undealt.bind {work : ExceptT Status (HostM σ) α}
    {next : α → ExceptT Status (HostM σ) β} (first : Undealt work)
    (second : ∀ value, Undealt (next value)) :
    Undealt (work >>= next : ExceptT Status (HostM σ) β) := by
  intro host
  obtain ⟨trace, logged, undealt⟩ := first host
  rw [status_bind_apply]
  rcases done : work host with ⟨status | value, last⟩ <;> rw [done] at logged
  · exact ⟨trace, logged, undealt⟩
  · obtain ⟨later, more, nothing⟩ := second value last
    exact ⟨trace ++ later, logged.trans more, by rw [dealings_append, undealt, nothing]; rfl⟩

/-- Commands that are issued one after the other, each right after the chip was served, until one
fails. -/
inductive Issued : List Exchange → List Command → Option Status → Prop where
  | done : Issued [] [] none
  | step {request : Command} {poll : Outcome .poll} {outcome : Outcome (.command request)}
      {answer : request.Answer} {trace : List Exchange} {requests : List Command}
      {failure : Option Status} (succeeded : outcome.answer = .ok answer)
      (rest : Issued trace requests failure) :
      Issued (⟨_, poll⟩ :: ⟨_, outcome⟩ :: trace) (request :: requests) failure
  | failed {request : Command} {poll : Outcome .poll} {outcome : Outcome (.command request)}
      {status : Status} (refused : outcome.answer = .error status) :
      Issued [⟨_, poll⟩, ⟨_, outcome⟩] [request] (some status)

theorem Issued.append (h : Issued trace requests none) (k : Issued later more failure) :
    Issued (trace ++ later) (requests ++ more) failure := by
  generalize outcome : none = result at h
  induction h with
  | done => exact k
  | step succeeded _ ih => exact .step succeeded (ih outcome)
  | failed _ => cases outcome

/-- A script is issued in full, or up to the command that fails. -/
def Keeps (script : List Command) (trace : List Exchange) : Except Status α → Prop
  | .ok _ => Issued trace script none
  | .error status => ∃ issued, issued <+: script ∧ Issued trace issued (some status)

/-- The work issues some commands in their order, all of them unless it fails. -/
def Follows (script : List Command) (work : ExceptT Status (HostM σ) α) : Prop :=
  ∀ host : Host σ, ∃ trace, host.Logged trace (work host).2 ∧ Keeps script trace (work host).1

theorem Follows.bind {work : ExceptT Status (HostM σ) α}
    {next : α → ExceptT Status (HostM σ) β} {script after : List Command}
    (first : Follows script work) (second : ∀ value, Follows after (next value)) :
    Follows (script ++ after) (work >>= next : ExceptT Status (HostM σ) β) := by
  intro host
  obtain ⟨trace, logged, keeps⟩ := first host
  rw [status_bind_apply]
  generalize work host = result at *
  obtain ⟨status | value, middle⟩ := result
  · obtain ⟨requests, front, issued⟩ := keeps
    exact ⟨trace, logged, requests, front.trans (List.prefix_append _ _), issued⟩
  · obtain ⟨later, more, follows⟩ := second value middle
    refine ⟨trace ++ later, logged.trans more, ?_⟩
    dsimp only
    generalize next value middle = result at *
    obtain ⟨status | _, last⟩ := result
    · obtain ⟨requests, front, issued⟩ := follows
      exact ⟨script ++ requests, (List.prefix_append_right_inj _).mpr front, keeps.append issued⟩
    · exact keeps.append follows

variable [Layer σ]

theorem polledCommand_logged (request : Command) (host : Host σ) :
    ∃ (poll : Outcome .poll) (outcome : Outcome (.command request)),
      (polledCommand request host).1 = outcome.answer ∧
      host.Logged [⟨_, poll⟩, ⟨_, outcome⟩] (polledCommand request host).2 := by
  obtain ⟨poll, polled⟩ := Host.poll_logged host
  obtain ⟨outcome, answer, asked⟩ := Host.command_logged request (Host.poll host).2
  exact ⟨poll, outcome, answer, polled.trans asked⟩

theorem undealt_polledCommand (request : Command)
    (undealt : ∀ outcome : Outcome (.command request), Exchange.dealing? ⟨_, outcome⟩ = none) :
    Undealt (polledCommand (σ := σ) request) := by
  intro host
  obtain ⟨poll, outcome, -, logged⟩ := polledCommand_logged request host
  refine ⟨_, logged, ?_⟩
  rw [dealings_poll, dealings, List.filterMap_cons, undealt]
  rfl

theorem undealt_configure (socket : SocketId) (port : UInt16) :
    Undealt (configure (σ := σ) socket port) :=
  (undealt_polledCommand _ fun _ ↦ rfl).bind fun _ ↦
    (undealt_polledCommand _ fun _ ↦ rfl).bind fun _ ↦ undealt_polledCommand _ fun _ ↦ rfl

/-! ### The order of the steps -/

theorem polledCommand_follows (request : Command) :
    Follows [request] (polledCommand (σ := σ) request) := by
  intro host
  obtain ⟨poll, outcome, answer, logged⟩ := polledCommand_logged request host
  refine ⟨_, logged, ?_⟩
  rw [answer]
  rcases result : outcome.answer with status | _
  · exact ⟨[request], List.prefix_rfl, .failed result⟩
  · exact .step result .done

theorem configure_follows (socket : SocketId) (port : UInt16) :
    Follows [.setNonBlocking socket, .bindSocket socket (.any port), .listen socket]
      (configure (σ := σ) socket port) :=
  (polledCommand_follows _).bind fun _ ↦
    (polledCommand_follows _).bind fun _ ↦ polledCommand_follows _

/-- The commands by which a server comes to listen, in their order. -/
def listenScript (socket : SocketId) (port : UInt16) : List Command :=
  [.setTimeouts .server, .openSocket .tcp, .setNonBlocking socket, .bindSocket socket (.any port),
    .listen socket]

/-- How a socket is made to listen: the steps up to the first failure, and what is done to clean
up. Whether the socket can be closed again makes no difference. -/
inductive Begins (port : UInt16) :
    List Exchange → List Exchange → Except Status SocketId → Prop where
  /-- It fails before there is a socket. -/
  | refused {steps : List Exchange} {requests : List Command} {status : Status}
      (issued : Issued steps requests (some status))
      (front : requests <+: [.setTimeouts .server, .openSocket .tcp])
      (unopened : dealings steps = []) : Begins port steps [] (.error status)
  | abandoned {steps : List Exchange} {requests : List Command} {socket : SocketId}
      {status : Status} {closing : Outcome (.command (.closeSocket socket))}
      (issued : Issued steps requests (some status))
      (front : requests <+: listenScript socket port)
      (opened : dealings steps = [.opened socket]) :
      Begins port steps [⟨_, closing⟩] (.error status)
  | listening {steps : List Exchange} {socket : SocketId}
      (issued : Issued steps (listenScript socket port) none)
      (opened : dealings steps = [.opened socket]) : Begins port steps [] (.ok socket)

theorem openListener_begins (port : UInt16) (host : Host σ) :
    ∃ steps cleanup, host.Logged (steps ++ cleanup) (openListener port host).2 ∧
      Begins port steps cleanup (openListener port host).1 := by
  unfold openListener
  obtain ⟨poll, setting, answer, prepared⟩ := polledCommand_logged (.setTimeouts .server) host
  rw [status_bind_apply]
  generalize polledCommand (.setTimeouts .server) host = result at *
  obtain ⟨status | _, ready⟩ := result
  · exact ⟨_, [], prepared, .refused (.failed answer.symm) ⟨[.openSocket .tcp], rfl⟩ rfl⟩
  obtain ⟨again, opening, socketAnswer, opened⟩ := polledCommand_logged (.openSocket .tcp) ready
  have sofar := prepared.trans opened
  dsimp only
  rw [status_bind_apply]
  generalize polledCommand (.openSocket .tcp) ready = got at *
  obtain ⟨status | socket, middle⟩ := got
  · refine ⟨_, [], sofar, .refused (.step answer.symm (.failed socketAnswer.symm))
      List.prefix_rfl ?_⟩
    show dealings [⟨_, again⟩, ⟨_, opening⟩] = []
    rw [dealings_poll, dealings_unopened socketAnswer.symm]
    rfl
  obtain ⟨settings, configured, keeps⟩ := configure_follows socket port middle
  obtain ⟨same, logged, undealt⟩ := undealt_configure socket port middle
  obtain rfl : settings = same := configured.unique logged
  have front : Issued [⟨_, poll⟩, ⟨_, setting⟩, ⟨_, again⟩, ⟨_, opening⟩]
      [.setTimeouts .server, .openSocket .tcp] none :=
    .step answer.symm (.step socketAnswer.symm .done)
  have obtained : dealings ([⟨_, poll⟩, ⟨_, setting⟩, ⟨_, again⟩, ⟨_, opening⟩] ++ settings) =
      [.opened socket] := by
    rw [dealings_append, undealt, List.append_nil]
    show dealings [⟨_, again⟩, ⟨_, opening⟩] = _
    rw [dealings_poll, dealings_opened socketAnswer.symm]
    rfl
  dsimp only
  rw [status_bind_apply, status_tryCatch_apply]
  generalize configure socket port middle = result at *
  obtain ⟨status | _, ready⟩ := result
  · obtain ⟨requests, issued, failing⟩ := keeps
    obtain ⟨closing, -, closed⟩ := Host.command_logged (.closeSocket socket) ready
    exact ⟨_, _, (sofar.trans configured).trans closed, .abandoned (front.append failing)
      ((List.prefix_append_right_inj _).mpr issued) obtained⟩
  · refine ⟨_, [], ?_, .listening (front.append keeps) obtained⟩
    rw [List.append_nil]
    exact sofar.trans configured

/-! ### What becomes of the socket -/

/-- How opening a listener can go. -/
inductive Opens : List Exchange → Except Status SocketId → Prop where
  | refused {trace : List Exchange} {status : Status} (undealt : dealings trace = []) :
      Opens trace (.error status)
  | abandoned {trace : List Exchange} {socket : SocketId} {status : Status}
      {closing : Outcome (.command (.closeSocket socket))}
      (obtained : dealings trace = [.opened socket]) :
      Opens (trace ++ [⟨_, closing⟩]) (.error status)
  | listening {trace : List Exchange} {socket : SocketId}
      (obtained : dealings trace = [.opened socket]) : Opens trace (.ok socket)

theorem openListener_opens (port : UInt16) (host : Host σ) :
    ∃ trace, host.Logged trace (openListener port host).2 ∧
      Opens trace (openListener port host).1 := by
  obtain ⟨steps, cleanup, logged, begins⟩ := openListener_begins port host
  refine ⟨steps ++ cleanup, logged, ?_⟩
  generalize (openListener port host).1 = result at begins ⊢
  cases begins with
  | refused _ _ unopened => rw [List.append_nil]; exact .refused unopened
  | abandoned _ _ opened => exact .abandoned opened
  | listening _ opened => rw [List.append_nil]; exact .listening opened

theorem listen_of_error {server : Server} {host : Host σ} {status : Status}
    (failed : (openListener server.port host).1 = .error status) :
    listen server host =
      ((.error (.command status), server), (openListener server.port host).2) := by
  have answer : (ExceptT.run (openListener server.port) host).1 = .error status := failed
  rw [listen, get_bind_apply, lift_bind_apply, answer]
  rfl

theorem listen_of_ok {server : Server} {host : Host σ} {socket : SocketId}
    (opened : (openListener server.port host).1 = .ok socket) :
    listen server host =
      ((.ok (), { server with listener := some socket }), (openListener server.port host).2) := by
  have answer : (ExceptT.run (openListener server.port) host).1 = .ok socket := opened
  rw [listen, get_bind_apply, lift_bind_apply, answer]
  rfl

/-- What a server answers and becomes when its listener was opened or not. -/
def settled (server : Server) : Except Status SocketId → Except SocketError Unit × Server
  | .error status => (.error (.command status), server)
  | .ok socket => (.ok (), { server with listener := some socket })

theorem listen_apply (server : Server) (host : Host σ) :
    listen server host =
      (server.settled (openListener server.port host).1, (openListener server.port host).2) := by
  cases opened : (openListener server.port host).1 with
  | error status => exact listen_of_error opened
  | ok socket => exact listen_of_ok opened

/-- A server comes to listen by five steps in a fixed order. At the first that fails it stops and
tells of that failure, closes the socket if it has opened one, and is left as it was. -/
theorem listen_begins (server : Server) (host : Host σ) :
    ∃ steps cleanup result, host.Logged (steps ++ cleanup) (listen server host).2 ∧
      Begins server.port steps cleanup result ∧ (listen server host).1 = server.settled result := by
  obtain ⟨steps, cleanup, logged, begins⟩ := openListener_begins server.port host
  rw [listen_apply]
  exact ⟨steps, cleanup, _, logged, begins, rfl⟩

/-- What listening does with the socket that it opens, and with the server. -/
inductive Listened (server : Server) :
    List Exchange → Except SocketError Unit → Server → Prop where
  | refused {trace : List Exchange} {status : Status} (undealt : dealings trace = []) :
      Listened server trace (.error (.command status)) server
  | abandoned {trace : List Exchange} {socket : SocketId} {status : Status}
      (dealt : dealings trace = [.opened socket, .closed socket]) :
      Listened server trace (.error (.command status)) server
  | listening {trace : List Exchange} {socket : SocketId}
      (obtained : dealings trace = [.opened socket]) :
      Listened server trace (.ok ()) { server with listener := some socket }

theorem listen_listened (server : Server) (host : Host σ) :
    ∃ trace, host.Logged trace (listen server host).2 ∧
      Listened server trace (listen server host).1.1 (listen server host).1.2 := by
  obtain ⟨trace, logged, opens⟩ := openListener_opens server.port host
  cases answer : (openListener server.port host).1 with
  | error status =>
    rw [answer] at opens
    rw [listen_of_error answer]
    refine ⟨trace, logged, ?_⟩
    cases opens with
    | refused undealt => exact .refused undealt
    | @abandoned opening socket _ closing obtained =>
      have dealt : dealings (opening ++ [⟨_, closing⟩]) = [.opened socket, .closed socket] := by
        rw [dealings_append, obtained]
        rfl
      exact .abandoned dealt
  | ok socket =>
    rw [answer] at opens
    rw [listen_of_ok answer]
    refine ⟨trace, logged, ?_⟩
    cases opens with
    | listening obtained => exact .listening obtained

end Net.Server

end SpiWifi
