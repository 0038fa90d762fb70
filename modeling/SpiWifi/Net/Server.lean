import SpiWifi.Net.Client

/-!
A listener with a slot for each client that the chip's sockets leave room for.
Looking for a client with data first accepts new connections into free slots.
-/

set_option autoImplicit false
set_option relaxedAutoImplicit false

namespace SpiWifi.Net

open Chip

/-- Slots for clients; one socket is left to the listener. -/
def slotCount : Nat := Events.socketCount - 1

structure Server where
  port : UInt16
  listener : Option SocketId := none
  /-- The clients in the slots. -/
  table : Vector Client slotCount := Vector.replicate slotCount {}
  deriving DecidableEq

abbrev ServerM (σ α : Type) : Type := StateT Server (HostM σ) α

namespace Server

/-- The clients, slot by slot. -/
def clients (server : Server) : List Client := server.table.toList

@[simp] theorem length_clients (server : Server) : server.clients.length = slotCount :=
  Vector.length_toList

theorem size_toArray_of_length {server : Server} {clients : List Client}
    (same : clients.length = server.clients.length) : clients.toArray.size = slotCount := by
  rw [List.size_toArray, same, length_clients]

/-- The server with other clients in its slots. -/
def reseat (server : Server) (clients : List Client)
    (same : clients.length = server.clients.length) : Server :=
  { server with table := ⟨clients.toArray, size_toArray_of_length same⟩ }

theorem exists_reseat (server : Server) {table : Vector Client slotCount} {clients : List Client}
    (same : table.toList = clients) :
    ∃ width, { server with table } = server.reseat clients width := by
  subst same
  exact ⟨Vector.length_toList.trans server.length_clients.symm, rfl⟩

variable {σ : Type} [Layer σ]

/-- Serves the chip once and runs a command, failing with its status. -/
def polledCommand (request : Command) : ExceptT Status (HostM σ) request.Answer := do
  Host.poll (σ := σ)
  ExceptT.mk (Host.command request)

/-- Makes an open socket listen. -/
def configure (socket : SocketId) (port : UInt16) : ExceptT Status (HostM σ) Unit := do
  polledCommand (.setNonBlocking socket)
  polledCommand (.bindSocket socket (.any port))
  polledCommand (.listen socket)

/-- The socket of a new listener. One that cannot be made to listen is closed again. -/
def openListener (port : UInt16) : ExceptT Status (HostM σ) SocketId := do
  polledCommand (.setTimeouts .server)
  let socket ← polledCommand (.openSocket .tcp)
  tryCatch (configure socket port) fun status ↦ do
    Host.tryCommand (σ := σ) (.closeSocket socket)
    throw status
  return socket

/-- Starts to listen on the server's port. On failure the server is unchanged. -/
def listen : ServerM σ (Except SocketError Unit) := do
  match ← (openListener (σ := σ) (← get).port).run with
  | .error status => return .error (.command status)
  | .ok socket =>
    modify ({ · with listener := some socket })
    return .ok ()

/-- Accepts one connection into a slot that is free. A descriptor that is not
kept track of is closed at once. -/
def acceptInto (listener : SocketId) (client : Client) : HostM σ Client := do
  let (up, client) ← Client.connected client
  if up then
    return client
  Host.poll
  match ← Host.command (.accept listener) with
  | .ok (some socket) =>
    if Client.isTracked socket then
      Client.markOpen socket
      return { socket := some socket }
    else
      Host.tryCommand (.closeSocket socket)
      return client
  | _ => return client

/-- Runs through the slots once. -/
def acceptAll : ServerM σ Unit := do
  let server ← get
  match server.listener with
  | none => return ()
  | some listener =>
    let table ← (server.table.mapM (acceptInto listener) : HostM σ (Vector Client slotCount))
    set { server with table }

/-- Whether a client is connected and has data to read. -/
def isReady : ClientM σ Bool := do
  if ← Client.connected then
    return 0 < (← Client.available)
  else
    return false

/-- The first slot that is ready; those after it are left alone. -/
def firstReady : (clients : List Client) →
    HostM σ (Option Nat × { after : List Client // after.length = clients.length })
  | [] => return (none, ⟨[], rfl⟩)
  | client :: rest => do
    let (ready, client) ← isReady client
    if ready then
      return (some 0, ⟨client :: rest, rfl⟩)
    let (found, rest) ← firstReady rest
    return (found.map (· + 1), ⟨client :: rest, congrArg Nat.succ rest.property⟩)

/-- The slot of a client with data to read, if any. -/
def available : ServerM σ (Option Nat) := do
  acceptAll
  let server ← get
  let (found, clients) ← firstReady (σ := σ) server.clients
  set (server.reseat clients clients.property)
  return found

/-- Sends to one client if it is connected. A send that fails counts as none. -/
def writeTo (data : List UInt8) (client : Client) : HostM σ (Nat × Client) := do
  let (up, client) ← Client.connected client
  if up then
    let (sent, client) ← (Client.write data).run client
    return (sent.toOption.getD 0, client)
  else
    return (0, client)

/-- Sends to every connected client, and tells how many bytes were taken in all. The
counts are the chip's own, and are added up without a limit. -/
def write (data : List UInt8) : ServerM σ Nat := do
  let server ← get
  let results ← (server.table.mapM (writeTo data) : HostM σ (Vector (Nat × Client) slotCount))
  set { server with table := results.map Prod.snd }
  return (results.toList.map Prod.fst).foldl (· + ·) 0

def writeByte (byte : UInt8) : ServerM σ Nat := write [byte]

/-- The client in a slot that `available` has named. -/
def client? (server : Server) (slot : Option Nat) : Option Client :=
  slot.bind fun index ↦ server.clients[index]?

def isListening (server : Server) : Bool := server.listener.isSome

end Server

end SpiWifi.Net
