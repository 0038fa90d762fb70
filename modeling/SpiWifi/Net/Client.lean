import SpiWifi.Chip.Host
import SpiWifi.Overlay

/-!
A socket of the chip with a small receive buffer. A peer that closes is noticed
lazily: the descriptor is released once everything received before has been read.
Reads wait for data; `patience` bounds how often they poll for it.
-/

set_option autoImplicit false
set_option relaxedAutoImplicit false

namespace SpiWifi.Net

open Chip

inductive SocketError where
  /-- The client holds no descriptor. -/
  | notOpen
  /-- The peer reset the connection, and the descriptor was released. -/
  | closed
  /-- The chip handed out a descriptor beyond those that are kept track of. -/
  | exhausted
  | command (status : Status)
  /-- No data came in as many polls as the caller allows. -/
  | outOfPatience
  deriving DecidableEq

/-- Bytes of a client's receive buffer. -/
def clientCapacity : Nat := 64

structure Client where
  socket : Option SocketId := none
  buffer : List UInt8 := List.replicate clientCapacity 0
  /-- Bytes of the buffer that the last receive call has filled by its own count. -/
  filled : Nat := 0
  /-- Bytes of those that have been read. -/
  cursor : Nat := 0
  deriving DecidableEq

/-- What works on a client and cannot fail. -/
abbrev ClientM (σ α : Type) : Type := StateT Client (HostM σ) α

abbrev SocketM (σ α : Type) : Type := ExceptT SocketError (ClientM σ) α

namespace Client

variable {σ : Type} [Layer σ]

def isOpen (client : Client) : Bool := client.socket.isSome

/-- How many bytes wait to be read. -/
def buffered (client : Client) : Nat := client.filled - client.cursor

/-- The bytes that wait to be read. -/
def unread (client : Client) : List UInt8 := (client.buffer.take client.filled).drop client.cursor

def emptied (client : Client) : Client := { client with filled := 0, cursor := 0 }

def advance (client : Client) (count : Nat) : Client :=
  { client with cursor := client.cursor + count }

/-- The client after a receive call into its buffer. The chip's count is cut to
the buffer, and only the bytes that were copied are new. -/
def refill (client : Client) (received : Received) : Client :=
  { client with
    buffer := overlay client.buffer 0 received.data
    filled := min received.count clientCapacity
    cursor := 0 }

/-- A descriptor the host keeps track of. -/
def isTracked (socket : SocketId) : Bool := socket.toNat < Events.socketCount

def markOpen (socket : SocketId) : HostM σ Unit :=
  Host.onRecord (·.markClosed socket.toNat false)

/-- Opens a socket and connects it. On any failure the socket is closed again. -/
def connect (kind : SocketKind) (ip : Ipv4) (port : UInt16) :
    HostM σ (Except SocketError Client) := do
  match ← Host.command (.openSocket kind) with
  | .error status => return .error (.command status)
  | .ok socket =>
    if !isTracked socket then
      Host.tryCommand (.closeSocket socket)
      return .error .exhausted
    markOpen socket
    match ← Host.command (.connectSocket socket (.internet ip port)) with
    | .error status =>
      Host.tryCommand (.closeSocket socket)
      return .error (.command status)
    | .ok () => return .ok { socket := some socket }

/-- Empties the client and closes its descriptor, which counts as released even
if the chip refuses. -/
def close : SocketM σ Unit := do
  let some socket := (← get).socket | throw .notOpen
  modify fun client ↦ { client.emptied with socket := none }
  markOpen (σ := σ) socket
  match ← Host.command (σ := σ) (.closeSocket socket) with
  | .error status => throw (.command status)
  | .ok () => return ()

/-- Closes without telling whether that went well. -/
def release : ClientM σ Unit := discard (ExceptT.run close)

/-- Timeout of the readiness probe in microseconds. -/
def probeMicros : UInt32 := 5000

/-- The number of bytes that wait to be read; with none, 1 if the chip has some. -/
def available : ClientM σ Nat := do
  let client ← get
  match client.socket with
  | none => return 0
  | some socket =>
    if 0 < client.buffered then
      return client.buffered
    match ← Host.command (σ := σ) (.selectReadable socket probeMicros) with
    | .ok true => return 1
    | _ => return 0

/-- Whether the connection can still be used. A client whose peer has closed and
that has nothing left to read is released here. -/
def connected : ClientM σ Bool := do
  match (← get).socket with
  | none => return false
  | some socket =>
    if (← available) = 0 then
      if ← Host.shows (σ := σ) (·.isClosed socket.toNat) then
        release
        return false
    return true

/-- What happens when the peer has reset the connection. -/
def reset {α : Type} : SocketM σ α := do
  release (σ := σ)
  throw .closed

/-- Polls and receives until there is something to read. An empty answer and any
failure other than a reset are tried again. -/
def fillLoop (socket : SocketId) (patience : Nat) : SocketM σ Unit := do
  if (← get).cursor < (← get).filled then
    return ()
  match patience with
  | 0 => throw .outOfPatience
  | patience + 1 =>
    Host.poll (σ := σ)
    match ← Host.command (σ := σ) (.receive socket clientCapacity) with
    | .ok received => modify (·.refill received)
    | .error status =>
      if status = .socketInactive then
        reset
      modify emptied
    fillLoop socket patience

def fill (patience : Nat) : SocketM σ Unit := do
  let some socket := (← get).socket | throw .notOpen
  fillLoop socket patience

/-- Reads at least one byte and at most `size`. A read of no bytes does nothing,
not even to a client that is not open. -/
def read (patience size : Nat) : SocketM σ (List UInt8) := do
  if size = 0 then
    return []
  fill patience
  let bytes := (← get).unread.take size
  modify (·.advance bytes.length)
  return bytes

def readByte (patience : Nat) : SocketM σ UInt8 := do
  fill patience
  let byte := (← get).unread.headD 0
  modify (·.advance 1)
  return byte

/-- One receive call past the buffer. The data is cut to `size`, the
chip's count is passed on. -/
def receive (size : Nat) : SocketM σ Received := do
  let some socket := (← get).socket | throw .notOpen
  match ← Host.command (σ := σ) (.receive socket size) with
  | .ok received => return { received with data := received.data.take size }
  | .error status =>
    if status = .socketInactive then
      reset
    throw (.command status)

/-- Sends once, and tells how many bytes the chip took. -/
def write (data : List UInt8) : SocketM σ Nat := do
  let some socket := (← get).socket | throw .notOpen
  match ← Host.command (σ := σ) (.send socket data) with
  | .ok count => return count
  | .error status => throw (.command status)

def writeByte (byte : UInt8) : SocketM σ Nat := write [byte]

/-- Empty text is not sent, and not even looked at. -/
def writeText (text : String) : SocketM σ Nat :=
  if text.isEmpty then return 0 else write text.toUTF8.data.toList

/-- Sends text and a line end. The two counts are the chip's own, and are added
without a limit. -/
def writeLine (text : String) : SocketM σ Nat := do
  let written ← writeText text
  let ending ← write [13, 10]
  return written + ending

end Client

end SpiWifi.Net
