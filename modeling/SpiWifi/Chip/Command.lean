import SpiWifi.Chip.Basic

/-!
The commands the chip takes, each with the type of its answer.
-/

set_option autoImplicit false
set_option relaxedAutoImplicit false

namespace SpiWifi.Chip

open Net Wlan

inductive Command where
  /-- Starts the bus session with the chip's interrupt on a channel of the host. -/
  | attach (channel : UInt8)
  | start (patch : UInt8)
  | stop
  | setEventMask (mask : UInt32)
  | setPolicy (policy : Policy)
  | deleteProfiles
  | setScanParams (params : ScanParams)
  /-- Fetches the next scan record. -/
  | scanResult
  | connectNetwork (security : Security) (name key : List UInt8)
  | disconnect
  | linkStatus
  | readMac
  | writeMac (mac : Mac)
  | firmwareVersion
  | createKeyEntry
  | writeKey (key : Vector UInt8 16)
  | setSmartConfigTag (tag : List UInt8)
  | startSmartConfig (encrypted : Bool)
  /-- Decrypts what smart config received. -/
  | processSmartConfig
  /-- Addresses are in the chip's byte order; all zero selects DHCP. -/
  | configureIp (ip netmask gateway dns : UInt32)
  | ipConfig
  /-- The address is in the chip's byte order. -/
  | sendPing (ip attempts size timeout : UInt32)
  | resolve (name : List UInt8)
  | advertise (name : List UInt8)
  | setTimeouts (timeouts : Timeouts)
  | openSocket (kind : SocketKind)
  | connectSocket (socket : SocketId) (address : SocketAddress)
  | bindSocket (socket : SocketId) (address : SocketAddress)
  | listen (socket : SocketId)
  | setNonBlocking (socket : SocketId)
  /-- Answers with nothing while no connection is pending. -/
  | accept (socket : SocketId)
  | send (socket : SocketId) (data : List UInt8)
  | receive (socket : SocketId) (limit : Nat)
  | selectReadable (socket : SocketId) (timeoutMicros : UInt32)
  | closeSocket (socket : SocketId)
  deriving DecidableEq

/-- What a command answers when it succeeds. -/
@[reducible] def Command.Answer : Command → Type
  | .scanResult => ScanRecord
  | .linkStatus => UInt32
  | .readMac => Mac
  | .firmwareVersion => UInt8 × UInt8
  | .ipConfig => IpConfig
  | .resolve _ => Ipv4
  | .openSocket _ => SocketId
  | .accept _ => Option SocketId
  | .send _ _ => Nat
  | .receive _ _ => Received
  | .selectReadable _ _ => Bool
  | _ => Unit

/-- What the layers above the chip ask for. -/
inductive Request where
  /-- Serves the chip once. -/
  | poll
  | pause (millis : UInt32)
  | command (body : Command)

@[reducible] def Request.Answer : Request → Type
  | .poll => Unit
  | .pause _ => Unit
  | .command body => Except Status body.Answer

/-- A report of the chip that came in during a request. -/
structure Notice where
  opcode : UInt16
  args : List UInt8
  deriving DecidableEq

/-- The answer to a request, and what the chip reported meanwhile. -/
structure Outcome (request : Request) where
  answer : request.Answer
  notices : List Notice := []

/-- Whatever carries out requests. Every request may fail with any status, take
any answer, and bring any reports. -/
class Layer (σ : Type) where
  respond : (request : Request) → σ → Outcome request × σ

/-- One request of a history with its outcome. -/
structure Exchange where
  request : Request
  outcome : Outcome request

end SpiWifi.Chip
