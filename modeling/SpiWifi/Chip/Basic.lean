import SpiWifi.Net.Address
import SpiWifi.Wlan.ScanRecord

/-!
The values that commands to the chip carry and return.
-/

set_option autoImplicit false
set_option relaxedAutoImplicit false

namespace SpiWifi.Chip

/-- The code of a command that failed. -/
structure Status where
  code : Int16
  deriving DecidableEq

namespace Status

def failed : Status := ⟨-1⟩

/-- There was nothing to accept. -/
def inProgress : Status := ⟨-2⟩

/-- The peer has reset the connection. -/
def socketInactive : Status := ⟨-57⟩

end Status

/-- The chip's number for a socket. -/
abbrev SocketId : Type := UInt16

inductive SocketKind where
  | tcp
  | udp
  deriving DecidableEq

/-- Timeouts of the network stack in seconds; zero switches one off. -/
structure Timeouts where
  dhcp : UInt32
  arp : UInt32
  keepAlive : UInt32
  inactivity : UInt32
  deriving DecidableEq

/-- A listening socket must not be closed for being idle. -/
def Timeouts.server : Timeouts := ⟨14400, 3600, 30, 0⟩

/-- How the chip connects on its own. -/
structure Policy where
  openNetworks : Bool := false
  fastConnect : Bool := false
  profiles : Bool := false
  deriving DecidableEq

namespace Policy

/-- Connect on request only. -/
def manual : Policy := {}

/-- Connect from stored profiles. -/
def stored : Policy := { profiles := true }

end Policy

inductive Security where
  | unsecured
  | wep
  | wpa
  | wpa2
  deriving DecidableEq

namespace Security

def raw : Security → UInt8
  | .unsecured => 0
  | .wep => 1
  | .wpa => 2
  | .wpa2 => 3

def ofRaw? (raw : UInt8) : Option Security :=
  [unsecured, wep, wpa, wpa2].find? (·.raw == raw)

theorem ofRaw?_raw (security : Security) : ofRaw? security.raw = some security := by
  cases security <;> rfl

end Security

/-- What the chip says about its link when asked. -/
inductive LinkStatus where
  | disconnected
  | scanning
  | connecting
  | connected
  deriving DecidableEq

/-- Numbers that are not assigned count as disconnected. -/
def LinkStatus.ofRaw (raw : UInt32) : LinkStatus :=
  if raw = 1 then .scanning
  else if raw = 2 then .connecting
  else if raw = 3 then .connected
  else .disconnected

structure ScanParams where
  /-- Length of the scan window; zero stops scanning. -/
  duration : UInt32
  minDwell : UInt32
  maxDwell : UInt32
  probes : UInt32
  channelMask : UInt32
  strengthThreshold : Int32
  noiseThreshold : UInt32
  power : UInt32
  intervals : List UInt32
  deriving DecidableEq

/-- Repeat intervals of a scan in milliseconds, one for each channel slot. -/
def ScanParams.repeatIntervals : List UInt32 := List.replicate 16 2000

/-- A scan of all thirteen channels. -/
def ScanParams.allChannels (duration : UInt32) : ScanParams where
  duration := duration
  minDwell := 20
  maxDwell := 100
  probes := 5
  channelMask := 0x1FFF
  strengthThreshold := -120
  noiseThreshold := 0
  power := 300
  intervals := repeatIntervals

structure IpConfig where
  ip : Net.Ipv4
  netmask : Net.Ipv4
  gateway : Net.Ipv4
  dhcpServer : Net.Ipv4
  dnsServer : Net.Ipv4
  mac : Wlan.Mac
  name : List UInt8
  deriving DecidableEq

/-- What one receive call returned: the bytes it copied into the buffer, and the
count the chip gives, which may be another. -/
structure Received where
  data : List UInt8
  count : Nat
  deriving DecidableEq

end SpiWifi.Chip
