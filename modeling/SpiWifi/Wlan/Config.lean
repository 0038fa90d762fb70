import SpiWifi.InterruptMap
import SpiWifi.Wire.Event

/-!
Wiring and timing of a station, and the fixed values it gives to the chip. All
times are in milliseconds.
-/

set_option autoImplicit false
set_option relaxedAutoImplicit false

namespace SpiWifi.Wlan

structure Config where
  /-- The host's pin on the chip's interrupt line. -/
  irqPin : UInt8 := 3
  interruptMap : InterruptMap := .atmega328
  connectTimeout : UInt32 := 10000
  scanWindow : UInt32 := 4000
  /-- Wait between the start of a scan and reading its results. -/
  scanSettle : UInt32 := 4500
  smartConfigTimeout : UInt32 := 60000
  /-- Pause between two polls of a bounded wait. -/
  pollInterval : UInt32 := 10
  rebootDelay : UInt32 := 5000
  /-- Time the chip stays off after its address settings have changed. -/
  applyDelay : UInt32 := 200
  /-- Time the chip stays off during smart config. -/
  restartDelay : UInt32 := 1000
  /-- Wait between setting the connection policy and connecting. -/
  policySettle : UInt32 := 500
  /-- Wait for a lease after the link has come up. -/
  linkSettle : UInt32 := 1000
  deriving DecidableEq

def Config.channel? (config : Config) : Option UInt8 := config.interruptMap.channel? config.irqPin

/-- The events the chip is told to keep to itself. -/
def maskedEvents : UInt32 := (Wire.Opcode.chipStarted ||| Wire.Opcode.keepAlive).toUInt32

/-- The tag on the packets of the smart config application. -/
def smartConfigTag : List UInt8 := [0x54, 0x54, 0x54]

end SpiWifi.Wlan
