import SpiWifi.Bus.Session
import SpiWifi.Inbox

/-!
One chip on its bus, with an inbox as the receiver. The inbox sits between the
engine and the board: deliveries go to the inbox and all other calls to the
board. The event record outlives a session, the pending response does not.
-/

set_option autoImplicit false
set_option relaxedAutoImplicit false

namespace SpiWifi

/-- A board whose deliveries go to an inbox. -/
structure Routed (σ : Type) where
  board : σ
  inbox : Inbox := {}

instance {σ : Type} [Bus.Board σ] : Bus.Board (Routed σ) where
  respond call routed :=
    match call with
    | .deliver packet => ({}, { routed with inbox := routed.inbox.deliver packet })
    | other =>
      let (reply, board) := Bus.Board.respond other routed.board
      (reply, { routed with board })

abbrev Device (σ : Type) : Type := Bus (Routed σ)

abbrev DeviceM (σ α : Type) : Type := BusM (Routed σ) α

namespace Device

variable {σ : Type}

def inbox (device : Device σ) : Inbox := device.board.inbox

def onInbox (f : Inbox → Inbox) (device : Device σ) : Device σ :=
  { device with board.inbox := f device.board.inbox }

/-- Starts a session. A response that is still pending is discarded. -/
def attach [Bus.Board σ] : DeviceM σ Unit := do
  modify (onInbox Inbox.clearResponses)
  Bus.attach

/-- Ends the session, and the pending response with it. -/
def detach [Bus.Board σ] : DeviceM σ Unit := do
  discard Bus.detach
  modify (onInbox Inbox.clearResponses)

def send [Bus.Board σ] (payload : List UInt8) : DeviceM σ Unit := Bus.send payload

def power [Bus.Board σ] (on : Bool) : DeviceM σ Unit := Bus.power on

def pause [Bus.Board σ] (millis : UInt32) : DeviceM σ Unit := Bus.pause millis

/-- Serves the chip once. A failure is left to the next poll. -/
def poll [Bus.Board σ] : DeviceM σ Unit := discard (observing Bus.pump)

/-- Copies the pending response over the front of `buffer`; see `Inbox.take`. -/
def takeResponse (buffer : List UInt8) : DeviceM σ (Option Nat × List UInt8) := do
  let (length, filled, inbox) := (Device.inbox (← get)).take buffer
  modify (onInbox fun _ ↦ inbox)
  return (length, filled)

end Device

end SpiWifi
