import SpiWifi.Bus.Clock
import SpiWifi.Saturating
import SpiWifi.Wire.Packet

/-!
The dispatcher: what the engine does when the chip asks for service. After power
up the request means that the chip is ready; while a write is staged it is the
chip's consent; at rest it announces a frame. Waiting is polling the dispatcher
with pauses in between, until the engine stands where it should or the budget is
spent.
-/

set_option autoImplicit false
set_option relaxedAutoImplicit false

namespace SpiWifi.Bus

open Wire

variable {σ : Type} [Board σ]

/-- Clocks out the staged frame. -/
def finishWrite : BusM σ Unit := do
  let sent ← observing (clockOut 0 (← get).staged)
  enterPhase .writeClosing
  conclude sent

/-- Hands a received frame to the receiver without its SPI header. -/
def handOver (total : Nat) : BusM σ Unit := do
  match (← get).receive.window? headerSize total with
  | none => throw .outOfWindow
  | some packet =>
    if (← get).attached then
      discard (call (.deliver packet))

/-- Ends the read of a whole frame. The interrupt stays disabled until the
receiver has returned. -/
def completeRead (total : Nat) : BusM σ Unit := do
  enterPhase .readClosing
  disableInterrupt
  let reply ← call .release
  if reply.failed then
    enterPhase .idle
    enableInterrupt
    throw (.hardware .release)
  unless (← get).receive.intact do halt
  enterPhase .idle
  handOver total
  enableInterrupt

/-- Reads what follows the first bytes of a frame. A frame that the buffer cannot
hold is read to its end and dropped. -/
def readBody : BusM σ Unit := do
  enterPhase .readFirstPortion
  let remaining := remainingLength ((← get).receive.bytes.take leadSize)
  let total := leadSize + remaining
  if bufferCapacity < total then
    conclude (← observing (drain remaining))
    throw .tooLong
  match ← observing (if 0 < remaining then clockIn leadSize total else pure ()) with
  | .error failure => conclude (.error failure)
  | .ok () => completeRead total

def readFrame : BusM σ Unit := do
  enterPhase .readRequested
  let reply ← call .select
  if reply.failed then
    enterPhase .idle
    throw (.hardware .select)
  match ← observing (clockIn 0 leadSize) with
  | .error failure => conclude (.error failure)
  | .ok () => readBody

def dispatch : BusM σ Unit := do
  match (← get).phase with
  | .powerUp => enterPhase .initialized
  | .idle => readFrame
  | .writeRequested => finishWrite
  | _ => return ()

/-- Serves the chip if it asks for service, and tells whether it did. Nothing
happens while the interrupt is disabled or the dispatcher is already running. -/
def pump : BusM σ Bool := do
  let bus ← get
  if bus.dispatching || !bus.interruptEnabled then
    return false
  let edge ← takeEdge
  let low ← lineIsLow
  if (← get).phase.wakes edge low then
    modify ({ · with dispatching := true })
    let served ← observing dispatch
    modify ({ · with dispatching := false })
    match served with
    | .error failure => throw failure
    | .ok () => return true
  else
    return false

/-- Polls until the engine stands in `target`. Of the budget `timeout` the wait
has used `waited`; each further poll costs `step`, and at least one. -/
def waitLoop (target : Phase) (step timeout waited : UInt32) : BusM σ Unit := do
  if (← get).phase = target then
    return ()
  discard pump
  if (← get).phase = target then
    return ()
  if _ : waited < timeout then
    discard (call (.pauseMicros (max step 1)))
    waitLoop target step timeout (saturatingAdd waited (max step 1))
  else
    throw .timeout
termination_by timeout.toNat - waited.toNat
decreasing_by
  rename_i h
  have := lt_saturatingAdd h (zero_lt_max_one step)
  have := UInt32.lt_iff_toNat_lt.mp h
  omega

def waitFor (target : Phase) : BusM σ Unit := do
  let config := (← get).config
  waitLoop target config.pollMicros config.timeoutMicros 0

end SpiWifi.Bus
