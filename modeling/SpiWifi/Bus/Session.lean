import SpiWifi.Bus.Dispatch

/-!
The operations of the engine. A session starts with `attach`, which clears the
buffers and waits for nothing; the first frame written waits for the chip to be
ready and is sent in two portions, every later one asks the chip first by pulling
chip-select low and is clocked out once the chip has answered on its line.
-/

set_option autoImplicit false
set_option relaxedAutoImplicit false

namespace SpiWifi.Bus

open Wire

variable {σ : Type} [Board σ]

/-- Starts a session with a receiver. The receiver stays attached even if
chip-select cannot be released. -/
def attach : BusM σ Unit := do
  modify ({ · with
    phase := .powerUp
    transmit := .empty bufferCapacity
    receive := .empty bufferCapacity
    staged := 0
    poisoned := false
    dispatching := false
    attached := true })
  discard (demand .release)
  enableInterrupt

/-- Ends the session, and tells whether there was a receiver to let go. -/
def detach : BusM σ Bool := do
  disableInterrupt
  let bus ← get
  set { bus with attached := false }
  return bus.attached

def power (on : Bool) : BusM σ Unit := discard (demand (if on then .powerOn else .powerOff))

def pause (millis : UInt32) : BusM σ Unit := discard (call (.pauseMillis millis))

/-- Bytes of the first frame that go out before the second settle pause. -/
def firstSplit : Nat := 4

/-- The two portions of the first frame. -/
def writePortions (total : Nat) : BusM σ Unit := do
  clockOut 0 firstSplit
  pause (← get).config.settleMillis
  clockOut firstSplit total

/-- The first frame of a session. The chip has consented to nothing yet, so the
frame goes out directly, with a settle pause before each portion. -/
def writeFirst (total : Nat) : BusM σ Unit := do
  discard (demand .select)
  pause (← get).config.settleMillis
  enterPhase .writeFirstPortion
  let sent ← observing (writePortions total)
  enterPhase .writeClosing
  conclude sent

/-- Stages a frame and asks for consent. The interrupt is disabled while the
frame is staged, so that no older request is taken for the answer; the chip may
have answered by the time it is enabled again. -/
def writeStaged (total : Nat) : BusM σ Unit := do
  disableInterrupt
  modify ({ · with phase := .writeRequested, staged := total })
  let reply ← call .select
  if reply.failed then
    abandon (.hardware .select)
  enableInterrupt
  match ← observing lineIsLow with
  | .error failure => abandon failure
  | .ok true =>
    finishWrite
    -- The edge that announced this answer is spent.
    discard takeEdge
  | .ok false => return ()

/-- Puts header and pad byte around a payload that lies in the transmit buffer. -/
def frameInPlace (header : Header) (layout : Layout) : BusM σ Unit := do
  modify fun bus ↦ { bus with transmit := bus.transmit.put 0 header.encode }
  if layout.padded then
    if bufferCapacity < layout.total then
      throw .outOfWindow
    modify fun bus ↦ { bus with transmit := bus.transmit.put (layout.total - 1) [0] }

/-- Waits until a frame has left the bus, and drops one that does not. -/
def awaitOut : BusM σ Unit := do
  match ← observing (waitFor .idle) with
  | .error failure => abandon failure
  | .ok () => return ()

/-- Sends the frame that lies in the transmit buffer. An older write that has not
come to its end is recovered from. -/
def writeFramed (recover : BusM σ Unit) (total : Nat) : BusM σ Unit := do
  if (← get).phase = .powerUp then
    waitFor .initialized
  if (← get).phase = .initialized then
    writeFirst total
  else
    unless (← get).phase = .idle do recover
    writeStaged total
  awaitOut

def writeLaidOut (recover : BusM σ Unit) (layout : Layout) : BusM σ Unit := do
  if (← get).poisoned then
    throw .poisoned
  if bufferCapacity < layout.total then
    throw .tooLong
  let some header := layout.header? | throw .tooLong
  frameInPlace header layout
  unless (← get).transmit.intact do halt
  writeFramed recover layout.total

/-- `write` with `recover` in place of what it does when it finds an older write. -/
def writeRecovering (recover : BusM σ Unit) (payload : Nat) : BusM σ Unit :=
  writeLaidOut recover (.of payload)

/-- Writes the first `payload` bytes after the header of the transmit buffer, and
waits until they have left the bus. -/
def write (payload : Nat) : BusM σ Unit := writeRecovering abort payload

/-- `write` on a machine with words of so many bits, in which it works out the
lengths without a look at whether they wrap. -/
def writeWord {bits : Nat} (payload : BitVec bits) : BusM σ Unit :=
  writeLaidOut abort (.ofWord payload)

/-- Writes into the payload region of the transmit buffer, as far as it fits. -/
def putPayload (start : Nat) (bytes : List UInt8) : BusM σ Unit :=
  modify fun bus ↦ { bus with transmit := bus.transmit.put (headerSize + start) bytes }

/-- Sends one payload and waits until it has left the bus. -/
def send (payload : List UInt8) : BusM σ Unit := do
  if payloadLimit < payload.length then
    throw .tooLong
  putPayload 0 payload
  write payload.length

end SpiWifi.Bus
