import SpiWifi.Bus.Hardware
import SpiWifi.GuardedBuffer
import SpiWifi.Latch

/-!
The state of the half-duplex engine that moves frames between the host and the
chip, and the monad its operations run in. An operation that fails still leaves
the state it reached.
-/

set_option autoImplicit false
set_option relaxedAutoImplicit false

namespace SpiWifi

namespace Bus

/-- Where the engine stands. Only the first three are left standing between
operations. -/
inductive Phase where
  | powerUp
  | initialized
  | idle
  | writeRequested
  | writeFirstPortion
  | writeClosing
  | readRequested
  | readFirstPortion
  | readClosing
  deriving DecidableEq

namespace Phase

def all : List Phase :=
  [.powerUp, .initialized, .idle, .writeRequested, .writeFirstPortion, .writeClosing,
    .readRequested, .readFirstPortion, .readClosing]

def isWrite : Phase → Bool
  | .writeRequested | .writeFirstPortion | .writeClosing => true
  | _ => false

def isRead : Phase → Bool
  | .readRequested | .readFirstPortion | .readClosing => true
  | _ => false

/-- A transaction owns the bus. -/
def inFlight (phase : Phase) : Bool := phase.isWrite || phase.isRead

/-- Whether a request for service is acted on. At rest a latched edge alone is
stale: only a line that is held low announces a frame. -/
def wakes (phase : Phase) (edge low : Bool) : Bool :=
  match phase with
  | .powerUp | .writeRequested => edge || low
  | .idle => low
  | _ => false

end Phase

structure Config where
  /-- Pause between two polls of a blocking wait. -/
  pollMicros : UInt32 := 10
  /-- Budget of one blocking wait. -/
  timeoutMicros : UInt32 := 1000000
  /-- Settle time around the split of the first frame. -/
  settleMillis : UInt32 := 1
  deriving DecidableEq

inductive Failure where
  /-- The hardware failed this call. -/
  | hardware (call : Call)
  | timeout
  /-- A guard byte was written over; the engine has stopped for good. -/
  | overrun
  /-- The frame does not fit the buffer. -/
  | tooLong
  /-- The engine stopped after an earlier overrun. -/
  | poisoned
  /-- A part of a buffer was asked for that lies outside of it. -/
  | outOfWindow
  deriving DecidableEq

/-- Usable bytes of each frame buffer. -/
def bufferCapacity : Nat := 130

/-- The longest payload that still fits with its pad byte. -/
def payloadLimit : Nat := (bufferCapacity - Wire.headerSize) / 2 * 2

end Bus

open Bus in
structure Bus (σ : Type) where
  config : Config
  phase : Phase
  transmit : GuardedBuffer bufferCapacity
  receive : GuardedBuffer bufferCapacity
  /-- Length of the frame that waits for the chip's consent. -/
  staged : Nat
  interruptEnabled : Bool
  dispatching : Bool
  poisoned : Bool
  /-- Whether a receiver takes incoming packets. -/
  attached : Bool
  latch : Latch
  board : σ
  /-- Every call made so far, the last one first. -/
  history : List Entry

/-- Operations of the engine. -/
abbrev BusM (σ α : Type) : Type := ExceptT Bus.Failure (StateM (Bus σ)) α

namespace Bus

variable {σ α : Type}

/-- An engine that has not been attached yet. -/
def create (config : Config) (board : σ) : Bus σ where
  config := config
  phase := .powerUp
  transmit := .empty bufferCapacity
  receive := .empty bufferCapacity
  staged := 0
  interruptEnabled := false
  dispatching := false
  poisoned := false
  attached := false
  latch := {}
  board := board
  history := []

/-- An edge from the interrupt vector. -/
def signal (bus : Bus σ) : Bus σ := { bus with latch := bus.latch.signal }

/-- The state after a call and its reply, except for the bytes that came in. -/
def absorb (bus : Bus σ) (call : Call) (reply : Reply) (board : σ) : Bus σ :=
  { bus with
    transmit := (reply.transmitGuard.map bus.transmit.overrun).getD bus.transmit
    receive := (reply.receiveGuard.map bus.receive.overrun).getD bus.receive
    latch := if reply.edge then bus.latch.signal else bus.latch
    board := board
    history := ⟨call, reply, bus.latch.armed, bus.interruptEnabled⟩ :: bus.history }

/-- Makes one call, whether it succeeds or not. -/
def call [Board σ] (call : Call) : BusM σ Reply := do
  let bus ← get
  let (reply, board) := Board.respond call bus.board
  set (bus.absorb call reply board)
  return reply

/-- Fails as the hardware did. -/
def check (call : Call) (reply : Reply) : BusM σ Unit :=
  if reply.failed then throw (.hardware call) else return ()

/-- Makes one call and fails if the hardware does. -/
def demand [Board σ] (request : Call) : BusM σ Reply := do
  let reply ← call request
  check request reply
  return reply

def enterPhase (phase : Phase) : BusM σ Unit := modify ({ · with phase })

/-- Switches the interrupt, and the latch with it. -/
def enableInterrupt : BusM σ Unit :=
  modify fun bus ↦ { bus with interruptEnabled := true, latch := bus.latch.arm }

def disableInterrupt : BusM σ Unit :=
  modify fun bus ↦ { bus with interruptEnabled := false, latch := bus.latch.disarm }

def takeEdge : BusM σ Bool := do
  let bus ← get
  let (edge, latch) := bus.latch.take
  set { bus with latch }
  return edge

def lineIsLow [Board σ] : BusM σ Bool := return (← demand .sampleLine).low

/-- Stops the engine after an overrun. -/
def halt : BusM σ α := do
  modify ({ · with poisoned := true, phase := .idle })
  disableInterrupt
  throw .overrun

end Bus

end SpiWifi
