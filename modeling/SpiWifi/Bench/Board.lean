import SpiWifi.Bus.Basic
import SpiWifi.Wire.Event

/-!
A scripted board for exercising the engine: it plays back queued bytes, answers
chip-select on its line if told to, and fails or raises edges at chosen calls.
-/

set_option autoImplicit false
set_option relaxedAutoImplicit false

namespace SpiWifi.Bench

open Bus (Call Reply)

/-- What a script names a call by. -/
inductive CallKind where
  | select
  | release
  | write
  | exchange
  | flush
  | sampleLine
  | powerOn
  | powerOff
  | pause
  | deliver
  deriving DecidableEq

def CallKind.ofCall : Call → CallKind
  | .select => .select
  | .release => .release
  | .write _ => .write
  | .exchange _ => .exchange
  | .flush => .flush
  | .sampleLine => .sampleLine
  | .powerOn => .powerOn
  | .powerOff => .powerOff
  | .pauseMicros _ | .pauseMillis _ => .pause
  | .deliver _ => .deliver

/-- A call that fails `count` times after succeeding `skip` times. -/
structure Fault where
  kind : CallKind
  skip : Nat
  count : Nat

structure Board where
  lineLow : Bool := false
  selected : Bool := false
  /-- Releasing chip-select leaves the line low exactly while bytes are queued. -/
  autoRelease : Bool := true
  /-- Chip-select is answered on the line at once. -/
  answerSelect : Bool := false
  /-- Pauses until the line goes low by itself. -/
  assertAfter : Option Int := none
  /-- The next read of a frame's lead runs over the receive guard. -/
  overrunNext : Bool := false
  /-- No bytes have been exchanged since chip-select went low. -/
  freshSelect : Bool := false
  edgeOn : List CallKind := []
  faults : List Fault := []
  queued : List UInt8 := []

namespace Board

/-- What a guard byte holds once it has been run over. -/
def trampled : UInt8 := 0x21

/-- Whether the script fails a call of this kind, and the faults that remain. -/
def strike (kind : CallKind) : List Fault → Bool × List Fault
  | [] => (false, [])
  | fault :: rest =>
    if fault.kind = kind then
      if 0 < fault.skip then
        (false, { fault with skip := fault.skip - 1 } :: rest)
      else if 0 < fault.count then
        (true, { fault with count := fault.count - 1 } :: rest)
      else
        (false, fault :: rest)
    else
      let (hit, rest) := strike kind rest
      (hit, fault :: rest)

/-- Schedules a fault in place of an earlier one for the same kind of call. -/
def schedule (board : Board) (fault : Fault) : Board :=
  { board with faults := fault :: board.faults.filter (·.kind ≠ fault.kind) }

/-- The next `count` queued bytes, with zeros once there are none. -/
def nextBytes (board : Board) (count : Nat) : List UInt8 :=
  let bytes := board.queued.take count
  bytes ++ List.replicate (count - bytes.length) 0

/-- A pause brings the line's own assertion closer. -/
def elapse (board : Board) : Bool × Board :=
  match board.assertAfter with
  | none => (false, board)
  | some pauses =>
    if pauses ≤ 1 then
      (true, { board with assertAfter := none, lineLow := true })
    else
      (false, { board with assertAfter := some (pauses - 1) })

/-- A call that does not fail. -/
def perform (board : Board) : Call → Reply × Board
  | .select =>
    ({}, { board with
      selected := true
      freshSelect := true
      lineLow := board.lineLow || board.answerSelect })
  | .release =>
    ({}, { board with
      selected := false
      lineLow :=
        if board.autoRelease && board.selected then !board.queued.isEmpty else board.lineLow })
  | .exchange outgoing =>
    let count := outgoing.length
    let tramples := board.overrunNext && board.freshSelect && count == Wire.leadSize
    ({ incoming := board.nextBytes count
       receiveGuard := if tramples then some trampled else none },
      { board with
        queued := board.queued.drop count
        freshSelect := false
        overrunNext := board.overrunNext && !tramples })
  | .sampleLine => ({ low := board.lineLow }, board)
  | .pauseMicros _ | .pauseMillis _ =>
    let (edge, board) := board.elapse
    ({ edge }, board)
  | .write _ | .flush | .powerOn | .powerOff | .deliver _ => ({}, board)

/-- The power pin raises no edges, whatever the script says. -/
def raisesEdge (board : Board) (kind : CallKind) : Bool :=
  kind ≠ .powerOn && kind ≠ .powerOff && board.edgeOn.contains kind

def respond (call : Call) (board : Board) : Reply × Board :=
  let kind := CallKind.ofCall call
  let (fails, faults) := strike kind board.faults
  let board := { board with faults }
  if call.part?.isSome && fails then
    ({ failed := true }, board)
  else
    let (reply, board) := board.perform call
    ({ reply with edge := reply.edge || board.raisesEdge kind }, board)

instance : Bus.Board Board := ⟨respond⟩

/-- Queues bytes for the host to read. -/
def queue (board : Board) (bytes : List UInt8) : Board :=
  { board with queued := board.queued ++ bytes }

/-- An event as the chip frames it, cut or filled with zeros to the length that
its first bytes announce. -/
def eventFrame (event : Wire.Event) (count : UInt8) : List UInt8 :=
  let bytes := Wire.Header.encode ⟨.read, 0⟩ ++ event.packetWith count
  let total := Wire.leadSize + Wire.remainingLength (bytes.take Wire.leadSize)
  bytes.take total ++ List.replicate (total - bytes.length) 0

/-- Queues an event frame and pulls the line low. -/
def announce (board : Board) (event : Wire.Event) (count : UInt8) : Board :=
  { board.queue (eventFrame event count) with lineLow := true }

end Board

end SpiWifi.Bench
