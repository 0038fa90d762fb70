import SpiWifi.Bench.Board

/-!
A history of calls condensed for reading: runs of equal pauses and of equal
reads become one line each, and samples of the line that succeed are left out.
-/

set_option autoImplicit false
set_option relaxedAutoImplicit false

namespace SpiWifi.Bench

open Bus (Call Entry)

inductive PauseUnit where
  | micros
  | millis
  deriving DecidableEq

inductive BusLine where
  | plain (kind : CallKind)
  | failed (kind : CallKind)
  | wrote (bytes : List UInt8)
  | exchanged (outgoing : List UInt8) (times : Nat)
  | paused (unit : PauseUnit) (calls total : Nat)
  deriving DecidableEq

namespace BusLine

/-- The line of a single call, unless it leaves none. -/
def ofEntry? (entry : Entry) : Option BusLine :=
  if entry.reply.failed then
    some (.failed (CallKind.ofCall entry.call))
  else
    match entry.call with
    | .sampleLine | .deliver _ => none
    | .write bytes => some (.wrote bytes)
    | .exchange outgoing => some (.exchanged outgoing 1)
    | .pauseMicros duration => some (.paused .micros 1 duration.toNat)
    | .pauseMillis duration => some (.paused .millis 1 duration.toNat)
    | call => some (.plain (CallKind.ofCall call))

/-- Two lines in a row as one, where they say the same. -/
def merge? : BusLine → BusLine → Option BusLine
  | .exchanged first times, .exchanged second more =>
    if first = second then some (.exchanged first (times + more)) else none
  | .paused first calls total, .paused second moreCalls more =>
    if first = second then some (.paused first (calls + moreCalls) (total + more)) else none
  | _, _ => none

/-- Adds a line in front of those that come after it. -/
def prepend (line : BusLine) : List BusLine → List BusLine
  | [] => [line]
  | next :: rest =>
    match merge? line next with
    | some merged => merged :: rest
    | none => line :: next :: rest

/-- The condensed lines of a history, the first call first. -/
def ofHistory (history : List Entry) : List BusLine :=
  (history.filterMap ofEntry?).foldl (fun lines line ↦ line.prepend lines) []

end BusLine

/-- The packets a history delivered, each with whether the latch was armed. -/
def deliveries (history : List Entry) : List (List UInt8 × Bool) :=
  history.reverse.filterMap fun entry ↦
    match entry.call with
    | .deliver packet => some (packet, entry.armed)
    | _ => none

/-- How often a history read the level of the line. -/
def lineSamples (history : List Entry) : Nat :=
  history.countP fun entry ↦ entry.call = .sampleLine && !entry.reply.failed

end SpiWifi.Bench
