import SpiWifi.Bus.Basic

/-!
Clocking bytes out of the transmit buffer and into the receive buffer, and the
end of a transaction: chip-select goes high, the engine is idle, and of two
failures the first is reported.
-/

set_option autoImplicit false
set_option relaxedAutoImplicit false

namespace SpiWifi.Bus

variable {σ : Type} [Board σ]

/-- Clocks out bytes `start` to `stop` of the transmit buffer. -/
def clockOut (start stop : Nat) : BusM σ Unit := do
  match (← get).transmit.window? start stop with
  | none => throw .outOfWindow
  | some bytes =>
    discard (demand (.write bytes))
    discard (demand .flush)

/-- Clocks in bytes `start` to `stop` of the receive buffer. The window holds the
fill byte first, and what came in is stored even if the call fails. -/
def clockIn (start stop : Nat) : BusM σ Unit := do
  match (← get).receive.window? start stop with
  | none => throw .outOfWindow
  | some old =>
    let outgoing := List.replicate old.length Wire.readFill
    modify fun bus ↦ { bus with receive := bus.receive.put start outgoing }
    let reply ← call (.exchange outgoing)
    modify fun bus ↦
      { bus with receive := bus.receive.put start (reply.incoming.take outgoing.length) }
    check (.exchange outgoing) reply
    discard (demand .flush)

/-- Bytes that are clocked in and thrown away at a time. -/
def drainChunk : Nat := 16

/-- Clocks in `count` bytes and throws them away, so that the next frame starts
where the chip starts it. -/
def drain (count : Nat) : BusM σ Unit := do
  if count = 0 then
    discard (demand .flush)
  else
    discard (demand (.exchange (List.replicate (min count drainChunk) Wire.readFill)))
    drain (count - drainChunk)
termination_by count
decreasing_by
  simp only [drainChunk]
  omega

/-- Ends the transaction: the engine is idle, and chip-select is released. The
failure of `body` comes before that of the release. -/
def conclude (body : Except Failure Unit) : BusM σ Unit := do
  enterPhase .idle
  let reply ← call .release
  match body with
  | .error failure => throw failure
  | .ok () => check .release reply

/-- Drops a transaction that is still in flight; a failing release is ignored. -/
def abort : BusM σ Unit := do
  if (← get).phase.inFlight then
    discard (call .release)
    enterPhase .idle

/-- Unwinds a staged write, so that the next operation starts idle with the
interrupt enabled. -/
def abandon {α : Type} (failure : Failure) : BusM σ α := do
  abort
  unless (← get).poisoned do enableInterrupt
  throw failure

end SpiWifi.Bus
