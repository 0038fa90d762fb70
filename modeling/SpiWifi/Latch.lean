/-!
The edge latch between the interrupt vector and the bus engine. Edges seen while
it is disarmed are lost, and disarming forgets an edge that was not yet taken.
-/

set_option autoImplicit false
set_option relaxedAutoImplicit false

namespace SpiWifi

structure Latch where
  armed : Bool := false
  pending : Bool := false
  deriving DecidableEq

namespace Latch

/-- An edge on the line. -/
def signal (latch : Latch) : Latch := { latch with pending := latch.pending || latch.armed }

def arm (latch : Latch) : Latch := { latch with armed := true }

def disarm (_ : Latch) : Latch := {}

/-- Hands over the pending edge, if there is one. -/
def take (latch : Latch) : Bool × Latch := (latch.pending, { latch with pending := false })

/-- What can happen to a latch, as a value: histories are lists of these. -/
inductive Action where
  | signal
  | arm
  | disarm
  | take
  deriving DecidableEq

/-- One action, with the answer of a `take`. -/
def act (latch : Latch) : Action → Option Bool × Latch
  | .signal => (none, latch.signal)
  | .arm => (none, latch.arm)
  | .disarm => (none, latch.disarm)
  | .take => (some latch.take.1, latch.take.2)

end Latch

end SpiWifi
