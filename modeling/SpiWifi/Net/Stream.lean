import SpiWifi.Net.Client

/-!
A client seen as a byte stream: a reset by the peer reads as the end of the
stream, and errors fall into the kinds that streams know.
-/

set_option autoImplicit false
set_option relaxedAutoImplicit false

namespace SpiWifi.Net

inductive ErrorKind where
  | notConnected
  | connectionReset
  | outOfMemory
  | other
  deriving DecidableEq

def SocketError.kind : SocketError → ErrorKind
  | .notOpen => .notConnected
  | .closed => .connectionReset
  | .exhausted => .outOfMemory
  | .command _ | .outOfPatience => .other

namespace Stream

variable {σ : Type} [Chip.Layer σ]

def read (patience size : Nat) : SocketM σ (List UInt8) :=
  tryCatch (Client.read patience size) fun
    | .closed => return []
    | error => throw error

/-- Sends once; no data are taken as sent without asking the chip. -/
def write (data : List UInt8) : SocketM σ Nat :=
  if data.isEmpty then return 0 else Client.write data

/-- Nothing is held back, so there is nothing to do. -/
def flush : SocketM σ Unit := return ()

end Stream

end SpiWifi.Net
