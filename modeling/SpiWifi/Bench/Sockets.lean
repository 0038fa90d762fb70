import SpiWifi.Net.Server

/-!
A table of clients next to one server, for scripts that name a client by its
place in either.
-/

set_option autoImplicit false
set_option relaxedAutoImplicit false

namespace SpiWifi.Bench

open Net

structure Sockets where
  clients : List Client
  server : Server

inductive ClientName where
  | variable (index : Nat)
  /-- A slot of the server. -/
  | slot (index : Nat)
  deriving DecidableEq

namespace Sockets

/-- Four clients without a socket, and a server that does not listen. -/
def create (port : UInt16) : Sockets where
  clients := List.replicate 4 {}
  server := { port }

def get? (sockets : Sockets) : ClientName → Option Client
  | .variable index => sockets.clients[index]?
  | .slot index => sockets.server.client? (some index)

/-- Puts a client in a place; a place that does not exist is left out. -/
def put (sockets : Sockets) (client : Client) : ClientName → Sockets
  | .variable index => { sockets with clients := sockets.clients.set index client }
  | .slot index =>
    let clients := sockets.server.clients.set index client
    { sockets with server := sockets.server.reseat clients List.length_set }

end Sockets

end SpiWifi.Bench
