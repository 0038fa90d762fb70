import SpiWifi.Wlan.Station.Scan

/-!
Joining a network. The chip only associates after a scan, so every attempt runs
one; an attempt that fails is followed by the next.
-/

set_option autoImplicit false
set_option relaxedAutoImplicit false

namespace SpiWifi.Wlan.Station

open Chip

variable {σ : Type} [Layer σ]

/-- Refuses a name or key that is too long; the lengths are those of the UTF-8 text. -/
def checkCredentials (name key : String) : StationM σ Unit := do
  if nameLimit < name.utf8ByteSize ∨ keyLimit < key.utf8ByteSize then
    throw .invalidArgument

/-- Asks the chip to connect. That it has connected is reported later. -/
def requestConnect (security : Security) (name key : String) : StationM σ Unit := do
  command (.setPolicy .manual)
  settle (σ := σ) (← get).config.policySettle
  command (.connectNetwork security name.toUTF8.data.toList key.toUTF8.data.toList)
  enter (σ := σ) .connecting

def connectOpen (name : String) : StationM σ Unit := do
  requireInitialized
  checkCredentials name ""
  requestConnect .unsecured name ""

def connectSecure (name key : String) (security : Security) : StationM σ Unit := do
  requireInitialized
  checkCredentials name key
  requestConnect security name key

/-- Without a key a network is taken as open. -/
def requestJoin (name key : String) (security : Security) : StationM σ Unit :=
  if security = .unsecured || key.isEmpty then
    requestConnect .unsecured name ""
  else
    requestConnect security name key

/-- One attempt to join: a scan, a request, and a wait for the link. -/
def attemptJoin (name key : String) (security : Security) : StationM σ Unit := do
  poll (σ := σ)
  discard (observing (setScanWindow (← get).config.scanWindow))
  settle (σ := σ) (← get).config.scanSettle
  discard (observing (setScanWindow 0))
  match ← observing (requestJoin name key security) with
  | .error _ => return ()
  | .ok () => discard (waitUntil (σ := σ) (← get).config.connectTimeout (·.flags.linkUp))

/-- Repeats attempts until the link is up; `spent` is the failure once the budget is gone. -/
def joinLoop (attempt : StationM σ Unit) (spent : WifiError) (budget : Nat) :
    StationM σ Unit := do
  if (← get).isLinkUp then
    return ()
  match budget with
  | 0 => throw spent
  | budget + 1 =>
    attempt
    joinLoop attempt spent budget

/-- Joins a network in at most so many attempts. With zero the number is not
limited by the network but by the caller's `patience`. -/
def join (patience : Nat) (name key : String) (security : Security) (attempts : UInt8) :
    StationM σ Unit := do
  requireInitialized
  checkCredentials name key
  if attempts = 0 then
    joinLoop (attemptJoin name key security) .outOfPatience patience
  else
    joinLoop (attemptJoin name key security) .timeout attempts.toNat
  enter (σ := σ) .connected

end SpiWifi.Wlan.Station
