import SpiWifi.Events.PingReport
import SpiWifi.Wire.Event

/-!
What the chip has reported on its own initiative: four status flags, which
sockets the peer has closed, and the last ping report with the number of reports
since it was last reset. An opcode that is not listed changes nothing.
-/

set_option autoImplicit false
set_option relaxedAutoImplicit false

namespace SpiWifi.Events

open Wire

structure StatusFlags where
  smartConfigDone : Bool := false
  linkUp : Bool := false
  leased : Bool := false
  mayShutDown : Bool := false
  deriving DecidableEq

namespace StatusFlags

/-- The flags as the low four bits of a byte, in the order of the fields. -/
def bits (flags : StatusFlags) : UInt8 :=
  (if flags.smartConfigDone then 1 else 0) + (if flags.linkUp then 2 else 0) +
    (if flags.leased then 4 else 0) + (if flags.mayShutDown then 8 else 0)

/-- Reads the low four bits and drops the others. -/
def ofBits (bits : UInt8) : StatusFlags where
  smartConfigDone := bits &&& 1 != 0
  linkUp := bits &&& 2 != 0
  leased := bits &&& 4 != 0
  mayShutDown := bits &&& 8 != 0

/-- Whether all the wanted flags are set. -/
def contains (flags wanted : StatusFlags) : Bool :=
  (!wanted.smartConfigDone || flags.smartConfigDone) && (!wanted.linkUp || flags.linkUp) &&
    (!wanted.leased || flags.leased) && (!wanted.mayShutDown || flags.mayShutDown)

/-- The flags are looked up with the wanted ones as a mask. -/
theorem contains_eq (flags wanted : StatusFlags) :
    flags.contains wanted = (flags.bits &&& wanted.bits == wanted.bits) := by
  obtain ⟨smartConfigDone, linkUp, leased, mayShutDown⟩ := flags
  obtain ⟨wantsDone, wantsLink, wantsLease, wantsShutDown⟩ := wanted
  revert smartConfigDone linkUp leased mayShutDown wantsDone wantsLink wantsLease wantsShutDown
  decide

/-- The bits that a report sets. -/
def raised (opcode : UInt16) : UInt8 :=
  if opcode = Opcode.smartConfigDone then 1
  else if opcode = Opcode.linkUp then 2
  else if opcode = Opcode.leaseBound then 4
  else if opcode = Opcode.mayShutDown then 8
  else 0

/-- The bits that a report clears. -/
def cleared (opcode : UInt16) : UInt8 := if opcode = Opcode.linkDown then 6 else 0

end StatusFlags

/-- Sockets whose closing by the peer is remembered. -/
def socketCount : Nat := 4

structure Record where
  flags : StatusFlags := {}
  closed : Vector Bool socketCount := Vector.replicate socketCount false
  ping : PingReport := {}
  /-- Ping reports since the last reset, modulo 2^32. -/
  pingCount : UInt32 := 0
  deriving DecidableEq

namespace Record

/-- Marks a socket as closed by its peer, or as open again; other numbers are ignored. -/
def markClosed (record : Record) (socket : Nat) (mark : Bool) : Record :=
  { record with closed := record.closed.setIfInBounds socket mark }

def isClosed (record : Record) (socket : Nat) : Bool := record.closed.getD socket false

/-- Applies one report of the chip. -/
def apply (record : Record) (opcode : UInt16) (args : List UInt8) : Record :=
  if opcode = Opcode.smartConfigDone then
    { record with flags.smartConfigDone := true }
  else if opcode = Opcode.linkUp then
    { record with flags.linkUp := true }
  else if opcode = Opcode.linkDown then
    { record with flags.linkUp := false, flags.leased := false }
  else if opcode = Opcode.leaseBound then
    { record with flags.leased := true }
  else if opcode = Opcode.mayShutDown then
    { record with flags.mayShutDown := true }
  else if opcode = Opcode.pingReport then
    { record with ping := PingReport.decode args, pingCount := record.pingCount + 1 }
  else if opcode = Opcode.peerClosed then
    match args with
    | [] => record
    | socket :: _ => record.markClosed socket.toNat true
  else
    record

/-- A report sets and clears bits of the status byte, each with its own mask. -/
theorem bits_apply (record : Record) (opcode : UInt16) (args : List UInt8) :
    (record.apply opcode args).flags.bits =
      record.flags.bits &&& ~~~StatusFlags.cleared opcode ||| StatusFlags.raised opcode := by
  have flagged (change : StatusFlags → StatusFlags) (report : UInt16)
      (masked : ∀ a b c d, (change ⟨a, b, c, d⟩).bits = StatusFlags.bits ⟨a, b, c, d⟩ &&&
        ~~~StatusFlags.cleared report ||| StatusFlags.raised report) :
      (change record.flags).bits =
        record.flags.bits &&& ~~~StatusFlags.cleared report ||| StatusFlags.raised report :=
    masked _ _ _ _
  unfold apply
  split
  · next report =>
    subst report
    exact flagged ({ · with smartConfigDone := true }) _ (by decide)
  split
  · next report =>
    subst report
    exact flagged ({ · with linkUp := true }) _ (by decide)
  split
  · next report =>
    subst report
    exact flagged ({ · with linkUp := false, leased := false }) _ (by decide)
  split
  · next report =>
    subst report
    exact flagged ({ · with leased := true }) _ (by decide)
  split
  · next report =>
    subst report
    exact flagged ({ · with mayShutDown := true }) _ (by decide)
  · next done up down bound shut =>
    have unmasked : record.flags.bits &&& ~~~StatusFlags.cleared opcode |||
        StatusFlags.raised opcode = record.flags.bits := by
      rw [StatusFlags.cleared, StatusFlags.raised, if_neg down, if_neg done, if_neg up,
        if_neg bound, if_neg shut]
      generalize record.flags = flags
      obtain ⟨smartConfigDone, linkUp, leased, mayShutDown⟩ := flags
      revert smartConfigDone linkUp leased mayShutDown
      decide
    rw [unmasked]
    split
    · rfl
    · split
      · split <;> rfl
      · rfl

/-- Clears the status flags and nothing else. -/
def clearFlags (record : Record) : Record := { record with flags := {} }

def resetPing (record : Record) : Record := { record with ping := {}, pingCount := 0 }

end Record

end SpiWifi.Events
