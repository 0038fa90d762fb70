import SpiWifi.Chip.Command
import SpiWifi.Events.Record
import SpiWifi.Saturating

/-!
The host's side of the command layer: the record of what the chip has reported,
kept up to date by every request, and the waits that poll the chip until the
record shows what they wait for.
-/

set_option autoImplicit false
set_option relaxedAutoImplicit false

namespace SpiWifi

open Chip in
structure Host (σ : Type) where
  layer : σ
  record : Events.Record := {}
  /-- Every request made so far, the last one first. -/
  history : List Exchange := []

abbrev HostM (σ α : Type) : Type := StateM (Host σ) α

namespace Host

open Chip

variable {σ : Type}

/-- Applies reports in the order they came in. -/
def applyNotices (record : Events.Record) (notices : List Notice) : Events.Record :=
  notices.foldl (fun record notice ↦ record.apply notice.opcode notice.args) record

def ask [Layer σ] (request : Request) : HostM σ request.Answer := do
  let host ← get
  let (outcome, layer) := Layer.respond request host.layer
  set { host with
    layer
    record := applyNotices host.record outcome.notices
    history := ⟨request, outcome⟩ :: host.history }
  return outcome.answer

def poll [Layer σ] : HostM σ Unit := ask .poll

def pause [Layer σ] (millis : UInt32) : HostM σ Unit := ask (.pause millis)

def command [Layer σ] (command : Command) : HostM σ (Except Status command.Answer) :=
  ask (.command command)

/-- Runs a command whose failure changes nothing for the caller. -/
def tryCommand [Layer σ] (request : Command) : HostM σ Unit := discard (command request)

/-- Whether the record shows something now. -/
def shows (view : Events.Record → Bool) : HostM σ Bool := return view (← get).record

def onRecord (f : Events.Record → Events.Record) : HostM σ Unit :=
  modify fun host ↦ { host with record := f host.record }

/-- Polls until the record shows `done`. Of the budget `timeout` the wait has used
`waited`; between two polls it pauses for `step`, at least for one millisecond,
and never past the budget. -/
def waitLoop [Layer σ] (done : Events.Record → Bool) (step timeout waited : UInt32) :
    HostM σ Bool := do
  poll
  if done (← get).record then
    return true
  if _ : waited < timeout then
    pause (min (max step 1) (timeout - waited))
    waitLoop done step timeout (saturatingAdd waited (min (max step 1) (timeout - waited)))
  else
    return false
termination_by timeout.toNat - waited.toNat
decreasing_by
  rename_i h
  have := lt_saturatingAdd h (zero_lt_min (zero_lt_max_one step) (zero_lt_sub h))
  have := UInt32.lt_iff_toNat_lt.mp h
  omega

end Host

end SpiWifi
