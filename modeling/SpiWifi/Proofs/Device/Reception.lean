import SpiWifi.Device
import SpiWifi.Proofs.Bus.Conversation
import SpiWifi.Proofs.Bus.Interleaving
import SpiWifi.Proofs.Device.Mail
import SpiWifi.Proofs.Wire.EventFrame

/-!
A device from its chip to its inbox. Over an honest chip, and in whatever order frames come,
payloads are sent, the device is polled and the response is taken, each frame that the buffer
can hold comes to the inbox once and in its turn: as a report with just its arguments, or as a
response with all of its packet.
-/

set_option autoImplicit false
set_option relaxedAutoImplicit false

namespace SpiWifi

open Wire Bus

variable {σ : Type} [Board σ]

/-- A chip that plays its part does so with an inbox before it. -/
def Bus.HonestChip.routed (chip : HonestChip σ) : HonestChip (Routed σ) where
  queued routed := chip.queued routed.board
  selected routed := chip.selected routed.board
  push bytes routed := { routed with board := chip.push bytes routed.board }
  queued_push bytes routed := chip.queued_push bytes routed.board
  selected_push bytes routed := chip.selected_push bytes routed.board
  sound call routed := by
    cases call <;> first | exact chip.sound _ routed.board | rfl
  receiveGuard call routed := by
    cases call <;> first | exact chip.receiveGuard _ routed.board | rfl
  transmitGuard call routed := by
    cases call <;> first | exact chip.transmitGuard _ routed.board | rfl
  low routed := chip.low routed.board
  incoming outgoing routed := chip.incoming outgoing routed.board
  queued_respond call routed := by
    cases call <;> first | exact chip.queued_respond _ routed.board | rfl
  selected_respond call routed := by
    cases call <;> first | exact chip.selected_respond _ routed.board | rfl

/-- The inbox has what was handed over. -/
theorem Bus.Answered.inbox {first last : Routed σ} {calls : List Entry}
    (h : Answered first calls last) :
    last.inbox = (handedOver calls).foldl Inbox.deliver first.inbox := by
  induction calls generalizing first with
  | nil =>
    rw [show last = first from h]
    rfl
  | cons entry rest ih =>
    rw [ih h.2]
    cases hcall : entry.call <;> simp only [handedOver, List.filterMap_cons, hcall, Call.packet?] <;>
      rfl

/-- The packets that a step brings to the receiver. -/
def Bus.Ledger.fetched (ledger : Bus.Ledger) : Bus.Step → List (List UInt8)
  | .pump => ((ledger.waiting.take 1).filter (·.length ≤ bufferCapacity)).map (·.drop headerSize)
  | _ => []

theorem Bus.Ledger.packets_record (ledger : Bus.Ledger) (step : Bus.Step) :
    (ledger.record step).2.packets = ledger.packets ++ ledger.fetched step := by
  cases step with
  | pump =>
    rcases hwaiting : ledger.waiting with _ | ⟨frame, rest⟩ <;>
      simp only [record, fetched, packets, hwaiting, List.take_nil, List.take_succ_cons,
        List.take_zero, List.filter_append, List.map_append, List.filter_nil, List.map_nil,
        List.append_nil]
  | _ => exact (List.append_nil _).symm

namespace Device

/-- What can happen between the host, a device and its chip: something on the bus, where a
poll of the engine stands for one of the device, or the host takes the response. -/
inductive Step where
  | wire (step : Bus.Step)
  | take (buffer : List UInt8)
  deriving DecidableEq

namespace Step

def Valid : Step → Prop
  | .wire step => step.Valid
  | .take _ => True

def wire? : Step → Option Bus.Step
  | .wire step => some step
  | .take _ => none

end Step

/-- What the host gets from a step: if it took the response, the length of it and the buffer
that it was copied into. -/
abbrev Answer : Type := Option (Option Nat × List UInt8)

def Step.perform (chip : HonestChip σ) (device : Device σ) : Step → DeviceM σ Answer
  | .wire (.send payload) => (fun _ ↦ none) <$> Device.send payload
  | .wire .pump => (fun _ ↦ none) <$> Device.poll
  | .wire step => (fun _ ↦ none) <$> (step.action chip.routed device).perform
  | .take buffer => some <$> Device.takeResponse buffer

/-- The results of some steps, and the device after them. -/
def play (chip : HonestChip σ) (device : Device σ) :
    List Step → List (Except Failure Answer) × Device σ
  | [] => ([], device)
  | step :: rest =>
    let (result, next) := step.perform chip device device
    let (results, last) := play chip next rest
    (result :: results, last)

/-- What has happened on the bus and at the inbox. -/
structure Ledger extends Bus.Ledger where
  /-- The response that was there at first. -/
  pending : Option (List UInt8) := none
  mail : List Inbox.Mail := []
  deriving DecidableEq

namespace Ledger

/-- What the response slot holds. -/
def slot (ledger : Ledger) : Option (List UInt8) :=
  (Inbox.slots ledger.mail).getLastD ledger.pending

/-- A step as it should go, with its answer. -/
def record (ledger : Ledger) : Step → Answer × Ledger
  | .wire step =>
    (none, { ledger with
      toLedger := (ledger.toLedger.record step).2
      mail := ledger.mail ++ (ledger.toLedger.fetched step).map .arrived })
  | .take buffer =>
    (some (ledger.slot.map List.length, overlay buffer 0 (ledger.slot.getD [])),
      { ledger with mail := ledger.mail ++ [.taken] })

/-- The answers to some steps, and the ledger after them. -/
def play (ledger : Ledger) : List Step → List Answer × Ledger
  | [] => ([], ledger)
  | step :: rest =>
    let (answer, next) := ledger.record step
    let (answers, last) := next.play rest
    (answer :: answers, last)

/-- Taking the response is of no account on the bus. -/
theorem toLedger_play (ledger : Ledger) (steps : List Step) :
    (ledger.play steps).2.toLedger =
      (Bus.Ledger.play ledger.toLedger (steps.filterMap Step.wire?)).2 := by
  induction steps generalizing ledger with
  | nil => rfl
  | cons step rest ih =>
    rw [play, ih]
    cases step <;> rfl

end Ledger

variable {chip : HonestChip σ} {start device : Device σ} {ledger : Ledger}

/-- The inbox of a device in a step is the one before with what was handed over since. -/
theorem inbox_step (resting : device.Resting) (step : Bus.Step) :
    let after := ((step.action chip.routed device).perform device).2
    ∃ calls, Made device calls after ∧
      inbox after = (handedOver calls).foldl Inbox.deliver device.inbox := by
  cases step with
  | send payload =>
    have sent : Sent device payload (Bus.send payload device).1 (Bus.send payload device).2 :=
      send_ensures resting payload
    obtain ⟨calls, converses⟩ := sent.converses
    simp only [Bus.Step.action, Action.perform, map_apply]
    exact ⟨calls, converses.history, converses.answered.inbox⟩
  | queue frame => exact ⟨[], rfl, rfl⟩
  | edge => exact ⟨[], rfl, rfl⟩
  | pump =>
    have pumped : Pumped device (Bus.pump device).1 (Bus.pump device).2 :=
      pump_ensures resting.dispatching resting.staged
    obtain ⟨calls, converses, -⟩ := pumped.converses
    simp only [Bus.Step.action, Action.perform, map_apply]
    exact ⟨calls, converses.history, converses.answered.inbox⟩

/-- A poll of a device leaves it to the engine, and never fails. -/
theorem poll_apply (device : Device σ) : poll device = (.ok (), (pump device).2) := by
  have polled : Ensures poll device fun result after ↦
      result = .ok () ∧ after = (pump device).2 := by
    refine ensures_discard.mpr ?_
    unfold Ensures
    rw [observing_apply]
    exact ⟨rfl, rfl⟩
  exact Prod.ext polled.1 polled.2

/-- A step on the bus does to a device what it does to its engine. -/
theorem perform_wire (step : Bus.Step) (device : Device σ) :
    (Step.perform chip device (.wire step) device).2 =
      ((step.action chip.routed device).perform device).2 := by
  cases step with
  | send payload =>
    simp only [Step.perform, Device.send, Bus.Step.action, Action.perform, map_apply]
  | queue frame => rfl
  | edge => rfl
  | pump => simp only [Step.perform, Bus.Step.action, Action.perform, map_apply, poll_apply]

/-- The device stands where the ledger says. -/
structure Stands (chip : HonestChip σ) (start : Device σ) (ledger : Ledger) (device : Device σ) :
    Prop where
  accounts : Accounts chip.routed start ledger.toLedger device
  pending : ledger.pending = start.inbox.response
  arrivals : ledger.mail.filterMap Inbox.Mail.packet? = ledger.packets
  collected : device.inbox = ledger.mail.foldl Inbox.receive start.inbox

theorem Stands.wire {step : Bus.Step} (h : Stands chip start ledger device) (valid : step.Valid) :
    (Step.perform chip device (.wire step) device).1 = .ok none ∧
      Stands chip start (ledger.record (.wire step)).2
        (Step.perform chip device (.wire step) device).2 := by
  obtain ⟨-, accounts⟩ := h.accounts.step valid
  rw [perform_wire]
  have fetched := ledger.packets_record step
  refine ⟨?_, accounts, h.pending, ?_, ?_⟩
  · cases step with
    | send payload =>
      simp only [Step.perform, Device.send, map_apply, (h.accounts.send valid).1]
      rfl
    | queue frame => rfl
    | edge => rfl
    | pump =>
      simp only [Step.perform, map_apply, poll_apply]
      rfl
  · have arrived (packets : List (List UInt8)) :
        (packets.map Inbox.Mail.arrived).filterMap Inbox.Mail.packet? = packets := by
      rw [List.filterMap_map]
      exact List.filterMap_some
    simp only [Ledger.record, List.filterMap_append, arrived, h.arrivals]
    exact fetched.symm
  · obtain ⟨calls, made, inbox⟩ := inbox_step h.accounts.rests.resting step
    obtain ⟨before, madeBefore, -, handedBefore⟩ := h.accounts.calls
    obtain ⟨all, madeAll, -, handed⟩ := accounts.calls
    -- What was handed over in this step is what it should have fetched.
    obtain rfl := calls_unique madeAll (madeBefore.trans made)
    rw [handedOver_append, handedBefore, fetched, List.append_cancel_left_eq] at handed
    simp only [Ledger.record, List.foldl_append, List.foldl_map]
    rw [inbox, handed, h.collected]
    rfl

/-- A packet that the buffer can hold fits the response slot. -/
theorem Stands.fits (h : Stands chip start ledger device) : ∀ item ∈ ledger.mail, item.Fits := by
  intro item mem packet is
  have arrived : packet ∈ ledger.packets := by
    rw [← h.arrivals]
    exact List.mem_filterMap.mpr ⟨item, mem, is⟩
  obtain ⟨frame, read, rfl⟩ := List.mem_map.mp arrived
  have short : frame.length ≤ bufferCapacity := of_decide_eq_true (List.mem_filter.mp read).2
  rw [List.length_drop]
  simp only [bufferCapacity, Inbox.responseLimit] at short ⊢
  omega

theorem Stands.slot (h : Stands chip start ledger device) :
    (inbox device).response = ledger.slot := by
  rw [h.collected, Inbox.foldl_receive_response _ h.fits, Ledger.slot, h.pending]

theorem Stands.take (h : Stands chip start ledger device) (buffer : List UInt8) :
    (Step.perform chip device (.take buffer) device).1 = .ok (ledger.record (.take buffer)).1 ∧
      Stands chip start (ledger.record (.take buffer)).2
        (Step.perform chip device (.take buffer) device).2 := by
  have taken := Inbox.take_eq (inbox device) buffer
  have performed : Step.perform chip device (.take buffer) device =
      (.ok (some (((inbox device).take buffer).1, ((inbox device).take buffer).2.1)),
        onInbox (fun _ ↦ ((inbox device).take buffer).2.2) device) := by
    rw [Step.perform, map_apply]
    rfl
  rw [performed, taken, h.slot]
  refine ⟨rfl, ?_, h.pending, ?_, ?_⟩
  · obtain ⟨calls, made, out, handed⟩ := h.accounts.calls
    exact {
      rests := { h.accounts.rests with resting := { h.accounts.rests.resting with } }
      whole := h.accounts.whole
      queued := h.accounts.queued
      calls := ⟨calls, made, out, handed⟩ }
  · simp only [Ledger.record, List.filterMap_append, h.arrivals]
    exact List.append_nil _
  · simp only [Ledger.record, List.foldl_append, List.foldl_cons, List.foldl_nil, ← h.collected,
      Inbox.receive_taken]
    rfl

theorem Stands.step {step : Step} (h : Stands chip start ledger device) (valid : step.Valid) :
    (step.perform chip device device).1 = .ok (ledger.record step).1 ∧
      Stands chip start (ledger.record step).2 (step.perform chip device device).2 := by
  cases step with
  | wire step => exact h.wire valid
  | take buffer => exact h.take buffer

theorem Stands.play {steps : List Step} (h : Stands chip start ledger device)
    (valid : ∀ step ∈ steps, step.Valid) :
    (play chip device steps).1 = (ledger.play steps).1.map .ok ∧
      Stands chip start (ledger.play steps).2 (play chip device steps).2 := by
  induction steps generalizing ledger device with
  | nil => exact ⟨rfl, h⟩
  | cons step rest ih =>
    obtain ⟨first, others⟩ := List.forall_mem_cons.mp valid
    obtain ⟨result, stands⟩ := h.step first
    obtain ⟨results, last⟩ := ih stands others
    exact ⟨congr (congrArg List.cons result) results, last⟩

/-- Every frame that the chip has queued is as long as it announces. -/
theorem whole_consumed {ledger : Ledger} {waiting : List (List UInt8)} {steps : List Step}
    (booked : ledger.consumed ++ ledger.waiting = waiting ++ frames (steps.filterMap Step.wire?))
    (whole : ∀ frame ∈ waiting, WellFormed frame) (valid : ∀ step ∈ steps, step.Valid) :
    ∀ frame ∈ ledger.consumed, WellFormed frame := by
  intro frame mem
  have queued : frame ∈ waiting ++ frames (steps.filterMap Step.wire?) := by
    rw [← booked]
    exact List.mem_append_left _ mem
  rcases List.mem_append.mp queued with old | new
  · exact whole frame old
  · obtain ⟨step, wired, is⟩ := List.mem_filterMap.mp new
    obtain ⟨other, made, wire⟩ := List.mem_filterMap.mp wired
    have possible := valid other made
    cases other with
    | take buffer => cases wire
    | wire step =>
      obtain rfl := Option.some.inj wire
      cases step with
      | queue queued =>
        obtain rfl := Option.some.inj is
        exact possible
      | _ => cases is

/-- What the chip sends comes to the host as it should, whatever else goes on. Assumes: a device
that is open and at rest over an honest chip, which may have whole frames queued already;
payloads that fit; frames as long as they announce. Then in any order of sends, frames, edges,
polls and takings of the response: every step has the result that the ledger says, and the frames
read and those still waiting are the frames queued, in order. What arrives at the inbox are the
packets of the frames read that the buffer can hold. The record is the first one with the
chip's own reports among them applied in turn, and such a frame is laid out byte by byte as its
event with all of its arguments and no pad byte. The response is the last other packet, whole,
unless it was taken since, and the count has grown by the packets that another one replaced, as
far as it can count. -/
theorem play_received (chip : HonestChip σ) (start : Device σ) (waiting : List (List UInt8))
    (steps : List Step) (rest : AtRest chip.routed start)
    (queued : chip.queued start.board.board = waiting.flatten)
    (whole : ∀ frame ∈ waiting, WellFormed frame) (valid : ∀ step ∈ steps, step.Valid) :
    let device := (play chip start steps).2
    let ledger := (Ledger.play { waiting, pending := start.inbox.response } steps).2
    (play chip start steps).1 =
        (Ledger.play { waiting, pending := start.inbox.response } steps).1.map .ok ∧
      ledger.consumed ++ ledger.waiting = waiting ++ frames (steps.filterMap Step.wire?) ∧
      ledger.mail.filterMap Inbox.Mail.packet? =
        (ledger.consumed.filter (·.length ≤ bufferCapacity)).map (·.drop headerSize) ∧
      (∀ frame ∈ ledger.consumed, ∀ event, Inbox.unsolicited? (frame.drop headerSize) = some event ↔
        Carries frame event ∧ event.isUnsolicited = true) ∧
      device.inbox.record = (Inbox.reports ledger.mail).foldl Inbox.report start.inbox.record ∧
      device.inbox.response = (Inbox.slots ledger.mail).getLastD start.inbox.response ∧
      device.inbox.dropped.toNat =
        min (start.inbox.dropped.toNat +
          Inbox.replaced (start.inbox.response :: Inbox.slots ledger.mail)) (UInt32.size - 1) ∧
      chip.queued device.board.board = ledger.waiting.flatten ∧ AtRest chip.routed device := by
  intro device ledger
  have opened : Stands chip start { waiting, pending := start.inbox.response } start :=
    { accounts := ⟨rest, whole, queued, [], rfl, rfl, rfl⟩
      pending := rfl
      arrivals := rfl
      collected := rfl }
  obtain ⟨results, stands⟩ := opened.play valid
  have booked : ledger.consumed ++ ledger.waiting =
      waiting ++ frames (steps.filterMap Step.wire?) := by
    show ledger.toLedger.consumed ++ ledger.toLedger.waiting = _
    rw [Ledger.toLedger_play]
    exact Bus.Ledger.consumed_play _ _
  refine ⟨results, booked, stands.arrivals, fun frame mem event ↦ ?_, ?_, ?_, ?_,
    stands.accounts.queued, stands.accounts.rests⟩
  · rw [Inbox.unsolicited?, Option.filter_eq_some_iff,
      ofPacket?_drop_eq_some_iff (whole_consumed booked whole valid frame mem)]
  · rw [stands.collected, Inbox.foldl_receive_record]
  · rw [stands.collected, Inbox.foldl_receive_response _ stands.fits]
  · rw [stands.collected, Inbox.foldl_receive_dropped _ stands.fits]

/-! ### A device over the simplest honest chip -/

namespace QueueChip

open Bus.QueueChip

/-- A device whose first frame is out, with an event waiting and edges at every other call from
now on. -/
def settled : Device QueueChip :=
  (run (create {} { board := {} }) [.attach, .edge, .pump, .send []]).drifted
    { board := { queued := eventFrame, edges := (List.replicate 30 [true, false]).flatten } }

theorem settled_rests : AtRest honest.routed settled where
  resting := ⟨Or.inr (Or.inr (by decide +kernel)), by decide +kernel, by decide +kernel⟩
  idle := by decide +kernel
  enabled := by decide +kernel
  sound := by decide +kernel
  attached := by decide +kernel
  transmit := by decide +kernel
  receive := by decide +kernel
  released := rfl

/-- A data frame of one byte. -/
def dataFrame : List UInt8 := [3, 0, 0, 0, 0, 2, 0, 0, 1, 0, 9]

/-- A report, a frame that is too long, and two responses, of which the second is taken. -/
def traffic : List Step :=
  [.wire (.queue longFrame), .wire (.queue dataFrame), .wire (.send [1, 2, 3]), .wire .pump,
    .wire .pump, .wire .edge, .wire .pump, .wire (.queue dataFrame), .wire .pump, .take [0, 0]]

theorem traffic_valid : ∀ step ∈ traffic, step.Valid := by
  simp only [traffic, List.forall_mem_cons, List.not_mem_nil, false_implies, implies_true, and_true,
    Step.Valid, Bus.Step.Valid, WellFormed, true_and]
  decide +kernel

/-- The report is in the record, and the first response was dropped for the second. -/
theorem play_received_traffic :
    (play honest settled traffic).1 =
        List.replicate 9 (.ok none) ++ [.ok (some (some 6, [2, 0]))] ∧
      let device := (play honest settled traffic).2
      device.inbox.record.flags.leased = true ∧ device.inbox.response = none ∧
        device.inbox.dropped.toNat = 1 := by
  have whole : ∀ frame ∈ [eventFrame], WellFormed frame := by
    simp only [List.forall_mem_singleton, WellFormed]
    decide +kernel
  obtain ⟨results, -, -, -, record, response, dropped, -, -⟩ :=
    play_received honest settled [eventFrame] traffic settled_rests (by decide +kernel) whole
      traffic_valid
  have answers : (Ledger.play { waiting := [eventFrame], pending := settled.inbox.response }
      traffic).1 = List.replicate 9 none ++ [some (some 6, [2, 0])] := by
    decide +kernel
  rw [answers] at results
  refine ⟨results, ?_, response.trans (by decide +kernel),
    dropped.trans (by decide +kernel)⟩
  rw [record]
  decide +kernel

end QueueChip

end Device

end SpiWifi
