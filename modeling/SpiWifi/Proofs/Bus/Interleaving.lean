import SpiWifi.Proofs.Bus.HonestChip

/-!
Writes, frames from the chip, edges and polls in any order. Over an honest chip nothing
is lost and nothing is mixed up: every payload goes out in its own frame, every frame of
the chip is read whole and in its turn, and the receiver gets each packet that the buffer
can hold.
-/

set_option autoImplicit false
set_option relaxedAutoImplicit false

namespace SpiWifi.Bus

open Wire

/-- What can happen between the host and an honest chip. -/
inductive Step where
  | send (payload : List UInt8)
  /-- The chip has a frame for the host. -/
  | queue (frame : List UInt8)
  | edge
  | pump
  deriving DecidableEq

/-- The payload is one that the buffer can hold, the frame one that the chip can send. -/
def Step.Valid : Step → Prop
  | .send payload => payload.length ≤ payloadLimit
  | .queue frame => WellFormed frame
  | .edge | .pump => True

/-- What has been sent, and which frames of the chip have been read. -/
structure Ledger where
  sent : List (List UInt8) := []
  consumed : List (List UInt8) := []
  waiting : List (List UInt8) := []
  deriving DecidableEq

namespace Ledger

/-- A step as it should go, with its result. A poll reads the frame that has waited
longest, and reports one that the buffer cannot hold. -/
def record (ledger : Ledger) : Step → Except Failure (Option Bool) × Ledger
  | .send payload => (.ok none, { ledger with sent := ledger.sent ++ [payload] })
  | .queue frame => (.ok none, { ledger with waiting := ledger.waiting ++ [frame] })
  | .edge => (.ok none, ledger)
  | .pump =>
    match ledger.waiting with
    | [] => (.ok (some false), ledger)
    | frame :: rest =>
      (if frame.length ≤ bufferCapacity then .ok (some true) else .error .tooLong,
        { ledger with consumed := ledger.consumed ++ [frame], waiting := rest })

/-- The results of some steps, and the ledger after them. -/
def play (ledger : Ledger) : List Step → List (Except Failure (Option Bool)) × Ledger
  | [] => ([], ledger)
  | step :: rest =>
    let (result, next) := ledger.record step
    let (results, last) := next.play rest
    (result :: results, last)

/-- The packets of the frames that were read and that the buffer can hold. -/
def packets (ledger : Ledger) : List (List UInt8) :=
  (ledger.consumed.filter (·.length ≤ bufferCapacity)).map (·.drop headerSize)

end Ledger

/-- The payloads that some steps send. -/
def payloads (steps : List Step) : List (List UInt8) :=
  steps.filterMap fun step ↦
    match step with
    | .send payload => some payload
    | _ => none

/-- The frames that the chip queues during some steps. -/
def frames (steps : List Step) : List (List UInt8) :=
  steps.filterMap fun step ↦
    match step with
    | .queue frame => some frame
    | _ => none

namespace Ledger

/-- Payloads are booked as they are sent. -/
theorem sent_play (ledger : Ledger) (steps : List Step) :
    (ledger.play steps).2.sent = ledger.sent ++ payloads steps := by
  induction steps generalizing ledger with
  | nil => exact (List.append_nil _).symm
  | cons step rest ih =>
    rw [play, ih]
    cases step with
    | send payload => exact List.append_assoc _ [payload] _
    | queue frame => rfl
    | edge => rfl
    | pump =>
      rcases hwaiting : ledger.waiting with _ | ⟨frame, more⟩ <;>
        simp only [record, hwaiting] <;> rfl

/-- Frames are booked in the order in which the chip queues them. -/
theorem consumed_play (ledger : Ledger) (steps : List Step) :
    (ledger.play steps).2.consumed ++ (ledger.play steps).2.waiting =
      ledger.consumed ++ ledger.waiting ++ frames steps := by
  induction steps generalizing ledger with
  | nil => exact (List.append_nil _).symm
  | cons step rest ih =>
    rw [play, ih]
    cases step with
    | send payload => rfl
    | queue frame =>
      simp only [record, frames, List.filterMap_cons, List.append_assoc, List.singleton_append]
    | edge => rfl
    | pump =>
      rcases hwaiting : ledger.waiting with _ | ⟨frame, more⟩
      · simp only [record, hwaiting]
        rfl
      · simp only [record, hwaiting, List.append_assoc, List.singleton_append]
        rfl

end Ledger

variable {σ : Type} [Board σ] (chip : HonestChip σ)

/-- A step as something that happens to the engine. -/
def Step.action (bus : Bus σ) : Step → Action σ
  | .send payload => .send payload
  | .queue frame => .drift (chip.push frame bus.board)
  | .edge => .edge
  | .pump => .pump

/-- The results of some steps, and the engine after them. -/
def play (bus : Bus σ) : List Step → List (Except Failure (Option Bool)) × Bus σ
  | [] => ([], bus)
  | step :: rest =>
    let (result, next) := (step.action chip bus).perform bus
    let (results, last) := play next rest
    (result :: results, last)

/-- The engine stands where the ledger says. -/
structure Accounts (start : Bus σ) (ledger : Ledger) (bus : Bus σ) : Prop where
  rests : AtRest chip bus
  whole : ∀ frame ∈ ledger.waiting, WellFormed frame
  queued : chip.queued bus.board = ledger.waiting.flatten
  calls : ∃ calls, Made start calls bus ∧ written calls = ledger.sent.flatMap frameOf ∧
    handedOver calls = ledger.packets

variable {chip} {start bus : Bus σ} {ledger : Ledger}

theorem Accounts.send {payload : List UInt8} (h : Accounts chip start ledger bus)
    (fits : payload.length ≤ payloadLimit) :
    (send payload bus).1 = .ok () ∧
      Accounts chip start { ledger with sent := ledger.sent ++ [payload] }
        (send payload bus).2 := by
  have sent : Sent bus payload (Bus.send payload bus).1 (Bus.send payload bus).2 :=
    send_ensures h.rests.resting payload
  obtain ⟨ok, rests, calls, plays, clocked, out, handed⟩ := sent.honest h.rests fits
  obtain ⟨before, made, sentBefore, handedBefore⟩ := h.calls
  refine ⟨ok, rests, h.whole, ?_, before ++ calls, made.trans plays.history, ?_, ?_⟩
  · have queued : chip.queued (Bus.send payload bus).2.board = _ := plays.queued
    rw [queued, clocked]
    exact h.queued
  · rw [written_append, sentBefore, out, List.flatMap_append, List.flatMap_singleton]
  · rw [handedOver_append, handedBefore, handed, List.append_nil]
    rfl

theorem Accounts.queue {frame : List UInt8} (h : Accounts chip start ledger bus)
    (whole : WellFormed frame) :
    Accounts chip start { ledger with waiting := ledger.waiting ++ [frame] }
      (bus.drifted (chip.push frame bus.board)) where
  rests := { h.rests with
    resting := { h.rests.resting with }
    released := (chip.selected_push frame bus.board).trans h.rests.released }
  whole := List.forall_mem_append.mpr ⟨h.whole, List.forall_mem_singleton.mpr whole⟩
  queued := by
    rw [List.flatten_append, List.flatten_singleton, ← h.queued]
    exact chip.queued_push frame bus.board
  calls := h.calls

theorem Accounts.edge (h : Accounts chip start ledger bus) :
    Accounts chip start ledger bus.signal where
  rests := { h.rests with resting := { h.rests.resting with } }
  whole := h.whole
  queued := h.queued
  calls := h.calls

theorem Accounts.pump (h : Accounts chip start ledger bus) :
    (pump bus).1.map some = (ledger.record .pump).1 ∧
      Accounts chip start (ledger.record .pump).2 (pump bus).2 := by
  have pumped : Pumped bus (Bus.pump bus).1 (Bus.pump bus).2 :=
    pump_ensures h.rests.resting.dispatching h.rests.resting.staged
  obtain ⟨before, made, sentBefore, handedBefore⟩ := h.calls
  rcases hwaiting : ledger.waiting with _ | ⟨frame, more⟩
  · simp only [Ledger.record, hwaiting]
    have queued := h.queued
    rw [hwaiting] at queued
    obtain ⟨result, rests, calls, plays, script⟩ := pumped.honest_nil h.rests queued
    refine ⟨?_, rests, h.whole, ?_, before ++ calls, made.trans plays.history, ?_, ?_⟩
    · rw [result]
      rfl
    · have after : chip.queued (Bus.pump bus).2.board = _ := plays.queued
      rw [after, clockedIn_of_map script]
      exact h.queued
    · rw [written_append, sentBefore, written_of_map script]
      exact List.append_nil _
    · rw [handedOver_append, handedBefore, handedOver_of_map script]
      exact List.append_nil _
  · simp only [Ledger.record, hwaiting]
    have queued := h.queued
    have whole := h.whole
    rw [hwaiting] at queued whole
    obtain ⟨wellFormed, rest⟩ := List.forall_mem_cons.mp whole
    obtain ⟨result, rests, calls, plays, script⟩ := pumped.honest_cons h.rests queued wellFormed
    obtain ⟨out, handed⟩ := readScript_traffic frame
    refine ⟨?_, rests, rest, ?_, before ++ calls, made.trans plays.history, ?_, ?_⟩
    · rw [result, readResult]
      split <;> rfl
    · have after : chip.queued (Bus.pump bus).2.board = _ := plays.queued
      have width : clockedIn calls = frame.length := by
        rw [clockedIn_of_map script, width, width_readScript wellFormed]
        exact Nat.zero_add _
      rw [after, width, show chip.queued bus.world.board = _ from queued]
      exact List.drop_left' rfl
    · rw [written_append, sentBefore, written_of_map script, List.flatMap_cons, out]
      exact List.append_nil _
    · rw [handedOver_append, handedBefore, handedOver_of_map script, List.filterMap_cons, handed]
      simp only [Ledger.packets, List.filter_append, List.map_append]
      by_cases fits : frame.length ≤ bufferCapacity
      · simp [fits, Call.packet?]
      · simp [fits, Call.packet?]

theorem Accounts.step {step : Step} (h : Accounts chip start ledger bus) (valid : step.Valid) :
    ((step.action chip bus).perform bus).1 = (ledger.record step).1 ∧
      Accounts chip start (ledger.record step).2 ((step.action chip bus).perform bus).2 := by
  cases step with
  | send payload =>
    obtain ⟨ok, accounts⟩ := h.send valid
    simp only [Step.action, Action.perform, map_apply, ok]
    exact ⟨rfl, accounts⟩
  | queue frame => exact ⟨rfl, h.queue valid⟩
  | edge => exact ⟨rfl, h.edge⟩
  | pump =>
    simp only [Step.action, Action.perform, map_apply]
    exact h.pump

theorem Accounts.play {steps : List Step} (h : Accounts chip start ledger bus)
    (valid : ∀ step ∈ steps, step.Valid) :
    (play chip bus steps).1 = (ledger.play steps).1 ∧
      Accounts chip start (ledger.play steps).2 (play chip bus steps).2 := by
  induction steps generalizing ledger bus with
  | nil => exact ⟨rfl, h⟩
  | cons step rest ih =>
    obtain ⟨first, others⟩ := List.forall_mem_cons.mp valid
    obtain ⟨result, accounts⟩ := h.step first
    obtain ⟨results, last⟩ := ih accounts others
    exact ⟨congr (congrArg List.cons result) results, last⟩

/-- Writes and reads share one engine, one latch and one line, and still nothing is lost.
Assumes: an engine at rest, over an honest chip that has nothing queued yet; payloads that fit;
frames as long as they announce. Then, whatever the order of the steps and wherever an edge comes,
every payload is sent and the bytes written are those of its frame; a poll reads the frame that
has waited longest, if there is one, and fails only for a frame that is too long for the buffer; the
receiver gets the packet of each frame read that fits; the chip keeps the frames not yet read,
whole and in order; and the engine is at rest again. -/
theorem play_lossless (chip : HonestChip σ) (start : Bus σ) (steps : List Step)
    (rest : AtRest chip start) (silent : chip.queued start.board = [])
    (valid : ∀ step ∈ steps, step.Valid) :
    let results := (play chip start steps).1
    let bus := (play chip start steps).2
    let ledger := (Ledger.play {} steps).2
    results = (Ledger.play {} steps).1 ∧
      ledger.sent = payloads steps ∧ ledger.consumed ++ ledger.waiting = frames steps ∧
      (∃ calls, Made start calls bus ∧ written calls = ledger.sent.flatMap frameOf ∧
        handedOver calls = ledger.packets) ∧
      chip.queued bus.board = ledger.waiting.flatten ∧ AtRest chip bus := by
  intro results bus ledger
  have opened : Accounts chip start {} start :=
    ⟨rest, fun _ mem ↦ absurd mem List.not_mem_nil, silent, [], rfl, rfl, rfl⟩
  obtain ⟨same, accounts⟩ := opened.play valid
  exact ⟨same, Ledger.sent_play {} steps, Ledger.consumed_play {} steps, accounts.calls,
    accounts.queued, accounts.rests⟩

/-! ### The simplest honest chip -/

/-- A queue, and a script of the calls at which edges come. -/
structure QueueChip where
  queued : List UInt8 := []
  selected : Bool := false
  edges : List Bool := []

namespace QueueChip

instance : Board QueueChip where
  respond call chip :=
    ({ edge := chip.edges.headD false
       low := chip.selected || !chip.queued.isEmpty
       incoming := chip.queued },
      { queued := chip.queued.drop call.clocksIn
        selected := call.level chip.selected
        edges := chip.edges.tail })

def honest : HonestChip QueueChip where
  queued := queued
  selected := selected
  push bytes chip := { chip with queued := chip.queued ++ bytes }
  queued_push _ _ := rfl
  selected_push _ _ := rfl
  sound _ _ := rfl
  receiveGuard _ _ := rfl
  transmitGuard _ _ := rfl
  low _ := rfl
  incoming _ _ _ := rfl
  queued_respond _ _ := rfl
  selected_respond _ _ := rfl

/-- An engine whose first frame is out, with edges at every other call from now on. -/
def settled : Bus QueueChip :=
  (run (create {} {}) [.attach, .edge, .pump, .send []]).drifted
    { edges := (List.replicate 30 [true, false]).flatten }

theorem settled_rests : AtRest honest settled where
  resting := ⟨Or.inr (Or.inr (by decide +kernel)), by decide +kernel, by decide +kernel⟩
  idle := by decide +kernel
  enabled := by decide +kernel
  sound := by decide +kernel
  attached := by decide +kernel
  transmit := by decide +kernel
  receive := by decide +kernel
  released := rfl

/-- A frame with an event that has one argument and a pad byte. -/
def eventFrame : List UInt8 := [3, 0, 0, 0, 0, 4, 16, 64, 2, 0, 7, 0]

/-- A data frame that the buffer cannot hold. -/
def longFrame : List UInt8 := [3, 0, 0, 0, 0, 2, 0, 0, 200, 0] ++ List.replicate 201 9

/-- Frames, writes and polls out of step with each other. -/
def traffic : List Step :=
  [.queue eventFrame, .queue longFrame, .send [1, 2, 3], .edge, .pump, .queue eventFrame, .send [],
    .pump, .send [4], .pump, .edge, .pump]

theorem traffic_valid : ∀ step ∈ traffic, step.Valid := by
  simp only [traffic, List.forall_mem_cons, List.not_mem_nil, false_implies, implies_true, and_true,
    Step.Valid, WellFormed, true_and]
  decide +kernel

/-- Three sends and four polls among edges: the long frame is dropped, the others come
through. -/
theorem play_lossless_traffic :
    (play honest settled traffic).1 =
        [.ok none, .ok none, .ok none, .ok none, .ok (some true), .ok none, .ok none,
          .error .tooLong, .ok none, .ok (some true), .ok none, .ok (some false)] ∧
      ∃ calls, Made settled calls (play honest settled traffic).2 ∧
        written calls = frameOf [1, 2, 3] ++ frameOf [] ++ frameOf [4] ∧
        handedOver calls = [[4, 16, 64, 2, 0, 7, 0], [4, 16, 64, 2, 0, 7, 0]] := by
  obtain ⟨results, -, -, ⟨calls, made, out, handed⟩, -, -⟩ :=
    play_lossless honest settled traffic settled_rests rfl traffic_valid
  exact ⟨results.trans (by cbv), calls, made, out.trans (by decide +kernel),
    handed.trans (by decide +kernel)⟩

end QueueChip

end SpiWifi.Bus
