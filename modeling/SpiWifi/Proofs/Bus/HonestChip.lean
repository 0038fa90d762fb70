import SpiWifi.Proofs.Bus.WriteLaw

/-!
A chip that plays its part. No call fails and no guard is run over; the chip answers a
selection on its line, holds the line low while it has bytes queued, and gives these out
in order, one for each byte that is exchanged. Edges may come at any call. Over such a
board a poll reads exactly one frame and a write is always answered.
-/

set_option autoImplicit false
set_option relaxedAutoImplicit false

namespace SpiWifi.Bus

open Wire

/-- The bytes that a call clocks in. -/
def Call.clocksIn : Call → Nat
  | .exchange outgoing => outgoing.length
  | _ => 0

/-- The level of chip-select after a call that succeeds, low being `true`. -/
def Call.level (low : Bool) : Call → Bool
  | .select => true
  | .release => false
  | _ => low

/-- What a board promises whose chip plays its part. -/
structure HonestChip (σ : Type) [Board σ] where
  /-- The bytes that the chip has for the host. -/
  queued : σ → List UInt8
  selected : σ → Bool
  /-- Gives the chip more bytes for the host. -/
  push : List UInt8 → σ → σ
  queued_push (bytes : List UInt8) (board : σ) : queued (push bytes board) = queued board ++ bytes
  selected_push (bytes : List UInt8) (board : σ) : selected (push bytes board) = selected board
  sound (call : Call) (board : σ) : (Board.respond call board).1.failed = false
  receiveGuard (call : Call) (board : σ) : (Board.respond call board).1.receiveGuard = none
  transmitGuard (call : Call) (board : σ) : (Board.respond call board).1.transmitGuard = none
  low (board : σ) :
    (Board.respond .sampleLine board).1.low = (selected board || !(queued board).isEmpty)
  incoming (outgoing : List UInt8) (board : σ) : outgoing.length ≤ (queued board).length →
    (Board.respond (.exchange outgoing) board).1.incoming.take outgoing.length =
      (queued board).take outgoing.length
  queued_respond (call : Call) (board : σ) :
    queued (Board.respond call board).2 = (queued board).drop call.clocksIn
  selected_respond (call : Call) (board : σ) :
    selected (Board.respond call board).2 = call.level (selected board)

/-- How many bytes a script clocks in. -/
@[simp] def width : List Call → Nat
  | [] => 0
  | call :: script => call.clocksIn + width script

@[simp] theorem width_append (first second : List Call) :
    width (first ++ second) = width first + width second := by
  induction first with
  | nil => exact (Nat.zero_add _).symm
  | cons call first ih => rw [List.cons_append, width, width, ih, Nat.add_assoc]

theorem width_eq_zero {script : List Call} (silent : ∀ call ∈ script, call.clocksIn = 0) :
    width script = 0 := by
  induction script with
  | nil => rfl
  | cons call script ih =>
    obtain ⟨first, rest⟩ := List.forall_mem_cons.mp silent
    rw [width, first, ih rest]

/-- How many bytes some calls clock in. -/
def clockedIn (calls : List Entry) : Nat := width (calls.map Entry.call)

/-- The packet that a call hands over. -/
def Call.packet? : Call → Option (List UInt8)
  | .deliver packet => some packet
  | _ => none

/-- The packets that some calls hand over. -/
def handedOver (calls : List Entry) : List (List UInt8) :=
  calls.filterMap fun entry ↦ entry.call.packet?

@[simp] theorem clockedIn_append (first second : List Entry) :
    clockedIn (first ++ second) = clockedIn first + clockedIn second := by
  simp only [clockedIn, List.map_append, width_append]

@[simp] theorem handedOver_append (first second : List Entry) :
    handedOver (first ++ second) = handedOver first ++ handedOver second :=
  List.filterMap_append

theorem clockedIn_of_map {calls : List Entry} {script : List Call}
    (h : calls.map Entry.call = script) : clockedIn calls = width script := congrArg width h

theorem handedOver_of_map {calls : List Entry} {script : List Call}
    (h : calls.map Entry.call = script) : handedOver calls = script.filterMap Call.packet? := by
  rw [← h, handedOver, List.filterMap_map]
  rfl

/-- The part of the state that the hardware has a hand in. -/
structure World (σ : Type) where
  board : σ
  transmitGuard : UInt8
  receiveGuard : UInt8
  history : List Entry

variable {σ : Type}

def world (bus : Bus σ) : World σ :=
  ⟨bus.board, bus.transmit.guardByte, bus.receive.guardByte, bus.history⟩

theorem world_framed (bus : Bus σ) (payload : Nat) : (bus.framed payload).world = bus.world := by
  simp only [world, framed, guardByte_framedBuffer]

variable [Board σ] (chip : HonestChip σ)

/-- The chip has played its part in some calls. -/
structure Plays (before : World σ) (calls : List Entry) (after : World σ) : Prop where
  history : after.history = calls.reverse ++ before.history
  transmitGuard : after.transmitGuard = before.transmitGuard
  receiveGuard : after.receiveGuard = before.receiveGuard
  sound : ∀ entry ∈ calls, entry.fails = false
  queued : chip.queued after.board = (chip.queued before.board).drop (clockedIn calls)
  received : clockedIn calls ≤ (chip.queued before.board).length →
    received calls = (chip.queued before.board).take (clockedIn calls)
  selected : chip.selected after.board =
    calls.foldl (fun low entry ↦ entry.call.level low) (chip.selected before.board)

variable {chip}

/-- An exchange leaves in its window what the chip has to give. -/
theorem HonestChip.received_entry (chip : HonestChip σ) {entry : Entry} {board : σ}
    (reply : (Board.respond entry.call board).1 = entry.reply)
    (enough : entry.call.clocksIn ≤ (chip.queued board).length) :
    entry.received = (chip.queued board).take entry.call.clocksIn := by
  unfold Entry.received
  cases hcall : entry.call with
  | exchange outgoing =>
    rw [hcall] at reply enough
    have incoming := chip.incoming outgoing board enough
    rw [reply] at incoming
    have whole : ((chip.queued board).take outgoing.length).length = outgoing.length := by
      rw [List.length_take]
      exact Nat.min_eq_left enough
    simp only [incoming, whole, Nat.sub_self, List.replicate_zero, List.append_nil, Call.clocksIn]
  | _ => rfl

namespace Answered

variable {first last : σ} {calls : List Entry}

theorem faultless (chip : HonestChip σ) (h : Answered first calls last) :
    ∀ entry ∈ calls, entry.fails = false ∧ entry.reply.receiveGuard = none ∧
      entry.reply.transmitGuard = none := by
  induction calls generalizing first with
  | nil => exact fun _ mem ↦ absurd mem List.not_mem_nil
  | cons entry rest ih =>
    refine List.forall_mem_cons.mpr ⟨?_, ih h.2⟩
    rw [Entry.fails, ← h.1, chip.sound, Bool.and_false]
    exact ⟨rfl, chip.receiveGuard _ _, chip.transmitGuard _ _⟩

theorem queued (h : Answered first calls last) :
    chip.queued last = (chip.queued first).drop (clockedIn calls) := by
  induction calls generalizing first with
  | nil =>
    rw [show last = first from h]
    rfl
  | cons entry rest ih =>
    rw [ih h.2, chip.queued_respond, List.drop_drop]
    rfl

theorem received_eq (chip : HonestChip σ) (h : Answered first calls last)
    (enough : clockedIn calls ≤ (chip.queued first).length) :
    received calls = (chip.queued first).take (clockedIn calls) := by
  induction calls generalizing first with
  | nil => rfl
  | cons entry rest ih =>
    have total : clockedIn (entry :: rest) = entry.call.clocksIn + clockedIn rest := rfl
    rw [total] at enough ⊢
    have head := chip.received_entry h.1 (by omega)
    have tail := ih h.2 (by rw [chip.queued_respond, List.length_drop]; omega)
    rw [chip.queued_respond] at tail
    rw [received, List.flatMap_cons, ← received, head, tail, ← List.take_add]

theorem selected_eq (h : Answered first calls last) :
    chip.selected last =
      calls.foldl (fun low entry ↦ entry.call.level low) (chip.selected first) := by
  induction calls generalizing first with
  | nil =>
    rw [show last = first from h]
    rfl
  | cons entry rest ih => rw [ih h.2, chip.selected_respond, List.foldl_cons]

/-- A selected chip holds its line low. -/
theorem answers {later : List Entry} (h : Answered first (calls ++ later) last)
    (selected : chip.selected first = true) (held : ∀ entry ∈ calls, entry.call ≠ .release) :
    ∀ entry ∈ calls, entry.call = .sampleLine → entry.reply.low = true := by
  induction calls generalizing first with
  | nil => exact fun _ mem ↦ absurd mem List.not_mem_nil
  | cons entry rest ih =>
    refine List.forall_mem_cons.mpr ⟨fun call ↦ ?_, ih h.2 ?_ ?_⟩
    · rw [← h.1, call, chip.low, selected, Bool.true_or]
    · rw [chip.selected_respond, selected]
      have stays := held entry List.mem_cons_self
      cases hcall : entry.call <;> simp_all [Call.level]
    · exact fun other mem ↦ held other (List.mem_cons_of_mem _ mem)

end Answered

/-- A guard that no reply runs over stays as it is. -/
theorem foldl_guard {calls : List Entry} {field : UInt8 → Entry → UInt8} (guard : UInt8)
    (keeps : ∀ entry ∈ calls, ∀ byte, field byte entry = byte) :
    calls.foldl field guard = guard := by
  induction calls with
  | nil => rfl
  | cons entry rest ih =>
    rw [List.foldl_cons, keeps entry List.mem_cons_self]
    exact ih fun other mem ↦ keeps other (List.mem_cons_of_mem _ mem)

theorem Steady.plays {bus after : Bus σ} {calls : List Entry} (chip : HonestChip σ)
    (step : Steady bus calls after) : Plays chip bus.world calls after.world where
  history := step.history
  transmitGuard := by
    refine step.transmitGuard.trans (foldl_guard _ fun entry mem byte ↦ ?_)
    rw [Entry.transmitGuard, (step.answered.faultless chip entry mem).2.2]
    rfl
  receiveGuard := by
    refine step.receiveGuard.trans (foldl_guard _ fun entry mem byte ↦ ?_)
    rw [Entry.receiveGuard, (step.answered.faultless chip entry mem).2.1]
    rfl
  sound := fun entry mem ↦ (step.answered.faultless chip entry mem).1
  queued := step.answered.queued
  received := step.answered.received_eq chip
  selected := step.answered.selected_eq

theorem Plays.trans {first middle last : World σ} {calls later : List Entry}
    (h : Plays chip first calls middle) (k : Plays chip middle later last) :
    Plays chip first (calls ++ later) last where
  history := by rw [k.history, h.history, List.reverse_append, List.append_assoc]
  transmitGuard := k.transmitGuard.trans h.transmitGuard
  receiveGuard := k.receiveGuard.trans h.receiveGuard
  sound := List.forall_mem_append.mpr ⟨h.sound, k.sound⟩
  queued := by rw [k.queued, h.queued, List.drop_drop, clockedIn_append]
  received := by
    intro enough
    rw [clockedIn_append] at enough ⊢
    have rest := k.received (by rw [h.queued, List.length_drop]; omega)
    rw [received_append, h.received (by omega), rest, h.queued, ← List.take_add]
  selected := by rw [k.selected, h.selected, List.foldl_append]

/-- The engine listens at rest, with a receiver attached, its guards in place and
chip-select high. -/
structure AtRest (chip : HonestChip σ) (bus : Bus σ) : Prop where
  resting : bus.Resting
  idle : bus.phase = .idle
  enabled : bus.interruptEnabled = true
  sound : bus.poisoned = false
  attached : bus.attached = true
  transmit : bus.transmit.intact = true
  receive : bus.receive.intact = true
  released : chip.selected bus.board = false

/-- A frame as long as its first bytes announce. -/
def WellFormed (frame : List UInt8) : Prop :=
  frame.length = leadSize + remainingLength (frame.take leadSize)

theorem WellFormed.ne_nil {frame : List UInt8} (whole : WellFormed frame) : frame ≠ [] := by
  rintro rfl
  have positive : 0 < leadSize := by decide
  rw [WellFormed, List.length_nil] at whole
  omega

/-- The calls that read a frame. One that the buffer cannot hold is thrown away. -/
def readScript (frame : List UInt8) : List Call :=
  let remaining := remainingLength (frame.take leadSize)
  .select :: exchangeScript leadSize ++
    if frame.length ≤ bufferCapacity then
      bodyScript remaining ++ [.release, .deliver (frame.drop headerSize)]
    else
      drainScript remaining ++ [.release]

/-- What reading a frame reports. -/
def readResult (frame : List UInt8) : Except Failure Unit :=
  if frame.length ≤ bufferCapacity then .ok () else .error .tooLong

theorem width_drainScript (count : Nat) : width (drainScript count) = count := by
  fun_induction drainScript count with
  | case1 => rfl
  | case2 count more ih =>
    rw [width, ih, Call.clocksIn, List.length_replicate]
    omega

theorem width_bodyScript (remaining : Nat) : width (bodyScript remaining) = remaining := by
  unfold bodyScript
  split
  · simp [exchangeScript, Call.clocksIn]
  · rw [width]
    omega

/-- A read leaves chip-select high. -/
theorem level_readScript (frame : List UInt8) :
    (readScript frame).foldl Call.level false = false := by
  unfold readScript
  split
  · simp only [List.foldl_append, List.foldl_cons, List.foldl_nil, Call.level]
  · simp only [List.foldl_append, List.foldl_cons, List.foldl_nil, Call.level]

/-- A read takes its frame from the chip and no more. -/
theorem width_readScript {frame : List UInt8} (whole : WellFormed frame) :
    width (readScript frame) = frame.length := by
  rw [whole]
  unfold readScript
  split
  · simp [exchangeScript, Call.clocksIn, width_bodyScript]
  · simp [exchangeScript, Call.clocksIn, width_drainScript]

/-- Clocking in puts nothing on the bus and hands nothing over. -/
theorem fetches_traffic {script : List Call} (h : ∀ call ∈ script, call.fetches = true) :
    script.flatMap Call.written = [] ∧ script.filterMap Call.packet? = [] := by
  refine ⟨List.flatMap_eq_nil_iff.mpr fun call mem ↦ ?_,
    List.filterMap_eq_nil_iff.mpr fun call mem ↦ ?_⟩
  · have fetches := h call mem
    cases call <;> first | rfl | cases fetches
  · have fetches := h call mem
    cases call <;> first | rfl | cases fetches

/-- A read hands over the packet of a frame that the buffer can hold. -/
theorem readScript_traffic (frame : List UInt8) :
    (readScript frame).flatMap Call.written = [] ∧
      (readScript frame).filterMap Call.packet? =
        if frame.length ≤ bufferCapacity then [frame.drop headerSize] else [] := by
  have lead := fetches_traffic (fetches_exchangeScript leadSize)
  have body := fetches_traffic (fetches_bodyScript (remainingLength (frame.take leadSize)))
  have drained := fetches_traffic (fetches_drainScript (remainingLength (frame.take leadSize)))
  unfold readScript
  split
  · simp only [List.cons_append, List.flatMap_cons, List.flatMap_append, List.flatMap_nil,
      List.filterMap_cons, List.filterMap_append, List.filterMap_nil, lead, body, Call.written,
      Call.packet?, List.nil_append, and_self]
  · simp only [List.cons_append, List.flatMap_cons, List.flatMap_append, List.flatMap_nil,
      List.filterMap_cons, List.filterMap_append, List.filterMap_nil, lead, drained, Call.written,
      Call.packet?, List.nil_append, and_self]

/-- A script is finished if no call fails. -/
theorem Follows.finished {script : List Call} {calls : List Entry} {result : Except Failure Unit}
    (h : Follows script calls result) (sound : ∀ entry ∈ calls, entry.fails = false) :
    result = .ok () ∧ calls.map Entry.call = script := by
  cases result with
  | ok _ => exact ⟨rfl, h.of_ok.1⟩
  | error failure =>
    obtain ⟨entry, mem, fails, -⟩ := h.failed
    rw [sound entry mem] at fails
    cases fails

/-- A frame that was not clocked in whole has met a failure. -/
theorem Clocked.of_error {calls : List Entry} {failure : Failure}
    (h : Clocked calls (.error failure)) : ∃ entry ∈ calls, entry.fails = true := by
  cases h with
  | lead broken =>
    obtain ⟨entry, mem, fails, -⟩ := broken.failed
    exact ⟨entry, mem, fails⟩
  | body _ _ rest =>
    obtain ⟨entry, mem, fails, -⟩ := rest.failed
    exact ⟨entry, List.mem_append_right _ mem, fails⟩

theorem Answered.split {first last : σ} {calls later : List Entry}
    (h : Answered first (calls ++ later) last) :
    ∃ middle, Answered first calls middle ∧ Answered middle later last := by
  induction calls generalizing first with
  | nil => exact ⟨first, rfl, h⟩
  | cons entry rest ih =>
    obtain ⟨middle, before, after⟩ := ih h.2
    exact ⟨middle, ⟨h.1, before⟩, after⟩

theorem Plays.not_fails {before after : World σ} {calls : List Entry}
    (h : Plays chip before calls after) {entry : Entry} (mem : entry ∈ calls) :
    ¬ entry.fails = true := by
  rw [h.sound entry mem]
  exact Bool.false_ne_true

section Reading

variable {bus after : Bus σ} {result : Except Failure Unit} {frame more : List UInt8}

/-- A guard that no reply has run over is in place. -/
theorem Plays.intact {calls : List Entry} (plays : Plays chip bus.world calls after.world) :
    after.transmit.intact = bus.transmit.intact ∧ after.receive.intact = bus.receive.intact := by
  have transmit : after.transmit.guardByte = bus.transmit.guardByte := plays.transmitGuard
  have receive : after.receive.guardByte = bus.receive.guardByte := plays.receiveGuard
  simp only [GuardedBuffer.intact, transmit, receive, and_self]

theorem AtRest.of_plays {calls : List Entry} {script : List Call} (rest : AtRest chip bus)
    (plays : Plays chip bus.world calls after.world) (follows : calls.map Entry.call = script)
    (resting : after.Resting) (idle : after.phase = .idle) (enabled : after.interruptEnabled = true)
    (sound : after.poisoned = false) (attached : after.attached = true)
    (released : script.foldl Call.level false = false) : AtRest chip after where
  resting := resting
  idle := idle
  enabled := enabled
  sound := sound
  attached := attached
  transmit := plays.intact.1.trans rest.transmit
  receive := plays.intact.2.trans rest.receive
  released := by
    have selected : chip.selected after.board = _ := plays.selected
    rw [selected, show chip.selected bus.world.board = false from rest.released,
      ← List.foldl_map, follows, released]

omit [Board σ] in
theorem received_select {select : Entry} (call : select.call = .select) (calls : List Entry) :
    received (select :: calls) = received calls := by
  have nothing : select.received = [] := by rw [Entry.received, call]
  rw [received, List.flatMap_cons, nothing]
  rfl

/-- The first bytes that come in are those of the first frame in the queue. -/
theorem received_lead {board last : σ} {select : Entry} {lead later : List Entry}
    (answered : Answered board (select :: lead ++ later) last) (call : select.call = .select)
    (clocked : Follows (exchangeScript leadSize) lead (.ok ()))
    (queued : chip.queued board = frame ++ more) (whole : WellFormed frame) :
    received lead = frame.take leadSize := by
  obtain ⟨_, front, -⟩ := answered.split
  have script : (select :: lead).map Entry.call = .select :: exchangeScript leadSize := by
    rw [List.map_cons, call, clocked.of_ok.1]
  have width : clockedIn (select :: lead) = leadSize := clockedIn_of_map script
  have long : leadSize ≤ frame.length := whole ▸ Nat.le_add_right _ _
  have bytes := front.received_eq chip
  rw [queued, width, List.length_append, List.take_append_of_le_length long] at bytes
  rw [← received_select call]
  exact bytes (Nat.le_trans long (Nat.le_add_right _ _))

/-- A frame that was clocked in whole is the first one in the queue. -/
theorem Clocked.honest {board last : σ} {select : Entry} {calls : List Entry}
    (h : Clocked calls (.ok ())) (answered : Answered board (select :: calls) last)
    (call : select.call = .select) (queued : chip.queued board = frame ++ more)
    (whole : WellFormed frame) :
    frame.length ≤ bufferCapacity ∧
      calls.map Entry.call =
        exchangeScript leadSize ++ bodyScript (remainingLength (frame.take leadSize)) ∧
      received calls = frame := by
  cases h with
  | @body lead body _ clocked fits rest =>
    rw [← List.cons_append] at answered
    have first := received_lead answered call clocked queued whole
    rw [first, ← whole] at fits
    rw [first] at rest
    have script : (lead ++ body).map Entry.call =
        exchangeScript leadSize ++ bodyScript (remainingLength (frame.take leadSize)) := by
      rw [List.map_append, clocked.of_ok.1, rest.of_ok.1]
    have width : clockedIn (select :: lead ++ body) = frame.length := by
      have script : (select :: lead ++ body).map Entry.call = .select ::
          (exchangeScript leadSize ++ bodyScript (remainingLength (frame.take leadSize))) := by
        rw [List.cons_append, List.map_cons, call, script]
      rw [clockedIn_of_map script, width, width_append, width_bodyScript, whole]
      simp [exchangeScript, Call.clocksIn]
    have bytes := answered.received_eq chip
    rw [queued, width, List.length_append, List.take_left' rfl, List.cons_append,
      received_select call] at bytes
    exact ⟨fits, script, bytes (Nat.le_add_right _ _)⟩

/-- Over an honest chip a read ends in one of two ways, and takes exactly one frame. -/
theorem FrameRead.honest (h : FrameRead bus result after) (rest : AtRest chip bus)
    (queued : chip.queued bus.board = frame ++ more) (whole : WellFormed frame) :
    result = readResult frame ∧ AtRest chip after ∧
      ∃ calls, Plays chip bus.world calls after.world ∧
        calls.map Entry.call = readScript frame := by
  have resting := h.resting rest.resting
  cases h with
  | refused call fails step =>
    exact absurd fails ((step.plays chip).not_fails (List.mem_singleton_self _))
  | @broken select release calls failure _ selects clocked drops step =>
    obtain ⟨entry, mem, fails⟩ := clocked.of_error
    have mem : entry ∈ select :: calls ++ [release] :=
      List.mem_append_left _ (List.mem_cons_of_mem _ mem)
    exact absurd fails ((step.plays chip).not_fails mem)
  | @oversize select release lead drained body _ selects clocked long drains drops step =>
    have plays := step.plays chip
    obtain ⟨rfl, drainCalls⟩ := drains.finished fun entry mem ↦ plays.sound entry
      (List.mem_append_left _ (List.mem_cons_of_mem _ (List.mem_append_right _ mem)))
    have sound : release.fails = false :=
      plays.sound release (List.mem_append_right _ (List.mem_singleton_self _))
    have first : received lead = frame.take leadSize := by
      have answered : Answered bus.board _ after.board := step.answered
      rw [List.cons_append, List.append_assoc, ← List.cons_append] at answered
      exact received_lead answered selects.1 clocked queued whole
    rw [first, ← whole] at long
    rw [first] at drainCalls
    have follows :
        (select :: (lead ++ drained) ++ [release]).map Entry.call = readScript frame := by
      rw [readScript, if_neg (Nat.not_le.mpr long)]
      simp only [List.map_append, List.map_cons, List.map_nil, selects.1, clocked.of_ok.1,
        drainCalls, drops, List.cons_append, List.append_assoc]
    refine ⟨?_, rest.of_plays plays follows resting step.phase ?_ ?_ ?_ ?_, _, plays, follows⟩
    · rw [readResult, if_neg (Nat.not_le.mpr long), closing, sound]
      rfl
    · exact step.interruptEnabled.trans rest.enabled
    · exact step.poisoned.trans rest.sound
    · exact step.attached.trans rest.attached
    · exact level_readScript frame
  | unreleased selects clocked step drops fails close =>
    exact absurd fails ((close.plays chip).not_fails (List.mem_singleton_self _))
  | overrun selects clocked step drops sound close trampled =>
    have plays : Plays chip bus.world _ _ := (step.plays chip).trans (close.plays chip)
    have kept := plays.intact.2.trans rest.receive
    rw [trampled] at kept
    cases kept
  | @delivered select release calls delivery filled closed last selects clocked step drops sound
      close intact handed packet =>
    have plays : Plays chip bus.world (select :: calls ++ [release] ++ delivery) last.world :=
      ((step.plays chip).trans (close.plays chip)).trans (handed.plays chip)
    obtain ⟨fits, script, content⟩ := clocked.honest step.answered selects.1 queued whole
    rw [content, rest.attached, if_pos rfl] at packet
    have follows :
        (select :: calls ++ [release] ++ delivery).map Entry.call = readScript frame := by
      rw [readScript, if_pos fits]
      simp only [List.map_append, List.map_cons, selects.1, script, drops, packet, List.cons_append,
        List.nil_append, List.append_assoc]
    refine ⟨?_, rest.of_plays plays follows resting ?_ rfl ?_ ?_ ?_, _, plays, follows⟩
    · rw [readResult, if_pos fits]
    · exact handed.phase.trans (close.phase.trans step.phase)
    · exact handed.poisoned.trans (close.poisoned.trans (step.poisoned.trans rest.sound))
    · exact handed.attached.trans (close.attached.trans (step.attached.trans rest.attached))
    · exact level_readScript frame

end Reading

section Polling

variable {bus after asked : Bus σ} {sample : Entry}

/-- At rest the line is low exactly while the chip has something queued. -/
theorem low_of_steady (rest : AtRest chip bus) (step : Steady bus.edgeTaken [sample] asked)
    (call : sample.call = .sampleLine) : sample.reply.low = !(chip.queued bus.board).isEmpty := by
  have reply : (Board.respond sample.call bus.board).1 = sample.reply := step.answered.1
  rw [← reply, call, chip.low, rest.released, Bool.false_or]

/-- A look at the line leaves the engine at rest. -/
theorem AtRest.sampled (rest : AtRest chip bus) (step : Steady bus.edgeTaken [sample] asked)
    (call : sample.call = .sampleLine) :
    AtRest chip asked ∧ Plays chip bus.world [sample] asked.world ∧
      chip.queued asked.board = chip.queued bus.board := by
  have plays : Plays chip bus.world [sample] asked.world := step.plays chip
  have script : [sample].map Entry.call = [.sampleLine] := by rw [List.map_singleton, call]
  have resting : asked.Resting := step.resting rest.resting.edgeTaken
  refine ⟨rest.of_plays plays script resting ?_ ?_ ?_ ?_ rfl, plays, ?_⟩
  · exact step.phase.trans rest.idle
  · exact step.interruptEnabled.trans rest.enabled
  · exact step.poisoned.trans rest.sound
  · exact step.attached.trans rest.attached
  · have queued : chip.queued asked.board = _ := plays.queued
    rw [queued, clockedIn_of_map script]
    rfl

/-- A poll of a chip that has nothing to say. -/
theorem Pumped.honest_nil {result : Except Failure Bool} (h : Pumped bus result after)
    (rest : AtRest chip bus) (queued : chip.queued bus.board = []) :
    result = .ok false ∧ AtRest chip after ∧
      ∃ calls, Plays chip bus.world calls after.world ∧ calls.map Entry.call = [.sampleLine] := by
  cases h with
  | off disabled =>
    rw [rest.enabled] at disabled
    cases disabled
  | unread _ step call fails =>
    exact absurd fails ((step.plays chip).not_fails (List.mem_singleton_self _))
  | unasked _ step samples _ =>
    obtain ⟨rests, plays, -⟩ := rest.sampled step samples.1
    exact ⟨rfl, rests, _, plays, by rw [List.map_singleton, samples.1]⟩
  | served _ step samples wakes _ =>
    rw [rest.idle, Phase.wakes, low_of_steady rest step samples.1, queued] at wakes
    cases wakes

/-- A poll of a chip that has a frame queued reads it. -/
theorem Pumped.honest_cons {result : Except Failure Bool} {frame more : List UInt8}
    (h : Pumped bus result after) (rest : AtRest chip bus)
    (queued : chip.queued bus.board = frame ++ more) (whole : WellFormed frame) :
    result = (readResult frame).map (fun _ ↦ true) ∧ AtRest chip after ∧
      ∃ calls, Plays chip bus.world calls after.world ∧
        calls.map Entry.call = .sampleLine :: readScript frame := by
  cases h with
  | off disabled =>
    rw [rest.enabled] at disabled
    cases disabled
  | unread _ step call fails =>
    exact absurd fails ((step.plays chip).not_fails (List.mem_singleton_self _))
  | unasked _ step samples asleep =>
    rw [rest.idle, Phase.wakes, low_of_steady rest step samples.1, queued, Bool.not_eq_false',
      List.isEmpty_iff, List.append_eq_nil_iff] at asleep
    exact absurd asleep.1 whole.ne_nil
  | @served sample asked _ result _ step samples _ served =>
    obtain ⟨rests, plays, same⟩ := rest.sampled step samples.1
    cases served with
    | ready phase => rw [rests.idle] at phase; cases phase
    | sent phase _ _ => rw [rests.idle] at phase; cases phase
    | read _ read =>
      obtain ⟨rfl, rests, calls, reads, script⟩ := read.honest rests (same.trans queued) whole
      refine ⟨rfl, rests, _, plays.trans reads, ?_⟩
      rw [List.map_append, List.map_singleton, samples.1, script]
      rfl

end Polling

section Sending

variable {bus after : Bus σ} {result : Except Failure Unit}

/-- A transaction in which nothing fails succeeds, and leaves chip-select high. -/
theorem Transacts.finished {script : List Call} {calls : List Entry}
    (h : Transacts script calls result) (sound : ∀ entry ∈ calls, entry.fails = false)
    (low : Bool) :
    result = .ok () ∧ calls.foldl (fun low entry ↦ entry.call.level low) low = false := by
  cases h with
  | @intro inside body release follows drops =>
    obtain ⟨rfl, -⟩ := follows.finished fun entry mem ↦ sound entry (List.mem_append_left _ mem)
    have last := sound release (List.mem_append_right _ (List.mem_singleton_self _))
    constructor
    · rw [closing, last]
      rfl
    · rw [List.foldl_append, List.foldl_cons, List.foldl_nil, drops]
      rfl

theorem GaveUp.held {calls : List Entry} {failure : Failure} (h : GaveUp calls failure) :
    ∀ entry ∈ calls, entry.call ≠ .release :=
  h.all (P := fun call ↦ call ≠ .release) Call.noConfusion fun _ ↦ Call.noConfusion

/-- Over an honest chip a staged frame is answered and goes out. -/
theorem StagedSent.honest {frame : List UInt8} (h : StagedSent bus frame result after)
    (rest : AtRest chip bus) (resting : after.Resting) :
    result = .ok () ∧ AtRest chip after ∧ ∃ calls, Plays chip bus.world calls after.world := by
  cases h with
  | refused call fails drops step =>
    exact absurd fails ((step.plays chip).not_fails List.mem_cons_self)
  | @unanswered select release calls failure selected _ selects chosen waits unheard drops step =>
    obtain ⟨sample, mem, call, fails | high⟩ := unheard
    · exact absurd fails ((step.plays chip).not_fails (List.mem_append_left _ mem))
    · have low : chip.selected selected.board = true := by
        have level : chip.selected selected.board = _ := (chosen.plays chip).selected
        rw [level, List.foldl_cons, List.foldl_nil, selects.1]
        rfl
      have answered : Answered selected.board (calls ++ [release]) after.board := step.answered
      rw [answered.answers low waits.held sample mem call] at high
      cases high
  | @sent select calls body _ selected asked closed _ selects chosen waits _ step sent close
      spent =>
    have plays : Plays chip bus.world ([select] ++ calls ++ body) closed.world :=
      ((chosen.plays chip).trans (step.plays chip)).trans (close.plays chip)
    have closes := close.plays chip
    obtain ⟨rfl, level⟩ := sent.finished closes.sound (chip.selected asked.board)
    have idle : closed.phase = .idle := close.phase
    have enabled : closed.interruptEnabled = true :=
      close.interruptEnabled.trans step.interruptEnabled
    have sound := close.poisoned.trans (step.poisoned.trans (chosen.poisoned.trans rest.sound))
    have attached :=
      close.attached.trans (step.attached.trans (chosen.attached.trans rest.attached))
    have transmit := plays.intact.1.trans rest.transmit
    have receive := plays.intact.2.trans rest.receive
    have released : chip.selected closed.board = false := closes.selected.trans level
    rcases spent with rfl | rfl
    · exact ⟨rfl, ⟨resting, idle, enabled, sound, attached, transmit, receive, released⟩, _, plays⟩
    · exact ⟨rfl, ⟨resting, idle, enabled, sound, attached, transmit, receive, released⟩, _, plays⟩

/-- What a transaction of a write does to the two sides of the bus. -/
theorem Window.traffic {calls : List Entry} {bytes : List UInt8} (h : Window calls bytes)
    (unread : ∀ entry ∈ calls, (∀ outgoing, entry.call ≠ .exchange outgoing) ∧
      ∀ packet, entry.call ≠ .deliver packet) :
    clockedIn calls = 0 ∧ written calls = bytes ∧ handedOver calls = [] := by
  refine ⟨?_, ?_, ?_⟩
  · refine width_eq_zero fun call mem ↦ ?_
    obtain ⟨entry, made, rfl⟩ := List.mem_map.mp mem
    have other := (unread entry made).1
    cases hcall : entry.call with
    | exchange outgoing => exact absurd hcall (other outgoing)
    | _ => rfl
  · obtain ⟨before, select, inside, release, rfl, waits, selects, drops, -, rfl⟩ := h
    have opens : written [select] = [] := written_eq_nil (Quiet.single selects.1 rfl).unwritten
    have closes : written [release] = [] := written_eq_nil (Quiet.single drops.1 rfl).unwritten
    rw [← List.singleton_append, written_append, written_append, written_append, opens, closes,
      written_eq_nil waits.quiet.unwritten, List.nil_append, List.nil_append, List.append_nil]
  · refine List.filterMap_eq_nil_iff.mpr fun entry mem ↦ ?_
    have other := (unread entry mem).2
    cases hcall : entry.call with
    | deliver packet => exact absurd hcall (other packet)
    | _ => rfl

/-- The calls between two states are determined by these. -/
theorem calls_unique {before after : List Entry} {calls others : List Entry}
    (h : after = calls.reverse ++ before) (k : after = others.reverse ++ before) :
    calls = others := by
  rw [h] at k
  exact List.reverse_inj.mp (List.append_cancel_right k)

/-- Over an honest chip a write that is not too long goes out. -/
theorem Written.honest {payload : Nat} (h : Written bus payload result after)
    (rest : AtRest chip bus) (fits : payload ≤ payloadLimit) :
    result = .ok () ∧ AtRest chip after ∧ ∃ calls, Plays chip bus.world calls after.world := by
  have resting := h.resting rest.resting
  cases h with
  | poisoned poisoned =>
    rw [rest.sound] at poisoned
    cases poisoned
  | tooLong _ long => exact absurd (fits_iff.mpr fits) (Nat.not_le.mpr long)
  | overrun _ _ trampled =>
    rw [rest.transmit] at trampled
    cases trampled
  | unready _ powerUp _ _ =>
    rw [rest.idle] at powerUp
    cases powerUp
  | first _ waited _ => exact absurd rest.idle waited.not_idle
  | staged _ _ sent =>
    have intact : (bus.framed payload).transmit.intact = true :=
      (intact_framedBuffer bus.transmit payload).trans rest.transmit
    have framed : AtRest chip (bus.framed payload) :=
      { rest with transmit := intact, resting := rest.resting.framed payload }
    obtain ⟨ok, rests, calls, plays⟩ := sent.honest framed resting
    rw [world_framed] at plays
    exact ⟨ok, rests, calls, plays⟩

theorem Sent.honest {payload : List UInt8} (h : Sent bus payload result after)
    (rest : AtRest chip bus) (fits : payload.length ≤ payloadLimit) :
    result = .ok () ∧ AtRest chip after ∧
      ∃ calls, Plays chip bus.world calls after.world ∧ clockedIn calls = 0 ∧
        Bus.written calls = frameOf payload ∧ handedOver calls = [] := by
  obtain ⟨others, lawful⟩ := h.lawful
  cases h with
  | tooLong long => exact absurd fits (Nat.not_le.mpr long)
  | written _ written =>
    have loaded : AtRest chip (bus.loaded 0 payload) :=
      { rest with resting := { rest.resting with } }
    obtain ⟨rfl, rests, calls, plays⟩ := written.honest loaded fits
    obtain rfl : calls = others := calls_unique plays.history lawful.untouched.1
    obtain ⟨clocked, out, handed⟩ := (lawful.sent rfl).traffic lawful.unread
    exact ⟨rfl, rests, calls, plays, clocked, out, handed⟩

end Sending

end SpiWifi.Bus
