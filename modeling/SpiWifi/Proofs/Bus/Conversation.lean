import SpiWifi.Proofs.Bus.HonestChip

/-!
The board's side of an operation. Whatever comes of an operation, the board has answered its
calls one after the other, each in the state that the call before had left, and the guard
behind the receive buffer is what these answers have made of it. A packet is handed over
only while that guard is in place.
-/

set_option autoImplicit false
set_option relaxedAutoImplicit false

namespace SpiWifi.Bus

/-- The guard behind the receive buffer was in place whenever one of these calls handed a
packet over; `guard` is what it held before the first of them. -/
def Guarded : UInt8 → List Entry → Prop
  | _, [] => True
  | guard, entry :: rest =>
    ((∃ packet, entry.call = .deliver packet) → guard = GuardedBuffer.guardMark) ∧
      Guarded (entry.receiveGuard guard) rest

/-- No packet is handed over by these calls. -/
def Undelivered (calls : List Entry) : Prop :=
  ∀ entry ∈ calls, ∀ packet, entry.call ≠ .deliver packet

namespace Guarded

variable {guard : UInt8} {calls later : List Entry}

theorem append (h : Guarded guard calls)
    (k : Guarded (calls.foldl Entry.receiveGuard guard) later) :
    Guarded guard (calls ++ later) := by
  induction calls generalizing guard with
  | nil => exact k
  | cons entry rest ih => exact ⟨h.1, ih h.2 k⟩

theorem of_undelivered (h : Undelivered calls) (guard : UInt8) : Guarded guard calls := by
  induction calls generalizing guard with
  | nil => trivial
  | cons entry rest ih =>
    obtain ⟨first, others⟩ := List.forall_mem_cons.mp h
    exact ⟨fun ⟨packet, deliver⟩ ↦ absurd deliver (first packet), ih others _⟩

/-- A call that is made with the guard in place may hand a packet over. -/
theorem single {entry : Entry} (intact : guard = GuardedBuffer.guardMark) :
    Guarded guard [entry] := ⟨fun _ ↦ intact, trivial⟩

end Guarded

theorem Undelivered.append {calls later : List Entry} (h : Undelivered calls)
    (k : Undelivered later) : Undelivered (calls ++ later) := List.forall_mem_append.mpr ⟨h, k⟩

theorem Undelivered.single {entry : Entry} {call : Call} (is : entry.call = call)
    (other : ∀ packet, call ≠ .deliver packet) : Undelivered [entry] :=
  List.forall_mem_singleton.mpr (is ▸ other)

theorem Plain.undelivered {calls : List Entry} (h : Plain calls) : Undelivered calls := by
  intro entry mem packet deliver
  have plain := h entry mem
  rw [deliver] at plain
  cases plain

/-- A transaction hands nothing over. -/
theorem undelivered_window {select release : Entry} {inside : List Entry}
    (call : select.call = .select) (plain : Plain inside) (drops : release.call = .release) :
    Undelivered (select :: inside ++ [release]) := by
  have opens : Undelivered [select] := .single call fun _ ↦ Call.noConfusion
  have closes : Undelivered [release] := .single drops fun _ ↦ Call.noConfusion
  exact (opens.append plain.undelivered).append closes

variable {σ : Type} [Board σ]

/-- The board has answered these calls in turn. -/
structure Converses (before : World σ) (calls : List Entry) (after : World σ) : Prop where
  history : after.history = calls.reverse ++ before.history
  receiveGuard : after.receiveGuard = calls.foldl Entry.receiveGuard before.receiveGuard
  answered : Answered before.board calls after.board

namespace Converses

theorem refl (world : World σ) : Converses world [] world := ⟨rfl, rfl, rfl⟩

theorem trans {first middle last : World σ} {calls later : List Entry}
    (h : Converses first calls middle) (k : Converses middle later last) :
    Converses first (calls ++ later) last where
  history := by rw [k.history, h.history, List.reverse_append, List.append_assoc]
  receiveGuard := by rw [k.receiveGuard, h.receiveGuard, List.foldl_append]
  answered := h.answered.append k.answered

end Converses

variable {bus after : Bus σ} {result : Except Failure Unit}

theorem Steady.converses {calls : List Entry} (step : Steady bus calls after) :
    Converses bus.world calls after.world where
  history := step.history
  receiveGuard := step.receiveGuard
  answered := step.answered

/-! ### Reading -/

/-- A packet that is handed over once chip-select is up again has come in under a guard that
was found in place. -/
theorem FrameRead.converses (h : FrameRead bus result after) :
    ∃ calls, Converses bus.world calls after.world ∧ Guarded bus.receive.guardByte calls := by
  cases h with
  | refused call _ step =>
    have silent : Undelivered [_] := .single call fun _ ↦ Call.noConfusion
    exact ⟨_, step.converses, .of_undelivered silent _⟩
  | broken selects clocked drops step =>
    exact ⟨_, step.converses, .of_undelivered (undelivered_window selects.1 clocked.plain drops) _⟩
  | oversize selects whole _ drains drops step =>
    have plain := plain_append (whole.plain (plain_of_fetches (fetches_exchangeScript _)))
      (drains.plain (plain_of_fetches (fetches_drainScript _)))
    exact ⟨_, step.converses, .of_undelivered (undelivered_window selects.1 plain drops) _⟩
  | unreleased selects clocked step drops _ close =>
    exact ⟨_, step.converses.trans close.converses,
      .of_undelivered (undelivered_window selects.1 clocked.plain drops) _⟩
  | overrun selects clocked step drops _ close _ =>
    exact ⟨_, step.converses.trans close.converses,
      .of_undelivered (undelivered_window selects.1 clocked.plain drops) _⟩
  | @delivered select release calls delivery filled closed last selects clocked step drops _ close
      intact handed packet =>
    have read : Converses bus.world (select :: calls ++ [release]) closed.world :=
      step.converses.trans close.converses
    have mark : closed.receive.guardByte = GuardedBuffer.guardMark := beq_iff_eq.mp intact
    have found : (select :: calls ++ [release]).foldl Entry.receiveGuard bus.receive.guardByte =
        GuardedBuffer.guardMark := read.receiveGuard.symm.trans mark
    have silent := undelivered_window selects.1 clocked.plain drops
    refine ⟨_, read.trans handed.converses, Guarded.append (.of_undelivered silent _) ?_⟩
    rw [found]
    split at packet
    · obtain ⟨entry, rfl, -⟩ := List.map_eq_singleton_iff.mp packet
      exact .single rfl
    · rw [List.map_eq_nil_iff.mp packet]
      trivial

theorem Served.converses (h : Served bus result after) :
    ∃ calls, Converses bus.world calls after.world ∧ Guarded bus.receive.guardByte calls := by
  cases h with
  | ready _ => exact ⟨[], .refl _, trivial⟩
  | sent _ step sent =>
    refine ⟨_, step.converses, .of_undelivered (fun entry mem packet deliver ↦ ?_) _⟩
    rcases sent.call_mem mem with script | release
    · have clocks := clocksOut_frameScript _ _ script
      rw [deliver] at clocks
      cases clocks
    · rw [deliver] at release
      cases release
  | read _ read => exact read.converses

theorem Pumped.converses {result : Except Failure Bool} (h : Pumped bus result after) :
    ∃ calls, Converses bus.world calls after.world ∧ Guarded bus.receive.guardByte calls := by
  have looks {sample : Entry} (call : sample.call = .sampleLine) : Undelivered [sample] :=
    .single call fun _ ↦ Call.noConfusion
  cases h with
  | off _ => exact ⟨[], .refl _, trivial⟩
  | unread _ step call _ => exact ⟨_, step.converses, .of_undelivered (looks call) _⟩
  | unasked _ step samples _ => exact ⟨_, step.converses, .of_undelivered (looks samples.1) _⟩
  | @served sample asked _ _ _ step samples _ served =>
    obtain ⟨calls, converses, guarded⟩ := served.converses
    have kept : asked.receive.guardByte = [sample].foldl Entry.receiveGuard bus.receive.guardByte :=
      step.receiveGuard
    rw [kept] at guarded
    exact ⟨_, step.converses.trans converses,
      Guarded.append (.of_undelivered (looks samples.1) _) guarded⟩

/-! ### Writing -/

theorem FirstSent.converses {frame : List UInt8} (h : FirstSent bus frame result after) :
    ∃ calls, Converses bus.world calls after.world := by
  cases h with
  | unselected _ _ step => exact ⟨_, step.converses⟩
  | sent _ _ step => exact ⟨_, step.converses⟩

theorem StagedSent.converses {frame : List UInt8} (h : StagedSent bus frame result after) :
    ∃ calls, Converses bus.world calls after.world := by
  cases h with
  | refused _ _ _ step => exact ⟨_, step.converses⟩
  | unanswered _ chosen _ _ _ step => exact ⟨_, chosen.converses.trans step.converses⟩
  | sent _ chosen _ _ step _ close spent =>
    have all := (chosen.converses.trans step.converses).trans close.converses
    rcases spent with rfl | rfl
    · exact ⟨_, all⟩
    · exact ⟨_, all⟩

theorem Written.converses {payload : Nat} (h : Written bus payload result after) :
    ∃ calls, Converses bus.world calls after.world := by
  cases h with
  | poisoned _ => exact ⟨[], .refl _⟩
  | tooLong _ _ => exact ⟨[], .refl _⟩
  | overrun _ _ _ =>
    refine ⟨[], ?_⟩
    show Converses bus.world [] (bus.framed payload).world
    rw [world_framed]
    exact .refl _
  | unready _ _ _ step =>
    rw [← world_framed bus payload]
    exact ⟨_, step.converses⟩
  | first _ waited sent =>
    obtain ⟨calls, converses⟩ := sent.converses
    rw [← world_framed bus payload]
    exact ⟨_, waited.steady.converses.trans converses⟩
  | staged _ _ sent =>
    rw [← world_framed bus payload]
    exact sent.converses

theorem Sent.converses {payload : List UInt8} (h : Sent bus payload result after) :
    ∃ calls, Converses bus.world calls after.world := by
  cases h with
  | tooLong _ => exact ⟨[], .refl _⟩
  | written _ written => exact written.converses

end SpiWifi.Bus
