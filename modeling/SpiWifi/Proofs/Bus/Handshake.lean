import SpiWifi.Proofs.Bus.HonestChip
import SpiWifi.Proofs.Bus.Readiness
import SpiWifi.Proofs.Bus.StrayEdge

/-!
A write from idle asks before it sends. It selects the chip with the interrupt off, and no
byte goes out until the chip has answered: a look at the line found it low, or an edge came
after the interrupt was enabled again. An edge from before the write counts for nothing.
-/

set_option autoImplicit false
set_option relaxedAutoImplicit false

namespace SpiWifi.Bus

/-- The chip was selected with the interrupt off, and while the engine waited with the
interrupt on something told it that the chip asks. -/
def Consented (calls : List Entry) : Prop :=
  ∃ select waiting, calls = select :: waiting ∧ Selects select ∧
    (select.enabled = false ∧ select.armed = false) ∧ Waits waiting ∧
    (∀ entry ∈ waiting, entry.enabled = true ∧ entry.armed = true) ∧
    ∃ answer ∈ waiting, answer.Rouses

/-- Whenever a byte crosses the bus, the chip has consented to it before. -/
def Handshaken (calls : List Entry) : Prop :=
  ∀ before entry after, calls = before ++ entry :: after → entry.call.crosses = true →
    Consented before

/-- The operation puts this frame on the bus, if it succeeds, and nothing without the chip's
consent; and it goes the same way whether an edge is pending or not. -/
structure Asks {σ : Type} [Board σ] (op : BusM σ Unit) (bus : Bus σ) (frame : List UInt8) :
    Prop where
  handshaken : ∃ calls, Made bus calls (op bus).2 ∧ Handshaken calls ∧
    ((op bus).1 = .ok () → written calls = frame)
  blind : ∀ edge, Agree op bus (bus.holding edge)

theorem Uncrossed.append {calls later : List Entry} (h : Uncrossed calls) (k : Uncrossed later) :
    Uncrossed (calls ++ later) := List.forall_mem_append.mpr ⟨h, k⟩

theorem Uncrossed.handshaken {calls : List Entry} (h : Uncrossed calls) : Handshaken calls := by
  rintro before entry after rfl crosses
  rw [h entry (List.mem_append_right _ List.mem_cons_self)] at crosses
  cases crosses

theorem handshaken_nil : Handshaken [] :=
  Uncrossed.handshaken fun _ mem ↦ absurd mem List.not_mem_nil

/-- Where only one call moves bytes, no other can be found that does. -/
theorem eq_of_crosses {quiet rest before after : List Entry} {first entry : Entry}
    (split : quiet ++ first :: rest = before ++ entry :: after) (silent : Uncrossed quiet)
    (later : Uncrossed rest) (crosses : entry.call.crosses = true) : before = quiet := by
  induction quiet generalizing before with
  | nil =>
    cases before with
    | nil => rfl
    | cons other more =>
      obtain ⟨-, rfl⟩ := List.cons.inj split
      rw [later entry (List.mem_append_right _ List.mem_cons_self)] at crosses
      cases crosses
  | cons other quiet ih =>
    obtain ⟨still, silent⟩ := List.forall_mem_cons.mp silent
    cases before with
    | nil =>
      obtain ⟨rfl, -⟩ := List.cons.inj split
      rw [still] at crosses
      cases crosses
    | cons another more =>
      obtain ⟨rfl, rest⟩ := List.cons.inj split
      rw [ih rest silent]

/-- A staged frame goes out in the first call of its transaction. -/
theorem Transacts.crosses_first {frame : List UInt8} {body : List Entry}
    {result : Except Failure Unit} (h : Transacts (frameScript frame) body result) :
    ∃ first rest, body = first :: rest ∧ Uncrossed rest := by
  cases h with
  | intro follows drops =>
    have closes := Uncrossed.single drops rfl
    cases follows with
    | stopped _ _ => exact ⟨_, _, rfl, closes⟩
    | next _ _ tail =>
      cases tail with
      | stopped call _ => exact ⟨_, _, rfl, (Uncrossed.single call rfl).append closes⟩
      | next call _ last =>
        cases last
        exact ⟨_, _, rfl, (Uncrossed.single call rfl).append closes⟩

variable {σ : Type} [Board σ] {bus after : Bus σ} {result : Except Failure Unit}
  {frame : List UInt8}

/-- The answer to a staged write comes after the chip was selected: disabling the interrupt
has emptied the latch, and until it is enabled again no edge gets in. -/
theorem consented_of_asked {calls : List Entry} {selected asked : Bus σ} {select : Entry}
    {total : Nat} (selects : Selects select)
    (chosen : Steady (bus.asking total) [select] selected) (waits : Waits calls)
    (evidence : Asked false calls) (step : Steady selected.listening calls asked) :
    Consented (select :: calls) := by
  obtain ⟨disarmed, disabled⟩ := chosen.marks select (List.mem_singleton_self _)
  refine ⟨select, calls, rfl, selects, ⟨disabled, disarmed⟩, waits, ?_, evidence.rouses⟩
  intro entry mem
  obtain ⟨armed, enabled⟩ := step.marks entry mem
  exact ⟨enabled, armed⟩

theorem StagedSent.handshaken (h : StagedSent bus frame result after) :
    ∃ calls, Made bus calls after ∧ Handshaken calls := by
  cases h with
  | refused call _ drops step =>
    have uncrossed := (Uncrossed.single call rfl).append (.single drops rfl)
    exact ⟨_, step.history, uncrossed.handshaken⟩
  | unanswered selects chosen waits _ drops step =>
    have uncrossed :=
      (Uncrossed.single selects.1 rfl).append (waits.uncrossed.append (.single drops rfl))
    exact ⟨_, chosen.made.trans step.history, uncrossed.handshaken⟩
  | @sent select calls body _ selected asked closed _ selects chosen waits evidence step sent close
      spent =>
    have made : Made bus (select :: calls ++ body) closed :=
      (chosen.made.trans step.made).trans close.made
    refine ⟨select :: calls ++ body, ?_, ?_⟩
    · rcases spent with rfl | rfl
      · exact made
      · exact made
    · obtain ⟨first, rest, rfl, later⟩ := sent.crosses_first
      have silent := (Uncrossed.single selects.1 rfl).append waits.uncrossed
      intro before entry last split crosses
      obtain rfl := eq_of_crosses split silent later crosses
      exact consented_of_asked selects chosen waits evidence step

theorem Written.handshaken {payload : Nat} (h : Written bus payload result after)
    (idle : bus.phase = .idle) : ∃ calls, Made bus calls after ∧ Handshaken calls := by
  cases h with
  | poisoned _ => exact ⟨[], rfl, handshaken_nil⟩
  | tooLong _ _ => exact ⟨[], rfl, handshaken_nil⟩
  | overrun _ _ _ => exact ⟨[], rfl, handshaken_nil⟩
  | unready _ phase _ _ =>
    rw [idle] at phase
    cases phase
  | first _ waited _ => exact absurd idle waited.not_idle
  | staged _ _ sent => exact sent.handshaken

theorem Sent.handshaken {payload : List UInt8} (h : Sent bus payload result after)
    (idle : bus.phase = .idle) : ∃ calls, Made bus calls after ∧ Handshaken calls := by
  cases h with
  | tooLong _ => exact ⟨[], rfl, handshaken_nil⟩
  | written _ written => exact written.handshaken idle

omit [Board σ] in
/-- Whatever calls a lawful write was found to have made, its frame went out in them. -/
theorem Lawful.written_eq {payload : List UInt8} {length : Nat} {calls others : List Entry}
    (lawful : Lawful bus payload length others result after) (made : Made bus calls after)
    (ok : result = .ok ()) : written calls = frameOf payload := by
  obtain rfl := calls_unique made lawful.untouched.1
  exact ((lawful.sent ok).traffic lawful.unread).2.1

theorem asks_write (resting : bus.Resting) (idle : bus.phase = .idle) (length : Nat) :
    Asks (write length) bus (frameOf (bus.transmit.payload.take length)) := by
  have written : Written bus length (write length bus).1 (write length bus).2 :=
    write_ensures resting length
  obtain ⟨calls, made, handshaken⟩ := written.handshaken idle
  obtain ⟨_, lawful⟩ := written.lawful
  exact ⟨⟨calls, made, handshaken, lawful.written_eq made⟩, write_holding (Or.inr idle) length⟩

theorem asks_send (resting : bus.Resting) (idle : bus.phase = .idle) (payload : List UInt8) :
    Asks (send payload) bus (frameOf payload) := by
  have sent : Sent bus payload (send payload bus).1 (send payload bus).2 :=
    send_ensures resting payload
  obtain ⟨calls, made, handshaken⟩ := sent.handshaken idle
  obtain ⟨_, lawful⟩ := sent.lawful
  exact ⟨⟨calls, made, handshaken, lawful.written_eq made⟩, send_holding (Or.inr idle) payload⟩

/-- Staged writes are handshaken. In every state that can be reached in which the engine is
idle, `send` of any payload and `write` of any length put a byte on the bus only after the chip
was selected, with the interrupt off, and after a look at the line that found it low or an edge
that came with the interrupt enabled again. An edge that was pending before is not taken for
the answer: with it or without it the same calls are made and come to the same. -/
theorem run_asks (config : Config) (board : σ) (actions : List (Action σ)) :
    let bus := run (create config board) actions
    bus.phase = .idle →
      (∀ payload : List UInt8, Asks (send payload) bus (frameOf payload)) ∧
        ∀ length : Nat,
          Asks (write length) bus (frameOf (bus.transmit.payload.take length)) := by
  intro bus idle
  have resting : bus.Resting := run_resting config board actions
  exact ⟨asks_send resting idle, asks_write resting idle⟩

/-- An idle engine that holds an edge, over a chip that answers every selection. -/
def edgeHeld : Bus Bench.Board :=
  run (create {} { answerSelect := true }) [.attach, .edge, .pump, .send [1], .edge]

theorem run_asks_edgeHeld : edgeHeld.latch.pending = true ∧ Asks (send [2]) edgeHeld (frameOf [2]) :=
  ⟨by decide +kernel, (run_asks {} _ _ (by decide +kernel)).1 [2]⟩

end SpiWifi.Bus
