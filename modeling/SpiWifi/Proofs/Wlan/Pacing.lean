import SpiWifi.Proofs.Wlan.Moves

/-!
How a station waits. It never pauses longer than one interval at a time, and it serves the chip
between any two pauses, also if they belong to different operations. While the chip is not served
the pauses therefore add up to one interval at most.
-/

set_option autoImplicit false
set_option relaxedAutoImplicit false

namespace SpiWifi

open Chip Relation

namespace Chip

namespace Exchange

def isPause : Exchange → Bool
  | ⟨.pause _, _⟩ => true
  | _ => false

theorem millis_of_not_isPause {exchange : Exchange} (h : exchange.isPause = false) :
    exchange.millis = 0 := by
  obtain ⟨_ | _ | _, outcome⟩ := exchange
  · rfl
  · cases h
  · rfl

theorem isPause_eq_false_of_command {exchange : Exchange} (h : exchange.command?.isSome) :
    exchange.isPause = false := by
  obtain ⟨_ | _ | _, outcome⟩ := exchange
  · rfl
  · cases h
  · rfl

end Exchange

theorem pausedFor_eq_zero {requests : List Exchange}
    (still : ∀ exchange ∈ requests, exchange.isPause = false) : pausedFor requests = 0 := by
  induction requests with
  | nil => rfl
  | cons first rest ih =>
    obtain ⟨other, others⟩ := List.forall_mem_cons.mp still
    rw [pausedFor, Exchange.millis_of_not_isPause other, ih others]

/-- Pauses are short, and between any two of them the chip is served. Read from either end this
says the same. -/
structure Paced (interval : Nat) (requests : List Exchange) : Prop where
  short : ∀ exchange ∈ requests, exchange.millis ≤ interval
  served : ∀ first between last, first :: (between ++ [last]) <:+: requests →
    first.isPause → last.isPause → ∃ exchange ∈ between, exchange.isPoll

namespace Paced

variable {interval : Nat} {requests part : List Exchange} {exchange : Exchange}

theorem nil (interval : Nat) : Paced interval [] where
  short := nofun
  served first between last inside := by
    have := inside.length_le
    simp at this

theorem stretch (paced : Paced interval requests) (inside : part <:+: requests) :
    Paced interval part where
  short exchange mem := paced.short exchange (inside.subset mem)
  served first between last within := paced.served first between last (within.trans inside)

theorem tail (paced : Paced interval (exchange :: requests)) : Paced interval requests :=
  paced.stretch (List.suffix_cons exchange requests).isInfix

/-- A pause that the chip has not been served after is the only one. -/
theorem pausedFor_le (paced : Paced interval requests)
    (unserved : ∀ exchange ∈ requests, exchange.isPoll = false) :
    pausedFor requests ≤ interval := by
  induction requests with
  | nil => exact Nat.zero_le _
  | cons first rest ih =>
    obtain ⟨-, others⟩ := List.forall_mem_cons.mp unserved
    cases pauses : first.isPause with
    | false =>
      rw [pausedFor, Exchange.millis_of_not_isPause pauses, Nat.zero_add]
      exact ih paced.tail others
    | true =>
      have still : ∀ exchange ∈ rest, exchange.isPause = false := by
        intro last mem
        rw [← Bool.not_eq_true]
        intro again
        obtain ⟨between, later, rfl⟩ := List.append_of_mem mem
        have inside : first :: (between ++ [last]) <:+: first :: (between ++ last :: later) :=
          ⟨[], later, by simp⟩
        obtain ⟨poll, mem, served⟩ := paced.served first between last inside pauses again
        rw [others poll (List.mem_append_left _ mem)] at served
        cases served
      rw [pausedFor, pausedFor_eq_zero still]
      exact paced.short first (List.mem_cons_self ..)

/-- What is not a pause may come at any time. -/
theorem cons (paced : Paced interval requests) (other : exchange.isPause = false) :
    Paced interval (exchange :: requests) where
  short := List.forall_mem_cons.mpr
    ⟨by rw [Exchange.millis_of_not_isPause other]; exact Nat.zero_le _, paced.short⟩
  served first between last inside pauses := by
    rcases List.infix_cons_iff.mp inside with front | inside
    · obtain ⟨rfl, -⟩ := List.cons_prefix_cons.mp front
      rw [other] at pauses
      cases pauses
    · exact paced.served first between last inside pauses

end Paced

end Chip

namespace Host

variable {σ : Type} {before after : Host σ} {interval : Nat} {earlier : List Exchange}

/-- Behind a pause the history serves the chip before it comes to another pause. -/
theorem Served.poll_mem {history between : List Exchange} {last : Exchange}
    (served : Served history) (front : between ++ [last] <+: history) (pauses : last.isPause) :
    ∃ exchange ∈ between, exchange.isPoll := by
  obtain ⟨recent, outcome, earlier, rfl, commands⟩ := served
  induction recent generalizing between with
  | nil =>
    cases between with
    | nil =>
      obtain ⟨rfl, -⟩ := List.cons_prefix_cons.mp front
      cases pauses
    | cons first between =>
      obtain ⟨rfl, -⟩ := List.cons_prefix_cons.mp front
      exact ⟨_, List.mem_cons_self .., rfl⟩
  | cons request recent ih =>
    obtain ⟨command, others⟩ := List.forall_mem_cons.mp commands
    cases between with
    | nil =>
      obtain ⟨rfl, -⟩ := List.cons_prefix_cons.mp front
      rw [Exchange.isPause_eq_false_of_command command] at pauses
      cases pauses
    | cons first between =>
      obtain ⟨rfl, behind⟩ := List.cons_prefix_cons.mp front
      obtain ⟨poll, mem, polls⟩ := ih others behind
      exact ⟨poll, List.mem_cons_of_mem first mem, polls⟩

/-- What the host has asked since some earlier requests was paced. -/
def PacedSince (interval : Nat) (earlier : List Exchange) (host : Host σ) : Prop :=
  ∃ requests, host.history = requests ++ earlier ∧ Paced interval requests

theorem PacedSince.move [Layer σ] (paced : PacedSince interval earlier before)
    (move : Move interval before after) : PacedSince interval earlier after := by
  obtain ⟨requests, history, paced⟩ := paced
  cases move with
  | poll => exact ⟨_ :: requests, congrArg _ history, paced.cons rfl⟩
  | command => exact ⟨_ :: requests, congrArg _ history, paced.cons rfl⟩
  | @pause millis _ short served =>
    refine ⟨_ :: requests, congrArg _ history, List.forall_mem_cons.mpr ⟨short, paced.short⟩, ?_⟩
    intro first between last inside _ pauses
    rcases List.infix_cons_iff.mp inside with front | inside
    · obtain ⟨-, behind⟩ := List.cons_prefix_cons.mp front
      rw [history] at served
      exact served.poll_mem (behind.trans (List.prefix_append ..)) pauses
    · exact paced.served first between last inside ‹_› pauses
  | clearFlags => exact ⟨requests, history, paced⟩
  | resetPing => exact ⟨requests, history, paced⟩
  | markOpen => exact ⟨requests, history, paced⟩

end Host

namespace Wlan.Station

variable {σ : Type} [Layer σ]

/-- No move changes the settings. -/
theorem Move.config {before after : Station σ} (move : Move before after) :
    after.config = before.config := by
  cases move <;> rfl

theorem pacedSince_of_path {before after : Station σ} {earlier : List Exchange}
    (path : ReflTransGen Move before after)
    (paced : before.host.PacedSince before.config.interval earlier) :
    after.config = before.config ∧ after.host.PacedSince before.config.interval earlier := by
  induction path with
  | refl => exact ⟨rfl, paced⟩
  | tail _ move ih =>
    obtain ⟨config, paced⟩ := ih
    refine ⟨move.config.trans config, ?_⟩
    cases move with
    | host move =>
      rw [config] at move
      exact paced.move move
    | enter => exact paced
    | fetched => exact paced

/-- Whatever is asked of a station, it pauses for one interval at a time at most, and serves the
chip between any two pauses, so that nothing the chip has to report waits for longer. Patience is
arbitrary, so this holds at each moment of a wait without end as well. -/
theorem run_paced (station : Station σ) (ops : List Operation) :
    ∃ requests, (station.run ops).host.history = requests ++ station.host.history ∧
      Paced station.config.interval requests ∧
      ∀ stretch, stretch <:+: requests → (∀ exchange ∈ stretch, exchange.isPoll = false) →
        pausedFor stretch ≤ station.config.interval := by
  have start : station.host.PacedSince station.config.interval station.host.history :=
    ⟨[], rfl, .nil _⟩
  obtain ⟨-, requests, history, paced⟩ := pacedSince_of_path (run_walks station ops) start
  exact ⟨requests, history, paced, fun _ inside ↦ (paced.stretch inside).pausedFor_le⟩

end Wlan.Station

end SpiWifi
