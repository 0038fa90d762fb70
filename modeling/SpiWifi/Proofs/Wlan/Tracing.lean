import SpiWifi.Proofs.Chip.Waiting
import SpiWifi.Wlan.Station

/-!
What an operation of a station asks of the chip. `Traces op station post` says that `op` went
through some trace of requests, and that `post` holds of this trace, of the result of `op`, and
of the station that it leaves. One rule for each way to chain operations puts the traces together.
-/

set_option autoImplicit false
set_option relaxedAutoImplicit false

namespace SpiWifi.Wlan

open Chip

/-- The longest pause between two polls of a wait. -/
def Config.interval (config : Config) : Nat := max config.pollInterval.toNat 1

theorem Config.interval_pos (config : Config) : 0 < config.interval :=
  Nat.lt_of_lt_of_le Nat.zero_lt_one (Nat.le_max_right ..)

namespace Station

variable {σ α β : Type} {station : Station σ}

/-- The station has made the requests of the trace; its settings are what they were. -/
structure Asked (before : Station σ) (trace : List Exchange) (after : Station σ) : Prop where
  host : before.host.Made trace after.host
  config : after.config = before.config

namespace Asked

variable {before middle after : Station σ} {trace later : List Exchange}

theorem refl (station : Station σ) : Asked station [] station := ⟨.refl _, rfl⟩

theorem trans (h : Asked before trace middle) (k : Asked middle later after) :
    Asked before (trace ++ later) after :=
  ⟨h.host.trans k.host, k.config.trans h.config⟩

end Asked

def Traces (op : StationStateM σ α) (station : Station σ)
    (post : List Exchange → α → Station σ → Prop) : Prop :=
  ∃ trace, Asked station trace (op station).2 ∧ post trace (op station).1 (op station).2

theorem Traces.mono {op : StationStateM σ α} {mid post : List Exchange → α → Station σ → Prop}
    (h : Traces op station mid)
    (weaken : ∀ trace result after, mid trace result after → post trace result after) :
    Traces op station post := by
  obtain ⟨trace, asked, holds⟩ := h
  exact ⟨trace, asked, weaken _ _ _ holds⟩

/-- What goes on from where some requests have led. -/
theorem Traces.continues {op : StationStateM σ α} {middle : Station σ} {trace : List Exchange}
    {post : List Exchange → α → Station σ → Prop} (asked : Asked station trace middle)
    (h : Traces op middle fun later result after ↦ post (trace ++ later) result after) :
    ∃ all, Asked station all (op middle).2 ∧ post all (op middle).1 (op middle).2 := by
  obtain ⟨later, more, holds⟩ := h
  exact ⟨trace ++ later, asked.trans more, holds⟩

/-! ### Chains -/

theorem bind_apply (op : StationM σ α) (next : α → StationM σ β) (station : Station σ) :
    (op >>= next) station =
      match op station with
      | (.ok value, after) => next value after
      | (.error failure, after) => (.error failure, after) := by
  simp only [bind, ExceptT.bind, ExceptT.mk, StateT.bind, ExceptT.bindCont]
  rcases op station with ⟨_ | _, after⟩ <;> rfl

theorem lift_bind_apply (op : StationStateM σ α) (next : α → StationM σ β) (station : Station σ) :
    (liftM op >>= next : StationM σ β) station = next (op station).1 (op station).2 := rfl

theorem observing_apply (op : StationM σ α) (station : Station σ) :
    observing op station = (.ok (op station).1, (op station).2) := by
  change (ExceptT.tryCatch (op >>= fun value ↦ pure (Except.ok value))
    (fun failure ↦ pure (Except.error failure))) station = _
  simp only [ExceptT.tryCatch, ExceptT.mk, bind, StateT.bind, ExceptT.bind, ExceptT.bindCont]
  rcases op station with ⟨_ | _, after⟩ <;> rfl

theorem discard_observing_apply (op : StationM σ α) (station : Station σ) :
    (discard (observing op) : StationM σ Unit) station = (.ok (), (op station).2) := by
  show ((fun _ ↦ ()) <$> observing op : StationM σ Unit) station = _
  rw [map_eq_pure_bind, bind_apply, observing_apply]
  rfl

/-- A failure of the first operation is the failure of the whole. -/
theorem Traces.bind {op : StationM σ α} {next : α → StationM σ β}
    {mid : List Exchange → Except WifiError α → Station σ → Prop}
    {post : List Exchange → Except WifiError β → Station σ → Prop} (h : Traces op station mid)
    (ok : ∀ trace value after, Asked station trace after → mid trace (.ok value) after →
      Traces (next value) after fun later result last ↦ post (trace ++ later) result last)
    (error : ∀ trace failure after, mid trace (.error failure) after →
      post trace (.error failure) after) :
    Traces (op >>= next : StationM σ β) station post := by
  obtain ⟨trace, asked, holds⟩ := h
  unfold Traces
  rw [bind_apply]
  rcases hop : op station with ⟨failure | value, after⟩ <;> rw [hop] at asked holds
  · exact ⟨trace, asked, error trace failure after holds⟩
  · exact Traces.continues asked (ok trace value after asked holds)

/-- An operation that cannot fail goes on to what follows. -/
theorem Traces.lift {op : StationStateM σ α} {next : α → StationM σ β}
    {mid : List Exchange → α → Station σ → Prop}
    {post : List Exchange → Except WifiError β → Station σ → Prop} (h : Traces op station mid)
    (rest : ∀ trace value after, Asked station trace after → mid trace value after →
      Traces (next value) after fun later result last ↦ post (trace ++ later) result last) :
    Traces (liftM op >>= next : StationM σ β) station post := by
  obtain ⟨trace, asked, holds⟩ := h
  exact (Traces.continues asked (rest trace _ _ asked holds) :)

/-- The same among operations that cannot fail. -/
theorem Traces.andThen {op : StationStateM σ α} {next : α → StationStateM σ β}
    {mid : List Exchange → α → Station σ → Prop} {post : List Exchange → β → Station σ → Prop}
    (h : Traces op station mid)
    (rest : ∀ trace value after, Asked station trace after → mid trace value after →
      Traces (next value) after fun later result last ↦ post (trace ++ later) result last) :
    Traces (op >>= next) station post := by
  obtain ⟨trace, asked, holds⟩ := h
  exact (Traces.continues asked (rest trace _ _ asked holds) :)

/-- An observed operation never fails: its result goes to what follows. -/
theorem Traces.observe {op : StationM σ α} {next : Except WifiError α → StationM σ β}
    {mid : List Exchange → Except WifiError α → Station σ → Prop}
    {post : List Exchange → Except WifiError β → Station σ → Prop} (h : Traces op station mid)
    (rest : ∀ trace result after, Asked station trace after → mid trace result after →
      Traces (next result) after fun later result last ↦ post (trace ++ later) result last) :
    Traces (observing op >>= next : StationM σ β) station post := by
  obtain ⟨trace, asked, holds⟩ := h
  unfold Traces
  rw [bind_apply, observing_apply]
  exact (Traces.continues asked (rest trace _ _ asked holds) :)

theorem Traces.ignore {op : StationM σ α} {next : Unit → StationM σ β}
    {mid : List Exchange → Except WifiError α → Station σ → Prop}
    {post : List Exchange → Except WifiError β → Station σ → Prop} (h : Traces op station mid)
    (rest : ∀ trace result after, Asked station trace after → mid trace result after →
      Traces (next ()) after fun later result last ↦ post (trace ++ later) result last) :
    Traces (discard (observing op) >>= next : StationM σ β) station post := by
  obtain ⟨trace, asked, holds⟩ := h
  unfold Traces
  rw [bind_apply, discard_observing_apply]
  exact (Traces.continues asked (rest trace _ _ asked holds) :)

section Primitives

variable {post : List Exchange → Except WifiError β → Station σ → Prop}

theorem traces_pure {value : α} {post : List Exchange → α → Station σ → Prop}
    (h : post [] value station) : Traces (pure value) station post := ⟨[], .refl _, h⟩

theorem traces_throw {failure : WifiError} (h : post [] (.error failure) station) :
    Traces (throw failure : StationM σ β) station post := ⟨[], .refl _, h⟩

theorem traces_throw_bind {failure : WifiError} {next : α → StationM σ β}
    (h : post [] (.error failure) station) :
    Traces (throw failure >>= next : StationM σ β) station post := ⟨[], .refl _, h⟩

@[simp] theorem traces_get_bind {next : Station σ → StationM σ β} :
    Traces (get >>= next : StationM σ β) station post ↔ Traces (next station) station post :=
  Iff.rfl

@[simp] theorem traces_get_andThen {next : Station σ → StationStateM σ β}
    {post : List Exchange → β → Station σ → Prop} :
    Traces (get >>= next) station post ↔ Traces (next station) station post := Iff.rfl

@[simp] theorem traces_pure_bind {value : α} {next : α → StationM σ β} :
    Traces (pure value >>= next : StationM σ β) station post ↔
      Traces (next value) station post := Iff.rfl

end Primitives

/-- The station once it has entered a stage. -/
def inStage (station : Station σ) (stage : Stage) : Station σ := { station with stage }

theorem traces_enter {stage : Stage}
    {post : List Exchange → Except WifiError Unit → Station σ → Prop}
    (h : post [] (.ok ()) (station.inStage stage)) :
    Traces (liftM (enter (σ := σ) stage) : StationM σ Unit) station post :=
  ⟨[], ⟨.refl _, rfl⟩, h⟩

theorem traces_enter_bind {stage : Stage} {next : Unit → StationM σ β}
    {post : List Exchange → Except WifiError β → Station σ → Prop}
    (h : Traces (next ()) (station.inStage stage) post) :
    Traces (liftM (enter (σ := σ) stage) >>= next : StationM σ β) station post := by
  obtain ⟨trace, asked, holds⟩ := h
  exact ⟨trace, ⟨asked.host, asked.config⟩, holds⟩

end Station

end SpiWifi.Wlan
