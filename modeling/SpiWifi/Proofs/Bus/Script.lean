import SpiWifi.Proofs.Bus.Transcript

/-!
Straight runs of calls. Clocking out, clocking in and draining make the calls of a
fixed script, one after the other, and stop at the first that fails; a transaction
ends with the release of chip-select whether its script was finished or not.
-/

set_option autoImplicit false
set_option relaxedAutoImplicit false

namespace SpiWifi.Bus

open Wire

/-- The calls of a script, up to the first that failed. -/
inductive Follows : List Call → List Entry → Except Failure Unit → Prop where
  | done : Follows [] [] (.ok ())
  | stopped {request : Call} {rest : List Call} {entry : Entry} (call : entry.call = request)
      (fails : entry.fails = true) :
      Follows (request :: rest) [entry] (.error (.hardware request))
  | next {request : Call} {rest : List Call} {entry : Entry} {calls : List Entry}
      {result : Except Failure Unit} (call : entry.call = request) (fails : entry.fails = false)
      (tail : Follows rest calls result) : Follows (request :: rest) (entry :: calls) result

namespace Follows

variable {script more : List Call} {calls later : List Entry} {result : Except Failure Unit}

theorem append (h : Follows script calls (.ok ())) (k : Follows more later result) :
    Follows (script ++ more) (calls ++ later) result := by
  generalize hok : (Except.ok () : Except Failure Unit) = finished at h
  induction h with
  | done => exact k
  | stopped => cases hok
  | next call fails _ ih => exact .next call fails (ih hok)

theorem append_error {failure : Failure} (h : Follows script calls (.error failure))
    (more : List Call) : Follows (script ++ more) calls (.error failure) := by
  generalize herror : Except.error failure = stopped at h
  induction h with
  | done => cases herror
  | stopped call fails => exact .stopped call fails
  | next call fails _ ih => exact .next call fails (ih herror)

/-- A script that was finished made each of its calls, and none failed. -/
theorem of_ok (h : Follows script calls (.ok ())) :
    calls.map Entry.call = script ∧ ∀ entry ∈ calls, entry.fails = false := by
  generalize hok : (Except.ok () : Except Failure Unit) = finished at h
  induction h with
  | done => exact ⟨rfl, fun _ mem ↦ absurd mem List.not_mem_nil⟩
  | stopped => cases hok
  | next call fails _ ih =>
    obtain ⟨calls, sound⟩ := ih hok
    exact ⟨by rw [List.map_cons, call, calls], List.forall_mem_cons.mpr ⟨fails, sound⟩⟩

/-- A script that stopped early did so at its last call, which failed. -/
theorem of_error {failure : Failure} (h : Follows script calls (.error failure)) :
    ∃ sound last, calls = sound ++ [last] ∧ (∀ entry ∈ sound, entry.fails = false) ∧
      last.fails = true ∧ failure = .hardware last.call := by
  generalize herror : Except.error failure = stopped at h
  induction h with
  | done => cases herror
  | stopped call fails =>
    cases herror
    exact ⟨[], _, rfl, fun _ mem ↦ absurd mem List.not_mem_nil, fails, by rw [call]⟩
  | @next request rest entry calls result call fails _ ih =>
    obtain ⟨sound, last, rfl, quiet, fails', rfl⟩ := ih herror
    exact ⟨entry :: sound, last, rfl, List.forall_mem_cons.mpr ⟨fails, quiet⟩, fails', rfl⟩

theorem failed {failure : Failure} (h : Follows script calls (.error failure)) :
    ∃ entry ∈ calls, entry.fails = true ∧ failure = .hardware entry.call := by
  obtain ⟨sound, last, rfl, -, fails, cause⟩ := h.of_error
  exact ⟨last, List.mem_append_right _ (List.mem_singleton_self _), fails, cause⟩

theorem call_mem (h : Follows script calls result) {entry : Entry} (mem : entry ∈ calls) :
    entry.call ∈ script := by
  induction h with
  | done => cases mem
  | stopped call _ =>
    rw [List.mem_singleton.mp mem, call]
    exact List.mem_cons_self
  | next call _ _ ih =>
    rcases List.mem_cons.mp mem with rfl | mem
    · rw [call]
      exact List.mem_cons_self
    · exact List.mem_cons_of_mem _ (ih mem)

end Follows

/-- What a transaction reports: the failure of its body, else that of the release. -/
def closing (body : Except Failure Unit) (release : Entry) : Except Failure Unit :=
  match body with
  | .error failure => .error failure
  | .ok () => if release.fails then .error (.hardware .release) else .ok ()

/-- A script and the release after it. -/
inductive Transacts (script : List Call) : List Entry → Except Failure Unit → Prop where
  | intro {calls : List Entry} {body : Except Failure Unit} {release : Entry}
      (follows : Follows script calls body) (call : release.call = .release) :
      Transacts script (calls ++ [release]) (closing body release)

namespace Transacts

variable {script : List Call} {calls : List Entry}

/-- A transaction that succeeds has made every call of its script and released the chip. -/
theorem of_ok (h : Transacts script calls (.ok ())) :
    ∃ inside release, calls = inside ++ [release] ∧ inside.map Entry.call = script ∧
      release.call = .release ∧ release.fails = false := by
  generalize hok : (Except.ok () : Except Failure Unit) = result at h
  cases h with
  | @intro inside body release follows call =>
    unfold closing at hok
    split at hok
    · cases hok
    · split at hok
      · cases hok
      · rename_i sound
        exact ⟨inside, release, rfl, follows.of_ok.1, call, Bool.eq_false_iff.mpr sound⟩

/-- A transaction fails at a call of its script or at its release. -/
theorem of_error {failure : Failure} (h : Transacts script calls (.error failure)) :
    ∃ call, failure = .hardware call ∧ (call ∈ script ∨ call = .release) := by
  generalize herror : Except.error failure = result at h
  cases h with
  | @intro inside body release follows call =>
    unfold closing at herror
    split at herror
    · cases herror
      obtain ⟨last, mem, -, rfl⟩ := follows.failed
      exact ⟨_, rfl, Or.inl (follows.call_mem mem)⟩
    · split at herror
      · cases herror
        exact ⟨_, rfl, Or.inr rfl⟩
      · cases herror

theorem call_mem {result : Except Failure Unit} (h : Transacts script calls result) {entry : Entry}
    (mem : entry ∈ calls) : entry.call ∈ script ∨ entry.call = .release := by
  cases h with
  | intro follows call =>
    rcases List.mem_append.mp mem with mem | mem
    · exact Or.inl (follows.call_mem mem)
    · rw [List.mem_singleton.mp mem]
      exact Or.inr call

end Transacts

variable {σ : Type} [Board σ] {bus : Bus σ}

/-- `op` makes the calls of the script and changes nothing else. -/
def Performs (script : List Call) (op : BusM σ Unit) (bus : Bus σ) : Prop :=
  Ensures op bus fun result after ↦ ∃ calls, Steady bus calls after ∧ Follows script calls result

/-- A call that can fail and is checked. -/
theorem demand_ensures {request : Call} (visible : request.part?.isSome = true) (bus : Bus σ) :
    Ensures (demand request) bus fun result after ↦
      ∃ entry, Steady bus [entry] after ∧ entry.call = request ∧
        result = if entry.fails then .error (.hardware request) else .ok entry.reply := by
  have fails := fails_entryOf visible bus
  simp only [demand, check, ensures_call_bind]
  by_cases failed : (bus.entryOf request).reply.failed = true
  · simp only [failed, ↓reduceIte, ensures_throw_bind]
    exact ⟨_, .call bus request, rfl, by simp only [fails, failed, ↓reduceIte]⟩
  · simp only [failed, Bool.false_eq_true, ↓reduceIte, ensures_pure_bind, ensures_pure]
    exact ⟨_, .call bus request, rfl, by simp only [fails, failed, Bool.false_eq_true, ↓reduceIte]⟩

theorem performs_demand {request : Call} (visible : request.part?.isSome = true) (bus : Bus σ) :
    Performs [request] (discard (demand request)) bus := by
  refine ensures_discard.mpr ((demand_ensures visible bus).mono ?_)
  rintro _ after ⟨entry, step, call, rfl⟩
  refine ⟨[entry], step, ?_⟩
  by_cases fails : entry.fails = true
  · simp only [fails, ↓reduceIte]
    exact .stopped call fails
  · simp only [fails, Bool.false_eq_true, ↓reduceIte]
    exact .next call (Bool.eq_false_iff.mpr fails) .done

/-- A call that cannot fail. -/
theorem performs_call {request : Call} (silent : request.part? = none) (bus : Bus σ) :
    Performs [request] (discard (call request)) bus := by
  refine ensures_discard.mpr ⟨_, .call bus request, .next rfl ?_ .done⟩
  simp only [Entry.fails, entryOf, silent, Option.isSome_none, Bool.false_and]

theorem Performs.bind {script more : List Call} {op : BusM σ Unit} {next : Unit → BusM σ Unit}
    (h : Performs script op bus)
    (rest : ∀ calls middle, Steady bus calls middle → Performs more (next ()) middle) :
    Performs (script ++ more) (op >>= next) bus := by
  refine Ensures.bind h ?_ ?_
  · rintro _ middle ⟨calls, step, follows⟩
    refine (rest calls middle step).mono ?_
    rintro result after ⟨later, step', follows'⟩
    exact ⟨calls ++ later, step.trans step', follows.append follows'⟩
  · rintro failure after ⟨calls, step, follows⟩
    exact ⟨calls, step, follows.append_error more⟩

/-! ### Clocking -/

theorem clockOut_performs {start stop : Nat} {bytes : List UInt8}
    (window : bus.transmit.window? start stop = some bytes) :
    Performs [.write bytes, .flush] (clockOut start stop) bus := by
  unfold Performs clockOut
  simp only [ensures_get_bind, window]
  exact (performs_demand rfl bus).bind fun _ _ _ ↦ performs_demand rfl _

/-- The calls that clock in a window of this width. -/
def exchangeScript (width : Nat) : List Call :=
  [.exchange (List.replicate width readFill), .flush]

omit [Board σ] in
/-- The fill byte goes into the window first, and what came in over it. -/
theorem storing_received {start width : Nat} {entry : Entry} (fits : start + width ≤ bufferCapacity)
    (call : entry.call = .exchange (List.replicate width readFill)) :
    (bus.storing start (List.replicate width readFill)).storing start
      (entry.reply.incoming.take width) = bus.storing start entry.received := by
  have short : (entry.reply.incoming.take width).length ≤
      (List.replicate width readFill).length := by
    rw [List.length_replicate, List.length_take]
    omega
  have put := bus.receive.put_put_front short (by rwa [List.length_replicate])
  rw [List.drop_replicate] at put
  simp only [storing, put, Entry.received, call, List.length_replicate]

/-- The window holds what came in, also when a call failed. -/
theorem clockIn_ensures {start stop : Nat} (order : start ≤ stop) (fits : stop ≤ bufferCapacity) :
    Ensures (clockIn start stop) bus fun result after ↦
      ∃ calls, Steady (bus.storing start (received calls)) calls after ∧
        Follows (exchangeScript (stop - start)) calls result := by
  have window : bus.receive.window? start stop =
      some ((bus.receive.bytes.drop start).take (stop - start)) :=
    if_pos ⟨order, fits⟩
  simp only [clockIn, ensures_get_bind, window, GuardedBuffer.length_window? window,
    List.length_replicate, ensures_storing_bind, ensures_call_bind]
  generalize hrequest : Call.exchange (List.replicate (stop - start) readFill) = request
  have step := (Steady.call (bus.storing start (List.replicate (stop - start) readFill))
    request).storing start (((bus.storing start (List.replicate (stop - start) readFill)).entryOf
      request).reply.incoming.take (stop - start))
  rw [storing_received (by omega) hrequest.symm] at step
  generalize hentry : (bus.storing start (List.replicate (stop - start) readFill)).entryOf
    request = entry at *
  subst hrequest
  have call : entry.call = .exchange (List.replicate (stop - start) readFill) := by
    rw [← hentry]
    rfl
  have fails : entry.fails = entry.reply.failed := by
    simp only [Entry.fails, call, Call.part?, Option.isSome_some, Bool.true_and]
  refine ensures_check_bind.mpr ?_
  split
  · rename_i failed
    refine ⟨[entry], ?_, .stopped call (fails.trans failed)⟩
    simpa only [received, List.flatMap_singleton] using step
  · rename_i sound
    refine (performs_demand rfl _).mono ?_
    rintro result after ⟨later, flushed, follows⟩
    have nothing : received later = [] := received_eq_nil fun other mem outgoing exchange ↦ by
      have := follows.call_mem mem
      simp only [exchange, List.mem_singleton, reduceCtorEq] at this
    refine ⟨entry :: later, ?_, .next call (fails.trans (Bool.eq_false_iff.mpr sound))
      follows⟩
    have whole : received (entry :: later) = entry.received := by
      rw [received, List.flatMap_cons, ← received, nothing, List.append_nil]
    rw [whole]
    exact step.trans flushed

/-- The first call of the script is always made, and fills the whole window. -/
theorem length_received_exchange {width : Nat} {calls : List Entry} {result : Except Failure Unit}
    (h : Follows (exchangeScript width) calls result) : (received calls).length = width := by
  have first {entry : Entry} (call : entry.call = .exchange (List.replicate width readFill)) :
      entry.received.length = width := by
    rw [Entry.length_received call, List.length_replicate]
  cases h with
  | stopped call _ =>
    rw [received, List.flatMap_singleton]
    exact first call
  | @next _ _ entry later _ call _ tail =>
    have nothing : received later = [] := received_eq_nil fun other mem outgoing exchange ↦ by
      have := tail.call_mem mem
      simp only [exchange, List.mem_singleton, reduceCtorEq] at this
    rw [received, List.flatMap_cons, ← received, nothing, List.append_nil]
    exact first call

/-- The calls that clock in and throw away `count` bytes. -/
def drainScript (count : Nat) : List Call :=
  if count = 0 then
    [.flush]
  else
    .exchange (List.replicate (min count drainChunk) readFill) :: drainScript (count - drainChunk)
termination_by count
decreasing_by
  simp only [drainChunk]
  omega

theorem drain_performs (count : Nat) (bus : Bus σ) :
    Performs (drainScript count) (drain count) bus := by
  fun_induction drainScript count generalizing bus with
  | case1 =>
    rw [drain]
    exact performs_demand rfl bus
  | case2 count more ih =>
    rw [drain]
    simp only [more, ↓reduceIte]
    exact (performs_demand rfl bus).bind fun _ middle _ ↦ ih middle

/-! ### The end of a transaction -/

theorem conclude_ensures (body : Except Failure Unit) (bus : Bus σ) :
    Ensures (conclude body) bus fun result after ↦
      ∃ release, Steady (bus.inPhase .idle) [release] after ∧ release.call = .release ∧
        result = closing body release := by
  simp only [conclude, ensures_enterPhase_bind, ensures_call_bind]
  have step := Steady.call (bus.inPhase .idle) .release
  have fails : ((bus.inPhase .idle).entryOf .release).fails = _ := fails_entryOf rfl _
  cases body with
  | error failure => exact ⟨_, step, rfl, rfl⟩
  | ok _ =>
    refine ensures_check.mpr ?_
    split
    · rename_i failed
      exact ⟨_, step, rfl, by rw [closing, fails, if_pos failed]⟩
    · rename_i sound
      exact ⟨_, step, rfl, by rw [closing, fails, if_neg sound]⟩

/-- Dropping a staged write releases chip-select, whatever comes of it. -/
theorem abandon_ensures {α : Type} {failure : Failure} (inFlight : bus.phase.inFlight = true)
    (sound : bus.poisoned = false) :
    Ensures (abandon failure : BusM σ α) bus fun result after ↦
      result = .error failure ∧ ∃ release released, Steady (bus.inPhase .idle) [release] released ∧
        release.call = .release ∧ after = released.listening := by
  have step := Steady.call bus .release
  have dropped : Ensures abort bus fun result after ↦
      result = .ok () ∧ after = (bus.called .release).inPhase .idle := by
    simp only [abort, ensures_get_bind, inFlight, ↓reduceIte, ensures_discard_call_bind,
      ensures_enterPhase, and_self]
  apply dropped.bind_ok
  rintro _ rfl
  have clear : ((bus.called .release).inPhase .idle).poisoned = false := step.poisoned.trans sound
  simp only [ensures_get_bind, clear, Bool.false_eq_true, ↓reduceIte, ensures_enableInterrupt_bind,
    ensures_throw, true_and]
  exact ⟨_, _, step.inPhase .idle, rfl, rfl⟩

/-- Nothing is left to drop once the engine is idle again. -/
theorem abandon_idle {α : Type} {failure : Failure} (idle : bus.phase = .idle)
    (sound : bus.poisoned = false) :
    Ensures (abandon failure : BusM σ α) bus fun result after ↦
      result = .error failure ∧ after = bus.listening := by
  have dropped : Ensures abort bus fun result after ↦ result = .ok () ∧ after = bus := by
    simp only [abort, ensures_get_bind, idle, Phase.inFlight, Phase.isWrite, Phase.isRead,
      Bool.or_self, Bool.false_eq_true, ↓reduceIte, ensures_pure, and_self]
  apply dropped.bind_ok
  rintro _ rfl
  simp only [ensures_get_bind, sound, Bool.false_eq_true, ↓reduceIte, ensures_enableInterrupt_bind,
    ensures_throw, and_self]

end SpiWifi.Bus
