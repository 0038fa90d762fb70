import SpiWifi.Proofs.Bus.Blame

/-!
Frames come in whole or not at all. A poll that reads a frame clocks in as many bytes as the
first of them announce, all inside one selection of the chip, so that the next frame starts
where the chip starts it. A packet is handed over by a poll that succeeds, and it is what came
in then, without the header.
-/

set_option autoImplicit false
set_option relaxedAutoImplicit false

namespace SpiWifi.Bus

open Wire

/-- The bytes that the host puts on its line during a call. -/
def Call.outgoing : Call → List UInt8
  | .write bytes => bytes
  | .exchange outgoing => outgoing
  | _ => []

/-- The host puts nothing but fill bytes on its line. -/
def Fills (calls : List Entry) : Prop :=
  ∀ entry ∈ calls, ∀ byte ∈ entry.call.outgoing, byte = readFill

/-- A whole frame that came in inside one selection of the chip: before it the engine has only
looked at the line, and after it only handed a packet over. -/
structure WholeFrame (calls : List Entry) : Prop where
  window : ∃ before select inside release after,
    calls = before ++ (select :: inside ++ release :: after) ∧
      (∀ entry ∈ before, entry.call = .sampleLine) ∧ Selects select ∧
      (∀ entry ∈ inside, entry.call.fetches = true ∧ entry.fails = false) ∧
      (release.call = .release ∧ release.fails = false) ∧
      (∀ entry ∈ after, ∃ packet, entry.call = .deliver packet) ∧
      received calls = received inside
  length : (received calls).length =
    leadSize + remainingLength ((received calls).take leadSize)

theorem Entry.length_received_eq (entry : Entry) : entry.received.length = entry.call.clocksIn := by
  cases call : entry.call with
  | exchange outgoing => exact length_received call
  | _ => simp only [received, call, List.length_nil, Call.clocksIn]

/-- As many bytes come in as the exchanges ask for. -/
theorem length_received (calls : List Entry) : (received calls).length = clockedIn calls := by
  induction calls with
  | nil => rfl
  | cons entry rest ih =>
    rw [received, List.flatMap_cons, List.length_append, entry.length_received_eq, ← received, ih]
    rfl

theorem Undelivered.handedOver_eq {calls : List Entry} (h : Undelivered calls) :
    handedOver calls = [] := by
  refine List.filterMap_eq_nil_iff.mpr fun entry mem ↦ ?_
  have other := h entry mem
  cases call : entry.call with
  | deliver packet => exact absurd call (other packet)
  | _ => rfl

/-- A call that is no exchange brings nothing in. -/
theorem received_cons {entry : Entry} {call : Call} (is : entry.call = call)
    (other : ∀ outgoing, call ≠ .exchange outgoing) (calls : List Entry) :
    received (entry :: calls) = received calls := by
  have nothing : received [entry] = [] :=
    received_eq_nil (List.forall_mem_singleton.mpr (is ▸ other))
  rw [← List.singleton_append, received_append, nothing, List.nil_append]

section Scripts

variable {script : List Call} {calls : List Entry} {result : Except Failure Unit}

theorem fills_exchangeScript (width : Nat) :
    ∀ call ∈ exchangeScript width, ∀ byte ∈ call.outgoing, byte = readFill := by
  refine List.forall_mem_cons.mpr ⟨fun byte mem ↦ (List.mem_replicate.mp mem).2, ?_⟩
  exact List.forall_mem_singleton.mpr fun _ mem ↦ absurd mem List.not_mem_nil

theorem fills_bodyScript (remaining : Nat) :
    ∀ call ∈ bodyScript remaining, ∀ byte ∈ call.outgoing, byte = readFill := by
  unfold bodyScript
  split
  · exact fills_exchangeScript remaining
  · exact fun _ mem ↦ absurd mem List.not_mem_nil

theorem fills_drainScript (count : Nat) :
    ∀ call ∈ drainScript count, ∀ byte ∈ call.outgoing, byte = readFill := by
  fun_induction drainScript count with
  | case1 => exact List.forall_mem_singleton.mpr fun _ mem ↦ absurd mem List.not_mem_nil
  | case2 count more ih =>
    exact List.forall_mem_cons.mpr ⟨fun byte mem ↦ (List.mem_replicate.mp mem).2, ih⟩

theorem Follows.fills (h : Follows script calls result)
    (fills : ∀ call ∈ script, ∀ byte ∈ call.outgoing, byte = readFill) : Fills calls :=
  fun _ mem ↦ fills _ (h.call_mem mem)

theorem Fills.append {later : List Entry} (h : Fills calls) (k : Fills later) :
    Fills (calls ++ later) := List.forall_mem_append.mpr ⟨h, k⟩

theorem Fills.single {entry : Entry} {call : Call} (is : entry.call = call)
    (silent : call.outgoing = []) : Fills [entry] := by
  refine List.forall_mem_singleton.mpr ?_
  rw [is, silent]
  exact fun _ mem ↦ absurd mem List.not_mem_nil

theorem Clocked.fills (h : Clocked calls result) : Fills calls := by
  cases h with
  | lead broken => exact broken.fills (fills_exchangeScript _)
  | body whole _ rest =>
    exact (whole.fills (fills_exchangeScript _)).append (rest.fills (fills_bodyScript _))

theorem Clocked.fetches (h : Clocked calls result) : ∀ entry ∈ calls, entry.call.fetches = true := by
  cases h with
  | lead broken => exact fun entry mem ↦ fetches_exchangeScript _ _ (broken.call_mem mem)
  | body whole _ rest =>
    refine List.forall_mem_append.mpr ⟨fun entry mem ↦ ?_, fun entry mem ↦ ?_⟩
    · exact fetches_exchangeScript _ _ (whole.call_mem mem)
    · exact fetches_bodyScript _ _ (rest.call_mem mem)

/-- A frame that is drained to its end has come in whole, though in vain. -/
theorem Follows.length_drained {count : Nat} (h : Follows (drainScript count) calls (.ok ())) :
    (received calls).length = count := by
  rw [length_received, clockedIn_of_map h.of_ok.1, width_drainScript]

end Scripts

/-! ### One read -/

/-- What the calls of a read amount to. -/
inductive Taken (attached : Bool) (calls : List Entry) : Except Failure Unit → Prop where
  | broken {failure : Failure} (unhanded : handedOver calls = []) (cause : failure ≠ .tooLong) :
      Taken attached calls (.error failure)
  | dropped (whole : WholeFrame calls) (long : bufferCapacity < (received calls).length)
      (unhanded : handedOver calls = []) : Taken attached calls (.error .tooLong)
  | landed (whole : WholeFrame calls) (fits : (received calls).length ≤ bufferCapacity)
      (handed : handedOver calls =
        if attached then [(received calls).drop headerSize] else []) :
      Taken attached calls (.ok ())

theorem received_window {select release : Entry} {inside after : List Entry}
    (call : select.call = .select) (drops : release.call = .release)
    (delivers : ∀ entry ∈ after, ∃ packet, entry.call = .deliver packet) :
    received (select :: inside ++ release :: after) = received inside := by
  have nothing : received (release :: after) = [] := by
    refine received_eq_nil (List.forall_mem_cons.mpr ⟨fun _ ↦ ?_, fun entry mem _ exchange ↦ ?_⟩)
    · rw [drops]
      exact Call.noConfusion
    · obtain ⟨packet, deliver⟩ := delivers entry mem
      rw [deliver] at exchange
      cases exchange
  rw [received_append, nothing, List.append_nil,
    received_cons call fun _ ↦ Call.noConfusion]

/-- The calls of a read that has come to the end of its frame. -/
theorem WholeFrame.of_window {select release : Entry} {inside after : List Entry}
    (selects : Selects select)
    (fetches : ∀ entry ∈ inside, entry.call.fetches = true ∧ entry.fails = false)
    (releases : release.call = .release ∧ release.fails = false)
    (delivers : ∀ entry ∈ after, ∃ packet, entry.call = .deliver packet)
    (length : (received inside).length =
      leadSize + remainingLength ((received inside).take leadSize)) :
    WholeFrame (select :: inside ++ release :: after) := by
  have same : received (select :: inside ++ release :: after) = received inside :=
    received_window selects.1 releases.1 delivers
  refine ⟨⟨[], select, inside, release, after, rfl, ?_, selects, fetches, releases, delivers, same⟩, ?_⟩
  · exact fun _ mem ↦ absurd mem List.not_mem_nil
  · rw [same]
    exact length

variable {σ : Type} [Board σ] {bus after : Bus σ}

theorem FrameRead.taken {result : Except Failure Unit} (h : FrameRead bus result after) :
    ∃ calls, Made bus calls after ∧ Fills calls ∧ Taken bus.attached calls result := by
  have opens {select : Entry} (call : select.call = .select) : Fills [select] := .single call rfl
  have closes {release : Entry} (call : release.call = .release) : Fills [release] :=
    .single call rfl
  have none : ∀ entry ∈ ([] : List Entry), ∃ packet, entry.call = .deliver packet :=
    fun _ mem ↦ absurd mem List.not_mem_nil
  cases h with
  | refused call _ step =>
    have silent : Undelivered [_] := .single call fun _ ↦ Call.noConfusion
    exact ⟨_, step.made, opens call, .broken silent.handedOver_eq (by rintro ⟨⟩)⟩
  | broken selects clocked drops step =>
    have silent := undelivered_window selects.1 clocked.plain drops
    refine ⟨_, step.made, ((opens selects.1).append clocked.fills).append (closes drops),
      .broken silent.handedOver_eq ?_⟩
    rintro rfl
    cases clocked.not_refusal _ rfl
  | @oversize select release lead drained body _ selects whole long drains drops step =>
    have fetched := plain_append (whole.plain (plain_of_fetches (fetches_exchangeScript _)))
      (drains.plain (plain_of_fetches (fetches_drainScript _)))
    have silent := (undelivered_window selects.1 fetched drops).handedOver_eq
    have fills := ((opens selects.1).append ((whole.fills (fills_exchangeScript _)).append
      (drains.fills (fills_drainScript _)))).append (closes drops)
    refine ⟨_, step.made, fills, ?_⟩
    cases body with
    | error failure =>
      refine .broken silent ?_
      rintro rfl
      cases drains.not_refusal _ rfl
    | ok _ =>
      by_cases fails : release.fails = true
      · simp only [closing, fails, ↓reduceIte]
        exact .broken silent (by rintro ⟨⟩)
      · have hlead := length_received_exchange whole
        have total : (received (lead ++ drained)).length = leadSize +
            remainingLength ((received (lead ++ drained)).take leadSize) := by
          rw [received_append, List.take_left' hlead, List.length_append, hlead,
            drains.length_drained]
        have fetches : ∀ entry ∈ lead ++ drained, entry.call.fetches = true ∧
            entry.fails = false := by
          refine List.forall_mem_append.mpr ⟨fun entry mem ↦ ?_, fun entry mem ↦ ?_⟩
          · exact ⟨fetches_exchangeScript _ _ (whole.call_mem mem), whole.of_ok.2 entry mem⟩
          · exact ⟨fetches_drainScript _ _ (drains.call_mem mem), drains.of_ok.2 entry mem⟩
        simp only [closing, fails, Bool.false_eq_true, ↓reduceIte]
        refine .dropped (.of_window selects fetches ⟨drops, Bool.eq_false_iff.mpr fails⟩ none total)
          ?_ silent
        rw [received_window selects.1 drops none, total, received_append, List.take_left' hlead]
        exact long
  | unreleased selects clocked step drops _ close =>
    have silent := undelivered_window selects.1 clocked.plain drops
    exact ⟨_, step.made.trans close.made,
      ((opens selects.1).append clocked.fills).append (closes drops),
      .broken silent.handedOver_eq (by rintro ⟨⟩)⟩
  | overrun selects clocked step drops _ close _ =>
    have silent := undelivered_window selects.1 clocked.plain drops
    exact ⟨_, step.made.trans close.made,
      ((opens selects.1).append clocked.fills).append (closes drops),
      .broken silent.handedOver_eq (by rintro ⟨⟩)⟩
  | @delivered select release calls delivery _ _ _ selects clocked step drops sound close _ handed
      packet =>
    obtain ⟨length, fits⟩ := clocked.length_received
    have delivers := delivers_of_map packet
    have given : Fills delivery := by
      intro entry mem byte out
      obtain ⟨packet, deliver⟩ := delivers entry mem
      rw [deliver] at out
      cases out
    have silent := (undelivered_window selects.1 clocked.plain drops).handedOver_eq
    have same : received (select :: calls ++ release :: delivery) = received calls :=
      received_window selects.1 drops delivers
    have out : handedOver delivery =
        if bus.attached then [(received calls).drop headerSize] else [] := by
      rw [handedOver_of_map packet]
      split <;> rfl
    refine ⟨select :: calls ++ release :: delivery, ?_, ?_, .landed ?_ ?_ ?_⟩
    · have made := (step.made.trans close.made).trans handed.made
      rwa [List.append_assoc] at made
    · exact ((opens selects.1).append clocked.fills).append ((closes drops).append given)
    · exact .of_window selects (fun entry mem ↦ ⟨clocked.fetches entry mem, clocked.sound entry mem⟩)
        ⟨drops, sound⟩ delivers length
    · rwa [same]
    · have split : select :: calls ++ release :: delivery =
          (select :: calls ++ [release]) ++ delivery := by rw [List.append_assoc]; rfl
      rw [same, split, handedOver_append, silent, out, List.nil_append]

/-! ### One poll -/

omit [Board σ] in
/-- The look at the line before a read leaves what came in and what was handed over. -/
theorem looked_before {sample : Entry} (call : sample.call = .sampleLine) (calls : List Entry) :
    received (sample :: calls) = received calls ∧ handedOver (sample :: calls) = handedOver calls := by
  refine ⟨received_cons call (fun _ ↦ Call.noConfusion) calls, ?_⟩
  simp only [handedOver, List.filterMap_cons, call, Call.packet?]

omit [Board σ] in
theorem WholeFrame.looked {sample : Entry} {calls : List Entry} (call : sample.call = .sampleLine)
    (h : WholeFrame calls) : WholeFrame (sample :: calls) := by
  obtain ⟨⟨before, select, inside, release, after, rfl, looks, selects, fetches, releases, delivers,
    same⟩, length⟩ := h
  have brought := (looked_before call
    (before ++ (select :: inside ++ release :: after))).1
  refine ⟨⟨sample :: before, select, inside, release, after, rfl,
    List.forall_mem_cons.mpr ⟨call, looks⟩, selects, fetches, releases, delivers, ?_⟩, ?_⟩
  · rw [brought, same]
  · rw [brought]
    exact length

/-- The law of what a poll reads, hands over and clocks out. -/
structure FrameLaw (bus : Bus σ) (calls : List Entry) (result : Except Failure Bool) : Prop where
  /-- A poll at rest that succeeds hands over what it has clocked in, without the header. -/
  handed : bus.attached = true → bus.phase = .idle → result = .ok true →
    handedOver calls = [(received calls).drop headerSize] ∧
      ((received calls).drop headerSize).length =
        packetHeaderSize + remainingLength ((received calls).take leadSize)
  /-- Any other poll hands over nothing, one that fails included. -/
  unhanded : ¬ (bus.attached = true ∧ bus.phase = .idle ∧ result = .ok true) →
    handedOver calls = []
  /-- A frame comes in whole, inside one selection of the chip, also if it is thrown away; and it
  is thrown away exactly if the buffer cannot hold it. -/
  whole : bus.phase = .idle → result = .ok true ∨ result = .error .tooLong →
    WholeFrame calls ∧ (result = .error .tooLong ↔ bufferCapacity < (received calls).length)
  fills : Fills calls
  /-- A poll that finds nothing to serve goes neither to the chip nor to the bus. -/
  quiet : result = .ok false → ∀ entry ∈ calls, entry.call = .sampleLine

omit [Board σ] in
/-- Away from rest a poll only looks at the line. -/
theorem FrameLaw.of_looks {calls : List Entry} {result : Except Failure Bool}
    (looks : ∀ entry ∈ calls, entry.call = .sampleLine)
    (other : bus.phase = .idle → result ≠ .ok true ∧ result ≠ .error .tooLong) :
    FrameLaw bus calls result where
  handed := fun _ idle ok ↦ absurd ok (other idle).1
  unhanded := by
    intro _
    refine List.filterMap_eq_nil_iff.mpr fun entry mem ↦ ?_
    rw [looks entry mem]
    rfl
  whole := by
    rintro idle (ok | long)
    · exact absurd ok (other idle).1
    · exact absurd long (other idle).2
  fills := by
    intro entry mem byte out
    rw [looks entry mem] at out
    cases out
  quiet := fun _ ↦ looks

omit [Board σ] in
theorem FrameLaw.of_taken {sample : Entry} {calls : List Entry} {result : Except Failure Unit}
    (idle : bus.phase = .idle) (call : sample.call = .sampleLine) (fills : Fills calls)
    (h : Taken bus.attached calls result) :
    FrameLaw bus (sample :: calls) (result.map fun _ ↦ true) := by
  obtain ⟨brought, given⟩ := looked_before call calls
  have looked : Fills (sample :: calls) := (Fills.single call rfl).append fills
  have unquiet : (result.map fun _ ↦ true) = .ok false →
      ∀ entry ∈ sample :: calls, entry.call = .sampleLine := by
    cases result <;> rintro ⟨⟩
  cases h with
  | @broken failure unhanded cause =>
    refine ⟨by rintro _ _ ⟨⟩, fun _ ↦ given.trans unhanded, ?_, looked, unquiet⟩
    rintro _ (ok | long)
    · cases ok
    · cases long
      exact absurd rfl cause
  | dropped whole long unhanded =>
    refine ⟨by rintro _ _ ⟨⟩, fun _ ↦ given.trans unhanded, fun _ _ ↦ ?_, looked, unquiet⟩
    rw [brought]
    exact ⟨whole.looked call, iff_of_true rfl long⟩
  | landed whole fits handed =>
    refine ⟨?_, ?_, fun _ _ ↦ ?_, looked, unquiet⟩
    · intro attached _ _
      rw [given, brought, handed, if_pos attached, List.length_drop, whole.length]
      refine ⟨rfl, ?_⟩
      simp only [leadSize]
      omega
    · intro other
      have detached : ¬ bus.attached = true := fun attached ↦ other ⟨attached, idle, rfl⟩
      rw [given, handed, if_neg detached]
    · rw [brought]
      exact ⟨whole.looked call, iff_of_false (by rintro ⟨⟩) (Nat.not_lt.mpr fits)⟩

theorem Pumped.frameLaw {result : Except Failure Bool} (h : Pumped bus result after)
    (resting : bus.Resting) : ∃ calls, Made bus calls after ∧ FrameLaw bus calls result := by
  have looks {sample : Entry} (call : sample.call = .sampleLine) :
      ∀ entry ∈ [sample], entry.call = .sampleLine := List.forall_mem_singleton.mpr call
  cases h with
  | off _ =>
    exact ⟨[], rfl, .of_looks (fun _ mem ↦ absurd mem List.not_mem_nil)
      fun _ ↦ ⟨by rintro ⟨⟩, by rintro ⟨⟩⟩⟩
  | unread _ step call _ =>
    exact ⟨_, step.made, .of_looks (looks call) fun _ ↦ ⟨by rintro ⟨⟩, by rintro ⟨⟩⟩⟩
  | unasked _ step samples _ =>
    exact ⟨_, step.made, .of_looks (looks samples.1) fun _ ↦ ⟨by rintro ⟨⟩, by rintro ⟨⟩⟩⟩
  | @served sample asked _ outcome _ step samples _ served =>
    have phase : asked.phase = bus.phase := step.phase
    cases served with
    | ready powerUp =>
      refine ⟨[sample], step.made, .of_looks (looks samples.1) fun idle ↦ ?_⟩
      rw [phase, idle] at powerUp
      cases powerUp
    | sent requested _ _ =>
      have rest := resting.phase
      rw [← phase, requested] at rest
      simp only [reduceCtorEq, or_self] at rest
    | read idle read =>
      obtain ⟨calls, made, fills, taken⟩ := read.taken
      have attached : asked.attached = bus.attached := step.attached
      rw [attached] at taken
      exact ⟨_, step.made.trans made, .of_taken (phase ▸ idle) samples.1 fills taken⟩

/-- Frames are delivered whole or not at all. Whatever has been done to the engine, whatever comes
in and whatever fails: a poll hands over one packet if a receiver is attached, the engine was at
rest and the poll succeeds, and none otherwise; the packet is what came in during the poll, behind
the header; a poll at rest that succeeds or finds its frame too long has clocked in exactly as many
bytes as the first of them announce, inside one selection of the chip, and it is too long exactly
if the buffer cannot hold that many; the host puts only fill bytes on its line; and a poll that
serves nothing makes no call but a look at the chip's line. -/
theorem run_pump_wholeFrames (config : Config) (board : σ) (actions : List (Action σ)) :
    let bus := run (create config board) actions
    ∃ calls, Made bus calls (pump bus).2 ∧ FrameLaw bus calls (pump bus).1 := by
  intro bus
  have resting : bus.Resting := run_resting config board actions
  have pumped : Pumped bus (pump bus).1 (pump bus).2 :=
    pump_ensures resting.dispatching resting.staged
  exact pumped.frameLaw resting

end SpiWifi.Bus
