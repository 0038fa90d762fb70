import Mathlib.Data.List.DropRight
import SpiWifi.Events.Record

/-!
A record over time. Each part of it follows from the changes so far: a flag or a mark from the
last change that bears on it, the ping report and the count from the reports since they were
reset. No change reaches past the part that it is about.
-/

set_option autoImplicit false
set_option relaxedAutoImplicit false

namespace SpiWifi.Events

open Wire

/-- What can happen to a record. -/
inductive Change where
  | report (opcode : UInt16) (args : List UInt8)
  | clearFlags
  /-- It is forgotten that the peer has closed a socket. -/
  | reopen (socket : Nat)
  | resetPing
  deriving DecidableEq

namespace Change

/-- What becomes of a flag that one report raises and some reports lower. -/
def flag? (raising : UInt16) (lowering : List UInt16) : Change → Option Bool
  | report opcode _ =>
    if opcode = raising then some true else if opcode ∈ lowering then some false else none
  | clearFlags => some false
  | reopen _ | resetPing => none

/-- What becomes of the mark on a socket. -/
def closed? (socket : Nat) : Change → Option Bool
  | report opcode args =>
    if opcode = Opcode.peerClosed ∧ args.head?.map UInt8.toNat = some socket then some true else none
  | reopen other => if other = socket then some false else none
  | clearFlags | resetPing => none

/-- The arguments of a ping report. -/
def ping? : Change → Option (List UInt8)
  | report opcode args => if opcode = Opcode.pingReport then some args else none
  | _ => none

end Change

/-- What the last change that bears on something makes of it. -/
def lastWord {α : Type} (word : Change → Option α) (history : List Change) : Option α :=
  (history.filterMap word).getLast?

/-- The ping reports since the last reset. -/
def pings (history : List Change) : List (List UInt8) :=
  (history.rtakeWhile (· ≠ .resetPing)).filterMap Change.ping?

/-- The opcodes that are kept track of. -/
def recorded : List UInt16 :=
  [Opcode.smartConfigDone, Opcode.linkUp, Opcode.linkDown, Opcode.leaseBound, Opcode.mayShutDown,
    Opcode.pingReport, Opcode.peerClosed]

/-- A report that is not kept track of, or of a socket that is not. -/
def Idle (opcode : UInt16) (args : List UInt8) : Prop :=
  opcode ∉ recorded ∨ opcode = Opcode.peerClosed ∧ ∀ index ∈ args.head?, socketCount ≤ index.toNat

namespace Record

def undergo (record : Record) : Change → Record
  | .report opcode args => record.apply opcode args
  | .clearFlags => record.clearFlags
  | .reopen socket => record.markClosed socket false
  | .resetPing => record.resetPing

/-- What becomes of a new record. -/
def after (history : List Change) : Record := history.foldl undergo {}

/-- What a record has to do with its history. -/
structure Tells (history : List Change) (record : Record) : Prop where
  smartConfigDone : record.flags.smartConfigDone = true ↔
    lastWord (Change.flag? Opcode.smartConfigDone []) history = some true
  linkUp : record.flags.linkUp = true ↔
    lastWord (Change.flag? Opcode.linkUp [Opcode.linkDown]) history = some true
  leased : record.flags.leased = true ↔
    lastWord (Change.flag? Opcode.leaseBound [Opcode.linkDown]) history = some true
  mayShutDown : record.flags.mayShutDown = true ↔
    lastWord (Change.flag? Opcode.mayShutDown []) history = some true
  /-- The four flags are all there is in their byte. -/
  bits : record.flags.bits &&& 0xF0 = 0 ∧ StatusFlags.ofBits record.flags.bits = record.flags
  closed : ∀ socket, record.isClosed socket = true ↔
    socket < socketCount ∧ lastWord (Change.closed? socket) history = some true
  pingCount : record.pingCount.toNat = (pings history).length
  /-- Five little-endian words; what is missing counts as zero, and what is too much is cut. -/
  ping : ∀ args, (pings history).getLast? = some args →
    record.ping.encode = (args ++ List.replicate PingReport.size 0).take PingReport.size
  unpinged : pings history = [] → record.ping = {}
  idle : ∀ opcode args, Idle opcode args → record.undergo (.report opcode args) = record

variable {record : Record} {history : List Change} {change : Change}

@[simp] theorem after_concat : after (history ++ [change]) = (after history).undergo change := by
  rw [after, List.foldl_concat]
  rfl

theorem lastWord_concat {α : Type} (word : Change → Option α) :
    lastWord word (history ++ [change]) = (word change).or (lastWord word history) := by
  rw [lastWord, List.filterMap_append, List.getLast?_append]
  cases hword : word change <;> simp [hword, lastWord]

/-- A part of the record that each change either sets or leaves alone is what the last word makes
of it. -/
theorem part_after {α : Type} (part : Record → α) {word : Change → Option α}
    (step : ∀ record change, part (undergo record change) = (word change).getD (part record))
    (history : List Change) :
    part (after history) = (lastWord word history).getD (part {}) := by
  induction history using List.reverseRecOn with
  | nil => rfl
  | append_singleton history change ih =>
    rw [after_concat, step, ih, lastWord_concat]
    cases word change <;> rfl

/-- The same for something that is not so at first. -/
theorem part_after_iff (part : Record → Bool) {word : Change → Option Bool}
    (step : ∀ record change, part (undergo record change) = (word change).getD (part record))
    (start : part {} = false) (history : List Change) :
    part (after history) = true ↔ lastWord word history = some true := by
  rw [part_after part step, start]
  cases lastWord word history <;> simp

/-! ### One change -/

/-- What a change does, case by case. -/
inductive Undergone (record : Record) : Change → Record → Prop where
  | smartConfigDone (args : List UInt8) :
      Undergone record (.report Opcode.smartConfigDone args)
        { record with flags.smartConfigDone := true }
  | linkUp (args : List UInt8) :
      Undergone record (.report Opcode.linkUp args) { record with flags.linkUp := true }
  | linkDown (args : List UInt8) :
      Undergone record (.report Opcode.linkDown args)
        { record with flags.linkUp := false, flags.leased := false }
  | leaseBound (args : List UInt8) :
      Undergone record (.report Opcode.leaseBound args) { record with flags.leased := true }
  | mayShutDown (args : List UInt8) :
      Undergone record (.report Opcode.mayShutDown args) { record with flags.mayShutDown := true }
  | pingReport (args : List UInt8) :
      Undergone record (.report Opcode.pingReport args)
        { record with ping := PingReport.decode args, pingCount := record.pingCount + 1 }
  | peerClosed {index : UInt8} (rest : List UInt8) (tracked : index.toNat < socketCount) :
      Undergone record (.report Opcode.peerClosed (index :: rest))
        (record.markClosed index.toNat true)
  | idle {opcode : UInt16} {args : List UInt8} (idle : Idle opcode args) :
      Undergone record (.report opcode args) record
  | clearFlags : Undergone record .clearFlags { record with flags := {} }
  | reopen (socket : Nat) : Undergone record (.reopen socket) (record.markClosed socket false)
  | resetPing : Undergone record .resetPing { record with ping := {}, pingCount := 0 }

theorem markClosed_of_le {socket : Nat} (beyond : socketCount ≤ socket) (mark : Bool) :
    record.markClosed socket mark = record := by
  rw [markClosed, Vector.setIfInBounds_eq_of_size_le beyond]

theorem undergo_idle {opcode : UInt16} {args : List UInt8} (idle : Idle opcode args) :
    record.undergo (.report opcode args) = record := by
  rcases idle with other | ⟨rfl, beyond⟩
  · simp only [recorded, List.mem_cons, List.not_mem_nil, or_false, not_or] at other
    obtain ⟨_, _, _, _, _, _, _⟩ := other
    simp only [undergo, apply, *, if_false]
  · cases args with
    | nil => rfl
    | cons index rest => exact markClosed_of_le (beyond index rfl) true

theorem undergone (record : Record) (change : Change) :
    Undergone record change (record.undergo change) := by
  cases change with
  | report opcode args =>
    by_cases idle : Idle opcode args
    · rw [undergo_idle idle]
      exact .idle idle
    · simp only [Idle, not_or, not_not] at idle
      obtain ⟨kept, tracked⟩ := idle
      simp only [recorded, List.mem_cons, List.not_mem_nil, or_false] at kept
      rcases kept with rfl | rfl | rfl | rfl | rfl | rfl | rfl
      · exact .smartConfigDone args
      · exact .linkUp args
      · exact .linkDown args
      · exact .leaseBound args
      · exact .mayShutDown args
      · exact .pingReport args
      · cases args with
        | nil => exact absurd ⟨rfl, nofun⟩ tracked
        | cons index rest =>
          refine .peerClosed rest (Nat.lt_of_not_le fun beyond ↦ tracked ⟨rfl, ?_⟩)
          rintro _ ⟨⟩
          exact beyond
  | clearFlags => exact .clearFlags
  | reopen socket => exact .reopen socket
  | resetPing => exact .resetPing

/-! ### The flags and the marks -/

variable {next : Record}

theorem flag?_idle {raising : UInt16} {lowering : List UInt16} {opcode : UInt16}
    {args : List UInt8} (kept : raising :: lowering ⊆ recorded.dropLast)
    (idle : Idle opcode args) : Change.flag? raising lowering (.report opcode args) = none := by
  have other : opcode ∉ raising :: lowering := by
    intro mem
    rcases idle with unknown | ⟨rfl, -⟩
    · exact unknown (List.dropLast_subset _ (kept mem))
    · exact absurd (kept mem) (by decide)
  rw [List.mem_cons, not_or] at other
  rw [Change.flag?, if_neg other.1, if_neg other.2]

theorem Undergone.smartConfigDone_eq (step : Undergone record change next) :
    next.flags.smartConfigDone =
      (change.flag? Opcode.smartConfigDone []).getD record.flags.smartConfigDone := by
  cases step with
  | idle idle => rw [flag?_idle (by decide) idle]; rfl
  | _ => rfl

theorem Undergone.linkUp_eq (step : Undergone record change next) :
    next.flags.linkUp =
      (change.flag? Opcode.linkUp [Opcode.linkDown]).getD record.flags.linkUp := by
  cases step with
  | idle idle => rw [flag?_idle (by decide) idle]; rfl
  | _ => rfl

theorem Undergone.leased_eq (step : Undergone record change next) :
    next.flags.leased =
      (change.flag? Opcode.leaseBound [Opcode.linkDown]).getD record.flags.leased := by
  cases step with
  | idle idle => rw [flag?_idle (by decide) idle]; rfl
  | _ => rfl

theorem Undergone.mayShutDown_eq (step : Undergone record change next) :
    next.flags.mayShutDown =
      (change.flag? Opcode.mayShutDown []).getD record.flags.mayShutDown := by
  cases step with
  | idle idle => rw [flag?_idle (by decide) idle]; rfl
  | _ => rfl

theorem isClosed_eq (record : Record) (socket : Nat) :
    record.isClosed socket = record.closed[socket]?.getD false := by
  rw [isClosed, Vector.getD, Array.getD_eq_getD_getElem?, Vector.getElem?_toArray]

theorem isClosed_markClosed {socket : Nat} (tracked : socket < socketCount) (other : Nat)
    (mark : Bool) : (record.markClosed other mark).isClosed socket =
      if other = socket then mark else record.isClosed socket := by
  rw [isClosed_eq, isClosed_eq, markClosed, Vector.getElem?_setIfInBounds]
  by_cases same : other = socket <;> simp [same, tracked]

theorem isClosed_of_le {socket : Nat} (beyond : socketCount ≤ socket) :
    record.isClosed socket = false := by
  rw [isClosed_eq, Vector.getElem?_eq_none beyond, Option.getD_none]

theorem isClosed_fresh (socket : Nat) : isClosed {} socket = false := by
  rw [isClosed_eq, Vector.getElem?_replicate]
  split <;> rfl

theorem Undergone.isClosed_eq (step : Undergone record change next) {socket : Nat}
    (tracked : socket < socketCount) :
    next.isClosed socket = (change.closed? socket).getD (record.isClosed socket) := by
  cases step with
  | @peerClosed index =>
    rw [isClosed_markClosed tracked]
    by_cases same : index.toNat = socket <;> simp [Change.closed?, same]
  | reopen other =>
    rw [isClosed_markClosed tracked]
    by_cases same : other = socket <;> simp [Change.closed?, same]
  | @idle opcode args idle =>
    have other : ¬ (opcode = Opcode.peerClosed ∧ args.head?.map UInt8.toNat = some socket) := by
      rintro ⟨rfl, first⟩
      obtain ⟨index, mem, rfl⟩ := Option.map_eq_some_iff.mp first
      rcases idle with unknown | ⟨-, beyond⟩
      · exact unknown (by decide)
      · exact absurd tracked (Nat.not_lt.mpr (beyond index mem))
    rw [Change.closed?, if_neg other]
    rfl
  | _ => rfl

/-! ### The ping reports -/

theorem pings_concat : pings (history ++ [change]) =
    if change = .resetPing then [] else pings history ++ change.ping?.toList := by
  rw [pings, List.rtakeWhile_concat]
  by_cases reset : change = .resetPing
  · rw [if_neg (by simp [reset]), if_pos reset]
    rfl
  · rw [if_pos (by simp [reset]), if_neg reset, List.filterMap_append, pings]
    cases report : change.ping? <;> simp [report]

theorem Undergone.ping_eq (step : Undergone record change next) (running : change ≠ .resetPing)
    (other : change.ping? = none) :
    next.pingCount = record.pingCount ∧ next.ping = record.ping := by
  cases step with
  | resetPing => exact absurd rfl running
  | pingReport args => cases other
  | _ => exact ⟨rfl, rfl⟩

theorem undergo_of_ping {args : List UInt8} (reports : change.ping? = some args) :
    record.undergo change =
      { record with ping := PingReport.decode args, pingCount := record.pingCount + 1 } := by
  obtain rfl : change = .report Opcode.pingReport args := by
    cases change with
    | report opcode given =>
      rw [Change.ping?] at reports
      split at reports
      · next same => rw [same, Option.some.inj reports]
      · cases reports
    | _ => cases reports
  rfl

/-- The reports since the last reset are counted modulo 2^32, and the last of them is kept. -/
theorem pings_after (history : List Change) :
    (after history).pingCount = UInt32.ofNat (pings history).length ∧
      (after history).ping = ((pings history).getLast?.map PingReport.decode).getD {} := by
  induction history using List.reverseRecOn with
  | nil => exact ⟨rfl, rfl⟩
  | append_singleton history change ih =>
    rw [after_concat, pings_concat]
    by_cases reset : change = .resetPing
    · rw [if_pos reset, reset]
      exact ⟨rfl, rfl⟩
    rw [if_neg reset]
    obtain ⟨count, last⟩ := ih
    cases report : change.ping? with
    | none =>
      obtain ⟨sameCount, sameLast⟩ := (undergone (after history) change).ping_eq reset report
      rw [sameCount, sameLast, Option.toList_none, List.append_nil]
      exact ⟨count, last⟩
    | some args =>
      rw [undergo_of_ping report, Option.toList_some, List.length_append, List.length_singleton,
        List.getLast?_concat, UInt32.ofNat_add, ← count]
      exact ⟨rfl, rfl⟩

/-! ### The whole record -/

theorem flags_in_bits (flags : StatusFlags) :
    flags.bits &&& 0xF0 = 0 ∧ StatusFlags.ofBits flags.bits = flags := by
  obtain ⟨smartConfigDone, linkUp, leased, mayShutDown⟩ := flags
  cases smartConfigDone <;> cases linkUp <;> cases leased <;> cases mayShutDown <;>
    exact ⟨rfl, rfl⟩

/-- A new record always tells what its history comes to, as long as the ping reports since the
last reset can be counted. -/
theorem after_tells (history : List Change) (countable : (pings history).length < UInt32.size) :
    Tells history (after history) := by
  obtain ⟨count, last⟩ := pings_after history
  have marked (socket : Nat) (tracked : socket < socketCount) :
      (after history).isClosed socket = true ↔
        lastWord (Change.closed? socket) history = some true :=
    part_after_iff (isClosed · socket)
      (fun record change ↦ (undergone record change).isClosed_eq tracked) (isClosed_fresh socket)
      history
  exact {
    smartConfigDone := part_after_iff (·.flags.smartConfigDone)
      (fun record change ↦ (undergone record change).smartConfigDone_eq) rfl history
    linkUp := part_after_iff (·.flags.linkUp)
      (fun record change ↦ (undergone record change).linkUp_eq) rfl history
    leased := part_after_iff (·.flags.leased)
      (fun record change ↦ (undergone record change).leased_eq) rfl history
    mayShutDown := part_after_iff (·.flags.mayShutDown)
      (fun record change ↦ (undergone record change).mayShutDown_eq) rfl history
    bits := flags_in_bits _
    closed := by
      intro socket
      by_cases tracked : socket < socketCount
      · rw [marked socket tracked, and_iff_right tracked]
      · rw [isClosed_of_le (Nat.le_of_not_lt tracked)]
        exact ⟨nofun, fun ⟨inside, _⟩ ↦ absurd inside tracked⟩
    pingCount := by rw [count, UInt32.toNat_ofNat', Nat.mod_eq_of_lt countable]
    ping := by
      intro args latest
      rw [last, latest]
      exact PingReport.encode_decode args
    unpinged := by
      intro none
      rw [last, none]
      rfl
    idle := fun _ _ ↦ undergo_idle }

/-- The link comes up with a lease, is lost, and comes up again without one. -/
def outage : List Change :=
  [.report Opcode.linkUp [], .report Opcode.leaseBound [], .report Opcode.pingReport [4],
    .report Opcode.peerClosed [1, 0], .report Opcode.linkDown [], .resetPing, .reopen 1,
    .report Opcode.linkUp [], .report Opcode.pingReport [3, 0, 0, 0, 2]]

theorem after_tells_outage :
    (pings outage).length < UInt32.size ∧
      (after outage).flags.linkUp = true ∧ ¬ (after outage).flags.leased = true ∧
      ¬ (after outage).isClosed 1 = true ∧ (after outage).pingCount.toNat = 1 ∧
      (after outage).ping.encode = [3, 0, 0, 0, 2] ++ List.replicate 15 0 :=
  have tells := after_tells outage (by decide)
  ⟨by decide, tells.linkUp.mpr (by decide), mt tells.leased.mp (by decide),
    mt (tells.closed 1).mp (by decide), tells.pingCount, tells.ping [3, 0, 0, 0, 2] (by decide)⟩

end Record

end SpiWifi.Events
