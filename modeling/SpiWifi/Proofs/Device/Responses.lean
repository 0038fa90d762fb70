import Mathlib.Data.List.DropRight
import SpiWifi.Proofs.Device.Mail

/-!
The books of the response slot. Every packet that is not a report of the chip is taken, dropped
or still there, and what a taking finds is the last one that came in since the taking before.
Reports pass the slot by, and responses pass the record by.
-/

set_option autoImplicit false
set_option relaxedAutoImplicit false

namespace SpiWifi.Inbox

open Wire

/-- What can be done with an inbox. -/
inductive Access where
  | deliver (packet : List UInt8)
  /-- The response is asked for, to be copied into a buffer. -/
  | take (buffer : List UInt8)

/-- What was done with an inbox and what came of it. -/
inductive Entry where
  | delivered (packet : List UInt8)
  /-- The length of the response, if there was one. -/
  | answered (length : Option Nat)
  deriving DecidableEq

/-- An event packet with all of its header and with an opcode that the chip uses of its own
accord. -/
def isReport : List UInt8 → Bool
  | kind :: low :: high :: _ :: _ :: _ =>
    kind == PacketKind.event.tag && Opcode.isUnsolicited (UInt16.ofNat (ofLittle [low, high]))
  | _ => false

namespace Entry

/-- The packet that came in for the response slot. -/
def response? : Entry → Option (List UInt8)
  | delivered packet => if isReport packet then none else some packet
  | answered _ => none

/-- A response was taken. -/
def isTaking : Entry → Bool
  | delivered _ => false
  | answered length => length.isSome

end Entry

/-- The packets that came in for the response slot. -/
def responses (log : List Entry) : List (List UInt8) := log.filterMap Entry.response?

/-- Those that came in since a response was last taken. -/
def waiting (log : List Entry) : List (List UInt8) := responses (log.rtakeWhile (!·.isTaking))

def access (inbox : Inbox) : Access → Entry × Inbox
  | .deliver packet => (.delivered packet, inbox.deliver packet)
  | .take buffer => (.answered (inbox.take buffer).1, (inbox.take buffer).2.2)

/-- The log of a new inbox, and what becomes of it. -/
def run (record : Events.Record) (accesses : List Access) : List Entry × Inbox :=
  accesses.foldl
    (fun (log, inbox) next ↦ (log ++ [(inbox.access next).1], (inbox.access next).2))
    ([], { record })

/-- What the log says of the inbox. -/
structure Accounts (log : List Entry) (inbox : Inbox) : Prop where
  conserved : (responses log).length = log.countP Entry.isTaking + inbox.dropped.toNat +
    if inbox.response.isSome then 1 else 0
  /-- Something is found if and only if something came in since. -/
  found_iff : ∀ buffer, (inbox.take buffer).1.isSome ↔ waiting log ≠ []
  /-- What is found is the last packet, cut to the slot, and the buffer behind it is kept. -/
  found : ∀ packet, (waiting log).getLast? = some packet → ∀ buffer,
    let length := min packet.length responseLimit
    let copied := min length buffer.length
    (inbox.take buffer).1 = some length ∧
      (inbox.take buffer).2.1 = packet.take copied ++ buffer.drop copied
  unfound : waiting log = [] → ∀ buffer, inbox.take buffer = (none, buffer, inbox)
  report : ∀ packet, isReport packet = true → (inbox.deliver packet).response = inbox.response ∧
    (inbox.deliver packet).dropped = inbox.dropped
  response : ∀ packet, isReport packet = false → (inbox.deliver packet).record = inbox.record

variable {inbox : Inbox} {log : List Entry} {entry : Entry} {packet : List UInt8}

/-! ### One access -/

/-- The reports are the packets that an event with such an opcode is read from. -/
theorem isSome_unsolicited? (packet : List UInt8) :
    (unsolicited? packet).isSome = isReport packet := by
  rcases packet with _ | ⟨kind, _ | ⟨low, _ | ⟨high, _ | ⟨count, _ | ⟨status, rest⟩⟩⟩⟩⟩
  case cons.cons.cons.cons.cons =>
    rw [unsolicited?, Event.ofPacket?, isReport]
    by_cases event : kind = PacketKind.event.tag
    · rw [if_pos (PacketKind.ofTag_eq_event_iff.mpr event), event, beq_self_eq_true, Bool.true_and,
        Option.filter_some]
      show (if Opcode.isUnsolicited _ = true then _ else _ : Option Event).isSome = _
      cases Opcode.isUnsolicited (UInt16.ofNat (ofLittle [low, high])) <;> rfl
    · rw [if_neg (mt PacketKind.ofTag_eq_event_iff.mp event), beq_eq_false_iff_ne.mpr event]
      rfl
  all_goals rfl

theorem deliver_of_isReport (inbox : Inbox) (report : isReport packet = true) :
    ∃ record, inbox.deliver packet = { inbox with record } := by
  rw [← isSome_unsolicited?, Option.isSome_iff_exists] at report
  obtain ⟨event, unsolicited⟩ := report
  exact ⟨_, deliver_report unsolicited⟩

theorem deliver_of_not_isReport (response : isReport packet = false) :
    inbox.deliver packet =
      { inbox with
        response := some (packet.take responseLimit)
        dropped := if inbox.response.isSome then saturatingAdd inbox.dropped 1
          else inbox.dropped } := by
  rw [← isSome_unsolicited?, Option.isSome_eq_false_iff, Option.isNone_iff_eq_none] at response
  rw [deliver, response]

/-! ### The log -/

theorem run_concat (record : Events.Record) (accesses : List Access) (next : Access) :
    run record (accesses ++ [next]) =
      ((run record accesses).1 ++ [((run record accesses).2.access next).1],
        ((run record accesses).2.access next).2) := by
  rw [run, List.foldl_concat]
  rfl

theorem responses_concat :
    responses (log ++ [entry]) = responses log ++ entry.response?.toList := by
  rw [responses, List.filterMap_append, responses]
  cases response : entry.response? <;> simp [response]

theorem waiting_concat : waiting (log ++ [entry]) =
    if entry.isTaking then [] else waiting log ++ entry.response?.toList := by
  rw [waiting, List.rtakeWhile_concat]
  cases taking : entry.isTaking
  · exact responses_concat
  · rfl

/-- What is in the slot, and how many responses never will be taken. -/
structure Settled (log : List Entry) (inbox : Inbox) : Prop where
  slot : inbox.response = (waiting log).getLast?.map (·.take responseLimit)
  lost : ∃ lost, (responses log).length = log.countP Entry.isTaking + lost +
      (if inbox.response.isSome then 1 else 0) ∧
    inbox.dropped.toNat = min lost (UInt32.size - 1)

namespace Settled

theorem create (record : Events.Record) : Settled [] { record } := ⟨rfl, 0, rfl, rfl⟩

/-- An entry that is neither a response nor a taking changes nothing. -/
theorem quiet (settled : Settled log inbox) {after : Inbox} (other : entry.response? = none)
    (untaken : entry.isTaking = false) (slot : after.response = inbox.response)
    (dropped : after.dropped = inbox.dropped) : Settled (log ++ [entry]) after where
  slot := by
    rw [waiting_concat, untaken, other, Option.toList_none, List.append_nil, slot]
    exact settled.slot
  lost := by
    rw [responses_concat, other, Option.toList_none, List.append_nil, List.countP_append,
      List.countP_singleton, untaken, slot, dropped]
    exact settled.lost

/-- A response takes the slot, and one that was there is lost. -/
theorem arrival (settled : Settled log inbox) (response : isReport packet = false) :
    Settled (log ++ [.delivered packet]) (inbox.deliver packet) := by
  have given : (Entry.delivered packet).response? = some packet := by
    rw [Entry.response?, response]
    rfl
  obtain ⟨-, lost, total, dropped⟩ := settled
  rw [deliver_of_not_isReport response]
  constructor
  · rw [waiting_concat, given]
    show _ = Option.map _ (waiting log ++ [packet]).getLast?
    rw [List.getLast?_concat]
    rfl
  · refine ⟨lost + if inbox.response.isSome then 1 else 0, ?_, ?_⟩
    · rw [responses_concat, given, Option.toList_some, List.length_append, List.countP_append, total]
      show _ + 1 = List.countP Entry.isTaking log + 0 + _ + 1
      omega
    · cases inbox.response.isSome
      · exact dropped
      · show (saturatingAdd inbox.dropped 1).toNat = _
        rw [toNat_saturatingAdd, dropped]
        show min (min lost (UInt32.size - 1) + 1) (UInt32.size - 1) =
          min (lost + 1) (UInt32.size - 1)
        omega

/-- What is taken leaves the slot. -/
theorem taking (settled : Settled log inbox) {length : Nat} {after : Inbox}
    (pending : inbox.response.isSome = true) (emptied : after.response = none)
    (dropped : after.dropped = inbox.dropped) :
    Settled (log ++ [.answered (some length)]) after := by
  obtain ⟨-, lost, total, sum⟩ := settled
  constructor
  · rw [waiting_concat, emptied]
    rfl
  · refine ⟨lost, ?_, by rw [dropped, sum]⟩
    rw [responses_concat, List.countP_append, emptied]
    rw [pending] at total
    show (responses log ++ []).length = List.countP Entry.isTaking log + 1 + lost + 0
    rw [List.append_nil, total, if_pos rfl]
    omega

theorem access (settled : Settled log inbox) (next : Access) :
    Settled (log ++ [(inbox.access next).1]) (inbox.access next).2 := by
  cases next with
  | deliver packet =>
    show Settled (log ++ [.delivered packet]) (inbox.deliver packet)
    cases report : isReport packet with
    | false => exact settled.arrival report
    | true =>
      have other : (Entry.delivered packet).response? = none := by
        rw [Entry.response?, report]
        rfl
      obtain ⟨record, delivered⟩ := deliver_of_isReport inbox report
      exact settled.quiet other rfl (by rw [delivered]) (by rw [delivered])
  | take buffer =>
    show Settled (log ++ [.answered (inbox.take buffer).1]) (inbox.take buffer).2.2
    unfold take
    cases slot : inbox.response with
    | none => exact settled.quiet rfl rfl rfl rfl
    | some response => exact settled.taking (by rw [slot]; rfl) rfl rfl

end Settled

theorem run_settled (record : Events.Record) (accesses : List Access) :
    Settled (run record accesses).1 (run record accesses).2 := by
  induction accesses using List.reverseRecOn with
  | nil => exact .create record
  | append_singleton accesses next ih =>
    rw [run_concat]
    exact ih.access next

/-! ### The books -/

/-- Whatever is done with an inbox, the books balance: each response is taken, dropped or there,
and what is there came in last. -/
theorem run_accounts (record : Events.Record) (accesses : List Access)
    (countable : (responses (run record accesses).1).length < UInt32.size) :
    Accounts (run record accesses).1 (run record accesses).2 := by
  obtain ⟨slot, lost, total, dropped⟩ := run_settled record accesses
  generalize (run record accesses).1 = log, (run record accesses).2 = inbox at *
  exact {
    conserved := by
      rw [dropped, Nat.min_eq_left (by omega)]
      exact total
    found_iff := by
      intro buffer
      rw [take_eq, slot, Option.isSome_map, Option.isSome_map, List.getLast?_isSome]
    found := by
      intro packet latest buffer
      have width : (packet.take responseLimit).length = min packet.length responseLimit := by
        rw [List.length_take, Nat.min_comm]
      rw [take_eq, slot, latest, Option.map_some, Option.map_some, Option.getD_some, overlay_front,
        width, List.take_take]
      refine ⟨rfl, ?_⟩
      rw [show min (min (min packet.length responseLimit) buffer.length) responseLimit =
        min (min packet.length responseLimit) buffer.length by omega]
    unfound := by
      intro none buffer
      rw [none, List.getLast?_nil, Option.map_none] at slot
      rw [take, slot]
    report := by
      intro packet report
      obtain ⟨record, delivered⟩ := deliver_of_isReport inbox report
      rw [delivered]
      exact ⟨rfl, rfl⟩
    response := by
      intro packet response
      rw [deliver_of_not_isReport response] }

/-- Two responses and a report of the chip, with takings that come too soon and too late. -/
def busyDay : List Access :=
  [.take [7], .deliver [4, 0x10, 0, 1, 0], .deliver [4, 0x01, 0x40, 1, 0],
    .deliver [2, 0x85, 0, 3, 0, 97, 98, 99], .take [7, 7, 7, 7], .take [7], .deliver [4, 0x01]]

theorem run_accounts_busyDay :
    (responses (run {} busyDay).1).length < UInt32.size ∧
      (responses (run {} busyDay).1).length =
        (run {} busyDay).1.countP Entry.isTaking + (run {} busyDay).2.dropped.toNat + 1 ∧
      ((run {} busyDay).2.take [7, 7, 7]).2.1 = [4, 0x01, 7] :=
  have accounts := run_accounts {} busyDay (by decide)
  ⟨by decide, accounts.conserved, (accounts.found [4, 0x01] (by decide) [7, 7, 7]).2⟩

end SpiWifi.Inbox
