import SpiWifi.Inbox

/-!
An inbox over time. What it comes to depends on the order of arrivals and of takings: the
record has the reports of the chip applied to it, the response is the last one that came in
unless it was taken since, and a response that another one followed at once is dropped.
-/

set_option autoImplicit false
set_option relaxedAutoImplicit false

namespace SpiWifi.Inbox

open Wire

/-- What can happen to an inbox. -/
inductive Mail where
  | arrived (packet : List UInt8)
  /-- The host has taken the response. -/
  | taken
  deriving DecidableEq

namespace Mail

/-- The packet that came in. -/
def packet? : Mail → Option (List UInt8)
  | .arrived packet => some packet
  | .taken => none

/-- The event that the chip sent on its own initiative. -/
def report? : Mail → Option Event
  | .arrived packet => unsolicited? packet
  | .taken => none

/-- The new content of the response slot, unless it stays as it is. -/
def slot? : Mail → Option (Option (List UInt8))
  | .arrived packet => if (unsolicited? packet).isSome then none else some (some packet)
  | .taken => some none

/-- The response slot can hold the packet. -/
def Fits (mail : Mail) : Prop := ∀ packet ∈ mail.packet?, packet.length ≤ responseLimit

end Mail

def receive (inbox : Inbox) : Mail → Inbox
  | .arrived packet => inbox.deliver packet
  | .taken => (inbox.take []).2.2

/-- The reports of the chip. -/
def reports (mail : List Mail) : List Event := mail.filterMap Mail.report?

/-- What the response slot has held after each change. -/
def slots (mail : List Mail) : List (Option (List UInt8)) := mail.filterMap Mail.slot?

/-- How often a response has come while another was still there. -/
def replaced : List (Option (List UInt8)) → Nat
  | first :: second :: rest =>
    (if first.isSome && second.isSome then 1 else 0) + replaced (second :: rest)
  | _ => 0

/-- A record with an event applied to it. -/
def report (record : Events.Record) (event : Event) : Events.Record :=
  record.apply event.opcode event.args

variable {inbox : Inbox} {packet : List UInt8} {mail : Mail}

/-- Whoever takes the response gets it whole, as far as the buffer can hold it. -/
theorem take_eq (inbox : Inbox) (buffer : List UInt8) :
    inbox.take buffer = (inbox.response.map List.length,
      overlay buffer 0 (inbox.response.getD []), { inbox with response := none }) := by
  obtain ⟨record, response, dropped⟩ := inbox
  cases response with
  | none => rw [take, Option.getD_none, overlay_nil, Option.map_none]
  | some response => rfl

theorem receive_taken (inbox : Inbox) : inbox.receive .taken = { inbox with response := none } := by
  rw [receive, take_eq]

theorem deliver_report {event : Event} (h : unsolicited? packet = some event) :
    inbox.deliver packet = { inbox with record := report inbox.record event } := by
  rw [deliver, h]
  rfl

theorem deliver_response (h : unsolicited? packet = none) (fits : packet.length ≤ responseLimit) :
    inbox.deliver packet = { inbox with
      response := some packet
      dropped := if inbox.response.isSome then saturatingAdd inbox.dropped 1
        else inbox.dropped } := by
  rw [deliver, h, List.take_of_length_le fits]

theorem receive_record : (inbox.receive mail).record =
    (mail.report?.map (report inbox.record)).getD inbox.record := by
  cases mail with
  | arrived packet =>
    rw [receive, deliver, Mail.report?]
    cases unsolicited? packet <;> rfl
  | taken => rw [receive_taken, Mail.report?, Option.map_none, Option.getD_none]

theorem receive_response (fits : mail.Fits) :
    (inbox.receive mail).response = mail.slot?.getD inbox.response := by
  cases mail with
  | arrived packet =>
    rw [receive, Mail.slot?]
    cases hevent : unsolicited? packet with
    | some event => rw [deliver_report hevent]; rfl
    | none => rw [deliver_response hevent (fits packet rfl)]; rfl
  | taken => rw [receive_taken, Mail.slot?, Option.getD_some]

theorem receive_dropped (inbox : Inbox) (fits : mail.Fits) : (inbox.receive mail).dropped.toNat =
    min (inbox.dropped.toNat + replaced (inbox.response :: mail.slot?.toList))
      (UInt32.size - 1) := by
  have small : inbox.dropped.toNat < UInt32.size := inbox.dropped.toNat_lt
  cases mail with
  | arrived packet =>
    rw [receive, Mail.slot?]
    cases hevent : unsolicited? packet with
    | some event =>
      rw [deliver_report hevent]
      show inbox.dropped.toNat = min (inbox.dropped.toNat + 0) (UInt32.size - 1)
      omega
    | none =>
      rw [deliver_response hevent (fits packet rfl)]
      by_cases pending : inbox.response.isSome = true
      · simp [pending, replaced, toNat_saturatingAdd]
      · simp only [pending, Bool.false_eq_true, ↓reduceIte, Option.isSome_none, Option.toList_some,
          replaced, Bool.false_and, Nat.add_zero]
        omega
  | taken =>
    rw [receive_taken, Mail.slot?, Option.toList_some, replaced]
    simp only [Option.isSome_none, Bool.and_false, Bool.false_eq_true, ↓reduceIte, replaced,
      Nat.add_zero]
    omega

theorem foldl_receive_record (inbox : Inbox) (mail : List Mail) :
    (mail.foldl receive inbox).record = (reports mail).foldl report inbox.record := by
  induction mail generalizing inbox with
  | nil => rfl
  | cons first rest ih =>
    rw [List.foldl_cons, ih, receive_record, reports, reports, List.filterMap_cons]
    cases first.report? <;> rfl

theorem foldl_receive_response (inbox : Inbox) {mail : List Mail} (fits : ∀ item ∈ mail, item.Fits) :
    (mail.foldl receive inbox).response = (slots mail).getLastD inbox.response := by
  induction mail generalizing inbox with
  | nil => rfl
  | cons first rest ih =>
    obtain ⟨fitsFirst, others⟩ := List.forall_mem_cons.mp fits
    rw [List.foldl_cons, ih _ others, receive_response fitsFirst, slots, slots, List.filterMap_cons]
    cases first.slot? with
    | none => rfl
    | some slot => rw [List.getLastD_cons, Option.getD_some]

theorem foldl_receive_dropped (inbox : Inbox) {mail : List Mail} (fits : ∀ item ∈ mail, item.Fits) :
    (mail.foldl receive inbox).dropped.toNat =
      min (inbox.dropped.toNat + replaced (inbox.response :: slots mail)) (UInt32.size - 1) := by
  induction mail generalizing inbox with
  | nil =>
    have small := inbox.dropped.toNat_lt
    simp only [List.foldl_nil, slots, List.filterMap_nil, replaced, UInt32.size]
    omega
  | cons first rest ih =>
    obtain ⟨fitsFirst, others⟩ := List.forall_mem_cons.mp fits
    have dropped := receive_dropped inbox fitsFirst
    rw [List.foldl_cons, ih _ others, receive_response fitsFirst, slots, slots, List.filterMap_cons]
    cases hslot : first.slot? with
    | none =>
      rw [hslot] at dropped
      simp only [Option.toList_none, replaced] at dropped
      simp only [Option.getD_none]
      omega
    | some slot =>
      rw [hslot] at dropped
      simp only [Option.toList_some, replaced] at dropped
      simp only [Option.getD_some, replaced]
      omega

end SpiWifi.Inbox
