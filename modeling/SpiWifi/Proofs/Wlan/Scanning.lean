import SpiWifi.Proofs.Net.Lifecycle
import SpiWifi.Proofs.Wlan.Moves

/-!
Walking through the networks that a scan has found. A station holds one record ahead of those that
it has returned. So the entries that it returns are the records in the order in which they were
fetched, however often a fetch fails in between and whatever else is asked of the station.
-/

set_option autoImplicit false
set_option relaxedAutoImplicit false

namespace SpiWifi

open Chip

namespace Chip

/-- The scan record that was fetched. -/
def Exchange.record? : Exchange → Option Wlan.ScanRecord
  | ⟨.command .scanResult, outcome⟩ => outcome.answer.toOption
  | _ => none

def fetched (trace : List Exchange) : List Wlan.ScanRecord := trace.filterMap Exchange.record?

@[simp] theorem fetched_append (first second : List Exchange) :
    fetched (first ++ second) = fetched first ++ fetched second := List.filterMap_append

theorem fetched_of_commands {trace : List Exchange} (none : .scanResult ∉ commands trace) :
    fetched trace = [] := by
  refine List.filterMap_eq_nil_iff.mpr fun exchange mem ↦ ?_
  obtain ⟨_ | _ | request, outcome⟩ := exchange
  · rfl
  · rfl
  · cases request with
    | scanResult => exact absurd (command?_mem mem rfl) none
    | _ => rfl

section Fetching

variable {fetch : Outcome (.command .scanResult)}

theorem fetched_ok {scanRecord : Wlan.ScanRecord} (answer : fetch.answer = .ok scanRecord) :
    fetched [⟨_, fetch⟩] = [scanRecord] := by
  rw [fetched, List.filterMap_cons, Exchange.record?, answer]
  rfl

theorem fetched_error {status : Status} (answer : fetch.answer = .error status) :
    fetched [⟨_, fetch⟩] = [] := by
  rw [fetched, List.filterMap_cons, Exchange.record?, answer]
  rfl

end Fetching

end Chip

namespace Wlan

/-- The entry that was returned, if any. -/
def Operation.entry? : (op : Operation) → op.Result → Option ScanEntry
  | .nextEntry, result => result.toOption
  | _, _ => none

theorem Operation.entry?_of_fetches {op : Operation} (other : op.fetches = false)
    (result : op.Result) : op.entry? result = none := by
  cases op with
  | nextEntry => cases other
  | _ => rfl

namespace Station

variable {σ α : Type} {station before middle after : Station σ}

/-- No scan record was fetched in between, and the old one is kept. -/
def Unfetched (before after : Station σ) : Prop :=
  ∃ trace, before.host.Logged trace after.host ∧ fetched trace = [] ∧
    after.scanRecord = before.scanRecord

/-- A fetch is a single command. With it the value is returned and the record is exchanged; if it
fails only its status is returned, and of the station nothing but the host has changed. -/
inductive Fetches (station : Station σ) (value : α) :
    Outcome (.command .scanResult) → Except WifiError α → Station σ → Prop where
  | fetched {fetch : Outcome (.command .scanResult)} {scanRecord : ScanRecord} {host : Host σ}
      (answer : fetch.answer = .ok scanRecord) (logged : station.host.Logged [⟨_, fetch⟩] host) :
      Fetches station value fetch (.ok value) { station with host, scanRecord }
  | failed {fetch : Outcome (.command .scanResult)} {status : Status} {host : Host σ}
      (answer : fetch.answer = .error status) (logged : station.host.Logged [⟨_, fetch⟩] host) :
      Fetches station value fetch (.error (.command status)) { station with host }

/-- The record that is held is returned first, then those that come in, and the last one is held
in the end. -/
structure Walked (before : Station σ) (trace : List Exchange) (returned : List ScanEntry)
    (after : Station σ) : Prop where
  logged : before.host.Logged trace after.host
  in_order : ∃ records, before.scanRecord :: fetched trace = records ++ [after.scanRecord] ∧
    returned = records.map ScanRecord.decode

namespace Walked

variable {trace later : List Exchange} {returned more : List ScanEntry}

theorem refl (station : Station σ) : Walked station [] [] station :=
  ⟨.refl _, [], rfl, rfl⟩

theorem trans (h : Walked before trace returned middle) (k : Walked middle later more after) :
    Walked before (trace ++ later) (returned ++ more) after := by
  obtain ⟨records, front, rfl⟩ := h.in_order
  obtain ⟨others, back, rfl⟩ := k.in_order
  refine ⟨h.logged.trans k.logged, records ++ others, ?_, List.map_append.symm⟩
  calc before.scanRecord :: fetched (trace ++ later)
      = (before.scanRecord :: fetched trace) ++ fetched later := by
        rw [fetched_append, List.cons_append]
    _ = records ++ middle.scanRecord :: fetched later := by
        rw [front, List.append_assoc, List.singleton_append]
    _ = records ++ others ++ [after.scanRecord] := by rw [back, List.append_assoc]

theorem of_unfetched (unfetched : Unfetched before after) :
    ∃ trace, Walked before trace [] after := by
  obtain ⟨trace, logged, none, kept⟩ := unfetched
  exact ⟨trace, logged, [], by rw [none, kept]; rfl, rfl⟩

end Walked

theorem Fetches.walked {fetch : Outcome (.command .scanResult)}
    {result : Except WifiError ScanEntry}
    (fetches : Fetches station station.scanRecord.decode fetch result after) :
    Walked station [⟨_, fetch⟩] result.toOption.toList after := by
  cases fetches with
  | fetched answer logged =>
    exact ⟨logged, [station.scanRecord], by rw [fetched_ok answer]; rfl, rfl⟩
  | failed answer logged => exact ⟨logged, [], by rw [fetched_error answer]; rfl, rfl⟩

variable [Layer σ]

theorem unfetched_connect (kind : SocketKind) (ip : Net.Ipv4) (port : UInt16)
    (station : Station σ) : Unfetched station (connectTo kind ip port station).2 := by
  obtain ⟨trace, connects⟩ := Net.Client.connect_connects kind ip port station.host
  suffices logged : station.host.Logged trace (connectTo kind ip port station).2.host ∧
      fetched trace = [] from ⟨trace, logged.1, logged.2, rfl⟩
  change station.host.Logged trace (Net.Client.connect kind ip port station.host).2 ∧ _
  generalize Net.Client.connect kind ip port station.host = result at connects ⊢
  obtain ⟨result, last⟩ := result
  cases connects with
  | refused _ logged => exact ⟨logged, rfl⟩
  | untracked _ _ logged => exact ⟨logged, rfl⟩
  | failed _ _ logged => exact ⟨logged, rfl⟩
  | connected _ _ logged _ asked => exact ⟨logged.trans asked, rfl⟩

theorem unfetched_ask (request : Request) (other : request ≠ .command .scanResult)
    (station : Station σ) :
    Unfetched station { station with host := (Host.ask request station.host).2 } := by
  obtain ⟨outcome, -, made⟩ := Host.ask_made request station.host
  refine ⟨_, made.history, fetched_of_commands fun mem ↦ ?_, rfl⟩
  cases request with
  | poll => cases mem
  | pause _ => cases mem
  | command request => exact other (congrArg Request.command (List.mem_singleton.mp mem).symm)

instance : Spans (Unfetched (σ := σ)) where
  refl station := ⟨[], .refl _, rfl, rfl⟩
  trans := by
    rintro before middle after ⟨trace, logged, none, kept⟩ ⟨later, more, nothing, still⟩
    exact ⟨trace ++ later, logged.trans more, by rw [fetched_append, none, nothing]; rfl,
      still.trans kept⟩
  poll := unfetched_ask .poll nofun
  ask request other := unfetched_ask (.command request) fun same ↦ other (by cases same; rfl)
  waitUntil timeout done station := by
    obtain ⟨trace, made, waited⟩ :=
      Host.waitLoop_waited done station.config.pollInterval timeout 0 station.host
    refine ⟨trace, made.history, fetched_of_commands ?_, rfl⟩
    rw [waited.commands_eq]
    nofun
  pause request station := unfetched_ask (.pause station.config.pollInterval) nofun _
  enter _ _ station := ⟨[], .refl _, rfl, rfl⟩
  clearFlags station := ⟨[], .refl _, rfl, rfl⟩
  resetPing station := ⟨[], .refl _, rfl, rfl⟩
  connect := unfetched_connect

/-! ### Fetching -/

theorem fetchRecord_fetches (station : Station σ) :
    ∃ fetch, Fetches station () fetch (fetchRecord station).1 (fetchRecord station).2 := by
  obtain ⟨fetch, answer, logged⟩ := Host.command_logged .scanResult station.host
  refine ⟨fetch, ?_⟩
  have asked : ask .scanResult station = ((Host.command .scanResult station.host).1,
    { station with host := (Host.command .scanResult station.host).2 }) := rfl
  rw [fetchRecord_apply, asked]
  generalize Host.command .scanResult station.host = result at *
  obtain ⟨status | scanRecord, host⟩ := result
  · exact .failed answer.symm logged
  · exact .fetched answer.symm logged

theorem nextEntry_fetches (started : station.isInitialized = true) :
    ∃ fetch, Fetches station station.scanRecord.decode fetch (nextEntry station).1
      (nextEntry station).2 := by
  obtain ⟨fetch, fetches⟩ := fetchRecord_fetches station
  refine ⟨fetch, ?_⟩
  have next : nextEntry station = (fetchRecord >>= fun _ ↦ pure station.scanRecord.decode :
      StationM σ ScanEntry) station := requireInitialized_bind_of_started started _
  rw [next, bind_apply]
  generalize fetchRecord station = result at fetches ⊢
  obtain ⟨result, after⟩ := result
  cases fetches with
  | fetched answer logged => exact .fetched answer logged
  | failed answer logged => exact .failed answer logged

/-- All that a scan does before it fetches its first record. -/
def beginScan : StationM σ Unit := do
  requireInitialized
  setScanWindow (← get).config.scanWindow
  enter (σ := σ) .scanning
  settle (σ := σ) (← get).config.scanSettle

theorem startScan_eq : startScan (σ := σ) = do
    beginScan
    fetchRecord
    return (← get).scanRecord.networkCount := by
  simp only [startScan, beginScan, bind_assoc]

theorem beginScan_unfetched (station : Station σ) : Unfetched station (beginScan station).2 := by
  have within : Within Unfetched (beginScan (σ := σ)) :=
    within_requireInitialized.bind fun _ ↦ within_view fun _ ↦ (within_setScanWindow _).bind
      fun _ ↦ (within_enter .scanning (by decide)).lift fun _ ↦ within_view fun _ ↦ within_settle _
  exact within station

/-- A scan that succeeds has fetched one record, as the last thing that it asked for. -/
theorem startScan_ok {count : UInt32} (scanned : (startScan station).1 = .ok count) :
    ∃ earlier fetch, station.host.Logged (earlier ++ [⟨.command .scanResult, fetch⟩])
        (startScan station).2.host ∧ fetched earlier = [] ∧
      fetch.answer = .ok (startScan station).2.scanRecord ∧
      count = (startScan station).2.scanRecord.networkCount := by
  obtain ⟨earlier, logged, none, -⟩ := beginScan_unfetched station
  rw [startScan_eq, bind_apply] at scanned ⊢
  generalize beginScan station = result at *
  obtain ⟨failure | _, ready⟩ := result
  · cases scanned
  obtain ⟨fetch, fetches⟩ := fetchRecord_fetches ready
  dsimp only at scanned ⊢
  rw [bind_apply] at scanned ⊢
  generalize fetchRecord ready = result at fetches scanned ⊢
  obtain ⟨result, after⟩ := result
  cases fetches with
  | failed _ _ => cases scanned
  | fetched answer asked =>
    cases scanned
    exact ⟨earlier, fetch, logged.trans asked, none, answer, rfl⟩

/-! ### Walking -/

/-- The entries that some operations return. -/
def entries (station : Station σ) : List Operation → List ScanEntry
  | [] => []
  | op :: rest => (op.entry? (op.perform station).1).toList ++ entries (op.perform station).2 rest

theorem perform_walked (started : station.isInitialized = true) {op : Operation}
    (other : op ≠ .startScan) :
    ∃ trace, Walked station trace (op.entry? (op.perform station).1).toList
      (op.perform station).2 := by
  by_cases fetches : op.fetches = true
  · cases op with
    | nextEntry =>
      obtain ⟨fetch, fetched⟩ := nextEntry_fetches started
      exact ⟨_, fetched.walked⟩
    | startScan => exact absurd rfl other
    | _ => cases fetches
  · rw [op.entry?_of_fetches (Bool.eq_false_iff.mpr fetches)]
    exact Walked.of_unfetched (perform_within op (fun fetch ↦ absurd fetch fetches) station)

theorem run_walked (started : station.isInitialized = true) {ops : List Operation}
    (others : .startScan ∉ ops) :
    ∃ trace, Walked station trace (station.entries ops) (station.run ops) := by
  induction ops generalizing station with
  | nil => exact ⟨[], .refl station⟩
  | cons op rest ih =>
    have other : op ≠ .startScan := fun same ↦ others (same ▸ List.mem_cons_self)
    obtain ⟨trace, first⟩ := perform_walked started other
    obtain ⟨later, walked⟩ := ih (isInitialized_of_path (run_walks station [op]) started)
      fun mem ↦ others (List.mem_cons_of_mem _ mem)
    exact ⟨trace ++ later, first.trans walked⟩

/-- A scan with the record that it fetched first, and the walk from there, with other operations in
between as long as no new scan is started. -/
structure Scanned (station : Station σ) (count : UInt32) (first : ScanRecord) : Prop where
  /-- The last thing that was asked for, and the only fetch. -/
  began : ∃ earlier fetch, station.host.Logged (earlier ++ [⟨.command .scanResult, fetch⟩])
      (startScan station).2.host ∧ fetched earlier = [] ∧ fetch.answer = .ok first
  held : (startScan station).2.scanRecord = first
  counted : count.toNat = Wire.ofLittle (first.toList.take 4)
  /-- What has been returned so far. -/
  walked : ∀ ops, .startScan ∉ ops → ∃ trace, Walked (startScan station).2 trace
    ((startScan station).2.entries ops) ((startScan station).2.run ops)
  /-- How one more step goes. -/
  next : ∀ ops, .startScan ∉ ops → ∃ fetch, Fetches ((startScan station).2.run ops)
    ((startScan station).2.run ops).scanRecord.decode fetch
    (nextEntry ((startScan station).2.run ops)).1 (nextEntry ((startScan station).2.run ops)).2

/-- A scan tells how many networks there are by the first record, and the walk that follows returns
the records in the order in which they are fetched, each of them once. -/
theorem startScan_scanned {count : UInt32} (scanned : (startScan station).1 = .ok count) :
    ∃ first, Scanned station count first := by
  have started : (startScan station).2.isInitialized = true := by
    have up : station.isInitialized = true := by
      by_contra idle
      rw [startScan, requireInitialized_bind_apply (Bool.eq_false_iff.mpr idle)] at scanned
      cases scanned
    exact isInitialized_of_path (run_walks station [.startScan]) up
  obtain ⟨earlier, fetch, logged, none, answer, rfl⟩ := startScan_ok scanned
  refine ⟨_, ⟨earlier, fetch, logged, none, answer⟩, rfl, ?_, fun ops others ↦ ?_,
    fun ops others ↦ ?_⟩
  · have short : ((startScan station).2.scanRecord.toList.take 4).length ≤ 4 :=
      List.length_take_le ..
    exact UInt32.toNat_ofNat_of_lt (Wire.ofLittle_lt_word short)
  · exact run_walked started others
  · exact nextEntry_fetches (isInitialized_of_path (run_walks _ ops) started)

/-- The record of a network that is seen with some strength, and how many networks there are. -/
def sighting (count strength : UInt8) : ScanRecord := (ScanRecord.blank.set 0 count).set 8 strength

/-- The chip has found two networks. The second fetch fails. -/
def survey : Station Bench.Chip where
  host := { layer := {
    records := [sighting 2 21, sighting 2 41]
    results := [("scan_result", [0, -5])] } }
  config := { scanSettle := 0 }
  stage := .initialized

def stroll : List Operation := [.nextEntry, .linkStatus, .nextEntry, .stopScan, .nextEntry]

theorem startScan_scanned_survey :
    (startScan survey).1 = .ok 2 ∧ (∃ first, Scanned survey 2 first) ∧
      ((startScan survey).2.entries stroll).map (·.strength) = [10, 20] := by
  have scanned : (startScan survey).1 = .ok 2 :=
    Net.Call.eq_ok_of_toOption (by decide +kernel)
  exact ⟨scanned, startScan_scanned scanned, by decide +kernel⟩

end Station

end Wlan

end SpiWifi
