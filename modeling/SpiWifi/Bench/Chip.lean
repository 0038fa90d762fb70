import SpiWifi.Chip.Command

/-!
A scripted chip for exercising the layers above the commands. Results, answers
and reports are queued beforehand, and a clock that only pauses advance decides
when scheduled reports come due.
-/

set_option autoImplicit false
set_option relaxedAutoImplicit false

namespace SpiWifi.Bench

open SpiWifi.Chip Net Wlan

/-- Queues by key. -/
abbrev Queues (κ α : Type) : Type := List (κ × List α)

namespace Queues

variable {κ α : Type} [BEq κ]

def items (queues : Queues κ α) (key : κ) : List α := (queues.lookup key).getD []

def replace (queues : Queues κ α) (key : κ) (items : List α) : Queues κ α :=
  (key, items) :: queues.filter (·.1 != key)

def append (queues : Queues κ α) (key : κ) (more : List α) : Queues κ α :=
  queues.replace key (queues.items key ++ more)

def pop? (queues : Queues κ α) (key : κ) : Option α × Queues κ α :=
  match queues.items key with
  | [] => (none, queues)
  | item :: rest => (some item, queues.replace key rest)

end Queues

/-- The name a script knows a command by. -/
def commandName : Command → String
  | .attach _ => "open"
  | .start _ => "start"
  | .stop => "stop"
  | .setEventMask _ => "set_event_mask"
  | .setPolicy _ => "set_connection_policy"
  | .deleteProfiles => "delete_profiles"
  | .setScanParams _ => "set_scan_params"
  | .scanResult => "scan_result"
  | .connectNetwork _ _ _ => "connect_ap"
  | .disconnect => "disconnect"
  | .linkStatus => "status"
  | .readMac => "read_mac"
  | .writeMac _ => "write_mac"
  | .firmwareVersion => "firmware_version"
  | .createKeyEntry => "create_aes_entry"
  | .writeKey _ => "write_aes_key"
  | .setSmartConfigTag _ => "set_smart_config_prefix"
  | .startSmartConfig _ => "start_smart_config"
  | .processSmartConfig => "process_smart_config"
  | .configureIp _ _ _ _ => "configure_ip"
  | .ipConfig => "ip_config"
  | .sendPing _ _ _ _ => "send_ping"
  | .resolve _ => "resolve"
  | .advertise _ => "advertise_mdns"
  | .setTimeouts _ => "set_timeouts"
  | .openSocket _ => "open_socket"
  | .connectSocket _ _ => "connect"
  | .bindSocket _ _ => "bind"
  | .listen _ => "listen"
  | .setNonBlocking _ => "set_accept_nonblocking"
  | .accept _ => "accept"
  | .send _ _ => "send"
  | .receive _ _ => "recv"
  | .selectReadable _ _ => "select_readable"
  | .closeSocket _ => "close"

/-- A report that a command brings about: by its `nth` success, or by every one
if that is zero; at once if the delay is negative. -/
structure Reaction where
  nth : Nat
  delay : Int
  notice : Notice

structure Scheduled where
  time : Int
  notice : Notice

/-- Data that one receive call returns, with the count it gives if not their length. -/
structure Arrival where
  data : List UInt8
  count? : Option Nat := none

structure Chip where
  now : Nat := 0
  /-- Status codes by command; zero is success. -/
  results : Queues String Int16 := []
  reactions : Queues String Reaction := []
  scheduled : List Scheduled := []
  /-- How often each command has been called. -/
  calls : List (String × Nat) := []
  arrivals : Queues SocketId (Except Status Arrival) := []
  probes : Queues SocketId (Except Status Bool) := []
  sends : Queues SocketId (Except Status Nat) := []
  accepts : List (Except Status (Option SocketId)) := []
  sockets : List SocketId := []
  nextSocket : SocketId := 0
  records : List ScanRecord := []
  linkStatus : UInt32 := 0
  mac : Mac := Vector.replicate 6 0
  firmware : UInt8 × UInt8 := (0, 0)
  resolved : Ipv4 := .unspecified
  ipConfig : IpConfig :=
    ⟨.unspecified, .unspecified, .unspecified, .unspecified, .unspecified,
      Vector.replicate 6 0, []⟩

namespace Chip

/-- Counts a call and takes the status that the script has for it. -/
def countCall (chip : Chip) (name : String) : Nat × Int16 × Chip :=
  let count := (chip.calls.lookup name).getD 0 + 1
  let (code, results) := chip.results.pop? name
  let calls := (name, count) :: chip.calls.filter (·.1 != name)
  (count, code.getD 0, { chip with calls, results })

/-- The reports that a successful call brings about at once; later ones are scheduled. -/
def react (chip : Chip) (name : String) (count : Nat) : List Notice × Chip :=
  let due := (chip.reactions.items name).filter fun row ↦ row.nth == 0 || row.nth == count
  let later := due.filter (0 ≤ ·.delay)
  let scheduled := later.map fun row ↦ ⟨chip.now + row.delay, row.notice⟩
  ((due.filter (·.delay < 0)).map (·.notice),
    { chip with scheduled := chip.scheduled ++ scheduled })

/-- What a receive call copies and counts. -/
def received (arrival : Arrival) (limit : Nat) : Received :=
  let data := arrival.data.take limit
  ⟨data, arrival.count?.getD data.length⟩

/-- A command's own work once its status is success. -/
def work (chip : Chip) : (request : Command) → Except Status request.Answer × Chip
  | .scanResult =>
    match chip.records with
    | [] => (.ok ScanRecord.blank, chip)
    | record :: rest => (.ok record, { chip with records := rest })
  | .linkStatus => (.ok chip.linkStatus, chip)
  | .readMac => (.ok chip.mac, chip)
  | .firmwareVersion => (.ok chip.firmware, chip)
  | .ipConfig => (.ok chip.ipConfig, chip)
  | .resolve _ => (.ok chip.resolved, chip)
  | .openSocket _ =>
    match chip.sockets with
    | [] => (.ok chip.nextSocket, { chip with nextSocket := chip.nextSocket + 1 })
    | socket :: rest => (.ok socket, { chip with sockets := rest })
  | .accept _ =>
    match chip.accepts with
    | [] => (.ok none, chip)
    | item :: rest => (item, { chip with accepts := rest })
  | .send socket data =>
    let (item, sends) := chip.sends.pop? socket
    (item.getD (.ok data.length), { chip with sends })
  | .receive socket limit =>
    let (item, arrivals) := chip.arrivals.pop? socket
    ((item.getD (.error .socketInactive)).map (received · limit), { chip with arrivals })
  | .selectReadable socket _ =>
    let (item, probes) := chip.probes.pop? socket
    (item.getD (.ok !(chip.arrivals.items socket).isEmpty), { chip with probes })
  | .attach _ | .start _ | .stop | .setEventMask _ | .setPolicy _ | .deleteProfiles
  | .setScanParams _ | .connectNetwork _ _ _ | .disconnect | .writeMac _ | .createKeyEntry
  | .writeKey _ | .setSmartConfigTag _ | .startSmartConfig _ | .processSmartConfig
  | .configureIp _ _ _ _ | .sendPing _ _ _ _ | .advertise _ | .setTimeouts _
  | .connectSocket _ _ | .bindSocket _ _ | .listen _ | .setNonBlocking _ | .closeSocket _ =>
    (.ok (), chip)

def run (request : Command) (chip : Chip) : Outcome (.command request) × Chip :=
  let (count, code, chip) := chip.countCall (commandName request)
  if code = 0 then
    let (notices, chip) := chip.react (commandName request) count
    let (answer, chip) := chip.work request
    (⟨answer, notices⟩, chip)
  else
    (⟨.error ⟨code⟩, []⟩, chip)

def respond : (request : Request) → Chip → Outcome request × Chip
  | .poll, chip =>
    let (due, later) := chip.scheduled.partition fun row ↦ row.time ≤ (chip.now : Int)
    (⟨(), due.map (·.notice)⟩, { chip with scheduled := later })
  | .pause millis, chip => (⟨(), []⟩, { chip with now := chip.now + millis.toNat })
  | .command request, chip => chip.run request

instance : Layer Chip := ⟨respond⟩

end Chip

/-- A line of a condensed history: a run of polls and pauses, or a command. -/
inductive ChipLine where
  | waited (polls pauses total : Nat)
  | command (request : Command)
  deriving DecidableEq

namespace ChipLine

def ofExchange (exchange : Exchange) : ChipLine :=
  match exchange.request with
  | .poll => .waited 1 0 0
  | .pause millis => .waited 0 1 millis.toNat
  | .command request => .command request

/-- Adds a line in front of those that come after it. -/
def prepend : ChipLine → List ChipLine → List ChipLine
  | .waited polls pauses total, .waited morePolls morePauses more :: rest =>
    .waited (polls + morePolls) (pauses + morePauses) (total + more) :: rest
  | line, lines => line :: lines

/-- The condensed lines of a history, the first request first. -/
def ofHistory (history : List Exchange) : List ChipLine :=
  history.foldl (fun lines exchange ↦ (ofExchange exchange).prepend lines) []

end ChipLine

end SpiWifi.Bench
