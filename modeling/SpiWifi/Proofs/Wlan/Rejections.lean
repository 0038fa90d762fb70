import SpiWifi.Proofs.Wlan.Moves
import SpiWifi.Proofs.Wlan.Reconfiguring

/-!
What a station refuses before it reaches the chip. Names and keys that are too long and hardware
addresses that start with zero are invalid, and without a lease there is no configuration to look
at and no name to resolve. All of it is refused with nothing asked and nothing changed, and nothing
else is refused in that way.
-/

set_option autoImplicit false
set_option relaxedAutoImplicit false

namespace SpiWifi.Wlan

open Chip Events Host Net

/-- Whether an error stands for a request that the station itself turns down. -/
def WifiError.isRejection : WifiError → Bool
  | invalidArgument | notConnected => true
  | _ => false

namespace Operation

def failure? {α : Type} : Except WifiError α → Option WifiError
  | .error failure => some failure
  | .ok _ => none

theorem failure?_eq_some_iff {α : Type} {result : Except WifiError α} {failure : WifiError} :
    failure? result = some failure ↔ result = .error failure := by
  cases result <;> simp [failure?]

/-- The error that an operation has returned. -/
def error? : (op : Operation) → op.Result → Option WifiError
  | linkStatus | ping _ _ _ _ | connectTo _ _ _ => fun _ ↦ none
  | bringUp _ _ _ | reboot _ | stop | disconnect | deleteProfiles | macAddress | setMac _
  | setStaticIp _ _ _ _ | setDhcp | ipAddress | ipConfig | firmwareVersion | startScan | nextEntry
  | stopScan | connectOpen _ | connectSecure _ _ _ | join _ _ _ _ _ | smartConfig _ _ _
  | resolve _ => failure?

/-- The arguments are not ones that the chip can take. The lengths are those of the UTF-8 text. -/
def Invalid : Operation → Prop
  | connectOpen name => 32 < name.utf8ByteSize
  | connectSecure name key _ | join _ name key _ _ =>
    32 < name.utf8ByteSize ∨ 32 < key.utf8ByteSize
  | setMac mac => mac.get ⟨0, Mac.length_pos⟩ = 0
  | _ => False

/-- The command of an operation that needs a lease. -/
def leaseCommand? : Operation → Option Command
  | ipConfig | ipAddress => some .ipConfig
  | resolve name => some (.resolve name.toUTF8.data.toList)
  | _ => none

end Operation

namespace Station

variable {σ α β : Type} {station : Station σ}

/-! ### Refused at once -/

theorem requireLease_bind_of_leased
    (leased : station.isLinkUp = true ∧ station.isLeased = true) (next : Unit → StationM σ α) :
    (requireLease >>= next : StationM σ α) station = next () station := by
  have passed : (requireLease : StationM σ Unit) station = (.ok (), station) := by
    show (if (station.isLinkUp && station.isLeased) = true then pure () else throw .notConnected :
      StationM σ Unit) station = _
    rw [if_pos (Bool.and_eq_true_iff.mpr leased)]
    rfl
  rw [bind_apply, passed]

theorem requireLease_bind_of_unleased
    (unleased : ¬ (station.isLinkUp = true ∧ station.isLeased = true))
    (next : Unit → StationM σ α) :
    (requireLease >>= next : StationM σ α) station = (.error .notConnected, station) := by
  have refused : (requireLease : StationM σ Unit) station = (.error .notConnected, station) := by
    show (if (station.isLinkUp && station.isLeased) = true then pure () else throw .notConnected :
      StationM σ Unit) station = _
    rw [if_neg (mt Bool.and_eq_true_iff.mp unleased)]
    rfl
  rw [bind_apply, refused]

section Credentials

variable {name key : String}

theorem checkCredentials_bind_of_short
    (short : ¬ (32 < name.utf8ByteSize ∨ 32 < key.utf8ByteSize)) (next : Unit → StationM σ α) :
    (checkCredentials name key >>= next : StationM σ α) station = next () station := by
  have passed : (checkCredentials name key : StationM σ Unit) station = (.ok (), station) := by
    unfold checkCredentials
    rw [nameLimit, keyLimit, if_neg short]
    rfl
  rw [bind_apply, passed]

theorem checkCredentials_bind_of_long
    (long : 32 < name.utf8ByteSize ∨ 32 < key.utf8ByteSize) (next : Unit → StationM σ α) :
    (checkCredentials name key >>= next : StationM σ α) station =
      (.error .invalidArgument, station) := by
  have refused : (checkCredentials name key : StationM σ Unit) station =
      (.error .invalidArgument, station) := by
    unfold checkCredentials
    rw [nameLimit, keyLimit, if_pos long]
    rfl
  rw [bind_apply, refused]

end Credentials

/-! ### What never rejects -/

/-- The operation turns nothing down by itself. -/
def NeverRejects (op : StationM σ α) : Prop :=
  ∀ station failure, (op station).1 = .error failure → failure.isRejection = false

theorem NeverRejects.failure? {op : StationM σ α} (never : NeverRejects op) (station : Station σ)
    {failure : WifiError} (fails : Operation.failure? (op station).1 = some failure) :
    failure.isRejection = false :=
  never station failure (Operation.failure?_eq_some_iff.mp fails)

theorem NeverRejects.bind {op : StationM σ α} {next : α → StationM σ β} (first : NeverRejects op)
    (rest : ∀ value, NeverRejects (next value)) : NeverRejects (op >>= next) := by
  intro station failure
  have plain := first station failure
  rw [bind_apply]
  rcases hop : op station with ⟨thrown | value, after⟩ <;> rw [hop] at plain
  · intro same
    cases same
    exact plain rfl
  · exact rest value after failure

theorem never_return (value : α) : NeverRejects (pure value : StationM σ α) := fun _ _ ↦ nofun

theorem never_throw {thrown : WifiError} (plain : thrown.isRejection = false) :
    NeverRejects (throw thrown : StationM σ α) := by
  rintro station failure ⟨⟩
  exact plain

theorem never_liftM (op : StationStateM σ α) : NeverRejects (liftM op : StationM σ α) :=
  fun _ _ ↦ nofun

theorem never_lift {op : StationStateM σ α} {next : α → StationM σ β}
    (rest : ∀ value, NeverRejects (next value)) :
    NeverRejects (liftM op >>= next : StationM σ β) := (never_liftM op).bind rest

theorem never_view {next : Station σ → StationM σ α}
    (rest : ∀ station, NeverRejects (next station)) : NeverRejects (get >>= next) :=
  fun station ↦ rest station station

theorem never_observing (op : StationM σ α) : NeverRejects (observing op) := by
  intro station failure
  rw [observing_apply]
  nofun

theorem never_ignore (op : StationM σ α) :
    NeverRejects (discard (observing op) : StationM σ Unit) := by
  intro station failure
  rw [discard_observing_apply]
  nofun

theorem never_requireInitialized : NeverRejects (requireInitialized (σ := σ)) := by
  refine never_view fun station ↦ ?_
  split
  · exact never_return ()
  · exact never_throw rfl

variable [Layer σ]

theorem never_command (request : Command) : NeverRejects (command (σ := σ) request) := by
  intro station failure
  rw [command_apply]
  cases (ask request station).1 with
  | ok _ => nofun
  | error status =>
    rintro ⟨⟩
    rfl

theorem never_await (timeout : UInt32) (done : Record → Bool) :
    NeverRejects (await (σ := σ) timeout done) := by
  refine never_lift fun met ↦ ?_
  split
  · exact never_return ()
  · exact never_throw rfl

theorem never_powerCycle (off : UInt32) (patch : UInt8) :
    NeverRejects (powerCycle (σ := σ) off patch) :=
  (never_command _).bind fun _ ↦ never_lift fun _ ↦ never_command _

theorem never_change (request : Command) : NeverRejects (change (σ := σ) request) :=
  (never_command request).bind fun _ ↦ never_view fun _ ↦ never_powerCycle _ 0

theorem never_bringUp (patch : UInt8) (useProfiles : Bool) (name : String) :
    NeverRejects (bringUp (σ := σ) patch useProfiles name) := by
  refine never_view fun station ↦ ?_
  split
  · exact never_return ()
  refine never_view fun station ↦ ?_
  cases station.config.channel? with
  | none => exact never_throw rfl
  | some channel =>
    refine (never_command _).bind fun _ ↦ (never_command _).bind fun _ ↦
      never_lift fun _ ↦ (never_command _).bind fun _ ↦ never_lift fun _ ↦ ?_
    split
    · exact (never_view fun _ ↦ never_await _ _).bind fun _ ↦
        never_lift fun _ ↦ never_liftM _
    · exact never_return ()

theorem never_forgetNetworks : NeverRejects (forgetNetworks (σ := σ)) :=
  (never_command _).bind fun _ ↦ never_command _

theorem never_setScanWindow (millis : UInt32) : NeverRejects (setScanWindow (σ := σ) millis) :=
  never_requireInitialized.bind fun _ ↦ never_command _

theorem never_fetchRecord : NeverRejects (fetchRecord (σ := σ)) :=
  (never_command _).bind fun _ ↦ never_liftM _

theorem never_startScan : NeverRejects (startScan (σ := σ)) :=
  never_requireInitialized.bind fun _ ↦ never_view fun _ ↦
    (never_setScanWindow _).bind fun _ ↦ never_lift fun _ ↦ never_view fun _ ↦
      never_lift fun _ ↦ never_fetchRecord.bind fun _ ↦ never_view fun _ ↦
        never_return _

theorem never_nextEntry : NeverRejects (nextEntry (σ := σ)) :=
  never_requireInitialized.bind fun _ ↦ never_view fun _ ↦
    never_fetchRecord.bind fun _ ↦ never_return _

theorem never_stopScan : NeverRejects (stopScan (σ := σ)) := by
  refine (never_setScanWindow 0).bind fun _ ↦ never_view fun station ↦ ?_
  split
  · exact never_liftM _
  · exact never_return ()

theorem never_requestConnect (security : Security) (name key : String) :
    NeverRejects (requestConnect (σ := σ) security name key) :=
  (never_command _).bind fun _ ↦ never_view fun _ ↦ never_lift fun _ ↦
    (never_command _).bind fun _ ↦ never_liftM _

theorem never_attemptJoin (name key : String) (security : Security) :
    NeverRejects (attemptJoin (σ := σ) name key security) := by
  refine never_lift fun _ ↦ never_view fun _ ↦ (never_ignore _).bind fun _ ↦ never_view fun _ ↦
    never_lift fun _ ↦ (never_ignore _).bind fun _ ↦ (never_observing _).bind fun requested ↦ ?_
  cases requested with
  | error _ => exact never_return ()
  | ok _ => exact never_view fun _ _ _ ↦ nofun

omit [Layer σ] in
theorem never_joinLoop {attempt : StationM σ Unit} (never : NeverRejects attempt)
    {spent : WifiError} (plain : spent.isRejection = false) (budget : Nat) :
    NeverRejects (joinLoop attempt spent budget) := by
  induction budget with
  | zero =>
    refine never_view fun station ↦ ?_
    split
    · exact never_return ()
    · exact never_throw plain
  | succ budget ih =>
    refine never_view fun station ↦ ?_
    split
    · exact never_return ()
    · exact never.bind fun _ ↦ ih

theorem never_dropLink (patience : Nat) : NeverRejects (dropLink (σ := σ) patience) := by
  induction patience with
  | zero =>
    refine never_view fun station ↦ ?_
    split
    · exact never_return ()
    · exact never_throw rfl
  | succ patience ih =>
    refine never_view fun station ↦ ?_
    split
    · exact never_return ()
    · exact never_lift fun _ ↦ (never_command _).bind fun _ ↦ never_view fun _ ↦
        never_lift fun _ ↦ ih

theorem never_listenForCredentials (key : Option (Vector UInt8 16)) :
    NeverRejects (listenForCredentials (σ := σ) key) := by
  have decrypts : NeverRejects (if key.isSome then command .processSmartConfig else pure () :
      StationM σ Unit) := by
    split
    · exact never_command _
    · exact never_return ()
  have listens : NeverRejects (do
      command (.setSmartConfigTag smartConfigTag)
      command (.startSmartConfig key.isSome)
      await (← get).config.smartConfigTimeout (·.flags.smartConfigDone)
      if key.isSome then
        command .processSmartConfig : StationM σ Unit) :=
    (never_command _).bind fun _ ↦ (never_command _).bind fun _ ↦
      never_view fun _ ↦ (never_await _ _).bind fun _ ↦ decrypts
  refine (never_command _).bind fun _ ↦ ?_
  cases key with
  | none => exact listens
  | some key => exact (never_command (.writeKey key)).bind fun _ ↦ listens

theorem never_smartConfig (patience : Nat) (name : String) (key : Option (Vector UInt8 16)) :
    NeverRejects (smartConfig (σ := σ) patience name key) :=
  never_lift fun _ ↦ never_requireInitialized.bind fun _ ↦
    never_forgetNetworks.bind fun _ ↦ (never_dropLink patience).bind fun _ ↦
    never_view fun _ ↦ (never_powerCycle _ _).bind fun _ ↦
    (never_listenForCredentials key).bind fun _ ↦
    (never_command _).bind fun _ ↦ never_view fun _ ↦
    (never_powerCycle _ _).bind fun _ ↦ (never_command _).bind fun _ ↦
    (never_view fun _ ↦ never_await _ _).bind fun _ ↦ never_lift fun _ ↦ never_liftM _

theorem refused_at_once {op : Operation} {result : op.Result} {failure : WifiError}
    (same : op.perform station = (result, station)) (fails : op.error? result = some failure) :
    op.error? (op.perform station).1 = some failure ∧ (op.perform station).2 = station := by
  rw [same]
  exact ⟨fails, rfl⟩

/-- Issues a command once there is a lease. -/
def withLease (request : Command) : StationM σ request.Answer := do
  requireInitialized
  requireLease
  command request

section Law

variable (started : station.isInitialized = true)

include started

theorem perform_of_invalid {op : Operation} (invalid : op.Invalid) :
    op.error? (op.perform station).1 = some .invalidArgument ∧ (op.perform station).2 = station := by
  have passed {α : Type} (next : Unit → StationM σ α) :=
    requireInitialized_bind_of_started started next
  cases op with
  | connectOpen name =>
    exact refused_at_once ((passed _).trans (checkCredentials_bind_of_long (Or.inl invalid) _)) rfl
  | connectSecure name key security =>
    exact refused_at_once ((passed _).trans (checkCredentials_bind_of_long invalid _)) rfl
  | join patience name key security attempts =>
    exact refused_at_once ((passed _).trans (checkCredentials_bind_of_long invalid _)) rfl
  | setMac mac => exact refused_at_once (setMac_of_unassigned started invalid) rfl
  | _ => exact invalid.elim

/-- With valid arguments and no need of a lease only the chip refuses. -/
theorem isRejection_of_perform {op : Operation} (valid : ¬ op.Invalid)
    (plain : op.leaseCommand? = none) {failure : WifiError}
    (fails : op.error? (op.perform station).1 = some failure) : failure.isRejection = false := by
  have passed {α : Type} (next : Unit → StationM σ α) :=
    requireInitialized_bind_of_started started next
  have settled {op next : StationM σ Unit} (never : NeverRejects next)
      (same : op station = next station)
      (fails : Operation.failure? (op station).1 = some failure) :
      failure.isRejection = false := by
    rw [same] at fails
    exact never.failure? station fails
  have asks (request : Command) :
      NeverRejects (requireInitialized >>= fun _ ↦ command request : StationM σ request.Answer) :=
    never_requireInitialized.bind fun _ ↦ never_command request
  cases op with
  | linkStatus => cases fails
  | ping _ _ _ _ => cases fails
  | connectTo _ _ _ => cases fails
  | ipAddress => cases plain
  | ipConfig => cases plain
  | resolve _ => cases plain
  | bringUp patch useProfiles name => exact (never_bringUp _ _ _).failure? station fails
  | reboot patch =>
    exact (never_requireInitialized.bind fun _ ↦ never_view fun station ↦
      never_powerCycle station.config.rebootDelay patch).failure? station fails
  | stop => exact (asks .stop).failure? station fails
  | disconnect =>
    exact (never_requireInitialized.bind fun _ ↦ (never_command .disconnect).bind fun _ ↦
      never_liftM _).failure? station fails
  | deleteProfiles =>
    exact (never_requireInitialized.bind fun _ ↦ never_forgetNetworks).failure? station fails
  | macAddress => exact (asks .readMac).failure? station fails
  | setMac mac => exact settled (never_change _) (setMac_of_assigned started valid) fails
  | setStaticIp ip netmask gateway dns =>
    exact settled (never_change _) (setStaticIp_of_started started ip netmask gateway dns) fails
  | setDhcp =>
    exact settled (never_change _) (setStaticIp_of_started started _ _ _ _) fails
  | firmwareVersion => exact (asks .firmwareVersion).failure? station fails
  | startScan => exact never_startScan.failure? station fails
  | nextEntry => exact never_nextEntry.failure? station fails
  | stopScan => exact never_stopScan.failure? station fails
  | connectOpen name =>
    have short : ¬ (32 < name.utf8ByteSize ∨ 32 < "".utf8ByteSize) := fun long ↦
      long.elim valid (by decide)
    exact settled (never_requestConnect _ _ _)
      ((passed _).trans (checkCredentials_bind_of_short short _)) fails
  | connectSecure name key security =>
    exact settled (never_requestConnect _ _ _)
      ((passed _).trans (checkCredentials_bind_of_short valid _)) fails
  | join patience name key security attempts =>
    refine settled ?_ ((passed _).trans (checkCredentials_bind_of_short valid _)) fails
    have attempt := never_attemptJoin (σ := σ) name key security
    split
    · exact (never_joinLoop attempt rfl _).bind fun _ ↦ never_liftM _
    · exact (never_joinLoop attempt rfl _).bind fun _ ↦ never_liftM _
  | smartConfig patience name key => exact (never_smartConfig _ _ _).failure? station fails

theorem perform_of_unleased (unleased : ¬ (station.isLinkUp = true ∧ station.isLeased = true))
    {op : Operation} {request : Command} (needs : op.leaseCommand? = some request) :
    op.error? (op.perform station).1 = some .notConnected ∧ (op.perform station).2 = station := by
  have refused (request : Command) :
      withLease request station = (.error .notConnected, station) :=
    (requireInitialized_bind_of_started started _).trans (requireLease_bind_of_unleased unleased _)
  cases op with
  | ipConfig => exact refused_at_once (refused .ipConfig) rfl
  | ipAddress =>
    have configuration : ipConfig station = (.error .notConnected, station) := refused .ipConfig
    exact refused_at_once ((bind_apply _ _ station).trans (by rw [configuration])) rfl
  | resolve name => exact refused_at_once (refused (.resolve name.toUTF8.data.toList)) rfl
  | _ => cases needs

section Leased

variable (leased : station.isLinkUp = true ∧ station.isLeased = true)

include leased

theorem withLease_of_leased (request : Command) :
    withLease request station = command request station :=
  (requireInitialized_bind_of_started started _).trans (requireLease_bind_of_leased leased _)

/-- With a lease the chip is asked for the configuration, and an address of zero counts as none. -/
theorem ipAddress_of_leased :
    ∃ outcome : Outcome (.command .ipConfig),
      station.host.Made [⟨.command .ipConfig, outcome⟩] (ipAddress station).2.host ∧
      (ipAddress station).1 ≠ .error .invalidArgument ∧
      ((ipAddress station).1 = .error .notConnected ↔
        ∃ config, outcome.answer = .ok config ∧ config.ip.a = 0) := by
  have configuration : ipConfig station = command .ipConfig station :=
    withLease_of_leased started leased .ipConfig
  obtain ⟨_, asked, ⟨outcome, rfl, result⟩, -⟩ := command_traces .ipConfig station
  refine ⟨outcome, ?_⟩
  unfold ipAddress
  rw [bind_apply, configuration]
  rcases hcommand : command .ipConfig station with ⟨failure | config, after⟩ <;>
    rw [hcommand] at asked result <;> cases answer : outcome.answer <;>
    rw [answer] at result <;> cases result
  · exact ⟨asked.host, nofun, nofun, nofun⟩
  · by_cases unassigned : config.ip.a = 0
    · simp only [if_pos unassigned]
      exact ⟨asked.host, nofun, fun _ ↦ ⟨config, rfl, unassigned⟩, fun _ ↦ rfl⟩
    · simp only [if_neg unassigned]
      refine ⟨asked.host, nofun, nofun, ?_⟩
      rintro ⟨_, ⟨⟩, none⟩
      exact absurd none unassigned

/-- The chip is asked once. -/
theorem perform_of_leased {op : Operation} {request : Command}
    (needs : op.leaseCommand? = some request) :
    ∃ outcome : Outcome (.command request),
      station.host.Made [⟨.command request, outcome⟩] (op.perform station).2.host ∧
      (op ≠ .ipAddress → ∀ failure, op.error? (op.perform station).1 = some failure →
        failure.isRejection = false) := by
  have asks (request : Command) : ∃ outcome : Outcome (.command request),
      station.host.Made [⟨.command request, outcome⟩] (withLease request station).2.host ∧
      ∀ failure, Operation.failure? (withLease request station).1 = some failure →
        failure.isRejection = false := by
    rw [withLease_of_leased started leased]
    obtain ⟨_, asked, ⟨outcome, rfl, -⟩, -⟩ := command_traces request station
    exact ⟨outcome, asked.host, fun _ ↦ (never_command request).failure? station⟩
  cases op with
  | ipConfig =>
    cases needs
    obtain ⟨outcome, made, plain⟩ := asks .ipConfig
    exact ⟨outcome, made, fun _ ↦ plain⟩
  | resolve name =>
    cases needs
    obtain ⟨outcome, made, plain⟩ := asks (.resolve name.toUTF8.data.toList)
    exact ⟨outcome, made, fun _ ↦ plain⟩
  | ipAddress =>
    cases needs
    obtain ⟨outcome, made, -⟩ := ipAddress_of_leased started leased
    exact ⟨outcome, made, fun other ↦ absurd rfl other⟩
  | _ => cases needs

end Leased

/-- What a station that is up refuses by itself. -/
structure Rejects (station : Station σ) (op : Operation) : Prop where
  invalid_iff : op.error? (op.perform station).1 = some .invalidArgument ↔ op.Invalid
  invalid_untouched : op.Invalid → (op.perform station).2 = station
  /-- Without a link and a lease there is no command, and else there is one. -/
  unleased_iff : ∀ request, op.leaseCommand? = some request →
    ((op.error? (op.perform station).1 = some .notConnected ∧
        ∃ trace, station.host.Made trace (op.perform station).2.host ∧ commands trace = []) ↔
      ¬ (station.isLinkUp = true ∧ station.isLeased = true))
  unleased_untouched : ∀ request, op.leaseCommand? = some request →
    ¬ (station.isLinkUp = true ∧ station.isLeased = true) → (op.perform station).2 = station
  /-- An address of zero, in an answer of the chip, is none. -/
  unassigned_iff : op = .ipAddress → station.isLinkUp = true ∧ station.isLeased = true →
    ∃ outcome : Outcome (.command .ipConfig),
      station.host.Made [⟨.command .ipConfig, outcome⟩] (op.perform station).2.host ∧
      (op.error? (op.perform station).1 = some .notConnected ↔
        ∃ config, outcome.answer = .ok config ∧ config.ip.a = 0)
  /-- Nothing else fails for want of a lease. -/
  elsewhere : op ≠ .ipAddress →
    op.leaseCommand? = none ∨ station.isLinkUp = true ∧ station.isLeased = true →
    op.error? (op.perform station).1 ≠ some .notConnected

/-- What is refused at once is refused for its arguments or for want of a lease, and leaves the
station as it is. -/
theorem perform_rejects (op : Operation) : Rejects station op := by
  -- A rejection for neither reason contradicts one of the three laws above.
  have plain {failure : WifiError} (valid : ¬ op.Invalid) (other : op ≠ .ipAddress)
      (free : op.leaseCommand? = none ∨ station.isLinkUp = true ∧ station.isLeased = true)
      (fails : op.error? (op.perform station).1 = some failure) : failure.isRejection = false := by
    cases needs : op.leaseCommand? with
    | none => exact isRejection_of_perform started valid needs fails
    | some request =>
      rw [needs] at free
      obtain ⟨_, -, accepted⟩ :=
        perform_of_leased started (free.resolve_left nofun) needs
      exact accepted other failure fails
  refine ⟨⟨?_, fun invalid ↦ (perform_of_invalid started invalid).1⟩,
    fun invalid ↦ (perform_of_invalid started invalid).2, ?_,
    fun request needs unleased ↦ (perform_of_unleased started unleased needs).2, ?_, ?_⟩
  · refine fun fails ↦ Classical.byContradiction fun valid ↦ ?_
    by_cases free : op.leaseCommand? = none ∨ station.isLinkUp = true ∧ station.isLeased = true
    · by_cases address : op = .ipAddress
      · subst address
        obtain ⟨_, -, other, -⟩ := ipAddress_of_leased started (free.resolve_left nofun)
        exact other (Operation.failure?_eq_some_iff.mp fails)
      · cases plain valid address free fails
    · obtain ⟨needy, unleased⟩ := not_or.mp free
      obtain ⟨request, needs⟩ := Option.ne_none_iff_exists'.mp needy
      rw [(perform_of_unleased started unleased needs).1] at fails
      cases fails
  · intro request needs
    constructor
    · intro ⟨_, trace, made, silent⟩ leased
      obtain ⟨outcome, asked, -⟩ := perform_of_leased started leased needs
      have same : trace.reverse = [⟨.command request, outcome⟩] :=
        List.append_cancel_right (made.history.symm.trans asked.history)
      rw [List.reverse_eq_iff.mp same] at silent
      cases silent
    · intro unleased
      obtain ⟨fails, untouched⟩ := perform_of_unleased started unleased needs
      rw [untouched]
      exact ⟨fails, [], .refl _, rfl⟩
  · rintro rfl leased
    obtain ⟨outcome, made, -, unassigned⟩ := ipAddress_of_leased started leased
    exact ⟨outcome, made, Operation.failure?_eq_some_iff.trans unassigned⟩
  · intro other free fails
    by_cases invalid : op.Invalid
    · rw [(perform_of_invalid started invalid).1] at fails
      cases fails
    · cases plain invalid other free fails

end Law

/-- A station with a lease, of a chip that knows of no address. -/
def addressless : Station Bench.Chip where
  host := { layer := {}, record := { flags := { linkUp := true, leased := true } } }
  config := {}
  stage := .connected

/-- Seventeen letters, and too long: each takes two bytes. -/
theorem perform_rejects_addressless :
    addressless.isInitialized = true ∧
      (Operation.connectOpen "ääääääääääääääääa").error?
        ((Operation.connectOpen "ääääääääääääääääa").perform addressless).1 =
          some .invalidArgument ∧
      ((Operation.connectOpen "ääääääääääääääääa").perform addressless).2 = addressless ∧
      Operation.ipAddress.error? (Operation.ipAddress.perform addressless).1 =
        some .notConnected ∧
      Rejects addressless .ipAddress := by
  have started : addressless.isInitialized = true := rfl
  have named := perform_rejects started (.connectOpen "ääääääääääääääääa")
  have long : (Operation.connectOpen "ääääääääääääääääa").Invalid := by
    show 32 < "ääääääääääääääääa".utf8ByteSize
    decide
  exact ⟨started, named.invalid_iff.mpr long, named.invalid_untouched long, by decide +kernel,
    perform_rejects started .ipAddress⟩

end Station

end SpiWifi.Wlan
