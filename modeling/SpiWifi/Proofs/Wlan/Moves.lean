import SpiWifi.Proofs.Wlan.Within

/-!
The moves of a station. Each step of an operation is a path of moves, so what every move keeps
holds after any run. A station that has been brought up stays so, and its flag for the link is
raised only if the last report on the link was that it is up.
-/

set_option autoImplicit false
set_option relaxedAutoImplicit false

namespace SpiWifi.Wlan.Station

open Chip Relation

variable {σ α : Type} [Layer σ]

inductive Move : Station σ → Station σ → Prop where
  | host {station : Station σ} {host : Host σ}
      (move : Host.Move station.config.interval station.host host) :
      Move station { station with host }
  | enter {stage : Stage} (station : Station σ) (running : stage ≠ .uninitialized) :
      Move station (station.inStage stage)
  | fetched (station : Station σ) (scanRecord : ScanRecord) :
      Move station { station with scanRecord }

/-- The operation gets by with moves. -/
def Walks (op : StationStateM σ α) : Prop := ∀ station, ReflTransGen Move station (op station).2

theorem path_onHost {station : Station σ} {host : Host σ}
    (path : ReflTransGen (Host.Move station.config.interval) station.host host) :
    ReflTransGen Move station { station with host } :=
  path.lift (fun host ↦ { station with host }) fun before _ move ↦
    @Move.host σ _ { station with host := before } _ move

theorem walks_onHost {work : HostM σ α} (walks : ∀ interval, Host.Walks interval work) :
    Walks (onHost work) := fun station ↦ path_onHost (walks station.config.interval station.host)

theorem walks_ask (request : Command) : Walks (ask (σ := σ) request) :=
  walks_onHost fun _ ↦ Host.walks_command request

instance : Spans (ReflTransGen (Move (σ := σ))) where
  refl _ := .refl
  trans := .trans
  poll := walks_onHost fun _ ↦ Host.walks_poll
  ask request _ := walks_ask request
  waitUntil timeout done station :=
    path_onHost (Host.walks_waitLoop done station.config.pollInterval timeout 0 station.host)
  -- The pause is allowed since a poll went before it.
  pause request station :=
    .single (.host (.pause (Nat.le_max_left _ 1) ((Host.served_poll station.host).command request)))
  enter _ running station := .single (.enter station running)
  clearFlags := walks_onHost fun _ host ↦ .single (.clearFlags host)
  resetPing := walks_onHost fun _ host ↦ .single (.resetPing host)
  connect kind ip port := walks_onHost fun _ ↦ Host.walks_connect kind ip port

theorem walks_fetchRecord : Walks (fetchRecord (σ := σ)) := by
  intro station
  have asked := walks_ask .scanResult station
  rw [fetchRecord_apply]
  rcases found : ask .scanResult station with ⟨status | scanRecord, after⟩ <;> rw [found] at asked
  · exact asked
  · exact asked.tail (.fetched after scanRecord)

theorem walks_bringUp (patch : UInt8) (useProfiles : Bool) (name : String) :
    Walks (bringUp (σ := σ) patch useProfiles name) := within_bringUp patch useProfiles name

theorem walks_join (patience : Nat) (name key : String) (security : Security) (attempts : UInt8) :
    Walks (join (σ := σ) patience name key security attempts) :=
  within_join patience name key security attempts

/-! ### What any run keeps -/

theorem run_walks (station : Station σ) (ops : List Operation) :
    ReflTransGen Move station (station.run ops) :=
  run_within ops (fun _ _ _ ↦ walks_fetchRecord) station

theorem Move.isInitialized {before after : Station σ} (move : Move before after)
    (started : before.isInitialized = true) : after.isInitialized = true := by
  cases move with
  | host => exact started
  | enter _ running => exact decide_eq_true running
  | fetched => exact started

/-- A station that has been brought up stays so. -/
theorem isInitialized_of_path {before after : Station σ} (path : ReflTransGen Move before after)
    (started : before.isInitialized = true) : after.isInitialized = true := by
  induction path with
  | refl => exact started
  | tail _ move ih => exact move.isInitialized ih

theorem Move.linkTold {before after : Station σ} (move : Move before after)
    (told : before.host.LinkTold) : after.host.LinkTold := by
  cases move with
  | host move => exact told.move move
  | enter => exact told
  | fetched => exact told

theorem linkTold_of_path {before after : Station σ} (path : ReflTransGen Move before after)
    (told : before.host.LinkTold) : after.host.LinkTold := by
  induction path with
  | refl => exact told
  | tail _ move ih => exact move.linkTold ih

theorem run_linkTold (layer : σ) (config : Config) (ops : List Operation) :
    ((fresh layer config).run ops).host.LinkTold :=
  linkTold_of_path (run_walks _ ops) nofun

end SpiWifi.Wlan.Station
