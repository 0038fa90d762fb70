import Mathlib.Algebra.Order.Group.Multiset
import Mathlib.Data.List.ReduceOption
import SpiWifi.Net.Client
import SpiWifi.Proofs.Chip.Trace

/-!
Where sockets come from and where they go. The chip hands a socket out when one is opened or when
a connection is accepted, and gets it back when it is closed. A slot for a client can be given a
socket while it has none, can turn one away, and can let go of the one that it has; so the sockets
that were accepted are those that were closed and those that sit in the slots.
-/

set_option autoImplicit false
set_option relaxedAutoImplicit false

namespace SpiWifi

open Chip

namespace Chip

inductive Dealing where
  | opened (socket : SocketId)
  | accepted (socket : SocketId)
  | closed (socket : SocketId)
  deriving DecidableEq

/-- What an exchange does with a socket as a whole. One that is asked to be closed counts as
closed whatever the chip answers. -/
def Exchange.dealing? : Exchange → Option Dealing
  | ⟨.command (.openSocket _), outcome⟩ => outcome.answer.toOption.map .opened
  | ⟨.command (.accept _), outcome⟩ => outcome.answer.toOption.join.map .accepted
  | ⟨.command (.closeSocket socket), _⟩ => some (.closed socket)
  | _ => none

def dealings (trace : List Exchange) : List Dealing := trace.filterMap Exchange.dealing?

@[simp] theorem dealings_append (first second : List Exchange) :
    dealings (first ++ second) = dealings first ++ dealings second := List.filterMap_append

@[simp] theorem dealings_poll (outcome : Outcome .poll) (rest : List Exchange) :
    dealings (⟨_, outcome⟩ :: rest) = dealings rest := rfl

section Opening

variable {kind : SocketKind} {opening : Outcome (.command (.openSocket kind))}

theorem dealings_opened {socket : SocketId} (answer : opening.answer = .ok socket)
    (rest : List Exchange) :
    dealings (⟨_, opening⟩ :: rest) = .opened socket :: dealings rest := by
  rw [dealings, List.filterMap_cons, Exchange.dealing?, answer]
  rfl

theorem dealings_unopened {status : Status} (answer : opening.answer = .error status)
    (rest : List Exchange) : dealings (⟨_, opening⟩ :: rest) = dealings rest := by
  rw [dealings, List.filterMap_cons, Exchange.dealing?, answer]
  rfl

end Opening

namespace Dealing

def opened? : Dealing → Option SocketId
  | opened socket => some socket
  | _ => none

def accepted? : Dealing → Option SocketId
  | accepted socket => some socket
  | _ => none

def closed? : Dealing → Option SocketId
  | closed socket => some socket
  | _ => none

end Dealing

/-- The sockets that were handed out because they were asked for. -/
def opened (dealings : List Dealing) : Multiset SocketId := dealings.filterMap Dealing.opened?

/-- The sockets of the connections that were accepted. -/
def accepted (dealings : List Dealing) : Multiset SocketId := dealings.filterMap Dealing.accepted?

def closed (dealings : List Dealing) : Multiset SocketId := dealings.filterMap Dealing.closed?

section Append

variable (first second : List Dealing)

@[simp] theorem opened_append : opened (first ++ second) = opened first + opened second := by
  simp only [opened, List.filterMap_append, Multiset.coe_add]

@[simp] theorem accepted_append :
    accepted (first ++ second) = accepted first + accepted second := by
  simp only [accepted, List.filterMap_append, Multiset.coe_add]

@[simp] theorem closed_append : closed (first ++ second) = closed first + closed second := by
  simp only [closed, List.filterMap_append, Multiset.coe_add]

end Append

section Perm

variable {first second : List Dealing} (perm : first.Perm second)

include perm

theorem opened_perm : opened first = opened second :=
  Multiset.coe_eq_coe.mpr (perm.filterMap _)

theorem accepted_perm : accepted first = accepted second :=
  Multiset.coe_eq_coe.mpr (perm.filterMap _)

theorem closed_perm : closed first = closed second :=
  Multiset.coe_eq_coe.mpr (perm.filterMap _)

end Perm

/-- No connection is accepted on a socket that is still open: on one of those that were open
before, or that have been accepted since, and have not been closed. -/
def Fresh (unclosed : Multiset SocketId) : List Dealing → Prop
  | [] => True
  | .opened _ :: rest => Fresh unclosed rest
  | .accepted socket :: rest => socket ∉ unclosed ∧ Fresh (socket ::ₘ unclosed) rest
  | .closed socket :: rest => Fresh (unclosed.erase socket) rest

instance decidableFresh : (unclosed : Multiset SocketId) → (dealings : List Dealing) →
    Decidable (Fresh unclosed dealings)
  | _, [] => inferInstanceAs (Decidable True)
  | unclosed, .opened _ :: rest => decidableFresh unclosed rest
  | unclosed, .accepted socket :: rest =>
    have := decidableFresh (socket ::ₘ unclosed) rest
    inferInstanceAs (Decidable (_ ∧ _))
  | unclosed, .closed socket :: rest => decidableFresh (unclosed.erase socket) rest

end Chip

namespace Net

/-- A place for a client, with the socket of the client that sits there. -/
abbrev Slot : Type := Option SocketId

/-- The sockets in some slots. -/
def held (slots : List Slot) : Multiset SocketId := slots.reduceOption

@[simp] theorem held_free (left right : List Slot) :
    held (left ++ none :: right) = held (left ++ right) := by
  simp only [held, List.reduceOption_append, List.reduceOption_cons_of_none]

@[simp] theorem held_taken (left right : List Slot) (socket : SocketId) :
    held (left ++ some socket :: right) = socket ::ₘ held (left ++ right) := by
  simp only [held, List.reduceOption_append, List.reduceOption_cons_of_some, Multiset.cons_coe]
  exact Multiset.coe_eq_coe.mpr List.perm_middle

/-- One slot is given a socket, turns one away, or lets go of its own. -/
inductive Turn : List Slot → List Dealing → List Slot → Prop where
  | seated {socket : SocketId} (left right : List Slot)
      (tracked : socket.toNat < Events.socketCount) :
      Turn (left ++ none :: right) [.accepted socket] (left ++ some socket :: right)
  | rejected {socket : SocketId} (left right : List Slot)
      (untracked : Events.socketCount ≤ socket.toNat) :
      Turn (left ++ none :: right) [.accepted socket, .closed socket] (left ++ none :: right)
  | released {socket : SocketId} (left right : List Slot) :
      Turn (left ++ some socket :: right) [.closed socket] (left ++ none :: right)

/-- Any number of turns, one after the other. -/
inductive Turns : List Slot → List Dealing → List Slot → Prop where
  | refl (slots : List Slot) : Turns slots [] slots
  | head {before middle after : List Slot} {dealings later : List Dealing}
      (turn : Turn before dealings middle) (rest : Turns middle later after) :
      Turns before (dealings ++ later) after

variable {before middle after : List Slot} {dealings later : List Dealing}

namespace Turn

theorem turns (turn : Turn before dealings after) : Turns before dealings after := by
  have one := Turns.head turn (.refl after)
  rwa [List.append_nil] at one

/-- Slots beside those that take part are left alone. -/
theorem frame (turn : Turn before dealings after) (left right : List Slot) :
    Turn (left ++ before ++ right) dealings (left ++ after ++ right) := by
  cases turn with
  | seated near far tracked =>
    simpa only [List.append_assoc, List.cons_append] using
      Turn.seated (left ++ near) (far ++ right) tracked
  | rejected near far untracked =>
    simpa only [List.append_assoc, List.cons_append] using
      Turn.rejected (left ++ near) (far ++ right) untracked
  | released near far =>
    simpa only [List.append_assoc, List.cons_append] using
      Turn.released (left ++ near) (far ++ right)

theorem length_eq (turn : Turn before dealings after) : after.length = before.length := by
  cases turn <;> simp only [List.length_append, List.length_cons]

theorem opened_eq (turn : Turn before dealings after) : opened dealings = 0 := by
  cases turn <;> rfl

theorem balance (turn : Turn before dealings after) :
    accepted dealings + held before = closed dealings + held after := by
  cases turn with
  | seated left right _ =>
    rw [held_free, held_taken]
    exact (Multiset.singleton_add _ _).trans (Multiset.zero_add _).symm
  | rejected left right _ => rfl
  | released left right =>
    rw [held_free, held_taken]
    exact (Multiset.zero_add _).trans (Multiset.singleton_add _ _).symm

theorem tracked (turn : Turn before dealings after)
    (all : ∀ socket ∈ held before, socket.toNat < Events.socketCount) :
    ∀ socket ∈ held after, socket.toNat < Events.socketCount := by
  cases turn with
  | seated left right tracked =>
    rw [held_free] at all
    rw [held_taken]
    exact Multiset.forall_mem_cons.mpr ⟨tracked, all⟩
  | rejected left right _ => exact all
  | released left right =>
    rw [held_taken] at all
    rw [held_free]
    exact (Multiset.forall_mem_cons.mp all).2

theorem distinct (turn : Turn before dealings after)
    (fresh : Fresh (held before) (dealings ++ later)) (nodup : (held before).Nodup) :
    Fresh (held after) later ∧ (held after).Nodup := by
  cases turn with
  | seated left right _ =>
    obtain ⟨new, fresh⟩ := fresh
    rw [held_free] at new fresh nodup
    rw [held_taken]
    exact ⟨fresh, Multiset.nodup_cons.mpr ⟨new, nodup⟩⟩
  | @rejected socket left right _ =>
    -- The socket that is turned away is closed at once, so what was open before is still all.
    obtain ⟨-, fresh⟩ := fresh
    change Fresh ((socket ::ₘ _).erase socket) later at fresh
    rw [Multiset.erase_cons_head] at fresh
    exact ⟨fresh, nodup⟩
  | @released socket left right =>
    change Fresh (Multiset.erase _ socket) later at fresh
    rw [held_taken] at fresh nodup
    rw [Multiset.erase_cons_head] at fresh
    rw [held_free]
    exact ⟨fresh, (Multiset.nodup_cons.mp nodup).2⟩

end Turn

namespace Turns

theorem trans (h : Turns before dealings middle) (k : Turns middle later after) :
    Turns before (dealings ++ later) after := by
  induction h with
  | refl _ => exact k
  | head turn _ ih =>
    rw [List.append_assoc]
    exact .head turn (ih k)

theorem frame (turns : Turns before dealings after) (left right : List Slot) :
    Turns (left ++ before ++ right) dealings (left ++ after ++ right) := by
  induction turns with
  | refl _ => exact .refl _
  | head turn _ ih => exact .head (turn.frame left right) ih

theorem length_eq (turns : Turns before dealings after) : after.length = before.length := by
  induction turns with
  | refl _ => rfl
  | head turn _ ih => exact ih.trans turn.length_eq

/-- Nobody gets a slot who was not accepted. -/
theorem opened_eq (turns : Turns before dealings after) : opened dealings = 0 := by
  induction turns with
  | refl _ => rfl
  | head turn _ ih => rw [opened_append, turn.opened_eq, ih, Multiset.add_zero]

/-- What was accepted and what was there is what was closed and what is there. -/
theorem balance (turns : Turns before dealings after) :
    accepted dealings + held before = closed dealings + held after := by
  induction turns with
  | refl _ => rfl
  | @head before middle after dealings later turn _ ih =>
    calc accepted (dealings ++ later) + held before
        = accepted later + (accepted dealings + held before) := by
          rw [accepted_append]
          ac_rfl
      _ = closed dealings + (accepted later + held middle) := by
          rw [turn.balance]
          ac_rfl
      _ = closed (dealings ++ later) + held after := by
          rw [ih, closed_append, Multiset.add_assoc]

theorem tracked (turns : Turns before dealings after)
    (all : ∀ socket ∈ held before, socket.toNat < Events.socketCount) :
    ∀ socket ∈ held after, socket.toNat < Events.socketCount := by
  induction turns with
  | refl _ => exact all
  | head turn _ ih => exact ih (turn.tracked all)

/-- While no socket is handed out that is still open, no two slots hold the same. -/
theorem nodup (turns : Turns before dealings after) (fresh : Fresh (held before) dealings)
    (nodup : (held before).Nodup) : (held after).Nodup := by
  induction turns with
  | refl _ => exact nodup
  | head turn _ ih =>
    obtain ⟨fresh, nodup⟩ := turn.distinct fresh nodup
    exact ih fresh nodup

end Turns

end Net

end SpiWifi
