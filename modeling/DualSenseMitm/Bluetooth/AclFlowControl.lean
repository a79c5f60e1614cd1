import Mathlib.Data.Finmap
import DualSenseMitm.Common.Clock
import DualSenseMitm.Lib.Bytes

/-!
# ACL flow control

`AclFlowControl` is the relay's count of the ACL packets a controller still holds, link by link,
against the pool size that controller reported.  Nothing else bounds what is queued in the
controller: on an HCI user channel the kernel does no flow control.

* `onSent`, `onCompleted`, `onDisconnect` — the three events the count follows.
* `hasRoom` — whether another metered packet may go, and the one place where credits are written
  off: a blocked link on which nothing has completed for `writeOffAfter`.
* `numCompletedLoop` — the walk over the handle and count pairs of a Number of Completed Packets
  event, with the bounds checks of the event handler.

`inFlightOf` reads a missing entry as zero, which is what every operation treats it as.
-/

set_option autoImplicit false

namespace DualSenseMitm

open Bytes

/-- The accounting of one controller's ACL buffers. -/
structure AclFlowControl where
  /-- Pool size from Read Buffer Size; zero until the controller has answered. -/
  maxPackets : UInt16 := 0
  /-- How many packets may be in flight before `hasRoom` says no. -/
  depth : Int := 2
  /-- How long a blocked link may go without a completion. -/
  writeOffAfter : Time := seconds 3
  /-- Packets sent and not yet given back, by handle. -/
  inFlight : Finmap (fun _ : UInt16 ↦ Int) := ∅
  /-- The running total of `inFlight`. -/
  total : Int := 0
  /-- When a completion, or a write-off, was last recorded. -/
  lastCompletion : Time := noTime

namespace AclFlowControl

/-- The entry of one handle, zero when there is none. -/
def inFlightOf (a : AclFlowControl) (handle : UInt16) : Int := (a.inFlight.lookup handle).getD 0

/-- `set_max_packets`. -/
def setMaxPackets (n : UInt16) (a : AclFlowControl) : AclFlowControl := { a with maxPackets := n }

/-- `set_depth`. -/
def setDepth (d : Int) (a : AclFlowControl) : AclFlowControl := { a with depth := d }

/-- `set_write_off_after`. -/
def setWriteOffAfter (d : Time) (a : AclFlowControl) : AclFlowControl :=
  { a with writeOffAfter := d }

/-- A packet was written to `handle`. -/
def onSent (handle : UInt16) (a : AclFlowControl) : AclFlowControl :=
  { a with inFlight := a.inFlight.insert handle (a.inFlightOf handle + 1), total := a.total + 1 }

/-- The controller freed `done` buffers on `handle`. -/
def onCompleted (handle : UInt16) (done : Int) (now : Time) (a : AclFlowControl) :
    AclFlowControl :=
  match a.inFlight.lookup handle with
  | none => a
  | some was =>
    let left := max 0 (was - done)
    { a with
      inFlight := a.inFlight.insert handle left
      total := a.total - (was - left)
      lastCompletion := now }

/-- A link went away: whatever it still held is written off. -/
def onDisconnect (handle : UInt16) (a : AclFlowControl) : AclFlowControl :=
  match a.inFlight.lookup handle with
  | none => a
  | some was => { a with inFlight := a.inFlight.erase handle, total := a.total - was }

/-- What `hasRoom` meters against: one buffer of the pool is always kept free. -/
def budget (a : AclFlowControl) : Int :=
  if a.maxPackets = 0 then a.depth else min a.depth (a.maxPackets.toNat - 1)

/-- The stall that makes `hasRoom` write credits off. -/
def overdue (now : Time) (a : AclFlowControl) : Bool :=
  decide (0 < a.total) && decide (a.writeOffAfter < now - a.lastCompletion)

/-- Give up on every credit that is out, and measure the next stall from here. -/
def writeOff (now : Time) (a : AclFlowControl) : AclFlowControl :=
  { a with inFlight := ∅, total := 0, lastCompletion := now }

/-- Whether another packet may be sent.  The clock is read once for the stall and once more when
the credits are written off. -/
def hasRoom (now later : Time) (a : AclFlowControl) : Bool × AclFlowControl :=
  if a.maxPackets = 0 then (true, a)
  else if a.overdue now then (true, a.writeOff later)
  else (decide (a.total < a.budget), a)

/-- The loop of `handle_num_completed_packets` over `body`, the event behind its header, from the
`i`-th pair on: `n` is how many of the handles the event claims are still to come, `clock k` the
time at the `k`-th pair. -/
def numCompletedLoop (clock : ℕ → Time) (body : List UInt8) :
    (n i : ℕ) → AclFlowControl → AclFlowControl
  | 0, _, a => a
  | n + 1, i, a =>
    let off := 1 + i * 4
    if off + 4 > body.length then a
    else
      numCompletedLoop clock body n (i + 1)
        (a.onCompleted (le16 body off) (le16 body (off + 2)).toNat (clock i))

/-- What `handle_num_completed_packets` does to the accounting: `body` starts with the number of
handles. -/
def onNumCompleted (clock : ℕ → Time) (body : List UInt8) (a : AclFlowControl) : AclFlowControl :=
  numCompletedLoop clock body (byteAt body 0).toNat 0 a

/-! ## What each operation does to an entry -/

@[simp] theorem inFlightOf_setMaxPackets (a : AclFlowControl) (n : UInt16) (h : UInt16) :
    (a.setMaxPackets n).inFlightOf h = a.inFlightOf h := rfl

@[simp] theorem inFlightOf_setDepth (a : AclFlowControl) (d : Int) (h : UInt16) :
    (a.setDepth d).inFlightOf h = a.inFlightOf h := rfl

@[simp] theorem inFlightOf_setWriteOffAfter (a : AclFlowControl) (d : Time) (h : UInt16) :
    (a.setWriteOffAfter d).inFlightOf h = a.inFlightOf h := rfl

@[simp] theorem inFlightOf_writeOff (a : AclFlowControl) (now : Time) (h : UInt16) :
    (a.writeOff now).inFlightOf h = 0 := rfl

@[simp] theorem inFlightOf_onSent (a : AclFlowControl) (handle h : UInt16) :
    (a.onSent handle).inFlightOf h = a.inFlightOf h + if h = handle then 1 else 0 := by
  by_cases hh : h = handle
  · subst hh
    simp [onSent, inFlightOf, Finmap.lookup_insert]
  · simp [onSent, inFlightOf, Finmap.lookup_insert_of_ne _ hh, hh]

theorem inFlightOf_onCompleted (a : AclFlowControl) (handle h : UInt16) (done : Int) (now : Time)
    (hdone : 0 ≤ done) (hnn : 0 ≤ a.inFlightOf handle) :
    (a.onCompleted handle done now).inFlightOf h
      = if h = handle then max 0 (a.inFlightOf handle - done) else a.inFlightOf h := by
  rw [onCompleted]
  cases hl : a.inFlight.lookup handle with
  | none =>
    have h0 : a.inFlightOf handle = 0 := by simp [inFlightOf, hl]
    by_cases hh : h = handle
    · subst hh
      rw [if_pos rfl, h0]
      omega
    · rw [if_neg hh]
  | some was =>
    have hw : a.inFlightOf handle = was := by simp [inFlightOf, hl]
    by_cases hh : h = handle
    · subst hh
      simp [inFlightOf, Finmap.lookup_insert, hl]
    · simp [inFlightOf, Finmap.lookup_insert_of_ne _ hh, hh]

@[simp] theorem inFlightOf_onDisconnect (a : AclFlowControl) (handle h : UInt16) :
    (a.onDisconnect handle).inFlightOf h = if h = handle then 0 else a.inFlightOf h := by
  rw [onDisconnect]
  cases hl : a.inFlight.lookup handle with
  | none =>
    by_cases hh : h = handle
    · subst hh
      simp [inFlightOf, hl]
    · rw [if_neg hh]
  | some was =>
    by_cases hh : h = handle
    · subst hh
      simp [inFlightOf, Finmap.lookup_erase]
    · simp [inFlightOf, Finmap.lookup_erase_ne hh, hh]

/-! ## What opens no new account

All but `onSent` leave a handle without packets in flight as it is. -/

/-- The operation gives no handle its first packet. -/
def Shrinks (f : AclFlowControl → AclFlowControl) : Prop :=
  ∀ a h, (f a).inFlightOf h ≠ 0 → a.inFlightOf h ≠ 0

theorem shrinks_setMaxPackets (n : UInt16) : Shrinks (setMaxPackets n) := fun _ _ h ↦ h

theorem shrinks_onDisconnect (handle : UInt16) : Shrinks (onDisconnect handle) := by
  intro a h hne
  rw [inFlightOf_onDisconnect] at hne
  split at hne
  · exact absurd rfl hne
  · exact hne

theorem shrinks_onCompleted (handle : UInt16) (done : ℕ) (now : Time) :
    Shrinks (onCompleted handle done now) := by
  intro a h hne
  rw [onCompleted] at hne
  cases hl : a.inFlight.lookup handle with
  | none => simpa [hl] using hne
  | some was =>
    by_cases hh : h = handle
    · subst hh
      simp only [hl, inFlightOf, Finmap.lookup_insert, Option.getD_some] at hne ⊢
      omega
    · simpa [hl, inFlightOf, Finmap.lookup_insert_of_ne _ hh] using hne

theorem shrinks_hasRoom (now later : Time) : Shrinks fun a ↦ (a.hasRoom now later).2 := by
  intro a h hne
  simp only [hasRoom] at hne
  split at hne
  · exact hne
  · split at hne
    · exact absurd (inFlightOf_writeOff a later h) hne
    · exact hne

theorem shrinks_numCompletedLoop (clock : ℕ → Time) (body : List UInt8) (n i : ℕ) :
    Shrinks (numCompletedLoop clock body n i) := by
  induction n generalizing i with
  | zero => exact fun _ _ h ↦ h
  | succ n ih =>
    intro a h hne
    rw [numCompletedLoop] at hne
    split at hne
    · exact hne
    · exact shrinks_onCompleted _ _ _ a h (ih _ _ h hne)

theorem shrinks_onNumCompleted (clock : ℕ → Time) (body : List UInt8) :
    Shrinks (onNumCompleted clock body) := shrinks_numCompletedLoop clock body _ 0

end AclFlowControl

end DualSenseMitm
