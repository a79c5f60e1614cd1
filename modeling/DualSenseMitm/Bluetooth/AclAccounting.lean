import Mathlib.Algebra.BigOperators.Group.Finset.Piecewise
import Mathlib.Algebra.Order.BigOperators.Group.Finset
import Mathlib.Data.FinEnum
import DualSenseMitm.Bluetooth.AclFlowControl
import DualSenseMitm.Lib.Machine

/-!
# The accounting against a real controller

`AclFlowControl` only ever sees its own side: packets it was told were sent, and completions it was
told of.  Here it is coupled to a controller that really holds `held h` packets for each handle,
and the two are compared over every run.

* `AclEvent.Plausible` is all that is asked of the controller: an event never gives back more than
  is held, handle by handle, repeats included.
* `AccountingInv` is the invariant.  The relay may believe too little is out — after a write-off,
  or before a late completion arrives — but never too much, and the difference over all links is at
  most what was written off (`AccountingInv.step`).
* `held_controller_bounded` puts together what follows for a whole run.
-/

set_option autoImplicit false

namespace DualSenseMitm

open Bytes Machine AclFlowControl

/-- The relay's accounting, the controller's real buffers, and the credits given up so far. -/
structure AclCoupled where
  /-- What the relay keeps. -/
  acl : AclFlowControl
  /-- What the controller holds. -/
  held : UInt16 → ℕ
  /-- Credits written off since the start. -/
  writtenOff : Int

/-- What can happen between the relay and its controller. -/
inductive AclEvent
  /-- A packet is written without asking for room, as signalling is. -/
  | sent (handle : UInt16)
  /-- A packet is written if `hasRoom` admits it. -/
  | metered (handle : UInt16) (now later : Time)
  /-- A Number of Completed Packets event for these handles and counts. -/
  | completed (pairs : List (UInt16 × UInt16)) (clock : ℕ → Time)
  /-- A Disconnection Complete. -/
  | disconnected (handle : UInt16)
  /-- `hasRoom` is asked and nothing is sent. -/
  | askRoom (now later : Time)
  /-- The controller reports its pool. -/
  | poolSize (n : UInt16)
  /-- The depth is set. -/
  | depth (d : Int)
  /-- The write-off threshold is set. -/
  | threshold (d : Time)

/-- The handle and count pairs of an event, as they stand in it. -/
def encodePairs (pairs : List (UInt16 × UInt16)) : List UInt8 :=
  pairs.flatMap fun p ↦ put16 p.1 ++ put16 p.2

/-- The event behind its header. -/
def numCompletedBody (pairs : List (UInt16 × UInt16)) : List UInt8 :=
  UInt8.ofNat pairs.length :: encodePairs pairs

/-- What the controller still holds once it has given these back. -/
def giveBack (held : UInt16 → ℕ) : List (UInt16 × UInt16) → UInt16 → ℕ
  | [] => held
  | (h, n) :: ps => giveBack (Function.update held h (held h - n.toNat)) ps

/-- The controller holds what it gives back, pair after pair. -/
def Returnable (held : UInt16 → ℕ) : List (UInt16 × UInt16) → Prop
  | [] => True
  | (h, n) :: ps => n.toNat ≤ held h ∧ Returnable (Function.update held h (held h - n.toNat)) ps

namespace AclCoupled

/-- A packet reaches the controller. -/
def send (handle : UInt16) (s : AclCoupled) : AclCoupled :=
  { s with
    acl := s.acl.onSent handle
    held := Function.update s.held handle (s.held handle + 1) }

/-- `hasRoom` is asked; whatever it takes off the total is written off. -/
def ask (now later : Time) (s : AclCoupled) : AclCoupled :=
  { s with
    acl := (s.acl.hasRoom now later).2
    writtenOff := s.writtenOff + (s.acl.total - (s.acl.hasRoom now later).2.total) }

/-- One event, on both sides. -/
def step (s : AclCoupled) : AclEvent → AclCoupled
  | .sent h => s.send h
  | .metered h now later =>
    if (s.acl.hasRoom now later).1 then (s.ask now later).send h else s.ask now later
  | .completed pairs clock =>
    { s with
      acl := s.acl.onNumCompleted clock (numCompletedBody pairs)
      held := giveBack s.held pairs }
  | .disconnected h =>
    { s with acl := s.acl.onDisconnect h, held := Function.update s.held h 0 }
  | .askRoom now later => s.ask now later
  | .poolSize n => { s with acl := s.acl.setMaxPackets n }
  | .depth d => { s with acl := s.acl.setDepth d }
  | .threshold d => { s with acl := s.acl.setWriteOffAfter d }

/-- A fresh accounting, constructed at `t`, and a controller that holds nothing. -/
def start (t : Time) : AclCoupled := ⟨{ lastCompletion := t }, fun _ ↦ 0, 0⟩

end AclCoupled

/-- What a real controller may report: an event fits its length byte, and gives back no more than
is held. -/
def AclEvent.Plausible (s : AclCoupled) : AclEvent → Prop
  | .completed pairs _ => pairs.length ≤ 63 ∧ Returnable s.held pairs
  | _ => True

/-! ## The event loop visits every pair once -/

/-- The completions of an event, one after the other. -/
def completeAll (clock : ℕ → Time) : List (UInt16 × UInt16) → ℕ → AclFlowControl → AclFlowControl
  | [], _, a => a
  | p :: ps, i, a => completeAll clock ps (i + 1) (a.onCompleted p.1 p.2.toNat (clock i))

theorem length_encodePairs (pairs : List (UInt16 × UInt16)) :
    (encodePairs pairs).length = 4 * pairs.length := by
  induction pairs with
  | nil => rfl
  | cons p ps ih =>
    rw [encodePairs, List.flatMap_cons, List.length_append, ← encodePairs, ih]
    simp only [List.length_append, length_put16, List.length_cons]
    omega

theorem numCompletedLoop_encode (clock : ℕ → Time) (c : UInt8) (done ps : List (UInt16 × UInt16))
    (a : AclFlowControl) :
    numCompletedLoop clock (c :: (encodePairs done ++ encodePairs ps)) ps.length done.length a
      = completeAll clock ps done.length a := by
  induction ps generalizing done a with
  | nil => rfl
  | cons p ps ih =>
    have hlen := length_encodePairs done
    -- the pair the loop stands at, with what was visited to its left
    have hbody : c :: (encodePairs done ++ encodePairs (p :: ps))
        = (c :: encodePairs done) ++ (put16 p.1 ++ (put16 p.2 ++ encodePairs ps)) := by
      simp [encodePairs, List.append_assoc]
    have hoff : 1 + done.length * 4 = (c :: encodePairs done).length + 0 := by
      simp [hlen]; omega
    have hnext : c :: (encodePairs done ++ encodePairs (p :: ps))
        = c :: (encodePairs (done ++ [p]) ++ encodePairs ps) := by
      simp [encodePairs, List.append_assoc]
    rw [List.length_cons, numCompletedLoop, if_neg, hbody, hoff, le16_append_right,
      le16_put16_append, Nat.add_assoc, le16_append_right, Nat.zero_add,
      show (2 : ℕ) = (put16 p.1).length + 0 from rfl, le16_append_right, le16_put16_append,
      ← hbody, hnext]
    · simpa [completeAll] using ih (done ++ [p]) _
    · simp [length_encodePairs]; omega

/-- **The handler visits every pair of a well-formed event exactly once, in order.** -/
theorem onNumCompleted_body (clock : ℕ → Time) (pairs : List (UInt16 × UInt16))
    (a : AclFlowControl) (hlen : pairs.length ≤ 63) :
    a.onNumCompleted clock (numCompletedBody pairs) = completeAll clock pairs 0 a := by
  have hcount : (byteAt (numCompletedBody pairs) 0).toNat = pairs.length := by
    rw [numCompletedBody, byteAt_cons_zero, UInt8.toNat_ofNat', Nat.mod_eq_of_lt]
    omega
  rw [onNumCompleted, hcount]
  simpa [numCompletedBody, encodePairs] using
    numCompletedLoop_encode clock (UInt8.ofNat pairs.length) [] pairs a

/-! ## The invariant -/

/-- The relay never believes more to be out than is, and believes too little by at most what it
has written off. -/
structure AccountingInv (s : AclCoupled) : Prop where
  /-- No entry is negative. -/
  nonneg : ∀ h, 0 ≤ s.acl.inFlightOf h
  /-- No entry exceeds what the controller holds. -/
  le_held : ∀ h, s.acl.inFlightOf h ≤ s.held h
  /-- The running total is the sum it stands for. -/
  total : s.acl.total = ∑ h, s.acl.inFlightOf h
  /-- What the relay does not know about was written off. -/
  debt : ∑ h, ((s.held h : Int) - s.acl.inFlightOf h) ≤ s.writtenOff

namespace AccountingInv

variable {s : AclCoupled}

theorem start (t : Time) : AccountingInv (AclCoupled.start t) := by
  have hz : ∀ h, (AclCoupled.start t).acl.inFlightOf h = 0 := fun _ ↦ rfl
  constructor
  · intro h
    rw [hz]
  · intro h
    simp [hz]
  · simp only [hz, Finset.sum_const_zero]
    rfl
  · have hterm : ∀ h, ((AclCoupled.start t).held h : Int) - (AclCoupled.start t).acl.inFlightOf h
        = 0 := fun _ ↦ rfl
    simp only [hterm, Finset.sum_const_zero]
    exact le_rfl

/-- Adding `d` to the entry of one handle adds `d` to the sum. -/
theorem sum_shift (f : UInt16 → Int) (handle : UInt16) (d : Int) :
    ∑ h, (f h + if h = handle then d else 0) = (∑ h, f h) + d := by
  rw [Finset.sum_add_distrib, Finset.sum_ite_eq', if_pos (Finset.mem_univ handle)]

/-- **What keeps the invariant.**  An event that changes the entry of one handle by `e` and what is
held there by `d` keeps it, as long as the entry stays between zero and what is held, and the
difference does not grow. -/
theorem shift (hs : AccountingInv s) {t : AclCoupled} (handle : UInt16) (d e : Int)
    (hheld : ∀ h, (t.held h : Int) = s.held h + if h = handle then d else 0)
    (hfl : ∀ h, t.acl.inFlightOf h = s.acl.inFlightOf h + if h = handle then e else 0)
    (htotal : t.acl.total = s.acl.total + e) (hoff : t.writtenOff = s.writtenOff)
    (hnn : 0 ≤ s.acl.inFlightOf handle + e)
    (hle : s.acl.inFlightOf handle + e ≤ s.held handle + d) (hde : d ≤ e) :
    AccountingInv t := by
  constructor
  · intro h
    by_cases hh : h = handle
    · subst hh
      simpa [hfl] using hnn
    · simpa [hfl, hh] using hs.nonneg h
  · intro h
    by_cases hh : h = handle
    · subst hh
      simpa [hfl, hheld] using hle
    · simpa [hfl, hheld, hh] using hs.le_held h
  · rw [htotal, hs.total, Finset.sum_congr rfl fun h _ ↦ hfl h, sum_shift]
  · have hdiff : ∀ h, (t.held h : Int) - t.acl.inFlightOf h
        = ((s.held h : Int) - s.acl.inFlightOf h) + if h = handle then d - e else 0 := by
      intro h
      rw [hheld, hfl]
      split <;> omega
    rw [hoff, Finset.sum_congr rfl fun h _ ↦ hdiff h, sum_shift]
    have := hs.debt
    omega

theorem send (hs : AccountingInv s) (handle : UInt16) : AccountingInv (s.send handle) := by
  have h0 := hs.nonneg handle
  have h1 := hs.le_held handle
  refine hs.shift handle 1 1 (fun h ↦ ?_) (fun h ↦ inFlightOf_onSent _ _ _) rfl rfl
    (by omega) (by omega) le_rfl
  by_cases hh : h = handle
  · subst hh
    simp [AclCoupled.send]
  · simp [AclCoupled.send, hh]

theorem disconnected (hs : AccountingInv s) (handle : UInt16) :
    AccountingInv (s.step (.disconnected handle)) := by
  have h0 := hs.nonneg handle
  have h1 := hs.le_held handle
  refine hs.shift handle (-s.held handle) (-s.acl.inFlightOf handle) (fun h ↦ ?_)
    (fun h ↦ ?_) ?_ rfl (by omega) (by omega) (by omega)
  · by_cases hh : h = handle
    · subst hh
      simp [AclCoupled.step]
    · simp [AclCoupled.step, hh]
  · by_cases hh : h = handle
    · subst hh
      simp [AclCoupled.step]
    · simp [AclCoupled.step, hh]
  · rw [AclCoupled.step, onDisconnect, inFlightOf]
    cases s.acl.inFlight.lookup handle with
    | none => simp
    | some was => simp [Int.sub_eq_add_neg]

/-- One completion of an event, with `n` packets the controller really held. -/
theorem onCompleted (hs : AccountingInv s) (handle : UInt16) (n : ℕ) (now : Time)
    (hn : n ≤ s.held handle) :
    AccountingInv { s with
      acl := s.acl.onCompleted handle n now
      held := Function.update s.held handle (s.held handle - n) } := by
  have h0 := hs.nonneg handle
  have h1 := hs.le_held handle
  refine hs.shift handle (-(n : Int))
    (max 0 (s.acl.inFlightOf handle - n) - s.acl.inFlightOf handle) (fun h ↦ ?_) (fun h ↦ ?_) ?_ rfl
    (by omega) (by omega) (by omega)
  · by_cases hh : h = handle
    · subst hh
      simp only [Function.update_self, if_pos]
      omega
    · simp [hh]
  · rw [inFlightOf_onCompleted _ _ _ _ _ (by omega) h0]
    by_cases hh : h = handle
    · subst hh
      simp
    · simp [hh]
  · rw [AclFlowControl.onCompleted, inFlightOf]
    cases s.acl.inFlight.lookup handle with
    | none => simp
    | some was =>
      simp only [Option.getD_some]
      omega

theorem completeAll (hs : AccountingInv s) (clock : ℕ → Time) (pairs : List (UInt16 × UInt16))
    (i : ℕ) (hret : Returnable s.held pairs) :
    AccountingInv { s with
      acl := DualSenseMitm.completeAll clock pairs i s.acl
      held := giveBack s.held pairs } := by
  induction pairs generalizing s i with
  | nil => exact hs
  | cons p ps ih => exact ih (hs.onCompleted p.1 p.2.toNat (clock i) hret.1) (i + 1) hret.2

/-- A write-off forgets everything at once: the difference grows by exactly the credits it gives
up. -/
theorem ask (hs : AccountingInv s) (now later : Time) : AccountingInv (s.ask now later) := by
  have hsame : AccountingInv { s with acl := s.acl, writtenOff := s.writtenOff + 0 } := by
    simpa using hs
  rw [AclCoupled.ask, hasRoom]
  split
  · simpa using hsame
  split
  · have hdebt := hs.debt
    rw [Finset.sum_sub_distrib, ← hs.total] at hdebt
    constructor
    · simp
    · simp
    · simp only [inFlightOf_writeOff, Finset.sum_const_zero]
      rfl
    · show ∑ h, ((s.held h : Int) - (s.acl.writeOff later).inFlightOf h)
        ≤ s.writtenOff + (s.acl.total - 0)
      simp only [inFlightOf_writeOff, sub_zero]
      omega
  · simpa using hsame

/-- **Every event keeps the invariant.** -/
theorem step (hs : AccountingInv s) {e : AclEvent} (he : e.Plausible s) :
    AccountingInv (s.step e) := by
  cases e with
  | sent h => exact hs.send h
  | metered h now later =>
    rw [AclCoupled.step]
    split
    · exact (hs.ask now later).send h
    · exact hs.ask now later
  | completed pairs clock =>
    rw [AclCoupled.step, onNumCompleted_body clock pairs s.acl he.1]
    exact hs.completeAll clock pairs 0 he.2
  | disconnected h => exact hs.disconnected h
  | askRoom now later => exact hs.ask now later
  | poolSize n => exact ⟨hs.nonneg, hs.le_held, hs.total, hs.debt⟩
  | depth d => exact ⟨hs.nonneg, hs.le_held, hs.total, hs.debt⟩
  | threshold d => exact ⟨hs.nonneg, hs.le_held, hs.total, hs.debt⟩

/-- With nothing written off the accounting is exact. -/
theorem exact_of_writtenOff_eq_zero (hs : AccountingInv s) (hoff : s.writtenOff = 0)
    (h : UInt16) : s.acl.inFlightOf h = s.held h := by
  have hterm : ∀ h ∈ Finset.univ, 0 ≤ (s.held h : Int) - s.acl.inFlightOf h := fun h _ ↦ by
    have := hs.le_held h
    omega
  have hzero : ∑ h, ((s.held h : Int) - s.acl.inFlightOf h) = 0 :=
    le_antisymm (hoff ▸ hs.debt) (Finset.sum_nonneg hterm)
  have := (Finset.sum_eq_zero_iff_of_nonneg hterm).mp hzero h (Finset.mem_univ h)
  omega

end AccountingInv

/-- Right after a send that `hasRoom` admitted, the entries add up to no more than the budget. -/
theorem AclCoupled.total_le_budget {s : AclCoupled} {handle : UInt16} {now later : Time}
    (hpool : s.acl.maxPackets ≠ 0) (hroom : (s.acl.hasRoom now later).1 = true)
    (hoff : (s.ask now later).writtenOff = s.writtenOff) :
    (s.step (.metered handle now later)).acl.total ≤ s.acl.budget := by
  rw [AclCoupled.step, if_pos hroom]
  rw [hasRoom, if_neg hpool] at hroom
  rw [AclCoupled.ask, hasRoom, if_neg hpool] at hoff ⊢
  by_cases hdue : s.acl.overdue now = true
  · -- a write-off would have moved the count of credits given up
    have hpos : 0 < s.acl.total := by
      simp only [overdue, Bool.and_eq_true, decide_eq_true_eq] at hdue
      exact hdue.1
    simp only [hdue, if_true, writeOff] at hoff
    omega
  · rw [if_neg hdue] at hroom ⊢
    have : s.acl.total < s.acl.budget := by simpa using hroom
    simp only [AclCoupled.send, onSent]
    omega

/-- **The relay's count against what the controller really holds, over every run.**  No link is
counted as holding more than it does, and what is missing from the count over all links was written
off.  In a run without a write-off the count is exact, and a send that `hasRoom` admitted leaves the
controller with at most `min depth (maxPackets - 1)` packets, whatever was sent without asking. -/
theorem held_controller_bounded (t : Time) (events : List AclEvent)
    (hok : Along AclCoupled.step (fun s e ↦ e.Plausible s) (AclCoupled.start t) events) :
    let s := run AclCoupled.step (AclCoupled.start t) events
    (∀ h, s.acl.inFlightOf h ≤ s.held h) ∧
      ∑ h, ((s.held h : Int) - s.acl.inFlightOf h) ≤ s.writtenOff ∧
      (s.writtenOff = 0 →
        (∀ h, s.acl.inFlightOf h = s.held h) ∧
          ∀ handle now later, (s.acl.hasRoom now later).1 = true → s.acl.maxPackets ≠ 0 →
            (s.step (.metered handle now later)).writtenOff = 0 →
            ∑ h, ((s.step (.metered handle now later)).held h : Int)
              ≤ min s.acl.depth (s.acl.maxPackets.toNat - 1)) := by
  intro s
  have hs : AccountingInv s :=
    run_invariant_of_along (AccountingInv.start t) (fun _ _ hs he ↦ hs.step he) hok
  refine ⟨hs.le_held, hs.debt, fun hoff ↦ ⟨hs.exact_of_writtenOff_eq_zero hoff, ?_⟩⟩
  intro handle now later hroom hpool hoff'
  have hstep : AccountingInv (s.step (.metered handle now later)) := hs.step trivial
  have hask : (s.ask now later).writtenOff = s.writtenOff := by
    rw [AclCoupled.step, if_pos hroom] at hoff'
    exact hoff'.trans hoff.symm
  calc ∑ h, ((s.step (.metered handle now later)).held h : Int)
      = ∑ h, (s.step (.metered handle now later)).acl.inFlightOf h :=
        Finset.sum_congr rfl fun h _ ↦ (hstep.exact_of_writtenOff_eq_zero hoff' h).symm
    _ = (s.step (.metered handle now later)).acl.total := hstep.total.symm
    _ ≤ s.acl.budget := AclCoupled.total_le_budget hpool hroom hask
    _ = min s.acl.depth (s.acl.maxPackets.toNat - 1) := if_neg hpool

/-- Two links sharing a pool of eight, and one event that names both and one of them twice. -/
theorem held_controller_bounded_two_links :
    let s := run AclCoupled.step (AclCoupled.start 0)
      [.poolSize 8, .sent 11, .metered 12 0 0, .completed [(11, 1), (12, 1), (11, 0)] fun _ ↦ 1]
    ∀ h, s.acl.inFlightOf h ≤ s.held h :=
  (held_controller_bounded 0
    [.poolSize 8, .sent 11, .metered 12 0 0, .completed [(11, 1), (12, 1), (11, 0)] fun _ ↦ 1]
    ⟨trivial, trivial, trivial, ⟨by decide, by decide, by decide, by decide, trivial⟩, trivial⟩).1

end DualSenseMitm
