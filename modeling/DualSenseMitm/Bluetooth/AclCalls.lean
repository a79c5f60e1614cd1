import DualSenseMitm.Bluetooth.AclAccounting

/-!
# The accounting over any sequence of calls

`AclFlowControl` alone, called in any order and with anything.  The counters are integers; they are the code's
`int` as long as fewer than 2³¹ packets have not been returned.

* `acl_total_is_sum` — the running total is the sum of the entries, so `hasRoom` answers as
  `hasRoomSumming`, which walks the map, would; and a call changes no entry but that of its handle,
  unless it writes off all of them.
* `write_offs_are_overdue` — when a write-off gives up only packets that are overdue.  The idle time is
  measured from the last completion, which a packet sent behind a quiet period does not restart.
-/

set_option autoImplicit false

namespace DualSenseMitm

open Machine AclFlowControl

/-- One call, at its time where that matters. -/
inductive AclCall
  | sent (handle : UInt16) (now : Time)
  | completed (handle : UInt16) (done : ℕ) (now : Time)
  | disconnected (handle : UInt16) (now : Time)
  /-- `hasRoom`, which reads the clock a second time when it writes off. -/
  | askRoom (now later : Time)
  | poolSize (n : UInt16)
  | depth (d : Int)

namespace AclCall

/-- The handle a call is about. -/
def handle? : AclCall → Option UInt16
  | .sent handle _ | .completed handle _ _ | .disconnected handle _ => some handle
  | _ => none

end AclCall

namespace AclFlowControl

/-- What a call does. -/
def serve (a : AclFlowControl) : AclCall → AclFlowControl
  | .sent handle _ => a.onSent handle
  | .completed handle done now => a.onCompleted handle done now
  | .disconnected handle _ => a.onDisconnect handle
  | .askRoom now later => (a.hasRoom now later).2
  | .poolSize n => a.setMaxPackets n
  | .depth d => a.setDepth d

/-- The sum of the entries of the map. -/
def inFlightSum (a : AclFlowControl) : Int := ∑ h ∈ a.inFlight.keys, a.inFlightOf h

/-- `hasRoom` as it would be without the running total. -/
def hasRoomSumming (now later : Time) (a : AclFlowControl) : Bool × AclFlowControl :=
  if a.maxPackets = 0 then (true, a)
  else if 0 < a.inFlightSum ∧ a.writeOffAfter < now - a.lastCompletion then (true, a.writeOff later)
  else (decide (a.inFlightSum < a.budget), a)

/-! ## The running total -/

/-- No entry is negative, and the total is their sum. -/
structure Summed (a : AclFlowControl) : Prop where
  nonneg : ∀ h, 0 ≤ a.inFlightOf h
  total : a.total = ∑ h, a.inFlightOf h

theorem inFlightSum_eq (a : AclFlowControl) : a.inFlightSum = ∑ h, a.inFlightOf h := by
  refine Finset.sum_subset (Finset.subset_univ _) fun h _ hnot ↦ ?_
  rw [Finmap.mem_keys, ← Finmap.lookup_eq_none] at hnot
  rw [inFlightOf, hnot, Option.getD_none]

namespace Summed

variable {a : AclFlowControl}

/-- What changes one entry and the total alike keeps the sum. -/
theorem shift (ha : a.Summed) {b : AclFlowControl} (handle : UInt16) (d : Int)
    (hfl : ∀ h, b.inFlightOf h = a.inFlightOf h + if h = handle then d else 0)
    (htotal : b.total = a.total + d) (hnn : 0 ≤ a.inFlightOf handle + d) : b.Summed := by
  constructor
  · intro h
    rw [hfl]
    by_cases hh : h = handle
    · rw [if_pos hh, hh]
      exact hnn
    · rw [if_neg hh, add_zero]
      exact ha.nonneg h
  · rw [htotal, ha.total, Finset.sum_congr rfl fun h _ ↦ hfl h, AccountingInv.sum_shift]

theorem onSent (ha : a.Summed) (handle : UInt16) : (a.onSent handle).Summed := by
  have h0 := ha.nonneg handle
  exact ha.shift handle 1 (fun h ↦ inFlightOf_onSent a handle h) rfl (by omega)

theorem onCompleted (ha : a.Summed) (handle : UInt16) (done : ℕ) (now : Time) :
    (a.onCompleted handle done now).Summed := by
  have h0 := ha.nonneg handle
  refine ha.shift handle (max 0 (a.inFlightOf handle - done) - a.inFlightOf handle) (fun h ↦ ?_) ?_ (by omega)
  · rw [inFlightOf_onCompleted _ _ _ _ _ (by omega) h0]
    by_cases hh : h = handle
    · subst hh
      simp
    · simp [hh]
  · rw [AclFlowControl.onCompleted, inFlightOf]
    cases a.inFlight.lookup handle with
    | none => simp
    | some was =>
      simp only [Option.getD_some]
      omega

theorem onDisconnect (ha : a.Summed) (handle : UInt16) : (a.onDisconnect handle).Summed := by
  have h0 := ha.nonneg handle
  refine ha.shift handle (-a.inFlightOf handle) (fun h ↦ ?_) ?_ (by omega)
  · rw [inFlightOf_onDisconnect]
    by_cases hh : h = handle
    · subst hh
      simp
    · simp [hh]
  · rw [AclFlowControl.onDisconnect, inFlightOf]
    cases a.inFlight.lookup handle with
    | none => simp
    | some was => simp [Int.sub_eq_add_neg]

theorem hasRoom (ha : a.Summed) (now later : Time) : (a.hasRoom now later).2.Summed := by
  rw [AclFlowControl.hasRoom]
  split
  · exact ha
  · split
    · exact ⟨fun h ↦ (inFlightOf_writeOff a later h).ge, by simp [writeOff, inFlightOf]⟩
    · exact ha

theorem step (ha : a.Summed) (c : AclCall) : (a.serve c).Summed := by
  cases c with
  | sent handle => exact ha.onSent handle
  | completed handle done now => exact ha.onCompleted handle done now
  | disconnected handle => exact ha.onDisconnect handle
  | askRoom now later => exact ha.hasRoom now later
  | poolSize | depth => exact ⟨ha.nonneg, ha.total⟩

end Summed

/-- What `hasRoom` writes off is written off altogether. -/
theorem inFlight_hasRoom (a : AclFlowControl) (now later : Time) :
    (a.hasRoom now later).2.inFlight = a.inFlight
      ∨ (a.maxPackets ≠ 0 ∧ a.overdue now = true) ∧ (a.hasRoom now later).2.inFlight = ∅ := by
  rw [hasRoom]
  by_cases hpool : a.maxPackets = 0
  · rw [if_pos hpool]
    exact .inl rfl
  · rw [if_neg hpool]
    by_cases hdue : a.overdue now = true
    · rw [if_pos hdue]
      exact .inr ⟨⟨hpool, hdue⟩, rfl⟩
    · rw [if_neg hdue]
      exact .inl rfl

/-- A call leaves the entries of the other handles alone, unless it writes off. -/
theorem lookup_serve (a : AclFlowControl) (c : AclCall) (h : UInt16) (hc : c.handle? ≠ some h) :
    (a.serve c).inFlight.lookup h = a.inFlight.lookup h
      ∨ (∃ now later, c = .askRoom now later ∧ a.maxPackets ≠ 0 ∧ a.overdue now = true)
        ∧ (a.serve c).inFlight = ∅ := by
  cases c with
  | sent handle now =>
    have hne : h ≠ handle := fun he ↦ hc (congrArg some he.symm)
    exact .inl (Finmap.lookup_insert_of_ne _ hne)
  | completed handle done now =>
    have hne : h ≠ handle := fun he ↦ hc (congrArg some he.symm)
    left
    rw [serve, onCompleted]
    cases a.inFlight.lookup handle with
    | none => rfl
    | some was => exact Finmap.lookup_insert_of_ne _ hne
  | disconnected handle now =>
    have hne : h ≠ handle := fun he ↦ hc (congrArg some he.symm)
    left
    rw [serve, onDisconnect]
    cases a.inFlight.lookup handle with
    | none => rfl
    | some was => exact Finmap.lookup_erase_ne hne
  | askRoom now later =>
    rcases inFlight_hasRoom a now later with hsame | ⟨hdue, hempty⟩
    · exact .inl (congrArg (Finmap.lookup h) hsame)
    · exact .inr ⟨⟨now, later, rfl, hdue⟩, hempty⟩
  | poolSize | depth => exact .inl rfl

end AclFlowControl

/-- **The running total is the sum it replaces.**  After any calls the total is the sum of the entries
and none is negative, so `hasRoom` answers as the version that walks the map; and the next call leaves
every entry but that of its handle alone, or writes off all of them. -/
theorem acl_total_is_sum (start writeOffAfter : Time) (calls : List AclCall) :
    let a := run AclFlowControl.serve { lastCompletion := start, writeOffAfter := writeOffAfter } calls
    a.total = a.inFlightSum ∧ (∀ h n, a.inFlight.lookup h = some n → 0 ≤ n)
      ∧ (∀ now later, a.hasRoom now later = a.hasRoomSumming now later)
      ∧ ∀ (c : AclCall) (h : UInt16), c.handle? ≠ some h →
        (a.serve c).inFlight.lookup h = a.inFlight.lookup h
          ∨ (∃ now later, c = .askRoom now later ∧ a.maxPackets ≠ 0 ∧ a.overdue now = true)
            ∧ (a.serve c).inFlight = ∅ := by
  intro a
  have ha : a.Summed :=
    run_invariant calls ⟨fun _ ↦ le_rfl, by simp [inFlightOf]⟩ fun _ c hs ↦ hs.step c
  have htotal : a.total = a.inFlightSum := by rw [ha.total, inFlightSum_eq]
  refine ⟨htotal, fun h n hn ↦ ?_, fun now later ↦ ?_, lookup_serve a⟩
  · have h0 := ha.nonneg h
    rwa [inFlightOf, hn, Option.getD_some] at h0
  · rw [hasRoom, hasRoomSumming, overdue, ← htotal]
    simp only [Bool.and_eq_true, decide_eq_true_eq]

/-! ## What is written off -/

/-- What the accounting does not keep: when each packet it counts was sent, oldest first, and when
packets were completed. -/
structure AclHistory where
  /-- The time of the last call. -/
  clock : Time
  packets : List (UInt16 × Time) := []
  completions : List Time := []

namespace AclHistory

/-- The controller gives back the oldest packets of a handle. -/
def giveBack (handle : UInt16) : ℕ → List (UInt16 × Time) → List (UInt16 × Time)
  | 0, ps => ps
  | _ + 1, [] => []
  | n + 1, p :: ps => if p.1 = handle then giveBack handle n ps else p :: giveBack handle (n + 1) ps

/-- Credits are given up. -/
def WritesOff (a : AclFlowControl) (now later : Time) : Prop := (a.hasRoom now later).2.total ≠ a.total

instance (a : AclFlowControl) (now later : Time) : Decidable (WritesOff a now later) :=
  inferInstanceAs (Decidable (_ ≠ _))

/-- A call is noted. -/
def note (x : AclHistory) (a : AclFlowControl) : AclCall → AclHistory
  | .sent handle now => { x with clock := now, packets := x.packets ++ [(handle, now)] }
  | .completed handle done now =>
    { clock := now
      packets := giveBack handle done x.packets
      completions := if a.inFlight.lookup handle = none then x.completions else now :: x.completions }
  | .disconnected handle now => { x with clock := now, packets := x.packets.filter fun p ↦ p.1 != handle }
  | .askRoom now later =>
    if WritesOff a now later then { x with clock := later, packets := [] } else { x with clock := now }
  | _ => x

/-- Time does not go back. -/
def InOrder (q : AclFlowControl × AclHistory) : AclCall → Prop
  | .sent _ now | .completed _ _ now | .disconnected _ now => q.2.clock ≤ now
  | .askRoom now later => q.2.clock ≤ now ∧ now ≤ later
  | _ => True

instance (q : AclFlowControl × AclHistory) : (c : AclCall) → Decidable (InOrder q c)
  | .sent _ _ | .completed _ _ _ | .disconnected _ _ => inferInstanceAs (Decidable (_ ≤ _))
  | .askRoom _ _ => inferInstanceAs (Decidable (_ ∧ _))
  | .poolSize _ | .depth _ => inferInstanceAs (Decidable True)

/-- Credits are given up only if some packet that was counted is overdue, and nothing was completed since
it became so. -/
def WritesOffOverdue (q : AclFlowControl × AclHistory) : AclCall → Prop
  | .askRoom now later => WritesOff q.1 now later →
    (∃ p ∈ q.2.packets, q.1.writeOffAfter < now - p.2)
      ∧ ∀ t ∈ q.2.completions, q.1.writeOffAfter < now - t
  | _ => True

/-- Room is asked for behind a quiet period: every packet that is counted was sent since, and the last
completion is longer ago than packets may take. -/
def AsksBehindQuiet (q : AclFlowControl × AclHistory) : AclCall → Prop
  | .askRoom now _ => q.1.maxPackets ≠ 0 ∧ q.2.packets ≠ []
    ∧ q.1.writeOffAfter < now - q.1.lastCompletion ∧ ∀ p ∈ q.2.packets, now - p.2 ≤ q.1.writeOffAfter
  | _ => False

instance (q : AclFlowControl × AclHistory) : (c : AclCall) → Decidable (AsksBehindQuiet q c)
  | .askRoom _ _ => inferInstanceAs (Decidable (_ ∧ _ ∧ _ ∧ _))
  | .sent _ _ | .completed _ _ _ | .disconnected _ _ | .poolSize _ | .depth _ => inferInstanceAs (Decidable False)

/-- The packets of a handle. -/
abbrev countOf (h : UInt16) (ps : List (UInt16 × Time)) : ℕ := ps.countP fun p ↦ p.1 == h

theorem countOf_giveBack (handle h : UInt16) (n : ℕ) (ps : List (UInt16 × Time)) :
    countOf h (giveBack handle n ps) = if h = handle then countOf h ps - n else countOf h ps := by
  induction ps generalizing n with
  | nil =>
    cases n <;> simp [giveBack]
  | cons p ps ih =>
    cases n with
    | zero => simp [giveBack]
    | succ n =>
      rw [giveBack]
      by_cases hp : p.1 = handle
      · rw [if_pos hp, ih]
        by_cases hh : h = handle
        · simp only [hh, if_true, countOf, List.countP_cons, hp, beq_self_eq_true]
          omega
        · have hne : (p.1 == h) = false := beq_eq_false_iff_ne.mpr fun he ↦ hh (he.symm.trans hp)
          simp [hh, countOf, hne]
      · rw [if_neg hp, countOf, List.countP_cons, ← countOf, ih]
        by_cases hh : h = handle
        · subst hh
          simp [countOf, hp]
        · simp [hh, countOf, List.countP_cons]

theorem countOf_disconnected (handle h : UInt16) (ps : List (UInt16 × Time)) :
    countOf h (ps.filter fun p ↦ p.1 != handle) = if h = handle then 0 else countOf h ps := by
  rw [countOf, List.countP_filter]
  by_cases hh : h = handle
  · subst hh
    simp
  · rw [if_neg hh]
    refine List.countP_congr fun p _ ↦ ?_
    simp only [Bool.and_eq_true, beq_iff_eq, bne_iff_ne, and_iff_left_iff_imp]
    rintro rfl
    exact hh

/-- The accounting counts these packets, and its idle time is measured from the last completion or a
later moment. -/
structure Agrees (x : AclHistory) (a : AclFlowControl) : Prop where
  summed : a.Summed
  counted : ∀ h, a.inFlightOf h = countOf h x.packets
  completed : ∀ t ∈ x.completions, t ≤ a.lastCompletion
  past : a.lastCompletion ≤ x.clock

namespace Agrees

variable {x : AclHistory} {a : AclFlowControl}

theorem total_pos (h : x.Agrees a) : 0 < a.total ↔ x.packets ≠ [] := by
  rw [h.summed.total]
  constructor
  · intro hpos hnil
    have hzero : ∀ k, a.inFlightOf k = 0 := fun k ↦ by rw [h.counted, hnil]; rfl
    rw [Finset.sum_congr rfl fun k _ ↦ hzero k, Finset.sum_const_zero] at hpos
    exact lt_irrefl 0 hpos
  · intro hne
    obtain ⟨p, hp⟩ := List.exists_mem_of_ne_nil _ hne
    have hone : 0 < a.inFlightOf p.1 := by
      rw [h.counted, Int.natCast_pos, List.countP_pos_iff]
      exact ⟨p, hp, beq_self_eq_true p.1⟩
    exact hone.trans_le (Finset.single_le_sum (fun k _ ↦ h.summed.nonneg k) (Finset.mem_univ p.1))

/-- When credits are given up. -/
theorem writesOff_iff (h : x.Agrees a) (now later : Time) :
    WritesOff a now later
      ↔ a.maxPackets ≠ 0 ∧ x.packets ≠ [] ∧ a.writeOffAfter < now - a.lastCompletion := by
  rw [WritesOff, hasRoom, ← h.total_pos]
  by_cases hpool : a.maxPackets = 0
  · rw [if_pos hpool]
    exact iff_of_false (fun hne ↦ hne rfl) fun hne ↦ hne.1 hpool
  · rw [if_neg hpool, overdue]
    by_cases hpos : 0 < a.total
    · by_cases hidle : a.writeOffAfter < now - a.lastCompletion
      · rw [if_pos (by simp [hpos, hidle])]
        exact iff_of_true hpos.ne ⟨hpool, hpos, hidle⟩
      · rw [if_neg (by simp [hidle])]
        exact iff_of_false (fun hne ↦ hne rfl) fun hall ↦ hidle hall.2.2
    · rw [if_neg (by simp [hpos])]
      exact iff_of_false (fun hne ↦ hne rfl) fun hall ↦ hpos hall.2.1

theorem onCompleted (h : x.Agrees a) (handle : UInt16) (done : ℕ) (now : Time) (hnow : x.clock ≤ now) :
    (x.note a (.completed handle done now)).Agrees (a.onCompleted handle done now) := by
  refine ⟨h.summed.onCompleted handle done now, fun k ↦ ?_, ?_, ?_⟩
  · rw [inFlightOf_onCompleted _ _ _ _ _ (by omega) (h.summed.nonneg handle)]
    simp only [note, countOf_giveBack, h.counted]
    by_cases hk : k = handle
    · subst hk
      rw [if_pos rfl, if_pos rfl]
      omega
    · rw [if_neg hk, if_neg hk]
  · intro t ht
    rw [note] at ht
    rw [AclFlowControl.onCompleted]
    cases hl : a.inFlight.lookup handle with
    | none =>
      rw [if_pos hl] at ht
      exact h.completed t ht
    | some was =>
      simp only [hl, reduceCtorEq, if_false, List.mem_cons] at ht
      rcases ht with rfl | ht
      · exact le_rfl
      · exact (h.completed t ht).trans (h.past.trans hnow)
  · rw [AclFlowControl.onCompleted]
    cases a.inFlight.lookup handle with
    | none => exact h.past.trans hnow
    | some was => exact le_rfl

theorem askRoom (h : x.Agrees a) {now later : Time} (hnow : x.clock ≤ now ∧ now ≤ later) :
    (x.note a (.askRoom now later)).Agrees (a.hasRoom now later).2 := by
  have hpast : a.lastCompletion ≤ now := h.past.trans hnow.1
  have hsummed := h.summed.hasRoom now later
  by_cases hoff : WritesOff a now later
  · rw [note, if_pos hoff]
    obtain ⟨hpool, hpos, hidle⟩ := (h.writesOff_iff now later).mp hoff
    have hstate : (a.hasRoom now later).2 = a.writeOff later := by
      rw [hasRoom, if_neg hpool, overdue, if_pos (by simp [h.total_pos.mpr hpos, hidle])]
    rw [hstate] at hsummed ⊢
    exact ⟨hsummed, fun _ ↦ rfl, fun t ht ↦ (h.completed t ht).trans (hpast.trans hnow.2), le_rfl⟩
  · rw [note, if_neg hoff]
    have hstate : (a.hasRoom now later).2 = a := by
      rw [h.writesOff_iff] at hoff
      rw [hasRoom]
      by_cases hpool : a.maxPackets = 0
      · rw [if_pos hpool]
      · rw [if_neg hpool, if_neg]
        rw [overdue, Bool.and_eq_true, decide_eq_true_eq, decide_eq_true_eq, h.total_pos]
        exact fun hdue ↦ hoff ⟨hpool, hdue⟩
    rw [hstate]
    exact ⟨h.summed, h.counted, h.completed, hpast⟩

/-- Every call keeps the two together. -/
theorem step (h : x.Agrees a) {c : AclCall} (hc : InOrder (a, x) c) : (x.note a c).Agrees (a.serve c) := by
  cases c with
  | sent handle now =>
    refine ⟨h.summed.onSent handle, fun k ↦ ?_, h.completed, h.past.trans hc⟩
    rw [AclFlowControl.serve, inFlightOf_onSent, h.counted]
    by_cases hk : k = handle
    · subst hk
      simp [note, countOf]
    · have hne : (handle == k) = false := beq_eq_false_iff_ne.mpr (Ne.symm hk)
      simp [note, countOf, hk, hne]
  | completed handle done now => exact h.onCompleted handle done now hc
  | disconnected handle now =>
    have hkept : (a.onDisconnect handle).lastCompletion = a.lastCompletion := by
      rw [onDisconnect]
      cases a.inFlight.lookup handle <;> rfl
    refine ⟨h.summed.onDisconnect handle, fun k ↦ ?_, fun t ht ↦ ?_, ?_⟩
    · rw [AclFlowControl.serve, inFlightOf_onDisconnect, h.counted]
      simp only [note, countOf_disconnected]
      by_cases hk : k = handle <;> simp [hk]
    · exact (h.completed t ht).trans_eq hkept.symm
    · exact hkept.trans_le (h.past.trans hc)
  | askRoom now later => exact h.askRoom hc
  | poolSize | depth => exact ⟨⟨h.summed.nonneg, h.summed.total⟩, h.counted, h.completed, h.past⟩

/-- A write-off gives up packets that are overdue, unless room is asked for behind a quiet period. -/
theorem writesOffOverdue_iff (h : x.Agrees a) (c : AclCall) :
    WritesOffOverdue (a, x) c ↔ ¬ AsksBehindQuiet (a, x) c := by
  cases c with
  | askRoom now later =>
    rw [WritesOffOverdue, AsksBehindQuiet, h.writesOff_iff]
    constructor
    · rintro hall ⟨hpool, hpos, hidle, hyoung⟩
      obtain ⟨p, hp, hold⟩ := (hall ⟨hpool, hpos, hidle⟩).1
      exact absurd (hyoung p hp) (not_le.mpr hold)
    · rintro hnot ⟨hpool, hpos, hidle⟩
      refine ⟨?_, fun t ht ↦ ?_⟩
      · by_contra hnone
        refine hnot ⟨hpool, hpos, hidle, fun p hp ↦ ?_⟩
        exact not_lt.mp fun hold ↦ hnone ⟨p, hp, hold⟩
      · exact hidle.trans_le (Int.sub_le_sub_left (h.completed t ht) now)
  | _ => exact iff_of_true trivial id

end Agrees

end AclHistory

/-- **When a write-off is overdue.**  In a sequence of calls at times that do not go back, every write-off
gives up a packet that has been out longer than packets may take, with nothing completed since, exactly if
room is never asked for behind a quiet period: with every packet counted sent since, and the last
completion longer ago. -/
theorem write_offs_are_overdue (start writeOffAfter : Time) (calls : List AclCall)
    (h : Along (withHistory AclFlowControl.serve AclHistory.note) AclHistory.InOrder
      ({ lastCompletion := start, writeOffAfter := writeOffAfter }, { clock := start }) calls) :
    Along (withHistory AclFlowControl.serve AclHistory.note) AclHistory.WritesOffOverdue
        ({ lastCompletion := start, writeOffAfter := writeOffAfter }, { clock := start }) calls
      ↔ Along (withHistory AclFlowControl.serve AclHistory.note) (fun q c ↦ ¬ AclHistory.AsksBehindQuiet q c)
        ({ lastCompletion := start, writeOffAfter := writeOffAfter }, { clock := start }) calls := by
  have hstart : AclHistory.Agrees { clock := start }
      { lastCompletion := start, writeOffAfter := writeOffAfter } :=
    ⟨⟨fun _ ↦ le_rfl, by simp [inFlightOf]⟩, fun _ ↦ rfl, by simp, le_rfl⟩
  let Inv (q : AclFlowControl × AclHistory) := q.2.Agrees q.1
  have hinit : Inv ({ lastCompletion := start, writeOffAfter := writeOffAfter }, { clock := start }) := hstart
  have hagree := h.of_invariant hinit fun q c hq hc ↦
    ⟨AclHistory.Agrees.step hq hc, AclHistory.Agrees.writesOffOverdue_iff hq c⟩
  exact hagree.congr

/-- Two packets are out for longer than packets may take, and are written off. -/
theorem write_offs_are_overdue_stall :
    let calls : List AclCall := [.poolSize 8, .sent 1 0, .sent 1 (seconds 1), .askRoom (seconds 4) (seconds 4)]
    Along (withHistory AclFlowControl.serve AclHistory.note) AclHistory.WritesOffOverdue
      ({ lastCompletion := 0, writeOffAfter := seconds 3 }, { clock := 0 }) calls :=
  (write_offs_are_overdue 0 (seconds 3) _ (by decide +kernel)).mpr (by decide +kernel)

/-- The first packet behind ten quiet seconds is written off a millisecond after it was sent. -/
theorem fresh_packet_written_off :
    ¬ ∀ start writeOffAfter calls,
      Along (withHistory AclFlowControl.serve AclHistory.note) AclHistory.InOrder
        ({ lastCompletion := start, writeOffAfter := writeOffAfter }, { clock := start }) calls →
      Along (withHistory AclFlowControl.serve AclHistory.note) AclHistory.WritesOffOverdue
        ({ lastCompletion := start, writeOffAfter := writeOffAfter }, { clock := start }) calls := by
  intro h
  let sent : List AclCall := [.poolSize 8, .sent 1 (seconds 10)]
  let asked : AclCall := .askRoom (seconds 10 + milliseconds 1) (seconds 10 + milliseconds 1)
  have hall := h 0 (seconds 3) (sent ++ [asked]) (by decide +kernel)
  have hlast := along_iff_prefixes.mp hall sent asked List.prefix_rfl
  obtain ⟨p, hp, hold⟩ := (hlast (by decide +kernel)).1
  have hmem : p ∈ [((1 : UInt16), seconds 10)] := hp
  rw [List.mem_singleton] at hmem
  subst hmem
  exact absurd hold (by decide)

end DualSenseMitm
