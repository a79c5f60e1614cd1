import DualSenseMitm.Input.InputFeed
import DualSenseMitm.Lib.Machine

/-!
# The press log's source

The writer's calls and one viewer's, each running to completion, against a log without end.  The ring
keeps the last `EVENTS` entries of the log, so a drain hands out the end of the log and returns how much
of it lies behind the ring.  That is true for as long as the head counts the log, which it stops to do
when it wraps.
-/

set_option autoImplicit false

namespace DualSenseMitm.InputFeed

open Machine RingLog

/-- A call, of the relay or of the viewer. -/
inductive Call
  | publish (body : Body) (link : LinkSnapshot) (monotonicNs realtimeNs : UInt64)
  | publishLink (link : LinkSnapshot)
  | drain

/-- The buttons a call publishes. -/
def Call.buttons? : Call → Option UInt32
  | .publish body .. => some (packButtons body)
  | _ => none

/-- The feed and one viewer: its cursor and what its drains gave. -/
structure Session where
  writer : Writer := {}
  cursor : UInt64 := 0
  drained : List Drained := []

def Session.step (s : Session) : Call → Session
  | .publish body link monotonicNs realtimeNs =>
    { s with writer := s.writer.publish body link monotonicNs realtimeNs }
  | .publishLink link => { s with writer := s.writer.publishLink link }
  | .drain =>
    let d := s.writer.shared.drain s.cursor
    { s with cursor := d.cursor, drained := s.drained ++ [d] }

/-- The events a call has put into the ring. -/
def written (w w' : Writer) : List Event :=
  if w'.shared.eventHead = w.shared.eventHead then []
  else [w'.shared.events (slotOf w.shared.eventHead)]

/-- Every event there ever was, and how many of them there were at the last drain. -/
structure PressLog where
  log : List Event := []
  seen : ℕ := 0

def PressLog.note (l : PressLog) (s : Session) (c : Call) : PressLog :=
  { log := l.log ++ written s.writer (s.step c).writer
    seen := if c matches .drain then l.log.length else l.seen }

/-- The successive distinct values of a list, behind `b`. -/
def changes (b : UInt32) : List UInt32 → List UInt32
  | [] => []
  | x :: xs => if x = b then changes b xs else x :: changes x xs

/-- The values a list of calls publishes. -/
def published (calls : List Call) : List UInt32 := calls.filterMap Call.buttons?

/-- What the drains were handed: each the gap it returns and then its events. -/
def handed (drained : List Drained) : List (Handed Event) :=
  drained.flatMap fun d ↦ .lost d.lost.toNat :: d.events.map .entry

/-- A drain hands out the events since the last one, up to the newest, but for those it returns as lost,
each of which has a ring's worth of newer ones. -/
def DrainsToNewest (q : Session × PressLog) : Call → Prop
  | .drain =>
    let d := q.1.writer.shared.drain q.1.cursor
    d.events = q.2.log.drop (q.2.seen + d.lost.toNat)
      ∧ ∀ n, q.2.seen ≤ n → n < q.2.seen + d.lost.toNat → n + EVENTS < q.2.log.length
  | _ => True

/-- The calls of a session tell of the log of its changes. -/
structure FollowsLog (calls : List Call) : Prop where
  written : (run (withHistory Session.step PressLog.note) ({}, {}) calls).2.log.map Event.buttons
    = changes 0 (published calls)
  drains : Along (withHistory Session.step PressLog.note) DrainsToNewest ({}, {}) calls
  accounts :
    let q := run (withHistory Session.step PressLog.note) ({}, {}) calls
    Accounts (handed q.1.drained) (q.2.log.take q.2.seen)

/-! ## The changes -/

theorem changes_concat (b x : UInt32) (l : List UInt32) :
    changes b (l ++ [x]) = changes b l ++ if x = l.getLastD b then [] else [x] := by
  induction l generalizing b with
  | nil =>
    rw [List.nil_append, changes, changes, changes, List.getLastD_nil]
    rfl
  | cons y l ih =>
    rw [List.cons_append, changes, changes, ih, ih, List.getLastD_cons]
    by_cases hy : y = b
    · rw [if_pos hy, if_pos hy, hy]
    · rw [if_neg hy, if_neg hy, List.cons_append]

/-! ## One drain -/

theorem drainFrom_spec {head cursor : UInt64} (h : cursor ≤ head) :
    (Shared.drainFrom head cursor).2.toNat = head.toNat - cursor.toNat - EVENTS
      ∧ (Shared.drainFrom head cursor).1.toNat = cursor.toNat + (head.toNat - cursor.toNat - EVENTS) := by
  have hle : cursor.toNat ≤ head.toNat := UInt64.le_iff_toNat_le.mp h
  have hsub : (head - cursor).toNat = head.toNat - cursor.toNat := UInt64.toNat_sub_of_le _ _ h
  have hring : (UInt64.ofNat EVENTS).toNat = EVENTS := rfl
  rw [Shared.drainFrom, if_neg (UInt64.not_lt.mpr h)]
  by_cases hfull : head - cursor > UInt64.ofNat EVENTS
  · have hlt : EVENTS < head.toNat - cursor.toNat := by
      rw [gt_iff_lt, UInt64.lt_iff_toNat_lt, hsub, hring] at hfull
      exact hfull
    rw [if_pos hfull]
    refine ⟨?_, ?_⟩
    · rw [UInt64.toNat_sub_of_le _ _ (UInt64.le_of_lt hfull), hsub, hring]
    · rw [UInt64.toNat_sub_of_le _ _ (UInt64.le_iff_toNat_le.mpr (by rw [hring]; omega)), hring]
      omega
  · have hle' : head.toNat - cursor.toNat ≤ EVENTS := by
      rw [gt_iff_lt, UInt64.lt_iff_toNat_lt, hsub, hring] at hfull
      exact Nat.not_lt.mp hfull
    rw [if_neg hfull]
    refine ⟨?_, ?_⟩
    · rw [Nat.sub_eq_zero_of_le hle']
      rfl
    · dsimp only
      omega

theorem copyEvents_eq {s : Shared} {log : List Event} {lo : ℕ} (hkeeps : Keeps s.events log lo)
    {head cursor : UInt64} (hhead : head.toNat = log.length) (hlo : lo ≤ cursor.toNat) :
    s.copyEvents head cursor = log.drop cursor.toNat := by
  fun_induction Shared.copyEvents s head cursor with
  | case1 cursor hlt ih =>
    have hnat : cursor.toNat < log.length := by
      rw [← hhead]
      exact UInt64.lt_iff_toNat_lt.mp hlt
    have hsucc : (cursor + 1).toNat = cursor.toNat + 1 := by
      have hmax := head.toNat_lt
      rw [UInt64.toNat_add, UInt64.toNat_one]
      omega
    rw [ih (by omega), hsucc, hkeeps.drop_eq_cons hlo hnat]
    rfl
  | case2 cursor hge =>
    rw [List.drop_eq_nil_of_le]
    rw [← hhead]
    exact UInt64.le_iff_toNat_le.mp (UInt64.not_lt.mp hge)

/-- What a drain gives when its cursor is a place in the log. -/
theorem drain_spec {s : Shared} {log : List Event} (hkeeps : Keeps s.events log (log.length - EVENTS))
    (hhead : s.eventHead.toNat = log.length) {cursor : UInt64} (hcursor : cursor.toNat ≤ log.length) :
    (s.drain cursor).lost.toNat = log.length - cursor.toNat - EVENTS
      ∧ (s.drain cursor).events = log.drop (cursor.toNat + (s.drain cursor).lost.toNat)
      ∧ (s.drain cursor).cursor.toNat = log.length := by
  have hle : cursor ≤ s.eventHead := UInt64.le_iff_toNat_le.mpr (by omega)
  obtain ⟨hlost, hstart⟩ := drainFrom_spec hle
  rw [hhead] at hlost hstart
  have hcopy : s.copyEvents s.eventHead (Shared.drainFrom s.eventHead cursor).1
      = log.drop (Shared.drainFrom s.eventHead cursor).1.toNat := copyEvents_eq hkeeps hhead (by omega)
  refine ⟨hlost, ?_, ?_⟩
  · rw [Shared.drain]
    dsimp only
    rw [hcopy, hstart, hlost]
  · rw [Shared.drain]
    dsimp only
    split
    · exact hhead
    · rename_i hge
      have hge' := UInt64.le_iff_toNat_le.mp (UInt64.not_lt.mp hge)
      omega

/-! ## One publish -/

theorem slotOf_ofNat (n : ℕ) : slotOf (UInt64.ofNat n) = slot EVENTS n := by
  refine Fin.ext ?_
  rw [slotOf, slot, slot, Fin.val_ofNat, Fin.val_ofNat, UInt64.toNat_ofNat']
  exact Nat.mod_mod_of_dvd n (by decide)

theorem written_publish (w : Writer) (body : Body) (link : LinkSnapshot) (monotonicNs realtimeNs : UInt64) :
    written w (w.publish body link monotonicNs realtimeNs)
      = if packButtons body = w.lastButtons then [] else [⟨realtimeNs, packButtons body, 0⟩] := by
  rw [Writer.publish, written]
  dsimp only
  by_cases hsame : packButtons body = w.lastButtons
  · rw [if_pos hsame, if_pos hsame, if_pos rfl]
  · have hmoved : w.shared.eventHead + 1 ≠ w.shared.eventHead := by
      intro h
      simp at h
    rw [if_neg hsame, if_neg hsame, if_neg hmoved]
    dsimp only
    rw [Function.update_self]

/-- The feed and the log of its events agree. -/
structure Follows (calls : List Call) (w : Writer) (log : List Event) : Prop where
  values : log.map Event.buttons = changes 0 (published calls)
  last : w.lastButtons = (published calls).getLastD 0
  head : w.shared.eventHead = UInt64.ofNat log.length
  keeps : Keeps w.shared.events log (log.length - EVENTS)

theorem Follows.publish {calls : List Call} {w : Writer} {log : List Event} (h : Follows calls w log)
    (body : Body) (link : LinkSnapshot) (monotonicNs realtimeNs : UInt64) :
    Follows (calls ++ [.publish body link monotonicNs realtimeNs]) (w.publish body link monotonicNs realtimeNs)
      (log ++ written w (w.publish body link monotonicNs realtimeNs)) := by
  have hpub : published (calls ++ [.publish body link monotonicNs realtimeNs])
      = published calls ++ [packButtons body] := by
    rw [published, List.filterMap_append]
    rfl
  have hvalues := changes_concat 0 (packButtons body) (published calls)
  rw [← h.last] at hvalues
  rw [written_publish]
  by_cases hsame : packButtons body = w.lastButtons
  · rw [if_pos hsame, List.append_nil] at hvalues ⊢
    have hw : (w.publish body link monotonicNs realtimeNs).shared.events = w.shared.events
        ∧ (w.publish body link monotonicNs realtimeNs).shared.eventHead = w.shared.eventHead
        ∧ (w.publish body link monotonicNs realtimeNs).lastButtons = w.lastButtons := by
      rw [Writer.publish]
      dsimp only
      rw [if_pos hsame]
      exact ⟨rfl, rfl, rfl⟩
    obtain ⟨hevents, hhead, hlast⟩ := hw
    refine ⟨by rw [hpub, hvalues, h.values], ?_, hhead ▸ h.head, hevents ▸ h.keeps⟩
    rw [hpub, List.getLastD_concat, hlast, hsame]
  · rw [if_neg hsame] at hvalues ⊢
    have hw : (w.publish body link monotonicNs realtimeNs).shared.events
          = Function.update w.shared.events (slotOf w.shared.eventHead) ⟨realtimeNs, packButtons body, 0⟩
        ∧ (w.publish body link monotonicNs realtimeNs).shared.eventHead = w.shared.eventHead + 1
        ∧ (w.publish body link monotonicNs realtimeNs).lastButtons = packButtons body := by
      rw [Writer.publish]
      dsimp only
      rw [if_neg hsame]
      exact ⟨rfl, rfl, rfl⟩
    obtain ⟨hevents, hhead, hlast⟩ := hw
    refine ⟨by rw [hpub, hvalues, List.map_append, h.values]; rfl, ?_, ?_, ?_⟩
    · rw [hpub, List.getLastD_concat, hlast]
    · rw [hhead, h.head, List.length_append, List.length_singleton, UInt64.ofNat_add]
      rfl
    · have hslot : slotOf w.shared.eventHead = slot EVENTS log.length := by rw [h.head, slotOf_ofNat]
      rw [hevents, hslot, List.length_append, List.length_singleton]
      have hpos : 0 < EVENTS := by decide
      refine Keeps.push ((h.keeps.mono ?_).overwrite ?_ _) (Function.update_self ..)
      · omega
      · omega

/-- A call that publishes no buttons writes no event. -/
theorem Follows.silent {calls : List Call} {w : Writer} {log : List Event} (h : Follows calls w log) {c : Call}
    (hc : c.buttons? = none) {w' : Writer} (hlast : w'.lastButtons = w.lastButtons)
    (hhead : w'.shared.eventHead = w.shared.eventHead) (hevents : w'.shared.events = w.shared.events) :
    Follows (calls ++ [c]) w' (log ++ written w w') := by
  have hpub : published (calls ++ [c]) = published calls := by
    rw [published, List.filterMap_append, List.filterMap_cons_none hc]
    exact List.append_nil _
  rw [written, if_pos hhead, List.append_nil]
  exact ⟨by rw [hpub, h.values], by rw [hpub, hlast, h.last], by rw [hhead, h.head], by rw [hevents]; exact h.keeps⟩

theorem follows (calls : List Call) :
    let q := run (withHistory Session.step PressLog.note) ({}, {}) calls
    Follows calls q.1.writer q.2.log := by
  induction calls using List.reverseRecOn with
  | nil => exact ⟨rfl, rfl, rfl, Keeps.nil⟩
  | append_singleton calls c ih =>
    rw [run_concat]
    cases c with
    | publish body link monotonicNs realtimeNs => exact ih.publish body link monotonicNs realtimeNs
    | publishLink link => exact ih.silent rfl rfl rfl rfl
    | drain => exact ih.silent rfl rfl rfl rfl

/-! ## All drains -/

/-- The cursor of the viewer is a place in the log, and what is before it is accounted for. -/
structure Counts (q : Session × PressLog) : Prop where
  cursor : q.1.cursor.toNat = q.2.seen
  seen_le : q.2.seen ≤ q.2.log.length
  accounts : Accounts (handed q.1.drained) (q.2.log.take q.2.seen)

theorem handed_concat (drained : List Drained) (d : Drained) :
    handed (drained ++ [d]) = handed drained ++ .lost d.lost.toNat :: d.events.map .entry := by
  rw [handed, List.flatMap_append]
  simp [handed]

/-- A drain, while the head counts the log. -/
theorem Counts.drain {calls : List Call} {q : Session × PressLog} (h : Counts q)
    (hf : Follows calls q.1.writer q.2.log) (hlt : q.2.log.length < 2 ^ 64) :
    DrainsToNewest q .drain ∧ Counts (withHistory Session.step PressLog.note q .drain) := by
  have hhead : q.1.writer.shared.eventHead.toNat = q.2.log.length := by
    rw [hf.head]
    exact UInt64.toNat_ofNat_of_lt' hlt
  obtain ⟨hlost, hevents, hcursor⟩ := drain_spec hf.keeps hhead (h.cursor.trans_le h.seen_le)
  rw [h.cursor] at hlost hevents
  refine ⟨⟨hevents, fun n _ hn ↦ by omega⟩, ?_⟩
  have hnone : written q.1.writer q.1.writer = [] := if_pos rfl
  have hlog : (withHistory Session.step PressLog.note q .drain).2.log = q.2.log := by
    rw [withHistory, PressLog.note, Session.step]
    exact (congrArg (q.2.log ++ ·) hnone).trans (List.append_nil _)
  refine ⟨hcursor, by rw [hlog]; exact le_rfl, ?_⟩
  rw [hlog]
  show Accounts (handed (q.1.drained ++ [_])) (q.2.log.take q.2.log.length)
  rw [handed_concat, List.take_length]
  exact accounts_append_gap h.accounts (by omega) hevents

/-- A call of the writer adds to the log and to nothing else. -/
theorem Counts.write {q : Session × PressLog} (h : Counts q) {c : Call} (hc : c ≠ .drain) :
    Counts (withHistory Session.step PressLog.note q c) := by
  have hprefix : (q.2.log ++ written q.1.writer (q.1.step c).writer).take q.2.seen = q.2.log.take q.2.seen :=
    List.take_append_of_le_length h.seen_le
  have hlen : q.2.seen ≤ (q.2.log ++ written q.1.writer (q.1.step c).writer).length := by
    rw [List.length_append]
    exact h.seen_le.trans (Nat.le_add_right ..)
  cases c with
  | drain => exact absurd rfl hc
  | publish => exact ⟨h.cursor, hlen, hprefix.symm ▸ h.accounts⟩
  | publishLink => exact ⟨h.cursor, hlen, hprefix.symm ▸ h.accounts⟩

theorem length_changes_le (calls : List Call) (c : Call) :
    (changes 0 (published calls)).length ≤ (changes 0 (published (calls ++ [c]))).length := by
  rw [published, published, List.filterMap_append]
  cases hc : c.buttons? with
  | none =>
    rw [List.filterMap_cons_none hc, List.filterMap_nil, List.append_nil]
  | some x =>
    rw [List.filterMap_cons_some hc, List.filterMap_nil, changes_concat, List.length_append]
    exact Nat.le_add_right ..

/-- Every drain of a session goes to the newest event, while the head counts the log. -/
theorem drains_and_counts {calls : List Call} (h : (changes 0 (published calls)).length < 2 ^ 64) :
    Along (withHistory Session.step PressLog.note) DrainsToNewest ({}, {}) calls
      ∧ Counts (run (withHistory Session.step PressLog.note) ({}, {}) calls) := by
  induction calls using List.reverseRecOn with
  | nil => exact ⟨trivial, rfl, le_rfl, rfl⟩
  | append_singleton calls c ih =>
    have hlt := (length_changes_le calls c).trans_lt h
    have hf := follows calls
    obtain ⟨halong, hcounts⟩ := ih hlt
    rw [← hf.values, List.length_map] at hlt
    rw [along_append, run_concat]
    by_cases hc : c = .drain
    · subst hc
      obtain ⟨hnewest, hcounts'⟩ := hcounts.drain hf hlt
      exact ⟨⟨halong, hnewest, trivial⟩, hcounts'⟩
    · refine ⟨⟨halong, ?_, trivial⟩, hcounts.write hc⟩
      cases c with
      | drain => exact absurd rfl hc
      | publish => trivial
      | publishLink => trivial

/-- While fewer than 2⁶⁴ events have been written, nothing is lost silently. -/
theorem drains_follow_log {calls : List Call} (h : (changes 0 (published calls)).length < 2 ^ 64) :
    FollowsLog calls :=
  ⟨(follows calls).values, (drains_and_counts h).1, (drains_and_counts h).2.accounts⟩

/-- A press and its release, and the drain behind them. -/
theorem drains_follow_log_tap :
    let cross : Body := Function.update (fun _ ↦ 0) DPAD_OFF 0x28
    FollowsLog [.publish cross {} 1 2, .drain, .publish (fun _ ↦ 8) {} 3 4, .drain] :=
  drains_follow_log (by decide)

/-! ## A head that wraps -/

/-- The `n`-th report of a run in which every report is a change. -/
def tap (n : ℕ) : Call :=
  .publish (Function.update (fun _ ↦ 0) DPAD_OFF (if n % 2 = 0 then 0x28 else 0x08)) {} 0 0

/-- `n` reports, each of them a change. -/
def taps (n : ℕ) : List Call := (List.range n).map tap

/-- A drain behind `n` changes, and five more changes behind it. -/
def tapsAround (n : ℕ) : List Call := taps n ++ [.drain] ++ taps 5

theorem buttons_tap (n : ℕ) : (tap n).buttons? = some (if n % 2 = 0 then 0x20 else 0) := by
  rw [tap]
  split
  · decide
  · decide

theorem taps_succ (n : ℕ) : taps (n + 1) = taps n ++ [tap n] := by
  rw [taps, List.range_succ, List.map_append]
  rfl

theorem published_tap (calls : List Call) (n : ℕ) :
    published (calls ++ [tap n]) = published calls ++ [if n % 2 = 0 then 0x20 else 0] := by
  rw [published, List.filterMap_append, List.filterMap_cons_some (buttons_tap n)]
  rfl

theorem published_concat_drain (calls : List Call) : published (calls ++ [.drain]) = published calls := by
  rw [published, List.filterMap_append]
  exact List.append_nil _

/-- Behind a report with nothing held, every one of them is a change. -/
theorem changes_taps {calls : List Call} (h : (published calls).getLastD 0 = 0) (n : ℕ) :
    (changes 0 (published (calls ++ taps n))).length = (changes 0 (published calls)).length + n
      ∧ (published (calls ++ taps n)).getLastD 0 = if n % 2 = 0 then 0 else 0x20 := by
  induction n with
  | zero =>
    rw [taps, List.range_zero, List.map_nil, List.append_nil]
    exact ⟨rfl, h⟩
  | succ n ih =>
    obtain ⟨hlen, hlast⟩ := ih
    rw [taps_succ, ← List.append_assoc, published_tap, changes_concat, hlast, List.length_append, hlen,
      List.getLastD_concat, Nat.add_assoc]
    rcases Nat.mod_two_eq_zero_or_one n with hn | hn
    · have hsucc : (n + 1) % 2 = 1 := by omega
      rw [hn, hsucc]
      exact ⟨rfl, rfl⟩
    · have hsucc : (n + 1) % 2 = 0 := by omega
      rw [hn, hsucc]
      exact ⟨rfl, rfl⟩

/-- No viewer drains meanwhile. -/
theorem run_taps (q : Session × PressLog) (n : ℕ) :
    (run (withHistory Session.step PressLog.note) q (taps n)).1.cursor = q.1.cursor
      ∧ (run (withHistory Session.step PressLog.note) q (taps n)).2.seen = q.2.seen := by
  induction n with
  | zero => exact ⟨rfl, rfl⟩
  | succ n ih =>
    rw [taps_succ, run_concat]
    exact ih

theorem length_copyEvents (s : Shared) (head cursor : UInt64) :
    (s.copyEvents head cursor).length = head.toNat - cursor.toNat := by
  fun_induction Shared.copyEvents s head cursor with
  | case1 cursor hlt ih =>
    have hnat := UInt64.lt_iff_toNat_lt.mp hlt
    have hmax := head.toNat_lt
    rw [List.length_cons, ih, UInt64.toNat_add, UInt64.toNat_one]
    omega
  | case2 cursor hge =>
    have hnat := UInt64.le_iff_toNat_le.mp (UInt64.not_lt.mp hge)
    rw [List.length_nil]
    omega

/-- The head wraps between two drains: the second takes it for a restart. -/
theorem not_followsLog_tapsAround {n : ℕ} (hn : n + 2 = 2 ^ 64) : ¬ FollowsLog (tapsAround n ++ [.drain]) := by
  intro h
  have hnothing : (published []).getLastD 0 = 0 := rfl
  obtain ⟨hchanges, hparity⟩ := changes_taps hnothing n
  rw [List.nil_append, if_pos (by omega)] at hparity
  have hnone : (changes 0 (published [])).length = 0 := rfl
  rw [List.nil_append, hnone, Nat.zero_add] at hchanges
  -- the first drain leaves the cursor two short of the wrap
  have hdrained : Counts (run (withHistory Session.step PressLog.note) ({}, {}) (taps n ++ [.drain])) := by
    refine (drains_and_counts ?_).2
    rw [published_concat_drain, hchanges]
    omega
  have hseen : (run (withHistory Session.step PressLog.note) ({}, {}) (taps n ++ [.drain])).2.seen = n := by
    have hvalues := congrArg List.length (follows (taps n)).values
    rw [List.length_map, hchanges] at hvalues
    rw [run_concat]
    exact hvalues
  have hcursor := run_taps (run (withHistory Session.step PressLog.note) ({}, {}) (taps n ++ [.drain])) 5
  rw [← run_append, ← tapsAround] at hcursor
  -- the log goes on, the head starts over
  have hf := follows (tapsAround n)
  have hlen := congrArg List.length hf.values
  rw [List.length_map, tapsAround, (changes_taps (by rw [published_concat_drain]; exact hparity) 5).1,
    published_concat_drain, hchanges] at hlen
  have hhead := hf.head
  have hlast := (along_append.mp h.drains).2.1.1
  rw [← tapsAround] at hlen
  revert hcursor hlen hhead hlast
  generalize run (withHistory Session.step PressLog.note) ({}, {}) (tapsAround n) = q
  intro hcursor hlen hhead hlast
  have hthree : q.1.writer.shared.eventHead = 3 := by
    rw [hhead, hlen, ← UInt64.toNat_inj, UInt64.toNat_ofNat']
    show (n + 5) % 2 ^ 64 = 3
    omega
  have hc : q.1.cursor = UInt64.ofNat (2 ^ 64 - 2) := by
    rw [← UInt64.toNat_inj, hcursor.1, hdrained.cursor, hseen, UInt64.toNat_ofNat']
    omega
  have hlost := congrArg List.length hlast
  rw [Shared.drain, hthree, hc, hcursor.2, hseen] at hlost
  rw [length_copyEvents, List.length_drop, hlen] at hlost
  have hfrom : Shared.drainFrom 3 (UInt64.ofNat (2 ^ 64 - 2)) = (0, 0) := by decide
  rw [hfrom] at hlost
  have hfive : n + 5 - (n + (0 : UInt64).toNat) = 5 := by
    rw [UInt64.toNat_zero]
    omega
  rw [hfive] at hlost
  exact absurd hlost (by decide)

/-- Two events are lost of which no drain tells. -/
theorem wrapped_head_loses_silently : ¬ ∀ calls, FollowsLog calls :=
  fun h ↦ not_followsLog_tapsAround (n := 2 ^ 64 - 2) (Nat.sub_add_cancel (by decide)) (h _)

end DualSenseMitm.InputFeed
