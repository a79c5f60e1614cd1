import DualSenseMitm.Input.PressLog

/-!
# The relay starts again

A relay that starts again takes over the feed's file and clears it, and the viewer keeps its cursor.  The
viewer tells by a head that lies behind its cursor, so it does not notice once as many events have been
written as there were before.

* `Session.turn` — a session of several relays, one after the other, and one viewer.
* `NothingHidden` — the drains account for the events of the current relay.
* `restarts_hide_nothing_iff` — they do exactly when each restart is noticed, or the viewer had seen
  nothing.
-/

set_option autoImplicit false

namespace DualSenseMitm.InputFeed

open Machine RingLog

/-- A call, or a relay that starts again on the same file. -/
inductive SessionTurn
  | call (c : Call)
  | restart

/-- What `open` leaves: a page that is cleared, and a writer that has published nothing. -/
def Writer.opened : Writer := {}

def Session.turn (s : Session) : SessionTurn → Session
  | .call c => s.step c
  | .restart => { s with writer := .opened }

/-- The calls since the relay started, the events they wrote, what the drains among them gave, and how many
events there were at the last of these. -/
structure CurrentRun where
  calls : List Call := []
  log : List Event := []
  drained : List Drained := []
  seen : ℕ := 0

def CurrentRun.note (x : CurrentRun) (s : Session) : SessionTurn → CurrentRun
  | .call c =>
    { calls := x.calls ++ [c]
      log := x.log ++ written s.writer (s.step c).writer
      drained := if c matches .drain then x.drained ++ [s.writer.shared.drain s.cursor] else x.drained
      seen := if c matches .drain then x.log.length else x.seen }
  | .restart => {}

/-- A session with what is known of the current relay. -/
abbrev turnStep : Session × CurrentRun → SessionTurn → Session × CurrentRun :=
  withHistory Session.turn CurrentRun.note

/-- Each event up to the last drain was handed out by a drain, or is in one of the gaps they returned. -/
def NothingHidden (q : Session × CurrentRun) : Prop := Accounts (handed q.2.drained) (q.2.log.take q.2.seen)

/-- The head counts the events of the current relay. -/
def HeadCounts (q : Session × CurrentRun) : Prop := q.2.log.length < 2 ^ 64

instance (q : Session × CurrentRun) : Decidable (HeadCounts q) := inferInstanceAs (Decidable (_ < _))

/-- The first drain behind a restart finds the head behind its cursor, or has a cursor that has not moved. -/
def NoticesRestart (q : Session × CurrentRun) : SessionTurn → Prop
  | .call .drain => q.2.drained = [] → q.1.cursor = 0 ∨ q.2.log.length < q.1.cursor.toNat
  | _ => True

/-! ## One drain -/

/-- A head behind the cursor is taken for a restart. -/
theorem drain_of_lt {s : Shared} {cursor : UInt64} (h : s.eventHead < cursor) : s.drain cursor = s.drain 0 := by
  have hfrom : Shared.drainFrom s.eventHead cursor = Shared.drainFrom s.eventHead 0 := by
    have hzero : ¬ s.eventHead < 0 := UInt64.not_lt.mpr UInt64.zero_le
    rw [Shared.drainFrom, Shared.drainFrom, if_pos h, if_neg hzero]
  rw [Shared.drain, Shared.drain, hfrom]

section drain

variable {w : Writer} {log : List Event} {calls : List Call} (hf : Follows calls w log)
  (hcounts : log.length < 2 ^ 64)
include hf hcounts

theorem eventHead_toNat : w.shared.eventHead.toNat = log.length := by
  rw [hf.head]
  exact UInt64.toNat_ofNat_of_lt' hcounts

/-- Wherever it starts, a drain goes up to the newest event. -/
theorem drain_cursor (cursor : UInt64) : (w.shared.drain cursor).cursor.toNat = log.length := by
  have hhead := eventHead_toNat hf hcounts
  rcases Nat.lt_or_ge log.length cursor.toNat with hlt | hle
  · have hbehind : w.shared.eventHead < cursor := by
      rw [UInt64.lt_iff_toNat_lt, hhead]
      exact hlt
    rw [drain_of_lt hbehind]
    exact (drain_spec hf.keeps hhead (Nat.zero_le _)).2.2
  · exact (drain_spec hf.keeps hhead hle).2.2

/-- A drain on its own accounts for a log exactly if it starts at its beginning. -/
theorem accounts_drain_iff (cursor : UInt64) :
    Accounts (.lost (w.shared.drain cursor).lost.toNat :: (w.shared.drain cursor).events.map .entry) log
      ↔ cursor = 0 ∨ log.length < cursor.toNat := by
  have hhead := eventHead_toNat hf hcounts
  have hstart : Accounts (.lost (w.shared.drain 0).lost.toNat :: (w.shared.drain 0).events.map .entry) log := by
    have hzero : (0 : UInt64).toNat ≤ log.length := Nat.zero_le _
    obtain ⟨hlost, hevents, -⟩ := drain_spec hf.keeps hhead hzero
    exact accounts_gap (by rw [hlost]; omega) (by rw [hevents, UInt64.toNat_zero, Nat.zero_add])
  constructor
  · intro haccounts
    by_contra hno
    rw [not_or, Nat.not_lt] at hno
    obtain ⟨hne, hle⟩ := hno
    obtain ⟨hlost, hevents, -⟩ := drain_spec hf.keeps hhead hle
    have hlen := haccounts.length_gap
    rw [hevents, List.length_drop] at hlen
    have hpos : cursor.toNat ≠ 0 := fun h ↦ hne (UInt64.toNat_inj.mp h)
    omega
  · rintro (rfl | hlt)
    · exact hstart
    · have hbehind : w.shared.eventHead < cursor := by
        rw [UInt64.lt_iff_toNat_lt, hhead]
        exact hlt
      rw [drain_of_lt hbehind]
      exact hstart

end drain

/-! ## All drains -/

/-- The feed follows the events of the current relay, and so does the viewer once it has drained. -/
structure RunFollows (q : Session × CurrentRun) : Prop where
  follows : Follows q.2.calls q.1.writer q.2.log
  seen_le : q.2.seen ≤ q.2.log.length
  undrained : q.2.drained = [] → q.2.seen = 0
  drained : q.2.drained ≠ [] → q.1.cursor.toNat = q.2.seen

section turn

variable {q : Session × CurrentRun}

theorem log_turn_drain (q : Session × CurrentRun) :
    (turnStep q (.call .drain)).2.log = q.2.log := by
  have hnone : written q.1.writer q.1.writer = [] := if_pos rfl
  exact (congrArg (q.2.log ++ ·) hnone).trans (List.append_nil _)

theorem RunFollows.turn (h : RunFollows q) (hcounts : HeadCounts q) (t : SessionTurn) :
    RunFollows (turnStep q t) := by
  have hlen : ∀ c, q.2.seen ≤ (q.2.log ++ written q.1.writer (q.1.step c).writer).length := by
    intro c
    rw [List.length_append]
    exact h.seen_le.trans (Nat.le_add_right ..)
  cases t with
  | restart => exact ⟨⟨rfl, rfl, rfl, Keeps.nil⟩, le_rfl, fun _ ↦ rfl, fun h ↦ absurd rfl h⟩
  | call c =>
    cases c with
    | publish body link monotonicNs realtimeNs =>
      exact ⟨h.follows.publish body link monotonicNs realtimeNs, hlen _, h.undrained, h.drained⟩
    | publishLink link =>
      exact ⟨h.follows.silent rfl rfl rfl rfl, hlen (.publishLink link), h.undrained, h.drained⟩
    | drain =>
      refine ⟨h.follows.silent rfl rfl rfl rfl, ?_, fun hnil ↦ ?_, fun _ ↦ ?_⟩
      · rw [log_turn_drain]
        exact le_rfl
      · exact absurd (List.append_eq_nil_iff.mp hnil).2 (List.cons_ne_nil _ _)
      · exact drain_cursor h.follows hcounts q.1.cursor

/-- **What a turn hides.**  If nothing is hidden before it, only a drain that misses a restart hides something. -/
theorem nothingHidden_turn_iff (h : RunFollows q) (hcounts : HeadCounts q) (hnone : NothingHidden q)
    (t : SessionTurn) : NothingHidden (turnStep q t) ↔ NoticesRestart q t := by
  have hwrite : ∀ c, Accounts (handed q.2.drained)
      ((q.2.log ++ written q.1.writer (q.1.step c).writer).take q.2.seen) := by
    intro c
    rw [List.take_append_of_le_length h.seen_le]
    exact hnone
  cases t with
  | restart => exact iff_of_true rfl trivial
  | call c =>
    cases c with
    | publish body link monotonicNs realtimeNs =>
      exact iff_of_true (hwrite (.publish body link monotonicNs realtimeNs)) trivial
    | publishLink link => exact iff_of_true (hwrite (.publishLink link)) trivial
    | drain =>
      have hhanded : NothingHidden (turnStep q (.call .drain)) ↔
          Accounts (handed q.2.drained ++ .lost (q.1.writer.shared.drain q.1.cursor).lost.toNat
            :: (q.1.writer.shared.drain q.1.cursor).events.map .entry) q.2.log := by
        rw [NothingHidden, log_turn_drain, ← handed_concat]
        exact iff_of_eq (congrArg _ List.take_length)
      rw [hhanded, NoticesRestart]
      by_cases hnil : q.2.drained = []
      · rw [hnil]
        exact (accounts_drain_iff h.follows hcounts q.1.cursor).trans ⟨fun h _ ↦ h, fun h ↦ h rfl⟩
      · refine iff_of_true ?_ fun h ↦ absurd h hnil
        have hle : q.1.cursor.toNat ≤ q.2.log.length := (h.drained hnil).trans_le h.seen_le
        obtain ⟨hlost, hevents, -⟩ := drain_spec h.follows.keeps (eventHead_toNat h.follows hcounts) hle
        rw [h.drained hnil] at hlost hevents
        exact accounts_append_gap hnone (by omega) hevents

end turn

theorem runFollows_init : RunFollows ({}, {}) :=
  ⟨⟨rfl, rfl, rfl, Keeps.nil⟩, le_rfl, fun _ ↦ rfl, fun h ↦ absurd rfl h⟩

theorem runFollows_run {ts : List SessionTurn} (h : Along turnStep (fun q _ ↦ HeadCounts q) ({}, {}) ts) :
    RunFollows (run turnStep ({}, {}) ts) :=
  run_invariant_of_along runFollows_init (fun _ t hq hcounts ↦ hq.turn hcounts t) h

/-- **Restarts.**  The drains account for the events of each relay exactly when each restart is noticed, as long
as no relay writes 2⁶⁴ events. -/
theorem restarts_hide_nothing_iff (ts : List SessionTurn) (h : Along turnStep (fun q _ ↦ HeadCounts q) ({}, {}) ts) :
    Along turnStep (fun q t ↦ NothingHidden (turnStep q t)) ({}, {}) ts
      ↔ Along turnStep NoticesRestart ({}, {}) ts :=
  along_kept_iff runFollows_init rfl (fun _ t hq hcounts ↦ hq.turn hcounts t)
    (fun _ t hq hcounts hnone ↦ nothingHidden_turn_iff hq hcounts hnone t) h

/-- Six changes and a drain, and a relay that starts again and writes so many more. -/
def restartAround (n : ℕ) : List SessionTurn :=
  (taps 6).map .call ++ [.call .drain, .restart] ++ (taps n).map .call

theorem restarts_hide_nothing_sooner :
    Along turnStep (fun q t ↦ NothingHidden (turnStep q t)) ({}, {}) (restartAround 1 ++ [.call .drain]) := by
  refine (restarts_hide_nothing_iff _ (by decide +kernel)).mpr ?_
  refine along_append.mpr ⟨?_, fun _ ↦ .inr (by decide +kernel), trivial⟩
  exact ⟨trivial, trivial, trivial, trivial, trivial, trivial, fun _ ↦ .inl (by decide +kernel), trivial, trivial,
    trivial⟩

/-- The first six of seven changes are hidden. -/
theorem restart_hides_presses :
    ¬ Along turnStep (fun q t ↦ NothingHidden (turnStep q t)) ({}, {}) (restartAround 7 ++ [.call .drain]) := by
  intro h
  have hcounts : Along turnStep (fun q _ ↦ HeadCounts q) ({}, {}) (restartAround 7) := by decide +kernel
  have hmissed : (run turnStep ({}, {}) (restartAround 7)).2.drained = []
      ∧ (run turnStep ({}, {}) (restartAround 7)).1.cursor = 6
      ∧ (run turnStep ({}, {}) (restartAround 7)).2.log.length = 7
      ∧ (run turnStep ({}, {}) (restartAround 7)).2.seen = 0 := by decide +kernel
  have hfollows := runFollows_run hcounts
  have hlast := (along_append.mp h).2.1
  revert hmissed hfollows hlast
  generalize run turnStep ({}, {}) (restartAround 7) = q
  rintro ⟨hdrained, hcursor, hlen, hseen⟩ hfollows hlast
  have hnone : NothingHidden q := by
    rw [NothingHidden, hdrained, hseen]
    rfl
  have hfits : HeadCounts q := by
    rw [HeadCounts, hlen]
    decide
  have hnotices := (nothingHidden_turn_iff hfollows hfits hnone (.call .drain)).mp hlast hdrained
  rw [hcursor, hlen] at hnotices
  exact absurd hnotices (by decide)

end DualSenseMitm.InputFeed
