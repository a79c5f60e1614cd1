import DualSenseMitm.Bluetooth.GapBuckets
import DualSenseMitm.Runs.HeldReports

/-!
# Time without a link

The console's handler measures the time between the reports it sends, and is never told that the link or
the channel went away in between.

* `GapLog` — the gaps that go into what is published, and for each whether the channel stayed open.
* `Relay.measures_step` — a step sends the console at most one report, and measures just that.
* `open_gaps_published` — when only gaps of an open channel are published.
-/

set_option autoImplicit false

namespace DualSenseMitm

open Machine Relay

/-- When a report went to the console. -/
def Output.sentAt? : Output → Option Time
  | .relayed _ _ now => some now
  | _ => none

/-- The reports the console was sent, as far as they are measured.  The log goes by the readings of the clock
that are in the trace, and never looks at the tracker. -/
structure GapLog where
  /-- The last one; not yet when there was none. -/
  last : Time := noTime
  /-- The console's interrupt channel has been closed since. -/
  closed : Bool := false
  /-- When the bucket now open began; not yet when there is none. -/
  opened : Time := noTime
  /-- The gaps of that bucket, and for each whether the channel stayed open. -/
  current : List (Time × Bool) := []
  /-- The gaps of the bucket before, which is the one that is published. -/
  published : List (Time × Bool) := []

namespace Relay

/-- The time between the reports to the console. -/
abbrev gaps (r : Relay) : SendGaps := (r.h .toPlaystation).gaps

/-- When the step sends the console its reports. -/
def sentAt (r : Relay) (i : Input) : List Time := (r.added i).filterMap Output.sentAt?

end Relay

namespace GapLog

/-- A report is sent, and closes a bucket that has been open for a second. -/
def sent (x : GapLog) (now : Time) : GapLog :=
  let gaps := if x.last = noTime then x.current else x.current ++ [(now - x.last, !x.closed)]
  if x.opened = noTime then { last := now, opened := now, current := gaps, published := x.published }
  else if now - x.opened < seconds 1 then
    { last := now, opened := x.opened, current := gaps, published := x.published }
  else { last := now, opened := now, published := gaps }

/-- The reports of the step, and whether the channel is open behind it. -/
def note (x : GapLog) (r : Relay) (i : Input) : GapLog :=
  let y := (r.sentAt i).foldl sent x
  { y with closed := y.closed || (r.step i).dcid .toPlaystation .hidInterrupt == 0 }

/-- A report is sent only while the channel has been open since the one before, and no later behind it than
microseconds are counted. -/
def SendsInTime (q : Relay × GapLog) (i : Input) : Prop :=
  ∀ now ∈ q.1.sentAt i, q.2.last = noTime ∨ q.2.closed = false ∧ now - q.2.last < 2 ^ 32 * 1000

instance (q : Relay × GapLog) (i : Input) : Decidable (SendsInTime q i) :=
  inferInstanceAs (Decidable (∀ _ ∈ _, _))

/-- What is published is about gaps of an open channel, and the worst of them in whole microseconds. -/
structure PublishesOpen (q : Relay × GapLog) : Prop where
  worst : q.1.gaps.doneMax = DualSenseMitm.worst (q.2.published.map Prod.fst)
  count : q.1.gaps.doneCount = UInt32.ofNat (countAbove (milliseconds 100) (q.2.published.map Prod.fst))
  channelOpen : ∀ gap ∈ q.2.published, gap.2 = true
  maxUs : (q.1.gaps.maxUs.toNat : Int) = q.1.gaps.doneMax.tdiv 1000

end GapLog

/-! ## One report -/

namespace GapLog

/-- The gaps that are kept: the channel stayed open, and their microseconds can be counted. -/
def Kept (gaps : List (Time × Bool)) : Prop := ∀ gap ∈ gaps, gap.2 = true ∧ gap.1 < 2 ^ 32 * 1000

/-- The tracker's numbers are those of the log, and what is in the log may be published. -/
structure Follows (g : SendGaps) (x : GapLog) : Prop where
  threshold : g.threshold = milliseconds 100
  bucket : g.bucket = seconds 1
  last : g.last = x.last
  opened : g.bucketStart = x.opened
  worst : g.curMax = DualSenseMitm.worst (x.current.map Prod.fst)
  count : g.curCount = UInt32.ofNat (countAbove (milliseconds 100) (x.current.map Prod.fst))
  doneWorst : g.doneMax = DualSenseMitm.worst (x.published.map Prod.fst)
  doneCount : g.doneCount = UInt32.ofNat (countAbove (milliseconds 100) (x.published.map Prod.fst))
  current : Kept x.current
  published : Kept x.published

variable {g : SendGaps} {x : GapLog}

/-- The gap of a report goes into the log. -/
theorem Follows.noteGap (h : Follows g x) (now : Time) {gaps : List (Time × Bool)}
    (hgaps : gaps = if x.last = noTime then x.current else x.current ++ [(now - x.last, !x.closed)]) :
    g.noteGap now
      = { g with
          last := now
          curMax := DualSenseMitm.worst (gaps.map Prod.fst)
          curCount := UInt32.ofNat (countAbove (milliseconds 100) (gaps.map Prod.fst)) } := by
  unfold SendGaps.noteGap
  by_cases hfirst : x.last = noTime
  · rw [if_pos (h.last.trans hfirst), hgaps, if_pos hfirst, ← h.worst, ← h.count]
  · rw [if_neg (h.last ▸ hfirst), hgaps, if_neg hfirst, List.map_append, List.map_singleton, worst_concat,
      ← h.worst, countAbove, List.countP_append, List.countP_singleton, h.threshold, h.last, h.count, UInt32.ofNat_add]
    by_cases hgap : milliseconds 100 < now - x.last
    · simp [hgap, countAbove]
    · simp [hgap, countAbove]

/-- The log follows the tracker behind a report, if its gap may be published. -/
theorem Follows.sent (h : Follows g x) {now : Time}
    (hnow : x.last = noTime ∨ x.closed = false ∧ now - x.last < 2 ^ 32 * 1000) :
    Follows (g.onSent now) (x.sent now) := by
  obtain ⟨gaps, hgaps⟩ : ∃ gaps, gaps
      = if x.last = noTime then x.current else x.current ++ [(now - x.last, !x.closed)] := ⟨_, rfl⟩
  have hkept : Kept gaps := by
    intro gap hgap
    rw [hgaps] at hgap
    split at hgap
    · exact h.current gap hgap
    · rcases List.mem_append.mp hgap with hgap | hgap
      · exact h.current gap hgap
      · obtain ⟨hopen, htime⟩ := hnow.resolve_left ‹_›
        rw [List.mem_singleton.mp hgap, hopen]
        exact ⟨rfl, htime⟩
  unfold SendGaps.onSent GapLog.sent
  rw [h.noteGap now hgaps, ← hgaps]
  dsimp only
  rw [h.opened, h.bucket]
  by_cases hopened : x.opened = noTime
  · rw [if_pos hopened, if_pos hopened]
    exact ⟨h.threshold, rfl, rfl, rfl, rfl, rfl, h.doneWorst, h.doneCount, hkept, h.published⟩
  · rw [if_neg hopened, if_neg hopened]
    by_cases hfull : now - x.opened < seconds 1
    · rw [if_pos hfull, if_pos hfull]
      exact ⟨h.threshold, rfl, rfl, rfl, rfl, rfl, h.doneWorst, h.doneCount, hkept, h.published⟩
    · rw [if_neg hfull, if_neg hfull]
      exact ⟨h.threshold, rfl, rfl, rfl, rfl, rfl, rfl, rfl, fun _ hgap ↦ absurd hgap List.not_mem_nil, hkept⟩

/-- The worst of some gaps is none of the longer ones. -/
theorem worst_lt {gaps : List (Time × Bool)} (h : Kept gaps) :
    0 ≤ DualSenseMitm.worst (gaps.map Prod.fst) ∧ DualSenseMitm.worst (gaps.map Prod.fst) < 2 ^ 32 * 1000 := by
  induction gaps using List.reverseRecOn with
  | nil => exact ⟨le_rfl, by decide⟩
  | append_singleton gaps gap ih =>
    obtain ⟨hpos, hlt⟩ := ih fun gap' hgap' ↦ h gap' (List.mem_append_left _ hgap')
    have hgap := (h gap (List.mem_append_right _ (List.mem_singleton_self gap))).2
    rw [List.map_append, List.map_singleton, worst_concat]
    exact ⟨hpos.trans (le_max_left _ _), max_lt hlt hgap⟩

theorem Follows.publishesOpen {r : Relay} (h : Follows r.gaps x) : PublishesOpen (r, x) := by
  obtain ⟨hpos, hlt⟩ := worst_lt h.published
  rw [← h.doneWorst] at hpos hlt
  refine ⟨h.doneWorst, h.doneCount, fun gap hgap ↦ (h.published gap hgap).1, ?_⟩
  have hus : r.gaps.doneMax.tdiv 1000 = r.gaps.doneMax / 1000 := Int.tdiv_eq_ediv_of_nonneg hpos
  have hus0 : 0 ≤ r.gaps.doneMax / 1000 := Int.ediv_nonneg hpos (by decide)
  have huslt : (r.gaps.doneMax / 1000).toNat < 2 ^ 32 :=
    (Int.toNat_lt hus0).mpr (Int.ediv_lt_of_lt_mul (by decide) hlt)
  show ((SendGaps.maxUs r.gaps).toNat : Int) = r.gaps.doneMax.tdiv 1000
  rw [SendGaps.maxUs, hus, UInt32.toNat_ofNat', Nat.mod_eq_of_lt huslt, Int.toNat_of_nonneg hus0]

end GapLog

/-! ## One step -/

namespace Relay

variable {r r' r'' : Relay}

/-- The console is sent nothing, and nothing is measured. -/
def SendsNothing (r r' : Relay) : Prop :=
  r'.gaps = r.gaps ∧ ∃ new, r'.out = r.out ++ new ∧ new.filterMap Output.sentAt? = []

/-- The console is sent a report, and it is measured at the time it is sent. -/
def SendsReport (r r' : Relay) : Prop :=
  ∃ now, r'.gaps = r.gaps.onSent now ∧ ∃ new, r'.out = r.out ++ new ∧ new.filterMap Output.sentAt? = [now]

theorem SendsNothing.of_within {A : Set Aspect} (h : Performs (Op.Within A) r r') (hA : ∀ s, .relaying s ∉ A)
    (hM : .measuring ∉ A) : SendsNothing r r' := by
  obtain ⟨new, hout, hnew⟩ := h.out
  refine ⟨gaps_eq h .toPlaystation (hA _) hM, new, hout, List.filterMap_eq_nil_iff.mpr fun o ho ↦ ?_⟩
  cases o with
  | relayed report flushed now => exact absurd ((hnew _ ho).within rfl rfl) (not_exists.mpr hA)
  | _ => rfl

theorem SendsNothing.of_quiet (h : Performs Op.Quiet r r') : SendsNothing r r' :=
  .of_within (A := ∅) h.within (by simp) (by simp)

theorem SendsNothing.trans (h : SendsNothing r r') (h' : SendsNothing r' r'') : SendsNothing r r'' := by
  obtain ⟨hgaps, new, hout, hnew⟩ := h
  obtain ⟨hgaps', new', hout', hnew'⟩ := h'
  refine ⟨hgaps'.trans hgaps, new ++ new', by rw [hout', hout, List.append_assoc], ?_⟩
  rw [List.filterMap_append, hnew, hnew', List.append_nil]

theorem SendsReport.behind (h : SendsNothing r r') (h' : SendsReport r' r'') : SendsReport r r'' := by
  obtain ⟨hgaps, new, hout, hnew⟩ := h
  obtain ⟨now, hgaps', new', hout', hnew'⟩ := h'
  refine ⟨now, by rw [hgaps', hgaps], new ++ new', by rw [hout', hout, List.append_assoc], ?_⟩
  rw [List.filterMap_append, hnew, hnew', List.nil_append]

theorem SendsReport.before (h : SendsReport r r') (h' : SendsNothing r' r'') : SendsReport r r'' := by
  obtain ⟨now, hgaps, new, hout, hnew⟩ := h
  obtain ⟨hgaps', new', hout', hnew'⟩ := h'
  refine ⟨now, by rw [hgaps', hgaps], new ++ new', by rw [hout', hout, List.append_assoc], ?_⟩
  rw [List.filterMap_append, hnew, hnew', List.append_nil]

/-- A report is measured at the reading of the clock that its mark has. -/
theorem gaps_noteInputSent (r : Relay) : (r.noteInputSent .toPlaystation).gaps
    = r.gaps.onSent (r.noteInputSent .toPlaystation).lastReading := by
  simp [gaps, noteInputSent]
  rfl

/-- A report that has been measured goes out. -/
theorem sendsReport_sendReportToConsole (hgaps : r'.gaps = r.gaps.onSent r'.lastReading) (hout : r'.out = r.out)
    (report : List UInt8) (flushed : Bool) :
    SendsReport r (r'.sendReportToConsole .toPlaystation report flushed) := by
  have hmark : SendsReport r (r'.emit (.relayed report flushed r'.lastReading)) := by
    refine ⟨r'.lastReading, hgaps, [.relayed report flushed r'.lastReading], ?_, rfl⟩
    rw [out_emit, hout]
  exact hmark.before (.of_within (forwards_sendReportToConsole r' .toPlaystation report flushed) (by simp) (by simp))

/-- At most one report, and what is measured is that one. -/
def Measures (r r' : Relay) : Prop := SendsNothing r r' ∨ SendsReport r r'

theorem Measures.behind (h : SendsNothing r r') (h' : Measures r' r'') : Measures r r'' :=
  h'.imp h.trans (SendsReport.behind h)

theorem Measures.before (h : Measures r r') (h' : SendsNothing r' r'') : Measures r r'' :=
  h.imp (fun hr ↦ hr.trans h') fun hr ↦ hr.before h'

theorem sendsNothing_afterRoom (r : Relay) : SendsNothing r (r.afterRoom .toPlaystation) :=
  .of_within (A := {.credits .toPlaystation}) (within_afterRoom r _ (.inl (by rfl))) (by simp) (by simp)

theorem sendsNothing_onHeld (r : Relay) (f : HeldFrame → HeldFrame) :
    SendsNothing r (r.onHeld .toPlaystation f) :=
  ⟨by simp [gaps], [], by simp, rfl⟩

/-- A report of the pad. -/
theorem measures_relayPadInput (r : Relay) (report : List UInt8) :
    Measures r (r.relayPadInput .toDualsense report) := by
  have hmark : ∀ consoleOpen, SendsNothing r (r.emit (.padInput report consoleOpen)) := fun _ ↦
    ⟨rfl, [_], out_emit r _, rfl⟩
  have hquiet := fun a ↦ (quiet_publishInput a .toDualsense report).trans
    (quiet_relayPadInputToUsb _ .toDualsense report)
  unfold relayPadInput
  extract_lets r₂
  refine Measures.behind ((hmark _).trans (.of_quiet (hquiet r₂))) ?_
  generalize (r₂.publishInput .toDualsense report).relayPadInputToUsb .toDualsense report = r₀
  unfold relayPadInputToConsole
  extract_lets r₁
  have h₁ : SendsNothing r₀ r₁ := .of_quiet (quiet_onChannels r₀ _ fun _ ↦ ⟨rfl, rfl⟩)
  have hroom := h₁.trans (sendsNothing_afterRoom r₁)
  split
  · split
    · exact .inl (h₁.trans (.of_quiet (quiet_onStreams r₁ _ fun _ ↦ by rfl)))
    · split
      · have hcleared := hroom.trans (sendsNothing_onHeld _ fun h ↦ h.clear)
        refine .inr (.behind hcleared (sendsReport_sendReportToConsole (gaps_noteInputSent _) ?_ _ _))
        simp [noteInputSent]
      · exact .inl ((hroom.trans (.of_quiet (quiet_onStreams _ _ fun _ ↦ by rfl))).trans
          (sendsNothing_onHeld _ _))
  · exact .inl (.of_quiet (.refl r₀))

/-- A buffer returns. -/
theorem measures_flushHeldReport (r : Relay) (hidle : r.PadSideIdle) (s : ConnectionSide) :
    Measures r (r.flushHeldReport s) := by
  cases s with
  | toDualsense =>
    rw [flushHeldReport, if_neg (by rw [hidle]; decide)]
    exact .inl (.of_quiet (.refl r))
  | toPlaystation =>
    unfold flushHeldReport
    extract_lets r₁
    have h₁ : SendsNothing r r₁ := sendsNothing_afterRoom r
    split
    · split
      · split
        · exact .inl (h₁.trans (sendsNothing_onHeld r₁ _))
        · split
          · have hcleared := h₁.trans (sendsNothing_onHeld r₁ fun h ↦ h.clear)
            have hsent := gaps_noteInputSent (r₁.onHeld .toPlaystation fun h ↦ h.clear)
            refine .inr (.behind hcleared (sendsReport_sendReportToConsole ?_ ?_ _ _))
            · generalize (r₁.onHeld .toPlaystation fun h ↦ h.clear).noteInputSent .toPlaystation = r₂ at hsent ⊢
              exact hsent
            · simp [noteInputSent]
          · exact .inl h₁
      · exact .inl h₁
    · exact .inl (.of_quiet (.refl r))

/-- **What one step measures.** -/
theorem measures_step (r : Relay) (hidle : r.PadSideIdle) (i : Input) : Measures r (r.step i) :=
  relaying_step (Q := SendsNothing) (R := Measures) SendsNothing.of_within .inl Measures.behind Measures.before
    measures_relayPadInput measures_flushHeldReport r hidle i

end Relay

/-! ## A run -/

namespace GapLog

variable {x : GapLog} {r : Relay} {i : Input}

theorem Follows.closed {g : SendGaps} (h : Follows g x) (b : Bool) : Follows g { x with closed := b } :=
  { h with }

/-- The log follows the tracker over a step that sends in time. -/
theorem Follows.step (hidle : r.PadSideIdle) (h : Follows r.gaps x) (hi : SendsInTime (r, x) i) :
    Follows (r.step i).gaps (x.note r i) := by
  rcases measures_step r hidle i with ⟨hgaps, new, hout, hnew⟩ | ⟨now, hgaps, new, hout, hnew⟩
  · have hnone : r.sentAt i = [] := by rw [sentAt, added_eq hout, hnew]
    rw [note, hnone, hgaps]
    exact h.closed _
  · have hone : r.sentAt i = [now] := by rw [sentAt, added_eq hout, hnew]
    have hnow := hi now (hone ▸ List.mem_singleton_self now)
    rw [note, hone, hgaps]
    exact (h.sent hnow).closed _

end GapLog

/-- **When time without a link is no gap.**  In a run in which the console is sent each report only while
its interrupt channel has been open since the one before, and within 2³² microseconds of it, what is
published is about gaps of an open channel, and the worst of them in whole microseconds. -/
theorem open_gaps_published (c : Config) (is : List Input)
    (h : Along (withHistory Relay.step GapLog.note) GapLog.SendsInTime (.init c, {}) is) :
    GapLog.PublishesOpen (run (withHistory Relay.step GapLog.note) (.init c, {}) is) := by
  let Inv (q : Relay × GapLog) := q.1.PadSideIdle ∧ GapLog.Follows q.1.gaps q.2
  have hstart : Inv (.init c, {}) :=
    ⟨rfl, rfl, rfl, rfl, rfl, rfl, rfl, rfl, rfl, fun _ hgap ↦ absurd hgap List.not_mem_nil,
      fun _ hgap ↦ absurd hgap List.not_mem_nil⟩
  have hrun : Inv (run (withHistory Relay.step GapLog.note) (.init c, {}) is) :=
    run_invariant_of_along hstart
      (fun q i hq hi ↦ ⟨Relay.padSideIdle_step q.1 hq.1 i, hq.2.step hq.1 hi⟩) h
  exact hrun.2.publishesOpen

/-- Every reading of the clock is a second later. -/
def Config.everySecond : Config := { Config.session with env := { clock := fun n ↦ seconds (n + 1) } }

/-- The console has opened its channel, and the pad has sent a report. -/
def Input.oneReport : List Input :=
  Input.bothLinked
    ++ [.bufferSize 8, .openChannel .toPlaystation 2 Channel.hidInterrupt.psm 0x40, .stateReport]

/-- Two reports behind each other. -/
theorem open_gaps_published_pair :
    GapLog.PublishesOpen (run (withHistory Relay.step GapLog.note) (.init .everySecond, {})
      (Input.oneReport ++ [.stateReport])) :=
  open_gaps_published .everySecond _ (by decide +kernel)

/-- The console is gone behind the first report, calls again and opens its channel, and is sent another. -/
def Input.consoleCallsAgain : List Input :=
  Input.oneReport ++ [.hangUp .toPlaystation 2 0x08] ++ Input.incomingCall .toPlaystation ⟨7, 7, 7, 7, 7, 7⟩ 3
    ++ [.openChannel .toPlaystation 3 Channel.hidInterrupt.psm 0x41, .stateReport]

/-- The time without a link is published as the worst gap. -/
theorem absence_published :
    ¬ ∀ c is, GapLog.PublishesOpen (run (withHistory Relay.step GapLog.note) (.init c, {}) is) := by
  intro h
  have hopen := (h .everySecond Input.consoleCallsAgain).channelOpen
  have hgap : (seconds 6, false)
      ∈ (run (withHistory Relay.step GapLog.note) (.init .everySecond, {}) Input.consoleCallsAgain).2.published := by
    decide +kernel
  exact absurd (hopen _ hgap) (by decide)

end DualSenseMitm
