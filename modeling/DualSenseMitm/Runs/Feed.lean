import DualSenseMitm.Input.InputView
import DualSenseMitm.Input.PressLog
import DualSenseMitm.Runs.Accounts
import DualSenseMitm.Runs.ReportFormats

/-!
# From the pad to the press log

What the pad sends on its interrupt channel reaches a viewer through the feed: the relay publishes each of
the pad's state reports once and in order, the writer puts every change of the buttons into its ring, and a
viewer that is told of no loss logs the presses and releases that were in the reports.

* `state_reports_published` — what the relay publishes.
* `presses_reach_the_log` — what the viewer logs of it.
-/

set_option autoImplicit false

namespace DualSenseMitm

open Bytes Machine InputFeed

/-! ## What is published -/

/-- The body of a report that is published. -/
def Output.body? : Output → Option (List UInt8)
  | .published body _ => some body
  | _ => none

theorem published_iff {report : List UInt8} : Published report ↔ IsStateReport report := by
  have hstate : carriesControllerState report = true ↔ report.length = 79 ∧ byteAt report 2 &&& 0x01 ≠ 0 := by
    rw [carriesControllerState, Bool.and_eq_true, beq_iff_eq, bne_iff_ne]
    rfl
  constructor
  · rintro ⟨-, hheader, hid, hcarries⟩
    exact ⟨(hstate.mp hcarries).1, hheader, hid, (hstate.mp hcarries).2⟩
  · rintro ⟨hsize, hheader, hid, hhas⟩
    exact ⟨le_of_eq hsize.symm, hheader, hid, hstate.mpr ⟨hsize, hhas⟩⟩

/-- The body of a state report. -/
def bodyOf (report : List UInt8) : List UInt8 := slice report BT_BODY_OFF INPUT_BODY_LEN

/-- What is published of what an input brings. -/
def Brought.bodies : Brought → List (List UInt8)
  | .payload .toDualsense report => if IsStateReport report then [bodyOf report] else []
  | _ => []

theorem TallyStep.bodies {opened : ConnectionSide → Bool} {t u : Tally} {brought : Brought}
    (h : TallyStep opened t brought u) :
    u.shown.filterMap Output.body? = t.shown.filterMap Output.body? ++ brought.bodies := by
  have hput : ∀ {v w : Tally} {os : List Output}, w.shown = v.shown ++ os → os.filterMap Output.body? = [] →
      w.shown.filterMap Output.body? = v.shown.filterMap Output.body? := by
    intro v w os hw hos
    rw [hw, List.filterMap_append, hos, List.append_nil]
  have hsame : u.shown = t.shown → brought.bodies = [] →
      u.shown.filterMap Output.body? = t.shown.filterMap Output.body? ++ brought.bodies := by
    intro hshown hnone
    rw [hshown, hnone, List.append_nil]
  cases h with
  | snapshot | flushed | detaching => exact (hput rfl rfl).trans (List.append_nil _).symm
  | @input report link v _ hcable hconsole =>
    have hpublished : (if Published report then [Output.published (bodyOf report) link] else []).filterMap Output.body?
        = Brought.bodies (.payload .toDualsense report) := by
      rw [Brought.bodies, if_congr published_iff rfl rfl]
      split <;> rfl
    have hmid : ((t.put [.padInput report (opened .toPlaystation)]).put
        (if Published report then [.published (bodyOf report) link] else [])).shown.filterMap Output.body?
        = t.shown.filterMap Output.body? ++ Brought.bodies (.payload .toDualsense report) := by
      show ((t.shown ++ [Output.padInput report (opened .toPlaystation)]) ++ ite _ _ _).filterMap Output.body? = _
      rw [List.filterMap_append, List.filterMap_append, hpublished]
      exact congrArg (· ++ _) (List.append_nil _)
    have hv : v.shown.filterMap Output.body?
        = t.shown.filterMap Output.body? ++ Brought.bodies (.payload .toDualsense report) := by
      rw [← hmid]
      cases hcable with
      | none => rfl
      | sent => exact hput rfl rfl
    rw [← hv]
    revert hconsole
    generalize opened .toPlaystation = b
    intro hconsole
    cases hconsole with
    | sent => exact hput rfl rfl
    | _ => rfl
  | output h =>
    revert h
    generalize opened .toDualsense = b
    intro h
    cases h <;> exact hsame rfl rfl
  | events _ h =>
    have hshown : u.shown = t.shown := by
      clear hsame
      induction h with
      | refl => rfl
      | tail _ hmove ih => cases hmove <;> exact ih
    exact hsame hshown rfl
  | enabling _ h => cases h <;> exact hsame rfl rfl
  | _ => exact hsame rfl rfl

/-- The payloads of the pad so far. -/
def padPayloads (xs : List (List UInt8)) (r : Relay) (i : Input) : List (List UInt8) :=
  xs ++ (r.inputOf (r.cause i)).toList

namespace Relay

theorem bodies_broughtBy (r : Relay) (cause : Cause) :
    (r.broughtBy cause).bodies = ((r.inputOf cause).toList.filter fun report ↦ IsStateReport report).map bodyOf := by
  cases cause with
  | acl s p =>
    show ((r.payloadOf (.acl s p)).elim .other fun p ↦ onInterrupt p.1 p.2.1 p.2.2).bodies = _
    rw [inputOf]
    cases r.payloadOf (.acl s p) with
    | none => rfl
    | some q =>
      obtain ⟨t, cid, data⟩ := q
      rw [Option.elim, onInterrupt]
      cases t with
      | toPlaystation => by_cases hcid : cid = Channel.hidInterrupt.scid <;> simp [hcid, Brought.bodies]
      | toDualsense =>
        by_cases hcid : cid = Channel.hidInterrupt.scid
        · by_cases hstate : IsStateReport data <;> simp [hcid, Brought.bodies, hstate]
        · simp [hcid, Brought.bodies]
  | _ => rfl

end Relay

/-- What is published over a run. -/
theorem bodies_run (cfg : Config) (is : List Input) :
    let p := run (withHistory Relay.step padPayloads) (.init cfg, []) is
    p.1.out.filterMap Output.body? = (p.2.filter fun report ↦ IsStateReport report).map bodyOf := by
  intro p
  have hinv : p.1.Steady ∧ p.1.tally.shown.filterMap Output.body?
      = (p.2.filter fun report ↦ IsStateReport report).map bodyOf := by
    refine @run_invariant _ _ _ (fun q : Relay × List (List UInt8) ↦ q.1.Steady ∧
      q.1.tally.shown.filterMap Output.body? = (q.2.filter fun report ↦ IsStateReport report).map bodyOf) _ is
      ⟨Relay.steady_init cfg, rfl⟩ fun q i ⟨hsteady, hbodies⟩ ↦ ⟨hsteady.step i, ?_⟩
    show (q.1.step i).tally.shown.filterMap Output.body? = ((padPayloads q.2 q.1 i).filter _).map bodyOf
    rw [(hsteady.tallyStep i).bodies, hbodies, Relay.bodies_broughtBy, padPayloads, List.filter_append,
      List.map_append]
  rw [← hinv.2]
  show _ = (p.1.out.filter Output.isShown).filterMap Output.body?
  rw [List.filterMap_filter]
  refine List.filterMap_congr fun o _ ↦ ?_
  cases o <;> rfl

/-- **Each state report is published once.**  In every run the bodies the relay has published are those of
the pad's state reports, in the order in which they came: none is left out, none twice, and none of its
opaque stream among them. -/
theorem state_reports_published (cfg : Config) (is : List Input) :
    let p := run (withHistory Relay.step padPayloads) (.init cfg, []) is
    p.1.out.filterMap Output.body? = (p.2.filter fun report ↦ IsStateReport report).map bodyOf :=
  bodies_run cfg is

/-! ## What a viewer logs -/

/-- A body as it lies in the page. -/
def toBody (body : List UInt8) : Body := fun i ↦ byteAt body i

/-- What the relay writes into the page. -/
inductive FeedWrite
  | report (body : Body) (link : LinkSnapshot)
  | link (link : LinkSnapshot)

def Output.feedWrite? : Output → Option FeedWrite
  | .published body link => some (.report (toBody body) link)
  | .publishedLink link => some (.link link)
  | _ => none

/-- What a call writes, its times apart. -/
def callWrite? : Call → Option FeedWrite
  | .publish body link .. => some (.report body link)
  | .publishLink link => some (.link link)
  | .drain => none

/-- The buttons that are written. -/
def FeedWrite.buttons? : FeedWrite → Option UInt32
  | .report body _ => some (packButtons body)
  | .link _ => none

theorem published_eq (calls : List Call) :
    published calls = (calls.filterMap callWrite?).filterMap FeedWrite.buttons? := by
  rw [published, List.filterMap_filterMap]
  refine List.filterMap_congr fun c _ ↦ ?_
  cases c <;> rfl

/-- The buttons of the pad's state reports. -/
def buttonsOf (payloads : List (List UInt8)) : List UInt32 :=
  (payloads.filter fun report ↦ IsStateReport report).map fun report ↦ packButtons (toBody (bodyOf report))

theorem buttons_run (cfg : Config) (is : List Input) :
    let p := run (withHistory Relay.step padPayloads) (.init cfg, []) is
    (p.1.out.filterMap Output.feedWrite?).filterMap FeedWrite.buttons? = buttonsOf p.2 := by
  intro p
  have hbodies := congrArg (List.map fun body ↦ packButtons (toBody body)) (bodies_run cfg is)
  rw [List.map_map] at hbodies
  refine Eq.trans ?_ hbodies
  rw [List.filterMap_filterMap, List.map_filterMap]
  refine List.filterMap_congr fun o _ ↦ ?_
  cases o <;> rfl

theorem entries_handed (ds : List Drained) : RingLog.entries (handed ds) = ds.flatMap Drained.events := by
  induction ds with
  | nil => rfl
  | cons d ds ih =>
    rw [List.flatMap_cons, ← ih]
    show RingLog.entries ((.lost d.lost.toNat :: d.events.map .entry) ++ handed ds) = _
    rw [RingLog.entries, List.filterMap_append, List.filterMap_cons_none rfl, List.filterMap_map]
    exact congrArg (· ++ _) List.filterMap_some

/-- A session that was told of no loss, and has drained the ring at its end, was handed the whole log. -/
theorem events_of_lossless {calls : List Call} (hend : calls.getLast? = some .drain)
    (hfew : (changes 0 (published calls)).length < 2 ^ 64)
    (hnone : ∀ d ∈ (run (withHistory Session.step PressLog.note) ({}, {}) calls).1.drained, d.lost = 0) :
    (run (withHistory Session.step PressLog.note) ({}, {}) calls).1.drained.flatMap Drained.events
      = (run (withHistory Session.step PressLog.note) ({}, {}) calls).2.log := by
  have haccounts := (drains_and_counts hfew).2.accounts
  generalize hq : run (withHistory Session.step PressLog.note) ({}, {}) calls = q at hnone haccounts ⊢
  have hseen : q.2.seen = q.2.log.length := by
    obtain ⟨before, hbefore⟩ := List.getLast?_eq_some_iff.mp hend
    rw [← hq, hbefore, run_concat]
    generalize run (withHistory Session.step PressLog.note) ({}, {}) before = q₀
    have hnothing : written q₀.1.writer q₀.1.writer = [] := if_pos rfl
    show q₀.2.log.length = (q₀.2.log ++ written q₀.1.writer q₀.1.writer).length
    rw [hnothing, List.append_nil]
  rw [hseen, List.take_length] at haccounts
  rw [← entries_handed]
  refine haccounts.eq_entries fun k hk ↦ ?_
  obtain ⟨d, hd, hmem⟩ := List.mem_flatMap.mp hk
  rcases List.mem_cons.mp hmem with hlost | hentry
  · rw [RingLog.Handed.lost.inj hlost, hnone d hd]
    rfl
  · obtain ⟨e, -, he⟩ := List.mem_map.mp hentry
    cases he

/-- **The presses reach the log.**  Take any run of the relay, any times at which it writes the feed, and any
drains in between of a viewer that attached before the first event and held `start` then.  The buttons of the
pad's state reports take their values one after another, the first that differs from none pressed to begin
with.  If these are fewer than the ring can number, no drain says that something was lost and the last one
comes behind the last report, then the lines of the viewer's log are exactly the changes from `start` through
these values, and it shows the last of them, or `start` where there is none. -/
theorem presses_reach_the_log (cfg : Config) (is : List Input) (calls : List Call) (start : UInt32)
    (hcalls : calls.filterMap callWrite? = (run Relay.step (.init cfg) is).out.filterMap Output.feedWrite?)
    (hend : calls.getLast? = some .drain)
    (hnone : ∀ d ∈ (run (withHistory Session.step PressLog.note) ({}, {}) calls).1.drained, d.lost = 0) :
    let p := run (withHistory Relay.step padPayloads) (.init cfg, []) is
    let values := changes 0 (buttonsOf p.2)
    let panel := panelBehind start
      ((run (withHistory Session.step PressLog.note) ({}, {}) calls).1.drained.flatMap Drained.events)
    values.length < 2 ^ 64 →
      panel.lines.map Line.mark = ToggleLog.log keys (holds start) (values.map holds)
        ∧ panel.held = values.getLastD start := by
  intro p values panel hfew
  have hp : p.1 = run Relay.step (.init cfg) is := run_withHistory_fst Relay.step padPayloads _ is
  have hpublished : published calls = buttonsOf p.2 := by
    rw [published_eq, hcalls, ← hp]
    exact buttons_run cfg is
  have hlog := (follows calls).values
  rw [hpublished] at hlog
  have hevents := events_of_lossless hend (by rw [hpublished]; exact hfew) hnone
  have hshown : panel = panelBehind start (run (withHistory Session.step PressLog.note) ({}, {}) calls).2.log :=
    congrArg (panelBehind start) hevents
  generalize (run (withHistory Session.step PressLog.note) ({}, {}) calls).2.log = events at hlog hshown
  rw [hshown]
  refine ⟨?_, ?_⟩
  · have hholds : values.map holds = events.map fun e ↦ holds e.buttons := by
      show (changes 0 (buttonsOf p.2)).map holds = _
      rw [← hlog, List.map_map]
      rfl
    rw [hholds]
    exact (shows_panelBehind start events).lines
  · rw [held_panelBehind, hlog]

/-- A report with the d-pad let go and these buttons beside it. -/
def Input.buttons (b : UInt8) : Input :=
  .data .toDualsense 1 Channel.hidInterrupt.scid
    ([HIDP_DATA_INPUT, REPORT_BT, 0x01] ++ List.replicate 7 0 ++ [0x08 ||| b] ++ List.replicate 68 0)

/-- The calls a trace stands for, by a clock that stands still, and one drain behind them. -/
def drainedOnce (out : List Output) : List Call :=
  out.filterMap (fun
    | .published body link => some (.publish (toBody body) link 0 0)
    | .publishedLink link => some (.publishLink link)
    | _ => none) ++ [.drain]

theorem writes_drainedOnce (out : List Output) :
    (drainedOnce out).filterMap callWrite? = out.filterMap Output.feedWrite? := by
  rw [drainedOnce, List.filterMap_append, List.filterMap_filterMap]
  refine (List.append_nil _).trans (List.filterMap_congr fun o _ ↦ ?_)
  cases o <;> rfl

/-- Cross is pressed and let go while the console is there. -/
theorem presses_reach_the_log_cross :
    let r := run Relay.step (.init .session) (Input.bothLinked ++ [.buttons 0x20, .buttons 0])
    let events := (run (withHistory Session.step PressLog.note) ({}, {}) (drainedOnce r.out)).1.drained.flatMap
      Drained.events
    (panelBehind 0 events).lines.map Line.mark = [⟨.cross, true⟩, ⟨.cross, false⟩] := by
  intro r events
  have hlog := presses_reach_the_log .session (Input.bothLinked ++ [.buttons 0x20, .buttons 0]) (drainedOnce r.out) 0
    (writes_drainedOnce r.out) (List.getLast?_concat ..) (by decide +kernel) (by decide +kernel)
  exact hlog.1.trans (by decide +kernel)

end DualSenseMitm
