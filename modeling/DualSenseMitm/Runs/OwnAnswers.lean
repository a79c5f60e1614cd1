import DualSenseMitm.Lib.Outstanding
import DualSenseMitm.Runs.GetReports

/-!
# Whose answer completes a GET_REPORT

The pad's answers carry a report id and nothing else, and whatever answer of the right id comes first
completes the GET_REPORT that waits.  That it is the answer to this very GET_REPORT depends on what
else the pad still owes.

* `Exchange` — the reads sent to the pad, numbered, until the pad answers them in their order.
* `Exchange.Fresh` — a GET_REPORT is read only when the pad owes no answer of its report.
* `own_answer_completes` — then it is completed by its own answer.
-/

set_option autoImplicit false

namespace DualSenseMitm

open Bytes Machine Relay

/-! ## What the pad owes -/

/-- A read of a feature report sent to the pad, whose control channel ends in `cid`. -/
def Output.padRead? (cid : UInt16) : Output → Option UInt8
  | .acl .toDualsense frame true _ =>
    if le16 frame 7 = cid ∧ byteAt frame 9 = HIDP_GET_FEATURE then some (byteAt frame 10) else none
  | _ => none

namespace Relay

/-- The feature answer of the pad a cause brings. -/
def answeredBy (r : Relay) : Cause → Option UInt8
  | .acl s p => r.answered s p
  | _ => none

/-- The feature answer of the pad an input brings. -/
def answerOf (r : Relay) (i : Input) : Option UInt8 := r.answeredBy (r.cause i)

/-- The reads a step sends to the pad. -/
def readsOf (r : Relay) (i : Input) : List UInt8 :=
  (r.newOutputs i).filterMap (Output.padRead? (r.dcid .toDualsense .hidControl))

end Relay

/-- The reads sent to the pad. -/
structure Exchange where
  /-- The reports the pad owes an answer of. -/
  owed : Outstanding UInt8 := .empty
  /-- The number of the next read when the GET_REPORT that waits was read. -/
  since : ℕ := 0
  /-- The read of that GET_REPORT was sent, under the number `since`. -/
  sent : Bool := false

namespace Exchange

/-- The pad answers the oldest read. -/
def noteAnswer (x : Exchange) : Option UInt8 → Exchange
  | none => x
  | some _ => { x with owed := x.owed.answer }

/-- A GET_REPORT is read from ep0. -/
def noteGet (x : Exchange) (reads : List UInt8) : Option PendingGet → Option PendingGet → Exchange
  | none, some get => { x with since := x.owed.next, sent := reads.head? = some get.reportId }
  | _, _ => x

/-- Reads are sent to the pad. -/
def noteReads (x : Exchange) (reads : List UInt8) : Exchange := { x with owed := x.owed.send reads }

def note (x : Exchange) (r : Relay) (i : Input) : Exchange :=
  let reads := r.readsOf i
  ((x.noteAnswer (r.answerOf i)).noteGet reads r.usb.pendingGet (r.step i).usb.pendingGet).noteReads
    reads

/-- The pad answers what it was asked, in order. -/
def InOrder (x : Exchange) (r : Relay) (i : Input) : Prop :=
  match r.answerOf i with
  | none => True
  | some id => x.owed.oldest.map Prod.fst = some id

/-- A GET_REPORT that must reach the pad is read only when the pad owes no answer of its report. -/
def Fresh (x : Exchange) (r : Relay) : Input → Prop
  | .ep0 events =>
    r.usb.pendingGet = none → ∀ get ∈ events.filterMap UsbEvent.getReport?,
      isCacheableFeature get.reportId = false → get.reportId ∉ x.owed.waiting.map Prod.fst
  | _ => True

/-- A GET_REPORT that must reach the pad, and that an answer completes, is completed by the answer to
no earlier read, and by the one to its own if that was sent. -/
def OwnAnswer (x : Exchange) (r : Relay) (i : Input) : Prop :=
  ∀ get, r.usb.pendingGet = some get → isCacheableFeature get.reportId = false →
    (r.answerOf i).isSome → (r.step i).usb.pendingGet = none →
      ∃ n, x.owed.oldest = some (get.reportId, n) ∧ x.since ≤ n ∧ (x.sent = true → n = x.since)

instance (x : Exchange) (r : Relay) (i : Input) : Decidable (x.InOrder r i) := by
  unfold InOrder; split <;> infer_instance

instance (x : Exchange) (r : Relay) : (i : Input) → Decidable (x.Fresh r i)
  | .ep0 _ => inferInstanceAs (Decidable (_ → _))
  | .start _ | .resetTimeout _ | .packet .. | .fire _ | .watch _ | .pollRadio _ | .publishStage
  | .getReportTimeout | .inputDone _ | .outputDone _ | .shutdown => isTrue trivial

end Exchange

/-- The relay and what the pad owes. -/
abbrev exchangeStep : Relay × Exchange → Input → Relay × Exchange := withHistory Relay.step Exchange.note

/-! ## The GET_REPORT that waits -/

namespace Relay

variable {r t : Relay}

/-- An answer completes the GET_REPORT of its report. -/
theorem FeatureMove.pendingGet {id : Option UInt8} (h : FeatureMove r id t) :
    t.usb.pendingGet = r.usb.pendingGet.filter fun get ↦ id ≠ some get.reportId := by
  cases h with
  | kept h =>
    have hkept : t.usb.pendingGet = r.usb.pendingGet :=
      congrArg Prod.fst (reports_eq h reports_notMem_besidesReports)
    rw [hkept]
    cases r.usb.pendingGet <;> rfl
  | answered hr h h' =>
    rename_i a report
    have hpending : a.usb.pendingGet = r.usb.pendingGet :=
      congrArg Prod.fst (reports_eq h reports_notMem_besidesReports)
    have hpending' : t.usb.pendingGet = (a.onFeatureReport report).usb.pendingGet :=
      congrArg Prod.fst (reports_eq h' reports_notMem_besidesReports)
    rw [hpending', ← hpending]
    by_cases hwaits : ∃ get, a.usb.pendingGet = some get ∧ get.reportId = byteAt report 0
    · obtain ⟨get, hget, hid⟩ := hwaits
      have hstored : (a.storeAnswer report).usb.pendingGet = some get := hget
      rw [onFeatureReport_of_eq hr hget hid, (finishGetReport_tells hstored _).2, hget]
      simp [Option.filter, hid]
    · have hne : ∀ get, a.usb.pendingGet = some get → get.reportId ≠ byteAt report 0 :=
        fun get hget hid ↦ hwaits ⟨get, hget, hid⟩
      rw [onFeatureReport_of_ne hr hne]
      change a.usb.pendingGet = _
      cases hget : a.usb.pendingGet with
      | none => rfl
      | some get => simp [Option.filter, Ne.symm (hne get hget)]

/-- Without a read of ep0 the GET_REPORT that waits is completed, cancelled or left alone. -/
theorem pendingGet_step (r : Relay) {i : Input} (hi : ∀ events, i ≠ .ep0 events) :
    match r.answerOf i with
    | some id => (r.step i).usb.pendingGet = r.usb.pendingGet.filter fun get ↦ some id ≠ some get.reportId
    | none => (r.step i).usb.pendingGet = r.usb.pendingGet ∨ (r.step i).usb.pendingGet = none := by
  have hep0 : ∀ events, r.cause i ≠ .ep0 events := fun events h ↦
    hi events (eq_of_gadgetInput? r (congrArg Cause.gadgetInput? h))
  have hm := step_move r i
  have hw := hm.within
  unfold answerOf
  revert hm hw hep0
  generalize r.cause i = c
  generalize r.step i = t
  intro hep0 hm hw
  have hkept : ∀ {A : Set Aspect}, Performs (Op.Within A) r t → .reports ∉ A →
      t.usb.pendingGet = r.usb.pendingGet := fun h hA ↦ congrArg Prod.fst (reports_eq h hA)
  cases hm with
  | acl =>
    rename_i s p
    have hpending := (handleAcl_feature r s p).pendingGet
    unfold answeredBy
    dsimp only
    cases hid : r.answered s p with
    | some id =>
      rw [hid] at hpending
      exact hpending
    | none =>
      rw [hid] at hpending
      refine .inl (hpending.trans ?_)
      cases r.usb.pendingGet <;> rfl
  | ep0 => exact absurd rfl (hep0 _)
  | getReportTimeout =>
    unfold getReportTimeout
    cases hget : r.usb.pendingGet with
    | none => exact .inl hget
    | some get => exact .inr (congrArg UsbHandler.pendingGet (finishGetReport_tells hget _).2)
  | handover hk =>
    rename_i s k
    have hcall := within_connectToConsole (A := {.keys, .calling s.other, .scanning s.other})
      (r.unpark k).disableGadget s.other (by simp) (by simp) (by simp)
      (r.h s).pairing.consoleAddr (r.h s).pairing.consoleLinkKey
    exact .inr (congrArg Prod.fst (reports_eq hcall (by simp)))
  | quiet h hc =>
    cases c with
    | acl s p => exact absurd hc (Set.insert_nonempty _ _).ne_empty
    | _ => exact .inl (hkept (A := ∅) h.within (by simp))
  | _ => exact .inl (hkept hw (by simp [Cause.aspects]))

/-- What waits after a read of ep0 was read there. -/
theorem pendingGet_ep0 {r : Relay} (hidle : r.usb.pendingGet = none) {events : List UsbEvent}
    (hi : (Input.ep0 events).AtMostOneSetup) {get : PendingGet}
    (hget : (r.step (.ep0 events)).usb.pendingGet = some get) :
    get ∈ events.filterMap UsbEvent.getReport? := by
  by_cases hread : r.usb.serving = true ∧ r.usb.pendingGet = none
  · have hstep : r.step (.ep0 events) = events.foldl handleUsbEvent r := if_pos hread
    have hspec := readEvents_tells hidle hi
    rw [← hstep] at hspec
    dsimp only at hspec
    rw [hget] at hspec
    cases hfind : events.findSome? UsbEvent.getReport? with
    | none =>
      rw [hfind] at hspec
      cases hspec
    | some read =>
      rw [hfind] at hspec
      have heq : get = read := by
        rcases hspec with ⟨h, -⟩ | ⟨h, -⟩
        · exact Option.some.inj h
        · cases h
      obtain ⟨e, he, hread⟩ := List.exists_of_findSome?_eq_some hfind
      exact List.mem_filterMap.mpr ⟨e, he, heq ▸ hread⟩
  · have hstep : r.step (.ep0 events) = r := if_neg hread
    rw [hstep, hidle] at hget
    cases hget

end Relay

/-! ## The numbers -/

namespace Exchange

/-- While a GET_REPORT waits that must reach the pad, the pad owes no older answer of its report, and
it owes its own if that was sent. -/
def Owes (x : Exchange) (pending : Option PendingGet) : Prop :=
  x.since ≤ x.owed.next ∧ ∀ get, pending = some get → isCacheableFeature get.reportId = false →
    (∀ n, (get.reportId, n) ∈ x.owed.waiting → x.since ≤ n)
      ∧ (x.sent = true → (get.reportId, x.since) ∈ x.owed.waiting)

variable {x : Exchange} {pending pending' : Option PendingGet}

theorem Owes.of_imp (h : x.Owes pending) (himp : ∀ get, pending' = some get → pending = some get) :
    x.Owes pending' :=
  ⟨h.1, fun get hget ↦ h.2 get (himp get hget)⟩

theorem Owes.noteReads (h : x.Owes pending) (reads : List UInt8) : (x.noteReads reads).Owes pending := by
  refine ⟨h.1.trans (Nat.le_add_right _ _), fun get hget hcache ↦ ⟨fun n hn ↦ ?_, fun hs ↦ ?_⟩⟩
  · rcases x.owed.mem_send.mp hn with hn | hn
    · exact (h.2 get hget hcache).1 n hn
    · exact h.1.trans (List.le_snd_of_mem_zipIdx hn)
  · exact x.owed.mem_send.mpr (.inl ((h.2 get hget hcache).2 hs))

/-- An answer of another report leaves what is owed for the GET_REPORT that waits. -/
theorem Owes.noteAnswer {id : UInt8} (h : x.Owes pending)
    (horder : x.owed.oldest.map Prod.fst = some id)
    (hne : ∀ get, pending = some get → get.reportId ≠ id) : (x.noteAnswer (some id)).Owes pending := by
  obtain ⟨p, hp, rfl⟩ := Option.map_eq_some_iff.mp horder
  refine ⟨h.1, fun get hget hcache ↦ ⟨fun n hn ↦ ?_, fun hs ↦ ?_⟩⟩
  · exact (h.2 get hget hcache).1 n (List.mem_of_mem_tail hn)
  · refine x.owed.mem_answer hp ((h.2 get hget hcache).2 hs) fun heq ↦ hne get hget ?_
    rw [← heq]

/-- A GET_REPORT whose report the pad owes no answer of. -/
theorem owes_noteGet {get : PendingGet} (reads : List UInt8)
    (hfresh : isCacheableFeature get.reportId = false → get.reportId ∉ x.owed.waiting.map Prod.fst) :
    ((x.noteGet reads none (some get)).noteReads reads).Owes (some get) := by
  refine ⟨Nat.le_add_right _ _, fun get' hget hcache ↦ ?_⟩
  obtain rfl := Option.some.inj hget
  refine ⟨fun n hn ↦ ?_, fun hs ↦ x.owed.mem_send_head (of_decide_eq_true hs)⟩
  rcases x.owed.mem_send.mp hn with hn | hn
  · exact absurd (List.mem_map_of_mem hn) (hfresh hcache)
  · exact List.le_snd_of_mem_zipIdx hn

/-- Once nothing waits, nothing is owed to it. -/
theorem owes_none (h : x.since ≤ x.owed.next) : x.Owes none := ⟨h, nofun⟩

/-- A read of ep0 that brings a fresh GET_REPORT, or none. -/
theorem Owes.ep0 {r : Relay} (h : x.Owes r.usb.pendingGet) {events : List UsbEvent}
    (hsetup : (Input.ep0 events).AtMostOneSetup) (hfresh : x.Fresh r (.ep0 events)) :
    (x.note r (.ep0 events)).Owes (r.step (.ep0 events)).usb.pendingGet := by
  have hnote : x.note r (.ep0 events)
      = (x.noteGet (r.readsOf (.ep0 events)) r.usb.pendingGet
          (r.step (.ep0 events)).usb.pendingGet).noteReads (r.readsOf (.ep0 events)) := rfl
  rw [hnote]
  cases hget : r.usb.pendingGet with
  | some get =>
    have hstep : r.step (.ep0 events) = r := if_neg fun hread ↦ by
      rw [hget] at hread
      cases hread.2
    rw [hstep]
    rw [hget] at h ⊢
    exact h.noteReads _
  | none =>
    cases hget' : (r.step (.ep0 events)).usb.pendingGet with
    | none => exact (owes_none h.1).noteReads _
    | some get => exact owes_noteGet _ fun hcache ↦ hfresh hget get (pendingGet_ep0 hget hsetup hget') hcache

/-- What the pad owes after a step, and whose answer completed the GET_REPORT that waited. -/
theorem Owes.step {r : Relay} (h : x.Owes r.usb.pendingGet) {i : Input} (hsetup : i.AtMostOneSetup)
    (horder : x.InOrder r i) (hfresh : x.Fresh r i) :
    (x.note r i).Owes (r.step i).usb.pendingGet ∧ x.OwnAnswer r i := by
  by_cases hep0 : ∃ events, i = .ep0 events
  · obtain ⟨events, rfl⟩ := hep0
    exact ⟨h.ep0 hsetup hfresh, fun _ _ _ hanswer ↦ nomatch hanswer⟩
  have hpending := pendingGet_step r fun events he ↦ hep0 ⟨events, he⟩
  unfold note OwnAnswer
  unfold InOrder at horder
  dsimp only
  generalize (r.step i).usb.pendingGet = pending' at hpending
  generalize r.readsOf i = reads
  generalize hp : r.usb.pendingGet = pending at hpending h
  cases hid : r.answerOf i with
  | none =>
    rw [hid] at hpending
    refine ⟨?_, fun _ _ _ hanswer ↦ nomatch hanswer⟩
    cases pending with
    | none =>
      have hnone : pending' = none := hpending.elim id id
      rw [hnone]
      exact (owes_none h.1).noteReads reads
    | some get =>
      refine Owes.noteReads (Owes.of_imp h fun get' hget' ↦ ?_) reads
      rcases hpending with hsame | hnone
      · rw [← hsame, hget']
      · rw [hnone] at hget'
        cases hget'
  | some id =>
    rw [hid] at hpending horder
    cases pending with
    | none =>
      have hnone : pending' = none := hpending
      rw [hnone]
      exact ⟨Owes.noteReads (x := x.noteAnswer (some id)) (owes_none h.1) reads, nofun⟩
    | some get =>
      by_cases hsame : id = get.reportId
      · have hnone : pending' = none := by simpa [Option.filter, hsame] using hpending
        rw [hnone]
        refine ⟨Owes.noteReads (x := x.noteAnswer (some id)) (owes_none h.1) reads,
          fun get' hget hcache _ _ ↦ ?_⟩
        obtain rfl := Option.some.inj hget
        obtain ⟨p, hp, hpid⟩ := Option.map_eq_some_iff.mp horder
        obtain ⟨holder, hown⟩ := h.2 get rfl hcache
        have hmem : (get.reportId, p.2) ∈ x.owed.waiting := by
          rw [← hsame, ← hpid]
          exact List.mem_of_mem_head? hp
        refine ⟨p.2, by rw [hp, ← hsame, ← hpid], holder p.2 hmem, fun hsent ↦ ?_⟩
        exact Nat.le_antisymm (x.owed.oldest_le hp (hown hsent)) (holder p.2 hmem)
      · have hkept : pending' = some get := by simpa [Option.filter, hsame] using hpending
        rw [hkept]
        refine ⟨Owes.noteReads (h.noteAnswer horder fun get' hget hid' ↦ ?_) reads, nofun⟩
        exact hsame (by rw [← hid', Option.some.inj hget])

end Exchange

/-- **Answers come to their own requests.**  In any run in which the pad answers the reads it is sent
once and in order, and a GET_REPORT that must reach the pad is read only when the pad owes no answer
of its report, every such GET_REPORT that an answer completes is completed by the answer to its own
read, and never by one to an earlier read. -/
theorem own_answer_completes (c : Config) (is : List Input) (hsetup : ∀ i ∈ is, i.AtMostOneSetup)
    (horder : Along exchangeStep (fun p i ↦ p.2.InOrder p.1 i) (.init c, {}) is)
    (hfresh : Along exchangeStep (fun p i ↦ p.2.Fresh p.1 i) (.init c, {}) is) :
    Along exchangeStep (fun p i ↦ p.2.OwnAnswer p.1 i) (.init c, {}) is := by
  have hall : Along exchangeStep
      (fun p i ↦ i.AtMostOneSetup ∧ p.2.InOrder p.1 i ∧ p.2.Fresh p.1 i) (.init c, {}) is :=
    along_and.mpr ⟨along_const.mpr hsetup, along_and.mpr ⟨horder, hfresh⟩⟩
  let Inv (p : Relay × Exchange) : Prop := p.2.Owes p.1.usb.pendingGet
  have hinit : Inv (.init c, {}) := Exchange.owes_none (Nat.le_refl _)
  exact hall.of_invariant hinit fun p i h hok ↦ h.step hok.1 hok.2.1 hok.2.2

/-- The pad connects, opens its control channel, and the gadget comes up. -/
def padUp : List Input :=
  Input.gadgetUp ⟨1, 2, 3, 4, 5, 6⟩ ++ [.openChannel .toDualsense 1 Channel.hidControl.psm 0x41]

/-- The pad's answer to a read of 0xf1. -/
def answerF1 (page : UInt8) : Input :=
  .data .toDualsense 1 Channel.hidControl.scid [HIDP_DATA_FEATURE, 0xf1, page]

theorem own_answer_completes_two :
    Along exchangeStep (fun p i ↦ p.2.OwnAnswer p.1 i) (.init { dsAddr := ⟨1, 2, 3, 4, 5, 6⟩ }, {})
      (padUp ++ [.getReport 0xf1 64, answerF1 0, .getReport 0xf1 64, answerF1 1]) :=
  own_answer_completes _ _ (by decide +kernel) (by decide +kernel) (by decide +kernel)

/-- The timer answers a GET_REPORT of 0xf1, and the next one is read. -/
def beforeLateAnswer : List Input :=
  padUp ++ [.getReport 0xf1 64, .getReportTimeout, .getReport 0xf1 64]

def lateAnswer : Relay × Exchange :=
  run exchangeStep (.init { dsAddr := ⟨1, 2, 3, 4, 5, 6⟩ }, {}) beforeLateAnswer

/-- The pad's answer to the first read then completes the second GET_REPORT. -/
theorem own_answer_completes_late :
    Along exchangeStep (fun p i ↦ p.2.InOrder p.1 i) (.init { dsAddr := ⟨1, 2, 3, 4, 5, 6⟩ }, {})
        (beforeLateAnswer ++ [answerF1 0])
      ∧ ¬ Along exchangeStep (fun p i ↦ p.2.OwnAnswer p.1 i)
        (.init { dsAddr := ⟨1, 2, 3, 4, 5, 6⟩ }, {}) (beforeLateAnswer ++ [answerF1 0]) := by
  have hget : lateAnswer.1.usb.pendingGet = some ⟨0xf1, 64⟩ := by decide +kernel
  have hanswer : (lateAnswer.1.answerOf (answerF1 0)).isSome = true := by decide +kernel
  have hcompleted : (lateAnswer.1.step (answerF1 0)).usb.pendingGet = none := by decide +kernel
  have holdest : lateAnswer.2.owed.oldest = some (0xf1, 0) := by decide +kernel
  have hsince : lateAnswer.2.since = 1 := by decide +kernel
  refine ⟨by decide +kernel, fun h ↦ ?_⟩
  have hown : lateAnswer.2.OwnAnswer lateAnswer.1 (answerF1 0) := (along_append.mp h).2.1
  obtain ⟨n, hn, hle, -⟩ := hown _ hget rfl hanswer hcompleted
  have hzero : n = 0 := by
    rw [holdest] at hn
    exact (congrArg Prod.snd (Option.some.inj hn)).symm
  rw [hsince, hzero] at hle
  exact absurd hle (by decide)

end DualSenseMitm
