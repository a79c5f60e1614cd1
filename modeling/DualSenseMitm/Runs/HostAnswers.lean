import DualSenseMitm.Runs.FeatureAnswers
import DualSenseMitm.Runs.GetReports
import DualSenseMitm.Runs.ServiceRecord

/-!
# What the host is told of the pad

The gadget stores the feature answers of the pad under their report ids, and a GET_REPORT of the host is
answered from there.

* `lastUnder` — the last entry of a list under a key.
* `Relay.answers_step` — the answers are stored as they come, and nothing else is.
* `host_gets_last_answers` — so what the host is told is what the pad has said last.
-/

set_option autoImplicit false

namespace DualSenseMitm

open Bytes Machine

/-! ## The last under a key -/

section last

variable {α κ : Type*} [DecidableEq κ] (key : α → κ)

/-- The last entry of a list under a key. -/
def lastUnder (l : List α) (k : κ) : Option α := l.reverse.find? fun a ↦ key a = k

theorem lastUnder_concat (l : List α) (a : α) :
    lastUnder key (l ++ [a]) = Function.update (lastUnder key l) (key a) (some a) := by
  funext k
  rw [lastUnder, List.reverse_append, List.reverse_singleton, List.singleton_append]
  by_cases hk : key a = k
  · subst hk
    simp
  · simp [hk, Ne.symm hk, lastUnder]

end last

namespace Relay

variable {r r' : Relay}

/-! ## What is stored -/

/-- The feature report that a cause brings from the pad, as others are told it. -/
def padAnswerOf (r : Relay) (c : Cause) : Option (List UInt8) :=
  match r.payloadOf c with
  | some (.toDualsense, cid, data) =>
    if cid = Channel.hidControl.scid ∧ byteAt data 0 = HIDP_DATA_FEATURE ∧ 2 ≤ data.length then
      some ((r.relayedAnswer data).drop 1)
    else none
  | _ => none

/-- The stored answers with one more. -/
def storing (answers : UInt8 → Option (List UInt8)) : Option (List UInt8) → UInt8 → Option (List UInt8)
  | some report => Function.update answers (byteAt report 0) (some (report.take REPORT_LENGTH))
  | none => answers

theorem answers_eq {A : Set Aspect} (h : Performs (Op.Within A) r r') (hA : .reports ∉ A) :
    r'.usb.answers = r.usb.answers :=
  congrArg Prod.snd (reports_eq h hA)

theorem answers_onFeatureReport (r : Relay) {report : List UInt8} (hne : report ≠ []) :
    (r.onFeatureReport report).usb.answers = storing r.usb.answers (some report) := by
  by_cases hwaits : ∃ get, r.usb.pendingGet = some get ∧ get.reportId = byteAt report 0
  · obtain ⟨get, hget, hid⟩ := hwaits
    have hstored : (r.storeAnswer report).usb.pendingGet = some get := hget
    rw [onFeatureReport_of_eq hne hget hid, (finishGetReport_tells hstored _).2]
    rfl
  · rw [onFeatureReport_of_ne hne fun get hget hid ↦ hwaits ⟨get, hget, hid⟩]
    rfl

theorem answers_handleFeatureAnswerFromPad (r : Relay) (data : List UInt8) :
    (r.handleFeatureAnswerFromPad .toDualsense data).usb.answers
      = storing r.usb.answers (if byteAt data 0 = HIDP_DATA_FEATURE ∧ 2 ≤ data.length then
          some ((r.relayedAnswer data).drop 1) else none) := by
  unfold handleFeatureAnswerFromPad
  extract_lets feature addr report r₁
  have hreport : report = r.relayedAnswer data := rfl
  have hlen : (r.relayedAnswer data).length = data.length := r.length_relayedAnswer
  have h₁ : r₁.usb.answers = r.usb.answers := by
    refine answers_eq (A := {.forwarding}) (.ite (fun _ ↦ ?_) fun _ ↦ .refl r) (by simp)
    exact within_l2capSendFramed r _ (.inr (by simp)) _ _
  by_cases hfeature : byteAt data 0 = HIDP_DATA_FEATURE
  · rw [if_pos (show feature from hfeature), hreport]
    by_cases h2 : 2 ≤ data.length
    · rw [if_pos ⟨hfeature, h2⟩, answers_onFeatureReport r₁ (by rw [Ne, List.drop_eq_nil_iff]; omega), h₁]
    · have hnil : (r.relayedAnswer data).drop 1 = [] := List.drop_eq_nil_iff.mpr (by omega)
      rw [if_neg fun h ↦ h2 h.2, hnil]
      exact h₁
  · rw [if_neg (show ¬ feature from hfeature), if_neg fun h ↦ hfeature h.1]
    exact h₁

/-- What is no feature answer of the pad is not stored. -/
theorem answers_routePayload (r : Relay) (s : ConnectionSide) (cid : UInt16) (data : List UInt8) :
    (r.routePayload s cid data).usb.answers
      = storing r.usb.answers (if s = .toDualsense ∧ cid = Channel.hidControl.scid
          ∧ byteAt data 0 = HIDP_DATA_FEATURE ∧ 2 ≤ data.length then some ((r.relayedAnswer data).drop 1)
        else none) := by
  by_cases hC : s = .toDualsense ∧ cid = Channel.hidControl.scid
  · obtain ⟨rfl, rfl⟩ := hC
    simp only [true_and]
    exact answers_handleFeatureAnswerFromPad r data
  · rw [if_neg fun h ↦ hC ⟨h.1, h.2.1⟩]
    by_cases hI : s = .toDualsense ∧ cid = Channel.hidInterrupt.scid
    · obtain ⟨rfl, rfl⟩ := hI
      exact answers_eq (within_relayPadInput r _ (mem_besidesReports nofun) data) reports_notMem_besidesReports
    · exact answers_eq (within_routePayload_of_others r s (mem_besidesReports nofun) hC hI
        (mem_besidesReports nofun) (mem_besidesReports nofun) data) reports_notMem_besidesReports

theorem answers_handleSetup (r : Relay) (req : UsbSetup) : (r.handleSetup req).usb.answers = r.usb.answers := by
  cases hget : UsbEvent.getReport? (.setup req) with
  | none => exact congrArg Prod.snd (reports_handleSetup r hget)
  | some get =>
    obtain ⟨hreq, rfl⟩ := UsbEvent.getReport?_eq_some hget
    rw [handleSetup, hreq]
    dsimp only
    rw [beginGetReport]
    split
    · rw [(ep0Reply_tells _ _).2]
    · have hsent := quiet_l2capGetReport (r.onUsb fun u ↦ { u with pendingGet := some ⟨req.value.toUInt8, req.length⟩ })
        .toDualsense req.value.toUInt8
      exact (answers_eq (A := ∅) hsent.within (by simp)).trans rfl

theorem answers_readEvents (r : Relay) (events : List UsbEvent) :
    (events.foldl handleUsbEvent r).usb.answers = r.usb.answers := by
  induction events generalizing r with
  | nil => rfl
  | cons e events ih =>
    rw [List.foldl_cons, ih]
    cases e with
    | setup req => exact answers_handleSetup r req
    | _ => exact answers_eq (within_handleUsbEvent_of_not_setup r rfl) (by simp)

theorem answers_finishGetReport (r : Relay) (report : List UInt8) :
    (r.finishGetReport report).usb.answers = r.usb.answers := by
  cases hget : r.usb.pendingGet with
  | none => rw [finishGetReport, hget]
  | some get => rw [(finishGetReport_tells hget report).2]

/-- **What a step stores.** -/
theorem answers_step (r : Relay) (i : Input) :
    (r.step i).usb.answers = storing r.usb.answers (r.padAnswerOf (r.cause i)) := by
  have hm := step_move r i
  have hw := hm.within
  revert hm hw
  generalize r.cause i = cause
  generalize r.step i = r'
  intro hm hw
  cases hm with
  | @acl s p =>
    have hpart := acl_part r s p
    rw [padAnswerOf, payloadOf]
    revert hpart
    generalize r.handleAcl s p = r'
    generalize r.contentsOf s p = contents
    intro hpart
    cases hpart with
    | nothing h => exact answers_eq h (by simp)
    | @command re pdu q _ h =>
      obtain ⟨re', rfl⟩ := h
      have hbefore := within_arriving (A := {.linkNotes, .routing, .signalling s, .binding s}) r s (by simp)
        (by simp) p re pdu
      have hcommand := hbefore.trans (within_handleL2capCmd _ s (by simp) (by simp) q)
      exact answers_eq (hcommand.trans (within_setReasm _ s (by simp) _ re')) (by simp)
    | @payload re pdu cid data _ h =>
      obtain ⟨re', rfl⟩ := h
      have hrouted := answers_routePayload (r.arriving s p re pdu) s cid data
      have hpairing : ((r.arriving s p re pdu).h .toDualsense).pairing = (r.h .toDualsense).pairing := by
        simp [arriving, setReasm]
      have hanswer : (r.arriving s p re pdu).relayedAnswer data = r.relayedAnswer data := by
        rw [relayedAnswer, relayedAnswer]
        exact if_congr (by rw [RewritesAddress, hpairing]; rfl) (by rw [hpairing]) rfl
      rw [hanswer] at hrouted
      refine Eq.trans hrouted ?_
      cases s with
      | toDualsense =>
        simp only [true_and]
        rfl
      | toPlaystation => rfl
  | quiet h hc =>
    have hkept := answers_eq (A := ∅) h.within (by simp)
    cases cause with
    | acl => exact absurd hc (Set.insert_nonempty _ _).ne_empty
    | _ => exact hkept
  | ep0 =>
    rw [readEp0]
    split
    · exact answers_readEvents r _
    · rfl
  | getReportTimeout =>
    rw [getReportTimeout]
    split
    · rfl
    · exact answers_finishGetReport r _
  | @handover s k hk =>
    have hcall := within_connectToConsole (A := {.keys, .calling s.other, .scanning s.other})
      (r.unpark k).disableGadget s.other (by simp) (by simp) (by simp)
      (r.h s).pairing.consoleAddr (r.h s).pairing.consoleLinkKey
    exact (answers_eq hcall (by simp)).trans rfl
  | _ => exact answers_eq hw (by simp [Cause.aspects])

/-! ## What the host is told -/

/-- The GET_REPORT a step may answer: the one that waits, or the one that the host sends in it. -/
def getOf (r : Relay) : Input → Option PendingGet
  | .ep0 events => r.usb.pendingGet.or (events.findSome? UsbEvent.getReport?)
  | _ => r.usb.pendingGet

/-- A data stage is that of the request which waits or which came right before it. -/
theorem stage_of_permitted {waiting : Option PendingGet} {events : List GetEvent} {data : List UInt8}
    {stored : UInt8 → Option (List UInt8)} {timedOut : Bool}
    (h : Along GetEvent.next GetEvent.Permitted waiting events) (hmem : .stage data stored timedOut ∈ events) :
    ∃ get, (waiting = some get ∨ .asked get ∈ events)
      ∧ ((∃ report, stored get.reportId = some report ∧ data = stageOf report get.length)
        ∨ timedOut = true ∧ stored get.reportId = none ∧ data = stageOf [] get.length) := by
  induction events generalizing waiting with
  | nil => cases hmem
  | cons event events ih =>
    rcases List.mem_cons.mp hmem with rfl | hmem
    · obtain ⟨get, hget, hdata⟩ := h.1
      exact ⟨get, .inl hget, hdata⟩
    · obtain ⟨get, hget, hdata⟩ := ih h.2 hmem
      refine ⟨get, .inr ?_, hdata⟩
      rcases hget with hget | hget
      · cases event with
        | asked get' => exact List.mem_cons.mpr (.inl (congrArg GetEvent.asked (Option.some.inj hget).symm))
        | _ => cases hget
      · exact List.mem_cons_of_mem _ hget

theorem getOf_of_asked {i : Input} {get : PendingGet} (h : .asked get ∈ r.getEvents i) : r.getOf i = some get := by
  have hnone : ∀ stored timedOut, .asked get ∉ (r.newOutputs i).filterMap (Output.getEvent? stored timedOut) := by
    intro stored timedOut hmem
    obtain ⟨o, -, ho⟩ := List.mem_filterMap.mp hmem
    cases o <;> cases ho
  cases i with
  | ep0 events =>
    rw [getEvents] at h
    split at h
    · rename_i hread
      split at h
      · rename_i get' hfind
        rcases List.mem_cons.mp h with h | h
        · cases h
          rw [getOf, hread.2, Option.none_or, hfind]
        · exact absurd h (hnone _ _)
      · cases h
    · cases h
  | _ => exact absurd h (hnone _ _)

/-- A data stage is told with the answers that are stored behind the step. -/
theorem stored_of_stage {i : Input} {data : List UInt8} {stored : UInt8 → Option (List UInt8)} {timedOut : Bool}
    (h : .stage data stored timedOut ∈ r.getEvents i) : stored = (r.step i).usb.answers := by
  have hall : ∀ t, .stage data stored timedOut ∈
      (r.newOutputs i).filterMap (Output.getEvent? (r.step i).usb.answers t) → stored = (r.step i).usb.answers := by
    intro t hmem
    obtain ⟨o, -, ho⟩ := List.mem_filterMap.mp hmem
    cases o <;> cases ho
    rfl
  cases i with
  | ep0 events =>
    rw [getEvents] at h
    split at h
    · split at h
      · exact hall _ ((List.mem_cons.mp h).resolve_left fun h ↦ by cases h)
      · cases h
    · cases h
  | _ => exact hall _ h

end Relay

open Relay

/-- The feature reports that the pad has given. -/
def padAnswers (reports : List (List UInt8)) (r : Relay) (i : Input) : List (List UInt8) :=
  reports ++ (r.padAnswerOf (r.cause i)).toList

/-- The last of them with an id, as far as the host can be told it. -/
def lastAnswer (reports : List (List UInt8)) (id : UInt8) : Option (List UInt8) :=
  (lastUnder (byteAt · 0) reports id).map (·.take REPORT_LENGTH)

theorem lastAnswer_append (reports : List (List UInt8)) (report : Option (List UInt8)) :
    lastAnswer (reports ++ report.toList) = storing (lastAnswer reports) report := by
  cases report with
  | none => exact congrArg lastAnswer (List.append_nil _)
  | some report =>
    funext id
    rw [lastAnswer, Option.toList_some, lastUnder_concat, storing]
    by_cases hid : id = byteAt report 0
    · subst hid
      simp
    · simp [hid, lastAnswer]

/-- **The host is told what the pad has said last.**  In every run, with at most one SETUP in a read of ep0, a
data stage that a step writes for a GET_REPORT is that of the request which waits or comes in the step: the
last answer of the pad with the id it asks for, those of the step among them, padded and cut to what the
host takes, or zeros when the time is up and the pad has given none. -/
theorem host_gets_last_answers (cfg : Config) (is : List Input) (his : ∀ i ∈ is, i.AtMostOneSetup) :
    Along (withHistory Relay.step padAnswers) (fun q i ↦
      ∀ data stored timedOut, .stage data stored timedOut ∈ q.1.getEvents i → ∃ get, q.1.getOf i = some get
        ∧ data = stageOf ((lastAnswer (padAnswers q.2 q.1 i) get.reportId).getD []) get.length
        ∧ (lastAnswer (padAnswers q.2 q.1 i) get.reportId = none → timedOut = true))
      (.init cfg, []) is := by
  let Inv (q : Relay × List (List UInt8)) := q.1.usb.answers = lastAnswer q.2
  have hsetup : Along (withHistory Relay.step padAnswers) (fun _ i ↦ i.AtMostOneSetup) (.init cfg, []) is :=
    along_const.mpr his
  have hinit : Inv (.init cfg, []) := rfl
  refine hsetup.of_invariant hinit fun q i hq hi ↦ ?_
  have hanswers : (q.1.step i).usb.answers = lastAnswer (padAnswers q.2 q.1 i) := by
    rw [answers_step, padAnswers, lastAnswer_append, ← hq]
  refine ⟨hanswers, fun data stored timedOut hstage ↦ ?_⟩
  have hstored := (stored_of_stage hstage).trans hanswers
  obtain ⟨get, hget, hdata⟩ := stage_of_permitted (getEvents_permitted q.1 hi).1 hstage
  refine ⟨get, ?_, ?_⟩
  · rcases hget with hwaits | hasked
    · cases i <;> simp [getOf, hwaits]
    · exact getOf_of_asked hasked
  · rw [← hstored]
    rcases hdata with ⟨report, hreport, rfl⟩ | ⟨rfl, hnone, rfl⟩
    · rw [hreport]
      exact ⟨rfl, fun h ↦ by cases h⟩
    · rw [hnone]
      exact ⟨rfl, fun _ ↦ rfl⟩

/-- The pad's answer waits in the cache, another one is given meanwhile, and the last one is told. -/
theorem host_gets_last_answers_twice :
    let is := Input.gadgetUp ⟨1, 2, 3, 4, 5, 6⟩
      ++ [.data .toDualsense 1 Channel.hidControl.scid [HIDP_DATA_FEATURE, 0x20, 7],
        .data .toDualsense 1 Channel.hidControl.scid [HIDP_DATA_FEATURE, 0x20, 8]]
    let q := run (withHistory Relay.step padAnswers) (.init { dsAddr := ⟨1, 2, 3, 4, 5, 6⟩ }, []) is
    ∀ data stored timedOut, .stage data stored timedOut ∈ q.1.getEvents (.getReport 0x20 16) →
      data = stageOf [0x20, 8] 16 := by
  intro is q data stored timedOut hstage
  have hall := host_gets_last_answers { dsAddr := ⟨1, 2, 3, 4, 5, 6⟩ } (is ++ [.getReport 0x20 16]) (by decide +kernel)
  obtain ⟨get, hget, hdata, -⟩ := (along_iff_prefixes.mp hall) is (.getReport 0x20 16) List.prefix_rfl data stored
    timedOut hstage
  have hsent : q.1.getOf (.getReport 0x20 16) = some ⟨0x20, 16⟩ := by decide +kernel
  obtain rfl := Option.some.inj (hget.symm.trans hsent)
  exact hdata.trans (by decide +kernel)

end DualSenseMitm
