import DualSenseMitm.Moves

/-!
# Feature reports over the cable

A GET_REPORT of the host is answered from the cache, or it waits: for the pad to answer, for the
timer, or for the gadget to be detached.  While it waits ep0 is not read, because it belongs to the
request.

* `GetEvent` — what becomes of GET_REPORTs, as the host sees it, and `getTrace` for a whole run.
* `FeatureMove` — what an ACL packet does to the reports: nothing, or one answer of the pad is taken.
* `get_report_answered_once` — the requests are answered one after the other, each of them once.
-/

set_option autoImplicit false

namespace DualSenseMitm

open Bytes Machine Relay

/-! ## GET_REPORTs -/

/-- The GET_REPORT an event of the gadget carries. -/
def UsbEvent.getReport? : UsbEvent → Option PendingGet
  | .setup req =>
    if classify req.requestType req.request req.value = .getReport then
      some ⟨req.value.toUInt8, req.length⟩
    else none
  | _ => none

theorem UsbEvent.getReport?_eq_some {req : UsbSetup} {get : PendingGet}
    (h : UsbEvent.getReport? (.setup req) = some get) :
    classify req.requestType req.request req.value = .getReport
      ∧ get = ⟨req.value.toUInt8, req.length⟩ := by
  by_cases hreq : classify req.requestType req.request req.value = .getReport
  · rw [UsbEvent.getReport?, if_pos hreq] at h
    exact ⟨hreq, (Option.some.inj h).symm⟩
  · rw [UsbEvent.getReport?, if_neg hreq] at h
    cases h

def UsbEvent.isSetup : UsbEvent → Bool
  | .setup _ => true
  | _ => false

/-- FunctionFS delivers at most one SETUP in a read of ep0. -/
def Input.AtMostOneSetup : Input → Prop
  | .ep0 events => (events.filter UsbEvent.isSetup).length ≤ 1
  | _ => True

instance (i : Input) : Decidable i.AtMostOneSetup := by
  cases i with
  | ep0 events => exact inferInstanceAs (Decidable ((events.filter UsbEvent.isSetup).length ≤ 1))
  | _ => exact .isTrue trivial

/-- What becomes of GET_REPORTs. -/
inductive GetEvent
  /-- One is read from ep0. -/
  | asked (get : PendingGet)
  /-- A data stage is written, with the answers of the pad that are stored by then, by the timer or
  not. -/
  | stage (data : List UInt8) (stored : UInt8 → Option (List UInt8)) (timedOut : Bool)
  /-- `disable_gadget`. -/
  | detached

/-- The GET_REPORT that has no data stage yet. -/
def GetEvent.next (_ : Option PendingGet) : GetEvent → Option PendingGet
  | .asked get => some get
  | .stage .. | .detached => none

/-- The data stage of a GET_REPORT: the report in 64 bytes, cut to what was asked for. -/
def stageOf (report : List UInt8) (length : UInt16) : List UInt8 :=
  (report.takeD 64 0).take (min length.toNat 64)

/-- What is permitted while `waiting` has no data stage: no other request is read, and a data stage is
the stored answer of its report or, if none came in time, zeros. -/
def GetEvent.Permitted (waiting : Option PendingGet) : GetEvent → Prop
  | .asked _ => waiting = none
  | .stage data stored timedOut =>
    ∃ get, waiting = some get ∧
      ((∃ report, stored get.reportId = some report ∧ data = stageOf report get.length)
        ∨ timedOut = true ∧ stored get.reportId = none ∧ data = stageOf [] get.length)
  | .detached => True

/-- What an output says of GET_REPORTs. -/
def Output.getEvent? (stored : UInt8 → Option (List UInt8)) (timedOut : Bool) :
    Output → Option GetEvent
  | .ep0Reply data _ => some (.stage data stored timedOut)
  | .gadgetDetached => some .detached
  | _ => none

namespace Relay

/-- What a step puts out. -/
def newOutputs (r : Relay) (i : Input) : List Output := (r.step i).out.drop r.out.length

/-- What a step says of GET_REPORTs.  Data stages of other requests are not among them. -/
def getEvents (r : Relay) (i : Input) : List GetEvent :=
  let events (timedOut : Bool) : List GetEvent :=
    (r.newOutputs i).filterMap (Output.getEvent? (r.step i).usb.answers timedOut)
  match i with
  | .ep0 es =>
    if r.usb.serving ∧ r.usb.pendingGet = none then
      match es.findSome? UsbEvent.getReport? with
      | some get => .asked get :: events false
      | none => []
    else []
  | .getReportTimeout => events true
  | _ => events false

/-- What a run says of them. -/
def getTrace (r : Relay) : List Input → List GetEvent
  | [] => []
  | i :: is => r.getEvents i ++ getTrace (r.step i) is

end Relay

theorem takeD_eq {α : Type} (n : ℕ) (l : List α) (a : α) :
    l.takeD n a = l.take n ++ List.replicate (n - (l.take n).length) a := by
  induction n generalizing l with
  | zero => simp
  | succ n ih =>
    cases l with
    | nil => simp [List.replicate_succ]
    | cons b l => simp [ih]

theorem getReportAnswer_eq (report : List UInt8) (length : UInt16) :
    getReportAnswer report length = stageOf report length := by
  rw [stageOf, takeD_eq]
  rfl

namespace Relay

/-! ## What is told of a step -/

/-- What left the process from one state to another says this of GET_REPORTs. -/
def Tells (r r' : Relay) (events : (UInt8 → Option (List UInt8)) → Bool → List GetEvent) : Prop :=
  ∃ new, r'.out = r.out ++ new
    ∧ ∀ stored timedOut, new.filterMap (Output.getEvent? stored timedOut) = events stored timedOut

variable {r r' r'' : Relay}

theorem Tells.trans {f g : (UInt8 → Option (List UInt8)) → Bool → List GetEvent}
    (h : Tells r r' f) (h' : Tells r' r'' g) : Tells r r'' fun stored t ↦ f stored t ++ g stored t := by
  obtain ⟨new, hout, hnew⟩ := h
  obtain ⟨more, hout', hmore⟩ := h'
  refine ⟨new ++ more, by rw [hout', hout, List.append_assoc], fun stored t ↦ ?_⟩
  rw [List.filterMap_append, hnew, hmore]

theorem tells_nothing {A : Set Aspect} (h : Performs (Op.Within A) r r') (hA : .reports ∉ A) :
    Tells r r' fun _ _ ↦ [] := by
  obtain ⟨new, hout, hnew⟩ := h.out
  refine ⟨new, hout, fun stored t ↦ List.filterMap_eq_nil_iff.mpr fun o ho ↦ ?_⟩
  cases o with
  | ep0Reply | gadgetDetached => exact absurd ((hnew _ ho).within rfl rfl) hA
  | _ => rfl

/-- What leaves the process around a piece of work that says something is nothing to it. -/
theorem Tells.around {A : Set Aspect} {a b : Relay}
    {f : (UInt8 → Option (List UInt8)) → Bool → List GetEvent} (hA : .reports ∉ A)
    (h : Performs (Op.Within A) r a) (hf : Tells a b f) (h' : Performs (Op.Within A) b r') :
    Tells r r' f := by
  have hall := ((tells_nothing h hA).trans hf).trans (tells_nothing h' hA)
  simpa only [List.nil_append, List.append_nil] using hall

theorem Tells.newOutputs {f : (UInt8 → Option (List UInt8)) → Bool → List GetEvent} {i : Input}
    (h : Tells r (r.step i) f) (stored : UInt8 → Option (List UInt8)) (timedOut : Bool) :
    (r.newOutputs i).filterMap (Output.getEvent? stored timedOut) = f stored timedOut := by
  obtain ⟨new, hout, hnew⟩ := h
  rw [Relay.newOutputs, hout, List.drop_left]
  exact hnew stored timedOut

/-- A data stage is written, whatever comes of it. -/
theorem ep0Reply_tells (r : Relay) (data : List UInt8) :
    Tells r (r.ep0Reply data) (fun stored t ↦ [.stage data stored t])
      ∧ (r.ep0Reply data).usb = r.usb := by
  unfold ep0Reply
  extract_lets result r₁
  by_cases hok : result = .done
  · rw [if_pos hok]
    exact ⟨⟨_, rfl, fun _ _ ↦ rfl⟩, rfl⟩
  rw [if_neg hok]
  unfold ep0StageFailed
  split
  · refine ⟨⟨[.ep0Reply data result, .ep0Stall USB_DIR_IN], ?_, fun _ _ ↦ rfl⟩, rfl⟩
    exact List.append_assoc r.out [.ep0Reply data result] [.ep0Stall USB_DIR_IN]
  · exact ⟨⟨_, rfl, fun _ _ ↦ rfl⟩, rfl⟩

theorem finishGetReport_tells {get : PendingGet} (hget : r.usb.pendingGet = some get)
    (report : List UInt8) :
    Tells r (r.finishGetReport report) (fun stored t ↦ [.stage (stageOf report get.length) stored t])
      ∧ (r.finishGetReport report).usb = { r.usb with pendingGet := none } := by
  have hfinish : r.finishGetReport report
      = (r.onUsb fun u ↦ { u with pendingGet := none }).ep0Reply (stageOf report get.length) := by
    rw [← getReportAnswer_eq, finishGetReport, hget]
  rw [hfinish]
  exact ep0Reply_tells _ _

/-! ## The pad answers -/

section answer

variable (r) (report : List UInt8)

/-- An answer is stored under its report id. -/
def storeAnswer : Relay :=
  r.onUsb fun u ↦
    { u with answers := Function.update u.answers (byteAt report 0) (some (report.take REPORT_LENGTH)) }

variable {r report} (hr : report ≠ [])
include hr

/-- An answer nobody waits for is stored. -/
theorem onFeatureReport_of_ne (h : ∀ get, r.usb.pendingGet = some get → get.reportId ≠ byteAt report 0) :
    r.onFeatureReport report = r.storeAnswer report := by
  have hlen : ¬ report.length < 1 := Nat.not_lt.mpr (List.length_pos_iff.mpr hr)
  unfold onFeatureReport
  rw [if_neg hlen]
  refine if_neg ?_
  change ¬ (r.usb.pendingGet.any fun get ↦ get.reportId == byteAt report 0) = true
  cases hget : r.usb.pendingGet with
  | none => nofun
  | some get => exact fun hid ↦ h get hget (beq_iff_eq.mp hid)

/-- An answer somebody waits for is stored and passed on. -/
theorem onFeatureReport_of_eq {get : PendingGet} (hget : r.usb.pendingGet = some get)
    (hid : get.reportId = byteAt report 0) :
    r.onFeatureReport report = (r.storeAnswer report).finishGetReport (report.take REPORT_LENGTH) := by
  have hlen : ¬ report.length < 1 := Nat.not_lt.mpr (List.length_pos_iff.mpr hr)
  unfold onFeatureReport
  rw [if_neg hlen]
  refine if_pos ?_
  change (r.usb.pendingGet.any fun get ↦ get.reportId == byteAt report 0) = true
  rw [hget]
  exact beq_iff_eq.mpr hid

end answer

/-- The report id of the feature answer a PDU of the pad carries. -/
def featureAnswer? (pdu : List UInt8) : Option UInt8 :=
  match PduContents.decode pdu with
  | .payload cid data =>
    if cid = Channel.hidControl.scid ∧ byteAt data 0 = HIDP_DATA_FEATURE ∧ 2 ≤ data.length then
      some (byteAt data 1)
    else none
  | _ => none

/-- The feature answer an ACL packet completes. -/
def answered (r : Relay) (s : ConnectionSide) (p : PacketContents) : Option UInt8 :=
  match s with
  | .toDualsense => (r.completedPdu s p).bind featureAnswer?
  | .toPlaystation => none

/-- Whatever leaves the reports alone. -/
def besidesReports : Set Aspect := {a | a ≠ .reports}

theorem mem_besidesReports {a : Aspect} (h : a ≠ .reports) : a ∈ besidesReports := h

theorem reports_notMem_besidesReports : .reports ∉ besidesReports := fun h ↦ h rfl

/-- What an ACL packet does to the reports, by the answer it brings. -/
inductive FeatureMove (r : Relay) : Option UInt8 → Relay → Prop
  | kept {t} (h : Performs (Op.Within besidesReports) r t) : FeatureMove r none t
  | answered {a t report} (hr : report ≠ []) (h : Performs (Op.Within besidesReports) r a)
      (h' : Performs (Op.Within besidesReports) (a.onFeatureReport report) t) :
      FeatureMove r (some (byteAt report 0)) t

theorem FeatureMove.around {a b : Relay} {id : Option UInt8}
    (h : Performs (Op.Within besidesReports) r a) (hm : FeatureMove a id b)
    (h' : Performs (Op.Within besidesReports) b r') : FeatureMove r id r' := by
  cases hm with
  | kept hab => exact .kept ((h.trans hab).trans h')
  | answered hr hab hb => exact .answered hr (h.trans hab) (hb.trans h')

theorem handleFeatureAnswerFromPad_move (r : Relay) (data : List UInt8) :
    FeatureMove r
      (if byteAt data 0 = HIDP_DATA_FEATURE ∧ 2 ≤ data.length then some (byteAt data 1) else none)
      (r.handleFeatureAnswerFromPad .toDualsense data) := by
  unfold handleFeatureAnswerFromPad
  extract_lets feature addr report r₁
  have h₁ : Performs (Op.Within besidesReports) r r₁ :=
    .ite (fun _ ↦ within_l2capSendFramed r _ (.inr (mem_besidesReports nofun)) _ _) fun _ ↦ .refl r
  have hlen : report.length = data.length ∧ byteAt report 1 = byteAt data 1 := by
    by_cases hc : feature ∧ (byteAt data 1 = REPORT_PAIRING_INFO ∨ byteAt data 1 = REPORT_PAIRING_LIST)
        ∧ 8 ≤ data.length ∧ addr.isSet
    · have hreport : report = overwrite data 2 addr.bytes := if_pos hc
      obtain ⟨-, -, h8, -⟩ := hc
      rw [hreport]
      refine ⟨length_overwrite h8, ?_⟩
      rw [overwrite, List.append_assoc]
      have hhead : byteAt (data.take 2 ++ (addr.bytes ++ data.drop (2 + addr.bytes.length))) 1
          = byteAt (data.take 2) 1 := by
        simp [byteAt, List.getElem?_append, Nat.lt_of_lt_of_le (by decide : 1 < 8) h8]
      rw [hhead, byteAt_take (by decide)]
    · have hreport : report = data := if_neg hc
      rw [hreport]
      exact ⟨rfl, rfl⟩
  by_cases hfeature : feature
  · rw [if_pos hfeature]
    by_cases h2 : 2 ≤ data.length
    · rw [if_pos ⟨hfeature, h2⟩, ← hlen.2]
      have hne : report.drop 1 ≠ [] := by
        rw [Ne, List.drop_eq_nil_iff]
        omega
      have hid : byteAt (report.drop 1) 0 = byteAt report 1 := by
        simp [byteAt]
      rw [← hid]
      exact .answered hne h₁ (.refl _)
    · have hnil : report.drop 1 = [] := by
        rw [List.drop_eq_nil_iff]
        omega
      rw [if_neg fun h ↦ h2 h.2, hnil]
      exact .kept h₁
  · rw [if_neg hfeature, if_neg fun h ↦ hfeature h.1]
    exact .kept h₁

theorem routeL2capPdu_feature (r : Relay) (s : ConnectionSide) (pdu : List UInt8) :
    FeatureMove r (if s = .toDualsense then featureAnswer? pdu else none) (r.routeL2capPdu s pdu) := by
  unfold featureAnswer?
  have hm := pdu_move r s pdu
  revert hm
  generalize PduContents.decode pdu = contents
  generalize r.routeL2capPdu s pdu = t
  intro hm
  cases hm with
  | nothing =>
    rw [ite_self]
    exact .kept (.refl r)
  | command =>
    rw [ite_self]
    exact .kept (within_handleL2capCmd r s (mem_besidesReports nofun) (mem_besidesReports nofun) _)
  | payload =>
    rename_i cid data
    by_cases hC : s = .toDualsense ∧ cid = Channel.hidControl.scid
    · obtain ⟨rfl, rfl⟩ := hC
      simp only [if_true, true_and]
      exact handleFeatureAnswerFromPad_move r data
    · have hnone : (if s = .toDualsense then
          (if cid = Channel.hidControl.scid ∧ byteAt data 0 = HIDP_DATA_FEATURE ∧ 2 ≤ data.length then
            some (byteAt data 1) else none) else none) = none := by
        by_cases hs : s = .toDualsense
        · rw [if_pos hs, if_neg fun h ↦ hC ⟨hs, h.1⟩]
        · rw [if_neg hs]
      rw [hnone]
      by_cases hI : s = .toDualsense ∧ cid = Channel.hidInterrupt.scid
      · obtain ⟨rfl, rfl⟩ := hI
        exact .kept (within_relayPadInput r _ (mem_besidesReports nofun) data)
      · exact .kept (within_routePayload_of_others r s (mem_besidesReports nofun) hC hI
          (mem_besidesReports nofun) (mem_besidesReports nofun) data)

theorem handleAcl_feature (r : Relay) (s : ConnectionSide) (p : PacketContents) :
    FeatureMove r (r.answered s p) (r.handleAcl s p) := by
  have hanswered : r.answered s p
      = (r.completedPdu s p).bind fun pdu ↦ if s = .toDualsense then featureAnswer? pdu else none := by
    cases s with
    | toDualsense => rfl
    | toPlaystation => cases r.completedPdu .toPlaystation p <;> rfl
  have hs := acl_step r s p
  rw [hanswered]
  revert hs
  generalize r.completedPdu s p = completed
  generalize r.handleAcl s p = t
  intro hs
  cases hs with
  | kept h => exact .kept (h.widen (by simp [besidesReports, Set.insert_subset_iff]))
  | routed h =>
    rename_i re pdu
    have harrive := within_arriving r s (mem_besidesReports nofun) (mem_besidesReports nofun) p re pdu
    exact .around harrive (routeL2capPdu_feature _ s pdu) (h.widen (by simp [besidesReports]))

/-! ## A read of ep0 -/

/-- Without a SETUP, a read of ep0 is about the endpoints alone. -/
theorem within_handleUsbEvent_of_not_setup (r : Relay) {e : UsbEvent} (he : e.isSetup = false) :
    Performs (Op.Within {.endpoints}) r (r.handleUsbEvent e) := by
  cases e with
  | unbind => exact within_onEndpointsDisabled r rfl
  | enable => exact within_onEndpointsEnabled r rfl
  | disable => exact within_onEndpointsDisabled r rfl
  | setup req => cases he

theorem within_readEvents (r : Relay) {events : List UsbEvent}
    (h : events.filter UsbEvent.isSetup = []) :
    Performs (Op.Within {.endpoints}) r (events.foldl handleUsbEvent r) := by
  refine .foldl _ _ (fun a e he ↦ within_handleUsbEvent_of_not_setup a ?_) r
  exact Bool.eq_false_iff.mpr (List.filter_eq_nil_iff.mp h e he)

/-- Any other request than a GET_REPORT leaves the reports alone. -/
theorem reports_handleSetup (r : Relay) {req : UsbSetup}
    (h : UsbEvent.getReport? (.setup req) = none) :
    (r.handleSetup req).usb.reports = r.usb.reports := by
  have hreply : ∀ (a : Relay) (data : List UInt8), (a.ep0Reply data).usb.reports = a.usb.reports :=
    fun a data ↦ congrArg UsbHandler.reports (ep0Reply_tells a data).2
  have hfailed : ∀ (a : Relay) (result : Ep0Result) (direction : UInt8),
      (a.ep0StageFailed result direction).usb.reports = a.usb.reports := by
    intro a result direction
    unfold ep0StageFailed
    split <;> rfl
  unfold handleSetup
  cases hreq : classify req.requestType req.request req.value with
  | getReport =>
    rw [UsbEvent.getReport?, if_pos hreq] at h
    cases h
  | setReport =>
    dsimp only
    unfold takeSetReport
    cases req.data with
    | error result => exact hfailed r result _
    | ok bytes =>
      dsimp only
      refine reports_eq (A := {.keys, .handover, .outputs}) ?_ (by simp)
      refine .ite (fun _ ↦ .refl r) fun _ ↦ .ite (fun _ ↦ ?_) fun _ ↦ ?_
      · exact within_l2capSendOutputReport r (by simp) _
      · refine .ite (fun _ ↦ .refl r) fun _ ↦ .ite (fun _ ↦ ?_) fun _ ↦ .ite (fun _ ↦ ?_) fun _ ↦ ?_
        · exact within_takePairingSet r _ (by simp) _
        · exact within_takeTransport r (by simp) _
        · exact (quiet_l2capSendHidFeatureSet r _).within
  | getReportDescriptor | getHidDescriptor | getIdle | getProtocol => exact hreply r _
  | setIdle =>
    dsimp only
    unfold ep0Ack
    extract_lets result r₁
    split
    · rfl
    · exact hfailed r₁ result _
  | setProtocol | unsupported => rfl

/-- A GET_REPORT is answered from the cache, or waits. -/
theorem beginGetReport_tells (r : Relay) (get : PendingGet) :
    ((r.beginGetReport get.reportId get.length).usb.pendingGet = some get
        ∧ Tells r (r.beginGetReport get.reportId get.length) fun _ _ ↦ [])
      ∨ (r.beginGetReport get.reportId get.length).usb = r.usb
        ∧ ∃ report, r.usb.answers get.reportId = some report
          ∧ Tells r (r.beginGetReport get.reportId get.length) fun stored t ↦
              [.stage (stageOf report get.length) stored t] := by
  unfold beginGetReport
  cases hcached : (if isCacheableFeature get.reportId = true then r.usb.answers get.reportId else none) with
  | some report =>
    right
    have hstored : r.usb.answers get.reportId = some report := by
      split at hcached
      · exact hcached
      · cases hcached
    dsimp only
    rw [getReportAnswer_eq]
    obtain ⟨htells, husb⟩ := ep0Reply_tells r (stageOf report get.length)
    exact ⟨husb, report, hstored, htells⟩
  | none =>
    left
    dsimp only
    have hsent := quiet_l2capGetReport (r.onUsb fun u ↦ { u with pendingGet := some get }) .toDualsense
      get.reportId
    have hpending := reports_eq (A := ∅) hsent.within (by simp)
    have htells := tells_nothing (A := ∅) hsent.within (by simp)
    exact ⟨congrArg Prod.fst hpending, htells⟩

/-- A read of ep0 with at most one SETUP in it, by the GET_REPORT it brings. -/
theorem readEvents_tells {r : Relay} (hidle : r.usb.pendingGet = none) {events : List UsbEvent}
    (hsetup : (events.filter UsbEvent.isSetup).length ≤ 1) :
    let t := events.foldl handleUsbEvent r
    match events.findSome? UsbEvent.getReport? with
    | none => t.usb.pendingGet = none
    | some get =>
      (t.usb.pendingGet = some get ∧ Tells r t fun _ _ ↦ [])
        ∨ t.usb.pendingGet = none ∧ ∃ report, t.usb.answers get.reportId = some report
          ∧ Tells r t fun stored timedOut ↦ [.stage (stageOf report get.length) stored timedOut] := by
  intro t
  have hnone : ∀ es : List UsbEvent, es.filter UsbEvent.isSetup = [] →
      es.findSome? UsbEvent.getReport? = none := by
    intro es hes
    refine List.findSome?_eq_none_iff.mpr fun e he ↦ ?_
    have hno := List.filter_eq_nil_iff.mp hes e he
    cases e with
    | setup => exact absurd rfl hno
    | _ => rfl
  by_cases hany : events.filter UsbEvent.isSetup = []
  · rw [hnone events hany]
    exact (congrArg Prod.fst (reports_eq (within_readEvents r hany) (by simp))).trans hidle
  obtain ⟨e, he⟩ := List.exists_mem_of_ne_nil _ hany
  obtain ⟨hmem, hsetup'⟩ := List.mem_filter.mp he
  obtain ⟨pre, post, rfl⟩ := List.append_of_mem hmem
  rw [List.filter_append, List.filter_cons_of_pos hsetup', List.length_append,
    List.length_cons] at hsetup
  have hpre : pre.filter UsbEvent.isSetup = [] := List.length_eq_zero_iff.mp (by omega)
  have hpost : post.filter UsbEvent.isSetup = [] := List.length_eq_zero_iff.mp (by omega)
  obtain ⟨req, rfl⟩ : ∃ req, e = .setup req := by
    cases e with
    | setup req => exact ⟨req, rfl⟩
    | _ => cases hsetup'
  have hfind : (pre ++ .setup req :: post).findSome? UsbEvent.getReport?
      = UsbEvent.getReport? (.setup req) := by
    rw [List.findSome?_append, hnone pre hpre, List.findSome?_cons, hnone post hpost]
    cases UsbEvent.getReport? (.setup req) <;> rfl
  have ht : t = post.foldl handleUsbEvent ((pre.foldl handleUsbEvent r).handleSetup req) :=
    List.foldl_append
  have h₁ := within_readEvents r hpre
  generalize pre.foldl handleUsbEvent r = a at ht h₁
  have hidle' : a.usb.pendingGet = none :=
    (congrArg Prod.fst (reports_eq h₁ (by simp))).trans hidle
  have h₂ := within_readEvents (a.handleSetup req) hpost
  have hkept := reports_eq h₂ (by simp)
  rw [← ht] at h₂ hkept
  rw [hfind]
  cases hget : UsbEvent.getReport? (.setup req) with
  | none =>
    exact (congrArg Prod.fst (hkept.trans (reports_handleSetup a hget))).trans hidle'
  | some get =>
    obtain ⟨hreq, rfl⟩ := UsbEvent.getReport?_eq_some hget
    have hbegin : a.handleSetup req = a.beginGetReport req.value.toUInt8 req.length := by
      rw [handleSetup, hreq]
    rw [hbegin] at h₂ hkept
    have hpending := congrArg Prod.fst hkept
    have hanswers := congrFun (congrArg Prod.snd hkept) req.value.toUInt8
    rcases beginGetReport_tells a ⟨req.value.toUInt8, req.length⟩ with
      ⟨hwaits, htells⟩ | ⟨husb, report, hstored, htells⟩
    · exact .inl ⟨hpending.trans hwaits, htells.around (by simp) h₁ h₂⟩
    · rw [husb] at hpending hanswers
      exact .inr ⟨hpending.trans hidle', report, hanswers.trans hstored, htells.around (by simp) h₁ h₂⟩

/-! ## Any step -/

/-- From `r` to `t` GET_REPORTs are taken, answered and cancelled as permitted. -/
def GetsPermitted (r t : Relay) (events : List GetEvent) : Prop :=
  Along GetEvent.next GetEvent.Permitted r.usb.pendingGet events
    ∧ run GetEvent.next r.usb.pendingGet events = t.usb.pendingGet

/-- An ACL packet answers the GET_REPORT that waits for it, and no other. -/
theorem FeatureMove.permitted {id : Option UInt8} (h : FeatureMove r id r') :
    ∃ f, Tells r r' f ∧ GetsPermitted r r' (f r'.usb.answers false) := by
  cases h with
  | kept h =>
    have hpending := congrArg Prod.fst (reports_eq h reports_notMem_besidesReports)
    exact ⟨_, tells_nothing h reports_notMem_besidesReports, trivial, hpending.symm⟩
  | answered hr h h' =>
    rename_i a report
    have hpending := congrArg Prod.fst (reports_eq h reports_notMem_besidesReports)
    have hkept := reports_eq h' reports_notMem_besidesReports
    have hpending' := congrArg Prod.fst hkept
    have hanswers' := congrArg Prod.snd hkept
    change a.usb.pendingGet = r.usb.pendingGet at hpending
    change r'.usb.pendingGet = _ at hpending'
    change r'.usb.answers = _ at hanswers'
    simp only [GetsPermitted, ← hpending]
    by_cases hwaits : ∃ get, a.usb.pendingGet = some get ∧ get.reportId = byteAt report 0
    · obtain ⟨get, hget, hid⟩ := hwaits
      have hstored : (a.storeAnswer report).usb.pendingGet = some get := hget
      obtain ⟨htells, husb⟩ := finishGetReport_tells hstored (report.take REPORT_LENGTH)
      rw [onFeatureReport_of_eq hr hget hid] at h' hpending' hanswers'
      change _ = ((a.storeAnswer report).finishGetReport (report.take REPORT_LENGTH)).usb.pendingGet at hpending'
      change _ = ((a.storeAnswer report).finishGetReport (report.take REPORT_LENGTH)).usb.answers at hanswers'
      rw [husb] at hpending' hanswers'
      refine ⟨_, Tells.around reports_notMem_besidesReports h htells h', ⟨?_, trivial⟩, ?_⟩
      · refine ⟨get, hget, .inl ⟨report.take REPORT_LENGTH, ?_, rfl⟩⟩
        rw [hanswers', hid]
        exact Function.update_self _ _ _
      · rw [hpending']
        rfl
    · have hne : ∀ get, a.usb.pendingGet = some get → get.reportId ≠ byteAt report 0 :=
        fun get hget hid ↦ hwaits ⟨get, hget, hid⟩
      rw [onFeatureReport_of_ne hr hne] at h' hpending'
      have htells : Tells a (a.storeAnswer report) fun _ _ ↦ [] :=
        ⟨[], (List.append_nil _).symm, fun _ _ ↦ rfl⟩
      exact ⟨_, Tells.around reports_notMem_besidesReports h htells h', trivial, hpending'.symm⟩

theorem getEvents_ep0_permitted (r : Relay) {events : List UsbEvent}
    (hi : (Input.ep0 events).AtMostOneSetup) :
    GetsPermitted r (r.step (.ep0 events)) (r.getEvents (.ep0 events)) := by
  unfold getEvents
  dsimp only
  by_cases hread : r.usb.serving = true ∧ r.usb.pendingGet = none
  · rw [if_pos hread]
    have hstep : r.step (.ep0 events) = events.foldl handleUsbEvent r := if_pos hread
    have hspec := readEvents_tells hread.2 hi
    rw [← hstep] at hspec
    dsimp only at hspec
    cases hfind : events.findSome? UsbEvent.getReport? with
    | none =>
      rw [hfind] at hspec
      exact ⟨trivial, hread.2.trans hspec.symm⟩
    | some get =>
      rw [hfind] at hspec
      dsimp only
      rcases hspec with ⟨hwaits, htells⟩ | ⟨hidle, report, hstored, htells⟩
      · rw [htells.newOutputs]
        exact ⟨⟨hread.2, trivial⟩, hwaits.symm⟩
      · rw [htells.newOutputs]
        exact ⟨⟨hread.2, ⟨get, rfl, .inl ⟨report, hstored, rfl⟩⟩, trivial⟩, hidle.symm⟩
  · rw [if_neg hread]
    have hstep : r.step (.ep0 events) = r := if_neg hread
    rw [hstep]
    exact ⟨trivial, rfl⟩

theorem getEvents_timeout_permitted (r : Relay) :
    GetsPermitted r (r.step .getReportTimeout) (r.getEvents .getReportTimeout) := by
  have hstep : r.step .getReportTimeout = r.getReportTimeout := rfl
  unfold getReportTimeout at hstep
  unfold getEvents
  dsimp only
  cases hget : r.usb.pendingGet with
  | none =>
    rw [hget] at hstep
    have htells : Tells r (r.step .getReportTimeout) fun _ _ ↦ [] := by
      rw [hstep]
      exact ⟨[], (List.append_nil _).symm, fun _ _ ↦ rfl⟩
    rw [htells.newOutputs, hstep]
    exact ⟨trivial, rfl⟩
  | some get =>
    rw [hget] at hstep
    dsimp only at hstep
    obtain ⟨htells, husb⟩ := finishGetReport_tells hget ((r.usb.answers get.reportId).getD [])
    rw [← hstep] at htells husb
    rw [htells.newOutputs, husb]
    refine ⟨⟨⟨get, hget, ?_⟩, trivial⟩, (congrArg UsbHandler.pendingGet husb).symm⟩
    cases hstored : r.usb.answers get.reportId with
    | none => exact .inr ⟨rfl, rfl, rfl⟩
    | some report => exact .inl ⟨report, rfl, rfl⟩

/-- Any other step says what it puts out. -/
theorem move_permitted {r t : Relay} {c : Cause} (hm : Move r c t) (hep0 : ∀ events, c ≠ .ep0 events)
    (htimeout : c ≠ .getReportTimeout) :
    ∃ f, Tells r t f ∧ GetsPermitted r t (f t.usb.answers false) := by
  have hsilent : ∀ {A : Set Aspect}, Performs (Op.Within A) r t → .reports ∉ A →
      ∃ f, Tells r t f ∧ GetsPermitted r t (f t.usb.answers false) := fun h hA ↦
    ⟨_, tells_nothing h hA, trivial, (congrArg Prod.fst (reports_eq h hA)).symm⟩
  have hw := hm.within
  cases hm with
  | ep0 => exact absurd rfl (hep0 _)
  | getReportTimeout => exact absurd rfl htimeout
  | quiet h => exact hsilent (A := ∅) h.within (by simp)
  | acl => exact (handleAcl_feature r _ _).permitted
  | handover hk =>
    rename_i s k
    have hunpark := tells_nothing (A := ∅) (quiet_unpark r hk nofun).within (by simp)
    have hdetach : Tells (r.unpark k) (r.unpark k).disableGadget fun _ _ ↦ [.detached] :=
      ⟨[.gadgetDetached], rfl, fun _ _ ↦ rfl⟩
    have hcall := within_connectToConsole (A := {.keys, .calling s.other, .scanning s.other})
      (r.unpark k).disableGadget s.other (by simp) (by simp) (by simp)
      (r.h s).pairing.consoleAddr (r.h s).pairing.consoleLinkKey
    have htells := (hunpark.trans hdetach).trans (tells_nothing hcall (by simp))
    exact ⟨_, htells, ⟨trivial, trivial⟩, (congrArg Prod.fst (reports_eq hcall (by simp))).symm⟩
  | _ => exact hsilent hw (by simp [Cause.aspects])

/-- Every step takes, answers and cancels GET_REPORTs as permitted. -/
theorem getEvents_permitted (r : Relay) {i : Input} (hi : i.AtMostOneSetup) :
    GetsPermitted r (r.step i) (r.getEvents i) := by
  by_cases hep0 : ∃ events, i = .ep0 events
  · obtain ⟨events, rfl⟩ := hep0
    exact getEvents_ep0_permitted r hi
  by_cases htimeout : i = .getReportTimeout
  · rw [htimeout]
    exact getEvents_timeout_permitted r
  obtain ⟨f, htells, hspec⟩ := move_permitted (step_move r i)
    (fun events h ↦ hep0 ⟨events, eq_of_gadgetInput? r (congrArg Cause.gadgetInput? h)⟩)
    (fun h ↦ htimeout (eq_of_gadgetInput? r (congrArg Cause.gadgetInput? h)))
  have hevents : r.getEvents i
      = (r.newOutputs i).filterMap (Output.getEvent? (r.step i).usb.answers false) := by
    unfold getEvents
    cases i with
    | ep0 events => exact absurd ⟨events, rfl⟩ hep0
    | getReportTimeout => exact absurd rfl htimeout
    | _ => rfl
  rw [hevents, htells.newOutputs]
  exact hspec

/-- Every run does. -/
theorem getTrace_permitted (r : Relay) {is : List Input} (his : ∀ i ∈ is, i.AtMostOneSetup) :
    GetsPermitted r (run step r is) (r.getTrace is) := by
  induction is generalizing r with
  | nil => exact ⟨trivial, rfl⟩
  | cons i is ih =>
    obtain ⟨hstep, hafter⟩ := getEvents_permitted r (his i (by simp))
    obtain ⟨hrest, hend⟩ := ih (r.step i) fun j hj ↦ his j (by simp [hj])
    rw [GetsPermitted, getTrace, run_append, along_append, hafter]
    exact ⟨⟨hstep, hrest⟩, hend⟩

end Relay

/-- **Every GET_REPORT is answered once.**  In any run the GET_REPORTs that are read have one data
stage each, with the stored answer of their report or with zeros, before the next one is read or the
gadget is detached, and nothing else has one.  What waits at the end is what has none yet; ep0 is not
read meanwhile, and the timer answers it. -/
theorem get_report_answered_once (c : Config) (is : List Input) (his : ∀ i ∈ is, i.AtMostOneSetup) :
    let r := run Relay.step (.init c) is
    Along GetEvent.next GetEvent.Permitted none (getTrace (.init c) is)
      ∧ run GetEvent.next none (getTrace (.init c) is) = r.usb.pendingGet
      ∧ (r.usb.pendingGet ≠ none → ∀ events, r.step (.ep0 events) = r)
      ∧ (r.step .getReportTimeout).usb.pendingGet = none := by
  intro r
  obtain ⟨hpermitted, hwaits⟩ := getTrace_permitted (.init c) his
  refine ⟨hpermitted, hwaits, fun hget events ↦ if_neg fun h ↦ hget h.2, ?_⟩
  have htimeout : r.step .getReportTimeout = r.getReportTimeout := rfl
  rw [htimeout]
  unfold getReportTimeout
  cases hget : r.usb.pendingGet with
  | none => exact hget
  | some get => rw [(finishGetReport_tells hget _).2]

/-- A GET_REPORT that the pad answers, and one that it does not. -/
def twoGets : List Input :=
  Input.gadgetUp ⟨1, 2, 3, 4, 5, 6⟩
    ++ [.getReport 0xf2 16,
      .data .toDualsense 1 Channel.hidControl.scid [HIDP_DATA_FEATURE, 0xf2, 7],
      .getReport 0xf1 64, .getReportTimeout]

theorem get_report_answered_once_two :
    (getTrace (.init { dsAddr := ⟨1, 2, 3, 4, 5, 6⟩ }) twoGets).length = 4
      ∧ Along GetEvent.next GetEvent.Permitted none
        (getTrace (.init { dsAddr := ⟨1, 2, 3, 4, 5, 6⟩ }) twoGets) :=
  ⟨by decide +kernel, (get_report_answered_once _ twoGets (by decide +kernel)).1⟩

end DualSenseMitm
