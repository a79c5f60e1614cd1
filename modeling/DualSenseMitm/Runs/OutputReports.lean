import DualSenseMitm.Runs.FeatureWrites

/-!
# Output reports built for the pad

The console's output reports arrive over the cable, on the interrupt endpoint and as a data stage, and go
to the pad in the framing of Bluetooth: numbered, padded and sealed.

* `BuiltFor` — the report that is built for the `k`-th of them.
* `Relay.outputReports` — those an input brings.
* `output_reports_in_sequence` — each that is long enough is built for, in order.
-/

set_option autoImplicit false

namespace DualSenseMitm

open Bytes Machine Relay

/-! ## The reports -/

/-- The report 0x31 that is built for the `k`-th output report. -/
structure BuiltFor (k : ℕ) (usbReport bt : List UInt8) : Prop where
  length : bt.length = 78
  id : byteAt bt 0 = 0x31
  /-- The number is in the high nibble, and the low one is zero. -/
  sequence : (byteAt bt 1).toNat = k % 16 * 16
  tag : byteAt bt 2 = 0x10
  common : (bt.drop 3).take 47
    = (usbReport.drop 1).take 47 ++ List.replicate (47 - min (usbReport.length - 1) 47) 0
  reserved : (bt.drop 50).take 24 = List.replicate 24 0
  crc : crcIsValid 0xa2 bt

/-- The report a data stage carries, if it is for the interrupt channel. -/
def UsbEvent.outputReport? : UsbEvent → Option (List UInt8)
  | .setup req =>
    if classify req.requestType req.request req.value = .setReport
        ∧ (req.value >>> (8 : UInt16)).toUInt8 = REPORT_TYPE_OUTPUT then
      some req.dataStage
    else none
  | _ => none

namespace Relay

/-- The output reports an input brings. -/
def outputReports (r : Relay) : Input → List (List UInt8)
  | .ep0 events =>
    if r.usb.serving ∧ r.usb.pendingGet = none then events.filterMap UsbEvent.outputReport? else []
  | .outputDone (some data) => if r.usb.outBusy then [data.take REPORT_LENGTH] else []
  | _ => []

end Relay

/-- Those that are long enough, numbered from `n` on. -/
def numbered (n : ℕ) (reports : List (List UInt8)) : List (List UInt8 × ℕ) :=
  (reports.filter fun report ↦ decide (2 ≤ report.length)).zipIdx n

theorem numbered_append (n : ℕ) (reports reports' : List (List UInt8)) :
    numbered n (reports ++ reports')
      = numbered n reports ++ numbered (n + (numbered n reports).length) reports' := by
  rw [numbered, List.filter_append, List.zipIdx_append, numbered, numbered, List.length_zipIdx]

/-- An output report on its way to the pad. -/
def Sent.isOutput (f : Sent) : Bool := f.side == .toDualsense && byteAt f.payload 0 == HIDP_DATA_OUTPUT

/-- How many output reports have been built for. -/
def countOutputs (n : ℕ) (r : Relay) (i : Input) : ℕ := n + (numbered n (r.outputReports i)).length

/-- What an input brings is sent, while the pad's interrupt channel is open: for each report that is long
enough one, with the next number. -/
def BuildsInOrder (q : Relay × ℕ) (i : Input) : Prop :=
  ∃ bts, List.Forall₂ (fun p bt ↦ BuiltFor p.2 p.1 bt) (numbered q.2 (q.1.outputReports i)) bts
    ∧ (q.1.outputReports i ≠ [] →
      ((q.1.step i).frames.drop q.1.frames.length).filter Sent.isOutput
        = bts.flatMap fun bt ↦ q.1.sentOn .toDualsense .hidInterrupt (HIDP_DATA_OUTPUT :: bt))

/-! ## One report -/

/-- A checksum that is written is right. -/
theorem crcIsValid_append (seed : UInt8) (body : List UInt8) :
    crcIsValid seed (body ++ put32 (crc32Seeded seed body)) := by
  have hlen : (body ++ put32 (crc32Seeded seed body)).length - 4 = body.length := by
    rw [List.length_append]
    exact Nat.add_sub_cancel _ _
  refine ⟨?_, ?_⟩
  · rw [List.length_append]
    exact Nat.le_add_left 4 _
  · rw [hlen, List.drop_left, List.take_left]

/-- The 47 bytes of a report that are the same on both transports. -/
def commonArea (usbReport : List UInt8) : List UInt8 :=
  (usbReport.drop 1).take 47 ++ List.replicate (47 - min (usbReport.length - 1) 47) 0

theorem length_commonArea (usbReport : List UInt8) : (commonArea usbReport).length = 47 := by
  rw [commonArea, List.length_append, List.length_take, List.length_drop, List.length_replicate]
  omega

/-- The report that is built, with the number `seq`. -/
def outputFrame (seq : UInt8) (usbReport : List UInt8) : List UInt8 :=
  let body := [REPORT_BT, seq <<< (4 : UInt8), OUTPUT_TAG] ++ commonArea usbReport ++ List.replicate 24 0
  body ++ put32 (crc32Seeded CRC_SEED_OUTPUT body)

theorem builtFor_outputFrame {k : ℕ} {seq : UInt8} (hseq : seq.toNat = k % 16) (usbReport : List UInt8) :
    BuiltFor k usbReport (outputFrame seq usbReport) := by
  have hlen := length_commonArea usbReport
  refine ⟨?_, rfl, ?_, rfl, ?_, ?_, crcIsValid_append _ _⟩
  · simp only [outputFrame, put32, List.length_append, hlen, List.length_replicate, List.length_cons,
      List.length_nil]
  · have hlt : seq.toNat < 16 := by
      rw [hseq]
      exact Nat.mod_lt _ (by decide)
    show (seq <<< (4 : UInt8)).toNat = _
    rw [UInt8.toNat_shiftLeft, show (4 : UInt8).toNat % 8 = 4 from rfl, Nat.shiftLeft_eq, ← hseq]
    omega
  · show ((commonArea usbReport ++ List.replicate 24 0 ++ _).take 47) = commonArea usbReport
    rw [List.append_assoc, ← hlen, List.take_left]
  · have hdrop : (outputFrame seq usbReport).drop 50
        = List.replicate 24 0 ++ put32 (crc32Seeded CRC_SEED_OUTPUT ([REPORT_BT, seq <<< (4 : UInt8), OUTPUT_TAG]
            ++ commonArea usbReport ++ List.replicate 24 0)) := by
      have hfront : ([REPORT_BT, seq <<< (4 : UInt8), OUTPUT_TAG] ++ commonArea usbReport).length = 50 := by
        rw [List.length_append, hlen]
        rfl
      rw [outputFrame, List.append_assoc, ← hfront, List.drop_left]
    rw [hdrop, List.take_append_of_le_length (by simp), List.take_of_length_le (by simp)]

namespace Relay

variable {r r' r'' : Relay} {n : ℕ}

/-- The number of the next report. -/
def outputSeq (r : Relay) : ℕ := (r.h .toDualsense).streams.outputSeq.toNat

/-- The output reports sent to the pad. -/
def padOutputs (r : Relay) : List Sent := r.frames.filter Sent.isOutput

/-- What one report sends, and what number is next. -/
theorem l2capSendOutputReport_eq {usbReport : List UInt8} (h : 2 ≤ usbReport.length) :
    (r.l2capSendOutputReport .toDualsense usbReport).frames
        = r.frames ++ r.sentOn .toDualsense .hidInterrupt
            (HIDP_DATA_OUTPUT :: outputFrame (r.h .toDualsense).streams.outputSeq usbReport)
      ∧ (r.l2capSendOutputReport .toDualsense usbReport).outputSeq = (r.outputSeq + 1) % 16 := by
  have hframe : ∀ seq : UInt8, appendCrc32 CRC_SEED_OUTPUT
      ([REPORT_BT, seq <<< (4 : UInt8), OUTPUT_TAG] ++ (usbReport.drop 1).take OUTPUT_COMMON_SIZE
        ++ List.replicate (OUTPUT_BT_SIZE - ([REPORT_BT, seq <<< (4 : UInt8), OUTPUT_TAG]
            ++ (usbReport.drop 1).take OUTPUT_COMMON_SIZE).length) 0)
      = outputFrame seq usbReport := by
    intro seq
    have hpad : OUTPUT_BT_SIZE - ([REPORT_BT, seq <<< (4 : UInt8), OUTPUT_TAG]
          ++ (usbReport.drop 1).take OUTPUT_COMMON_SIZE).length
        = 47 - min (usbReport.length - 1) 47 + (24 + 4) := by
      rw [List.length_append, List.length_take, List.length_drop, OUTPUT_BT_SIZE, OUTPUT_COMMON_SIZE,
        Nat.min_comm 47]
      show 78 - (3 + _) = _
      omega
    rw [hpad, ← List.replicate_append_replicate, ← List.replicate_append_replicate, outputFrame, commonArea,
      ← appendCrc32_append CRC_SEED_OUTPUT _ (List.length_replicate (n := 4) (a := 0))]
    simp only [List.append_assoc]
    rfl
  unfold l2capSendOutputReport
  extract_lets seq r₁ common head bt
  have h₁ : r₁.dcid .toDualsense .hidInterrupt = r.dcid .toDualsense .hidInterrupt := by simp [r₁, dcid]
  have hnext : r₁.outputSeq = (r.outputSeq + 1) % 16 := by
    have hseq : (r₁.h .toDualsense).streams.outputSeq = (seq + 1) &&& (0x0f : UInt8) := by simp [r₁]
    rw [outputSeq, hseq, UInt8.toNat_and, UInt8.toNat_add]
    exact (Nat.and_two_pow_sub_one_eq_mod _ 4).trans (Nat.mod_mod_of_dvd _ (by decide))
  rw [if_neg (Nat.not_lt.mpr h)]
  constructor
  · rw [frames_l2capSendHid, sentOn, h₁, hframe]
    rfl
  · rw [← hnext, outputSeq, outputSeq]
    exact congrArg UInt8.toNat (outputSeq_eq (A := ∅) (quiet_l2capSendHid r₁ _ _ _).within _ (by simp))

/-- The reports are built for on the way, one after the other, and the pad's channels stay as they are. -/
def Builds (reports : List (List UInt8)) (r r' : Relay) : Prop :=
  r'.dcid .toDualsense = r.dcid .toDualsense ∧ ∀ n, r.outputSeq = n % 16 →
    r'.outputSeq = (n + (numbered n reports).length) % 16
      ∧ ∃ bts, List.Forall₂ (fun p bt ↦ BuiltFor p.2 p.1 bt) (numbered n reports) bts
        ∧ r'.padOutputs = r.padOutputs
          ++ bts.flatMap fun bt ↦ r.sentOn .toDualsense .hidInterrupt (HIDP_DATA_OUTPUT :: bt)

namespace Builds

variable {reports reports' : List (List UInt8)}

theorem trans (h : Builds reports r r') (h' : Builds reports' r' r'') : Builds (reports ++ reports') r r'' := by
  refine ⟨h'.1.trans h.1, fun n hn ↦ ?_⟩
  obtain ⟨hseq, bts, hbts, hout⟩ := h.2 n hn
  obtain ⟨hseq', bts', hbts', hout'⟩ := h'.2 _ hseq
  have hsent : r'.sentOn .toDualsense .hidInterrupt = r.sentOn .toDualsense .hidInterrupt := by
    funext payload
    rw [sentOn, sentOn, h.1]
  rw [numbered_append]
  refine ⟨?_, bts ++ bts', List.rel_append hbts hbts', ?_⟩
  · rw [hseq', List.length_append, Nat.add_assoc]
  · rw [hout', hout, hsent, List.append_assoc, List.flatMap_append]

/-- Nothing is built, and no number is used. -/
theorem silent (hd : r'.dcid .toDualsense = r.dcid .toDualsense) (hseq : r'.outputSeq = r.outputSeq)
    (hout : r'.padOutputs = r.padOutputs) : Builds [] r r' :=
  ⟨hd, fun _ hn ↦ ⟨hseq.trans hn, [], .nil, by rw [hout, List.flatMap_nil, List.append_nil]⟩⟩

/-- Work that stays within aspects that build nothing, and sends no output report. -/
theorem of_within {A : Set Aspect} (hw : Performs (Op.Within A) r r')
    (hA : ∀ a ∈ [Aspect.links, .binding .toDualsense, .outputs], a ∉ A) (hout : r'.padOutputs = r.padOutputs) :
    Builds [] r r' := by
  refine silent (dcid_eq hw _ (hA _ (by simp)) (hA _ (by simp))) ?_ hout
  exact congrArg UInt8.toNat (outputSeq_eq hw _ (hA _ (by simp)))

end Builds

/-- A report that is too short is not built for. -/
theorem numbered_of_lt {report : List UInt8} (h : report.length < 2) (n : ℕ) : numbered n [report] = [] := by
  rw [numbered, List.filter_cons_of_neg (by simpa using h)]
  rfl

/-- One report, from either place. -/
theorem builds_l2capSendOutputReport (usbReport : List UInt8) :
    Builds [usbReport] r (r.l2capSendOutputReport .toDualsense usbReport) := by
  have hw : Performs (Op.Within {.outputs}) r (r.l2capSendOutputReport .toDualsense usbReport) :=
    within_l2capSendOutputReport r (by simp) usbReport
  refine ⟨dcid_eq hw _ (by simp) (by simp), fun n hn ↦ ?_⟩
  by_cases h : 2 ≤ usbReport.length
  · obtain ⟨hframes, hseq⟩ := r.l2capSendOutputReport_eq h
    have hnumbered : numbered n [usbReport] = [(usbReport, n)] := by
      rw [numbered, List.filter_cons_of_pos (by simpa using h)]
      rfl
    rw [hnumbered]
    refine ⟨?_, [outputFrame (r.h .toDualsense).streams.outputSeq usbReport],
      .cons (builtFor_outputFrame hn usbReport) .nil, ?_⟩
    · rw [hseq, hn, Nat.mod_add_mod]
      rfl
    · have hkept : ∀ payload, (r.sentOn .toDualsense .hidInterrupt (HIDP_DATA_OUTPUT :: payload)).filter
          Sent.isOutput = r.sentOn .toDualsense .hidInterrupt (HIDP_DATA_OUTPUT :: payload) := by
        intro payload
        refine List.filter_eq_self.mpr fun f hf ↦ ?_
        rw [((r.mem_sentOn _).mp hf).2.2]
        rfl
      rw [padOutputs, hframes, List.filter_append, hkept, List.flatMap_singleton]
      rfl
  · have hlt := Nat.not_le.mp h
    rw [numbered_of_lt hlt]
    refine ⟨?_, [], .nil, ?_⟩
    · rw [l2capSendOutputReport, if_pos hlt]
      exact hn
    · rw [l2capSendOutputReport, if_pos hlt, List.flatMap_nil, List.append_nil]

/-! ## One event of the gadget -/

/-- A frame of the control channel is no output report. -/
theorem filter_sentOn {c : Channel} {hidpHeader : UInt8} (h : (hidpHeader == HIDP_DATA_OUTPUT) = false)
    (data : List UInt8) :
    (r.sentOn .toDualsense c (hidpHeader :: data)).filter Sent.isOutput = [] := by
  refine List.filter_eq_nil_iff.mpr fun f hf ↦ ?_
  rw [((r.mem_sentOn _).mp hf).2.2, Sent.isOutput]
  exact Bool.not_eq_true _ ▸ Bool.and_eq_false_iff.mpr (.inr h)

@[simp] theorem frames_ep0Ack : r.ep0Ack.frames = r.frames := by
  unfold ep0Ack
  extract_lets result r₁
  have h₁ : r₁.frames = r.frames := by simp [r₁]
  split
  · exact h₁
  · rw [frames_ep0StageFailed, h₁]

@[simp] theorem frames_submitOutputRead : r.submitOutputRead.frames = r.frames := by
  unfold submitOutputRead
  extract_lets ok r₁
  have h₁ : r₁.frames = r.frames := by simp [r₁]
  split
  · rfl
  · split
    · rw [frames_onUsb, h₁]
    · exact h₁

theorem padOutputs_beginGetReport (reportId : UInt8) (length : UInt16) :
    (r.beginGetReport reportId length).padOutputs = r.padOutputs := by
  unfold beginGetReport
  split
  · rw [padOutputs, frames_ep0Reply, padOutputs]
  · rw [padOutputs, l2capGetReport, frames_l2capSendHid, List.filter_append, filter_sentOn rfl,
      List.append_nil]
    rfl

/-- A data stage. -/
theorem builds_takeSetReport (req : UsbSetup) :
    Builds (if (req.value >>> (8 : UInt16)).toUInt8 = REPORT_TYPE_OUTPUT then [req.dataStage] else []) r
      (r.takeSetReport req) := by
  by_cases hout : (req.value >>> (8 : UInt16)).toUInt8 = REPORT_TYPE_OUTPUT
  · rw [if_pos hout]
    have hempty : ∀ {r' : Relay}, Builds [] r r' → Builds [[]] r r' := fun h ↦ h
    unfold takeSetReport UsbSetup.dataStage
    cases req.data with
    | error result =>
      have hw : Performs (Op.Within {.reports}) r (r.ep0StageFailed result USB_DIR_OUT) :=
        within_ep0StageFailed r (by simp) _ _
      exact hempty (.of_within hw (by simp) (by rw [padOutputs, frames_ep0StageFailed, padOutputs]))
    | ok bytes =>
      dsimp only
      by_cases hnil : ((bytes.take req.length.toNat).take REPORT_LENGTH).isEmpty = true
      · rw [if_pos hnil, List.isEmpty_iff.mp hnil]
        exact hempty (.silent rfl rfl rfl)
      · rw [if_neg hnil, if_pos hout]
        exact builds_l2capSendOutputReport _
  · rw [if_neg hout]
    have hw : Performs (Op.Within {.keys, .handover, .reports}) r (r.takeSetReport req) := by
      unfold takeSetReport
      split
      · exact within_ep0StageFailed r (by simp) _ _
      · dsimp only
        rw [if_neg hout]
        exact .ite (fun _ ↦ .refl r) fun _ ↦ within_l2capSendFeatureSet r (by simp) (by simp) _
    refine .of_within hw (by simp) ?_
    rw [padOutputs, r.frames_takeSetReport hout, List.filter_append]
    split
    · rw [featureFrame, List.cons_append, filter_sentOn (by rfl), List.append_nil, padOutputs]
    · rw [List.filter_nil, List.append_nil, padOutputs]

theorem builds_handleUsbEvent (e : UsbEvent) : Builds e.outputReport?.toList r (r.handleUsbEvent e) := by
  have hdown : Builds [] r r.onEndpointsDisabled :=
    .of_within (A := {.endpoints}) (within_onEndpointsDisabled r (by simp)) (by simp) rfl
  cases e with
  | unbind => exact hdown
  | disable => exact hdown
  | enable =>
    refine .of_within (A := {.endpoints}) (within_onEndpointsEnabled r (by simp)) (by simp) ?_
    show (ite _ _ _ : Relay).padOutputs = _
    split
    · rfl
    · rw [padOutputs, frames_submitOutputRead, frames_onUsb, padOutputs]
  | setup req =>
    have hquiet : ∀ {r'}, Performs (Op.Within {.reports}) r r' → r'.frames = r.frames → Builds [] r r' :=
      fun hw hf ↦ .of_within hw (by simp) (by rw [padOutputs, hf, padOutputs])
    have hreply : ∀ data, Builds [] r (r.ep0Reply data) := fun data ↦
      hquiet (within_ep0Reply r (by simp) data) (r.frames_ep0Reply data)
    have hstall : Builds [] r (r.ep0Stall req.requestType) := hquiet (within_emit r (by rfl)) (by simp [ep0Stall])
    rw [handleUsbEvent, handleSetup, UsbEvent.outputReport?]
    cases classify req.requestType req.request req.value with
    | setReport =>
      dsimp only
      have h := r.builds_takeSetReport req
      split at h
      · rw [if_pos ⟨rfl, ‹_›⟩]
        exact h
      · rw [if_neg fun hn ↦ ‹¬ _› hn.2]
        exact h
    | getReport =>
      exact .of_within (A := {.reports}) (within_beginGetReport r (by simp) _ _) (by simp)
        (r.padOutputs_beginGetReport _ _)
    | setIdle =>
      refine hquiet (.trans (quiet_onUsb r fun _ ↦ ⟨by rfl, by rfl, by rfl⟩).within (within_ep0Ack _ (by simp))) ?_
      rw [frames_ep0Ack, frames_onUsb]
    | getReportDescriptor => exact hreply _
    | getHidDescriptor => exact hreply _
    | getIdle => exact hreply _
    | getProtocol => exact hreply _
    | setProtocol => exact hstall
    | unsupported => exact hstall

/-! ## One step -/

theorem builds_readEp0 (events : List UsbEvent) :
    Builds (r.outputReports (.ep0 events)) r (r.readEp0 events) := by
  rw [outputReports, readEp0]
  split
  · clear * -
    induction events generalizing r with
    | nil => exact .silent rfl rfl rfl
    | cons e events ih =>
      have hrest := ih (r := r.handleUsbEvent e)
      have hcons : (e :: events).filterMap UsbEvent.outputReport?
          = e.outputReport?.toList ++ events.filterMap UsbEvent.outputReport? := by
        cases h : e.outputReport? with
        | none => rw [List.filterMap_cons_none h]; rfl
        | some report => rw [List.filterMap_cons_some h]; rfl
      rw [hcons]
      exact (builds_handleUsbEvent e).trans hrest
  · exact .silent rfl rfl rfl

theorem builds_outputCompletion (result : Option (List UInt8)) :
    Builds (r.outputReports (.outputDone result)) r (r.outputCompletion result) := by
  have hread : ∀ r' : Relay, Builds [] r' r'.submitOutputRead := fun r' ↦
    .of_within (A := {.endpoints}) (within_submitOutputRead r' (by simp)) (by simp)
      (by rw [padOutputs, frames_submitOutputRead, padOutputs])
  cases result with
  | none =>
    rw [outputCompletion]
    split <;> exact .silent rfl rfl rfl
  | some data =>
    rw [outputReports, outputCompletion]
    split
    · unfold onOutputDone
      extract_lets r₁
      dsimp only
      generalize data.take REPORT_LENGTH = data
      have h₁ : Builds [] r r₁ := .silent rfl rfl rfl
      have hbuilt : Builds [data] r₁ (if data.isEmpty then r₁ else r₁.l2capSendOutputReport .toDualsense data) := by
        split
        · rename_i hnil
          rw [List.isEmpty_iff.mp hnil]
          exact (Builds.silent rfl rfl rfl : Builds [] r₁ r₁)
        · exact builds_l2capSendOutputReport data
      exact (h₁.trans hbuilt).trans (hread _)
    · exact .silent rfl rfl rfl

/-- One step; an input that brings no output report uses no number. -/
theorem step_builds (r : Relay) (i : Input) :
    Builds (r.outputReports i) r (r.step i) ∨ r.outputReports i = [] ∧ (r.step i).outputSeq = r.outputSeq := by
  have hother : r.outputReports i = [] → (∀ events, i ≠ .ep0 events) → (∀ result, i ≠ .outputDone result) →
      r.outputReports i = [] ∧ (r.step i).outputSeq = r.outputSeq := by
    intro hnone hep0 hdone
    refine ⟨hnone, congrArg UInt8.toNat (outputSeq_eq (step_move r i).within _ fun hA ↦ ?_)⟩
    have hg := fun j ↦ r.eq_of_gadgetInput? (i := i) (j := j)
    revert hA hg
    generalize r.cause i = cause
    intro hA hg
    cases cause with
    | ep0 events => exact hep0 events (hg _ rfl)
    | outputDone result => exact hdone result (hg _ rfl)
    | event s e => cases e <;> simp [Cause.aspects] at hA
    | acl => simp [Cause.aspects, aclAspects] at hA
    | _ => simp [Cause.aspects] at hA
  cases i with
  | ep0 events => exact .inl (r.builds_readEp0 events)
  | outputDone result => exact .inl (r.builds_outputCompletion result)
  | _ => exact .inr (hother rfl (fun _ h ↦ by cases h) fun _ h ↦ by cases h)

end Relay

/-- **Output reports are well formed in sequence.** -/
theorem output_reports_in_sequence (c : Config) (is : List Input) :
    Along (withHistory Relay.step countOutputs) BuildsInOrder (.init c, 0) is := by
  have hall : Along (withHistory Relay.step countOutputs) (fun _ _ ↦ True) (.init c, 0) is :=
    along_iff_prefixes.mpr fun _ _ _ ↦ trivial
  let Inv (q : Relay × ℕ) : Prop := q.1.outputSeq = q.2 % 16
  have hinit : Inv (.init c, 0) := rfl
  refine hall.of_invariant hinit ?_
  rintro ⟨r, n⟩ i hseq -
  obtain ⟨sent, hsent, -⟩ := (step_move r i).within.out
  rcases r.step_builds i with hbuilds | ⟨hnone, hkept⟩
  · obtain ⟨hnext, bts, hbts, hout⟩ := hbuilds.2 n hseq
    refine ⟨hnext, bts, hbts, fun _ ↦ ?_⟩
    have hframes : (r.step i).frames = r.frames ++ sent.filterMap Output.sent? := by
      rw [frames, hsent, List.filterMap_append, frames]
    rw [padOutputs, hframes, List.filter_append] at hout
    rw [hframes, List.drop_left]
    exact List.append_cancel_left hout
  · refine ⟨?_, [], ?_, fun hn ↦ absurd hnone hn⟩
    · show (r.step i).outputSeq = (n + _) % 16
      rw [hkept, hnone]
      exact hseq
    · show List.Forall₂ _ (numbered n (r.outputReports i)) []
      rw [hnone]
      exact .nil

end DualSenseMitm
