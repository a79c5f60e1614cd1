import DualSenseMitm.Sending

/-!
# Feature reports written to the pad

The console writes feature reports to the pad over two transports.  What comes over the cable is cut,
padded and sealed for Bluetooth, and two reports are kept back; what comes over the radio goes through as
it is.

* `featureFrame` — the frame a data stage stands for, and `Forwarded` — whether there is one.
* `feature_writes_forwarded` — a sequence of data stages is forwarded frame by frame.
* `Repoints` — a frame that would make the pad leave, and `repointing_kept_back` — when none is sent.
-/

set_option autoImplicit false

namespace DualSenseMitm

open Bytes Machine Relay

/-! ## What is forwarded -/

/-- The data stage of a SET_REPORT. -/
def UsbSetup.dataStage (req : UsbSetup) : List UInt8 :=
  match req.data with
  | .error _ => []
  | .ok data => (data.take req.length.toNat).take REPORT_LENGTH

/-- The size a feature report has over Bluetooth: the declared one, or with its checksum. -/
def bluetoothSize (report : List UInt8) : ℕ :=
  if featureReportSize (byteAt report 0) = 0 then report.length + 4
  else featureReportSize (byteAt report 0)

/-- The frame of a feature report: its bytes, cut or padded to what its size leaves beside the
checksum, and the checksum of everything before it. -/
def featureFrame (report : List UInt8) : List UInt8 :=
  let size := bluetoothSize report
  let body := report.take (size - 4) ++ List.replicate (size - 4 - report.length) 0
  HIDP_SET_FEATURE :: body ++ put32 (Crc32.update 0 (HIDP_SET_FEATURE :: body))

/-- The report is neither 0x0a nor the command of 0x08 that makes the pad leave, and its size is not
known or leaves room for a checksum. -/
def Forwarded (report : List UInt8) : Prop :=
  report ≠ [] ∧ byteAt report 0 ≠ REPORT_PAIRING_SET
    ∧ ¬ (byteAt report 0 = REPORT_TRANSPORT ∧ 1 < report.length ∧ byteAt report 1 = TRANSPORT_UNPAIR)
    ∧ (featureReportSize (byteAt report 0) = 0 ∨ 5 ≤ featureReportSize (byteAt report 0))

instance (report : List UInt8) : Decidable (Forwarded report) := inferInstanceAs (Decidable (_ ∧ _))

theorem length_featureFrame {report : List UInt8} (h : 4 ≤ bluetoothSize report) :
    (featureFrame report).length = 1 + bluetoothSize report := by
  simp only [featureFrame, put32, List.length_cons, List.length_append, List.length_take, List.length_replicate,
    List.length_nil]
  omega

/-- A sealed report is what comes before its last four bytes, and its checksum. -/
theorem appendCrc32_append (seed : UInt8) (body : List UInt8) {tail : List UInt8} (h : tail.length = 4) :
    appendCrc32 seed (body ++ tail) = body ++ put32 (crc32Seeded seed body) := by
  have hlen : (body ++ tail).length - 4 = body.length := by
    rw [List.length_append, h]
    exact Nat.add_sub_cancel _ _
  have hdrop : (body ++ tail).drop (body.length + (put32 (crc32Seeded seed body)).length) = [] := by
    rw [List.drop_eq_nil_iff, List.length_append, h]
    rfl
  rw [appendCrc32, overwrite, hlen, List.take_left, hdrop, List.append_nil]

namespace Relay

variable (r : Relay)

/-- What a feature report sends to the pad. -/
theorem frames_l2capSendHidFeatureSet (s : ConnectionSide) (report : List UInt8) :
    (r.l2capSendHidFeatureSet s report).frames
      = r.frames ++ if bluetoothSize report < 5 then []
          else r.sentOn s .hidControl (featureFrame report) := by
  unfold l2capSendHidFeatureSet
  extract_lets declared btSize data buf
  have hsize : btSize = bluetoothSize report := rfl
  rw [hsize]
  by_cases h : bluetoothSize report < 5
  · rw [if_pos h, if_pos h, List.append_nil]
  · have hbuf : buf = report.take (bluetoothSize report - 4)
        ++ List.replicate (bluetoothSize report - 4 - report.length) 0 ++ List.replicate 4 0 := by
      have hdata : data = report.take (bluetoothSize report - 4) := rfl
      have hpad : bluetoothSize report - data.length = bluetoothSize report - 4 - report.length + 4 := by
        rw [hdata, List.length_take]
        omega
      rw [List.append_assoc, List.replicate_append_replicate, ← hpad, ← hdata]
      rfl
    rw [if_neg h, if_neg h, frames_l2capSendHid, hbuf, appendCrc32_append _ _ (List.length_replicate), crc32Seeded_eq]
    rfl

@[simp] theorem frames_takePairingSet (s : ConnectionSide) (report : List UInt8) :
    (r.takePairingSet s report).frames = r.frames := by
  unfold takePairingSet
  extract_lets key host r₁
  have h₁ : r₁.frames = r.frames := by simp [r₁]
  split
  · split
    · split <;> simp [h₁]
    · simp [h₁]
  · rfl

/-- The subcommand of a report 0x08 that is the one to leave. -/
theorem unpair_iff (report : List UInt8) :
    (if 1 < report.length then byteAt report 1 else 0) = TRANSPORT_UNPAIR
      ↔ 1 < report.length ∧ byteAt report 1 = TRANSPORT_UNPAIR := by
  split
  · rename_i h
    rw [and_iff_right h]
  · rename_i h
    exact iff_of_false (by decide) fun hn ↦ h hn.1

theorem frames_takeTransport (s : ConnectionSide) (report : List UInt8) :
    (r.takeTransport s report).frames
      = if 1 < report.length ∧ byteAt report 1 = TRANSPORT_UNPAIR then r.frames
        else (r.l2capSendHidFeatureSet s report).frames := by
  unfold takeTransport
  extract_lets sub r₁ r₂
  have h₂ : r₂.frames = (r.l2capSendHidFeatureSet s report).frames := by
    have hdcid : r₁.dcid = r.dcid := by
      funext t c
      simp [r₁, dcid]
    rw [frames_l2capSendHidFeatureSet, frames_l2capSendHidFeatureSet, sentOn, sentOn, hdcid]
    rfl
  by_cases h : sub = TRANSPORT_UNPAIR
  · rw [if_pos h, if_pos ((unpair_iff report).mp h)]
  · rw [if_neg h, if_neg fun hn ↦ h ((unpair_iff report).mpr hn), ← h₂]
    split <;> rfl

/-! ## One data stage -/

/-- A size is not known or leaves room for a checksum. -/
theorem roomForChecksum_iff {report : List UInt8} (hne : report ≠ []) :
    (featureReportSize (byteAt report 0) = 0 ∨ 5 ≤ featureReportSize (byteAt report 0))
      ↔ ¬ bluetoothSize report < 5 := by
  have hlen := List.length_pos_iff.mpr hne
  rw [bluetoothSize]
  split <;> omega

/-- No feature report has a declared size of more than 64 bytes. -/
theorem featureReportSize_le (reportId : UInt8) : featureReportSize reportId ≤ 64 := by
  unfold featureReportSize
  split <;> decide

theorem fits_featureFrame {report : List UInt8} (hlen : report.length ≤ REPORT_LENGTH)
    (h : 5 ≤ bluetoothSize report) : tooLarge (featureFrame report) = false := by
  have hsize : bluetoothSize report ≤ 68 := by
    rw [bluetoothSize]
    split
    · exact Nat.add_le_add_right hlen 4
    · exact (featureReportSize_le _).trans (by decide)
  rw [tooLarge, length_featureFrame (Nat.le_of_succ_le h)]
  exact decide_eq_false (by omega)

/-- What a report written over the cable sends to the pad. -/
theorem frames_l2capSendFeatureSet (s : ConnectionSide) (report : List UInt8) :
    (r.l2capSendFeatureSet s report).frames
      = r.frames ++ if Forwarded report then r.sentOn s .hidControl (featureFrame report) else [] := by
  unfold l2capSendFeatureSet
  by_cases hempty : report.length < 1
  · rw [if_pos hempty, if_neg fun h ↦ h.1 (List.length_eq_zero_iff.mp (by omega)), List.append_nil]
  have hne : report ≠ [] := fun h ↦ hempty (by rw [h]; decide)
  -- a report that is not kept back is sent if it has room for a checksum
  have hsent : byteAt report 0 ≠ REPORT_PAIRING_SET →
      ¬ (byteAt report 0 = REPORT_TRANSPORT ∧ 1 < report.length ∧ byteAt report 1 = TRANSPORT_UNPAIR) →
      (r.l2capSendHidFeatureSet s report).frames
        = r.frames ++ if Forwarded report then r.sentOn s .hidControl (featureFrame report) else [] := by
    intro hset hunpair
    have hforward : Forwarded report ↔ ¬ bluetoothSize report < 5 := by
      rw [Forwarded, roomForChecksum_iff hne]
      exact ⟨fun h ↦ h.2.2.2, fun h ↦ ⟨hne, hset, hunpair, h⟩⟩
    rw [frames_l2capSendHidFeatureSet]
    by_cases h : bluetoothSize report < 5
    · rw [if_pos h, if_neg fun hf ↦ hforward.mp hf h]
    · rw [if_neg h, if_pos (hforward.mpr h)]
  rw [if_neg hempty]
  by_cases hset : byteAt report 0 = REPORT_PAIRING_SET
  · rw [if_pos hset, if_neg fun h ↦ h.2.1 hset, frames_takePairingSet, List.append_nil]
  rw [if_neg hset]
  by_cases htransport : byteAt report 0 = REPORT_TRANSPORT
  · rw [if_pos htransport, frames_takeTransport]
    by_cases hunpair : 1 < report.length ∧ byteAt report 1 = TRANSPORT_UNPAIR
    · rw [if_pos hunpair, if_neg fun h ↦ h.2.2.1 ⟨htransport, hunpair⟩, List.append_nil]
    · rw [if_neg hunpair]
      exact hsent hset fun h ↦ hunpair h.2
  · rw [if_neg htransport]
    exact hsent hset fun h ↦ htransport h.1

theorem streams_l2capSendHidFeatureSet (s t : ConnectionSide) (report : List UInt8) :
    ((r.l2capSendHidFeatureSet s report).h t).streams = (r.h t).streams := by
  unfold l2capSendHidFeatureSet l2capSendHid l2capSendFramed
  extract_lets declared btSize data buf
  split
  · rfl
  · split <;> simp

theorem streams_takePairingSet (s t : ConnectionSide) (report : List UInt8) :
    ((r.takePairingSet s report).h t).streams = (r.h t).streams := by
  unfold takePairingSet
  extract_lets key host r₁
  have h₁ : (r₁.h t).streams = (r.h t).streams := by simp [r₁]
  split
  · split
    · split <;> simp [h₁]
    · simp [h₁]
  · rfl

/-- The pair command has been seen behind a report if it had been before, or if the report is a forwarded
0x08. -/
theorem pairCommandSeen_l2capSendFeatureSet (report : List UInt8) :
    ((r.l2capSendFeatureSet .toDualsense report).h .toDualsense).streams.pairCommandSeen
      = ((r.h .toDualsense).streams.pairCommandSeen
          || decide (Forwarded report ∧ byteAt report 0 = REPORT_TRANSPORT)) := by
  unfold l2capSendFeatureSet
  by_cases hempty : report.length < 1
  · have hno : ¬ (Forwarded report ∧ byteAt report 0 = REPORT_TRANSPORT) :=
      fun h ↦ h.1.1 (List.length_eq_zero_iff.mp (by omega))
    rw [if_pos hempty, decide_eq_false hno, Bool.or_false]
  have hne : report ≠ [] := fun h ↦ hempty (by rw [h]; decide)
  rw [if_neg hempty]
  by_cases htransport : byteAt report 0 = REPORT_TRANSPORT
  · have hset : byteAt report 0 ≠ REPORT_PAIRING_SET := by
      rw [htransport]
      decide
    have hsize : 5 ≤ featureReportSize (byteAt report 0) := by
      rw [htransport]
      decide
    rw [if_neg hset, if_pos htransport]
    unfold takeTransport
    extract_lets sub r₁ r₂
    by_cases hunpair : sub = TRANSPORT_UNPAIR
    · have hno : ¬ (Forwarded report ∧ byteAt report 0 = REPORT_TRANSPORT) :=
        fun h ↦ h.1.2.2.1 ⟨htransport, (unpair_iff report).mp hunpair⟩
      rw [if_pos hunpair, decide_eq_false hno, Bool.or_false]
    · have hyes : Forwarded report ∧ byteAt report 0 = REPORT_TRANSPORT :=
        ⟨⟨hne, hset, fun h ↦ hunpair ((unpair_iff report).mpr h.2), .inr hsize⟩, htransport⟩
      have h₂ : (r₂.h .toDualsense).streams.pairCommandSeen = true := by
        rw [streams_l2capSendHidFeatureSet]
        simp [r₁]
      rw [if_neg hunpair, decide_eq_true hyes, Bool.or_true]
      split
      · exact h₂
      · exact h₂
  · have hno : ¬ (Forwarded report ∧ byteAt report 0 = REPORT_TRANSPORT) := fun h ↦ htransport h.2
    rw [if_neg htransport, decide_eq_false hno, Bool.or_false]
    split
    · rw [streams_takePairingSet]
    · rw [streams_l2capSendHidFeatureSet]

theorem within_l2capSendFeatureSet {A : Set Aspect} (hK : .keys ∈ A) (hH : .handover ∈ A)
    (report : List UInt8) : Performs (Op.Within A) r (r.l2capSendFeatureSet .toDualsense report) :=
  .ite (fun _ ↦ .refl r) fun _ ↦ .ite (fun _ ↦ within_takePairingSet r _ hK report) fun _ ↦
    .ite (fun _ ↦ within_takeTransport r hH report) fun _ ↦
      (quiet_l2capSendHidFeatureSet r report).within

/-- What a data stage sends to the pad. -/
theorem frames_takeSetReport {req : UsbSetup}
    (hfeature : (req.value >>> (8 : UInt16)).toUInt8 ≠ REPORT_TYPE_OUTPUT) :
    (r.takeSetReport req).frames
      = r.frames ++ if Forwarded req.dataStage then
          r.sentOn .toDualsense .hidControl (featureFrame req.dataStage) else [] := by
  unfold takeSetReport UsbSetup.dataStage
  cases req.data with
  | error result => rw [frames_ep0StageFailed, if_neg fun h ↦ h.1 rfl, List.append_nil]
  | ok bytes =>
    dsimp only
    by_cases hempty : ((bytes.take req.length.toNat).take REPORT_LENGTH).isEmpty = true
    · rw [if_pos hempty, if_neg fun h ↦ h.1 (List.isEmpty_iff.mp hempty), List.append_nil]
    · rw [if_neg hempty, if_neg hfeature]
      exact r.frames_l2capSendFeatureSet _ _

theorem pairCommandSeen_takeSetReport {req : UsbSetup}
    (hfeature : (req.value >>> (8 : UInt16)).toUInt8 ≠ REPORT_TYPE_OUTPUT) :
    ((r.takeSetReport req).h .toDualsense).streams.pairCommandSeen
      = ((r.h .toDualsense).streams.pairCommandSeen
          || decide (Forwarded req.dataStage ∧ byteAt req.dataStage 0 = REPORT_TRANSPORT)) := by
  unfold takeSetReport UsbSetup.dataStage
  cases req.data with
  | error result =>
    have hno : ¬ (Forwarded [] ∧ byteAt [] 0 = REPORT_TRANSPORT) := fun h ↦ h.1.1 rfl
    dsimp only
    rw [decide_eq_false hno, Bool.or_false, ep0StageFailed]
    split <;> rfl
  | ok bytes =>
    dsimp only
    by_cases hempty : ((bytes.take req.length.toNat).take REPORT_LENGTH).isEmpty = true
    · rw [if_pos hempty, decide_eq_false fun h ↦ h.1.1 (List.isEmpty_iff.mp hempty), Bool.or_false]
    · rw [if_neg hempty, if_neg hfeature]
      exact r.pairCommandSeen_l2capSendFeatureSet _

theorem within_takeSetReport {A : Set Aspect} (hK : .keys ∈ A) (hH : .handover ∈ A) (hR : .reports ∈ A)
    (hO : .outputs ∈ A) (req : UsbSetup) : Performs (Op.Within A) r (r.takeSetReport req) := by
  unfold takeSetReport
  split
  · exact within_ep0StageFailed r hR _ _
  · dsimp only
    exact .ite (fun _ ↦ .refl r) fun _ ↦ .ite (fun _ ↦ within_l2capSendOutputReport r hO _)
      fun _ ↦ within_l2capSendFeatureSet r hK hH _

/-- No SET_REPORT opens or closes a channel. -/
@[simp] theorem dcid_takeSetReport (req : UsbSetup) (s : ConnectionSide) :
    (r.takeSetReport req).dcid s = r.dcid s := by
  have hw : Performs (Op.Within {.keys, .handover, .reports, .outputs}) r (r.takeSetReport req) :=
    within_takeSetReport r (by simp) (by simp) (by simp) (by simp) req
  exact dcid_eq hw s (by simp) (by simp)

end Relay

/-! ## A sequence of data stages -/

theorem UsbSetup.length_dataStage (req : UsbSetup) : req.dataStage.length ≤ REPORT_LENGTH := by
  rw [dataStage]
  split
  · exact Nat.zero_le _
  · exact List.length_take_le _ _

/-- A report that is forwarded is one frame. -/
theorem sentOn_featureFrame (r : Relay) (hopen : r.dcid .toDualsense .hidControl ≠ 0) {report : List UInt8}
    (hlen : report.length ≤ REPORT_LENGTH) (h : Forwarded report) :
    r.sentOn .toDualsense .hidControl (featureFrame report)
      = [⟨.toDualsense, r.dcid .toDualsense .hidControl, featureFrame report⟩] := by
  have hsize := Nat.not_lt.mp ((roomForChecksum_iff h.1).mp h.2.2.2)
  rw [sentOn, if_neg hopen, frameOf, fits_featureFrame hlen hsize, if_neg (by decide)]

/-- **Feature reports written over the cable are forwarded exactly.**  While the pad's control channel is
open, a sequence of data stages sends the frames of those that are forwarded, in their order and one each;
and the pair command has been seen behind it exactly if it had been before, or if a 0x08 was forwarded. -/
theorem feature_writes_forwarded (r : Relay) (reqs : List UsbSetup)
    (hopen : r.dcid .toDualsense .hidControl ≠ 0)
    (hfeature : ∀ req ∈ reqs, (req.value >>> (8 : UInt16)).toUInt8 ≠ REPORT_TYPE_OUTPUT) :
    (reqs.foldl takeSetReport r).frames
        = r.frames ++ ((reqs.map UsbSetup.dataStage).filter (Forwarded ·)).map
            (fun report ↦ ⟨.toDualsense, r.dcid .toDualsense .hidControl, featureFrame report⟩)
      ∧ ((reqs.foldl takeSetReport r).h .toDualsense).streams.pairCommandSeen
        = ((r.h .toDualsense).streams.pairCommandSeen
            || ((reqs.map UsbSetup.dataStage).filter (Forwarded ·)).any fun report ↦
              byteAt report 0 == REPORT_TRANSPORT) := by
  induction reqs generalizing r with
  | nil => simp
  | cons req reqs ih =>
    have hreq := hfeature req (by simp)
    obtain ⟨hframes, hseen⟩ := ih (r.takeSetReport req) (by rwa [dcid_takeSetReport])
      fun req' hreq' ↦ hfeature req' (by simp [hreq'])
    rw [dcid_takeSetReport, r.frames_takeSetReport hreq] at hframes
    rw [r.pairCommandSeen_takeSetReport hreq] at hseen
    rw [List.foldl_cons, List.map_cons, hframes, hseen]
    by_cases h : Forwarded req.dataStage
    · rw [if_pos h, List.filter_cons_of_pos (by simpa using h),
        sentOn_featureFrame r hopen req.length_dataStage h]
      constructor
      · rw [List.map_cons, List.append_assoc]
        rfl
      · rw [List.any_cons, ← Bool.or_assoc]
        congr 2
        by_cases hid : byteAt req.dataStage 0 = REPORT_TRANSPORT <;> simp [h, hid]
    · rw [if_neg h, List.filter_cons_of_neg (by simpa using h), List.append_nil,
        decide_eq_false fun hn ↦ h hn.1, Bool.or_false]
      exact ⟨rfl, rfl⟩

/-- The pad has opened its control channel, and the console is there. -/
def padControlOpen : Relay :=
  run step (.init .session) (Input.bothLinked ++ [.openChannel .toDualsense 1 Channel.hidControl.psm 0x41])

/-- A SET_REPORT of a feature report. -/
def setFeature (data : List UInt8) : UsbSetup :=
  { requestType := 0x21, request := 0x09, value := 0x0300, length := 64, data := .ok data }

/-- The command that makes the pad leave is kept back, and the one that calls it goes through. -/
theorem feature_writes_forwarded_pair :
    ((([[0x08, 0x02], [0x08, 0x01]].map setFeature).foldl takeSetReport padControlOpen).frames
        = padControlOpen.frames ++ [⟨.toDualsense, 0x41, featureFrame [0x08, 0x01]⟩])
      ∧ ((([[0x08, 0x02], [0x08, 0x01]].map setFeature).foldl takeSetReport padControlOpen).h
          .toDualsense).streams.pairCommandSeen = true := by
  have hopen : padControlOpen.dcid .toDualsense .hidControl = 0x41 := by decide +kernel
  have hseen : (padControlOpen.h .toDualsense).streams.pairCommandSeen = false := by decide +kernel
  obtain ⟨hframes, hpair⟩ := feature_writes_forwarded padControlOpen ([[0x08, 0x02], [0x08, 0x01]].map setFeature)
    (by rw [hopen]; decide) (by decide)
  rw [hopen] at hframes
  rw [hseen] at hpair
  exact ⟨hframes, hpair⟩

/-! ## What must not reach the pad -/

/-- A SET_FEATURE that carries the report 0x0a, or the command of 0x08 that makes the pad leave. -/
def Repoints (payload : List UInt8) : Prop :=
  byteAt payload 0 = HIDP_SET_FEATURE
    ∧ (byteAt payload 1 = REPORT_PAIRING_SET
      ∨ byteAt payload 1 = REPORT_TRANSPORT ∧ byteAt payload 2 = TRANSPORT_UNPAIR)

instance (payload : List UInt8) : Decidable (Repoints payload) := inferInstanceAs (Decidable (_ ∧ _))

/-- What the console writes to the pad. -/
inductive ConsoleWrite
  /-- A SET_REPORT over the cable. -/
  | overUsb (req : UsbSetup)
  /-- A payload on its control channel. -/
  | overRadio (payload : List UInt8)

/-- A write over the radio that makes the pad leave. -/
def ConsoleWrite.Repoints : ConsoleWrite → Prop
  | .overUsb _ => False
  | .overRadio payload => tooLarge payload = false ∧ DualSenseMitm.Repoints payload

namespace Relay

/-- One write of the console; a payload that is empty is not handed on. -/
def takeWrite (r : Relay) : ConsoleWrite → Relay
  | .overUsb req => r.takeSetReport req
  | .overRadio payload =>
    if payload.isEmpty then r else r.routePayload .toPlaystation Channel.hidControl.scid payload

/-- The pad's control channel takes what the console writes to it over the radio. -/
def RelaysControl (r : Relay) : Prop := r.linked = true ∧ r.dcid .toDualsense .hidControl ≠ 0

/-- What the console writes over the radio goes through to the pad. -/
theorem frames_handleFeatureRequestFromConsole (r : Relay) {payload : List UInt8} (hne : payload ≠ []) :
    (r.handleFeatureRequestFromConsole .toPlaystation payload).frames
      = r.frames ++ if r.linked then r.sentOn .toDualsense .hidControl payload else [] := by
  have hcons : byteAt payload 0 :: payload.drop 1 = payload := by
    cases payload with
    | nil => exact absurd rfl hne
    | cons x rest => rfl
  unfold handleFeatureRequestFromConsole
  extract_lets r₁
  have h₁ : Performs (Op.Within {.console .toPlaystation}) r r₁ :=
    .ite (fun _ ↦ within_onConsole r _ (by rfl) fun _ ↦ ⟨rfl, rfl⟩) fun _ ↦ .refl r
  have hframes : r₁.frames = r.frames := by
    show Relay.frames (ite _ _ _) = _
    split <;> rfl
  have hdcid : r₁.dcid .toDualsense = r.dcid .toDualsense :=
    dcid_eq h₁ _ (by simp) (by simp)
  rw [h₁.linked, ConnectionSide.other_toPlaystation, hdcid, sentOn]
  by_cases hlinked : r.linked = true
  · by_cases hopen : r.dcid .toDualsense .hidControl = 0
    · rw [if_neg fun h ↦ h.2 hopen, if_pos hlinked, if_pos hopen, hframes, List.append_nil]
    · rw [if_pos ⟨hlinked, hopen⟩, if_pos hlinked, if_neg hopen, frames_l2capSendHid, hframes, sentOn, hdcid,
        if_neg hopen, hcons]
  · rw [if_neg fun h ↦ hlinked h.1, if_neg hlinked, hframes, List.append_nil]

end Relay

/-- A report that is forwarded from the cable does not make the pad leave. -/
theorem not_repoints_featureFrame {report : List UInt8} (h : Forwarded report) :
    ¬ Repoints (featureFrame report) := by
  obtain ⟨x, rest, rfl⟩ := List.exists_cons_of_ne_nil h.1
  obtain ⟨n, hn⟩ : ∃ n, bluetoothSize (x :: rest) - 4 = n + 1 := by
    have hsize := (roomForChecksum_iff h.1).mp h.2.2.2
    exact Nat.exists_eq_succ_of_ne_zero (by omega)
  have hid : byteAt (featureFrame (x :: rest)) 1 = x := by
    simp only [featureFrame, hn, List.take_succ_cons]
    rfl
  rintro ⟨-, hset | ⟨htransport, hunpair⟩⟩
  · exact h.2.1 (hid.symm.trans hset)
  · have hx : x = REPORT_TRANSPORT := hid.symm.trans htransport
    subst hx
    cases rest with
    | nil => exact absurd hunpair (by decide)
    | cons y rest => exact h.2.2.1 ⟨rfl, by simp, hunpair⟩

namespace Relay

variable (r : Relay)

/-- Nothing that is sent on the pad's control channel makes the pad leave. -/
def KeepsPad (frames : List Sent) : Prop :=
  ∀ f ∈ frames, f.side = .toDualsense → f.cid = r.dcid .toDualsense .hidControl → ¬ Repoints f.payload

/-- No write over the cable makes the pad leave. -/
theorem frames_overUsb (req : UsbSetup) :
    ∃ sent, (r.takeSetReport req).frames = r.frames ++ sent ∧ ∀ f ∈ sent, ¬ Repoints f.payload := by
  by_cases hfeature : (req.value >>> (8 : UInt16)).toUInt8 = REPORT_TYPE_OUTPUT
  · unfold takeSetReport
    split
    · exact ⟨[], by simp, by simp⟩
    · dsimp only
      rw [if_pos hfeature]
      split
      · exact ⟨[], by simp, by simp⟩
      · obtain ⟨bt, hbt⟩ := r.frames_l2capSendOutputReport .toDualsense
          ((List.take req.length.toNat ‹_›).take REPORT_LENGTH)
        refine ⟨_, hbt, fun f hf ↦ ?_⟩
        split at hf
        · cases hf
        · rw [((r.mem_sentOn _).mp hf).2.2]
          exact fun h ↦ absurd (show HIDP_DATA_OUTPUT = HIDP_SET_FEATURE from h.1) (by decide)
  · refine ⟨_, r.frames_takeSetReport hfeature, ?_⟩
    split
    · rename_i h
      intro f hf
      rw [((r.mem_sentOn _).mp hf).2.2]
      exact not_repoints_featureFrame h
    · intro f hf
      cases hf

theorem KeepsPad.append_iff {l l' : List Sent} :
    r.KeepsPad (l ++ l') ↔ r.KeepsPad l ∧ r.KeepsPad l' := by
  simp only [KeepsPad, List.mem_append, or_imp, forall_and]

/-- What a write sends makes the pad leave exactly if it came over the radio and says so. -/
theorem keepsPad_takeWrite (w : ConsoleWrite) :
    ∃ sent, (r.takeWrite w).frames = r.frames ++ sent
      ∧ (r.KeepsPad sent ↔ (r.RelaysControl → ¬ w.Repoints)) := by
  cases w with
  | overUsb req =>
    obtain ⟨sent, hsent, hkept⟩ := r.frames_overUsb req
    exact ⟨sent, hsent, iff_of_true (fun f hf _ _ ↦ hkept f hf) fun _ h ↦ h⟩
  | overRadio payload =>
    by_cases hempty : payload.isEmpty = true
    · have hnil : payload = [] := List.isEmpty_iff.mp hempty
      refine ⟨[], by simp [takeWrite, hempty], iff_of_true (by simp [KeepsPad]) fun _ h ↦ ?_⟩
      subst hnil
      exact absurd h.2 (by decide)
    · have hne : payload ≠ [] := fun h ↦ hempty (List.isEmpty_iff.mpr h)
      have hstep : r.takeWrite (.overRadio payload)
          = r.handleFeatureRequestFromConsole .toPlaystation payload := if_neg hempty
      rw [hstep]
      refine ⟨_, r.frames_handleFeatureRequestFromConsole hne, ?_⟩
      constructor
      · rintro hkept ⟨hlinked, hopen⟩ ⟨hfits, hrepoints⟩
        rw [if_pos hlinked] at hkept
        exact hkept _ ((r.mem_sentOn _).mpr ⟨hopen, hfits, rfl⟩) rfl rfl hrepoints
      · intro h f hf _ _
        split at hf
        · rename_i hlinked
          obtain ⟨hopen, hfits, rfl⟩ := (r.mem_sentOn _).mp hf
          exact fun hrepoints ↦ h ⟨hlinked, hopen⟩ ⟨hfits, hrepoints⟩
        · cases hf

theorem takeWrite_kept (w : ConsoleWrite) :
    (r.takeWrite w).dcid .toDualsense = r.dcid .toDualsense ∧ (r.takeWrite w).linked = r.linked := by
  have hw : Performs (Op.Within {.keys, .handover, .reports, .outputs, .console .toPlaystation}) r
      (r.takeWrite w) := by
    cases w with
    | overUsb req => exact within_takeSetReport r (by simp) (by simp) (by simp) (by simp) req
    | overRadio payload =>
      exact .ite (fun _ ↦ .refl r) fun _ ↦
        within_handleFeatureRequestFromConsole r _ (by simp) rfl payload
  exact ⟨dcid_eq hw _ (by simp) (by simp), hw.linked⟩

end Relay

/-- **When the pad is never made to leave.**  However the console's writes come, over the cable and over the
radio, nothing that is sent on the pad's control channel makes the pad leave, exactly if no payload that
comes over the radio while the pad takes it would. -/
theorem repointing_kept_back (r : Relay) (ws : List ConsoleWrite) :
    r.KeepsPad ((run takeWrite r ws).frames.drop r.frames.length)
      ↔ (r.RelaysControl → ∀ w ∈ ws, ¬ w.Repoints) := by
  have hrun : ∃ sent, (run takeWrite r ws).frames = r.frames ++ sent
      ∧ (r.KeepsPad sent ↔ (r.RelaysControl → ∀ w ∈ ws, ¬ w.Repoints)) := by
    induction ws generalizing r with
    | nil => exact ⟨[], by simp, by simp [KeepsPad]⟩
    | cons w ws ih =>
      obtain ⟨sent, hsent, hkept⟩ := r.keepsPad_takeWrite w
      obtain ⟨rest, hrest, hkept'⟩ := ih (r.takeWrite w)
      obtain ⟨hdcid, hlinked⟩ := r.takeWrite_kept w
      rw [KeepsPad, RelaysControl, hdcid, hlinked] at hkept'
      refine ⟨sent ++ rest, by rw [run_cons, hrest, hsent, List.append_assoc], ?_⟩
      rw [KeepsPad.append_iff, hkept]
      refine (and_congr_right fun _ ↦ hkept').trans ?_
      simp only [List.forall_mem_cons, RelaysControl]
      exact forall_and.symm
  obtain ⟨sent, hsent, hkept⟩ := hrun
  rw [hsent, List.drop_left]
  exact hkept

/-- The command that makes the pad leave, sent over the radio, goes through as it is. -/
theorem repointing_goes_through :
    ¬ ∀ ws, padControlOpen.KeepsPad ((run takeWrite padControlOpen ws).frames.drop padControlOpen.frames.length) := by
  intro hkept
  have hsent : (⟨.toDualsense, 0x41, [0x53, 0x08, 0x02]⟩ : Sent)
      ∈ (run takeWrite padControlOpen [.overRadio [0x53, 0x08, 0x02]]).frames.drop padControlOpen.frames.length := by
    decide +kernel
  have hopen : padControlOpen.dcid .toDualsense .hidControl = 0x41 := by decide +kernel
  exact hkept _ _ hsent rfl hopen.symm (by decide)

end DualSenseMitm
