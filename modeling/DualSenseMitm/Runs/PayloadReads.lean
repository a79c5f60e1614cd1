import DualSenseMitm.Bluetooth.Layouts
import DualSenseMitm.Runs.FeatureAnswers

/-!
# Whether the payload handlers stay inside their payloads

The handlers of `route_l2cap_pdu` once more, with every read of the payload checked: a function whose name
ends in `?` does what the one without does, and comes to nothing where it would read behind the end.

* `Relay.routePayload?`, `Relay.flushHeldReport?` — the payload of a channel, and the report held back.
* `Relay.Overreads`, `Relay.HeldOverreads` — the cases in which a read lies behind the end.
* `payload_reads_inside` — there are no others.
-/

set_option autoImplicit false

namespace DualSenseMitm

open Bytes Machine Relay

/-- Where the pad's table of hosts starts, how many there are, and how far apart. -/
def PAIRING_LIST_OFFSET : ℕ := 11
def PAIRING_LIST_SLOTS : ℕ := 4
def PAIRING_LIST_STRIDE : ℕ := 7

/-! ## The functions of bytes -/

section transforms

variable (payload : List UInt8)

def carriesControllerState? : Option Bool :=
  if payload.length = 1 + INPUT_BT_SIZE then do
    let flags ← byte? payload BT_FLAGS_OFF
    return (flags &&& FLAG_HAS_HID) != 0
  else some false

def opaqueFrame? : Option Bool :=
  if payload.length = 1 + INPUT_BT_SIZE then do
    let state ← carriesControllerState? payload
    return !state
  else some false

def makeCutDownReport? : Option (List UInt8) := do
  let b := fun i ↦ byte? payload (BT_BODY_OFF + i)
  let buttons2 := ((← b 9) &&& (0x03 : UInt8)) ||| (((← b 6) &&& (0x3f : UInt8)) <<< (2 : UInt8))
  let buttons0 ← b FACE_BUTTON_OFF
  return [REPORT_INPUT_BT_BASIC, ← b 0, ← b 1, ← b 2, ← b 3, buttons0, ← b 8, buttons2, ← b 4, ← b 5]

def makeUsbReport? : Option (List UInt8) := do
  let body ← slice? payload BT_BODY_OFF INPUT_BODY_LEN
  let capacity := byteAt body STATUS_OFF &&& 0x0f
  let charging := if 10 ≤ capacity then STATUS_CHARGING_FULL else STATUS_CHARGING_CHARGING
  return REPORT_INPUT_USB :: body.set STATUS_OFF ((charging <<< (4 : UInt8)) ||| capacity)

def emptySdpAnswer? : Option (List UInt8) := do
  let pdu ← byte? payload 0
  let txn := [← byte? payload 1, ← byte? payload 2]
  if pdu = SDP_SERVICE_SEARCH_REQUEST then
    return SDP_SERVICE_SEARCH_RESPONSE :: txn ++ [0x00, 0x05, 0x00, 0x00, 0x00, 0x00, 0x00]
  else if pdu = SDP_SERVICE_ATTRIBUTE_REQUEST ∨ pdu = SDP_SERVICE_SEARCH_ATTR_REQUEST then
    return (pdu + 1) :: txn ++ [0x00, 0x05, 0x00, 0x02, 0x35, 0x00, 0x00]
  else return SDP_ERROR_RESPONSE :: txn ++ [0x00, 0x02, 0x00, SDP_INVALID_REQUEST_SYNTAX]

variable {payload}

theorem carriesControllerState?_eq : carriesControllerState? payload = some (carriesControllerState payload) := by
  rw [carriesControllerState?, carriesControllerState]
  split
  · rename_i h
    rw [byte?_of_lt (by rw [h]; decide), h]
    rfl
  · rename_i h
    rw [beq_false_of_ne h]
    rfl

theorem opaqueFrame?_eq : opaqueFrame? payload = some (opaqueFrame payload) := by
  rw [opaqueFrame?, opaqueFrame, carriesControllerState?_eq]
  split
  · rename_i h
    rw [h]
    rfl
  · rename_i h
    rw [beq_false_of_ne h]
    rfl

/-- The buttons and axes end at the thirteenth byte. -/
theorem makeCutDownReport?_of_le (h : 13 ≤ payload.length) :
    makeCutDownReport? payload = some (makeCutDownReport payload) := by
  have hbyte : ∀ i ≤ 9, byte? payload (BT_BODY_OFF + i) = some (byteAt payload (BT_BODY_OFF + i)) := by
    intro i hi
    refine byte?_of_lt ?_
    rw [BT_BODY_OFF, INPUT_BODY_OFF_BT]
    omega
  simp only [makeCutDownReport?, hbyte 9 (by decide), hbyte 6 (by decide), hbyte FACE_BUTTON_OFF (by decide),
    hbyte 0 (by decide), hbyte 1 (by decide), hbyte 2 (by decide), hbyte 3 (by decide), hbyte 8 (by decide),
    hbyte 4 (by decide), hbyte 5 (by decide)]
  rfl

theorem makeCutDownReport?_of_lt (h : payload.length < 13) : makeCutDownReport? payload = none := by
  have hbyte : byte? payload (BT_BODY_OFF + 9) = none := byte?_of_le (by rw [BT_BODY_OFF, INPUT_BODY_OFF_BT]; omega)
  rw [makeCutDownReport?]
  simp only [hbyte]
  rfl

theorem makeUsbReport?_eq (h : 1 + INPUT_BODY_OFF_BT + INPUT_BODY_LEN ≤ payload.length) :
    makeUsbReport? payload = some (makeUsbReport payload) := by
  have hbody : slice? payload BT_BODY_OFF INPUT_BODY_LEN = some (slice payload BT_BODY_OFF INPUT_BODY_LEN) :=
    slice?_of_le h
  rw [makeUsbReport?, hbody]
  rfl

theorem emptySdpAnswer?_eq (h : 3 ≤ payload.length) :
    emptySdpAnswer? payload = some (emptySdpAnswer payload) := by
  rw [emptySdpAnswer?, byte?_of_lt (by omega), byte?_of_lt (by omega), byte?_of_lt (by omega), emptySdpAnswer]
  dsimp only [bind, Option.bind_some]
  split
  · rfl
  · split <;> rfl

end transforms

/-! ## The control channels -/

section control

/-- `report[0] == HIDP_DATA_FEATURE && report[1] == id`. -/
def featureIs? (report : List UInt8) (id : UInt8) : Option Bool := do
  if (← byte? report 0) = HIDP_DATA_FEATURE then
    return (← byte? report 1) == id
  else return false

/-- One slot of the pad's table of hosts: the rank is read if the address is set. -/
def pairingListSlot? (report : List UInt8) (i : ℕ) : Option Unit := do
  let entry := PAIRING_LIST_OFFSET + i * PAIRING_LIST_STRIDE
  let host ← slice? report (entry + 1) 6
  if host.all (· == 0) then return ()
  else discard (byte? report entry)

/-- The line of the log: a handshake's only byte, or the first fourteen. -/
def logAnswer? (report : List UInt8) : Option Unit :=
  if report.length = 1 then discard (byte? report 0) else discard (slice? report 0 (min report.length 14))

/-- The host that report 0x09 names. -/
def bondedHost? (report : List UInt8) : Option Unit := do
  if (← featureIs? report REPORT_PAIRING_INFO) ∧ 17 ≤ report.length then discard (slice? report 11 6)

/-- The hosts that report 0x0b names. -/
def hostTable? (report : List UInt8) : Option Unit := do
  if (← featureIs? report REPORT_PAIRING_LIST)
      ∧ PAIRING_LIST_OFFSET + PAIRING_LIST_SLOTS * PAIRING_LIST_STRIDE ≤ report.length then
    (List.range PAIRING_LIST_SLOTS).forM (pairingListSlot? report)

/-- The address in this answer is the one to be written over. -/
def namesPad? (report : List UInt8) : Option Bool := do
  if ← featureIs? report REPORT_PAIRING_INFO then return true
  else featureIs? report REPORT_PAIRING_LIST

/-- The line of the log: the first two bytes of a request. -/
def logRequest? (report : List UInt8) : Option Unit := do
  let _ ← byte? report 0
  if 1 < report.length then discard (byte? report 1)

/-- The console takes full reports from this request on. -/
def asksForFull? (report : List UInt8) (full : Bool) : Option Bool :=
  if 1 < report.length ∧ ¬ full then do
    let id ← byte? report 1
    return id == REPORT_CALIBRATION || id == REPORT_FIRMWARE
  else some false

namespace Relay

/-- A payload is handed to a channel of the other side as it is: its header, and all behind it. -/
def passOn? (r : Relay) (s : ConnectionSide) (c : Channel) (report : List UInt8) : Option Relay := do
  let header ← byte? report 0
  let rest ← slice? report 1 (report.length - 1)
  return r.l2capSendHid s c header rest

def handleFeatureAnswerFromPad? (r : Relay) (s : ConnectionSide) (report : List UInt8) : Option Relay := do
  logAnswer? report
  bondedHost? report
  hostTable? report
  let addr := (r.h s).pairing.ps5SideAddr
  let named ← namesPad? report
  let report := if named ∧ 8 ≤ report.length ∧ addr.isSet then overwrite report 2 addr.bytes else report
  let r ← if r.linked ∧ r.dcid s.other .hidControl ≠ 0 then r.passOn? s.other .hidControl report else some r
  if (← byte? report 0) = HIDP_DATA_FEATURE then
    return r.onFeatureReport (← slice? report 1 (report.length - 1))
  else return r

def handleFeatureRequestFromConsole? (r : Relay) (s : ConnectionSide) (report : List UInt8) :
    Option Relay := do
  logRequest? report
  let full ← asksForFull? report (r.h s).channels.consoleFullReports
  let r := if full then r.onChannels s fun c ↦ { c with consoleFullReports := true } else r
  if r.linked ∧ r.dcid s.other .hidControl ≠ 0 then r.passOn? s.other .hidControl report else some r

end Relay

/-- A feature answer has a byte behind its header. -/
def NamesItsReport (report : List UInt8) : Prop :=
  byteAt report 0 = HIDP_DATA_FEATURE → 1 < report.length

variable {report : List UInt8}

theorem featureIs?_eq (hne : report ≠ []) (h : NamesItsReport report) (id : UInt8) :
    featureIs? report id = some (decide (byteAt report 0 = HIDP_DATA_FEATURE) && byteAt report 1 == id) := by
  rw [featureIs?, byte?_of_lt (List.length_pos_iff.mpr hne)]
  dsimp only [bind, Option.bind_some]
  split
  · rename_i hfeature
    rw [byte?_of_lt (h hfeature), decide_eq_true hfeature, Bool.true_and]
    rfl
  · rename_i hfeature
    rw [decide_eq_false hfeature, Bool.false_and]
    rfl

theorem pairingListSlot?_eq (h : PAIRING_LIST_OFFSET + PAIRING_LIST_SLOTS * PAIRING_LIST_STRIDE ≤ report.length)
    {i : ℕ} (hi : i < PAIRING_LIST_SLOTS) : pairingListSlot? report i = some () := by
  have hentry : PAIRING_LIST_OFFSET + i * PAIRING_LIST_STRIDE + 1 + 6 ≤ report.length := by
    have hi' := Nat.mul_le_mul_right PAIRING_LIST_STRIDE (Nat.succ_le_of_lt hi)
    rw [PAIRING_LIST_STRIDE] at *
    omega
  rw [pairingListSlot?, slice?_of_le hentry, byte?_of_lt (by omega)]
  dsimp only [bind, Option.bind_some]
  split <;> rfl

theorem logAnswer?_eq (hne : report ≠ []) : logAnswer? report = some () := by
  rw [logAnswer?, byte?_of_lt (List.length_pos_iff.mpr hne),
    slice?_of_le (show 0 + min report.length 14 ≤ report.length by omega)]
  split <;> rfl

variable (hne : report ≠ []) (h : NamesItsReport report)
include hne h

theorem bondedHost?_eq : bondedHost? report = some () := by
  rw [bondedHost?, featureIs?_eq hne h]
  dsimp only [bind, Option.bind_some]
  split
  · rename_i hbonded
    rw [slice?_of_le hbonded.2]
    rfl
  · rfl

theorem hostTable?_eq : hostTable? report = some () := by
  rw [hostTable?, featureIs?_eq hne h]
  dsimp only [bind, Option.bind_some]
  split
  · rename_i htable
    exact forM_eq_some fun i hi ↦ pairingListSlot?_eq htable.2 (List.mem_range.mp hi)
  · rfl

theorem namesPad?_eq : namesPad? report = some (decide (byteAt report 0 = HIDP_DATA_FEATURE)
    && (byteAt report 1 == REPORT_PAIRING_INFO || byteAt report 1 == REPORT_PAIRING_LIST)) := by
  rw [namesPad?, featureIs?_eq hne h, featureIs?_eq hne h, Bool.and_or_distrib_left]
  dsimp only [bind, Option.bind_some]
  split
  · rename_i hinfo
    rw [hinfo, Bool.true_or]
    rfl
  · rename_i hinfo
    rw [Bool.eq_false_iff.mpr hinfo, Bool.false_or]

omit h in
theorem logRequest?_eq : logRequest? report = some () := by
  rw [logRequest?, byte?_of_lt (List.length_pos_iff.mpr hne)]
  dsimp only [bind, Option.bind_some]
  split
  · rename_i hlen
    rw [byte?_of_lt hlen]
    rfl
  · rfl

omit hne h in
theorem asksForFull?_eq (full : Bool) : asksForFull? report full = some (decide (1 < report.length ∧ ¬ full
    ∧ (byteAt report 1 = REPORT_CALIBRATION ∨ byteAt report 1 = REPORT_FIRMWARE))) := by
  rw [asksForFull?]
  split
  · rename_i hasks
    rw [byte?_of_lt hasks.1]
    simp [hasks.1, hasks.2, ← beq_eq_decide]
  · rename_i hasks
    rw [decide_eq_false fun hall ↦ hasks ⟨hall.1, hall.2.1⟩]

omit h in
theorem Relay.passOn?_eq (r : Relay) (s : ConnectionSide) (c : Channel) :
    r.passOn? s c report = some (r.l2capSendHid s c (byteAt report 0) (report.drop 1)) := by
  rw [passOn?, byte?_of_lt (List.length_pos_iff.mpr hne), slice?_tail hne]
  rfl

namespace Relay

variable (r : Relay) (s : ConnectionSide)

theorem handleFeatureAnswerFromPad?_eq :
    r.handleFeatureAnswerFromPad? .toDualsense report = some (r.handleFeatureAnswerFromPad .toDualsense report) := by
  rw [handleFeatureAnswerFromPad?, logAnswer?_eq hne, bondedHost?_eq hne h, hostTable?_eq hne h,
    namesPad?_eq hne h, handleFeatureAnswerFromPad]
  dsimp only [bind, Option.bind_some]
  have hrewrite : (if (decide (byteAt report 0 = HIDP_DATA_FEATURE)
        && (byteAt report 1 == REPORT_PAIRING_INFO || byteAt report 1 == REPORT_PAIRING_LIST)) = true
        ∧ 8 ≤ report.length ∧ (r.h .toDualsense).pairing.ps5SideAddr.isSet = true
      then overwrite report 2 (r.h .toDualsense).pairing.ps5SideAddr.bytes else report)
      = r.relayedAnswer report :=
    if_congr (by simp [RewritesAddress, and_assoc]) rfl rfl
  have hanswer : (if byteAt report 0 = HIDP_DATA_FEATURE
        ∧ (byteAt report 1 = REPORT_PAIRING_INFO ∨ byteAt report 1 = REPORT_PAIRING_LIST)
        ∧ 8 ≤ report.length ∧ (r.h .toDualsense).pairing.ps5SideAddr.isSet = true
      then overwrite report 2 (r.h .toDualsense).pairing.ps5SideAddr.bytes else report)
      = r.relayedAnswer report := rfl
  have hne' : r.relayedAnswer report ≠ [] := by
    rw [← List.length_pos_iff, length_relayedAnswer]
    exact List.length_pos_iff.mpr hne
  rw [hrewrite, hanswer, passOn?_eq hne', byte?_of_lt (List.length_pos_iff.mpr hne'), slice?_tail hne',
    byteAt_relayedAnswer]
  dsimp only [Option.bind_some]
  split <;> split <;> rfl

omit h in
/-- A header alone is compared with a report id that is not there. -/
theorem handleFeatureAnswerFromPad?_of_not (hshort : ¬ NamesItsReport report) :
    r.handleFeatureAnswerFromPad? s report = none := by
  obtain ⟨hfeature, hlen⟩ := Classical.not_imp.mp hshort
  have hbonded : bondedHost? report = none := by
    rw [bondedHost?, featureIs?, byte?_of_lt (List.length_pos_iff.mpr hne), byte?_of_le (Nat.not_lt.mp hlen)]
    dsimp only [bind, Option.bind_some]
    rw [if_pos hfeature]
    rfl
  rw [handleFeatureAnswerFromPad?, logAnswer?_eq hne, hbonded]
  rfl

omit h in
theorem handleFeatureRequestFromConsole?_eq :
    r.handleFeatureRequestFromConsole? s report = some (r.handleFeatureRequestFromConsole s report) := by
  rw [handleFeatureRequestFromConsole?, handleFeatureRequestFromConsole, logRequest?_eq hne, asksForFull?_eq]
  simp only [bind, Option.bind_some, decide_eq_true_eq, passOn?_eq hne]
  exact (apply_ite some _ _ _).symm

end Relay

end control

/-! ## The interrupt channels -/

section interrupt

/-- The address in an output report, if it is one that holds an address. -/
def handoverTarget? (report : List UInt8) : Option (Option BdAddr) := do
  if 17 ≤ report.length then
    if (← byte? report 1) = REPORT_BT then
      if (← byte? report 3) = OUTPUT_SUBTYPE_HANDOVER then
        return some (← BdAddr.read? report 10)
  return none

/-- What `log_pad_battery` reads. -/
def logPadBattery? (report : List UInt8) : Option Unit :=
  if report.length < BT_BODY_OFF + STATUS_OFF + 1 then some ()
  else discard (byte? report (BT_BODY_OFF + STATUS_OFF))

/-- `report[0] == HIDP_DATA_INPUT && report[1] == REPORT_BT`. -/
def inputReport? (report : List UInt8) : Option Bool := do
  if (← byte? report 0) = HIDP_DATA_INPUT then
    return (← byte? report 1) == REPORT_BT
  else return false

namespace Relay

def relayConsoleOutputToPad? (r : Relay) (s : ConnectionSide) (report : List UInt8) : Option Relay := do
  let r :=
    if (r.h s).channels.consoleOutputSeen then r
    else (r.onChannels s fun c ↦ { c with consoleOutputSeen := true }).quietTheRadio s
  let target ← handoverTarget? report
  let r :=
    if target.any fun addr ↦ addr.isSet && addr != (r.h s).pairing.btAddr then
      r.onStreams s fun st ↦ { st with handoverSeen := true }
    else r
  if r.linked ∧ r.dcid s.other .hidInterrupt ≠ 0 then
    let r := r.onStreams s.other fun st ↦ { st with padOutputSeen := true }
    if r.room s.other then
      return ((r.afterRoom s.other).onStreams s fun st ↦
        { st with consoleOutputCount := st.consoleOutputCount + 1 }).l2capSendData s.other .hidInterrupt
          (← slice? report 0 report.length)
    else
      return (r.afterRoom s.other).onStreams s fun st ↦
        { st with consoleOutputDropped := st.consoleOutputDropped + 1 }
  else return r

def publishInput? (r : Relay) (s : ConnectionSide) (report : List UInt8) : Option Relay := do
  if 1 + INPUT_BT_SIZE ≤ report.length then
    if ← inputReport? report then
      logPadBattery? report
      if ← carriesControllerState? report then
        return r.emit (.published (← slice? report BT_BODY_OFF INPUT_BODY_LEN) (r.linkSnapshot s))
      else return r
    else return r
  else return r

def relayPadInputToUsb? (r : Relay) (s : ConnectionSide) (report : List UInt8) : Option Relay := do
  if r.usb.bound ∧ 1 + INPUT_BODY_OFF_BT + INPUT_BODY_LEN ≤ report.length then
    if ← inputReport? report then
      let usb ← makeUsbReport? report
      -- from here on only the relay's own report is looked at
      if r.usb.inputFlowingSince ≠ noTime ∧ ¬ (r.h s).streams.pairCommandSeen then
        let since := millisecondsBetween r.usb.inputFlowingSince r.now
        let r := r.advance 1
        if AUTO_PS_DELAY_MS ≤ since
            ∧ (since - AUTO_PS_DELAY_MS).tmod AUTO_PS_PERIOD_MS < AUTO_PS_WIDTH_MS then
          let attempt := 1 + ((since - AUTO_PS_DELAY_MS).tdiv AUTO_PS_PERIOD_MS).bmod (2 ^ 32)
          return (r.onStreams s fun st ↦ { st with autoPsAttempt := attempt }).sendInput (setPsOnUsbReport usb)
        else return r.sendInput usb
      else return r.sendInput usb
    else return r
  else return r

def sendReportToConsole? (r : Relay) (s : ConnectionSide) (report : List UInt8) (flushed : Bool) :
    Option Relay := do
  let r := r.emit (.relayed report flushed r.lastReading)
  if (r.h s).channels.consoleFullReports then r.passOn? s .hidInterrupt report
  else return r.l2capSendHid s .hidInterrupt HIDP_DATA_INPUT (← makeCutDownReport? report)

def relayPadInputToConsole? (r : Relay) (s : ConnectionSide) (report : List UInt8) : Option Relay := do
  if r.linked ∧ r.dcid s.other .hidInterrupt ≠ 0 then
    let r₁ := r.onChannels s.other fun c ↦ { c with consoleInputSeen := true }
    if ← opaqueFrame? report then
      return r₁.onStreams s.other fun st ↦
        { st with consoleInputOpaqueDropped := st.consoleInputOpaqueDropped + 1 }
    else if r₁.room s.other then
      (((r₁.afterRoom s.other).onHeld s.other fun h ↦ h.clear).noteInputSent s.other).sendReportToConsole?
        s.other report false
    else
      -- the slot takes all of it, or refuses it
      let kept ← slice? report 0 report.length
      return ((r₁.afterRoom s.other).onStreams s.other fun st ↦
        { st with consoleInputBackpressure := st.consoleInputBackpressure + 1 }).onHeld s.other fun h ↦ h.store kept
  else return r

def relayPadInput? (r : Relay) (s : ConnectionSide) (report : List UInt8) : Option Relay := do
  let r := r.emit (.padInput report (r.linked && r.dcid s.other .hidInterrupt != 0))
  let r ← r.publishInput? s report
  let r ← r.relayPadInputToUsb? s report
  r.relayPadInputToConsole? s report

def flushHeldReport? (r : Relay) (s : ConnectionSide) : Option Relay := do
  if (r.h s).held.valid then
    let r' := r.afterRoom s
    if r.room s then
      if r'.dcid s .hidInterrupt = 0 then return r'.onHeld s fun h ↦ h.clear
      else if r'.linked then
        (((r'.onHeld s fun h ↦ h.clear).noteInputSent s).onStreams s fun st ↦
          { st with consoleInputFlushed := st.consoleInputFlushed + 1 }).sendReportToConsole? s
            (r.h s).held.view true
      else return r'
    else return r'
  else return r

end Relay

variable {report : List UInt8}

theorem handoverTarget?_eq : handoverTarget? report = some
    (if 17 ≤ report.length ∧ byteAt report 1 = REPORT_BT ∧ byteAt report 3 = OUTPUT_SUBTYPE_HANDOVER then
      some (BdAddr.read report 10) else none) := by
  rw [handoverTarget?]
  by_cases h17 : 17 ≤ report.length
  · rw [if_pos h17, byte?_of_lt (by omega), byte?_of_lt (by omega), BdAddr.read?_eq (by omega)]
    dsimp only [bind, Option.bind_some]
    by_cases hbt : byteAt report 1 = REPORT_BT
    · rw [if_pos hbt]
      by_cases hsub : byteAt report 3 = OUTPUT_SUBTYPE_HANDOVER
      · rw [if_pos hsub, if_pos ⟨h17, hbt, hsub⟩]
        rfl
      · rw [if_neg hsub, if_neg fun h ↦ hsub h.2.2]
        rfl
    · rw [if_neg hbt, if_neg fun h ↦ hbt h.2.1]
      rfl
  · rw [if_neg h17, if_neg fun h ↦ h17 h.1]
    rfl

theorem logPadBattery?_eq : logPadBattery? report = some () := by
  rw [logPadBattery?]
  split
  · rfl
  · rename_i hlen
    rw [byte?_of_lt (by omega)]
    rfl

theorem inputReport?_eq (h : 1 < report.length) : inputReport? report
    = some (decide (byteAt report 0 = HIDP_DATA_INPUT ∧ byteAt report 1 = REPORT_BT)) := by
  rw [inputReport?, byte?_of_lt (by omega), byte?_of_lt h]
  dsimp only [bind, Option.bind_some]
  split
  · rename_i hheader
    simp [hheader, beq_eq_decide]
  · rename_i hheader
    simp [hheader]

namespace Relay

variable (r : Relay) (s : ConnectionSide)

theorem relayConsoleOutputToPad?_eq :
    r.relayConsoleOutputToPad? s report = some (r.relayConsoleOutputToPad s report) := by
  rw [relayConsoleOutputToPad?, relayConsoleOutputToPad, handoverTarget?_eq, slice?_all]
  dsimp only [bind, Option.bind_some]
  generalize (if (r.h s).channels.consoleOutputSeen then r
    else (r.onChannels s fun c ↦ { c with consoleOutputSeen := true }).quietTheRadio s) = r₁
  have hnamed : ((if 17 ≤ report.length ∧ byteAt report 1 = REPORT_BT ∧ byteAt report 3 = OUTPUT_SUBTYPE_HANDOVER
        then some (BdAddr.read report 10) else none).any
          fun addr ↦ addr.isSet && addr != (r₁.h s).pairing.btAddr) = true
      ↔ 17 ≤ report.length ∧ byteAt report 1 = REPORT_BT ∧ byteAt report 3 = OUTPUT_SUBTYPE_HANDOVER
        ∧ (BdAddr.read report 10).isSet = true ∧ BdAddr.read report 10 ≠ (r₁.h s).pairing.btAddr := by
    by_cases h : 17 ≤ report.length ∧ byteAt report 1 = REPORT_BT ∧ byteAt report 3 = OUTPUT_SUBTYPE_HANDOVER
    · rw [if_pos h]
      simp [h]
    · rw [if_neg h]
      simp only [Option.any_none, Bool.false_eq_true, false_iff]
      exact fun hall ↦ h ⟨hall.1, hall.2.1, hall.2.2.1⟩
  rw [if_congr hnamed rfl rfl]
  generalize (if 17 ≤ report.length ∧ byteAt report 1 = REPORT_BT ∧ byteAt report 3 = OUTPUT_SUBTYPE_HANDOVER
      ∧ (BdAddr.read report 10).isSet = true ∧ BdAddr.read report 10 ≠ (r₁.h s).pairing.btAddr
    then r₁.onStreams s fun st ↦ { st with handoverSeen := true } else r₁) = r₂
  by_cases hlinked : r₂.linked = true ∧ r₂.dcid s.other .hidInterrupt ≠ 0
  · rw [if_pos hlinked, if_pos hlinked]
    exact (apply_ite some _ _ _).symm
  · rw [if_neg hlinked, if_neg hlinked]
    rfl

theorem publishInput?_eq : r.publishInput? s report = some (r.publishInput s report) := by
  rw [publishInput?, publishInput]
  by_cases hlen : 1 + INPUT_BT_SIZE ≤ report.length
  · have h79 : 79 ≤ report.length := hlen
    have hbody : slice? report BT_BODY_OFF INPUT_BODY_LEN = some _ :=
      slice?_of_le (Nat.le_trans (by decide) h79)
    rw [if_pos hlen, inputReport?_eq (by omega), logPadBattery?_eq, carriesControllerState?_eq, hbody]
    simp only [bind, Option.bind_some, decide_eq_true_eq, hlen, true_and]
    by_cases hinput : byteAt report 0 = HIDP_DATA_INPUT ∧ byteAt report 1 = REPORT_BT
    · rw [if_pos hinput, hinput.1, hinput.2]
      simp only [true_and]
      exact (apply_ite some _ _ _).symm
    · rw [if_neg hinput, if_neg fun h ↦ hinput ⟨h.1, h.2.1⟩]
      rfl
  · rw [if_neg hlen, if_neg fun h ↦ hlen h.1]
    rfl

theorem relayPadInputToUsb?_eq : r.relayPadInputToUsb? s report = some (r.relayPadInputToUsb s report) := by
  rw [relayPadInputToUsb?]
  split
  · rename_i h
    have h66 : 66 ≤ report.length := h.2
    rw [inputReport?_eq (by omega), makeUsbReport?_eq h.2]
    simp only [bind, Option.bind_some, decide_eq_true_eq]
    by_cases hinput : byteAt report 0 = HIDP_DATA_INPUT ∧ byteAt report 1 = REPORT_BT
    · have hall : r.usb.bound = true ∧ 1 + INPUT_BODY_OFF_BT + INPUT_BODY_LEN ≤ report.length
          ∧ byteAt report 0 = HIDP_DATA_INPUT ∧ byteAt report 1 = REPORT_BT := ⟨h.1, h.2, hinput⟩
      rw [if_pos hinput, relayPadInputToUsb, if_pos hall]
      by_cases hflowing : r.usb.inputFlowingSince ≠ noTime ∧ ¬ (r.h s).streams.pairCommandSeen = true
      · rw [if_pos hflowing, if_pos hflowing]
        exact (apply_ite some _ _ _).symm
      · rw [if_neg hflowing, if_neg hflowing]
        rfl
    · rw [if_neg hinput, relayPadInputToUsb, if_neg fun hall ↦ hinput hall.2.2]
      rfl
  · rename_i h
    rw [relayPadInputToUsb, if_neg fun hall ↦ h ⟨hall.1, hall.2.1⟩]
    rfl

/-- A report for the console is too short for the framing the console is in. -/
def CutsShort (report : List UInt8) : Prop :=
  (r.h s).channels.consoleFullReports = false ∧ report.length < 13

instance : Decidable (r.CutsShort s report) := inferInstanceAs (Decidable (_ ∧ _))

theorem sendReportToConsole?_eq (hne : report ≠ []) (flushed : Bool) :
    r.sendReportToConsole? s report flushed
      = if r.CutsShort s report then none else some (r.sendReportToConsole s report flushed) := by
  have hkept : ((r.emit (.relayed report flushed r.lastReading)).h s).channels.consoleFullReports
      = (r.h s).channels.consoleFullReports := rfl
  rw [sendReportToConsole?, sendReportToConsole, hkept]
  by_cases hfull : (r.h s).channels.consoleFullReports = true
  · rw [if_pos hfull, if_pos hfull, if_neg fun h ↦ absurd (hfull.symm.trans h.1) (by decide), passOn?_eq hne]
    rfl
  · have hcut := Bool.eq_false_iff.mpr hfull
    rw [if_neg hfull, if_neg hfull]
    rcases Nat.lt_or_ge report.length 13 with hlen | hlen
    · rw [makeCutDownReport?_of_lt hlen, if_pos ⟨hcut, hlen⟩]
      rfl
    · rw [makeCutDownReport?_of_le hlen, if_neg fun h ↦ absurd h.2 (Nat.not_lt.mpr hlen)]
      rfl

/-- A report of the pad is handed to the console in the short framing, and is too short for it. -/
def OverreadsInput (report : List UInt8) : Prop :=
  r.linked = true ∧ r.dcid s.other .hidInterrupt ≠ 0 ∧ r.room s.other = true ∧ r.CutsShort s.other report

instance : Decidable (r.OverreadsInput s report) := inferInstanceAs (Decidable (_ ∧ _))

theorem relayPadInputToConsole?_eq (hne : report ≠ []) :
    r.relayPadInputToConsole? s report
      = if r.OverreadsInput s report then none else some (r.relayPadInputToConsole s report) := by
  rw [relayPadInputToConsole?]
  by_cases hopen : r.linked = true ∧ r.dcid s.other .hidInterrupt ≠ 0
  · rw [if_pos hopen, opaqueFrame?_eq, slice?_all]
    dsimp only [bind, Option.bind_some]
    by_cases hopaque : opaqueFrame report = true
    · have h79 : report.length = 79 := by
        rw [opaqueFrame, Bool.and_eq_true, beq_iff_eq] at hopaque
        exact hopaque.1
      rw [if_pos hopaque, if_neg fun h ↦ absurd h.2.2.2.2 (by omega), relayPadInputToConsole, if_pos hopen]
      rw [if_pos hopaque]
      rfl
    · rw [if_neg hopaque, relayPadInputToConsole, if_pos hopen]
      rw [if_neg hopaque, sendReportToConsole?_eq _ _ hne]
      set r₁ := r.onChannels s.other fun c ↦ { c with consoleInputSeen := true } with hr₁
      have hroom : r₁.room s.other = r.room s.other := by cases s <;> rfl
      have hcut : (((r₁.afterRoom s.other).onHeld s.other fun h ↦ h.clear).noteInputSent s.other).CutsShort
          s.other report ↔ r.CutsShort s.other report := by
        cases s <;> exact Iff.rfl
      rw [hroom]
      by_cases hfree : r.room s.other = true
      · rw [if_pos hfree, if_pos hfree]
        by_cases hshort : r.CutsShort s.other report
        · rw [if_pos (hcut.mpr hshort), if_pos ⟨hopen.1, hopen.2, hfree, hshort⟩]
        · rw [if_neg (hshort ∘ hcut.mp), if_neg fun h ↦ hshort h.2.2.2]
      · rw [if_neg hfree, if_neg hfree, if_neg fun h ↦ hfree h.2.2.1]
        rfl
  · rw [if_neg hopen, if_neg fun h ↦ hopen ⟨h.1, h.2.1⟩, relayPadInputToConsole, if_neg hopen]
    rfl

/-- A report that is too short for the console is too short for the feed and the gadget. -/
theorem relayPadInput?_eq (hne : report ≠ []) :
    r.relayPadInput? s report
      = if r.OverreadsInput s report then none else some (r.relayPadInput s report) := by
  rw [relayPadInput?, relayPadInput, publishInput?_eq]
  dsimp only [bind, Option.bind_some]
  rw [relayPadInputToUsb?_eq]
  dsimp only [Option.bind_some]
  rw [relayPadInputToConsole?_eq _ _ hne]
  rcases Nat.lt_or_ge report.length 13 with hlen | hlen
  · have hpublish : ∀ a : Relay, a.publishInput s report = a := by
      intro a
      rw [publishInput, if_neg fun h ↦ absurd (show 79 ≤ report.length from h.1) (by omega)]
    have husb : ∀ a : Relay, a.relayPadInputToUsb s report = a := by
      intro a
      rw [relayPadInputToUsb, if_neg fun h ↦ absurd (show 66 ≤ report.length from h.2.1) (by omega)]
    rw [hpublish, husb]
    exact if_congr Iff.rfl rfl rfl
  · have hlong : ∀ a : Relay, ¬ a.OverreadsInput s report := fun a h ↦ absurd h.2.2.2.2 (by omega)
    rw [if_neg (hlong _), if_neg (hlong _)]

/-- The report held back is due, in the short framing, and is too short for it. -/
def HeldOverreads : Prop :=
  (r.h s).held.valid = true ∧ r.room s = true ∧ r.dcid s .hidInterrupt ≠ 0 ∧ r.linked = true
    ∧ r.CutsShort s (r.h s).held.view

instance : Decidable (r.HeldOverreads s) := inferInstanceAs (Decidable (_ ∧ _))

theorem flushHeldReport?_eq :
    r.flushHeldReport? s = if r.HeldOverreads s then none else some (r.flushHeldReport s) := by
  rw [flushHeldReport?, flushHeldReport]
  by_cases hvalid : (r.h s).held.valid = true
  · have hne : (r.h s).held.view ≠ [] := by
      intro hnil
      rw [HeldFrame.valid, hnil] at hvalid
      exact absurd hvalid (by decide)
    have hdcid : (r.afterRoom s).dcid s .hidInterrupt = r.dcid s .hidInterrupt := by cases s <;> rfl
    have hlinked : (r.afterRoom s).linked = r.linked := rfl
    rw [if_pos hvalid, if_pos hvalid]
    dsimp only
    rw [hdcid, hlinked]
    by_cases hroom : r.room s = true
    · rw [if_pos hroom, if_pos hroom]
      by_cases hopen : r.dcid s .hidInterrupt = 0
      · rw [if_pos hopen, if_pos hopen, if_neg fun h ↦ h.2.2.1 hopen]
        rfl
      · rw [if_neg hopen, if_neg hopen]
        by_cases hlink : r.linked = true
        · rw [if_pos hlink, if_pos hlink, sendReportToConsole?_eq _ _ hne]
          refine if_congr ?_ rfl rfl
          have hcut : ∀ report, ((((r.afterRoom s).onHeld s fun h ↦ h.clear).noteInputSent s).onStreams s fun st ↦
              { st with consoleInputFlushed := st.consoleInputFlushed + 1 }).CutsShort s report
                ↔ r.CutsShort s report := by
            intro report
            cases s <;> exact Iff.rfl
          rw [hcut]
          exact ⟨fun h ↦ ⟨hvalid, hroom, hopen, hlink, h⟩, fun h ↦ h.2.2.2.2⟩
        · rw [if_neg hlink, if_neg hlink, if_neg fun h ↦ hlink h.2.2.2.1]
          rfl
    · rw [if_neg hroom, if_neg hroom, if_neg fun h ↦ hroom h.2.1]
      rfl
  · rw [if_neg hvalid, if_neg hvalid, if_neg fun h ↦ hvalid h.1]
    rfl

end Relay

end interrupt

/-! ## Service discovery -/

section sdp

/-- What `handle_sdp_answer_from_pad` reads for its log line. -/
def logSdpAnswer? (payload : List UInt8) : Option Unit := do
  if 7 ≤ payload.length then discard (slice? payload 3 4)
  discard (byte? payload 0)

namespace Relay

variable (r : Relay) (s : ConnectionSide) (payload : List UInt8)

def handleSdpAnswerFromPad? : Option Relay := do
  logSdpAnswer? payload
  if r.linked then
    let record ← slice? payload 0 payload.length
    let r := r.onStreams s.other fun st ↦ { st with sdpAnswerCache := record }
    if r.dcid s.other .hidSdp ≠ 0 then return r.l2capSendData s.other .hidSdp record
    else return r
  else return r

def handleSdpRequest? : Option Relay :=
  if payload.length < 5 then some r
  else do return r.l2capSendData s .hidSdp (← emptySdpAnswer? payload)

def handleSdpQuery? : Option Relay := do
  let cache := (r.h s).streams.sdpAnswerCache
  if s = .toPlaystation ∧ r.linked ∧ r.dcid s.other .sdpClient ≠ 0 then
    let _ ← byte? payload 0
    return r.l2capSendData s.other .sdpClient (← slice? payload 0 payload.length)
  else if s = .toPlaystation ∧ 3 ≤ cache.length then
    if (← byte? payload 0) = SDP_SERVICE_SEARCH_ATTR_REQUEST then
      return r.l2capSendData s .hidSdp ((cache.set 1 (← byte? payload 1)).set 2 (← byte? payload 2))
    else r.handleSdpRequest? s payload
  else r.handleSdpRequest? s payload

/-- The console asks for the record while only the cache can answer, and its transaction id is not
there. -/
def OverreadsQuery : Prop :=
  s = .toPlaystation ∧ ¬ (r.linked = true ∧ r.dcid s.other .sdpClient ≠ 0)
    ∧ 3 ≤ (r.h s).streams.sdpAnswerCache.length
    ∧ byteAt payload 0 = SDP_SERVICE_SEARCH_ATTR_REQUEST ∧ payload.length < 3

instance : Decidable (r.OverreadsQuery s payload) := inferInstanceAs (Decidable (_ ∧ _))

variable {payload}

theorem logSdpAnswer?_eq (hne : payload ≠ []) : logSdpAnswer? payload = some () := by
  rw [logSdpAnswer?, byte?_of_lt (List.length_pos_iff.mpr hne)]
  split
  · rw [slice?_of_le (by omega)]
    rfl
  · rfl

theorem handleSdpAnswerFromPad?_eq (hne : payload ≠ []) :
    r.handleSdpAnswerFromPad? s payload = some (r.handleSdpAnswerFromPad s payload) := by
  rw [handleSdpAnswerFromPad?, handleSdpAnswerFromPad, logSdpAnswer?_eq hne, slice?_all]
  dsimp only [bind, Option.bind_some]
  split
  · exact (apply_ite some _ _ _).symm
  · rfl

theorem handleSdpRequest?_eq : r.handleSdpRequest? s payload = some (r.handleSdpRequest s payload) := by
  rw [handleSdpRequest?, handleSdpRequest]
  split
  · rfl
  · rw [emptySdpAnswer?_eq (by omega)]
    rfl

theorem handleSdpQuery?_eq (hne : payload ≠ []) :
    r.handleSdpQuery? s payload
      = if r.OverreadsQuery s payload then none else some (r.handleSdpQuery s payload) := by
  rw [handleSdpQuery?, handleSdpQuery, byte?_of_lt (List.length_pos_iff.mpr hne), slice?_all]
  simp only [bind, Option.bind_some, handleSdpRequest?_eq]
  by_cases hforward : s = .toPlaystation ∧ r.linked = true ∧ r.dcid s.other .sdpClient ≠ 0
  · rw [if_pos hforward, if_pos hforward, if_neg fun h ↦ h.2.1 hforward.2]
    rfl
  · rw [if_neg hforward, if_neg hforward]
    by_cases hcache : s = .toPlaystation ∧ 3 ≤ (r.h s).streams.sdpAnswerCache.length
    · rw [if_pos hcache]
      by_cases hsearch : byteAt payload 0 = SDP_SERVICE_SEARCH_ATTR_REQUEST
      · have hcached : s = .toPlaystation ∧ 3 ≤ (r.h s).streams.sdpAnswerCache.length
            ∧ byteAt payload 0 = SDP_SERVICE_SEARCH_ATTR_REQUEST := ⟨hcache.1, hcache.2, hsearch⟩
        rw [if_pos hsearch, if_pos hcached]
        rcases Nat.lt_or_ge payload.length 3 with hlen | hlen
        · have hover : r.OverreadsQuery s payload :=
            ⟨hcache.1, fun h ↦ hforward ⟨hcache.1, h⟩, hcache.2, hsearch, hlen⟩
          have htxn : byte? payload 2 = none := byte?_of_le (by omega)
          rw [if_pos hover, htxn]
          cases byte? payload 1 <;> rfl
        · have hover : ¬ r.OverreadsQuery s payload := fun h ↦ absurd h.2.2.2.2 (by omega)
          rw [if_neg hover, byte?_of_lt (by omega), byte?_of_lt (by omega)]
          rfl
      · have hover : ¬ r.OverreadsQuery s payload := fun h ↦ hsearch h.2.2.2.1
        rw [if_neg hover, if_neg hsearch, if_neg fun h ↦ hsearch h.2.2]
    · have hover : ¬ r.OverreadsQuery s payload := fun h ↦ hcache ⟨h.1, h.2.2.1⟩
      rw [if_neg hover, if_neg hcache, if_neg fun h ↦ hcache ⟨h.1, h.2.1⟩]

end Relay

end sdp

/-! ## All of them -/

namespace Relay

/-- `route_l2cap_pdu`, for a payload that is not empty. -/
def routePayload? (r : Relay) (s : ConnectionSide) (cid : UInt16) (payload : List UInt8) : Option Relay :=
  if cid = Channel.hidControl.scid then
    match s with
    | .toDualsense => r.handleFeatureAnswerFromPad? s payload
    | .toPlaystation => r.handleFeatureRequestFromConsole? s payload
  else if cid = Channel.hidInterrupt.scid then
    match s with
    | .toDualsense => r.relayPadInput? s payload
    | .toPlaystation => r.relayConsoleOutputToPad? s payload
  else if cid = Channel.sdpClient.scid then r.handleSdpAnswerFromPad? s payload
  else if cid = Channel.hidSdp.scid then r.handleSdpQuery? s payload
  else some r

variable (r : Relay) (s : ConnectionSide) (cid : UInt16) {payload : List UInt8}

/-- Something behind the payload's end is read: for a header on the pad's control channel with nothing
behind it, for a short report of the pad, or for a short request of the console. -/
def Overreads (payload : List UInt8) : Prop :=
  cid = Channel.hidControl.scid ∧ s = .toDualsense ∧ ¬ NamesItsReport payload
    ∨ cid = Channel.hidInterrupt.scid ∧ s = .toDualsense ∧ r.OverreadsInput s payload
    ∨ cid = Channel.hidSdp.scid ∧ r.OverreadsQuery s payload

instance : Decidable (NamesItsReport payload) := inferInstanceAs (Decidable (_ → _))

instance : Decidable (r.Overreads s cid payload) := inferInstanceAs (Decidable (_ ∨ _))

theorem routePayload?_eq (hne : payload ≠ []) :
    r.routePayload? s cid payload
      = if r.Overreads s cid payload then none else some (r.routePayload s cid payload) := by
  by_cases hcontrol : cid = Channel.hidControl.scid
  · subst hcontrol
    have hover : r.Overreads s Channel.hidControl.scid payload ↔ s = .toDualsense ∧ ¬ NamesItsReport payload := by
      have hinterrupt : Channel.hidControl.scid ≠ Channel.hidInterrupt.scid := by decide
      have hserver : Channel.hidControl.scid ≠ Channel.hidSdp.scid := by decide
      simp [Overreads, hinterrupt, hserver]
    cases s with
    | toDualsense =>
      show r.handleFeatureAnswerFromPad? .toDualsense payload = _
      by_cases hnames : NamesItsReport payload
      · rw [handleFeatureAnswerFromPad?_eq hne hnames, if_neg fun h ↦ (hover.mp h).2 hnames]
        rfl
      · rw [handleFeatureAnswerFromPad?_of_not hne _ _ hnames, if_pos (hover.mpr ⟨rfl, hnames⟩)]
    | toPlaystation =>
      show r.handleFeatureRequestFromConsole? .toPlaystation payload = _
      rw [handleFeatureRequestFromConsole?_eq hne, if_neg fun h ↦ absurd (hover.mp h).1 (by decide)]
      rfl
  · by_cases hinterrupt : cid = Channel.hidInterrupt.scid
    · subst hinterrupt
      have hover : r.Overreads s Channel.hidInterrupt.scid payload
          ↔ s = .toDualsense ∧ r.OverreadsInput s payload := by
        have hserver : Channel.hidInterrupt.scid ≠ Channel.hidSdp.scid := by decide
        simp [Overreads, hcontrol, hserver]
      cases s with
      | toDualsense =>
        show r.relayPadInput? .toDualsense payload = _
        rw [relayPadInput?_eq _ _ hne]
        exact if_congr (by rw [hover, and_iff_right rfl]) rfl rfl
      | toPlaystation =>
        show r.relayConsoleOutputToPad? .toPlaystation payload = _
        rw [relayConsoleOutputToPad?_eq, if_neg fun h ↦ absurd (hover.mp h).1 (by decide)]
        rfl
    · rw [routePayload?.eq_def, routePayload.eq_def, if_neg hcontrol, if_neg hinterrupt, if_neg hcontrol,
        if_neg hinterrupt]
      have hover : r.Overreads s cid payload ↔ cid = Channel.hidSdp.scid ∧ r.OverreadsQuery s payload := by
        simp [Overreads, hcontrol, hinterrupt]
      by_cases hclient : cid = Channel.sdpClient.scid
      · have hserver : cid ≠ Channel.hidSdp.scid := by
          rw [hclient]
          decide
        rw [if_pos hclient, if_pos hclient, if_neg fun h ↦ hserver (hover.mp h).1,
          handleSdpAnswerFromPad?_eq _ _ hne]
      · rw [if_neg hclient, if_neg hclient]
        by_cases hserver : cid = Channel.hidSdp.scid
        · rw [if_pos hserver, if_pos hserver, handleSdpQuery?_eq _ _ hne]
          exact if_congr (by rw [hover, and_iff_right hserver]) rfl rfl
        · rw [if_neg hserver, if_neg hserver, if_neg fun h ↦ hserver (hover.mp h).1]

end Relay

/-- **When every read is inside.**  A payload handler reads behind its payload's end in the three cases of
`Overreads`, and a report held back is read behind its end when it is due in the short framing. -/
theorem payload_reads_inside (r : Relay) (s : ConnectionSide) (cid : UInt16) {payload : List UInt8}
    (hne : payload ≠ []) :
    (r.routePayload? s cid payload = some (r.routePayload s cid payload) ↔ ¬ r.Overreads s cid payload)
      ∧ (r.flushHeldReport? s = some (r.flushHeldReport s) ↔ ¬ r.HeldOverreads s) := by
  rw [r.routePayload?_eq s cid hne, flushHeldReport?_eq]
  constructor
  · split <;> simp_all
  · split <;> simp_all

/-- The pad's report in the short framing is read up to its end, if it has thirteen bytes. -/
theorem payload_reads_inside_thirteen :
    consoleInputOpen.routePayload? .toDualsense Channel.hidInterrupt.scid (HIDP_DATA_INPUT :: List.replicate 12 0)
      = some (consoleInputOpen.routePayload .toDualsense Channel.hidInterrupt.scid
          (HIDP_DATA_INPUT :: List.replicate 12 0)) :=
  (payload_reads_inside consoleInputOpen .toDualsense Channel.hidInterrupt.scid
    (List.cons_ne_nil HIDP_DATA_INPUT _)).1.mpr (by decide +kernel)

/-- With two bytes, the console is sent what lies behind them. -/
theorem payload_reads_outside : ¬ ∀ s cid payload, payload ≠ [] →
    consoleInputOpen.routePayload? s cid payload = some (consoleInputOpen.routePayload s cid payload) := by
  intro h
  have hnone : (consoleInputOpen.routePayload? .toDualsense Channel.hidInterrupt.scid
      [HIDP_DATA_INPUT, REPORT_INPUT_BT_BASIC]).isNone = true := by
    decide +kernel
  rw [h _ _ _ (List.cons_ne_nil _ _)] at hnone
  exact absurd hnone (by decide)

end DualSenseMitm
