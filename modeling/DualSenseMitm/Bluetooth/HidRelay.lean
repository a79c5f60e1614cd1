import DualSenseMitm.Bluetooth.L2capSignalling
import DualSenseMitm.Usb.UsbHandler

/-!
# The relay itself

The pad's input to the console over Bluetooth and to the gadget, the console's output and feature
requests back to the pad, and what the gadget asks the pad for.

Input towards the console is never queued.  A report that finds no buffer free is stored in the
single held slot, over whatever was there, and `flushHeldReport` sends it when a buffer returns.
-/

set_option autoImplicit false

namespace DualSenseMitm

open Bytes

def OUTPUT_SUBTYPE_HANDOVER : UInt8 := 0x97
def AUTO_PS_DELAY_MS : Int := 1000
def AUTO_PS_PERIOD_MS : Int := 1500

/-- How long one synthetic press lasts, in milliseconds. -/
def AUTO_PS_WIDTH_MS : Int := 200

/-- `opaque_frame`: a frame of the pad's opaque stream rather than controller state. -/
def opaqueFrame (report : List UInt8) : Bool :=
  report.length == 1 + INPUT_BT_SIZE && !carriesControllerState report

namespace Relay

/-! ## Sending to the pad -/

/-- `l2cap_get_report`. -/
def l2capGetReport (r : Relay) (s : ConnectionSide) (reportId : UInt8) : Relay :=
  r.l2capSendHid s .hidControl HIDP_GET_FEATURE [reportId]

/-- `l2cap_send_hid_feature_set`: the report in its full size, with a checksum. -/
def l2capSendHidFeatureSet (r : Relay) (s : ConnectionSide) (report : List UInt8) : Relay :=
  let declared := featureReportSize (byteAt report 0)
  let btSize := if declared = 0 then report.length + 4 else declared
  if btSize < 5 then r
  else
    let data := report.take (btSize - 4)
    let buf := data ++ List.replicate (btSize - data.length) 0
    r.l2capSendHid s .hidControl HIDP_SET_FEATURE (appendCrc32 CRC_SEED_SET_FEATURE buf)

/-- `l2cap_send_output_report`. -/
def l2capSendOutputReport (r : Relay) (s : ConnectionSide) (usbReport : List UInt8) : Relay :=
  if usbReport.length < 2 then r
  else
    let seq := (r.h s).streams.outputSeq
    let r := r.onStreams s fun st ↦ { st with outputSeq := (seq + 1) &&& (0x0f : UInt8) }
    let common := (usbReport.drop 1).take OUTPUT_COMMON_SIZE
    let head := [REPORT_BT, seq <<< (4 : UInt8), OUTPUT_TAG] ++ common
    let bt := head ++ List.replicate (OUTPUT_BT_SIZE - head.length) 0
    r.l2capSendHid s .hidInterrupt HIDP_DATA_OUTPUT (appendCrc32 CRC_SEED_OUTPUT bt)

/-! ## The control channels -/

/-- `handle_feature_answer_from_pad`. -/
def handleFeatureAnswerFromPad (r : Relay) (s : ConnectionSide) (report : List UInt8) : Relay :=
  let feature := byteAt report 0 = HIDP_DATA_FEATURE
  let addr := (r.h s).pairing.ps5SideAddr
  let report :=
    if feature ∧ (byteAt report 1 = REPORT_PAIRING_INFO ∨ byteAt report 1 = REPORT_PAIRING_LIST)
        ∧ 8 ≤ report.length ∧ addr.isSet then
      overwrite report 2 addr.bytes
    else report
  let r :=
    if r.linked ∧ r.dcid s.other .hidControl ≠ 0 then
      r.l2capSendHid s.other .hidControl (byteAt report 0) (report.drop 1)
    else r
  if feature then r.onFeatureReport (report.drop 1) else r

/-- `handle_feature_request_from_console`. -/
def handleFeatureRequestFromConsole (r : Relay) (s : ConnectionSide) (report : List UInt8) :
    Relay :=
  let r :=
    if 1 < report.length ∧ ¬ (r.h s).channels.consoleFullReports
        ∧ (byteAt report 1 = REPORT_CALIBRATION ∨ byteAt report 1 = REPORT_FIRMWARE) then
      r.onChannels s fun c ↦ { c with consoleFullReports := true }
    else r
  if r.linked ∧ r.dcid s.other .hidControl ≠ 0 then
    r.l2capSendHid s.other .hidControl (byteAt report 0) (report.drop 1)
  else r

/-! ## The console's output -/

/-- `quiet_the_radio`. -/
def quietTheRadio (r : Relay) (s : ConnectionSide) : Relay :=
  if (r.h s).links.onPlayLink then
    r.writePageScanActivity s PAGE_SCAN_INTERVAL_NORMAL PAGE_SCAN_WINDOW_NORMAL
  else r

/-- Whether `has_room` says yes just now. -/
def room (r : Relay) (s : ConnectionSide) : Bool :=
  ((r.h s).acl.hasRoom r.now (r.env.clock (r.tick + 1))).1

/-- What `has_room` leaves behind. -/
def afterRoom (r : Relay) (s : ConnectionSide) : Relay :=
  (r.onAcl s fun a ↦ (a.hasRoom r.now (r.env.clock (r.tick + 1))).2).advance 2

/-- `relay_console_output_to_pad`. -/
def relayConsoleOutputToPad (r : Relay) (s : ConnectionSide) (report : List UInt8) : Relay :=
  let r :=
    if (r.h s).channels.consoleOutputSeen then r
    else (r.onChannels s fun c ↦ { c with consoleOutputSeen := true }).quietTheRadio s
  let target := BdAddr.read report 10
  let r :=
    if 17 ≤ report.length ∧ byteAt report 1 = REPORT_BT
        ∧ byteAt report 3 = OUTPUT_SUBTYPE_HANDOVER ∧ target.isSet
        ∧ target ≠ (r.h s).pairing.btAddr then
      r.onStreams s fun st ↦ { st with handoverSeen := true }
    else r
  if r.linked ∧ r.dcid s.other .hidInterrupt ≠ 0 then
    let r := r.onStreams s.other fun st ↦ { st with padOutputSeen := true }
    if r.room s.other then
      ((r.afterRoom s.other).onStreams s fun st ↦
        { st with consoleOutputCount := st.consoleOutputCount + 1 }).l2capSendData s.other
          .hidInterrupt report
    else
      (r.afterRoom s.other).onStreams s fun st ↦
        { st with consoleOutputDropped := st.consoleOutputDropped + 1 }
  else r

/-! ## The input feed -/

/-- `stage`. -/
def stage (r : Relay) (s : ConnectionSide) : Stage :=
  if r.linked ∧ r.dcid s.other .hidInterrupt ≠ 0 then .relaying
  else if r.linked ∧ (r.h s.other).links.connectionHandle ≠ 0 then .consoleConnect
  else if (r.h s).streams.pairCommandSeen then .calling
  else if (r.h s).links.connectionHandle = 0 then .padSearch
  else if r.dcid s .hidInterrupt = 0 then .padConnect
  else if ¬ r.usb.endpointsEnabled then .usbWait
  else if r.usb.inputFlowingSince = noTime then .usbRead
  else .usbPress

/-- `link_snapshot`. -/
def linkSnapshot (r : Relay) (s : ConnectionSide) : LinkSnapshot :=
  if r.linked then
    let o := r.h s.other
    let stage := r.stage s
    { stage := stage
      callAttempt :=
        if stage = .calling then UInt8.ofNat (min (o.paging.pageFailures + 1) 255).toNat else 0
      consoleSent := o.streams.consoleInputCount
      outputSent := o.streams.consoleOutputCount
      outputDropped := o.streams.consoleOutputDropped
      gapWindow := o.gaps.window
      gapCount := o.gaps.doneCount
      gapMaxUs := o.gaps.maxUs
      consoleLive := r.dcid s.other .hidInterrupt != 0
      linkQuality := o.radio.linkQuality
      linkRssi := o.radio.linkRssi
      afhChannels := o.radio.afhChannels
      radioRead := o.radio.radioRead }
  else {}

/-- One round of `publish_stage`. -/
def publishStage (r : Relay) (s : ConnectionSide) : Relay :=
  r.emit (.publishedLink (r.linkSnapshot s))

/-- The part of `relay_pad_input` that publishes the report. -/
def publishInput (r : Relay) (s : ConnectionSide) (report : List UInt8) : Relay :=
  if 1 + INPUT_BT_SIZE ≤ report.length ∧ byteAt report 0 = HIDP_DATA_INPUT
      ∧ byteAt report 1 = REPORT_BT ∧ carriesControllerState report then
    r.emit (.published (slice report BT_BODY_OFF INPUT_BODY_LEN) (r.linkSnapshot s))
  else r

/-! ## The pad's input -/

/-- The milliseconds from one time point to another, as `duration_cast` rounds them. -/
def millisecondsBetween (since now : Time) : Int := (now - since).tdiv 1000000

/-- `relay_pad_input_to_usb`. -/
def relayPadInputToUsb (r : Relay) (s : ConnectionSide) (report : List UInt8) : Relay :=
  if r.usb.bound ∧ 1 + INPUT_BODY_OFF_BT + INPUT_BODY_LEN ≤ report.length
      ∧ byteAt report 0 = HIDP_DATA_INPUT ∧ byteAt report 1 = REPORT_BT then
    let usb := makeUsbReport report
    if r.usb.inputFlowingSince ≠ noTime ∧ ¬ (r.h s).streams.pairCommandSeen then
      let since := millisecondsBetween r.usb.inputFlowingSince r.now
      let r := r.advance 1
      if AUTO_PS_DELAY_MS ≤ since
          ∧ (since - AUTO_PS_DELAY_MS).tmod AUTO_PS_PERIOD_MS < AUTO_PS_WIDTH_MS then
        -- the quotient is narrowed to an int
        let attempt := 1 + ((since - AUTO_PS_DELAY_MS).tdiv AUTO_PS_PERIOD_MS).bmod (2 ^ 32)
        (r.onStreams s fun st ↦ { st with autoPsAttempt := attempt }).sendInput
          (setPsOnUsbReport usb)
      else r.sendInput usb
    else r.sendInput usb
  else r

/-- `note_input_sent`. -/
def noteInputSent (r : Relay) (s : ConnectionSide) : Relay :=
  ((r.onStreams s fun st ↦ { st with consoleInputCount := st.consoleInputCount + 1 }).onGaps s
    fun g ↦ g.onSent r.now).advance 1

/-- `send_full_report_to_console`, for the console-facing handler `s`. -/
def sendFullReportToConsole (r : Relay) (s : ConnectionSide) (report : List UInt8) : Relay :=
  r.l2capSendHid s .hidInterrupt (byteAt report 0) (report.drop 1)

/-- `send_cut_down_report_to_console`, for the console-facing handler `s`. -/
def sendCutDownReportToConsole (r : Relay) (s : ConnectionSide) (report : List UInt8) : Relay :=
  r.l2capSendHid s .hidInterrupt HIDP_DATA_INPUT (makeCutDownReport report)

/-- A report goes out in the framing the console is in, on the console-facing handler `s`, right behind
the reading of the clock in `note_input_sent`. -/
def sendReportToConsole (r : Relay) (s : ConnectionSide) (report : List UInt8) (flushed : Bool) :
    Relay :=
  let r := r.emit (.relayed report flushed r.lastReading)
  if (r.h s).channels.consoleFullReports then r.sendFullReportToConsole s report
  else r.sendCutDownReportToConsole s report

/-- `relay_pad_input_to_console`. -/
def relayPadInputToConsole (r : Relay) (s : ConnectionSide) (report : List UInt8) : Relay :=
  if r.linked ∧ r.dcid s.other .hidInterrupt ≠ 0 then
    let r := r.onChannels s.other fun c ↦ { c with consoleInputSeen := true }
    if opaqueFrame report then
      r.onStreams s.other fun st ↦
        { st with consoleInputOpaqueDropped := st.consoleInputOpaqueDropped + 1 }
    else if r.room s.other then
      -- superseded by the one going out now
      (((r.afterRoom s.other).onHeld s.other fun h ↦ h.clear).noteInputSent
        s.other).sendReportToConsole s.other report false
    else
      ((r.afterRoom s.other).onStreams s.other fun st ↦
        { st with consoleInputBackpressure := st.consoleInputBackpressure + 1 }).onHeld s.other
          fun h ↦ h.store report
  else r

/-- `relay_pad_input`. -/
def relayPadInput (r : Relay) (s : ConnectionSide) (report : List UInt8) : Relay :=
  let r := r.emit (.padInput report (r.linked && r.dcid s.other .hidInterrupt != 0))
  ((r.publishInput s report).relayPadInputToUsb s report).relayPadInputToConsole s report

/-- `flush_held_report`. -/
def flushHeldReport (r : Relay) (s : ConnectionSide) : Relay :=
  if (r.h s).held.valid then
    let r' := r.afterRoom s
    if r.room s then
      if r'.dcid s .hidInterrupt = 0 then r'.onHeld s fun h ↦ h.clear
      else if r'.linked then
        (((r'.onHeld s fun h ↦ h.clear).noteInputSent s).onStreams s fun st ↦
          { st with consoleInputFlushed := st.consoleInputFlushed + 1 }).sendReportToConsole s
            (r.h s).held.view true
      else r'
    else r'
  else r

/-! ## Bringing the gadget up -/

/-- `start_usb_gadget`, up to the pause for the pad's answers. -/
def startUsbGadget (r : Relay) (s : ConnectionSide) : Relay :=
  (((r.l2capGetReport s REPORT_CALIBRATION).l2capGetReport s REPORT_PAIRING_INFO).l2capGetReport s
    REPORT_FIRMWARE).spawn (.enableUsbGadget s)

/-- `start_usb_gadget`, behind the pause. -/
def enableUsbGadget (r : Relay) (s : ConnectionSide) : Relay :=
  if (r.h s).streams.usbStarted then r
  else
    let (ok, r) := (r.onStreams s fun st ↦ { st with usbStarted := true }).enableGadget
    if ok then r.onUsb fun u ↦ { u with serving := true } else r

end Relay

end DualSenseMitm
