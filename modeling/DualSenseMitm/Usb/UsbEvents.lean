import DualSenseMitm.Bluetooth.Handover

/-!
# Requests and completions of the gadget

The parts of `USBHandler` that call back towards the pad: the control requests of ep0, and the
completions of the two interrupt endpoints.  Only the pad-facing handler has a gadget.
-/

set_option autoImplicit false

namespace DualSenseMitm

open Bytes

/-- A `usb_ctrlrequest`, with what a read of its data stage returns. -/
structure UsbSetup where
  requestType : UInt8
  request : UInt8
  value : UInt16
  length : UInt16
  /-- The bytes of the data stage, or how it failed. -/
  data : Except Ep0Result (List UInt8) := .ok []

/-- An event FunctionFS delivers on ep0, of those that are acted on. -/
inductive UsbEvent
  | unbind
  | enable
  | disable
  | setup (req : UsbSetup)

namespace Relay

/-- `begin_get_report`. -/
def beginGetReport (r : Relay) (reportId : UInt8) (length : UInt16) : Relay :=
  match if isCacheableFeature reportId then r.usb.answers reportId else none with
  | some cached => r.ep0Reply (getReportAnswer cached length)
  | none =>
    (r.onUsb fun u ↦ { u with pendingGet := some ⟨reportId, length⟩ }).l2capGetReport .toDualsense
      reportId

/-- `take_set_report`. -/
def takeSetReport (r : Relay) (req : UsbSetup) : Relay :=
  match req.data with
  | .error result => r.ep0StageFailed result USB_DIR_OUT
  | .ok data =>
    let data := (data.take req.length.toNat).take REPORT_LENGTH
    if data.isEmpty then r
    else if (req.value >>> (8 : UInt16)).toUInt8 = REPORT_TYPE_OUTPUT then
      r.l2capSendOutputReport .toDualsense data
    else r.l2capSendFeatureSet .toDualsense data

/-- `handle_setup`. -/
def handleSetup (r : Relay) (req : UsbSetup) : Relay :=
  match classify req.requestType req.request req.value with
  | .getReport => r.beginGetReport req.value.toUInt8 req.length
  | .setReport => r.takeSetReport req
  | .getReportDescriptor => r.ep0Reply REPORT_DESCRIPTOR
  | .getHidDescriptor => r.ep0Reply HID_DESCRIPTOR
  | .getIdle => r.ep0Reply [r.usb.idle]
  | .getProtocol => r.ep0Reply [1]
  | .setIdle => (r.onUsb fun u ↦ { u with idle := (req.value >>> (8 : UInt16)).toUInt8 }).ep0Ack
  | .setProtocol => r.ep0Stall req.requestType
  | .unsupported => r.ep0Stall req.requestType

/-- `handle_event` of the gadget. -/
def handleUsbEvent (r : Relay) : UsbEvent → Relay
  | .unbind => r.onEndpointsDisabled
  | .enable => r.onEndpointsEnabled
  | .disable => r.onEndpointsDisabled
  | .setup req => r.handleSetup req

/-- One read of ep0 by `control_events`, which happens only while no GET_REPORT is waiting. -/
def readEp0 (r : Relay) (events : List UsbEvent) : Relay :=
  if r.usb.serving ∧ r.usb.pendingGet = none then events.foldl handleUsbEvent r else r

/-- The timer of a GET_REPORT that `control_events` waits on. -/
def getReportTimeout (r : Relay) : Relay :=
  match r.usb.pendingGet with
  | none => r
  | some get => r.finishGetReport ((r.usb.answers get.reportId).getD [])

/-- A completion on the interrupt IN endpoint. -/
def inputCompletion (r : Relay) (result : Int) : Relay :=
  if r.usb.inBusy then r.onInputDone result else r

/-- `on_output_done`: the bytes that were read, or none on an error. -/
def onOutputDone (r : Relay) (result : Option (List UInt8)) : Relay :=
  let r := r.onUsb fun u ↦ { u with outBusy := false }
  match result with
  | none => r
  | some data =>
    let data := data.take REPORT_LENGTH
    (if data.isEmpty then r else r.l2capSendOutputReport .toDualsense data).submitOutputRead

/-- A completion on the interrupt OUT endpoint. -/
def outputCompletion (r : Relay) (result : Option (List UInt8)) : Relay :=
  if r.usb.outBusy then r.onOutputDone result else r

end Relay

end DualSenseMitm
