import DualSenseMitm.Bluetooth.Handler
import DualSenseMitm.Dualsense.DualSense
import DualSenseMitm.Usb.HidGadget

/-!
# The gadget's own side

The parts of `USBHandler` that do not call back towards the pad: attaching and detaching, input
reports to the interrupt IN endpoint, the stages of ep0, and the pad's feature answers.
-/

set_option autoImplicit false

namespace DualSenseMitm

open Bytes

namespace Relay

/-! ## ep0 -/

/-- `ep0_stall`. -/
def ep0Stall (r : Relay) (requestType : UInt8) : Relay := r.emit (.ep0Stall requestType)

/-- `ep0_stage_failed`. -/
def ep0StageFailed (r : Relay) (result : Ep0Result) (direction : UInt8) : Relay :=
  if result = .eintr then r.ep0Stall direction else r

/-- `ep0_reply`. -/
def ep0Reply (r : Relay) (data : List UInt8) : Relay :=
  let result := r.env.ep0 r.tick
  let r := (r.advance 1).emit (.ep0Reply data result)
  if result = .done then r else r.ep0StageFailed result USB_DIR_IN

/-- `ep0_ack`. -/
def ep0Ack (r : Relay) : Relay :=
  let result := r.env.ep0 r.tick
  let r := (r.advance 1).emit (.ep0Ack result)
  if result = .done then r else r.ep0StageFailed result USB_DIR_OUT

/-! ## Feature answers -/

/-- `finish_get_report`. -/
def finishGetReport (r : Relay) (report : List UInt8) : Relay :=
  match r.usb.pendingGet with
  | none => r
  | some get =>
    (r.onUsb fun u ↦ { u with pendingGet := none }).ep0Reply (getReportAnswer report get.length)

/-- `on_feature_report`. -/
def onFeatureReport (r : Relay) (report : List UInt8) : Relay :=
  if report.length < 1 then r
  else
    let reportId := byteAt report 0
    let slot := report.take REPORT_LENGTH
    let r := r.onUsb fun u ↦ { u with answers := Function.update u.answers reportId (some slot) }
    if r.usb.pendingGet.any fun get ↦ get.reportId == reportId then r.finishGetReport slot else r

/-! ## Input reports -/

/-- `send_input`. -/
def sendInput (r : Relay) (report : List UInt8) : Relay :=
  if r.usb.endpointsEnabled ∧ ¬ r.usb.inBusy then
    let ok := r.env.aioSubmit r.tick
    let r := (r.advance 1).emit (.usbInput (report.take REPORT_LENGTH) ok)
    if ok then r.onUsb fun u ↦ { u with inBusy := true } else r
  else r

/-- `on_input_done`. -/
def onInputDone (r : Relay) (result : Int) : Relay :=
  let r := r.onUsb fun u ↦ { u with inBusy := false }
  if 0 ≤ result ∧ r.usb.inputFlowingSince = noTime then
    (r.advance 1).onUsb fun u ↦ { u with inputFlowingSince := r.now }
  else r

/-- `submit_output_read`. -/
def submitOutputRead (r : Relay) : Relay :=
  if r.usb.outBusy ∨ ¬ r.usb.endpointsEnabled ∨ ¬ r.usb.epOutOpen then r
  else
    let ok := r.env.aioSubmit r.tick
    let r := (r.advance 1).emit (.usbOutputRead ok)
    if ok then r.onUsb fun u ↦ { u with outBusy := true } else r

/-! ## Attaching and detaching -/

/-- `enable_gadget`: whether the gadget was bound. -/
def enableGadget (r : Relay) : Bool × Relay :=
  if r.usb.ep0Open then
    let ok := r.env.bindUdc r.tick
    let r := r.advance 1
    (ok, if ok then r.onUsb fun u ↦ { u with bound := true } else r)
  else (false, r)

/-- `disable_gadget`. -/
def disableGadget (r : Relay) : Relay :=
  (r.onUsb fun u ↦ { u with bound := false, endpointsEnabled := false, pendingGet := none }).emit
    .gadgetDetached

/-- `on_endpoints_enabled`. -/
def onEndpointsEnabled (r : Relay) : Relay :=
  if r.usb.endpointsEnabled then r
  else (r.onUsb fun u ↦ { u with endpointsEnabled := true }).submitOutputRead

/-- `on_endpoints_disabled`. -/
def onEndpointsDisabled (r : Relay) : Relay := r.onUsb fun u ↦ { u with endpointsEnabled := false }

end Relay

end DualSenseMitm
