import DualSenseMitm.Dualsense.DualSense

/-!
# The parts of the relay that are functions of bytes

* `aclHeaderHandle` — the handle field of an ACL header.
* `carriesControllerState` — tells the pad's reports from the frames of its opaque stream.
* `makeCutDownReport`, `makeUsbReport`, `setPsOnUsbReport` — the input report in its other framings.
-/

set_option autoImplicit false

namespace DualSenseMitm

open Bytes

/-- `acl_header_handle`: twelve bits of handle and then the packet-boundary flag. -/
def aclHeaderHandle (handle boundaryFlag : UInt16) : UInt16 :=
  (handle &&& (0x0fff : UInt16)) ||| ((boundaryFlag &&& (0x3 : UInt16)) <<< (12 : UInt16))

/-- Offset of the report body in a payload that still has its HIDP header. -/
def BT_BODY_OFF : ℕ := 1 + INPUT_BODY_OFF_BT

def FACE_BUTTON_OFF : ℕ := 7
def BUTTON_PS_OFF : ℕ := 9
def BUTTON_PS : UInt8 := 0x01
def BT_FLAGS_OFF : ℕ := 2
def FLAG_HAS_HID : UInt8 := 0x01

/-- `carries_controller_state`. -/
def carriesControllerState (payload : List UInt8) : Bool :=
  payload.length == 1 + INPUT_BT_SIZE && (byteAt payload BT_FLAGS_OFF &&& FLAG_HAS_HID) != 0

/-- `make_cut_down_report`: the third button byte carries the report counter in its upper bits. -/
def makeCutDownReport (payload : List UInt8) : List UInt8 :=
  let b := fun i ↦ byteAt payload (BT_BODY_OFF + i)
  let buttons2 := (b 9 &&& (0x03 : UInt8)) ||| ((b 6 &&& (0x3f : UInt8)) <<< (2 : UInt8))
  let buttons0 := b FACE_BUTTON_OFF
  [REPORT_INPUT_BT_BASIC, b 0, b 1, b 2, b 3, buttons0, b 8, buttons2, b 4, b 5]

/-- `make_usb_report`: the body is copied, the charging nibble forced and the capacity kept. -/
def makeUsbReport (payload : List UInt8) : List UInt8 :=
  let body := slice payload BT_BODY_OFF INPUT_BODY_LEN
  let capacity := byteAt body STATUS_OFF &&& 0x0f
  let charging := if 10 ≤ capacity then STATUS_CHARGING_FULL else STATUS_CHARGING_CHARGING
  REPORT_INPUT_USB :: body.set STATUS_OFF ((charging <<< (4 : UInt8)) ||| capacity)

/-- `set_ps_on_usb_report`. -/
def setPsOnUsbReport (usb : List UInt8) : List UInt8 :=
  if usb.length = INPUT_USB_SIZE then
    usb.set (INPUT_BODY_OFF_USB + BUTTON_PS_OFF)
      (byteAt usb (INPUT_BODY_OFF_USB + BUTTON_PS_OFF) ||| BUTTON_PS)
  else usb

theorem length_makeUsbReport (payload : List UInt8) :
    (makeUsbReport payload).length = INPUT_USB_SIZE := by
  simp [makeUsbReport, INPUT_BODY_LEN, INPUT_USB_SIZE]

end DualSenseMitm
