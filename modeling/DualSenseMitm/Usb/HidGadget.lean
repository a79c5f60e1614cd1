import DualSenseMitm.Lib.Bytes

/-!
# The HID interface of the gadget, as bytes

What the gadget presents, how a control request on ep0 is read, and the data stage of a GET_REPORT.
-/

set_option autoImplicit false

namespace DualSenseMitm

open Bytes

/-- `hidgadget::REPORT_LENGTH`. -/
def REPORT_LENGTH : ℕ := 64

def USB_DIR_OUT : UInt8 := 0x00
def USB_DIR_IN : UInt8 := 0x80
def REPORT_TYPE_OUTPUT : UInt8 := 2

/-- The report descriptor of a DualSense over USB. -/
def REPORT_DESCRIPTOR : List UInt8 := [
  0x05, 0x01, 0x09, 0x05, 0xa1, 0x01, 0x85, 0x01, 0x09, 0x30, 0x09, 0x31, 0x09, 0x32,
  0x09, 0x35, 0x09, 0x33, 0x09, 0x34, 0x15, 0x00, 0x26, 0xff, 0x00, 0x75, 0x08, 0x95,
  0x06, 0x81, 0x02, 0x06, 0x00, 0xff, 0x09, 0x20, 0x95, 0x01, 0x81, 0x02, 0x05, 0x01,
  0x09, 0x39, 0x15, 0x00, 0x25, 0x07, 0x35, 0x00, 0x46, 0x3b, 0x01, 0x65, 0x14, 0x75,
  0x04, 0x95, 0x01, 0x81, 0x42, 0x65, 0x00, 0x05, 0x09, 0x19, 0x01, 0x29, 0x0f, 0x15,
  0x00, 0x25, 0x01, 0x75, 0x01, 0x95, 0x0f, 0x81, 0x02, 0x06, 0x00, 0xff, 0x09, 0x21,
  0x95, 0x0d, 0x81, 0x02, 0x06, 0x00, 0xff, 0x09, 0x22, 0x15, 0x00, 0x26, 0xff, 0x00,
  0x75, 0x08, 0x95, 0x34, 0x81, 0x02, 0x85, 0x02, 0x09, 0x23, 0x95, 0x2f, 0x91, 0x02,
  0x85, 0x05, 0x09, 0x33, 0x95, 0x28, 0xb1, 0x02, 0x85, 0x08, 0x09, 0x34, 0x95, 0x2f,
  0xb1, 0x02, 0x85, 0x09, 0x09, 0x24, 0x95, 0x13, 0xb1, 0x02, 0x85, 0x0a, 0x09, 0x25,
  0x95, 0x1a, 0xb1, 0x02, 0x85, 0x0b, 0x09, 0x41, 0x95, 0x29, 0xb1, 0x02, 0x85, 0x0c,
  0x09, 0x42, 0x95, 0x29, 0xb1, 0x02, 0x85, 0x20, 0x09, 0x26, 0x95, 0x3f, 0xb1, 0x02,
  0x85, 0x21, 0x09, 0x27, 0x95, 0x04, 0xb1, 0x02, 0x85, 0x22, 0x09, 0x40, 0x95, 0x3f,
  0xb1, 0x02, 0x85, 0x80, 0x09, 0x28, 0x95, 0x3f, 0xb1, 0x02, 0x85, 0x81, 0x09, 0x29,
  0x95, 0x3f, 0xb1, 0x02, 0x85, 0x82, 0x09, 0x2a, 0x95, 0x09, 0xb1, 0x02, 0x85, 0x83,
  0x09, 0x2b, 0x95, 0x3f, 0xb1, 0x02, 0x85, 0x84, 0x09, 0x2c, 0x95, 0x3f, 0xb1, 0x02,
  0x85, 0x85, 0x09, 0x2d, 0x95, 0x02, 0xb1, 0x02, 0x85, 0xa0, 0x09, 0x2e, 0x95, 0x01,
  0xb1, 0x02, 0x85, 0xe0, 0x09, 0x2f, 0x95, 0x3f, 0xb1, 0x02, 0x85, 0xf0, 0x09, 0x30,
  0x95, 0x3f, 0xb1, 0x02, 0x85, 0xf1, 0x09, 0x31, 0x95, 0x3f, 0xb1, 0x02, 0x85, 0xf2,
  0x09, 0x32, 0x95, 0x0f, 0xb1, 0x02, 0x85, 0xf4, 0x09, 0x35, 0x95, 0x3f, 0xb1, 0x02,
  0x85, 0xf5, 0x09, 0x36, 0x95, 0x03, 0xb1, 0x02, 0xc0]

/-- The HID class descriptor, with the length of the report descriptor. -/
def HID_DESCRIPTOR : List UInt8 := [9, 0x21, 0x01, 0x01, 0x00, 1, 0x22, 0x21, 0x01]

/-- `hidgadget::Request`. -/
inductive Request
  | getReport
  | setReport
  | getIdle
  | setIdle
  | getProtocol
  | setProtocol
  | getHidDescriptor
  | getReportDescriptor
  | unsupported
deriving DecidableEq, Repr

/-- `classify`: what a SETUP that reached the HID interface asks for. -/
def classify (requestType request : UInt8) (value : UInt16) : Request :=
  match requestType with
  | 0xa1 =>
    match request with
    | 0x01 => .getReport
    | 0x02 => .getIdle
    | 0x03 => .getProtocol
    | _ => .unsupported
  | 0x21 =>
    match request with
    | 0x09 => .setReport
    | 0x0a => .setIdle
    | 0x0b => .setProtocol
    | _ => .unsupported
  | 0x81 =>
    if request = 0x06 then
      if value >>> (8 : UInt16) = 0x21 then .getHidDescriptor
      else if value >>> (8 : UInt16) = 0x22 then .getReportDescriptor
      else .unsupported
    else .unsupported
  | _ => .unsupported

/-- `get_report_answer`: padded to a whole report and then cut to what was asked for. -/
def getReportAnswer (report : List UInt8) (wLength : UInt16) : List UInt8 :=
  let data := report.take REPORT_LENGTH
  (data ++ List.replicate (REPORT_LENGTH - data.length) 0).take (min wLength.toNat REPORT_LENGTH)

end DualSenseMitm
