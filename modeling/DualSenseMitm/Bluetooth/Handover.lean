import DualSenseMitm.Bluetooth.HidRelay

/-!
# From the USB cable to the console's radio

The pairing data the console writes in report 0x0a, the pair command 0x08 that detaches the gadget
and calls the console, and the fast repaging after it.
-/

set_option autoImplicit false

namespace DualSenseMitm

open Bytes

def HANDOVER_PAGE_WINDOW : Time := seconds 30

namespace Relay

/-- The report 0x0a: the console's address and, the first time it meets a controller, a key. -/
def takePairingSet (r : Relay) (s : ConnectionSide) (report : List UInt8) : Relay :=
  if 23 ≤ report.length then
    let key := LinkKey.read report 7
    let host := BdAddr.read report 1
    let r := r.emit (.pairingWritten host key)
    if key.allZero then
      if (r.h s).pairing.consolePairingSeen then
        r.onPairing s fun p ↦ { p with consoleAddr := host }
      else r
    else
      (r.onPairing s fun p ↦
        { p with consoleAddr := host, consoleLinkKey := key, consolePairingSeen := true }).emit
          (.consolePairing host key)
  else r

/-- The report 0x08: all but the command that would make the pad leave goes through to it, and the
handover follows a turn of the event loop later. -/
def takeTransport (r : Relay) (s : ConnectionSide) (report : List UInt8) : Relay :=
  let sub := if 1 < report.length then byteAt report 1 else 0
  if sub = TRANSPORT_UNPAIR then r
  else
    let r := r.onStreams s fun st ↦ { st with pairCommandSeen := true }
    let r := r.l2capSendHidFeatureSet s report
    if (r.h s).pairing.consolePairingSeen ∧ r.linked then r.spawn (.handover s) else r

/-- `l2cap_send_feature_set`. -/
def l2capSendFeatureSet (r : Relay) (s : ConnectionSide) (report : List UInt8) : Relay :=
  if report.length < 1 then r
  else if byteAt report 0 = REPORT_PAIRING_SET then r.takePairingSet s report
  else if byteAt report 0 = REPORT_TRANSPORT then r.takeTransport s report
  else r.l2capSendHidFeatureSet s report

/-- `connect_to_console`. -/
def connectToConsole (r : Relay) (s : ConnectionSide) (addr : BdAddr) (key : LinkKey) : Relay :=
  let idle := (r.h s).links.connectionHandle == 0
  let r := r.emit (.consoleCalled s addr key idle)
  if s = .toPlaystation ∧ idle then
    let r := r.onPairing s fun p ↦
      { p with linkKey := some key, consoleAddr := addr, btAddr := addr }
    let r := r.writeScanEnable s SCAN_PAGE_ONLY
    let r := (r.advance 1).onPaging s fun p ↦ { p with handoverPagingSince := r.now }
    let r := r.writePageTimeout s HANDOVER_PAGE_TIMEOUT_SLOTS
    r.sendConnectionRequest s (r.h s).pairing.btAddr
  else r

/-- The deferred half of the pair command, on the pad-facing handler `s`. -/
def fireHandover (r : Relay) (s : ConnectionSide) : Relay :=
  let r := r.disableGadget
  r.connectToConsole s.other (r.h s).pairing.consoleAddr (r.h s).pairing.consoleLinkKey

/-- `end_handover_paging`. -/
def endHandoverPaging (r : Relay) (s : ConnectionSide) : Relay :=
  if (r.h s).paging.handoverPagingSince = noTime then r
  else
    (r.onPaging s fun p ↦ { p with handoverPagingSince := noTime }).writePageTimeout s
      PAGE_TIMEOUT_SLOTS

end Relay

end DualSenseMitm
