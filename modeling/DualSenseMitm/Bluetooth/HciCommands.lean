import DualSenseMitm.Bluetooth.Handler

/-!
# Commands to the controller

Everything `HciCommands.cpp` sends, and the adapter settings built out of it.  All of it goes
through `sendCmd`, which queues the command and pumps the queue.
-/

set_option autoImplicit false

namespace DualSenseMitm

open Bytes

namespace Relay

/-! ## The queue -/

/-- What is left of a command that left the queue. -/
def pumpOutput (s : ConnectionSide) (p : Command × Bool) : Output :=
  if p.2 then .cmdWritten s p.1 else .cmdDropped s p.1

/-- `pump_commands`. -/
def pumpCommands (r : Relay) (s : ConnectionSide) : Relay :=
  let q := (r.h s).cmdQueue
  let pumped := q.pump (fun k ↦ r.env.cmdWrite (r.tick + k)) fun k ↦ r.env.clock (r.tick + k)
  { r.onCmdQueue s fun _ ↦ pumped.2 with
    tick := r.tick + pumped.1.length
    out := r.out ++ pumped.1.map (pumpOutput s) }

/-- `send_cmd`. -/
def sendCmd (r : Relay) (s : ConnectionSide) (ogf ocf : UInt16) (param : List UInt8)
    (what : String) : Relay :=
  let c : Command :=
    { ogf := ogf, ocf := ocf, param := param, what := what
      quiet := (r.h s).paging.suppressCmdErrors }
  ((r.onCmdQueue s fun q ↦ q.push c).emit (.cmdIssued s c)).pumpCommands s

/-- One round of `watch_commands`. -/
def watchCommands (r : Relay) (s : ConnectionSide) : Relay :=
  if (r.h s).cmdQueue.overdue r.now then
    ((r.advance 1).onCmdQueue s fun q ↦ q.giveUp).pumpCommands s
  else r.advance 1

/-! ## Settings of the adapter -/

def writeSimplePairingEnabled (r : Relay) (s : ConnectionSide) : Relay :=
  r.sendCmd s OGF_HOST_CTL OCF_WRITE_SIMPLE_PAIRING_MODE [1] "write simple pairing"

def writeAuthEnabled (r : Relay) (s : ConnectionSide) : Relay :=
  r.sendCmd s OGF_HOST_CTL OCF_WRITE_AUTH_ENABLE [HCI_AUTH_ENABLE_VAL] "write auth enable"

def writeEventMask (r : Relay) (s : ConnectionSide) : Relay :=
  r.sendCmd s OGF_HOST_CTL OCF_SET_EVENT_MASK [0xff, 0xff, 0xff, 0xff, 0xff, 0xff, 0xbf, 0x3d]
    "set event mask"

def writeClassOfDevice (r : Relay) (s : ConnectionSide) (devClass : List UInt8) : Relay :=
  r.sendCmd s OGF_HOST_CTL OCF_WRITE_CLASS_OF_DEV devClass "write class of device"

def writeExtendedInquiryResult (r : Relay) (s : ConnectionSide) (data : List UInt8) : Relay :=
  let eir := (data.take 240) ++ List.replicate (240 - data.length) 0
  r.sendCmd s OGF_HOST_CTL OCF_WRITE_EXT_INQUIRY_RESPONSE (0 :: eir) "write EIR"

def writePageTimeout (r : Relay) (s : ConnectionSide) (slots : UInt16) : Relay :=
  r.sendCmd s OGF_HOST_CTL OCF_WRITE_PAGE_TIMEOUT (put16 slots) "write page timeout"

def writePageScanActivity (r : Relay) (s : ConnectionSide) (interval window : UInt16) : Relay :=
  r.sendCmd s OGF_HOST_CTL OCF_WRITE_PAGE_ACTIVITY (put16 interval ++ put16 window)
    "write page scan activity"

def writeDefaultLinkPolicy (r : Relay) (s : ConnectionSide) (policy : UInt16) : Relay :=
  r.sendCmd s OGF_LINK_POLICY OCF_WRITE_DEFAULT_LINK_POLICY (put16 policy)
    "write default link policy"

def writeScanEnable (r : Relay) (s : ConnectionSide) (mode : UInt8) : Relay :=
  r.sendCmd s OGF_HOST_CTL OCF_WRITE_SCAN_ENABLE [mode] "write scan enable"

def readBdAddr (r : Relay) (s : ConnectionSide) : Relay :=
  r.sendCmd s OGF_INFO_PARAM OCF_READ_BD_ADDR [] "read bd_addr"

def readBufferSize (r : Relay) (s : ConnectionSide) : Relay :=
  r.sendCmd s OGF_INFO_PARAM OCF_READ_BUFFER_SIZE [] "read buffer size"

/-- Whether failures of the next commands are worth a log line. -/
def suppressCmdErrors (r : Relay) (s : ConnectionSide) (b : Bool) : Relay :=
  r.onPaging s fun p ↦ { p with suppressCmdErrors := b }

/-- `spoof_bd_addr`: the vendor command that changes the address. -/
def spoofBdAddr (r : Relay) (s : ConnectionSide) (addr : BdAddr) : Relay :=
  ((r.suppressCmdErrors s true).sendCmd s 0x3f 0x01 addr.bytes "BD_ADDR spoof").suppressCmdErrors
    s false

/-- `read_radio_quality`. -/
def readRadioQuality (r : Relay) (s : ConnectionSide) : Relay :=
  let handle := (r.h s).links.connectionHandle
  if handle = 0 then r
  else
    let r := r.suppressCmdErrors s true
    let r := r.sendCmd s OGF_STATUS_PARAM OCF_READ_LINK_QUALITY (put16 handle) "read link quality"
    let r := r.sendCmd s OGF_STATUS_PARAM OCF_READ_RSSI (put16 handle) "read rssi"
    let r := r.sendCmd s OGF_STATUS_PARAM OCF_READ_AFH_MAP (put16 handle) "read afh map"
    r.suppressCmdErrors s false

/-- `apply_console_side_identity`. -/
def applyConsoleSideIdentity (r : Relay) (s : ConnectionSide) : Relay :=
  let r :=
    if (r.h s).pairing.spoofAddr.isSet then
      (r.spoofBdAddr s (r.h s).pairing.spoofAddr).readBdAddr s
    else r
  let r := r.writeClassOfDevice s CLASS_OF_DEVICE_GAMEPAD
  let r := r.writeExtendedInquiryResult s extendedInquiry0
  if (r.h s).paging.scanSuppressed then r else r.writeScanEnable s SCAN_PAGE_ONLY

/-- `apply_side_settings`. -/
def applySideSettings (r : Relay) (s : ConnectionSide) : Relay :=
  let r := r.writeDefaultLinkPolicy s (LINK_POLICY_ROLE_SWITCH ||| LINK_POLICY_SNIFF)
  match s with
  | .toDualsense => r.writeScanEnable s SCAN_PAGE_ONLY
  | .toPlaystation => r.applyConsoleSideIdentity s

/-! ## Links -/

/-- The command that closes a link. -/
def disconnect (r : Relay) (s : ConnectionSide) (handle : UInt16) : Relay :=
  r.sendCmd s OGF_LINK_CTL OCF_DISCONNECT (put16 handle ++ [DISCONNECT_REMOTE_USER]) "disconnect"

/-- `disconnect_link`: every link the adapter holds, in the order of their handles. -/
def disconnectLink (r : Relay) (s : ConnectionSide) : Relay :=
  ((r.h s).links.openHandles.sort (· ≤ ·)).foldl (fun r handle ↦ r.disconnect s handle) r

/-- `send_connection_request`. -/
def sendConnectionRequest (r : Relay) (s : ConnectionSide) (addr : BdAddr) : Relay :=
  if addr.isSet then
    -- our own second radio answers to the pad's address: it is silenced while the pad is paged
    let r :=
      if s = .toDualsense ∧ r.linked ∧ (r.h s.other).pairing.spoofAddr.isSet
          ∧ addr = (r.h s.other).pairing.spoofAddr then
        (r.writeScanEnable s.other SCAN_NONE).onPaging s.other
          fun p ↦ { p with scanSuppressed := true }
      else r
    r.sendCmd s OGF_LINK_CTL OCF_CREATE_CONN
      (addr.bytes ++ put16 ACL_PTYPE_MASK ++ [0x01, 0] ++ put16 0x00 ++ [0x00]) "create connection"
  else r

def requestCentralRole (r : Relay) (s : ConnectionSide) (addr : BdAddr) : Relay :=
  r.sendCmd s OGF_LINK_POLICY OCF_SWITCH_ROLE (addr.bytes ++ [0x00]) "switch role"

def requestAuthentication (r : Relay) (s : ConnectionSide) (handle : UInt16) : Relay :=
  r.sendCmd s OGF_LINK_CTL OCF_AUTH_REQUESTED (put16 handle) "authentication requested"

def requestEncryption (r : Relay) (s : ConnectionSide) (handle : UInt16) : Relay :=
  r.sendCmd s OGF_LINK_CTL OCF_SET_CONN_ENCRYPT (put16 handle ++ [0x01]) "set connection encrypt"

end Relay

end DualSenseMitm
