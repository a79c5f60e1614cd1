import DualSenseMitm.Bluetooth.HciEvents
import DualSenseMitm.Bluetooth.L2cap
import DualSenseMitm.Lib.Machine
import DualSenseMitm.Usb.UsbEvents

/-!
# The relay as a machine

Everything runs on one thread, so the process is a machine that takes one input after another: a
packet from an adapter, a timer, an event of the gadget.  Timers fire in any order, which is more
than the clock allows.

`Relay.start` is the state `main` builds before anything runs: the two handlers with the keys and
addresses it loaded, and no coroutine started.
-/

set_option autoImplicit false

namespace DualSenseMitm

open Bytes

/-- What can happen next. -/
inductive Input
  /-- The coroutine `handle` of a handler starts. -/
  | start (s : ConnectionSide)
  /-- No answer to the reset within two seconds. -/
  | resetTimeout (s : ConnectionSide)
  /-- The adapter delivers a packet. -/
  | packet (s : ConnectionSide) (bytes : List UInt8)
  /-- The timer of the `k`-th parked coroutine fires. -/
  | fire (k : ℕ)
  /-- A round of `watch_commands`. -/
  | watch (s : ConnectionSide)
  /-- A round of `poll_radio_quality`. -/
  | pollRadio (s : ConnectionSide)
  /-- A round of `publish_stage`. -/
  | publishStage
  /-- The gadget's ep0 has events. -/
  | ep0 (events : List UsbEvent)
  | getReportTimeout
  /-- A completion on an interrupt endpoint. -/
  | inputDone (result : Int)
  | outputDone (result : Option (List UInt8))
  /-- A signal to stop. -/
  | shutdown

namespace Input

/-- An event of the controller, in the packet it arrives in. -/
def event (s : ConnectionSide) (evt : UInt8) (params : List UInt8) : Input :=
  .packet s ([HCI_EVENT_PKT, evt, UInt8.ofNat params.length] ++ params)

/-- A handler starts, and the controller completes its reset. -/
def bringUp (s : ConnectionSide) : List Input :=
  let opcode := cmdOpcodePack OGF_HOST_CTL OCF_RESET
  [.start s,
    .event s EVT_CMD_COMPLETE ([0x01, opcode.toUInt8, (opcode >>> (8 : UInt16)).toUInt8, HCI_SUCCESS])]

/-- The controller has room for every command that waits. -/
def commandRoom (s : ConnectionSide) : Input := .event s EVT_CMD_COMPLETE (0xff :: put16 0)

/-- The peer calls. -/
def call (s : ConnectionSide) (addr : BdAddr) : Input :=
  .event s EVT_CONN_REQUEST (addr.bytes ++ [0x00, 0x00, 0x00, 0x01])

/-- A Connection Complete. -/
def connComplete (s : ConnectionSide) (status : UInt8) (handle : UInt16) (addr : BdAddr) : Input :=
  .event s EVT_CONN_COMPLETE ([status] ++ put16 handle ++ addr.bytes ++ [0x01, 0x00])

/-- The peer calls, and the call becomes the link `handle`. -/
def incomingCall (s : ConnectionSide) (addr : BdAddr) (handle : UInt16) : List Input :=
  [.call s addr, .connComplete s HCI_SUCCESS handle addr]

/-- The link `handle` is gone. -/
def hangUp (s : ConnectionSide) (handle : UInt16) (reason : UInt8) : Input :=
  .event s EVT_DISCONN_COMPLETE ([HCI_SUCCESS] ++ put16 handle ++ [reason])

/-- A PDU in a single ACL packet. -/
def acl (s : ConnectionSide) (handle : UInt16) (pdu : List UInt8) : Input :=
  .packet s ([HCI_ACLDATA_PKT] ++ put16 (aclHeaderHandle handle ACL_START_FLUSHABLE)
    ++ put16 (UInt16.ofNat pdu.length) ++ pdu)

/-- A signalling command. -/
def signal (s : ConnectionSide) (handle : UInt16) (code ident : UInt8) (data : List UInt8) : Input :=
  .acl s handle (put16 (UInt16.ofNat (4 + data.length)) ++ put16 L2CAP_CID_SIGNALLING
    ++ [code, ident] ++ put16 (UInt16.ofNat data.length) ++ data)

/-- The peer opens a channel to the remote end `scid`. -/
def openChannel (s : ConnectionSide) (handle psm scid : UInt16) : Input :=
  signal s handle L2CAP_CONN_REQ 1 (put16 psm ++ put16 scid)

/-- Data on a channel. -/
def data (s : ConnectionSide) (handle cid : UInt16) (payload : List UInt8) : Input :=
  .acl s handle (put16 (UInt16.ofNat payload.length) ++ put16 cid ++ payload)

/-- A GET_REPORT of the host. -/
def getReport (reportId : UInt8) (length : UInt16) : Input :=
  .ep0 [.setup ⟨0xa1, 0x01, 0x0300 ||| reportId.toUInt16, length, .ok []⟩]

/-- The pad connects and its interrupt channel is configured, the gadget is attached, and the host
enables it. -/
def gadgetUp (pad : BdAddr) : List Input :=
  bringUp .toDualsense ++ incomingCall .toDualsense pad 1
    ++ [signal .toDualsense 1 L2CAP_CONF_RSP 1 (put16 Channel.hidInterrupt.scid ++ put16 0 ++ put16 0),
      .fire 0, .fire 0, .ep0 [.enable]]

end Input

namespace Relay

/-! ## Bringing a handler up -/

/-- The rest of `handle` once the reset is over, up to the read loop. -/
def setUp (r : Relay) (s : ConnectionSide) : Relay :=
  let r := r.setPhase s .running
  let r := r.writeSimplePairingEnabled s
  let r := r.writeEventMask s
  let r := r.writeAuthEnabled s
  let r := r.writePageScanActivity s PAGE_SCAN_INTERVAL_EAGER PAGE_SCAN_WINDOW_EAGER
  let r := r.writePageTimeout s PAGE_TIMEOUT_SLOTS
  let r := r.readBufferSize s
  let r := r.applySideSettings s
  match s with
  | .toDualsense => r.sendConnectionRequest s (r.h s).pairing.btAddr
  | .toPlaystation => r

/-- The queue is let go after a reset, and the set-up follows. -/
def afterReset (r : Relay) (s : ConnectionSide) : Relay :=
  ((r.onCmdQueue s fun q ↦ q.release).pumpCommands s).setUp s

/-- The reset command, which is written past the queue. -/
def resetCommand : Command := { ogf := OGF_HOST_CTL, ocf := OCF_RESET, what := "reset" }

/-- `handle`, up to the wait in `reset_controller`. -/
def startHandler (r : Relay) (s : ConnectionSide) : Relay :=
  let r := r.onCmdQueue s fun q ↦ q.hold
  let ok := r.env.cmdWrite r.tick
  let r := (r.advance 1).emit (pumpOutput s (resetCommand, ok))
  if ok then r.setPhase s .resetting else r.afterReset s

/-- A packet that arrives during the reset: dropped, unless it completes the reset. -/
def packetDuringReset (r : Relay) (s : ConnectionSide) (packet : List UInt8) : Relay :=
  if 7 ≤ packet.length ∧ byteAt packet 0 = HCI_EVENT_PKT ∧ byteAt packet 1 = EVT_CMD_COMPLETE
      ∧ le16 packet 4 = cmdOpcodePack OGF_HOST_CTL OCF_RESET then
    (r.onCmdQueue s fun q ↦ q.answered (byteAt packet 3)).afterReset s
  else r

/-! ## One input -/

/-- `handle_bluetooth_data`. -/
def handleBluetoothData (r : Relay) (s : ConnectionSide) (packet : List UInt8) : Relay :=
  match PacketContents.get 1 packet with
  | none => r
  | some (indicator, p) =>
    if byteAt indicator 0 = HCI_EVENT_PKT then r.handleEvent s p
    else if byteAt indicator 0 = HCI_ACLDATA_PKT then r.handleAcl s p
    else r

/-- A packet, by how far the handler has come. -/
def takePacket (r : Relay) (s : ConnectionSide) (packet : List UInt8) : Relay :=
  match (r.h s).phase with
  | .down => r
  | .resetting => r.packetDuringReset s packet
  | .running => r.handleBluetoothData s packet

/-- A parked coroutine carries on. -/
def runTask (r : Relay) : Task → Relay
  | .reconnect s _ => r.fireReconnect s
  | .sweepDone s => r.suppressCmdErrors s false
  | .interruptFallback s link => r.fireInterruptFallback s link
  | .startUsbGadget s => r.startUsbGadget s
  | .enableUsbGadget s => r.enableUsbGadget s
  | .handover s => r.fireHandover s

/-- The `k`-th parked coroutine is taken off the list and carries on. -/
def fire (r : Relay) (k : ℕ) : Relay :=
  match r.tasks[k]? with
  | none => r
  | some t => (r.unpark k).runTask t

/-- `disconnect_link` on every handler there is. -/
def shutdown (r : Relay) : Relay :=
  let r := r.disconnectLink .toDualsense
  if r.linked then r.disconnectLink .toPlaystation else r

/-- There is such a handler. -/
def present (r : Relay) (s : ConnectionSide) : Bool := s == .toDualsense || r.linked

/-- One input. -/
def step (r : Relay) : Input → Relay
  | .start s => if r.present s ∧ (r.h s).phase = .down then r.startHandler s else r
  | .resetTimeout s => if (r.h s).phase = .resetting then r.afterReset s else r
  | .packet s bytes => r.takePacket s bytes
  | .fire k => r.fire k
  | .watch s => if (r.h s).phase ≠ .down then r.watchCommands s else r
  | .pollRadio s => if (r.h s).phase = .running then r.readRadioQuality s else r
  | .publishStage => if (r.h .toDualsense).phase ≠ .down then r.publishStage .toDualsense else r
  | .ep0 events => r.readEp0 events
  | .getReportTimeout => r.getReportTimeout
  | .inputDone result => r.inputCompletion result
  | .outputDone result => r.outputCompletion result
  | .shutdown => r.shutdown

end Relay

/-! ## The start -/

/-- What `main` finds before it starts. -/
structure Config where
  /-- The pad's address. -/
  dsAddr : BdAddr
  /-- The saved link key of the pad. -/
  linkKey : Option LinkKey := none
  /-- The saved pairing of the console. -/
  consolePairing : Option (BdAddr × LinkKey) := none
  /-- There is a second adapter and it could be claimed. -/
  linked : Bool := true
  /-- The address of a second adapter that was there and could not be claimed. -/
  ps5Adapter : BdAddr := {}
  /-- The gadget's function came up. -/
  gadgetReady : Bool := true
  /-- When the accounting is constructed. -/
  startedAt : Time := 1
  env : Surroundings := {}

namespace Config

/-- The pairing members `main` sets on a handler. -/
def pairing (c : Config) (s : ConnectionSide) : Pairing :=
  let p : Pairing :=
    match s with
    | .toDualsense =>
      { btAddr := c.dsAddr
        linkKey := c.linkKey
        ps5SideAddr := if c.linked then c.dsAddr else c.ps5Adapter }
    | .toPlaystation => { spoofAddr := c.dsAddr }
  match c.consolePairing with
  | none => p
  | some (addr, key) =>
    -- `set_console_pairing`
    { p with consoleAddr := addr, consoleLinkKey := key, consolePairingSeen := true }

/-- A handler as its constructor and `main` leave it. -/
def handler (c : Config) (s : ConnectionSide) : Handler :=
  { pairing := c.pairing s
    acl :=
      { depth := if s = .toDualsense then 3 else 2
        lastCompletion := c.startedAt } }

end Config

/-- The state `main` builds. -/
def Relay.init (c : Config) : Relay :=
  { h := c.handler
    linked := c.linked
    usb := { ep0Open := c.gadgetReady, epOutOpen := c.gadgetReady }
    env := c.env }

end DualSenseMitm
