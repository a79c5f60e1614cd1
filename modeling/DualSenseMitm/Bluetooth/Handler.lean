import Mathlib.Data.Finset.Insert
import Mathlib.Data.Finset.Sort
import DualSenseMitm.Bluetooth.AclFlowControl
import DualSenseMitm.Bluetooth.Hci
import DualSenseMitm.Bluetooth.HciCommandQueue
import DualSenseMitm.Bluetooth.HeldFrame
import DualSenseMitm.Bluetooth.PacketContents
import DualSenseMitm.Bluetooth.SendGaps

/-!
# The relay's state

Two handlers face the pad and the console and reach into each other, so the state of a run is one
`Relay` holding both, the gadget, the coroutines that wait on a timer, and everything the process
has done so far.

* `Handler` — the members of one `BluetoothHandler`, grouped by what they are about.
* `UsbHandler` — the members of the pad-facing handler's gadget.
* `Task` — a coroutine parked on a timer, with what it captured.
* `Surroundings` — the answers of everything the code calls and does not control: the clock, the
  sockets, the kernel.  The `n`-th question of a run gets the `n`-th answer, and nothing is assumed
  about them.
* `Output` — what leaves the process.  A few of them are marks for a reader of the trace, put where
  the source passes a point that is talked about later.
-/

set_option autoImplicit false

namespace DualSenseMitm

/-! ## One handler -/

/-- `EConnectionSide`: which peer a handler faces. -/
inductive ConnectionSide
  | toDualsense
  | toPlaystation
deriving DecidableEq, Repr

/-- The handler `other_` points to. -/
def ConnectionSide.other : ConnectionSide → ConnectionSide
  | .toDualsense => .toPlaystation
  | .toPlaystation => .toDualsense

instance {p : ConnectionSide → Prop} [DecidablePred p] : Decidable (∀ s, p s) :=
  decidable_of_iff (p .toDualsense ∧ p .toPlaystation)
    ⟨fun h s ↦ by cases s; exacts [h.1, h.2], fun h ↦ ⟨h _, h _⟩⟩

@[simp] theorem ConnectionSide.other_toDualsense : ConnectionSide.toDualsense.other = .toPlaystation :=
  rfl

@[simp] theorem ConnectionSide.other_toPlaystation :
    ConnectionSide.toPlaystation.other = .toDualsense := rfl

/-- The four `HciChannel` members. -/
inductive Channel
  | hidSdp
  | sdpClient
  | hidControl
  | hidInterrupt
deriving DecidableEq, Repr

namespace Channel

def psm : Channel → UInt16
  | hidSdp => 0x01
  | sdpClient => 0x01
  | hidControl => 0x11
  | hidInterrupt => 0x13

def scid : Channel → UInt16
  | hidSdp => 0x7008
  | sdpClient => 0x7009
  | hidControl => 0x7108
  | hidInterrupt => 0x720f

def mtu : Channel → UInt16
  | hidSdp => 185
  | sdpClient => 1000
  | hidControl => 185
  | hidInterrupt => 672

/-- `get_channel_by_psm`. -/
def byPsm (psm : UInt16) : Option Channel :=
  if psm = hidControl.psm then some hidControl
  else if psm = hidInterrupt.psm then some hidInterrupt
  else if psm = hidSdp.psm then some hidSdp
  else none

/-- `get_channel_by_scid`. -/
def byScid (scid : UInt16) : Option Channel :=
  if scid = hidControl.scid then some hidControl
  else if scid = hidInterrupt.scid then some hidInterrupt
  else if scid = hidSdp.scid then some hidSdp
  else if scid = sdpClient.scid then some sdpClient
  else none

end Channel

/-- A PDU of which some fragments have arrived. -/
structure AclReasm where
  buf : List UInt8
  expected : ℕ
deriving DecidableEq, Repr

/-- The links of an adapter. -/
structure Links where
  /-- The link the handler relays on; zero for none. -/
  connectionHandle : UInt16 := 0
  /-- Every link the adapter holds. -/
  openHandles : Finset UInt16 := ∅
  /-- Handles of an earlier run the controller was asked to drop. -/
  ghostHandles : Finset UInt16 := ∅
  /-- The partial PDU of each link. -/
  aclReasm : UInt16 → Option AclReasm := fun _ ↦ none
  incomingLink : Bool := false
  acceptedIncoming : Bool := false
  onPlayLink : Bool := false
  linkSniffing : Bool := false
  linkPeerAddr : BdAddr := {}

/-- Addresses and keys. -/
structure Pairing where
  /-- The peer this side pages. -/
  btAddr : BdAddr := {}
  /-- The address the console is told. -/
  ps5SideAddr : BdAddr := {}
  /-- The address this adapter claims. -/
  spoofAddr : BdAddr := {}
  /-- What a Link Key Request is answered with. -/
  linkKey : Option LinkKey := none
  negotiatedLinkKey : LinkKey := default
  consoleAddr : BdAddr := {}
  consoleLinkKey : LinkKey := default
  consolePairingSeen : Bool := false

/-- Calling the peer, and what its failures left behind. -/
structure Paging where
  reconnectPending : Bool := false
  pageFailures : Int := 0
  handoverPagingSince : Time := noTime
  staleLinkReset : Bool := false
  suppressCmdErrors : Bool := false
  scanSuppressed : Bool := false

/-- The L2CAP channels of the current link and what was learned over them. -/
structure Channels where
  /-- The remote end of each channel; zero when it is not open. -/
  dcid : Channel → UInt16 := fun _ ↦ 0
  cmdRequestIdent : UInt8 := 1
  currentCmdIdent : UInt8 := 0
  consoleFullReports : Bool := false
  consoleInputSeen : Bool := false
  consoleOutputSeen : Bool := false

/-- Counters and flags of the streams that pass through. -/
structure Streams where
  consoleInputCount : UInt64 := 0
  consoleInputBackpressure : UInt64 := 0
  consoleInputFlushed : UInt64 := 0
  consoleInputOpaqueDropped : UInt64 := 0
  consoleOutputCount : UInt64 := 0
  consoleOutputDropped : UInt64 := 0
  padOutputSeen : Bool := false
  handoverSeen : Bool := false
  /-- Sequence number of the output reports built for the pad. -/
  outputSeq : UInt8 := 0
  /-- The pad's service record. -/
  sdpAnswerCache : List UInt8 := []
  pairCommandSeen : Bool := false
  autoPsAttempt : Int := 0
  usbStarted : Bool := false

/-- What the controller said about the radio. -/
structure Radio where
  linkQuality : UInt8 := 0
  linkRssi : Int8 := 0
  afhChannels : UInt8 := 0
  afhEnabled : Bool := false
  radioRead : Bool := false

/-- How far the coroutine `handle` has come. -/
inductive Phase
  /-- Not started, or there is no such adapter. -/
  | down
  /-- Waiting for the reset to complete. -/
  | resetting
  /-- In the read loop. -/
  | running
deriving DecidableEq, Repr

/-- One `BluetoothHandler`. -/
structure Handler where
  phase : Phase := .down
  links : Links := {}
  pairing : Pairing := {}
  paging : Paging := {}
  channels : Channels := {}
  streams : Streams := {}
  held : HeldFrame := .empty
  gaps : SendGaps := {}
  acl : AclFlowControl := {}
  cmdQueue : HciCommandQueue := {}
  radio : Radio := {}

/-! ## The gadget -/

/-- The GET_REPORT waiting on the pad. -/
structure PendingGet where
  reportId : UInt8
  length : UInt16
deriving DecidableEq, Repr

/-- The USB side. -/
structure UsbHandler where
  /-- `ep0_fd_` is open. -/
  ep0Open : Bool := false
  /-- `ep_out_fd_` is open. -/
  epOutOpen : Bool := false
  /-- `control_events` and `endpoint_events` have been spawned. -/
  serving : Bool := false
  bound : Bool := false
  endpointsEnabled : Bool := false
  inBusy : Bool := false
  outBusy : Bool := false
  pendingGet : Option PendingGet := none
  /-- The latest answer to each feature report. -/
  answers : UInt8 → Option (List UInt8) := fun _ ↦ none
  idle : UInt8 := 1
  inputFlowingSince : Time := noTime

/-! ## The process -/

/-- A coroutine parked on a timer. -/
inductive Task
  /-- `schedule_reconnect`. -/
  | reconnect (s : ConnectionSide) (delay : Time)
  /-- The end of the stale-link sweep. -/
  | sweepDone (s : ConnectionSide)
  /-- The interrupt channel the console was given time to open, on the link of that moment. -/
  | interruptFallback (s : ConnectionSide) (link : UInt16)
  /-- `start_usb_gadget`, before its first step. -/
  | startUsbGadget (s : ConnectionSide)
  /-- `start_usb_gadget`, waiting for the pad's answers. -/
  | enableUsbGadget (s : ConnectionSide)
  /-- The handover, a turn of the event loop after the pair command. -/
  | handover (s : ConnectionSide)
deriving DecidableEq, Repr

/-- How a data or status stage on ep0 ended. -/
inductive Ep0Result
  | done
  /-- The host abandoned the request. -/
  | eidrm
  /-- The deadline interrupted the stage. -/
  | eintr
  | error
deriving DecidableEq, Repr

/-- The answers of what the code calls. -/
structure Surroundings where
  clock : ℕ → Time := fun _ ↦ 1
  /-- Whether a write of ACL data succeeds. -/
  aclWrite : ℕ → Bool := fun _ ↦ true
  /-- Whether a write of a command succeeds. -/
  cmdWrite : ℕ → Bool := fun _ ↦ true
  ep0 : ℕ → Ep0Result := fun _ ↦ .done
  /-- Whether a submission to an endpoint is accepted. -/
  aioSubmit : ℕ → Bool := fun _ ↦ true
  /-- Whether the gadget can be bound to a controller. -/
  bindUdc : ℕ → Bool := fun _ ↦ true

/-- `inputfeed::Stage`. -/
inductive Stage
  | padSearch
  | padConnect
  | usbWait
  | usbRead
  | usbPress
  | calling
  | consoleConnect
  | relaying
deriving DecidableEq, Repr

/-- `inputfeed::Link`. -/
structure LinkSnapshot where
  stage : Stage := .padSearch
  callAttempt : UInt8 := 0
  consoleSent : UInt64 := 0
  outputSent : UInt64 := 0
  outputDropped : UInt64 := 0
  gapWindow : UInt32 := 0
  gapCount : UInt32 := 0
  gapMaxUs : UInt32 := 0
  consoleLive : Bool := false
  linkQuality : UInt8 := 0
  linkRssi : Int8 := 0
  afhChannels : UInt8 := 0
  radioRead : Bool := false
deriving DecidableEq, Repr

/-- What leaves the process, and marks for a reader of the trace. -/
inductive Output
  /-- An ACL frame handed to the socket, whether that succeeded, and the links the adapter held. -/
  | acl (s : ConnectionSide) (frame : List UInt8) (ok : Bool) (openHandles : Finset UInt16)
  /-- A command was queued by `send_cmd`. -/
  | cmdIssued (s : ConnectionSide) (c : Command)
  /-- A command was written to the controller. -/
  | cmdWritten (s : ConnectionSide) (c : Command)
  /-- A command could not be written. -/
  | cmdDropped (s : ConnectionSide) (c : Command)
  /-- `on_link_key_saved_`. -/
  | linkKeySaved (key : LinkKey)
  /-- `on_link_key_rejected_`. -/
  | linkKeyRejected
  /-- `on_console_pairing_`. -/
  | consolePairing (addr : BdAddr) (key : LinkKey)
  /-- Mark: a report 0x0a was written, with an all-zero key or a new one. -/
  | pairingWritten (host : BdAddr) (key : LinkKey)
  /-- Mark: `connect_to_console` of this side was called with these, and it held no link then. -/
  | consoleCalled (s : ConnectionSide) (addr : BdAddr) (key : LinkKey) (idle : Bool)
  /-- Mark: a Link Key Notification arrived. -/
  | keyNotified (s : ConnectionSide) (addr : BdAddr) (key : LinkKey)
  /-- Mark: an authentication failed in a way that condemns the key it was made with. -/
  | keyFailed (s : ConnectionSide)
  /-- Mark: a PDU that arrived on `handle` is handed to `route_l2cap_pdu`. -/
  | routed (s : ConnectionSide) (handle : UInt16) (pdu : List UInt8)
  /-- Mark: an input payload of the pad arrived, with the console's interrupt channel open or
  not. -/
  | padInput (report : List UInt8) (consoleOpen : Bool)
  /-- Mark: a payload is sent towards the console, from the held slot or directly, at this reading of
  the clock. -/
  | relayed (report : List UInt8) (flushed : Bool) (sentAt : Time)
  /-- The input feed. -/
  | published (body : List UInt8) (link : LinkSnapshot)
  | publishedLink (link : LinkSnapshot)
  /-- A report submitted to the interrupt IN endpoint. -/
  | usbInput (report : List UInt8) (ok : Bool)
  /-- A read submitted to the interrupt OUT endpoint. -/
  | usbOutputRead (ok : Bool)
  /-- A data stage on ep0. -/
  | ep0Reply (data : List UInt8) (result : Ep0Result)
  /-- A status stage on ep0. -/
  | ep0Ack (result : Ep0Result)
  | ep0Stall (requestType : UInt8)
  /-- The gadget was detached. -/
  | gadgetDetached
deriving DecidableEq

/-- The whole process. -/
structure Relay where
  h : ConnectionSide → Handler
  /-- The console-facing handler exists, and each handler's `other_` is the other one. -/
  linked : Bool := true
  usb : UsbHandler := {}
  /-- The parked coroutines, oldest first. -/
  tasks : List Task := []
  env : Surroundings := {}
  /-- How many answers of the surroundings have been used. -/
  tick : ℕ := 0
  /-- What has left the process, oldest first. -/
  out : List Output := []

namespace Relay

/-! ## Writing one group of a handler's members -/

def onHandler (r : Relay) (s : ConnectionSide) (f : Handler → Handler) : Relay :=
  { r with h := Function.update r.h s (f (r.h s)) }

def onLinks (r : Relay) (s : ConnectionSide) (f : Links → Links) : Relay :=
  r.onHandler s fun h ↦ { h with links := f h.links }

def onPairing (r : Relay) (s : ConnectionSide) (f : Pairing → Pairing) : Relay :=
  r.onHandler s fun h ↦ { h with pairing := f h.pairing }

def onPaging (r : Relay) (s : ConnectionSide) (f : Paging → Paging) : Relay :=
  r.onHandler s fun h ↦ { h with paging := f h.paging }

def onChannels (r : Relay) (s : ConnectionSide) (f : Channels → Channels) : Relay :=
  r.onHandler s fun h ↦ { h with channels := f h.channels }

def onStreams (r : Relay) (s : ConnectionSide) (f : Streams → Streams) : Relay :=
  r.onHandler s fun h ↦ { h with streams := f h.streams }

def onHeld (r : Relay) (s : ConnectionSide) (f : HeldFrame → HeldFrame) : Relay :=
  r.onHandler s fun h ↦ { h with held := f h.held }

def onGaps (r : Relay) (s : ConnectionSide) (f : SendGaps → SendGaps) : Relay :=
  r.onHandler s fun h ↦ { h with gaps := f h.gaps }

def onAcl (r : Relay) (s : ConnectionSide) (f : AclFlowControl → AclFlowControl) : Relay :=
  r.onHandler s fun h ↦ { h with acl := f h.acl }

def onCmdQueue (r : Relay) (s : ConnectionSide) (f : HciCommandQueue → HciCommandQueue) : Relay :=
  r.onHandler s fun h ↦ { h with cmdQueue := f h.cmdQueue }

def onRadio (r : Relay) (s : ConnectionSide) (f : Radio → Radio) : Relay :=
  r.onHandler s fun h ↦ { h with radio := f h.radio }

def onUsb (r : Relay) (f : UsbHandler → UsbHandler) : Relay := { r with usb := f r.usb }

def setPhase (r : Relay) (s : ConnectionSide) (p : Phase) : Relay :=
  r.onHandler s fun h ↦ { h with phase := p }

/-- Something leaves the process. -/
def emit (r : Relay) (o : Output) : Relay := { r with out := r.out ++ [o] }

/-- `co_spawn`. -/
def spawn (r : Relay) (t : Task) : Relay := { r with tasks := r.tasks ++ [t] }

/-- The `k`-th parked coroutine is taken off the list. -/
def unpark (r : Relay) (k : ℕ) : Relay := { r with tasks := r.tasks.eraseIdx k }

/-- `n` answers of the surroundings have been used. -/
def advance (r : Relay) (n : ℕ) : Relay := { r with tick := r.tick + n }

/-- `steady_clock::now()`. -/
def now (r : Relay) : Time := r.env.clock r.tick

/-- The reading that has just been made. -/
def lastReading (r : Relay) : Time := r.env.clock (r.tick - 1)

/-- The remote end of a channel. -/
def dcid (r : Relay) (s : ConnectionSide) (c : Channel) : UInt16 := (r.h s).channels.dcid c

def setDcid (r : Relay) (s : ConnectionSide) (c : Channel) (dcid : UInt16) : Relay :=
  r.onChannels s fun ch ↦ { ch with dcid := Function.update ch.dcid c dcid }

end Relay

end DualSenseMitm
