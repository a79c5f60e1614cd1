import DualSenseMitm.Moves

/-!
# The frames that are sent

`Relay.frames` reads the trace for the frames handed to the sockets: for each the side it went to, the
remote end of the channel and the payload.  Only `l2capSendFrame` adds to them, so what a function
sends is a matter of where it calls that.
-/

set_option autoImplicit false

namespace DualSenseMitm

open Bytes

/-- A frame handed to the socket. -/
structure Sent where
  side : ConnectionSide
  /-- The remote end of the channel. -/
  cid : UInt16
  payload : List UInt8
deriving DecidableEq

@[simp] def Output.sent? : Output → Option Sent
  | .acl s frame _ _ => some ⟨s, le16 frame 7, frame.drop 9⟩
  | _ => none

/-- A payload is one frame, unless it does not fit. -/
def frameOf (s : ConnectionSide) (cid : UInt16) (payload : List UInt8) : List Sent :=
  if tooLarge payload then [] else [⟨s, cid, payload⟩]

theorem mem_frameOf {s : ConnectionSide} {cid : UInt16} {payload : List UInt8} {f : Sent} :
    f ∈ frameOf s cid payload ↔ tooLarge payload = false ∧ f = ⟨s, cid, payload⟩ := by
  rw [frameOf]
  split
  · rename_i h
    simp [h]
  · rename_i h
    simp [h]

namespace Relay

/-- The frames handed to the sockets. -/
def frames (r : Relay) : List Sent := r.out.filterMap Output.sent?

variable (r : Relay) (s t : ConnectionSide)

/-! ## Single operations -/

section operations

@[simp] theorem frames_onLinks (f : Links → Links) : (r.onLinks s f).frames = r.frames := rfl
@[simp] theorem frames_onPairing (f : Pairing → Pairing) : (r.onPairing s f).frames = r.frames := rfl
@[simp] theorem frames_onPaging (f : Paging → Paging) : (r.onPaging s f).frames = r.frames := rfl
@[simp] theorem frames_onChannels (f : Channels → Channels) : (r.onChannels s f).frames = r.frames := rfl
@[simp] theorem frames_onStreams (f : DualSenseMitm.Streams → DualSenseMitm.Streams) :
    (r.onStreams s f).frames = r.frames := rfl
@[simp] theorem frames_onHeld (f : HeldFrame → HeldFrame) : (r.onHeld s f).frames = r.frames := rfl
@[simp] theorem frames_onGaps (f : SendGaps → SendGaps) : (r.onGaps s f).frames = r.frames := rfl
@[simp] theorem frames_onAcl (f : AclFlowControl → AclFlowControl) : (r.onAcl s f).frames = r.frames :=
  rfl
@[simp] theorem frames_onRadio (f : Radio → Radio) : (r.onRadio s f).frames = r.frames := rfl
@[simp] theorem frames_onCmdQueue (f : HciCommandQueue → HciCommandQueue) :
    (r.onCmdQueue s f).frames = r.frames := rfl
@[simp] theorem frames_onUsb (f : UsbHandler → UsbHandler) : (r.onUsb f).frames = r.frames := rfl
@[simp] theorem frames_setPhase (p : Phase) : (r.setPhase s p).frames = r.frames := rfl
@[simp] theorem frames_spawn (k : Task) : (r.spawn k).frames = r.frames := rfl
@[simp] theorem frames_unpark (k : ℕ) : (r.unpark k).frames = r.frames := rfl
@[simp] theorem frames_advance (n : ℕ) : (r.advance n).frames = r.frames := rfl

@[simp] theorem frames_emit (o : Output) : (r.emit o).frames = r.frames ++ o.sent?.toList := by
  rw [frames, out_emit, List.filterMap_append, frames]
  cases o <;> rfl

theorem sent?_pumped (ps : List (Command × Bool)) : (ps.map (pumpOutput s)).filterMap Output.sent? = [] := by
  refine List.filterMap_eq_nil_iff.mpr fun o ho ↦ ?_
  obtain ⟨p, -, rfl⟩ := List.mem_map.mp ho
  rw [pumpOutput]
  split <;> rfl

@[simp] theorem frames_pumpCommands : (r.pumpCommands s).frames = r.frames := by
  rw [frames, out_pumpCommands, List.filterMap_append, sent?_pumped, List.append_nil, frames]

@[simp] theorem frames_sendCmd (ogf ocf : UInt16) (param : List UInt8) (what : String) :
    (r.sendCmd s ogf ocf param what).frames = r.frames := by
  rw [frames, out_sendCmd, List.filterMap_append, List.filterMap_cons_none rfl, sent?_pumped,
    List.append_nil, frames]

@[simp] theorem frames_l2capSendFrame (cid : UInt16) (pre data : List UInt8) :
    (r.l2capSendFrame s cid pre data).frames = r.frames ++ frameOf s cid (pre ++ data) := by
  rw [frames, out_l2capSendFrame, List.filterMap_append, frameOf, frames]
  split
  · rfl
  · rw [List.filterMap_cons_some (b := ⟨s, cid, pre ++ data⟩)]
    · rfl
    · rw [Output.sent?, le16_aclFrame_cid]
      rfl

end operations

/-! ## Channels -/

/-- What is sent on a channel: nothing, if it is not open. -/
def sentOn (c : Channel) (payload : List UInt8) : List Sent :=
  if r.dcid s c = 0 then [] else frameOf s (r.dcid s c) payload

@[simp] theorem frames_l2capSendFramed (c : Channel) (pre data : List UInt8) :
    (r.l2capSendFramed s c pre data).frames = r.frames ++ r.sentOn s c (pre ++ data) := by
  rw [l2capSendFramed, sentOn]
  split
  · rw [List.append_nil]
  · rw [frames_l2capSendFrame]

@[simp] theorem frames_l2capSendData (c : Channel) (data : List UInt8) :
    (r.l2capSendData s c data).frames = r.frames ++ r.sentOn s c data :=
  frames_l2capSendFramed r s c [] data

@[simp] theorem frames_l2capSendHid (c : Channel) (hidpHeader : UInt8) (data : List UInt8) :
    (r.l2capSendHid s c hidpHeader data).frames = r.frames ++ r.sentOn s c (hidpHeader :: data) :=
  frames_l2capSendFramed r s c [hidpHeader] data

theorem mem_sentOn {c : Channel} {payload : List UInt8} {f : Sent} :
    f ∈ r.sentOn s c payload
      ↔ r.dcid s c ≠ 0 ∧ tooLarge payload = false ∧ f = ⟨s, r.dcid s c, payload⟩ := by
  rw [sentOn]
  split
  · rename_i h
    simp [h]
  · rename_i h
    rw [mem_frameOf, and_iff_right h]

/-- An output report goes out on the interrupt channel. -/
theorem frames_l2capSendOutputReport (usbReport : List UInt8) :
    ∃ bt, (r.l2capSendOutputReport s usbReport).frames
      = r.frames ++ if usbReport.length < 2 then [] else r.sentOn s .hidInterrupt (HIDP_DATA_OUTPUT :: bt) := by
  unfold l2capSendOutputReport
  extract_lets seq r₁ common head bt
  refine ⟨appendCrc32 CRC_SEED_OUTPUT bt, ?_⟩
  by_cases h : usbReport.length < 2
  · rw [if_pos h, if_pos h, List.append_nil]
  · have h₁ : r₁.dcid s .hidInterrupt = r.dcid s .hidInterrupt := by simp [r₁, dcid]
    rw [if_neg h, if_neg h, frames_l2capSendHid, sentOn, sentOn, h₁]
    rfl

/-! ## The gadget -/

@[simp] theorem frames_ep0StageFailed (result : Ep0Result) (direction : UInt8) :
    (r.ep0StageFailed result direction).frames = r.frames := by
  rw [ep0StageFailed]
  split
  · simp [ep0Stall]
  · rfl

@[simp] theorem frames_ep0Reply (data : List UInt8) : (r.ep0Reply data).frames = r.frames := by
  unfold ep0Reply
  extract_lets result r₁
  have h₁ : r₁.frames = r.frames := by simp [r₁]
  split
  · exact h₁
  · rw [frames_ep0StageFailed, h₁]

@[simp] theorem frames_finishGetReport (report : List UInt8) :
    (r.finishGetReport report).frames = r.frames := by
  unfold finishGetReport
  split
  · rfl
  · rw [frames_ep0Reply, frames_onUsb]

@[simp] theorem frames_onFeatureReport (report : List UInt8) :
    (r.onFeatureReport report).frames = r.frames := by
  unfold onFeatureReport
  extract_lets reportId slot r₁
  split
  · rfl
  · split
    · rw [frames_finishGetReport, frames_onUsb]
    · rfl

@[simp] theorem frames_sendInput (report : List UInt8) : (r.sendInput report).frames = r.frames := by
  unfold sendInput
  extract_lets ok r₁
  have h₁ : r₁.frames = r.frames := by simp [r₁]
  split
  · split
    · rw [frames_onUsb, h₁]
    · exact h₁
  · rfl

/-! ## The pad's input -/

@[simp] theorem frames_publishInput (report : List UInt8) : (r.publishInput s report).frames = r.frames := by
  rw [publishInput]
  split
  · simp
  · rfl

@[simp] theorem frames_relayPadInputToUsb (report : List UInt8) :
    (r.relayPadInputToUsb s report).frames = r.frames := by
  unfold relayPadInputToUsb
  split
  · extract_lets usb since r₁ attempt
    split
    · split
      · rw [frames_sendInput, frames_onStreams, frames_advance]
      · rw [frames_sendInput, frames_advance]
    · exact frames_sendInput r usb
  · rfl

end Relay

/-! ## A session -/

/-- A pad, a console it is paired with, and the second adapter. -/
def Config.session : Config :=
  { dsAddr := ⟨1, 2, 3, 4, 5, 6⟩, consolePairing := some (⟨7, 7, 7, 7, 7, 7⟩, .zero) }

/-- The pad has called on link 1 and the console on link 2. -/
def Input.bothLinked : List Input :=
  bringUp .toDualsense ++ incomingCall .toDualsense ⟨1, 2, 3, 4, 5, 6⟩ 1
    ++ bringUp .toPlaystation ++ incomingCall .toPlaystation ⟨7, 7, 7, 7, 7, 7⟩ 2

/-- A state report of the pad. -/
def Input.stateReport : Input :=
  .data .toDualsense 1 Channel.hidInterrupt.scid ([HIDP_DATA_INPUT, REPORT_BT, 0x01] ++ List.replicate 76 0)

/-- The console's adapter has so many buffers. -/
def Input.bufferSize (count : UInt16) : Input :=
  .event .toPlaystation EVT_CMD_COMPLETE ([1] ++ put16 (cmdOpcodePack OGF_INFO_PARAM OCF_READ_BUFFER_SIZE)
    ++ [0, 0, 0, 0] ++ put16 count ++ [0, 0])

/-- The console's adapter has sent so many frames of a link. -/
def Input.framesOut (handle : UInt16) (count : UInt8) : Input :=
  .event .toPlaystation EVT_NUM_COMP_PKTS ([0x01] ++ put16 handle ++ [count, 0])

/-- The console has opened its interrupt channel, and the pad is there. -/
def consoleInputOpen : Relay :=
  Machine.run Relay.step (.init .session)
    (Input.bothLinked ++ [.openChannel .toPlaystation 2 Channel.hidInterrupt.psm 0x40])

end DualSenseMitm
