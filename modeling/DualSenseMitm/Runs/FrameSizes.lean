import DualSenseMitm.Bluetooth.FrameRoundTrip
import DualSenseMitm.Runs.Pages
import DualSenseMitm.Sending

/-!
# How large an outgoing frame is

An ACL packet goes out in one piece: what it carries is bounded by the relay's own buffer, and a payload
that does not fit is not sent.  The controller reports how much an ACL packet may carry and each peer asks
for an MTU; neither is looked at again.

* `WellSized` — a packet that fits the buffer, with lengths that are those of what it carries.
* `acl_packets_sized` — every packet of every run is one; the answer to Read Buffer Size and the request for
  an MTU have the same effect whatever they say; and a payload is refused only by a closed channel and by the
  buffer.
* `Negotiated` — what the controller and the peers asked for, and a packet that exceeds both
  (`negotiated_sizes_exceeded`).
-/

set_option autoImplicit false

namespace DualSenseMitm

open Bytes Machine Relay

/-- An ACL packet that fits `write_buffer_` and says how much it carries. -/
structure WellSized (frame : List UInt8) : Prop where
  /-- The indicator and both headers are there. -/
  headers : 9 ≤ frame.length
  fits : frame.length ≤ 4096
  /-- The ACL header counts what is behind it. -/
  acl : (le16 frame 3).toNat + 5 = frame.length
  /-- The L2CAP header counts the payload. -/
  l2cap : (le16 frame 5).toNat + 9 = frame.length

theorem le16_aclFrame_len (handle cid : UInt16) (payload : List UInt8) :
    le16 (aclFrame handle cid payload) 5 = UInt16.ofNat payload.length := by
  rw [aclFrame_eq]
  exact le16_put16_append _ (put16 cid ++ payload)

theorem wellSized_aclFrame (handle cid : UInt16) {payload : List UInt8} (h : tooLarge payload = false) :
    WellSized (aclFrame handle cid payload) := by
  have hlen := length_aclFrame handle cid payload
  have hfits : 1 + 4 + 4 + payload.length ≤ 4096 := Nat.not_lt.mp (of_decide_eq_false h)
  refine ⟨by omega, by omega, ?_, ?_⟩
  · rw [le16_aclFrame_dlen, length_l2capPdu, UInt16.toNat_ofNat', Nat.mod_eq_of_lt (by omega)]
    omega
  · rw [le16_aclFrame_len, UInt16.toNat_ofNat', Nat.mod_eq_of_lt (by omega)]
    omega

namespace Relay

variable {r r' : Relay}

/-! ## Every packet -/

/-- Every ACL packet handed to a socket is well sized. -/
def AllSized (r : Relay) : Prop :=
  ∀ s frame ok handles, .acl s frame ok handles ∈ r.out → WellSized frame

/-- What is left of a command that leaves the queue is no ACL packet. -/
theorem acl_notMem_pumped {s t : ConnectionSide} {frame : List UInt8} {ok : Bool} {handles : Finset UInt16}
    (ps : List (Command × Bool)) : .acl s frame ok handles ∉ ps.map (pumpOutput t) := by
  rw [List.mem_map]
  rintro ⟨p, -, hp⟩
  rw [pumpOutput] at hp
  split at hp <;> cases hp

/-- One operation: only a frame adds a packet, and only if it fits. -/
theorem allSized_perform {A : Set Aspect} {op : Op} (h : r.AllSized) (hop : op.Within A r) :
    (r.perform op).AllSized := by
  intro s frame ok handles hm
  cases op with
  | pump t =>
    rw [perform, out_pumpCommands] at hm
    rcases List.mem_append.mp hm with hm | hm
    · exact h _ _ _ _ hm
    · exact absurd hm (acl_notMem_pumped _)
  | cmd t ogf ocf param what =>
    rw [perform, out_sendCmd] at hm
    rcases List.mem_append.mp hm with hm | hm
    · exact h _ _ _ _ hm
    · rcases List.mem_cons.mp hm with hm | hm
      · cases hm
      · exact absurd hm (acl_notMem_pumped _)
  | frame t cid pre data =>
    rw [perform, out_l2capSendFrame] at hm
    rcases List.mem_append.mp hm with hm | hm
    · exact h _ _ _ _ hm
    · split at hm
      · cases hm
      · rename_i hfits
        obtain ⟨-, rfl, -, -⟩ := Output.acl.inj (List.mem_singleton.mp hm)
        exact wellSized_aclFrame _ _ (Bool.eq_false_iff.mpr hfits)
  | emit o =>
    rw [perform, out_emit] at hm
    rcases List.mem_append.mp hm with hm | hm
    · exact h _ _ _ _ hm
    · obtain rfl := List.mem_singleton.mp hm
      rcases hop with hplain | hwithin
      · cases hplain
      · exact hwithin.elim
  | _ => exact h _ _ _ _ hm

theorem allSized_step (i : Input) (h : r.AllSized) : (r.step i).AllSized :=
  (step_move r i).within.invariant AllSized h fun _ _ ha hop ↦ allSized_perform ha hop

/-! ## The length the controller reports -/

/-- The answer to Read Buffer Size: how much an ACL packet may carry, and the rest. -/
def bufferAnswer (ncmd status : UInt8) (aclLength : UInt16) (rest : List UInt8) : List UInt8 :=
  [ncmd] ++ put16 (cmdOpcodePack OGF_INFO_PARAM OCF_READ_BUFFER_SIZE) ++ ([status] ++ put16 aclLength ++ rest)

theorem get_bufferAnswer (ncmd status : UInt8) (aclLength : UInt16) (rest : List UInt8) :
    EvtCmdComplete.get? (bufferAnswer ncmd status aclLength rest)
      = some (⟨ncmd, cmdOpcodePack OGF_INFO_PARAM OCF_READ_BUFFER_SIZE⟩, [status] ++ put16 aclLength ++ rest) := by
  have hopcode : le16 ([ncmd] ++ put16 (cmdOpcodePack OGF_INFO_PARAM OCF_READ_BUFFER_SIZE)) 1
      = cmdOpcodePack OGF_INFO_PARAM OCF_READ_BUFFER_SIZE := (le16_append_right [ncmd] _ 0).trans (le16_put16 _)
  rw [EvtCmdComplete.get?, PacketContents.getAs, bufferAnswer, PacketContents.get_append (n := 3) rfl,
    Option.map_some]
  dsimp only
  rw [hopcode]
  rfl

/-- What is kept of the answer is how many packets the controller holds. -/
theorem handleCmdComplete_bufferAnswer (r : Relay) (s : ConnectionSide) (ncmd status : UInt8)
    (aclLength : UInt16) (rest : List UInt8) :
    r.handleCmdComplete s (bufferAnswer ncmd status aclLength rest)
      = if 4 ≤ rest.length ∧ status = HCI_SUCCESS then
          (r.commandAnswered s ncmd).onAcl s fun a ↦ a.setMaxPackets (le16 (rest.take 4) 1)
        else r.commandAnswered s ncmd := by
  have hlen : ([status] ++ put16 aclLength ++ rest).length = 3 + rest.length := by
    rw [List.length_append]
    rfl
  unfold handleCmdComplete
  rw [get_bufferAnswer]
  dsimp only
  rw [if_pos rfl, PacketContents.get, hlen]
  by_cases hfour : 4 ≤ rest.length
  · have hstatus : byteAt (([status] ++ put16 aclLength ++ rest).take 7) 0 = status := rfl
    rw [if_neg (by omega), Option.bind_some]
    dsimp only
    rw [hstatus]
    by_cases hs : status = HCI_SUCCESS
    · rw [if_pos hs, if_pos ⟨hfour, hs⟩]
      rfl
    · rw [if_neg hs, if_neg fun h ↦ hs h.2]
  · rw [if_pos (by omega), if_neg fun h ↦ hfour h.1]
    rfl

/-- A Command Complete finds its handler. -/
theorem handleBluetoothData_cmdComplete (r : Relay) (s : ConnectionSide) (len : UInt8)
    (params : List UInt8) :
    r.handleBluetoothData s ([HCI_EVENT_PKT, EVT_CMD_COMPLETE, len] ++ params) = r.handleCmdComplete s params := by
  have hpacket : [HCI_EVENT_PKT, EVT_CMD_COMPLETE, len] ++ params
      = [HCI_EVENT_PKT] ++ ([EVT_CMD_COMPLETE, len] ++ params) := rfl
  rw [hpacket, handleBluetoothData, PacketContents.get_append (n := 1) rfl]
  dsimp only
  rw [if_pos (show byteAt [HCI_EVENT_PKT] 0 = HCI_EVENT_PKT from rfl), handleEvent,
    PacketContents.get_append (n := 2) rfl]
  rfl

/-- The reported length makes no difference. -/
theorem step_bufferAnswer (r : Relay) (s : ConnectionSide) (ncmd status : UInt8) (m n : UInt16)
    (rest : List UInt8) :
    r.step (.event s EVT_CMD_COMPLETE (bufferAnswer ncmd status m rest))
      = r.step (.event s EVT_CMD_COMPLETE (bufferAnswer ncmd status n rest)) := by
  have hlen : (bufferAnswer ncmd status m rest).length = (bufferAnswer ncmd status n rest).length := by
    simp [bufferAnswer]
  rw [Input.event, Input.event, ← hlen, step, step, takePacket, takePacket]
  cases (r.h s).phase with
  | down => rfl
  | resetting => rfl
  | running =>
    dsimp only
    rw [handleBluetoothData_cmdComplete, handleBluetoothData_cmdComplete, handleCmdComplete_bufferAnswer,
      handleCmdComplete_bufferAnswer]

end Relay

namespace Relay

/-! ## The MTU a peer asks for -/

/-- A state apart from what has left the process. -/
def still (r : Relay) : Relay := { r with out := [] }

theorem exists_out_of_still {a b : Relay} (h : a.still = b.still) : ∃ out, b = { a with out := out } := by
  refine ⟨b.out, ?_⟩
  rw [show ({ a with out := b.out } : Relay) = { a.still with out := b.out } from rfl, h]
  rfl

/-- A frame leaves the same state, whatever has left before and whatever it says in so many bytes. -/
theorem still_l2capSendFrame {a b : Relay} (h : a.still = b.still) (s : ConnectionSide) (cid : UInt16)
    {pre pre' data data' : List UInt8} (hlen : (pre ++ data).length = (pre' ++ data').length) :
    (a.l2capSendFrame s cid pre data).still = (b.l2capSendFrame s cid pre' data').still := by
  obtain ⟨out, rfl⟩ := exists_out_of_still h
  have hfits : tooLarge (pre ++ data) = tooLarge (pre' ++ data') := by rw [tooLarge, tooLarge, hlen]
  unfold l2capSendFrame
  extract_lets payload links ok a' payload' links' ok' b'
  by_cases hlarge : tooLarge payload' = true
  · rw [if_pos (hfits.trans hlarge), if_pos hlarge]
    rfl
  · rw [if_neg (hfits ▸ hlarge), if_neg hlarge]
    by_cases hok : ok = true
    · rw [if_pos hok, if_pos (show ok' = true from hok)]
      rfl
    · rw [if_neg hok, if_neg (show ¬ ok' = true from hok)]
      rfl

/-- What follows a configuration request does not look at what has left before. -/
theorem still_confRequestChain {a b : Relay} (h : a.still = b.still) (s : ConnectionSide) (c : Channel) :
    (a.confRequestChain s c).still = (b.confRequestChain s c).still := by
  obtain ⟨out, rfl⟩ := exists_out_of_still h
  have hcall : ∀ next, (a.l2capSendConnRequest s next).still
      = (l2capSendConnRequest { a with out := out } s next).still := by
    intro next
    change (l2capSendFrame _ s _ _ _).still = (l2capSendFrame _ s _ _ _).still
    apply still_l2capSendFrame
    · rfl
    · rfl
  unfold confRequestChain
  by_cases hincoming : (a.h s).links.incomingLink = true
  · rw [if_pos hincoming, if_pos hincoming]
    rfl
  · rw [if_neg hincoming, if_neg hincoming]
    cases s with
    | toPlaystation =>
      cases c with
      | hidControl =>
        change still (ite (a.dcid .toPlaystation .hidInterrupt = 0) _ _)
          = still (ite (a.dcid .toPlaystation .hidInterrupt = 0) _ _)
        by_cases hclosed : a.dcid .toPlaystation .hidInterrupt = 0
        · rw [if_pos hclosed, if_pos hclosed]
          rfl
        · rw [if_neg hclosed, if_neg hclosed]
          rfl
      | _ => rfl
    | toDualsense =>
      cases c with
      | sdpClient => exact hcall .hidControl
      | hidControl => exact hcall .hidInterrupt
      | _ => rfl

/-- A configuration request for an MTU. -/
def mtuRequest (dcid flags mtu : UInt16) (behind : List UInt8) : List UInt8 :=
  put16 dcid ++ put16 flags ++ ([L2CAP_CONF_MTU, 2] ++ put16 mtu ++ behind)

/-- The MTU is echoed, and makes no other difference. -/
theorem still_mtuRequest (r : Relay) (s : ConnectionSide) (dcid flags m n : UInt16) (behind : List UInt8) :
    (r.handleConfRequest s (mtuRequest dcid flags m behind)).still
      = (r.handleConfRequest s (mtuRequest dcid flags n behind)).still := by
  have hreq : ∀ mtu, L2capConfReq.get? (mtuRequest dcid flags mtu behind)
      = some (⟨le16 (put16 dcid ++ put16 flags) 0⟩, [L2CAP_CONF_MTU, 2] ++ put16 mtu ++ behind) := by
    intro mtu
    rw [L2capConfReq.get?, PacketContents.getAs, mtuRequest, PacketContents.get_append (n := 4) rfl]
    rfl
  have hoption : ∀ mtu, PacketContents.get 4 ([L2CAP_CONF_MTU, 2] ++ put16 mtu ++ behind)
      = some ([L2CAP_CONF_MTU, 2] ++ put16 mtu, behind) := fun mtu ↦ PacketContents.get_append rfl _
  unfold handleConfRequest
  rw [hreq, hreq]
  dsimp only
  cases Channel.byScid (le16 (put16 dcid ++ put16 flags) 0) with
  | none => rfl
  | some c =>
    dsimp only
    rw [hoption, hoption]
    apply still_confRequestChain
    change (l2capSendFrame _ s _ _ _).still = (l2capSendFrame _ s _ _ _).still
    apply still_l2capSendFrame
    · rfl
    · rfl

/-! ## What is refused -/

/-- A payload goes out whole, unless its channel is closed or the buffer is too small for it. -/
theorem out_l2capSendFramed (r : Relay) (s : ConnectionSide) (c : Channel) (pre data : List UInt8) :
    (r.l2capSendFramed s c pre data).out
      = r.out ++ if r.dcid s c = 0 ∨ 4087 < (pre ++ data).length then []
        else [.acl s (aclFrame (r.h s).links.connectionHandle (r.dcid s c) (pre ++ data)) (r.env.aclWrite r.tick)
          (r.h s).links.openHandles] := by
  rw [l2capSendFramed]
  by_cases hclosed : r.dcid s c = 0
  · rw [if_pos hclosed, if_pos (.inl hclosed), List.append_nil]
  · rw [if_neg hclosed, out_l2capSendFrame]
    refine congrArg _ (if_congr ?_ rfl rfl)
    rw [or_iff_right hclosed, tooLarge, decide_eq_true_iff]
    omega

end Relay

/-- **The sizes that hold.**  Every ACL packet of a run fits the relay's own buffer and says in both of its
headers how much it carries.  Two controllers that report different lengths get the same packets; two peers
that ask for different MTUs leave the same state, and get the same packets but for the echo of what they
asked for; and a payload is handed to the socket whole, unless its channel is closed or it does not fit the
buffer. -/
theorem acl_packets_sized :
    (∀ (c : Config) (is : List Input), (run Relay.step (.init c) is).AllSized)
      ∧ (∀ (r : Relay) (s : ConnectionSide) (ncmd status : UInt8) (m n : UInt16) (rest : List UInt8),
          r.step (.event s EVT_CMD_COMPLETE (bufferAnswer ncmd status m rest))
            = r.step (.event s EVT_CMD_COMPLETE (bufferAnswer ncmd status n rest)))
      ∧ (∀ (r : Relay) (s : ConnectionSide) (dcid flags m n : UInt16) (behind : List UInt8),
          (r.handleConfRequest s (mtuRequest dcid flags m behind)).still
            = (r.handleConfRequest s (mtuRequest dcid flags n behind)).still)
      ∧ ∀ (r : Relay) (s : ConnectionSide) (c : Channel) (pre data : List UInt8),
          (r.l2capSendFramed s c pre data).out
            = r.out ++ if r.dcid s c = 0 ∨ 4087 < (pre ++ data).length then []
              else [.acl s (aclFrame (r.h s).links.connectionHandle (r.dcid s c) (pre ++ data))
                (r.env.aclWrite r.tick) (r.h s).links.openHandles] := by
  refine ⟨fun c is ↦ ?_, step_bufferAnswer, still_mtuRequest, out_l2capSendFramed⟩
  have hinit : (Relay.init c).AllSized := by
    intro s frame ok handles hm
    cases hm
  exact run_invariant is hinit fun _ i h ↦ allSized_step i h

/-! ## The sizes the parties asked for -/

/-- The MTU option of a configuration request, in at most so many options. -/
def mtuOption : ℕ → List UInt8 → Option UInt16
  | n + 1, kind :: len :: rest =>
    if kind &&& 0x7f = L2CAP_CONF_MTU ∧ len = 2 then some (le16 rest 0)
    else mtuOption n (rest.drop len.toNat)
  | _, _ => none

/-- What was asked for so far. -/
structure Negotiated where
  /-- How much an ACL packet may carry, since the controller said so. -/
  aclLength : ConnectionSide → Option UInt16 := fun _ ↦ none
  /-- How much the peer takes on a channel. -/
  mtu : ConnectionSide → Channel → UInt16 := fun _ _ ↦ 672

namespace Negotiated

/-- A configuration request of the peer: the channel, and the MTU it asks for. -/
def requested (p : PacketContents) : Option (Channel × UInt16) := do
  let (hdr, p) ← L2capCmdHdr.get? p
  guard (hdr.code = L2CAP_CONF_REQ)
  let (req, p) ← L2capConfReq.get? p
  let c ← Channel.byScid req.dcid
  let mtu ← mtuOption p.length p
  pure (c, mtu)

/-- A Read Buffer Size answer, and a configuration request. -/
def note (x : Negotiated) (r : Relay) (i : Input) : Negotiated :=
  match r.cause i, i with
  | .event s (.bufferSize _), .packet _ bytes =>
    { x with aclLength := Function.update x.aclLength s (some (le16 bytes 7)) }
  | .acl s p, _ =>
    match r.contentsOf s p with
    | .command q =>
      match requested q with
      | some (c, mtu) => { x with mtu := Function.update x.mtu s (Function.update (x.mtu s) c mtu) }
      | none => x
    | _ => x
  | _, _ => x

/-- The packets of a step carry no more than their controller takes. -/
def KeepsAclLength (x : Negotiated) (r : Relay) (i : Input) : Prop :=
  ∀ s frame ok handles, Output.acl s frame ok handles ∈ r.added i →
    ∀ n, x.aclLength s = some n → frame.length ≤ 5 + n.toNat

/-- The payloads of a step are no longer than the peer takes on their channel. -/
def KeepsMtu (x : Negotiated) (r : Relay) (i : Input) : Prop :=
  ∀ s frame ok handles, Output.acl s frame ok handles ∈ r.added i →
    ∀ c, le16 frame 7 = (r.step i).dcid s c → frame.length ≤ 9 + (x.mtu s c).toNat

end Negotiated

/-- A step of the relay, with what was asked for. -/
def sizeStep : Relay × Negotiated → Input → Relay × Negotiated :=
  withHistory Relay.step Negotiated.note

/-- The pad's SDP channel is open; the console's controller takes 310 bytes in a packet; the console
opens its SDP channel, asks for 48 bytes on it and sends a query. -/
def consoleQueries : List Input :=
  Input.bothLinked ++ [
    .event .toDualsense EVT_AUTH_COMPLETE (HCI_SUCCESS :: put16 1),
    .signal .toDualsense 1 L2CAP_CONN_RSP 1 (put16 0x41 ++ put16 Channel.sdpClient.scid ++ put16 0 ++ put16 0),
    .event .toPlaystation EVT_CMD_COMPLETE (bufferAnswer 1 HCI_SUCCESS 310 [0, 8, 0, 0]),
    .openChannel .toPlaystation 2 Channel.hidSdp.psm 0x40,
    .signal .toPlaystation 2 L2CAP_CONF_REQ 2
      (put16 Channel.hidSdp.scid ++ put16 0 ++ [L2CAP_CONF_MTU, 2] ++ put16 48),
    .data .toPlaystation 2 Channel.hidSdp.scid [SDP_SERVICE_SEARCH_ATTR_REQUEST, 0, 1, 0, 0]]

/-- The pad's answer, 400 bytes of it. -/
def record : List UInt8 := 0x07 :: List.replicate 399 0

def longAnswer : Input := .data .toDualsense 1 Channel.sdpClient.scid record

def beforeAnswer : Relay × Negotiated := run sizeStep (.init .session, {}) consoleQueries

/-- The answer goes to the console in one packet, which is larger than either of them. -/
theorem negotiated_sizes_exceeded :
    ¬ Along sizeStep (fun p i ↦ p.2.KeepsAclLength p.1 i) (.init .session, {}) (consoleQueries ++ [longAnswer])
      ∧ ¬ Along sizeStep (fun p i ↦ p.2.KeepsMtu p.1 i) (.init .session, {}) (consoleQueries ++ [longAnswer]) := by
  have hsent : Output.acl .toPlaystation (aclFrame 2 0x40 record) true {2} ∈ beforeAnswer.1.added longAnswer := by
    decide +kernel
  constructor
  · intro h
    have hkeeps : beforeAnswer.2.KeepsAclLength beforeAnswer.1 longAnswer := (along_append.mp h).2.1
    have hle := hkeeps _ _ _ _ hsent 310 (by decide +kernel)
    revert hle
    decide +kernel
  · intro h
    have hkeeps : beforeAnswer.2.KeepsMtu beforeAnswer.1 longAnswer := (along_append.mp h).2.1
    have hle := hkeeps _ _ _ _ hsent .hidSdp (by decide +kernel)
    revert hle
    decide +kernel

end DualSenseMitm
