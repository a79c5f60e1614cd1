import DualSenseMitm.Moves

/-!
# What is built is what is parsed

`l2capSendFrame` builds three headers around a payload, and `handleAcl`, `routeL2capPdu` and
`handleL2capCmd` take them off again.  The two meet at `l2capPdu`: the frame is the indicator, the ACL
header and that PDU, and a packet that carries it routes it, once and whole.
-/

set_option autoImplicit false

namespace DualSenseMitm

open Bytes Machine

/-- A payload behind its L2CAP header. -/
def l2capPdu (cid : UInt16) (payload : List UInt8) : List UInt8 :=
  put16 (UInt16.ofNat payload.length) ++ put16 cid ++ payload

/-- The PDUs in a trace, with the link each came in on. -/
def Output.routed? : Output → Option (ConnectionSide × UInt16 × List UInt8)
  | .routed s handle pdu => some (s, handle, pdu)
  | _ => none

/-! ## The frame -/

section frame

variable (handle cid : UInt16) (payload : List UInt8)

@[simp] theorem length_l2capPdu : (l2capPdu cid payload).length = 4 + payload.length := by
  simp [l2capPdu]
  omega

theorem aclFrame_eq :
    aclFrame handle cid payload
      = HCI_ACLDATA_PKT :: (put16 (aclHeaderHandle handle ACL_START_FLUSHABLE)
          ++ (put16 (UInt16.ofNat (l2capPdu cid payload).length) ++ l2capPdu cid payload)) := by
  rw [length_l2capPdu]
  rfl

theorem le16_aclFrame_handle : le16 (aclFrame handle cid payload) 1 = aclHeaderHandle handle ACL_START_FLUSHABLE := by
  rw [aclFrame_eq]
  exact le16_put16_append _ (put16 (UInt16.ofNat (l2capPdu cid payload).length) ++ l2capPdu cid payload)

theorem le16_aclFrame_dlen :
    le16 (aclFrame handle cid payload) 3 = UInt16.ofNat (l2capPdu cid payload).length := by
  rw [aclFrame_eq]
  exact le16_put16_append _ (l2capPdu cid payload)

theorem length_aclFrame : (aclFrame handle cid payload).length = 9 + payload.length := by
  rw [aclFrame_eq]
  simp
  omega

theorem aclPayload_aclFrame : Relay.aclPayload (aclFrame handle cid payload).tail = l2capPdu cid payload := by
  rw [aclFrame_eq]
  rfl

/-- The flag lands behind the twelve bits of the handle. -/
theorem boundary_aclHeaderHandle :
    (aclHeaderHandle handle ACL_START_FLUSHABLE >>> 12) &&& 0x3 = ACL_START_FLUSHABLE := by
  have hlow : (handle &&& 0x0fff) >>> 12 = 0 := by
    rw [← UInt16.toNat_inj, UInt16.toNat_shiftRight, UInt16.toNat_and, Nat.shiftRight_eq_div_pow]
    have hmod : handle.toNat &&& (0x0fff : UInt16).toNat = handle.toNat % 2 ^ 12 :=
      Nat.and_two_pow_sub_one_eq_mod _ 12
    rw [hmod]
    exact Nat.div_eq_of_lt (Nat.mod_lt _ (by decide))
  have hdistrib : ∀ a b : UInt16, (a ||| b) >>> 12 = a >>> 12 ||| b >>> 12 := fun _ _ ↦
    UInt16.toBitVec_inj.mp (BitVec.ushiftRight_or_distrib ..)
  rw [aclHeaderHandle, hdistrib, hlow, UInt16.zero_or]
  decide

theorem le16_l2capPdu_len (h : payload.length < 65536) : (le16 (l2capPdu cid payload) 0).toNat = payload.length := by
  rw [l2capPdu, List.append_assoc, le16_put16_append, UInt16.toNat_ofNat', Nat.mod_eq_of_lt h]

theorem le16_l2capPdu_cid : le16 (l2capPdu cid payload) 2 = cid := by
  rw [l2capPdu, List.append_assoc]
  exact (le16_append_right (put16 _) _ 0).trans (le16_put16_append _ _)

theorem drop_l2capPdu : (l2capPdu cid payload).drop 4 = payload := rfl

end frame

/-! ## The packet -/

namespace Relay

/-- A packet that carries a whole PDU on an open link routes it. -/
theorem handleAcl_of_whole (r : Relay) (s : ConnectionSide) {p : PacketContents} {cid : UInt16}
    {payload : List UInt8} (hlen : payload.length < 65536) (hpayload : aclPayload p = l2capPdu cid payload)
    (ho : aclHandle p ∈ (r.h s).links.openHandles) (hstart : ¬ isContinuation p) :
    r.handleAcl s p = (r.setReasm s (aclHandle p) none).routePdu s (aclHandle p) (l2capPdu cid payload) := by
  have hp : 4 ≤ p.length := by
    have hdrop := congrArg List.length hpayload
    rw [aclPayload, List.length_drop, length_l2capPdu] at hdrop
    omega
  have hexpected : 4 + (le16 (l2capPdu cid payload) 0).toNat = (l2capPdu cid payload).length := by
    rw [le16_l2capPdu_len cid payload hlen, length_l2capPdu]
  rw [handleAcl_eq r s hp, if_neg (not_not_intro ho), if_neg, if_neg hstart, hpayload, handleAclStart]
  · dsimp only
    rw [if_neg, if_pos hexpected.le, hexpected, List.take_length]
    rw [length_l2capPdu]
    omega
  · rw [hpayload]
    exact Bool.false_ne_true

/-- Routing one PDU hands on no other. -/
theorem routed_routePdu (r : Relay) (s : ConnectionSide) (handle : UInt16) (pdu : List UInt8) :
    (r.routePdu s handle pdu).out.filterMap Output.routed?
      = r.out.filterMap Output.routed? ++ [(s, handle, pdu)] := by
  let A : Set Aspect :=
    {.relaying s.other, .forwarding, .signalling s, .binding s, .reports, .console s, .pacing s}
  have hw : Performs (Op.Within A) (r.emit (.routed s handle pdu)) (r.routePdu s handle pdu) :=
    within_routeL2capPdu _ s (by simp [A]) (by simp [A]) (by simp [A]) (by simp [A]) (by simp [A]) (by simp [A])
      (by simp [A]) pdu
  obtain ⟨new, hout, hnew⟩ := hw.out
  have hnone : new.filterMap Output.routed? = [] := by
    rw [List.filterMap_eq_nil_iff]
    intro o ho
    cases o with
    | routed =>
      have hrouting : .routing ∈ A := (hnew _ ho).within rfl rfl
      exact absurd hrouting (by simp [A])
    | _ => rfl
  rw [hout, out_emit, List.filterMap_append, List.filterMap_append, hnone, List.append_nil]
  rfl

/-- Who handles the PDU, and with what. -/
theorem routeL2capPdu_l2capPdu (r : Relay) (s : ConnectionSide) (cid : UInt16) (payload : List UInt8)
    (hlen : payload.length < 65536) :
    r.routeL2capPdu s (l2capPdu cid payload)
      = if cid = L2CAP_CID_SIGNALLING then r.handleL2capCmd s payload
        else if payload.isEmpty then r else r.routePayload s cid payload := by
  have hget : PacketContents.get 4 (l2capPdu cid payload) = some ((l2capPdu cid payload).take 4, payload) := by
    rw [PacketContents.get, if_neg]
    · rfl
    · rw [length_l2capPdu]
      omega
  have hcid : le16 ((l2capPdu cid payload).take 4) 2 = cid :=
    (le16_take (by decide)).trans (le16_l2capPdu_cid cid payload)
  have hclaim : (le16 ((l2capPdu cid payload).take 4) 0).toNat = payload.length := by
    rw [le16_take (by decide)]
    exact le16_l2capPdu_len cid payload hlen
  have hall : PacketContents.get payload.length payload = some (payload, []) := by
    rw [PacketContents.get, if_neg (lt_irrefl _), List.take_length, List.drop_length]
  rw [routeL2capPdu, hget]
  dsimp only
  rw [hcid, hclaim, hall]

/-- A frame that fits leaves the process, and one that does not leaves no trace. -/
theorem l2capSendFrame_cases (r : Relay) (s : ConnectionSide) (cid : UInt16) (pre data : List UInt8) :
    (r.l2capSendFrame s cid pre data).out = r.out ++
        (if 9 + pre.length + data.length ≤ 4096 then
          [.acl s (aclFrame (r.h s).links.connectionHandle cid (pre ++ data)) (r.env.aclWrite r.tick)
            (r.h s).links.openHandles]
        else [])
      ∧ (4096 < 9 + pre.length + data.length → r.l2capSendFrame s cid pre data = r) := by
  have hfits : tooLarge (pre ++ data) = decide (4096 < 9 + pre.length + data.length) := by
    rw [tooLarge, List.length_append]
    congr 1
    rw [← Nat.add_assoc]
  constructor
  · rw [out_l2capSendFrame, hfits]
    by_cases h : 9 + pre.length + data.length ≤ 4096
    · rw [if_pos h, if_neg (by simpa using h)]
    · rw [if_neg h, if_pos (by simpa using h)]
  · intro h
    rw [l2capSendFrame]
    exact if_pos (hfits.trans (decide_eq_true h))

end Relay

/-- **Frames parse back to what they were built of.**  A frame of at most 4096 bytes tells the length of
what follows its ACL header and starts a PDU, and a handler that has its link open routes from it one
PDU, with the channel and the payload it was built of; a signalling command comes back with its code, its
identifier and its data.  A larger one is not written, and costs nothing. -/
theorem frames_parse_back (r : Relay) (s : ConnectionSide) (cid : UInt16) (pre data : List UInt8) :
    let handle := (r.h s).links.connectionHandle
    let frame := aclFrame handle cid (pre ++ data)
    let pdu := l2capPdu cid (pre ++ data)
    (r.l2capSendFrame s cid pre data).out = r.out ++
        (if 9 + pre.length + data.length ≤ 4096 then
          [.acl s frame (r.env.aclWrite r.tick) (r.h s).links.openHandles] else [])
      ∧ (4096 < 9 + pre.length + data.length → r.l2capSendFrame s cid pre data = r)
      ∧ (9 + pre.length + data.length ≤ 4096 → handle < 0x1000 →
        (le16 frame 3).toNat = frame.length - 5 ∧ (le16 frame 1 >>> 12) &&& 0x3 = ACL_START_FLUSHABLE
        ∧ le16 frame 1 &&& 0x0fff = handle
        ∧ (∀ r' s', handle ∈ ((r' : Relay).h s').links.openHandles →
          r'.handleAcl s' frame.tail = (r'.setReasm s' handle none).routePdu s' handle pdu
            ∧ (r'.handleAcl s' frame.tail).out.filterMap Output.routed?
              = r'.out.filterMap Output.routed? ++ [(s', handle, pdu)])
        ∧ le16 pdu 2 = cid ∧ (le16 pdu 0).toNat = (pre ++ data).length ∧ pdu.drop 4 = pre ++ data
        ∧ ∀ r' s', (r' : Relay).routeL2capPdu s' pdu
          = if cid = L2CAP_CID_SIGNALLING then r'.handleL2capCmd s' (pre ++ data)
            else if (pre ++ data).isEmpty then r' else r'.routePayload s' cid (pre ++ data))
      ∧ ∀ ident code data,
        r.l2capSendCmd s ident code data
            = r.l2capSendFrame s L2CAP_CID_SIGNALLING ([code, ident] ++ put16 (UInt16.ofNat data.length)) data
          ∧ L2capCmdHdr.get? (([code, ident] ++ put16 (UInt16.ofNat data.length)) ++ data)
            = some (⟨code, ident⟩, data) := by
  intro handle frame pdu
  obtain ⟨hout, hlarge⟩ := Relay.l2capSendFrame_cases r s cid pre data
  refine ⟨hout, hlarge, fun hfits hhandle ↦ ?_, fun ident code data ↦ ⟨rfl, ?_⟩⟩
  · have hlen : (pre ++ data).length < 65536 := by
      rw [List.length_append]
      omega
    have hfield : Relay.aclHandle frame.tail = handle :=
      (frameHandle_aclFrame handle cid (pre ++ data)).trans (and_0fff_of_lt hhandle)
    have hstart : ¬ Relay.isContinuation frame.tail := by
      have hflag : (le16 frame.tail 0 >>> 12) &&& 0x3 = ACL_START_FLUSHABLE := by
        rw [show le16 frame.tail 0 = le16 frame 1 from rfl, le16_aclFrame_handle]
        exact boundary_aclHeaderHandle handle
      intro hcont
      exact absurd (hflag.symm.trans hcont) (by decide)
    refine ⟨?_, ?_, ?_, fun r' s' ho ↦ ?_, le16_l2capPdu_cid cid _, le16_l2capPdu_len cid _ hlen,
      drop_l2capPdu cid _, fun r' s' ↦ Relay.routeL2capPdu_l2capPdu r' s' cid _ hlen⟩
    · rw [le16_aclFrame_dlen, length_aclFrame, length_l2capPdu, UInt16.toNat_ofNat', Nat.mod_eq_of_lt]
      · omega
      · rw [List.length_append]
        omega
    · rw [le16_aclFrame_handle]
      exact boundary_aclHeaderHandle handle
    · exact hfield
    · have hroute := Relay.handleAcl_of_whole r' s' hlen (aclPayload_aclFrame handle cid (pre ++ data))
        (by rw [hfield]; exact ho) hstart
      rw [hfield] at hroute
      exact ⟨hroute, by rw [hroute, Relay.routed_routePdu]; rfl⟩
  · rw [L2capCmdHdr.get?, PacketContents.getAs]
    rfl

end DualSenseMitm
