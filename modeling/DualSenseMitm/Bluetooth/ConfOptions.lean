import DualSenseMitm.Lib.Tlv
import DualSenseMitm.Sending

/-!
# The options that are echoed

The answer to a configuration request repeats four bytes of what follows the request's fixed fields, as an
MTU option has them.

* `echoed` — the bytes that are repeated.
* `wholeOf_echoed_iff` — when they are whole options of the request.
* `conf_rsp_whole_iff` — the same of the answer that is sent.
-/

set_option autoImplicit false

namespace DualSenseMitm

open Bytes Tlv

/-- What `handle_conf_request` repeats of the bytes behind the fixed fields. -/
def echoed (p : PacketContents) : List UInt8 := ((p.get 4).map Prod.fst).getD []

theorem echoed_eq (p : PacketContents) : echoed p = if 4 ≤ p.length then p.take 4 else [] := by
  unfold echoed PacketContents.get
  by_cases h : p.length < 4
  · rw [if_pos h, if_neg (by omega)]
    rfl
  · rw [if_neg h, if_pos (by omega)]
    rfl

/-- There are fewer than four bytes, or the first four are one option with two value bytes or two without
any; the second of these may be the first once more, from behind the list. -/
def FourWhole (os : List Item) (behind : List UInt8) : Prop :=
  (encode os ++ behind).length < 4
    ∨ (∃ o rest, os = o :: rest ∧ o.value.length = 2)
    ∨ (∃ o o' rest, os = o :: o' :: rest ∧ o.value = [] ∧ o'.value = [])
    ∨ ∃ o, os = [o] ∧ o.value = [] ∧ behind.take 2 = o.bytes

theorem fourWhole_of_wholeOf {os items : List Item} {behind : List UInt8}
    (hlen : 4 ≤ (encode os ++ behind).length) (htake : (encode os ++ behind).take 4 = encode items)
    (hof : ∀ o ∈ items, o ∈ os) : FourWhole os behind := by
  have hfour : (encode items).length = 4 := by
    rw [← htake, List.length_take]
    omega
  have hsplit : encode os ++ behind = encode items ++ (encode os ++ behind).drop 4 := by
    rw [← htake, List.take_append_drop]
  cases items with
  | nil => cases hfour
  | cons p items =>
    cases os with
    | nil => exact absurd (hof p List.mem_cons_self) List.not_mem_nil
    | cons o os =>
      rw [encode_cons, encode_cons, List.append_assoc, List.append_assoc] at hsplit
      obtain ⟨rfl, hrest⟩ := bytes_append_inj hsplit
      rw [length_encode_cons] at hfour
      cases items with
      | nil =>
        rw [encode_nil, List.length_nil] at hfour
        exact .inr (.inl ⟨o, os, rfl, by omega⟩)
      | cons p items =>
        rw [length_encode_cons] at hfour
        have ho : o.value = [] := List.eq_nil_of_length_eq_zero (by omega)
        have hp : p.value = [] := List.eq_nil_of_length_eq_zero (by omega)
        rw [encode_cons, List.append_assoc] at hrest
        cases os with
        | nil =>
          have hpo : p = o := List.mem_singleton.mp (hof p (List.mem_cons_of_mem _ List.mem_cons_self))
          rw [encode_nil, List.nil_append] at hrest
          refine .inr (.inr (.inr ⟨o, rfl, ho, ?_⟩))
          rw [hrest, hpo, List.take_append_of_le_length (by simp [ho]), List.take_of_length_le (by simp [ho])]
        | cons o' os =>
          rw [encode_cons, List.append_assoc] at hrest
          obtain ⟨rfl, -⟩ := bytes_append_inj hrest
          exact .inr (.inr (.inl ⟨o, o', os, rfl, ho, hp⟩))

theorem wholeOf_echoed (items : List Item) {os : List Item} {behind : List UInt8}
    (htake : (encode os ++ behind).take 4 = encode items) (hfour : (encode items).length = 4)
    (hof : ∀ o ∈ items, o ∈ os) : WholeOf (echoed (encode os ++ behind)) os := by
  have hlen : 4 ≤ (encode os ++ behind).length := by
    rw [← htake, List.length_take] at hfour
    omega
  rw [echoed_eq, if_pos hlen, htake]
  exact ⟨items, rfl, hof⟩

theorem wholeOf_of_fourWhole {os : List Item} {behind : List UInt8} (h : FourWhole os behind) :
    WholeOf (echoed (encode os ++ behind)) os := by
  rcases h with hshort | ⟨o, rest, rfl, htwo⟩ | ⟨o, o', rest, rfl, ho, ho'⟩ | ⟨o, rfl, ho, hbehind⟩
  · rw [echoed_eq, if_neg (by omega)]
    exact ⟨[], rfl, fun _ h ↦ absurd h List.not_mem_nil⟩
  · have hfour : (encode [o]).length = 4 := by simp [htwo]
    have hsplit : encode (o :: rest) ++ behind = encode [o] ++ (encode rest ++ behind) := by simp
    refine wholeOf_echoed [o] ?_ hfour (by simp)
    rw [hsplit, List.take_left' hfour]
  · have hfour : (encode [o, o']).length = 4 := by simp [ho, ho']
    have hsplit : encode (o :: o' :: rest) ++ behind = encode [o, o'] ++ (encode rest ++ behind) := by simp
    refine wholeOf_echoed [o, o'] ?_ hfour (by simp)
    rw [hsplit, List.take_left' hfour]
  · have htwo : (encode [o]).length = 2 := by simp [ho]
    refine wholeOf_echoed [o, o] ?_ (by simp [ho]) (by simp)
    rw [List.take_append, htwo, List.take_of_length_le (by omega), hbehind]
    simp

/-- **Whole options.** -/
theorem wholeOf_echoed_iff (os : List Item) (behind : List UInt8) :
    WholeOf (echoed (encode os ++ behind)) os ↔ FourWhole os behind := by
  refine ⟨fun h ↦ ?_, wholeOf_of_fourWhole⟩
  obtain ⟨items, htake, hof⟩ := h
  rw [echoed_eq] at htake
  by_cases hlen : 4 ≤ (encode os ++ behind).length
  · rw [if_pos hlen] at htake
    exact fourWhole_of_wholeOf hlen htake hof
  · exact .inl (by omega)

/-! ## The answer -/

/-- The option list of a configuration answer: what is behind its fixed fields. -/
def Sent.confRspOptions? (f : Sent) : Option (List UInt8) :=
  if f.cid = L2CAP_CID_SIGNALLING ∧ byteAt f.payload 0 = L2CAP_CONF_RSP then some (f.payload.drop 10) else none

/-- A configuration request for a channel of ours, with these options. -/
def confRequest (ident : UInt8) (c : Channel) (flags : UInt16) (os : List Item) : PacketContents :=
  [L2CAP_CONF_REQ, ident] ++ put16 (UInt16.ofNat (4 + (encode os).length)) ++ (put16 c.scid ++ put16 flags)
    ++ encode os

/-- Every configuration answer that is sent for it carries whole options of the request. -/
def AnswersWhole (r : Relay) (s : ConnectionSide) (ident : UInt8) (c : Channel) (flags : UInt16)
    (os : List Item) (behind : List UInt8) : Prop :=
  ∀ f ∈ (r.handleL2capCmd s (confRequest ident c flags os ++ behind)).frames.drop r.frames.length,
    ∀ options, f.confRspOptions? = some options → WholeOf options os

namespace Relay

variable (r : Relay) (s : ConnectionSide)

theorem byScid_scid (c : Channel) : Channel.byScid c.scid = some c := by cases c <;> decide

theorem handleL2capCmd_confRequest (ident : UInt8) (c : Channel) (flags : UInt16) (os : List Item)
    (behind : List UInt8) :
    r.handleL2capCmd s (confRequest ident c flags os ++ behind)
      = ((r.onChannels s fun ch ↦ { ch with currentCmdIdent := ident }).l2capSendCmdResponse s ident
          L2CAP_CONF_RSP (put16 (r.dcid s c) ++ put16 0 ++ put16 0 ++ echoed (encode os ++ behind))).confRequestChain
            s c := by
  have hhdr : L2capCmdHdr.get? (confRequest ident c flags os ++ behind)
      = some (⟨L2CAP_CONF_REQ, ident⟩, put16 c.scid ++ put16 flags ++ (encode os ++ behind)) := by
    rw [L2capCmdHdr.get?, PacketContents.getAs, confRequest, List.append_assoc, List.append_assoc,
      PacketContents.get_append (n := 4) rfl, List.append_assoc]
    rfl
  have hreq : L2capConfReq.get? (put16 c.scid ++ put16 flags ++ (encode os ++ behind))
      = some (⟨c.scid⟩, encode os ++ behind) := by
    have hscid : le16 (put16 c.scid ++ put16 flags) 0 = c.scid := le16_put16_append c.scid _
    rw [L2capConfReq.get?, PacketContents.getAs, PacketContents.get_append (n := 4) rfl, Option.map_some, hscid]
  unfold handleL2capCmd
  rw [hhdr]
  dsimp only
  rw [if_neg (by decide), if_neg (by decide), if_pos rfl, handleConfRequest, hreq]
  dsimp only
  rw [byScid_scid]
  simp [dcid, echoed]

theorem frames_l2capSendCmd (ident code : UInt8) (data : List UInt8) :
    (r.l2capSendCmd s ident code data).frames
      = r.frames ++ frameOf s L2CAP_CID_SIGNALLING ([code, ident] ++ put16 (UInt16.ofNat data.length) ++ data) :=
  frames_l2capSendFrame r s _ _ _

/-- What follows the answer is no answer. -/
theorem frames_confRequestChain (c : Channel) :
    ∃ new, (r.confRequestChain s c).frames = r.frames ++ new ∧ ∀ f ∈ new, f.confRspOptions? = none := by
  have hreq : ∀ c', ∃ new, (r.l2capSendConnRequest s c').frames = r.frames ++ new
      ∧ ∀ f ∈ new, f.confRspOptions? = none := by
    intro c'
    refine ⟨frameOf s L2CAP_CID_SIGNALLING ([L2CAP_CONN_REQ, (r.h s).channels.cmdRequestIdent]
      ++ put16 4 ++ (put16 c'.psm ++ put16 c'.scid)), ?_, fun f hf ↦ ?_⟩
    · rw [l2capSendConnRequest, l2capSendCmdRequest, frames_l2capSendCmd, frames_onChannels]
      rfl
    · obtain ⟨-, rfl⟩ := mem_frameOf.mp hf
      have hcode : L2CAP_CONN_REQ ≠ L2CAP_CONF_RSP := by decide
      exact if_neg fun h ↦ hcode h.2
  have hnone : ∃ new, r.frames = r.frames ++ new ∧ ∀ f ∈ new, f.confRspOptions? = none :=
    ⟨[], (List.append_nil _).symm, fun _ h ↦ absurd h List.not_mem_nil⟩
  unfold confRequestChain
  split
  · exact hnone
  · split
    · split
      · exact hnone
      · exact hnone
    · exact hnone
    · exact hreq _
    · exact hreq _
    · exact hnone

end Relay

/-- There is one answer, with the bytes that are echoed. -/
theorem answersWhole_iff_echoed (r : Relay) (s : ConnectionSide) (ident : UInt8) (c : Channel) (flags : UInt16)
    (os : List Item) (behind : List UInt8) :
    AnswersWhole r s ident c flags os behind ↔ WholeOf (echoed (encode os ++ behind)) os := by
  generalize hrsp : put16 (r.dcid s c) ++ put16 0 ++ put16 0 ++ echoed (encode os ++ behind) = rsp
  have hecho : (echoed (encode os ++ behind)).length ≤ 4 := by
    rw [echoed_eq]
    split
    · rw [List.length_take]
      omega
    · exact Nat.zero_le 4
  have hlen : rsp.length ≤ 10 := by
    rw [← hrsp]
    simp only [List.length_append, length_put16]
    omega
  have hfits : tooLarge ([L2CAP_CONF_RSP, ident] ++ put16 (UInt16.ofNat rsp.length) ++ rsp) = false := by
    refine decide_eq_false ?_
    simp only [List.length_append, List.length_cons, List.length_nil, length_put16]
    omega
  obtain ⟨new, hchain, hnew⟩ := Relay.frames_confRequestChain
    ((r.onChannels s fun ch ↦ { ch with currentCmdIdent := ident }).l2capSendCmdResponse s ident L2CAP_CONF_RSP
      rsp) s c
  have hframes : (r.handleL2capCmd s (confRequest ident c flags os ++ behind)).frames.drop r.frames.length
      = ⟨s, L2CAP_CID_SIGNALLING, [L2CAP_CONF_RSP, ident] ++ put16 (UInt16.ofNat rsp.length) ++ rsp⟩ :: new := by
    rw [Relay.handleL2capCmd_confRequest, hrsp, hchain, Relay.l2capSendCmdResponse, Relay.frames_l2capSendCmd,
      Relay.frames_onChannels, frameOf, if_neg (Bool.eq_false_iff.mp hfits), List.append_assoc, List.drop_left]
    rfl
  have hanswer : Sent.confRspOptions?
      ⟨s, L2CAP_CID_SIGNALLING, [L2CAP_CONF_RSP, ident] ++ put16 (UInt16.ofNat rsp.length) ++ rsp⟩
        = some (echoed (encode os ++ behind)) := by
    rw [Sent.confRspOptions?, if_pos ⟨rfl, rfl⟩, ← hrsp]
    rfl
  rw [AnswersWhole, hframes]
  constructor
  · exact fun h ↦ h _ List.mem_cons_self _ hanswer
  · intro h f hf options hoptions
    rcases List.mem_cons.mp hf with rfl | hf
    · rw [hanswer] at hoptions
      exact Option.some.inj hoptions ▸ h
    · rw [hnew f hf] at hoptions
      cases hoptions

/-- **The options of an answer.**  They are whole options of the request exactly when the first four bytes
behind its fixed fields are, if there are as many. -/
theorem conf_rsp_whole_iff (r : Relay) (s : ConnectionSide) (ident : UInt8) (c : Channel) (flags : UInt16)
    (os : List Item) (behind : List UInt8) :
    AnswersWhole r s ident c flags os behind ↔ FourWhole os behind :=
  (answersWhole_iff_echoed r s ident c flags os behind).trans (wholeOf_echoed_iff os behind)

/-- Retransmission and flow control, which has nine value bytes. -/
def retransmission : Item := ⟨0x04, List.replicate 9 0, by decide⟩

/-- Its first four bytes go back. -/
theorem conf_rsp_cut :
    ¬ AnswersWhole (.init .session) .toPlaystation 2 .hidControl 0 [retransmission] [] := by
  intro h
  have hwhole := (answersWhole_iff_echoed _ _ _ _ _ _ _).mp h
  rcases (wholeOf_echoed_iff _ _).mp hwhole with
    hshort | ⟨o, rest, ho, htwo⟩ | ⟨o, o', rest, ho, -⟩ | ⟨o, ho, hempty, -⟩
  · exact absurd hshort (by decide)
  · obtain ⟨rfl, -⟩ := List.cons.inj ho
    exact absurd htwo (by decide)
  · cases ho
  · obtain ⟨rfl, -⟩ := List.cons.inj ho
    exact absurd hempty (by decide)

end DualSenseMitm
