import DualSenseMitm.Runs.Pages
import DualSenseMitm.Runs.Reassembly
import DualSenseMitm.Sending

/-!
# Fragments in any order

Whatever arrives on the links of an adapter, in whatever order, a partial PDU has its header, lacks its
end and is of an open link, and what is handed to `route_l2cap_pdu` is whole (`AclReasm.Unfinished`,
`Relay.PartialsSound`).

`Carried` follows what each link has carried since its last start.  A start that carries nothing leaves
the partial PDU before it where it is; as long as none does, a partial PDU is exactly what its link has
carried (`Carried.Agrees`), and a PDU is made of nothing else.
-/

set_option autoImplicit false

namespace DualSenseMitm

open Bytes Machine

/-- A partial PDU: its header is there, its end is not. -/
structure AclReasm.Unfinished (re : AclReasm) : Prop where
  header : 4 ≤ re.buf.length
  short : re.buf.length < re.expected
  expected : re.expected = 4 + (le16 re.buf 0).toNat

theorem AclReasm.Unfinished.expected_le {re : AclReasm} (h : re.Unfinished) : re.expected ≤ 65539 := by
  have hlt := (le16 re.buf 0).toNat_lt
  rw [h.expected]
  omega

/-! ## One packet of an open link -/

/-- What a packet leaves of the partial PDU of its link. -/
def AclReasm.after (re : Option AclReasm) (p : PacketContents) : Option AclReasm :=
  let payload := Relay.aclPayload p
  if payload = [] then re
  else if Relay.isContinuation p then
    re.bind fun re ↦
      if (re.buf ++ payload).length < re.expected then some ⟨re.buf ++ payload, re.expected⟩ else none
  else if 4 ≤ payload.length ∧ payload.length < 4 + (le16 payload 0).toNat then
    some ⟨payload, 4 + (le16 payload 0).toNat⟩
  else none

namespace AclReasm

variable {re re' : AclReasm} {p : PacketContents}

theorem Unfinished.append (h : re.Unfinished) {payload : List UInt8}
    (hlt : (re.buf ++ payload).length < re.expected) :
    (⟨re.buf ++ payload, re.expected⟩ : AclReasm).Unfinished := by
  have hheader := h.header
  have hlen : le16 re.buf 0 = le16 (re.buf ++ payload) 0 :=
    le16_congr (List.prefix_append _ _) (by omega)
  refine ⟨?_, hlt, ?_⟩
  · rw [List.length_append]
    omega
  · exact h.expected.trans (by rw [hlen])

/-- A partial PDU stays one. -/
theorem Unfinished.after {o : Option AclReasm} (ho : ∀ re, o = some re → re.Unfinished)
    (h : AclReasm.after o p = some re') : re'.Unfinished := by
  rw [AclReasm.after] at h
  split at h
  · exact ho re' h
  · split at h
    · obtain ⟨re, hre, h⟩ := Option.bind_eq_some_iff.mp h
      split at h
      · obtain rfl := Option.some.inj h
        exact (ho re hre).append ‹_›
      · cases h
    · split at h
      · obtain rfl := Option.some.inj h
        rename_i hlen
        exact ⟨hlen.1, hlen.2, rfl⟩
      · cases h

end AclReasm

namespace Relay

variable (r : Relay) (s t : ConnectionSide)

/-- What completes a PDU, given the partial PDUs are sound: the PDU is whole. -/
theorem wholePdu_of_completed {p : PacketContents} {pdu : List UInt8}
    (ho : ∀ re, (r.h s).links.aclReasm (aclHandle p) = some re → re.Unfinished)
    (h : r.completedPdu s p = some pdu) : WholePdu pdu := by
  rw [completedPdu] at h
  dsimp only at h
  split at h
  · cases h
  · split at h
    · cases hre : (r.h s).links.aclReasm (aclHandle p) with
      | none =>
        rw [hre] at h
        cases h
      | some re =>
        rw [hre] at h
        dsimp only at h
        have hu := ho re hre
        have hheader := hu.header
        have hshort := hu.short
        split at h
        · cases h
        · obtain rfl := Option.some.inj h
          rename_i hlen
          have hlow : le16 ((re.buf ++ aclPayload p).take re.expected) 0 = le16 re.buf 0 := by
            rw [le16_take (by omega)]
            exact (le16_congr (List.prefix_append _ _) (by omega)).symm
          rw [WholePdu, List.length_take, hlow, ← hu.expected]
          omega
    · split at h
      · cases h
      · split at h
        · obtain rfl := Option.some.inj h
          rename_i hlen hwhole
          rw [WholePdu, List.length_take, le16_take (by omega)]
          omega
        · cases h

/-! ## The partial PDUs behind a step -/

/-- The partial PDU of a link behind a cause. -/
def partialAfter (r : Relay) (t : ConnectionSide) (handle : UInt16) : Cause → Option AclReasm
  | .acl s p =>
    if s = t ∧ aclHandle p = handle ∧ handle ∈ (r.h t).links.openHandles then
      AclReasm.after ((r.h t).links.aclReasm handle) p
    else (r.h t).links.aclReasm handle
  | .event s (.disconnectComplete e) =>
    if s = t ∧ e.handle = handle then none else (r.h t).links.aclReasm handle
  | _ => (r.h t).links.aclReasm handle

theorem aclReasm_setReasm (handle j : UInt16) (re : Option AclReasm) :
    ((r.setReasm s handle re).h t).links.aclReasm j
      = if s = t ∧ handle = j then re else (r.h t).links.aclReasm j := by
  by_cases hs : t = s
  · subst hs
    by_cases hj : j = handle
    · simp [setReasm, hj]
    · simp [setReasm, hj, Ne.symm hj]
  · simp [setReasm, hs, Ne.symm hs]

/-- No length field is implausible. -/
theorem plausible_length (payload : List UInt8) : ¬ L2CAP_MAX_PDU < 4 + (le16 payload 0).toNat := by
  have hlt := (le16 payload 0).toNat_lt
  rw [L2CAP_MAX_PDU]
  omega

theorem aclReasm_handleGhost (handle j : UInt16) :
    ((r.handleGhost s handle).h t).links.aclReasm j = (r.h t).links.aclReasm j := by
  rw [handleGhost]
  split
  · rfl
  · by_cases hs : t = s
    · subst hs
      simp [disconnect]
    · simp [disconnect, hs]

/-- A packet without data changes no link that is open. -/
theorem aclReasm_of_empty {p : PacketContents} (hnil : aclPayload p = []) (j : UInt16) :
    ((r.handleAcl s p).h t).links.aclReasm j = (r.h t).links.aclReasm j := by
  by_cases hlen : 4 ≤ p.length
  · rw [handleAcl_eq r s hlen]
    by_cases ho : aclHandle p ∈ (r.h s).links.openHandles
    · rw [if_neg (not_not_intro ho), if_pos (by simpa using hnil)]
    · rw [if_pos ho, aclReasm_handleGhost]
  · have hget : PacketContents.get 4 p = none := if_pos (Nat.not_le.mp hlen)
    rw [handleAcl, hget]

theorem links_routePdu (handle : UInt16) (pdu : List UInt8) :
    ((r.routePdu s handle pdu).h t).links = (r.h t).links :=
  links_eq (within_routePdu
    (A := {.routing, .relaying s.other, .signalling s, .binding s, .reports, .forwarding, .console s, .pacing s})
    r s (by simp) (by simp) (by simp) (by simp) (by simp) (by simp) (by simp) (by simp) handle pdu) t
    (by simp) (by simp)

theorem aclReasm_handleAclCont {p : PacketContents} (hne : aclPayload p ≠ []) (hpb : isContinuation p)
    (j : UInt16) :
    ((r.handleAclCont s (aclHandle p) (aclPayload p)).h t).links.aclReasm j
      = if s = t ∧ aclHandle p = j then AclReasm.after ((r.h s).links.aclReasm (aclHandle p)) p
        else (r.h t).links.aclReasm j := by
  have hsame : s = t ∧ aclHandle p = j →
      (r.h s).links.aclReasm (aclHandle p) = (r.h t).links.aclReasm j := by
    rintro ⟨rfl, rfl⟩
    rfl
  rw [AclReasm.after, if_neg hne, if_pos hpb, handleAclCont]
  cases hre : (r.h s).links.aclReasm (aclHandle p) with
  | none =>
    rw [hre] at hsame
    dsimp only
    rw [Option.bind_none]
    split
    · exact (hsame ‹_›).symm
    · rfl
  | some re =>
    dsimp only
    rw [Option.bind_some]
    split
    · rw [aclReasm_setReasm]
    · rw [aclReasm_setReasm, links_routePdu, aclReasm_setReasm]
      split
      · rfl
      · rfl

theorem aclReasm_handleAclStart {p : PacketContents} (hne : aclPayload p ≠ []) (hpb : ¬ isContinuation p)
    (j : UInt16) :
    ((r.handleAclStart s (aclHandle p) (aclPayload p)).h t).links.aclReasm j
      = if s = t ∧ aclHandle p = j then AclReasm.after ((r.h s).links.aclReasm (aclHandle p)) p
        else (r.h t).links.aclReasm j := by
  have hmax : ¬ L2CAP_MAX_PDU < 4 + (le16 (aclPayload p) 0).toNat := plausible_length _
  rw [AclReasm.after, if_neg hne, if_neg hpb, handleAclStart]
  dsimp only
  rw [if_neg hmax]
  by_cases hshort : (aclPayload p).length < 4
  · have hno : ¬ (4 ≤ (aclPayload p).length
        ∧ (aclPayload p).length < 4 + (le16 (aclPayload p) 0).toNat) := fun h ↦ Nat.not_lt.mpr h.1 hshort
    rw [if_pos hshort, aclReasm_setReasm, if_neg hno]
  · rw [if_neg hshort]
    by_cases hwhole : 4 + (le16 (aclPayload p) 0).toNat ≤ (aclPayload p).length
    · have hno : ¬ (4 ≤ (aclPayload p).length
          ∧ (aclPayload p).length < 4 + (le16 (aclPayload p) 0).toNat) := fun h ↦ Nat.not_lt.mpr hwhole h.2
      rw [if_pos hwhole, links_routePdu, aclReasm_setReasm, if_neg hno]
    · have hyes : 4 ≤ (aclPayload p).length
          ∧ (aclPayload p).length < 4 + (le16 (aclPayload p) 0).toNat :=
        ⟨Nat.not_lt.mp hshort, Nat.not_le.mp hwhole⟩
      rw [if_neg hwhole, setReasm_setReasm, aclReasm_setReasm, if_pos hyes]

theorem aclReasm_handleAcl (p : PacketContents) (j : UInt16) :
    ((r.handleAcl s p).h t).links.aclReasm j = r.partialAfter t j (.acl s p) := by
  have hsame : s = t ∧ aclHandle p = j →
      (r.h s).links.aclReasm (aclHandle p) = (r.h t).links.aclReasm j := by
    rintro ⟨rfl, rfl⟩
    rfl
  have hkept : aclPayload p = [] → r.partialAfter t j (.acl s p) = (r.h t).links.aclReasm j := by
    intro hnil
    rw [partialAfter, AclReasm.after, if_pos hnil, ite_self]
  by_cases hnil : aclPayload p = []
  · rw [hkept hnil]
    exact aclReasm_of_empty r s t hnil j
  · have hlen : 4 ≤ p.length := by
      rw [aclPayload, List.drop_eq_nil_iff] at hnil
      omega
    rw [handleAcl_eq r s hlen, partialAfter]
    by_cases ho : aclHandle p ∈ (r.h s).links.openHandles
    · have hmine : (s = t ∧ aclHandle p = j ∧ j ∈ (r.h t).links.openHandles) ↔ s = t ∧ aclHandle p = j := by
        refine ⟨fun h ↦ ⟨h.1, h.2.1⟩, ?_⟩
        rintro ⟨rfl, rfl⟩
        exact ⟨rfl, rfl, ho⟩
      have hgoal : (if s = t ∧ aclHandle p = j then AclReasm.after ((r.h s).links.aclReasm (aclHandle p)) p
            else (r.h t).links.aclReasm j)
          = if s = t ∧ aclHandle p = j then AclReasm.after ((r.h t).links.aclReasm j) p
            else (r.h t).links.aclReasm j := by
        split
        · rw [hsame ‹_›]
        · rfl
      rw [if_neg (not_not_intro ho), if_neg (by simpa using hnil), if_congr hmine rfl rfl, ← hgoal]
      by_cases hpb : isContinuation p
      · rw [if_pos hpb, aclReasm_handleAclCont r s t hnil hpb]
      · rw [if_neg hpb, aclReasm_handleAclStart r s t hnil hpb]
    · rw [if_pos ho, aclReasm_handleGhost, if_neg]
      rintro ⟨rfl, rfl, hopen⟩
      exact ho hopen

theorem aclReasm_connected (e : EvtConnComplete) :
    ((r.connected s e).h t).links.aclReasm = (r.h t).links.aclReasm := by
  unfold connected
  extract_lets r₂ r₃ r₄ r₅ r₆
  have h₂ : (r₂.h t).links.aclReasm = (r.h t).links.aclReasm := by
    simp only [r₂, leaveOldLink]
    split
    · by_cases ht : t = s <;> simp [resetChannels, ht]
    · rfl
  have h₃ : (r₃.h t).links.aclReasm = (r₂.h t).links.aclReasm := by
    by_cases ht : t = s <;> simp [r₃, ht]
  have h₆ : Performs (Op.Within {.pacing s}) r₃ r₆ :=
    have h₅ : Performs Op.Quiet r₃ r₅ :=
      (quiet_onPaging r₃ s fun _ ↦ by rfl).trans (quiet_endHandoverPaging r₄ s)
    .ite (fun _ ↦ h₅.within.trans (within_writePageScanActivity r₅ s (by rfl) _ _)) fun _ ↦ h₅.within
  have hlinks := links_eq h₆ t (by simp) (by simp)
  rw [← h₂, ← h₃, ← hlinks]
  by_cases ht : t = s <;> simp [ht]

theorem aclReasm_pageOver (status : UInt8) :
    ((r.pageOver s status).h t).links.aclReasm = (r.h t).links.aclReasm := by
  rw [pageOver]
  split
  · by_cases ht : t = s <;> simp [ht]
  · split
    · simp [writeScanEnable]
    · rfl

theorem aclReasm_handleConnectionComplete {p : PacketContents} {e : EvtConnComplete × PacketContents}
    (hp : EvtConnComplete.get? p = some e) :
    ((r.handleConnectionComplete s p).h t).links.aclReasm = (r.h t).links.aclReasm := by
  have hup := aclReasm_connected (r.pageOver s e.1.status) s t e.1
  rw [handleConnectionComplete_eq r s hp, ← aclReasm_pageOver r s t e.1.status]
  split
  · rw [links_eq (within_handleConnectionFailure (A := {.timing s}) _ s (by rfl) _) t (by simp) (by simp)]
  · split
    · exact hup
    · rw [links_eq (within_requestAuthentication (A := {.authenticating s}) _ s (by rfl) _) t (by simp)
        (by simp), hup]

theorem aclReasm_linkGone (handle j : UInt16) :
    ((r.linkGone s handle).h t).links.aclReasm j
      = if s = t ∧ handle = j then none else (r.h t).links.aclReasm j := by
  by_cases hs : t = s
  · subst hs
    by_cases hj : j = handle
    · simp [linkGone, hj]
    · simp [linkGone, hj, Ne.symm hj]
  · simp [linkGone, hs, Ne.symm hs]

theorem aclReasm_currentGone : ((r.currentGone s).h t).links.aclReasm = (r.h t).links.aclReasm := by
  cases s <;> cases t <;> simp [currentGone, resetChannels, writePageScanActivity, writeScanEnable]

theorem aclReasm_handleDisconnectComplete {p : PacketContents} {e : EvtDisconnComplete × PacketContents}
    (hp : EvtDisconnComplete.get? p = some e) (j : UInt16) :
    ((r.handleDisconnectComplete s p).h t).links.aclReasm j
      = r.partialAfter t j (.event s (.disconnectComplete e.1)) := by
  rw [handleDisconnectComplete_eq r s hp, partialAfter, ← aclReasm_linkGone]
  split
  · rfl
  · rw [links_eq (within_scheduleReconnect (A := {.timing s}) _ s (by rfl) _) t (by simp) (by simp),
      aclReasm_currentGone]

theorem aclReasm_handleConnRequest (p : PacketContents) :
    ((r.handleConnRequest s p).h t).links.aclReasm = (r.h t).links.aclReasm := by
  rw [handleConnRequest.eq_def]
  split
  · rfl
  · extract_lets expected
    split
    · by_cases ht : t = s <;> simp [ht]
    · simp

theorem aclReasm_handleModeChange (p : PacketContents) :
    ((r.handleModeChange s p).h t).links.aclReasm = (r.h t).links.aclReasm := by
  rw [handleModeChange]
  split
  · rfl
  · split
    · by_cases ht : t = s <;> simp [ht]
    · rfl

/-- **The partial PDUs behind a step.** -/
theorem aclReasm_step (i : Input) (j : UInt16) :
    ((r.step i).h t).links.aclReasm j = r.partialAfter t j (r.cause i) := by
  have hm := step_move r i
  have hw := hm.within
  revert hm hw
  generalize r.cause i = cause
  generalize r.step i = r'
  intro hm hw
  cases hm with
  | connectionComplete hp => rw [aclReasm_handleConnectionComplete r _ t hp]; rfl
  | disconnectComplete hp => exact aclReasm_handleDisconnectComplete r _ t hp j
  | connRequest hp => rw [aclReasm_handleConnRequest]; rfl
  | modeChange hp => rw [aclReasm_handleModeChange]; rfl
  | acl => exact aclReasm_handleAcl r _ t _ j
  | quiet h hc =>
    rw [links_eq hw t (by simp [hc]) (by simp [hc])]
    cases cause with
    | event s e =>
      cases e with
      | disconnectComplete => exact absurd hc (Set.insert_nonempty _ _).ne_empty
      | _ => rfl
    | acl => exact absurd hc (Set.insert_nonempty _ _).ne_empty
    | _ => rfl
  | _ => rw [links_eq hw t (by simp [Cause.aspects]) (by simp [Cause.aspects])]; rfl

/-! ## The PDUs a step routes -/

/-- Only routing routes. -/
theorem not_routed {A : Set Aspect} (hA : .routing ∉ A) {new : List Output} (hnew : ∀ o ∈ new, o.Allowed A)
    (s : ConnectionSide) (handle : UInt16) (pdu : List UInt8) : .routed s handle pdu ∉ new :=
  fun h ↦ hA ((hnew _ h).within rfl rfl)

/-- What a step routes is what its packet completes. -/
theorem completed_of_routed {i : Input} {s : ConnectionSide} {handle : UInt16} {pdu : List UInt8}
    (h : .routed s handle pdu ∈ r.added i) :
    ∃ p, r.cause i = .acl s p ∧ aclHandle p = handle ∧ r.completedPdu s p = some pdu := by
  have hm := step_move r i
  have hw := hm.within
  have hadded : ∀ new, (r.step i).out = r.out ++ new → .routed s handle pdu ∈ new := by
    intro new hout
    rwa [← added_eq hout]
  revert hm hw hadded
  generalize r.cause i = cause
  generalize r.step i = r'
  intro hm hw hadded
  have hnone : .routing ∉ cause.aspects → False := by
    intro hA
    obtain ⟨new, hout, hnew⟩ := hw.out
    exact not_routed hA hnew _ _ _ (hadded new hout)
  cases hm with
  | @acl t p =>
    have hstep := acl_step r t p
    revert hstep
    generalize hc : r.completedPdu t p = completed
    intro hstep
    cases hstep with
    | kept h =>
      obtain ⟨new, hout, hnew⟩ := h.out
      exact absurd (hadded new hout) (not_routed (by simp) hnew _ _ _)
    | @routed re pdu' _ h =>
      have hroute : Performs (Op.Within
          {.linkNotes, .relaying t.other, .signalling t, .binding t, .reports, .forwarding, .console t, .pacing t})
          (r.arriving t p re pdu') (r.handleAcl t p) :=
        (within_routeL2capPdu _ t (by simp) (by simp) (by simp) (by simp) (by simp) (by simp) (by simp) pdu').trans
          (h.widen (by simp))
      obtain ⟨new, hout, hnew⟩ := hroute.out
      have hmem := hadded (.routed t (aclHandle p) pdu' :: new) (by simpa [arriving, setReasm] using hout)
      rcases List.mem_cons.mp hmem with heq | hmem
      · obtain ⟨rfl, rfl, rfl⟩ := Output.routed.inj heq
        exact ⟨p, rfl, rfl, hc⟩
      · exact absurd hmem (not_routed (by simp) hnew _ _ _)
  | quiet h hc => exact (hnone (by simp [hc])).elim
  | _ => exact (hnone (by simp [Cause.aspects])).elim

/-! ## Partial PDUs -/

/-- Every partial PDU is one, and is of a link that is open. -/
def PartialsSound (r : Relay) : Prop :=
  ∀ s handle re, (r.h s).links.aclReasm handle = some re →
    handle ∈ (r.h s).links.openHandles ∧ re.Unfinished

/-- A start that carries nothing, on a link whose last PDU is unfinished. -/
def LosesStart (r : Relay) (i : Input) : Prop :=
  match r.cause i with
  | .acl s p => 4 ≤ p.length ∧ ¬ isContinuation p ∧ aclPayload p = []
      ∧ (r.h s).links.aclReasm (aclHandle p) ≠ none
  | _ => False

/-- Whether the cause of an input is such a start. -/
def losesStart (r : Relay) : Cause → Bool
  | .acl s p => decide (4 ≤ p.length ∧ ¬ isContinuation p ∧ aclPayload p = []
      ∧ (r.h s).links.aclReasm (aclHandle p) ≠ none)
  | _ => false

theorem losesStart_iff (r : Relay) (i : Input) : r.losesStart (r.cause i) = true ↔ r.LosesStart i := by
  rw [LosesStart]
  cases r.cause i with
  | acl s p => exact decide_eq_true_iff
  | _ => exact iff_of_false Bool.false_ne_true not_false

instance (r : Relay) (i : Input) : Decidable (r.LosesStart i) := decidable_of_iff _ (r.losesStart_iff i)

variable {r}

theorem partialsSound_step (h : r.PartialsSound) (i : Input) : (r.step i).PartialsSound := by
  intro t handle re hre
  have hopen := openLinks_step r i t
  rw [aclReasm_step] at hre
  have hlinks : ((r.step i).h t).links.openHandles = (r.linksAfter t (r.cause i)).2 :=
    congrArg Prod.snd hopen
  rw [hlinks]
  have hold : (r.h t).links.aclReasm handle = some re → handle ∈ (r.openLinks t).2 ∧ re.Unfinished :=
    h t handle re
  revert hre
  generalize r.cause i = cause
  intro hre
  cases cause with
  | acl s p =>
    rw [partialAfter] at hre
    split at hre
    · rename_i hc
      exact ⟨hc.2.2, .after (fun re hre ↦ (h t handle re hre).2) hre⟩
    · exact hold hre
  | event s e =>
    cases e with
    | disconnectComplete e =>
      rw [partialAfter] at hre
      split at hre
      · cases hre
      · rename_i hc
        obtain ⟨hmem, hre⟩ := hold hre
        refine ⟨?_, hre⟩
        rw [linksAfter]
        split
        · rename_i hs
          exact Finset.mem_erase.mpr ⟨fun he ↦ hc ⟨hs, he.symm⟩, hmem⟩
        · exact hmem
    | connectionComplete e =>
      obtain ⟨hmem, hre⟩ := hold hre
      refine ⟨?_, hre⟩
      rw [linksAfter]
      split
      · exact Finset.mem_insert_of_mem hmem
      · exact hmem
    | _ => exact hold hre
  | _ => exact hold hre

/-- What a step routes is whole. -/
theorem wholePdu_of_routed (h : r.PartialsSound) {i : Input} {s : ConnectionSide} {handle : UInt16}
    {pdu : List UInt8} (hmem : .routed s handle pdu ∈ r.added i) : WholePdu pdu := by
  obtain ⟨p, -, -, hc⟩ := completed_of_routed r hmem
  exact wholePdu_of_completed r s (fun re hre ↦ (h s _ re hre).2) hc

end Relay

/-! ## What the links have carried -/

/-- What each link of each side has carried since its last start. -/
abbrev Carried := ConnectionSide → UInt16 → Option (List UInt8)

namespace Carried

open Relay

/-- A start begins again, and a continuation adds to what there is. -/
def extend (data : Option (List UInt8)) (p : PacketContents) : Option (List UInt8) :=
  if isContinuation p then data.map (· ++ aclPayload p) else some (aclPayload p)

/-- What an input adds, on the links it is about; a link that is gone has carried nothing. -/
def note (k : Carried) (r : Relay) (i : Input) : Carried := fun t handle ↦
  match r.cause i with
  | .acl s p =>
    if s = t ∧ aclHandle p = handle ∧ 4 ≤ p.length then extend (k t handle) p else k t handle
  | .event s (.disconnectComplete e) => if s = t ∧ e.handle = handle then none else k t handle
  | _ => k t handle

/-- Every partial PDU is what its link has carried. -/
def Agrees (k : Carried) (r : Relay) : Prop :=
  ∀ s handle re, (r.h s).links.aclReasm handle = some re → k s handle = some re.buf

/-- Every PDU the input leads to is a prefix of what its link has carried. -/
def Covers (k : Carried) (r : Relay) (i : Input) : Prop :=
  ∀ s handle pdu, .routed s handle pdu ∈ r.added i → ∃ data, k.note r i s handle = some data ∧ pdu <+: data

variable {k : Carried} {r : Relay}

theorem extend_after {data : Option (List UInt8)} {o : Option AclReasm} {re : AclReasm}
    {p : PacketContents} (hne : aclPayload p ≠ []) (hk : ∀ re, o = some re → data = some re.buf)
    (h : AclReasm.after o p = some re) : extend data p = some re.buf := by
  rw [AclReasm.after, if_neg hne] at h
  rw [extend]
  split at h
  · rename_i hpb
    obtain ⟨re₀, hre₀, h⟩ := Option.bind_eq_some_iff.mp h
    split at h
    · obtain rfl := Option.some.inj h
      rw [if_pos hpb, hk re₀ hre₀]
      rfl
    · cases h
  · rename_i hpb
    split at h
    · obtain rfl := Option.some.inj h
      rw [if_neg hpb]
    · cases h

theorem agrees_step (hs : r.PartialsSound) (h : k.Agrees r) {i : Input} (hi : ¬ r.LosesStart i) :
    (k.note r i).Agrees (r.step i) := by
  intro t handle re hre
  rw [aclReasm_step] at hre
  rw [note]
  rw [LosesStart] at hi
  revert hre hi
  generalize r.cause i = cause
  intro hi hre
  cases cause with
  | acl s p =>
    rw [partialAfter] at hre
    by_cases hlink : s = t ∧ aclHandle p = handle
    · obtain ⟨rfl, rfl⟩ := hlink
      have hopen : aclHandle p ∈ (r.h s).links.openHandles := by
        by_contra hno
        rw [if_neg fun hc ↦ hno hc.2.2] at hre
        exact hno (hs s _ re hre).1
      rw [if_pos ⟨rfl, rfl, hopen⟩] at hre
      by_cases hnil : aclPayload p = []
      · rw [AclReasm.after, if_pos hnil] at hre
        have hk := h s _ re hre
        dsimp only
        split
        · rename_i hc
          have hpb : isContinuation p := by
            by_contra hpb
            exact hi ⟨hc.2.2, hpb, hnil, by rw [hre]; exact Option.some_ne_none _⟩
          rw [extend, if_pos hpb, hk, hnil]
          simp
        · exact hk
      · have hlen : 4 ≤ p.length := by
          rw [aclPayload, List.drop_eq_nil_iff] at hnil
          omega
        dsimp only
        rw [if_pos ⟨rfl, rfl, hlen⟩]
        exact extend_after hnil (h s _) hre
    · rw [if_neg fun hc ↦ hlink ⟨hc.1, hc.2.1⟩] at hre
      dsimp only
      rw [if_neg fun hc ↦ hlink ⟨hc.1, hc.2.1⟩]
      exact h t handle re hre
  | event s e =>
    cases e with
    | disconnectComplete e =>
      rw [partialAfter] at hre
      dsimp only
      split at hre
      · cases hre
      · rename_i hc
        rw [if_neg hc]
        exact h t handle re hre
    | _ => exact h t handle re hre
  | _ => exact h t handle re hre

theorem covers (h : k.Agrees r) (i : Input) : k.Covers r i := by
  intro s handle pdu hmem
  obtain ⟨p, hcause, rfl, hc⟩ := completed_of_routed r hmem
  rw [completedPdu] at hc
  dsimp only at hc
  split at hc
  · cases hc
  · rename_i hopen
    have hlen : 4 ≤ p.length := by
      by_contra hlen
      refine hopen (.inr ?_)
      rw [List.isEmpty_iff, aclPayload, List.drop_eq_nil_iff]
      omega
    have hnote : k.note r i s (aclHandle p) = extend (k s (aclHandle p)) p := by
      rw [note, hcause]
      exact if_pos ⟨rfl, rfl, hlen⟩
    rw [hnote, extend]
    split at hc
    · rename_i hpb
      cases hre : (r.h s).links.aclReasm (aclHandle p) with
      | none =>
        rw [hre] at hc
        cases hc
      | some re =>
        rw [hre] at hc
        dsimp only at hc
        split at hc
        · cases hc
        · obtain rfl := Option.some.inj hc
          rw [if_pos hpb, h s _ re hre]
          exact ⟨_, rfl, List.take_prefix _ _⟩
    · rename_i hpb
      split at hc
      · cases hc
      · split at hc
        · obtain rfl := Option.some.inj hc
          rw [if_neg hpb]
          exact ⟨_, rfl, List.take_prefix _ _⟩
        · cases hc

end Carried

open Carried Relay

/-- **Reassembly of whatever arrives.**  In every run, each PDU handed to `route_l2cap_pdu` is as long as
its length field says and passes both of its reads, no length field is implausible, and a partial PDU is
of an open link and has at least four bytes, fewer than it expects, and at most 65539 to come.  While no
start without data arrives over an unfinished PDU, each PDU is a prefix of what its link has carried
since its last start. -/
theorem fragments_sound (cfg : Config) (is : List Input) :
    Along Relay.step (fun r i ↦ ∀ s handle pdu, .routed s handle pdu ∈ r.added i →
        WholePdu pdu ∧ PacketContents.get 4 pdu = some (pdu.take 4, pdu.drop 4)
          ∧ PacketContents.get (le16 (pdu.take 4) 0).toNat (pdu.drop 4) = some (pdu.drop 4, []))
      (.init cfg) is
      ∧ (∀ payload, 4 + (le16 payload 0).toNat ≤ L2CAP_MAX_PDU)
      ∧ (∀ s handle re, ((run Relay.step (.init cfg) is).h s).links.aclReasm handle = some re →
        handle ∈ ((run Relay.step (.init cfg) is).h s).links.openHandles ∧ 4 ≤ re.buf.length
          ∧ re.buf.length < re.expected ∧ re.expected ≤ 65539)
      ∧ (Along Relay.step (fun r i ↦ ¬ r.LosesStart i) (.init cfg) is →
        Along (withHistory Relay.step note) (fun q i ↦ q.2.Covers q.1 i) (.init cfg, fun _ _ ↦ none) is) := by
  have hinit : (Relay.init cfg).PartialsSound := by
    intro s handle re hre
    cases hre
  have hall : Along Relay.step (fun _ _ ↦ True) (.init cfg) is := along_const.mpr fun _ _ ↦ trivial
  refine ⟨?_, ?_, ?_, fun h ↦ ?_⟩
  · refine hall.of_invariant hinit fun r i hr _ ↦ ⟨partialsSound_step hr i, fun s handle pdu hmem ↦ ?_⟩
    have hw := wholePdu_of_routed hr hmem
    have hlen : le16 (pdu.take 4) 0 = le16 pdu 0 := le16_take (by decide)
    refine ⟨hw, ?_, ?_⟩
    · rw [WholePdu] at hw
      exact if_neg (by omega)
    · rw [WholePdu] at hw
      rw [hlen, PacketContents.get, List.length_drop, if_neg (by omega)]
      simp [hw]
  · exact fun payload ↦ Nat.not_lt.mp (plausible_length payload)
  · intro s handle re hre
    obtain ⟨hopen, hu⟩ := run_invariant is hinit (fun r i hr ↦ partialsSound_step hr i) s handle re hre
    exact ⟨hopen, hu.header, hu.short, hu.expected_le⟩
  · have hagrees : Agrees (fun _ _ ↦ none) (.init cfg) := by
      intro s handle re hre
      cases hre
    let Inv (q : Relay × Carried) := q.1.PartialsSound ∧ q.2.Agrees q.1
    have hinv : Inv (.init cfg, fun _ _ ↦ none) := ⟨hinit, hagrees⟩
    refine ((along_withHistory Relay.step note).mpr h).of_invariant hinv fun q i hq hi ↦ ?_
    exact ⟨⟨partialsSound_step hq.1 i, agrees_step hq.1 hq.2 hi⟩, covers hq.2 i⟩

/-- The pad's link carries a PDU of ten bytes in two packets, with a packet without data between them. -/
def splitRun : List Input :=
  Input.bringUp .toDualsense ++ Input.incomingCall .toDualsense ⟨1, 2, 3, 4, 5, 6⟩ 1
    ++ [.packet .toDualsense [HCI_ACLDATA_PKT, 0x01, 0x20, 8, 0, 6, 0, 0x41, 0, 1, 2, 3, 4],
      .packet .toDualsense [HCI_ACLDATA_PKT, 0x01, 0x10, 0, 0],
      .packet .toDualsense [HCI_ACLDATA_PKT, 0x01, 0x10, 2, 0, 5, 6]]

theorem fragments_sound_split :
    Along (withHistory Relay.step note) (fun q i ↦ q.2.Covers q.1 i) (.init .session, fun _ _ ↦ none) splitRun
      ∧ .routed .toDualsense 1 [6, 0, 0x41, 0, 1, 2, 3, 4, 5, 6] ∈ (run Relay.step (.init .session) splitRun).out :=
  ⟨(fragments_sound .session splitRun).2.2.2 (by decide +kernel), by decide +kernel⟩

/-- The pad's link carries eight bytes of a PDU of ten, then a start without data, then two bytes. -/
def staleRun : List Input :=
  Input.bringUp .toDualsense ++ Input.incomingCall .toDualsense ⟨1, 2, 3, 4, 5, 6⟩ 1
    ++ [.packet .toDualsense [HCI_ACLDATA_PKT, 0x01, 0x20, 8, 0, 6, 0, 0x41, 0, 1, 2, 3, 4],
      .packet .toDualsense [HCI_ACLDATA_PKT, 0x01, 0x20, 0, 0]]

/-- The two bytes complete the PDU from before that start. -/
theorem stale_partial_completed :
    ¬ ∀ cfg is, Along (withHistory Relay.step note) (fun q i ↦ q.2.Covers q.1 i)
      (.init cfg, fun _ _ ↦ none) is := by
  intro h
  let tail : Input := .packet .toDualsense [HCI_ACLDATA_PKT, 0x01, 0x10, 2, 0, 5, 6]
  have hlast := along_iff_prefixes.mp (h .session (staleRun ++ [tail])) staleRun tail List.prefix_rfl
    .toDualsense 1 [6, 0, 0x41, 0, 1, 2, 3, 4, 5, 6] (by decide +kernel)
  obtain ⟨data, hdata, hpre⟩ := hlast
  have hcarried : some data = some [5, 6] := hdata.symm.trans (by decide +kernel)
  obtain rfl := Option.some.inj hcarried
  exact absurd hpre (by decide)

end DualSenseMitm
