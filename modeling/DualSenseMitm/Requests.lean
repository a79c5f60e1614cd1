import DualSenseMitm.Aspects

/-!
# What one read of ep0 can do

Of all the requests a host can make of the gadget only the report 0x0a touches a key, so a read of
ep0 is a run of such reports with quiet work, and at most a handover, between them.
-/

set_option autoImplicit false

namespace DualSenseMitm

open Bytes Machine

/-- The report 0x0a an event of the gadget carries. -/
def UsbEvent.pairingReport? : UsbEvent → Option (List UInt8)
  | .setup req =>
    match req.data with
    | .error _ => none
    | .ok data =>
      let data := (data.take req.length.toNat).take REPORT_LENGTH
      if classify req.requestType req.request req.value = .setReport ∧ data ≠ []
          ∧ (req.value >>> (8 : UInt16)).toUInt8 ≠ REPORT_TYPE_OUTPUT
          ∧ byteAt data 0 = REPORT_PAIRING_SET then
        some data
      else none
  | _ => none

namespace Relay

variable (r : Relay)

theorem within_takeTransport {A : Set Aspect} (hA : .handover ∈ A) (report : List UInt8) :
    Performs (Op.Within A) r (r.takeTransport .toDualsense report) := by
  unfold takeTransport
  extract_lets sub r₁ r₂
  have h₂ : Performs (Op.Within A) r r₂ :=
    (within_onStreams r _ (.inl fun _ ↦ by rfl) (.inl fun _ ↦ by rfl) (.inr hA)).trans
      (quiet_l2capSendHidFeatureSet r₁ report).within
  exact .ite (fun _ ↦ .refl r) fun _ ↦
    .ite (fun _ ↦ h₂.trans (Performs.single (.spawn (.handover _)) (.inr hA))) fun _ ↦ h₂

/-- What an event of the gadget can do. -/
inductive UsbMove (r : Relay) (e : UsbEvent) : Relay → Prop
  | pairingSet {report} (hr : e.pairingReport? = some report) :
      UsbMove r e (r.takePairingSet .toDualsense report)
  | endpointsUp (he : e = .enable) : UsbMove r e r.onEndpointsEnabled
  | endpointsDown (hr : e.pairingReport? = none) : UsbMove r e r.onEndpointsDisabled
  | within {r'} (h : Performs (Op.Within {.handover, .reports, .outputs}) r r') (hr : e.pairingReport? = none) :
      UsbMove r e r'

theorem takeSetReport_move (req : UsbSetup)
    (hreq : classify req.requestType req.request req.value = .setReport) :
    UsbMove r (.setup req) (r.takeSetReport req) := by
  unfold takeSetReport
  cases hd : req.data with
  | error result =>
    exact .within (within_ep0StageFailed r (by simp) _ _) (by simp [UsbEvent.pairingReport?, hd])
  | ok bytes =>
    generalize hdata : (bytes.take req.length.toNat).take REPORT_LENGTH = data
    have hreport : UsbEvent.pairingReport? (.setup req)
        = if data ≠ [] ∧ (req.value >>> (8 : UInt16)).toUInt8 ≠ REPORT_TYPE_OUTPUT
            ∧ byteAt data 0 = REPORT_PAIRING_SET then some data else none := by
      simp only [UsbEvent.pairingReport?, hd, hdata, hreq, true_and]
    dsimp only
    rw [hdata]
    by_cases hempty : data.isEmpty = true
    · rw [if_pos hempty]
      exact .within (.refl r) (hreport.trans (if_neg fun h ↦ h.1 (List.isEmpty_iff.mp hempty)))
    rw [if_neg hempty]
    by_cases hout : (req.value >>> (8 : UInt16)).toUInt8 = REPORT_TYPE_OUTPUT
    · rw [if_pos hout]
      exact .within (within_l2capSendOutputReport r (by simp) _)
        (hreport.trans (if_neg fun h ↦ h.2.1 hout))
    rw [if_neg hout]
    unfold l2capSendFeatureSet
    have hne : data ≠ [] := fun h ↦ hempty (List.isEmpty_iff.mpr h)
    rw [if_neg (Nat.not_lt.mpr (List.length_pos_iff.mpr hne))]
    by_cases hset : byteAt data 0 = REPORT_PAIRING_SET
    · rw [if_pos hset]
      exact .pairingSet (hreport.trans (if_pos ⟨hne, hout, hset⟩))
    have hnone := hreport.trans (if_neg fun h ↦ hset h.2.2)
    rw [if_neg hset]
    split
    · exact .within (within_takeTransport r (by simp) data) hnone
    · exact .within (quiet_l2capSendHidFeatureSet r data).within hnone

/-- A request of any other class carries no report 0x0a. -/
theorem pairingReport?_eq_none {req : UsbSetup}
    (hreq : classify req.requestType req.request req.value ≠ .setReport) :
    UsbEvent.pairingReport? (.setup req) = none := by
  unfold UsbEvent.pairingReport?
  dsimp only
  split
  · rfl
  · exact if_neg fun h ↦ hreq h.1

theorem handleSetup_move (req : UsbSetup) : UsbMove r (.setup req) (r.handleSetup req) := by
  by_cases hreq : classify req.requestType req.request req.value = .setReport
  · rw [handleSetup, hreq]
    exact takeSetReport_move r req hreq
  · refine .within ?_ (pairingReport?_eq_none hreq)
    unfold handleSetup
    split
    · exact within_beginGetReport r (by simp) _ _
    · exact absurd ‹_› hreq
    · exact within_ep0Reply r (by simp) _
    · exact within_ep0Reply r (by simp) _
    · exact within_ep0Reply r (by simp) _
    · exact within_ep0Reply r (by simp) _
    · exact .trans (quiet_onUsb r fun _ ↦ ⟨by rfl, by rfl, by rfl⟩).within (within_ep0Ack _ (by simp))
    · exact within_emit r (Set.mem_insert_of_mem _ (Set.mem_insert _ _))
    · exact within_emit r (Set.mem_insert_of_mem _ (Set.mem_insert _ _))

/-- Whatever an event of the gadget does, but for a report 0x0a. -/
theorem UsbMove.within_of_none {r r' : Relay} {e : UsbEvent} (h : UsbMove r e r')
    (he : e.pairingReport? = none) :
    Performs (Op.Within {.handover, .endpoints, .reports, .outputs}) r r' := by
  cases h with
  | pairingSet hr => rw [he] at hr; cases hr
  | endpointsUp => exact within_onEndpointsEnabled r (by simp)
  | endpointsDown => exact within_onEndpointsDisabled r (by simp)
  | within h => exact Performs.widen h (by simp [Set.insert_subset_iff])

/-- A report 0x0a is taken as one. -/
theorem UsbMove.eq_of_some {r r' : Relay} {e : UsbEvent} {report : List UInt8} (h : UsbMove r e r')
    (he : e.pairingReport? = some report) : r' = r.takePairingSet .toDualsense report := by
  cases h with
  | pairingSet hr => rw [Option.some.inj (hr.symm.trans he)]
  | endpointsUp hup => rw [hup] at he; cases he
  | endpointsDown hr => rw [hr] at he; cases he
  | within h hr => rw [hr] at he; cases he

theorem usb_move (e : UsbEvent) : UsbMove r e (r.handleUsbEvent e) := by
  cases e with
  | unbind => exact .endpointsDown rfl
  | enable => exact .endpointsUp rfl
  | disable => exact .endpointsDown rfl
  | setup req => exact handleSetup_move r req

/-- What every report 0x0a of a read keeps, and whatever else a read can do, the read keeps. -/
theorem readEp0_invariant (Inv : Relay → Prop) {events : List UsbEvent} (h : Inv r)
    (hset : ∀ r, ∀ e ∈ events, ∀ report, e.pairingReport? = some report → Inv r →
      Inv (r.takePairingSet .toDualsense report))
    (hwithin : ∀ r r', Performs (Op.Within {.handover, .endpoints, .reports, .outputs}) r r' → Inv r →
      Inv r') :
    Inv (r.readEp0 events) := by
  have hmove : ∀ (e) (_ : e ∈ events) (r r' : Relay), UsbMove r e r' → Inv r → Inv r' := by
    intro e he r r' hm hr
    rcases hreport : e.pairingReport? with _ | report
    · exact hwithin _ _ (hm.within_of_none hreport) hr
    · rw [hm.eq_of_some hreport]
      exact hset r e he report hreport hr
  have hfold : Inv (events.foldl handleUsbEvent r) := by
    clear hset
    induction events generalizing r with
    | nil => exact h
    | cons e events ih =>
      exact ih _ (hmove e (by simp) r _ (usb_move r e) h) fun e' he' ↦ hmove e' (by simp [he'])
  unfold readEp0
  split
  · exact hfold
  · exact h

theorem within_readEp0 {A : Set Aspect} (hK : .keys ∈ A) (hH : .handover ∈ A)
    (hE : .endpoints ∈ A) (hR : .reports ∈ A) (hO : .outputs ∈ A) (events : List UsbEvent) :
    Performs (Op.Within A) r (r.readEp0 events) := by
  refine readEp0_invariant r (Performs (Op.Within A) r) (.refl r) ?_ ?_
  · exact fun r' _ _ report _ hr ↦ hr.trans (within_takePairingSet r' _ hK report)
  · exact fun _ _ hw hr ↦ hr.trans (Performs.widen hw
      (by simp [Set.insert_subset_iff, hH, hE, hR, hO]))

end Relay

end DualSenseMitm
