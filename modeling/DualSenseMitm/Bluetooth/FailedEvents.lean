import DualSenseMitm.Sending

/-!
# Events that report a failure

Six events carry a status.  Five of their handlers look at it and leave the links alone when it is not
success; `handleDisconnectComplete` does not, and forgets the link it names.
-/

set_option autoImplicit false

namespace DualSenseMitm

open Bytes

/-- What a handler keeps of its links. -/
@[ext] structure LinkTable where
  openHandles : Finset UInt16
  connectionHandle : UInt16
  /-- The remote ends of the channels. -/
  dcid : Channel → UInt16
  /-- The partial PDUs. -/
  aclReasm : UInt16 → Option AclReasm
  held : HeldFrame
  acl : AclFlowControl

/-- The events with a status. -/
def statusEvents : List UInt8 :=
  [EVT_CONN_COMPLETE, EVT_DISCONN_COMPLETE, EVT_AUTH_COMPLETE, EVT_ENCRYPT_CHANGE, EVT_ROLE_CHANGE,
    EVT_MODE_CHANGE]

/-- The event reports a failure: the status is the first of its parameters. -/
def reportsFailure (p : PacketContents) : Bool := statusEvents.contains (byteAt p 0) && byteAt p 2 != HCI_SUCCESS

namespace Relay

variable (r : Relay) (s t : ConnectionSide)

def linkTable (r : Relay) (s : ConnectionSide) : LinkTable :=
  { openHandles := (r.h s).links.openHandles
    connectionHandle := (r.h s).links.connectionHandle
    dcid := (r.h s).channels.dcid
    aclReasm := (r.h s).links.aclReasm
    held := (r.h s).held
    acl := (r.h s).acl }

/-- There is something of the handle to forget. -/
def Keeps (r : Relay) (s : ConnectionSide) (handle : UInt16) : Prop :=
  handle ∈ (r.h s).links.openHandles ∨ (r.h s).links.aclReasm handle ≠ none
    ∨ (r.h s).acl.inFlight.lookup handle ≠ none
    ∨ handle = (r.h s).links.connectionHandle
      ∧ (handle ≠ 0 ∨ (∃ c, r.dcid s c ≠ 0) ∨ (r.h s).held ≠ .empty)

/-! ## What leaves the table alone -/

@[simp] theorem linkTable_onPaging (f : Paging → Paging) : (r.onPaging s f).linkTable t = r.linkTable t := by
  simp [linkTable]

@[simp] theorem linkTable_onPairing (f : Pairing → Pairing) : (r.onPairing s f).linkTable t = r.linkTable t := by
  simp [linkTable]

@[simp] theorem linkTable_sendCmd (ogf ocf : UInt16) (param : List UInt8) (what : String) :
    (r.sendCmd s ogf ocf param what).linkTable t = r.linkTable t := by
  simp [linkTable]

@[simp] theorem linkTable_emit (o : Output) : (r.emit o).linkTable t = r.linkTable t := rfl
@[simp] theorem linkTable_spawn (k : Task) : (r.spawn k).linkTable t = r.linkTable t := rfl
@[simp] theorem linkTable_advance (n : ℕ) : (r.advance n).linkTable t = r.linkTable t := rfl

theorem linkTable_onLinks {f : Links → Links} (hopen : ∀ l, (f l).openHandles = l.openHandles)
    (hcurrent : ∀ l, (f l).connectionHandle = l.connectionHandle) (hreasm : ∀ l, (f l).aclReasm = l.aclReasm) :
    (r.onLinks s f).linkTable t = r.linkTable t := by
  by_cases ht : t = s <;> simp [linkTable, ht, hopen, hcurrent, hreasm]

@[simp] theorem linkTable_scheduleReconnect (delay : Time) :
    (r.scheduleReconnect s delay).linkTable t = r.linkTable t := by
  rw [scheduleReconnect]
  split
  · rfl
  · simp

@[simp] theorem linkTable_endHandoverPaging : (r.endHandoverPaging s).linkTable t = r.linkTable t := by
  rw [endHandoverPaging]
  split
  · rfl
  · simp [writePageTimeout]

theorem linkTable_pageOver (status : UInt8) : (r.pageOver s status).linkTable t = r.linkTable t := by
  unfold pageOver
  extract_lets failedIncoming
  split
  · exact linkTable_onLinks r s t (fun _ ↦ rfl) (fun _ ↦ rfl) fun _ ↦ rfl
  · split
    · simp [writeScanEnable]
    · rfl

theorem linkTable_handleConnectionFailure (e : EvtConnComplete) :
    (r.handleConnectionFailure s e).linkTable t = r.linkTable t := by
  unfold handleConnectionFailure
  extract_lets btAddr
  cases s with
  | toDualsense =>
    dsimp only
    repeat' split
    all_goals simp
  | toPlaystation =>
    dsimp only
    split
    · rename_i r₁ since r₂ _
      have h₁ : r₁.linkTable t = r.linkTable t := linkTable_onPaging r _ t _
      have h₂ : r₂.linkTable t = r.linkTable t := (linkTable_endHandoverPaging _ _ t).trans h₁
      repeat' split
      all_goals simpa
    · rfl

/-! ## Each event -/

section events

variable {p : PacketContents}

/-- The status of an event that carries one. -/
theorem byteAt_status {a q : List UInt8} {n : ℕ} (h : PacketContents.get n (p.drop 2) = some (a, q))
    (hn : 0 < n) : byteAt a 0 = byteAt p 2 := by
  obtain ⟨-, ha, -⟩ := PacketContents.get_eq_some h
  rw [ha, byteAt_take hn, byteAt, byteAt, List.getD_eq_getElem?_getD, List.getD_eq_getElem?_getD,
    List.getElem?_drop]

/-- A structure with its status in front shows the status of the event. -/
theorem status_getAs {α : Type} {n : ℕ} {read : List UInt8 → α} {e : α × PacketContents} {status : α → UInt8}
    (h : PacketContents.getAs n read (p.drop 2) = some e) (hread : ∀ b, status (read b) = byteAt b 0)
    (hn : 0 < n) : status e.1 = byteAt p 2 := by
  rw [PacketContents.getAs, Option.map_eq_some_iff] at h
  obtain ⟨q, hq, rfl⟩ := h
  rw [hread]
  exact byteAt_status hq hn

theorem linkTable_connectionComplete (hs : byteAt p 2 ≠ HCI_SUCCESS) :
    (r.handleConnectionComplete s (p.drop 2)).linkTable t = r.linkTable t := by
  cases he : EvtConnComplete.get? (p.drop 2) with
  | none => rw [handleConnectionComplete, he]
  | some e =>
    have hstatus : e.1.status = byteAt p 2 := status_getAs he (fun _ ↦ rfl) (by decide)
    rw [← hstatus] at hs
    rw [handleConnectionComplete_eq r s he, if_pos hs, linkTable_handleConnectionFailure,
      linkTable_pageOver]

theorem linkTable_authComplete (hs : byteAt p 2 ≠ HCI_SUCCESS) :
    (r.handleAuthComplete s (p.drop 2)).linkTable t = r.linkTable t := by
  cases he : EvtAuthComplete.get? (p.drop 2) with
  | none => rw [handleAuthComplete.eq_def, he]
  | some e =>
    have hstatus : e.1.status = byteAt p 2 := status_getAs he (fun _ ↦ rfl) (by decide)
    rw [← hstatus] at hs
    rw [handleAuthComplete.eq_def, he]
    dsimp only
    rw [if_pos hs]
    repeat' split
    all_goals simp

theorem linkTable_encryptChange (hs : byteAt p 2 ≠ HCI_SUCCESS) :
    (r.handleEncryptChange s (p.drop 2)).linkTable t = r.linkTable t := by
  cases he : EvtEncryptChange.get? (p.drop 2) with
  | none => rw [handleEncryptChange, he]
  | some e =>
    have hstatus : e.1.status = byteAt p 2 := status_getAs he (fun _ ↦ rfl) (by decide)
    rw [← hstatus] at hs
    rw [handleEncryptChange, he]
    dsimp only
    rw [if_neg fun h ↦ hs h.1]

theorem linkTable_modeChange (hs : byteAt p 2 ≠ HCI_SUCCESS) :
    (r.handleModeChange s (p.drop 2)).linkTable t = r.linkTable t := by
  cases he : EvtModeChange.get? (p.drop 2) with
  | none => rw [handleModeChange, he]
  | some e =>
    have hstatus : e.1.status = byteAt p 2 := status_getAs he (fun _ ↦ rfl) (by decide)
    rw [← hstatus] at hs
    rw [handleModeChange, he]
    dsimp only
    rw [if_neg fun h ↦ hs h.1]

/-- Whatever is kept of the handle is forgotten, whether or not the link is gone. -/
theorem linkTable_linkGone (handle : UInt16) : (r.linkGone s handle).linkTable t = r.linkTable t ↔
    t = s → handle ∉ (r.h s).links.openHandles ∧ (r.h s).links.aclReasm handle = none
      ∧ (r.h s).acl.inFlight.lookup handle = none := by
  by_cases ht : t = s
  · subst ht
    have hacl : (r.h t).acl.onDisconnect handle = (r.h t).acl
        ↔ (r.h t).acl.inFlight.lookup handle = none := by
      rw [AclFlowControl.onDisconnect]
      cases hl : (r.h t).acl.inFlight.lookup handle with
      | none => simp
      | some was =>
        refine iff_of_false (fun h ↦ ?_) (by simp)
        have herase := congrArg (·.inFlight.lookup handle) h
        simp [hl] at herase
    have hreasm : Function.update (r.h t).links.aclReasm handle none = (r.h t).links.aclReasm
        ↔ (r.h t).links.aclReasm handle = none := by
      rw [Function.update_eq_self_iff, eq_comm]
    simp [linkTable, linkGone, hacl, hreasm, Finset.erase_eq_self]
  · simp [linkTable, linkGone, ht]

theorem linkTable_currentGone : (r.currentGone s).linkTable t
    = if t = s then { r.linkTable t with connectionHandle := 0, dcid := fun _ ↦ 0, held := .empty }
      else r.linkTable t := by
  by_cases ht : t = s
  · subst ht
    cases t <;> simp [linkTable, currentGone, resetChannels, writePageScanActivity, writeScanEnable, HeldFrame.clear]
  · cases s <;>
      simp [linkTable, currentGone, resetChannels, writePageScanActivity, writeScanEnable, ht]

/-- What the end of the current link leaves alone. -/
theorem linkTable_linkGone_currentGone (handle : UInt16) :
    ((r.linkGone s handle).currentGone s).linkTable t = r.linkTable t ↔
      t = s → (r.linkGone s handle).linkTable s = r.linkTable s
        ∧ (r.h s).links.connectionHandle = 0 ∧ (∀ c, r.dcid s c = 0) ∧ (r.h s).held = .empty := by
  rw [linkTable_currentGone]
  by_cases ht : t = s
  · subst ht
    rw [if_pos rfl, LinkTable.ext_iff, LinkTable.ext_iff]
    have hkept : ((r.linkGone t handle).h t).links.connectionHandle = (r.h t).links.connectionHandle
        ∧ ((r.linkGone t handle).h t).channels.dcid = (r.h t).channels.dcid
        ∧ ((r.linkGone t handle).h t).held = (r.h t).held := by simp [linkGone]
    obtain ⟨hcurrent, hdcid, hheld⟩ := hkept
    have hzero : (fun _ ↦ 0) = (r.h t).channels.dcid ↔ ∀ c, r.dcid t c = 0 := by
      rw [funext_iff]
      exact forall_congr' fun c ↦ eq_comm
    simp only [linkTable, hcurrent, hdcid, hheld, hzero, eq_comm (a := (0 : UInt16)),
      eq_comm (a := HeldFrame.empty)]
    tauto
  · rw [if_neg ht, (linkTable_linkGone r s t handle).mpr fun h ↦ absurd h ht]
    exact iff_of_true rfl fun h ↦ absurd h ht

theorem linkTable_disconnectComplete : (∀ t, (r.handleDisconnectComplete s p).linkTable t = r.linkTable t)
    ↔ ∀ e ∈ EvtDisconnComplete.get? p, ¬ r.Keeps s e.1.handle := by
  cases he : EvtDisconnComplete.get? p with
  | none =>
    rw [handleDisconnectComplete, he]
    simp
  | some e =>
    have hgone := linkTable_linkGone r s s e.1.handle
    rw [handleDisconnectComplete_eq r s he]
    simp only [Option.mem_def, Option.some.injEq, forall_eq', Keeps, not_or, not_and]
    by_cases hcur : e.1.handle = (r.h s).links.connectionHandle
    · rw [if_neg (not_not_intro hcur)]
      simp only [linkTable_scheduleReconnect, linkTable_linkGone_currentGone, forall_eq, hgone, ← hcur]
      push Not
      tauto
    · rw [if_pos hcur]
      simp only [linkTable_linkGone, forall_eq]
      tauto

/-! ## Any of them -/

/-- The event forgets a link of which something is kept. -/
def Forgets (r : Relay) (s : ConnectionSide) (p : PacketContents) : Prop :=
  byteAt p 0 = EVT_DISCONN_COMPLETE ∧ ∃ e ∈ EvtDisconnComplete.get? (p.drop 2), r.Keeps s e.1.handle

/-- Of the events with a status, the end of a link alone reaches the links without a look at it. -/
theorem failed_event_keeps_links (h : reportsFailure p) :
    (∀ t, (r.handleEvent s p).linkTable t = r.linkTable t) ↔ ¬ r.Forgets s p := by
  rw [reportsFailure, Bool.and_eq_true, bne_iff_ne, List.contains_iff_mem] at h
  obtain ⟨hcode, hs⟩ := h
  have hget : PacketContents.get 2 p = some (p.take 2, p.drop 2) := by
    rw [PacketContents.get, if_neg]
    intro hlen
    rw [byteAt, List.getD_eq_getElem?_getD, List.getElem?_eq_none (by omega)] at hs
    exact hs rfl
  have hevt : byteAt (p.take 2) 0 = byteAt p 0 := byteAt_take (by decide)
  rw [handleEvent, hget]
  dsimp only
  rw [hevt, Forgets]
  simp only [statusEvents, List.mem_cons, List.not_mem_nil, or_false] at hcode
  rcases hcode with hc | hc | hc | hc | hc | hc <;> rw [hc]
  · exact iff_of_true (fun t ↦ linkTable_connectionComplete r s t hs) fun h ↦ absurd h.1 (by decide)
  · have hdisc := linkTable_disconnectComplete r s (p := p.drop 2)
    simp only [not_and, not_exists]
    exact hdisc.trans ⟨fun h _ ↦ h, fun h ↦ h trivial⟩
  · exact iff_of_true (fun t ↦ linkTable_authComplete r s t hs) fun h ↦ absurd h.1 (by decide)
  · exact iff_of_true (fun t ↦ linkTable_encryptChange r s t hs) fun h ↦ absurd h.1 (by decide)
  · exact iff_of_true (fun t ↦ rfl) fun h ↦ absurd h.1 (by decide)
  · exact iff_of_true (fun t ↦ linkTable_modeChange r s t hs) fun h ↦ absurd h.1 (by decide)

/-- A page of the console times out. -/
theorem failed_event_keeps_links_page :
    let r := Machine.run step (.init .session) Input.bothLinked
    ∀ t, (r.handleEvent .toPlaystation
      [EVT_CONN_COMPLETE, 11, HCI_PAGE_TIMEOUT, 0, 0, 1, 2, 3, 4, 5, 6, 1, 0]).linkTable t = r.linkTable t :=
  (failed_event_keeps_links _ .toPlaystation (by decide)).mpr fun h ↦ absurd h.1 (by decide)

/-- The controller refuses to end link 2, and the relay forgets the console. -/
theorem refused_end_forgets_link :
    ¬ ∀ cfg is s (p : PacketContents), reportsFailure p → ∀ t,
      ((Machine.run step (.init cfg) is).handleEvent s p).linkTable t
        = (Machine.run step (.init cfg) is).linkTable t := by
  intro h
  have hlink := h .session Input.bothLinked .toPlaystation
    [EVT_DISCONN_COMPLETE, 4, 0x0c, 2, 0, 0x16] (by decide) .toPlaystation
  exact absurd (congrArg LinkTable.connectionHandle hlink) (by decide +kernel)

end events

end Relay

end DualSenseMitm
