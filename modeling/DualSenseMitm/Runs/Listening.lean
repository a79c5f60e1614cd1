import DualSenseMitm.Runs.Pages

/-!
# The console-facing adapter listens

It answers to the pad's address, so it must not listen while the pad is paged, and it must listen at any
other time, or the console's call-back is lost.  Its scan mode is written at four places, and only one
of them looks at `scan_suppressed_`.

* `scan_move` — what a step has to do with the scan mode and with the pages of the pad: nothing, unless
  it pages, ends a page, or listens for the console.
* `own_page_unanswered` — it does not listen while a page is out, as long as nothing else makes it listen.
* `never_deaf` — it listens whenever no page is out, as long as the last page always ends with a
  Connection Complete that is taken for its own.
-/

set_option autoImplicit false

namespace DualSenseMitm

open Bytes Machine Relay

/-! ## The scan mode -/

/-- The scan mode a command gives to the console-facing adapter. -/
def Output.scanMode? : Output → Option UInt8
  | .cmdIssued .toPlaystation c => if writesScan c.ogf c.ocf then some (byteAt c.param 0) else none
  | _ => none

/-- The last scan mode a trace gives to it. -/
def lastScan (out : List Output) : Option UInt8 := (out.filterMap Output.scanMode?).getLast?

namespace Relay

variable {dest : BdAddr → Bool} {r r' r'' : Relay} {A : Set Aspect}

/-- The console-facing adapter claims this address. -/
def claims (r : Relay) (addr : BdAddr) : Bool :=
  r.linked && (r.h .toPlaystation).pairing.spoofAddr.isSet
    && addr == (r.h .toPlaystation).pairing.spoofAddr

/-- It is not to listen. -/
def suppressed (r : Relay) : Bool := (r.h .toPlaystation).paging.scanSuppressed

/-- Scan modes are given to the console-facing adapter, and no page of the pad's side to one of these
addresses is issued. -/
structure Writes (dest : BdAddr → Bool) (r r' : Relay) (modes : List UInt8) : Prop where
  out : ∃ new, r'.out = r.out ++ new ∧ new.filterMap Output.scanMode? = modes
    ∧ ∀ c, .cmdIssued .toDualsense c ∈ new → Pages.counts dest c = false

theorem Writes.trans {modes modes' : List UInt8} (h : Writes dest r r' modes)
    (h' : Writes dest r' r'' modes') : Writes dest r r'' (modes ++ modes') := by
  obtain ⟨new, hout, hmodes, hpage⟩ := h.out
  obtain ⟨more, hout', hmodes', hpage'⟩ := h'.out
  refine ⟨new ++ more, by rw [hout', hout, List.append_assoc], ?_, fun c hc ↦ ?_⟩
  · rw [List.filterMap_append, hmodes, hmodes']
  · exact (List.mem_append.mp hc).elim (hpage c) (hpage' c)

/-- Neither the scan mode nor a page is touched. -/
structure Aside (dest : BdAddr → Bool) (r r' : Relay) : Prop where
  writes : Writes dest r r' []
  suppressed : r'.suppressed = r.suppressed

theorem Aside.refl (r : Relay) : Aside dest r r :=
  ⟨⟨[], by simp, rfl, by simp⟩, rfl⟩

theorem Aside.trans (h : Aside dest r r') (h' : Aside dest r' r'') : Aside dest r r'' :=
  ⟨h.writes.trans h'.writes, h'.suppressed.trans h.suppressed⟩

theorem aside_of_within (h : Performs (Op.Within A) r r')
    (hS : .scanning .toPlaystation ∉ A) (hC : .calling .toDualsense ∉ A) : Aside dest r r' := by
  obtain ⟨new, hout, hnew⟩ := h.out
  refine ⟨⟨new, hout, List.filterMap_eq_nil_iff.mpr fun o ho ↦ ?_, fun c hc ↦ ?_⟩,
    scanSuppressed_eq h _ hS⟩
  · cases o with
    | cmdIssued s c =>
      cases s with
      | toDualsense => rfl
      | toPlaystation => exact if_neg fun hw ↦ hS (((hnew _ ho).within rfl rfl).scanning hw)
    | _ => rfl
  · have hcalls : callsPeer c.ogf c.ocf = false :=
      Bool.eq_false_iff.mpr fun hw ↦ hC (((hnew _ hc).within rfl rfl).calling hw)
    rw [Pages.counts, hcalls, Bool.false_and]

/-- What is written from the queue is no scan mode and no command that is issued. -/
theorem pumped_silent (s : ConnectionSide) (l : List (Command × Bool)) :
    (l.map (pumpOutput s)).filterMap Output.scanMode? = []
      ∧ ∀ t c, .cmdIssued t c ∉ l.map (pumpOutput s) := by
  refine ⟨List.filterMap_eq_nil_iff.mpr fun o ho ↦ ?_, fun t c hc ↦ ?_⟩
  · obtain ⟨q, -, rfl⟩ := List.mem_map.mp ho
    rw [pumpOutput]
    split <;> rfl
  · obtain ⟨q, -, hq⟩ := List.mem_map.mp hc
    rw [pumpOutput] at hq
    split at hq <;> cases hq

/-- A Write Scan Enable. -/
theorem writes_writeScanEnable (r : Relay) (mode : UInt8) :
    Writes dest r (r.writeScanEnable .toPlaystation mode) [mode] := by
  refine ⟨_, out_sendCmd r _ _ _ _ _, ?_, fun c hc ↦ ?_⟩
  · have hissued : Output.scanMode? (.cmdIssued .toPlaystation (r.command .toPlaystation OGF_HOST_CTL
        OCF_WRITE_SCAN_ENABLE [mode] "write scan enable")) = some mode := rfl
    rw [List.filterMap_cons_some hissued, (pumped_silent _ _).1]
  · rcases List.mem_cons.mp hc with hc | hc
    · cases hc
    · exact absurd hc ((pumped_silent _ _).2 _ _)

/-! ## What a step has to do with it -/

/-- The console-facing adapter is made to listen whatever its pad-facing side does: its link is gone, or
the console is called. -/
def listens (r : Relay) : Cause → Bool
  | .event .toPlaystation (.disconnectComplete e) =>
    e.handle == (r.h .toPlaystation).links.connectionHandle
  | .handover .toDualsense => (r.h .toPlaystation).links.connectionHandle == 0
  | _ => false

/-- A Connection Complete of the pad's side that is taken for the end of a page. -/
def endsPage (r : Relay) : Cause → Bool
  | .event .toDualsense (.connectionComplete e) =>
    e.status == HCI_SUCCESS || !(r.h .toDualsense).links.acceptedIncoming
  | _ => false

/-- The console-facing handler is in its read loop. -/
def listening (r : Relay) : Prop := (r.h .toPlaystation).phase = .running

/-- The pad is paged at the address that is claimed, and the adapter that claims it is silenced. -/
structure Silences (r r' : Relay) : Prop where
  out : ∃ new, r'.out = r.out ++ new ∧ new.filterMap Output.scanMode? = [SCAN_NONE]
    ∧ ∃ c, .cmdIssued .toDualsense c ∈ new ∧ Pages.counts r.claims c = true
  suppressed : r'.suppressed = true
  linked : r.linked = true

/-- What a step has to do with the scan mode of the console-facing adapter and the pages of the pad. -/
inductive ScanMove (r : Relay) : Cause → Relay → Prop
  | aside {c r'} (h : Aside r.claims r r') (hp : r'.listening ↔ r.listening)
      (hc : r.endsPage c = true → r.linked = true → r.suppressed = false) : ScanMove r c r'
  | silenced {c r'} (h : Silences r r') (hp : r'.listening ↔ r.listening) (hc : r.endsPage c = false) :
      ScanMove r c r'
  | restored {c r'} (h : Writes r.claims r r' [SCAN_PAGE_ONLY]) (hs : r'.suppressed = false)
      (hp : r'.listening ↔ r.listening) (hc : r.endsPage c = true) : ScanMove r c r'
  | listened {c r'} (h : Writes r.claims r r' [SCAN_PAGE_ONLY]) (hs : r'.suppressed = r.suppressed)
      (hp : r'.listening ↔ r.listening) (hc : r.listens c = true) (hc' : r.endsPage c = false) :
      ScanMove r c r'
  | up {c r'} (h : Writes r.claims r r' (if r.suppressed then [] else [SCAN_PAGE_ONLY]))
      (hs : r'.suppressed = r.suppressed) (hp : ¬ r.listening) (hc : r.endsPage c = false) : ScanMove r c r'

theorem claims_eq (h : Performs (Op.Within A) r r') (hA : .keys ∉ A) :
    r'.claims = r.claims := by
  funext addr
  rw [claims, claims, h.linked, pairing_eq h _ hA]

theorem listening_eq (h : Performs (Op.Within A) r r') (hA : .comingUp ∉ A) :
    r'.listening ↔ r.listening := by
  rw [listening, listening, phase_eq h _ hA]

/-- A step that ends no page, and leaves the scan mode and the pages alone. -/
theorem ScanMove.of_aside {c : Cause} (h : Aside r.claims r r') (hp : r'.listening ↔ r.listening)
    (hc : r.endsPage c = false) : ScanMove r c r' :=
  .aside h hp fun he ↦ by rw [hc] at he; cases he

theorem suppressed_writeScanEnable (r : Relay) (mode : UInt8) :
    (r.writeScanEnable .toPlaystation mode).suppressed = r.suppressed := by
  simp [suppressed, writeScanEnable]

theorem Aside.writes_then {modes : List UInt8} (h : Aside dest r r') (h' : Writes dest r' r'' modes) :
    Writes dest r r'' modes := h.writes.trans h'

theorem Writes.aside {modes : List UInt8} (h : Writes dest r r' modes) (h' : Aside dest r' r'') :
    Writes dest r r'' modes := by
  have := h.trans h'.writes
  rwa [List.append_nil] at this

/-! ## A page -/

/-- The Create Connection of a page. -/
theorem page_sendCmd (r : Relay) (addr : BdAddr) :
    ∃ new, (r.sendCmd .toDualsense OGF_LINK_CTL OCF_CREATE_CONN
        (addr.bytes ++ put16 ACL_PTYPE_MASK ++ [0x01, 0] ++ put16 0x00 ++ [0x00]) "create connection").out
        = r.out ++ new
      ∧ new.filterMap Output.scanMode? = []
      ∧ (∃ c, .cmdIssued .toDualsense c ∈ new)
      ∧ ∀ c, .cmdIssued .toDualsense c ∈ new → ∀ dest, Pages.counts dest c = dest addr := by
  refine ⟨_, out_sendCmd r _ _ _ _ _, ?_, ⟨_, List.mem_cons_self⟩, fun c hc dest ↦ ?_⟩
  · rw [List.filterMap_cons_none rfl]
    exact (pumped_silent _ _).1
  · rcases List.mem_cons.mp hc with hc | hc
    · cases hc
      rfl
    · exact absurd hc ((pumped_silent _ _).2 _ _)

/-- A page of the pad silences the console-facing adapter first, if that claims the address. -/
theorem sendConnectionRequest_cases (r : Relay) (addr : BdAddr) :
    Aside r.claims r (r.sendConnectionRequest .toDualsense addr)
      ∨ Silences r (r.sendConnectionRequest .toDualsense addr) := by
  unfold sendConnectionRequest
  by_cases haddr : addr.isSet = true
  · rw [if_pos haddr]
    extract_lets r₁
    obtain ⟨new, hout, hmodes, ⟨c, hc⟩, hcounts⟩ := page_sendCmd r₁ addr
    have hsuppressed : ∀ param what, (r₁.sendCmd .toDualsense OGF_LINK_CTL OCF_CREATE_CONN param
        what).suppressed = r₁.suppressed := fun param what ↦ by simp [suppressed]
    by_cases hclaims : r.claims addr = true
    · have hr₁ : r₁ = (r.writeScanEnable .toPlaystation SCAN_NONE).onPaging .toPlaystation
          fun p ↦ { p with scanSuppressed := true } := by
        refine if_pos ⟨rfl, ?_⟩
        simpa [claims, and_assoc] using hclaims
      have hsilent : Writes r.claims r (r.writeScanEnable .toPlaystation SCAN_NONE) [SCAN_NONE] :=
        writes_writeScanEnable r SCAN_NONE
      obtain ⟨scan, hscan, hmode, -⟩ := hsilent.out
      refine .inr ⟨⟨scan ++ new, ?_, ?_, c, List.mem_append_right _ hc, ?_⟩, ?_, ?_⟩
      · rw [hout, hr₁, out_onPaging, hscan, List.append_assoc]
      · rw [List.filterMap_append, hmode, hmodes]
        rfl
      · rw [hcounts c hc, hclaims]
      · rw [hsuppressed, hr₁]
        simp [suppressed]
      · rw [claims, Bool.and_eq_true, Bool.and_eq_true] at hclaims
        exact hclaims.1.1
    · have hr₁ : r₁ = r := by
        refine if_neg fun h ↦ hclaims ?_
        simpa [claims, and_assoc] using h.2
      refine .inl ⟨⟨new, by rw [hout, hr₁], hmodes, fun c' hc' ↦ ?_⟩, by rw [hsuppressed, hr₁]⟩
      rw [hcounts c' hc']
      exact Bool.eq_false_iff.mpr hclaims
  · rw [if_neg haddr]
    exact .inl (.refl r)

/-- A step that pages the pad and does nothing else here. -/
theorem scan_page {c : Cause} {mid : Relay} (h : Performs (Op.Within A) r mid)
    (hS : .scanning .toPlaystation ∉ A) (hC : .calling .toDualsense ∉ A) (hK : .keys ∉ A)
    (hp : mid.listening ↔ r.listening) (hc : r.endsPage c = false) (addr : BdAddr) :
    ScanMove r c (mid.sendConnectionRequest .toDualsense addr) := by
  have hmid : Aside r.claims r mid := aside_of_within h hS hC
  have hphase : (mid.sendConnectionRequest .toDualsense addr).listening ↔ r.listening :=
    (listening_eq (within_sendConnectionRequest (A := {.calling .toDualsense, .scanning .toPlaystation})
      mid .toDualsense (by simp) (fun _ ↦ by simp) addr) (by simp)).trans hp
  have hclaims : mid.claims = r.claims := claims_eq h hK
  rcases sendConnectionRequest_cases mid addr with ha | ⟨⟨new, hout, hmodes, hpage⟩, hs, hl⟩
  · rw [hclaims] at ha
    exact .of_aside (hmid.trans ha) hphase hc
  · obtain ⟨before, hbefore, hnone, -⟩ := hmid.writes.out
    refine .silenced ⟨⟨before ++ new, ?_, ?_, ?_⟩, hs, h.linked.symm.trans hl⟩ hphase hc
    · rw [hout, hbefore, List.append_assoc]
    · rw [List.filterMap_append, hnone, hmodes, List.nil_append]
    · obtain ⟨c', hc', hcounts⟩ := hpage
      exact ⟨c', List.mem_append_right _ hc', hclaims ▸ hcounts⟩

/-- A Connection Complete of the pad's side is taken for the end of a page, or for a call that failed. -/
theorem scan_pageOver (r : Relay) (status : UInt8) :
    Aside dest r (r.pageOver .toDualsense status)
        ∧ ((status == HCI_SUCCESS || !(r.h .toDualsense).links.acceptedIncoming) = true →
          r.linked = true → r.suppressed = false)
      ∨ Writes dest r (r.pageOver .toDualsense status) [SCAN_PAGE_ONLY]
        ∧ (r.pageOver .toDualsense status).suppressed = false
        ∧ (status == HCI_SUCCESS || !(r.h .toDualsense).links.acceptedIncoming) = true := by
  unfold pageOver
  dsimp only
  by_cases hfailed : status ≠ HCI_SUCCESS ∧ (r.h .toDualsense).links.acceptedIncoming = true
  · rw [if_pos hfailed]
    refine .inl ⟨?_, fun h ↦ ?_⟩
    · exact aside_of_within (A := {.linkNotes})
        (within_noteLinks r _ (by rfl) fun _ ↦ ⟨by rfl, by rfl, by rfl⟩) (by simp) (by simp)
    · simp [hfailed.1, hfailed.2] at h
  · rw [if_neg hfailed]
    have hends : (status == HCI_SUCCESS || !(r.h .toDualsense).links.acceptedIncoming) = true := by
      by_cases hs : status = HCI_SUCCESS
      · simp [hs]
      · simpa [hs] using hfailed
    by_cases hr : r.linked = true ∧ (r.h .toPlaystation).paging.scanSuppressed = true
    · rw [if_pos ⟨rfl, hr.1, hr.2⟩]
      refine .inr ⟨?_, ?_, hends⟩
      · have hclear : Writes dest r (r.onPaging .toPlaystation fun p ↦ { p with scanSuppressed := false }) [] :=
          ⟨[], by simp, rfl, by simp⟩
        exact hclear.trans (writes_writeScanEnable _ _)
      · rw [ConnectionSide.other_toDualsense, suppressed_writeScanEnable]
        simp [suppressed]
    · rw [if_neg fun h ↦ hr ⟨h.2.1, h.2.2⟩]
      exact .inl ⟨.refl r, fun _ hl ↦ Bool.eq_false_iff.mpr fun hs ↦ hr ⟨hl, hs⟩⟩

theorem scan_connectionComplete {s : ConnectionSide} {p q : PacketContents} {e : EvtConnComplete}
    (hp : EvtConnComplete.get? p = some (e, q)) :
    ScanMove r (.event s (.connectionComplete e)) (r.handleConnectionComplete s p) := by
  have hw := (Move.connectionComplete (r := r) (s := s) hp).within
  have hlistening := listening_eq hw (by simp [Cause.aspects])
  cases s with
  | toPlaystation =>
    exact .of_aside (aside_of_within hw (by simp [Cause.aspects]) (by simp [Cause.aspects])) hlistening rfl
  | toDualsense =>
    have hrest : Aside r.claims (r.pageOver .toDualsense e.status) (r.handleConnectionComplete .toDualsense p) := by
      rw [handleConnectionComplete_eq r _ hp]
      have hup := within_connected
        (A := {.links, .timing .toDualsense, .authenticating .toDualsense, .pacing .toDualsense})
        (r.pageOver .toDualsense e.status) .toDualsense (by simp) (by simp) e
      refine aside_of_within (.ite (fun _ ↦ ?_) fun _ ↦ .ite (fun _ ↦ hup) fun _ ↦ ?_) (by simp) (by simp)
      · exact within_handleConnectionFailure _ _ (by simp) _
      · exact hup.trans (within_requestAuthentication _ _ (by simp) _)
    rcases scan_pageOver r e.status with ⟨h, hc⟩ | ⟨h, hs, hc⟩
    · exact .aside (h.trans hrest) hlistening hc
    · exact .restored (h.aside hrest) (hrest.suppressed.trans hs) hlistening hc

theorem scan_currentGone (r : Relay) : Writes dest r (r.currentGone .toPlaystation) [SCAN_PAGE_ONLY]
    ∧ (r.currentGone .toPlaystation).suppressed = r.suppressed := by
  unfold currentGone
  extract_lets r₃ r₄ r₅ r₆
  have h₄ : Aside dest r ((r₄.onLinks .toPlaystation fun l ↦ { l with onPlayLink := false }).writePageScanActivity
      .toPlaystation PAGE_SCAN_INTERVAL_EAGER PAGE_SCAN_WINDOW_EAGER) := by
    refine aside_of_within (A := {.links, .pacing .toPlaystation})
      ((Reaches.trans ?_ (within_onLinks r₄ _ (by simp) _)).trans
        (within_writePageScanActivity _ _ (by simp) _ _)) (by simp) (by simp)
    exact (within_onLinks r _ (by simp) _).trans (within_clearHeld r₃ _ (by simp))
  have h₇ : Aside dest r₅ (r₆.resetChannels .toPlaystation) :=
    aside_of_within (A := {.links}) ((within_onLinks r₅ _ (by rfl) _).trans
      (within_resetChannels r₆ _ (by rfl))) (by simp) (by simp)
  refine ⟨(h₄.writes_then (writes_writeScanEnable _ _)).aside h₇, ?_⟩
  rw [h₇.suppressed, ← h₄.suppressed]
  exact suppressed_writeScanEnable _ _

theorem scan_disconnectComplete {s : ConnectionSide} {p q : PacketContents} {e : EvtDisconnComplete}
    (hp : EvtDisconnComplete.get? p = some (e, q)) :
    ScanMove r (.event s (.disconnectComplete e)) (r.handleDisconnectComplete s p) := by
  have hw := (Move.disconnectComplete (r := r) (s := s) hp).within
  have hlistening := listening_eq hw (by simp [Cause.aspects])
  cases s with
  | toDualsense =>
    exact .of_aside (aside_of_within hw (by simp [Cause.aspects]) (by simp [Cause.aspects])) hlistening rfl
  | toPlaystation =>
    have hgone : Aside r.claims r (r.linkGone .toPlaystation e.handle) :=
      aside_of_within (A := {.links}) (within_linkGone r _ (by rfl) _) (by simp) (by simp)
    rw [handleDisconnectComplete_eq r _ hp] at hlistening ⊢
    by_cases hcur : e.handle ≠ (r.h .toPlaystation).links.connectionHandle
    · rw [if_pos hcur] at hlistening ⊢
      exact .of_aside hgone hlistening rfl
    · rw [if_neg hcur] at hlistening ⊢
      obtain ⟨hwrites, hs⟩ := scan_currentGone (r.linkGone .toPlaystation e.handle)
      have htimer : ∀ a : Relay, Aside r.claims a (a.scheduleReconnect .toPlaystation
          (reconnectDelay .toPlaystation e)) := fun a ↦
        aside_of_within (A := {.timing .toPlaystation}) (within_scheduleReconnect a _ (by rfl) _) (by simp)
          (by simp)
      exact .listened ((hgone.writes_then hwrites).aside (htimer _))
        ((htimer _).suppressed.trans (hs.trans hgone.suppressed)) hlistening
        (beq_iff_eq.mpr (not_not.mp hcur)) rfl

theorem scan_connectToConsole (h : (r.h .toPlaystation).links.connectionHandle = 0) (addr : BdAddr)
    (key : LinkKey) : Writes dest r (r.connectToConsole .toPlaystation addr key) [SCAN_PAGE_ONLY]
      ∧ (r.connectToConsole .toPlaystation addr key).suppressed = r.suppressed := by
  have hidle : ((r.h .toPlaystation).links.connectionHandle == 0) = true := beq_iff_eq.mpr h
  unfold connectToConsole
  rw [hidle]
  extract_lets idle r₁ r₂ r₃ r₄ r₅
  have h₂ : Aside dest r r₂ := aside_of_within (A := {.keys})
    ((within_emit r (by exact Set.mem_singleton _)).trans (within_onPairing _ _ (by rfl) fun h ↦ by cases h)) (by simp)
      (by simp)
  have h₅ : Performs Op.Quiet r₃ r₅ :=
    ((quiet_advance r₃ 1).trans (quiet_onPaging _ _ fun _ ↦ by rfl)).trans (quiet_writePageTimeout r₄ _ _)
  have h₆ : Aside dest r₃ (r₅.sendConnectionRequest .toPlaystation (r₅.h .toPlaystation).pairing.btAddr) :=
    aside_of_within (A := {.calling .toPlaystation})
      (h₅.within.trans (within_sendConnectionRequest r₅ .toPlaystation (by rfl) nofun _)) (by simp)
        (by simp)
  rw [if_pos ⟨rfl, rfl⟩]
  refine ⟨(h₂.writes_then (writes_writeScanEnable _ _)).aside h₆, ?_⟩
  rw [h₆.suppressed, ← h₂.suppressed]
  exact suppressed_writeScanEnable _ _

theorem scan_fireHandover {s : ConnectionSide} {k : ℕ} (hk : r.tasks[k]? = some (.handover s)) :
    ScanMove r (.handover s) ((r.unpark k).fireHandover s) := by
  have hlistening := listening_eq (Move.handover hk).within (by simp [Cause.aspects])
  have hdetach : Performs (Op.Within {.endpoints, .reports}) r (r.unpark k).disableGadget :=
    (quiet_unpark r hk (by simp)).within.trans (within_disableGadget _ (by simp) (by simp))
  have hd : Aside r.claims r (r.unpark k).disableGadget := aside_of_within hdetach (by simp) (by simp)
  have hbusy : ¬ (s.other = .toPlaystation
      ∧ (((r.unpark k).disableGadget).h s.other).links.connectionHandle = 0) →
      Aside r.claims r ((r.unpark k).fireHandover s) := fun h ↦ by
    refine hd.trans ?_
    rw [fireHandover, connectToConsole_of_busy _ _ h]
    exact aside_of_within (A := {.keys}) (within_emit _ (by exact Set.mem_singleton _)) (by simp) (by simp)
  cases s with
  | toPlaystation => exact .of_aside (hbusy fun h ↦ by cases h.1) hlistening rfl
  | toDualsense =>
    by_cases hidle : (r.h .toPlaystation).links.connectionHandle = 0
    · obtain ⟨hw, hs⟩ := scan_connectToConsole (r := (r.unpark k).disableGadget) hidle
        ((r.unpark k).disableGadget.h .toDualsense).pairing.consoleAddr
        ((r.unpark k).disableGadget.h .toDualsense).pairing.consoleLinkKey
      exact .listened (hd.writes_then hw) (hs.trans hd.suppressed) hlistening (beq_iff_eq.mpr hidle) rfl
    · exact .of_aside (hbusy fun h ↦ hidle h.2) hlistening rfl

/-- Setting the adapter up makes it listen, unless it is not to. -/
theorem scan_applySideSettings (r : Relay) :
    Writes dest r (r.applySideSettings .toPlaystation) (if r.suppressed then [] else [SCAN_PAGE_ONLY])
      ∧ (r.applySideSettings .toPlaystation).suppressed = r.suppressed := by
  unfold applySideSettings applyConsoleSideIdentity
  extract_lets r₀ r₁ r₂ r₃
  have h₁ : Performs Op.Quiet r₀ r₁ :=
    .ite (fun _ ↦ (quiet_spoofBdAddr r₀ _ _).trans (quiet_sendCmd _ _ (by rfl) _ _)) fun _ ↦ .refl r₀
  have h₃ : Performs Op.Quiet r r₃ :=
    ((quiet_sendCmd r _ (by rfl) _ _).trans h₁).trans
      ((quiet_sendCmd r₁ _ (by rfl) _ _).trans (quiet_sendCmd r₂ _ (by rfl) _ _))
  have ha : Aside dest r r₃ := aside_of_within (A := ∅) h₃.within (Set.notMem_empty _) (Set.notMem_empty _)
  by_cases hs : r.suppressed = true
  · have hs₃ : (r₃.h .toPlaystation).paging.scanSuppressed = true := ha.suppressed.trans hs
    rw [if_pos hs₃, if_pos hs]
    exact ⟨ha.writes, ha.suppressed⟩
  · have hs₃ : ¬ (r₃.h .toPlaystation).paging.scanSuppressed = true := fun h ↦ hs (ha.suppressed ▸ h)
    rw [if_neg hs₃, if_neg hs]
    exact ⟨ha.writes_then (writes_writeScanEnable _ _), (suppressed_writeScanEnable _ _).trans ha.suppressed⟩

theorem scan_comingUp {s : ConnectionSide} (h : ComingUpMove r s r') : ScanMove r (.comingUp s) r' := by
  cases h with
  | waiting h hp => exact .of_aside (aside_of_within h (by simp) (by simp)) (hp _) rfl
  | up h hp hp' =>
    rename_i mid
    have hmid : Aside r.claims r mid := aside_of_within h (by simp) (by simp)
    cases s with
    | toDualsense =>
      have hset : ∀ A, .scanning .toDualsense ∈ A →
          Performs (Op.Within A) mid (mid.applySideSettings .toDualsense) := fun A hA ↦
        within_applySideSettings mid _ hA
      refine scan_page (A := {.comingUp, .pacing .toDualsense, .scanning .toDualsense})
        ((h.widen (by simp [Set.insert_subset_iff])).trans (hset _ (by simp))) (by simp) (by simp) (by simp)
          ?_ rfl _
      rw [listening_eq (hset {.scanning .toDualsense} rfl) (by simp), listening, listening, hp']
      rfl
    | toPlaystation =>
      obtain ⟨hw, hs⟩ := scan_applySideSettings mid
      rw [hmid.suppressed] at hw hs
      exact .up (hmid.writes_then hw) hs hp rfl

/-- The timer of a call fires: the pad is paged again if it is not there. -/
theorem scan_reconnect {s : ConnectionSide} {delay : Time} {k : ℕ}
    (hk : r.tasks[k]? = some (.reconnect s delay)) :
    ScanMove r (.reconnect s) ((r.unpark k).fireReconnect s) := by
  have hw := (Move.reconnect hk).within
  cases s with
  | toPlaystation =>
    exact .of_aside (aside_of_within hw (by simp [Cause.aspects]) (by simp [Cause.aspects]))
      (listening_eq hw (by simp [Cause.aspects])) rfl
  | toDualsense =>
    unfold fireReconnect
    extract_lets r₁
    have h₁ : Performs (Op.Within {.timing .toDualsense}) r r₁ :=
      (within_unparkReconnect r _ (by rfl) hk).trans (within_onReconnectPending _ _ (by rfl) false)
    have ha : Aside r.claims r r₁ := aside_of_within h₁ (by simp) (by simp)
    split
    · exact .of_aside ha (listening_eq h₁ (by simp)) rfl
    · exact scan_page h₁ (by simp) (by simp) (by simp) (listening_eq h₁ (by simp)) rfl _

/-- **What a step has to do with the scan mode.** -/
theorem scan_move (r : Relay) (i : Input) : ScanMove r (r.cause i) (r.step i) := by
  have hm := step_move r i
  have hw := hm.within
  have hup : ∀ s, r.cause i = .comingUp s → ComingUpMove r s (r.step i) := fun s ↦ comingUp_move
  revert hm hw hup
  generalize r.cause i = cause
  generalize r.step i = r'
  intro hm hw hup
  have haside : .scanning .toPlaystation ∉ cause.aspects → .calling .toDualsense ∉ cause.aspects →
      .comingUp ∉ cause.aspects → r.endsPage cause = false → ScanMove r cause r' := fun hS hC hU hc ↦
    .of_aside (aside_of_within hw hS hC) (listening_eq hw hU) hc
  cases hm with
  | quiet h hc =>
    refine haside (by simp [hc]) (by simp [hc]) (by simp [hc]) ?_
    cases cause with
    | event s e =>
      cases e with
      | connectionComplete => exact absurd hc (Set.insert_nonempty _ _).ne_empty
      | _ => cases s <;> rfl
    | _ => rfl
  | comingUp h => exact scan_comingUp (hup _ rfl)
  | connectionComplete hp => exact scan_connectionComplete hp
  | disconnectComplete hp => exact scan_disconnectComplete hp
  | handover hk => exact scan_fireHandover hk
  | reconnect hk => exact scan_reconnect hk
  | acl => refine haside ?_ ?_ ?_ rfl <;> simp [Cause.aspects, aclAspects]
  | connRequest | modeChange | linkKeyRequest | linkKeyNotify | authComplete | encryptChange | cmdStatus
  | numCompletedPackets | bufferSize =>
    refine haside ?_ ?_ ?_ (by cases ‹ConnectionSide› <;> rfl) <;> simp [Cause.aspects]
  | _ => refine haside ?_ ?_ ?_ rfl <;> simp [Cause.aspects]

end Relay

/-! ## No answer to our own page -/

/-- Nothing makes the adapter listen while a page is still out. -/
def Pages.KeepsSilent (x : Pages) (r : Relay) (i : DialInput) : Prop :=
  r.listens (r.cause i.input) = true ∨ r.endsPage (r.cause i.input) = true →
    (x.noteInput r i).total = 0

/-- The relay and the pages of the pad to the address its other adapter claims. -/
abbrev claimedStep : Relay × Pages → DialInput → Relay × Pages :=
  withHistory (fun r i ↦ r.step i.input) (Pages.note Relay.claims)

namespace Relay

variable {dest : BdAddr → Bool} {r r' : Relay}

theorem lastScan_append (out new : List Output) :
    lastScan (out ++ new) = ((new.filterMap Output.scanMode?).getLast?).or (lastScan out) := by
  rw [lastScan, List.filterMap_append, List.getLast?_append]
  rfl

theorem Writes.lastScan {modes : List UInt8} (h : Writes dest r r' modes) :
    lastScan r'.out = modes.getLast?.or (lastScan r.out) := by
  obtain ⟨new, hout, hmodes, -⟩ := h.out
  rw [hout, lastScan_append, hmodes]

/-- A step that only gives scan modes adds no page. -/
theorem Writes.total_note_le {i : DialInput} {modes : List UInt8}
    (h : Writes r.claims r (r.step i.input) modes)
    (x : Pages) : (x.note Relay.claims r i).total ≤ (x.noteInput r i).total := by
  obtain ⟨new, hout, -, hpage⟩ := h.out
  refine Pages.total_note_le fun c hc ↦ ?_
  rw [added_eq hout] at hc
  exact hpage c hc

end Relay

/-- While a page is out, the adapter is not to listen and was told so last. -/
def Pages.Silent (x : Pages) (r : Relay) : Prop :=
  0 < x.total → r.suppressed = true ∧ lastScan r.out = some SCAN_NONE

theorem Pages.Silent.step {x : Pages} {r : Relay} {i : DialInput} (h : x.Silent r)
    (hok : x.KeepsSilent r i) : (x.note Relay.claims r i).Silent (r.step i.input) := by
  have hinput := x.total_noteInput_le r i
  have hkept : ∀ {modes}, Writes r.claims r (r.step i.input) modes → (modes ≠ [] → r.suppressed = true → False) →
      (r.step i.input).suppressed = r.suppressed →
      (x.note Relay.claims r i).Silent (r.step i.input) := fun {modes} hw hmodes hs hpos ↦ by
    obtain ⟨hsup, hlast⟩ := h (hpos.trans_le ((hw.total_note_le x).trans hinput))
    obtain rfl : modes = [] := by_contra fun hne ↦ hmodes hne hsup
    exact ⟨hs.trans hsup, hw.lastScan.trans hlast⟩
  have hover : ∀ {modes}, Writes r.claims r (r.step i.input) modes → (x.noteInput r i).total = 0 →
      (x.note Relay.claims r i).Silent (r.step i.input) := fun hw hzero hpos ↦ by
    have := hw.total_note_le x
    omega
  have hm := scan_move r i.input
  cases hm with
  | aside ha => exact hkept ha.writes (absurd rfl) ha.suppressed
  | restored hw _ _ hc => exact hover hw (hok (.inr hc))
  | listened hw _ _ hc => exact hover hw (hok (.inl hc))
  | up hw hs =>
    refine hkept hw (fun hne hsup ↦ hne ?_) hs
    rw [if_pos hsup]
  | silenced hsil =>
    obtain ⟨⟨new, hout, hmodes, -⟩, hs, -⟩ := hsil
    refine fun _ ↦ ⟨hs, ?_⟩
    rw [hout, lastScan_append, hmodes]
    rfl

/-- **The console-facing adapter does not answer our own page.**  While a page of the address it claims is
out, the last scan mode it was given is none, if nothing makes it listen while a page is still out. -/
theorem own_page_unanswered (c : Config) (is : List DialInput)
    (h : Along claimedStep (fun p i ↦ p.2.KeepsSilent p.1 i) (.init c, {}) is)
    (hout : 0 < (run claimedStep (.init c, {}) is).2.total) :
    lastScan (run claimedStep (.init c, {}) is).1.out = some SCAN_NONE := by
  let Inv (p : Relay × Pages) : Prop := p.2.Silent p.1
  have hinit : Inv (.init c, {}) := fun hpos ↦ absurd hpos (Nat.lt_irrefl 0)
  have hstep : ∀ p i, Inv p → p.2.KeepsSilent p.1 i → Inv (claimedStep p i) := fun _ _ hp hok ↦ hp.step hok
  exact (run_invariant_of_along hinit hstep h hout).2

/-- The console has called, and the pad is paged. -/
def calledAndPaging : List DialInput :=
  (Input.bringUp .toPlaystation ++ Input.incomingCall .toPlaystation ⟨7, 7, 7, 7, 7, 7⟩ 1
    ++ Input.bringUp .toDualsense ++ [Input.commandRoom .toDualsense]).map ({ input := · })

/-- A second adapter, a pad and a console. -/
def consolePaired : Config :=
  { dsAddr := ⟨1, 2, 3, 4, 5, 6⟩, consolePairing := some (⟨7, 7, 7, 7, 7, 7⟩, .zero) }

instance (x : Pages) (r : Relay) (i : DialInput) : Decidable (x.KeepsSilent r i) :=
  inferInstanceAs (Decidable (_ → _))

def whilePaging : Relay × Pages := run claimedStep (.init consolePaired, {}) calledAndPaging

theorem own_page_unanswered_paging : 0 < whilePaging.2.total ∧ lastScan whilePaging.1.out = some SCAN_NONE :=
  have hpaging : 0 < whilePaging.2.total := by decide +kernel
  ⟨hpaging, own_page_unanswered _ _ (by decide +kernel) hpaging⟩

/-- The console hangs up while the pad is paged. -/
def hangUpWhilePaging : List DialInput :=
  calledAndPaging ++ [{ input := .hangUp .toPlaystation 1 DISCONNECT_REMOTE_USER }]

/-- The adapter then listens, and answers the page. -/
theorem own_page_unanswered_hang_up :
    Along diallingStep (fun p i ↦ p.2.Plausible p.1 i) (.init consolePaired, {}) hangUpWhilePaging
      ∧ 0 < (run claimedStep (.init consolePaired, {}) hangUpWhilePaging).2.total
      ∧ lastScan (run claimedStep (.init consolePaired, {}) hangUpWhilePaging).1.out ≠ some SCAN_NONE := by
  decide +kernel

/-! ## Never deaf -/

/-- The pages of the pad to the address the other adapter claims, and the last scan mode that adapter was
given since it came up. -/
structure Heard where
  pages : Pages := {}
  mode : Option UInt8 := none

instance (r : Relay) : Decidable r.listening := inferInstanceAs (Decidable (_ = _))

namespace Heard

def note (x : Heard) (r : Relay) (i : DialInput) : Heard where
  pages := x.pages.note Relay.claims r i
  mode := (lastScan (r.added i.input)).or (if r.listening then x.mode else none)

/-- The last page ends with a Connection Complete that is taken for its own: it is not refused and not given
up on; and the pages that cannot be written are fewer than those that are out and those the step issues. -/
structure Restores (x : Heard) (r : Relay) (i : DialInput) : Prop where
  ends : r.suppressed = true → r.endsPage (r.cause i.input) = false →
    0 < (x.pages.noteInput r i).outstanding
  written : (r.added i.input).countP (Output.dropsPage r.claims) = 0
    ∨ (r.added i.input).countP (Output.dropsPage r.claims)
      < (x.pages.noteInput r i).outstanding + (r.added i.input).countP (Output.issuesPage r.claims)

/-- The adapter is to listen when no page is out, and was told so last. -/
def Listens (x : Heard) (r : Relay) : Prop :=
  x.pages.outstanding = 0 →
    r.suppressed = false ∧ (r.listening → x.mode = some SCAN_PAGE_ONLY)

/-- It is silenced for a page only. -/
structure Silenced (x : Heard) (r : Relay) : Prop where
  paged : r.suppressed = true → 0 < x.pages.outstanding ∧ r.linked = true
  listens : r.suppressed = false → r.listening → x.mode = some SCAN_PAGE_ONLY

theorem Silenced.listens_of {x : Heard} {r : Relay} (h : x.Silenced r) : x.Listens r := fun hzero ↦ by
  have hs : r.suppressed = false := Bool.eq_false_iff.mpr fun hs ↦ by
    have := (h.paged hs).1
    omega
  exact ⟨hs, h.listens hs⟩

variable {x : Heard} {r : Relay} {i : DialInput}

/-- A page that is out, or issued, is out behind the step. -/
theorem outstanding_note (hok : x.Restores r i)
    (h : 0 < (x.pages.noteInput r i).outstanding + (r.added i.input).countP (Output.issuesPage r.claims)) :
    0 < (x.note r i).pages.outstanding := by
  have hle := Pages.outstanding_run_observe r.claims (x.pages.noteInput r i) (r.added i.input)
  change 0 < (run (Pages.observe r.claims) (x.pages.noteInput r i) (r.added i.input)).outstanding
  rcases hok.written with hnone | hfewer
  · omega
  · omega

theorem mode_note {modes : List UInt8} (h : Writes r.claims r (r.step i.input) modes) :
    (x.note r i).mode = modes.getLast?.or (if r.listening then x.mode else none) := by
  obtain ⟨new, hout, hmodes, -⟩ := h.out
  rw [note, added_eq hout, lastScan, hmodes]

theorem Silenced.step (h : x.Silenced r) (hok : x.Restores r i) : (x.note r i).Silenced (r.step i.input) := by
  -- the last page is not over while the adapter is silenced, unless it is restored
  have hpaged : r.endsPage (r.cause i.input) = false → r.suppressed = true →
      0 < (x.note r i).pages.outstanding := fun hends hs ↦
    outstanding_note hok (Nat.add_pos_left (hok.ends hs hends) _)
  have hlinked : (r.step i.input).linked = r.linked := (step_move r i.input).within.linked
  have hm := scan_move r i.input
  generalize hc : r.cause i.input = cause at hm
  rw [hc] at hpaged
  cases hm with
  | aside ha hp hends =>
    refine ⟨fun hs ↦ ?_, fun hs hl ↦ ?_⟩
    · rw [ha.suppressed] at hs
      have hl := (h.paged hs).2
      refine ⟨hpaged (Bool.eq_false_iff.mpr fun he ↦ ?_) hs, hlinked.trans hl⟩
      exact absurd hs (Bool.eq_false_iff.mp (hends he hl))
    · rw [mode_note ha.writes, if_pos (hp.mp hl)]
      exact h.listens (ha.suppressed.symm.trans hs) (hp.mp hl)
  | silenced hsil hp hends =>
    obtain ⟨⟨new, hout, -, c, hc', hcounts⟩, hs, hl⟩ := hsil
    refine ⟨fun _ ↦ ⟨outstanding_note hok (Nat.add_pos_right _ ?_), hlinked.trans hl⟩, fun hs' ↦ ?_⟩
    · rw [added_eq hout]
      exact List.countP_pos_iff.mpr ⟨_, hc', hcounts⟩
    · rw [hs] at hs'
      cases hs'
  | restored hw hs hp =>
    refine ⟨fun hs' ↦ ?_, fun _ _ ↦ mode_note hw⟩
    rw [hs] at hs'
    cases hs'
  | listened hw hs hp _ hends =>
    refine ⟨fun hs' ↦ ?_, fun _ _ ↦ mode_note hw⟩
    rw [hs] at hs'
    exact ⟨hpaged hends hs', hlinked.trans (h.paged hs').2⟩
  | up hw hs hp hends =>
    refine ⟨fun hs' ↦ ?_, fun hs' _ ↦ ?_⟩
    · rw [hs] at hs'
      exact ⟨hpaged hends hs', hlinked.trans (h.paged hs').2⟩
    · rw [mode_note hw, if_neg (Bool.eq_false_iff.mp (hs.symm.trans hs'))]
      rfl

end Heard

/-- The relay and what its console-facing adapter was told. -/
abbrev heardStep : Relay × Heard → DialInput → Relay × Heard :=
  withHistory (fun r i ↦ r.step i.input) Heard.note

/-- **The console-facing adapter is never left deaf.**  When no page of the address it claims is
outstanding it listens, if the last page always ends with a Connection Complete taken for its own. -/
theorem never_deaf (c : Config) (is : List DialInput)
    (h : Along heardStep (fun p i ↦ p.2.Restores p.1 i) (.init c, {}) is) :
    (run heardStep (.init c, {}) is).2.Listens (run heardStep (.init c, {}) is).1 := by
  let Inv (p : Relay × Heard) : Prop := p.2.Silenced p.1
  have hinit : Inv (.init c, {}) := ⟨nofun, fun _ ↦ nofun⟩
  have hstep : ∀ p i, Inv p → p.2.Restores p.1 i → Inv (heardStep p i) := fun _ _ hp hok ↦ hp.step hok
  exact (run_invariant_of_along hinit hstep h : Inv _).listens_of

instance (x : Heard) (r : Relay) (i : DialInput) : Decidable (x.Restores r i) :=
  decidable_of_iff ((r.suppressed = true → r.endsPage (r.cause i.input) = false →
      0 < (x.pages.noteInput r i).outstanding)
    ∧ ((r.added i.input).countP (Output.dropsPage r.claims) = 0
      ∨ (r.added i.input).countP (Output.dropsPage r.claims)
        < (x.pages.noteInput r i).outstanding + (r.added i.input).countP (Output.issuesPage r.claims)))
    ⟨fun h ↦ ⟨h.1, h.2⟩, fun h ↦ ⟨h.ends, h.written⟩⟩

/-- The pad answers the page. -/
def pageAnswered : List DialInput :=
  calledAndPaging ++ [⟨.connComplete .toDualsense HCI_SUCCESS 2 ⟨1, 2, 3, 4, 5, 6⟩, true⟩]

def behindPage : Relay × Heard := run heardStep (.init consolePaired, {}) pageAnswered

theorem never_deaf_answered :
    behindPage.2.pages.outstanding = 0 ∧ behindPage.1.listening ∧ behindPage.2.mode = some SCAN_PAGE_ONLY :=
  have hover : behindPage.2.pages.outstanding = 0 ∧ behindPage.1.listening := by decide +kernel
  ⟨hover.1, hover.2, (never_deaf _ _ (by decide +kernel) hover.1).2 hover.2⟩

/-- A Command Status for a Create Connection. -/
def Input.pageStatus (s : ConnectionSide) (status : UInt8) : Input :=
  .event s EVT_CMD_STATUS ([status, 0x01] ++ put16 (cmdOpcodePack OGF_LINK_CTL OCF_CREATE_CONN))

/-- The page is refused at its Command Status: the controller has no room for another connection. -/
def pageRefused : List DialInput := calledAndPaging ++ [{ input := .pageStatus .toDualsense 0x0d }]

def behindRefusal : Relay × Heard := run heardStep (.init consolePaired, {}) pageRefused

/-- The adapter stays deaf. -/
theorem never_deaf_refused :
    Along diallingStep (fun p i ↦ p.2.Plausible p.1 i) (.init consolePaired, {}) pageRefused
      ∧ ¬ behindRefusal.2.Listens behindRefusal.1 := by
  refine ⟨by decide +kernel, fun h ↦ ?_⟩
  have hsuppressed : behindRefusal.1.suppressed = true := by decide +kernel
  have hlistens := h (by decide +kernel)
  rw [hsuppressed] at hlistens
  cases hlistens.1

end DualSenseMitm
