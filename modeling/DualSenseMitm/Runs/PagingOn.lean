import DualSenseMitm.Runs.DeadLinks
import DualSenseMitm.Runs.Listening

/-!
# The pad is called again

Once the pad has been paged, something must always be under way while its link is down: a page, or the
timer of the next one.  A page ends with a Connection Complete or a Command Status, and either is
answered for a few status codes only.

* `timer_step` — the timer that is pending is parked, until it fires; and what starts it.
* `page_move` — a page is issued by a handler that comes up and by the timer, and by nothing else.
* `paging_goes_on` — a page is out or a timer is parked while the link is down, as long as each event
  that ends the last page is one that is answered.
-/

set_option autoImplicit false

namespace DualSenseMitm

open Bytes Machine Relay

namespace Relay

variable {r r' : Relay}

/-! ## The timer of the next call -/

/-- A timer that is pending is parked. -/
def TimerKept (r : Relay) (s : ConnectionSide) : Prop :=
  (r.h s).paging.reconnectPending = true → r.parked s

/-- An event of the pad's side that brings a link up, or that leaves the timer of the next call behind. -/
def callsAgain (r : Relay) : Cause → Bool
  | .event .toDualsense (.connectionComplete e) =>
    e.status == HCI_SUCCESS
      || (r.h .toDualsense).pairing.btAddr.isSet && e.bdaddr == (r.h .toDualsense).pairing.btAddr
        && (e.status == HCI_PAGE_TIMEOUT || e.status == HCI_REJECTED_PERSONAL)
  | .event .toDualsense (.disconnectComplete e) =>
    e.handle == (r.h .toDualsense).links.connectionHandle
  | .event .toDualsense (.cmdStatus e) =>
    e.status == HCI_ACL_CONNECTION_EXISTS && e.opcode == cmdOpcodePack OGF_LINK_CTL OCF_CREATE_CONN
      && (r.h .toDualsense).links.connectionHandle == 0 && !(r.h .toDualsense).paging.staleLinkReset
  | _ => false

theorem TimerKept.of_within {A : Set Aspect} {s : ConnectionSide} (h : r.TimerKept s)
    (hw : Performs (Op.Within A) r r') (hT : .timing s ∉ A) : r'.TimerKept s := fun hp ↦ by
  rw [reconnectPending_eq hw s hT] at hp
  exact (parked_eq hw s hT).mpr (h hp)

/-- Behind `schedule_reconnect` a timer is parked, whether there was one or not. -/
theorem parked_scheduleReconnect {s : ConnectionSide} (h : r.TimerKept s) (delay : Time) :
    (r.scheduleReconnect s delay).parked s := by
  unfold scheduleReconnect
  by_cases hp : (r.h s).paging.reconnectPending = true
  · rw [if_pos hp]
    exact h hp
  · rw [if_neg hp]
    exact ⟨delay, List.mem_append_right _ (List.mem_singleton_self _)⟩

/-- What a step has to do with the timer of the pad's next call. -/
structure TimerMove (r : Relay) (c : Cause) (r' : Relay) : Prop where
  kept : r'.TimerKept .toDualsense
  parked : c ≠ .reconnect .toDualsense → r.parked .toDualsense → r'.parked .toDualsense
  started : r.callsAgain c = true → r'.Live .toDualsense ∨ r'.parked .toDualsense

theorem timer_of_within {A : Set Aspect} {c : Cause} (h : r.TimerKept .toDualsense)
    (hw : Performs (Op.Within A) r r') (hT : .timing .toDualsense ∉ A) (hc : r.callsAgain c = false) :
    TimerMove r c r' :=
  ⟨h.of_within hw hT, fun _ ↦ (parked_eq hw _ hT).mpr, fun h ↦ by rw [hc] at h; cases h⟩

/-- Whatever comes first, the timer is started in the end. -/
theorem timer_of_schedule {A : Set Aspect} {c : Cause} {mid : Relay} (h : r.TimerKept .toDualsense)
    (hw : Performs (Op.Within A) r mid) (hT : .timing .toDualsense ∉ A) (delay : Time) :
    TimerMove r c (mid.scheduleReconnect .toDualsense delay) := by
  have hparked := parked_scheduleReconnect (h.of_within hw hT) delay
  exact ⟨fun _ ↦ hparked, fun _ _ ↦ hparked, fun _ ↦ .inr hparked⟩

theorem timer_connectionComplete {p : PacketContents} {e : EvtConnComplete × PacketContents}
    (hp : EvtConnComplete.get? p = some e) (h : r.TimerKept .toDualsense) :
    TimerMove r (.event .toDualsense (.connectionComplete e.1)) (r.handleConnectionComplete .toDualsense p) := by
  have hover : Performs (Op.Within {.linkNotes, .scanning .toPlaystation}) r
      (r.pageOver .toDualsense e.1.status) :=
    within_pageOver r .toDualsense (by simp) (fun _ ↦ by simp) _
  have hpairing := pairing_eq hover .toDualsense (by simp)
  by_cases hs : e.1.status = HCI_SUCCESS
  · have hlinks := openLinks_handleConnectionComplete r .toDualsense .toDualsense hp
    rw [linksAfter, if_pos ⟨rfl, hs⟩] at hlinks
    obtain ⟨hcurrent, hopen⟩ := Prod.mk.inj hlinks
    have hup : Performs (Op.Within
        {.links, .linkNotes, .scanning .toPlaystation, .authenticating .toDualsense, .pacing .toDualsense}) r
        (r.handleConnectionComplete .toDualsense p) := by
      rw [handleConnectionComplete_eq r _ hp, if_neg (not_not_intro hs)]
      have hconnected := (within_pageOver r .toDualsense (by simp) (fun _ ↦ by simp) e.1.status).trans
        (within_connected
          (A := {.links, .linkNotes, .scanning .toPlaystation, .authenticating .toDualsense, .pacing .toDualsense})
          _ .toDualsense (by simp) (by simp) e.1)
      exact .ite (fun _ ↦ hconnected) fun _ ↦
        hconnected.trans (within_requestAuthentication _ _ (by simp) _)
    refine ⟨h.of_within hup (by simp), fun _ ↦ (parked_eq hup _ (by simp)).mpr, fun _ ↦ .inl ?_⟩
    rw [Live, hcurrent, hopen]
    exact Finset.mem_insert_self _ _
  · rw [handleConnectionComplete_eq r _ hp, if_pos hs, handleConnectionFailure, hpairing]
    by_cases haddr : (r.h .toDualsense).pairing.btAddr.isSet = true ∧ e.1.bdaddr = (r.h .toDualsense).pairing.btAddr
    · rw [if_pos haddr]
      by_cases hretry : e.1.status = HCI_PAGE_TIMEOUT ∨ e.1.status = HCI_REJECTED_PERSONAL
      · rw [if_pos hretry]
        exact timer_of_schedule h hover (by simp) _
      · rw [if_neg hretry]
        exact timer_of_within h hover (by simp) (by simp [callsAgain, hs, not_or.mp hretry])
    · rw [if_neg haddr]
      refine timer_of_within h hover (by simp) (Bool.eq_false_iff.mpr fun hc ↦ haddr ?_)
      simp only [callsAgain, Bool.or_eq_true, Bool.and_eq_true, beq_iff_eq] at hc
      exact (hc.resolve_left hs).1

theorem timer_disconnectComplete {p : PacketContents} {e : EvtDisconnComplete × PacketContents}
    (hp : EvtDisconnComplete.get? p = some e) (h : r.TimerKept .toDualsense) :
    TimerMove r (.event .toDualsense (.disconnectComplete e.1)) (r.handleDisconnectComplete .toDualsense p) := by
  rw [handleDisconnectComplete_eq r _ hp]
  have hgone : Performs (Op.Within {.links, .pacing .toDualsense}) r (r.linkGone .toDualsense e.1.handle) :=
    within_linkGone r _ (by simp) _
  by_cases hcur : e.1.handle = (r.h .toDualsense).links.connectionHandle
  · rw [if_neg (not_not_intro hcur)]
    exact timer_of_schedule h (hgone.trans (within_currentGone _ .toDualsense (by simp) nofun (by simp))) (by simp) _
  · rw [if_pos hcur]
    exact timer_of_within h hgone (by simp) (beq_eq_false_iff_ne.mpr hcur)

theorem timer_cmdStatus {p : PacketContents} {e : EvtCmdStatus × PacketContents}
    (hp : EvtCmdStatus.get? p = some e) (h : r.TimerKept .toDualsense) :
    TimerMove r (.event .toDualsense (.cmdStatus e.1)) (r.handleCmdStatus .toDualsense p) := by
  unfold handleCmdStatus
  rw [hp]
  dsimp -zeta only
  extract_lets r₁
  have h₁ : Performs Op.Quiet r r₁ := quiet_commandAnswered r _ _
  have hlinks := links_eq (A := ∅) h₁.within .toDualsense (Set.notMem_empty _) (Set.notMem_empty _)
  have hreset := staleLinkReset_eq (A := ∅) h₁.within .toDualsense (Set.notMem_empty _)
  have hstays : r.callsAgain (.event .toDualsense (.cmdStatus e.1)) = false →
      TimerMove r (.event .toDualsense (.cmdStatus e.1)) r₁ :=
    timer_of_within (A := ∅) h h₁.within (Set.notMem_empty _)
  rw [hlinks]
  by_cases hexists : e.1.status = HCI_ACL_CONNECTION_EXISTS
      ∧ e.1.opcode = cmdOpcodePack OGF_LINK_CTL OCF_CREATE_CONN
      ∧ (r.h .toDualsense).links.connectionHandle = 0
  · rw [if_pos hexists, sweepStaleLinks, hreset]
    by_cases hdone : (r.h .toDualsense).paging.staleLinkReset = true
    · rw [if_pos hdone]
      exact hstays (by simp [callsAgain, hdone])
    · rw [if_neg hdone]
      extract_lets r₂ r₃
      have h₂ : Performs (Op.Within {.closing}) r r₂ :=
        h₁.within.trans (within_onPaging r₁ _ (.inr (by rfl)) (.inl fun _ ↦ rfl) (.inl fun _ ↦ rfl))
      have h₃ : Performs (Op.Within {.closing}) r r₃ :=
        h₂.trans (.foldl _ sweepHandles (fun r handle _ ↦ within_disconnect r _ (by rfl) handle) r₂)
      exact timer_of_schedule h (h₃.trans (quiet_spawn r₃ (by rfl)).within) (by simp) _
  · rw [if_neg hexists]
    refine hstays (Bool.eq_false_iff.mpr fun hc ↦ hexists ?_)
    simp only [callsAgain, Bool.and_eq_true, beq_iff_eq] at hc
    exact ⟨hc.1.1.1, hc.1.1.2, hc.1.2⟩

theorem timer_fireReconnect (r mid : Relay) :
    TimerMove r (.reconnect .toDualsense) (mid.fireReconnect .toDualsense) := by
  refine ⟨fun hp ↦ ?_, fun h ↦ absurd rfl h, nofun⟩
  unfold fireReconnect at hp
  extract_lets r₁ at hp
  have hcleared : ∀ r', Performs (Op.Within {.calling .toDualsense, .scanning .toPlaystation}) r₁ r' →
      (r'.h .toDualsense).paging.reconnectPending = false := fun r' hw ↦ by
    rw [reconnectPending_eq hw _ (by simp)]
    simp [r₁]
  rw [hcleared _ (.ite (fun _ ↦ .refl r₁) fun _ ↦ within_sendConnectionRequest r₁ _ (by simp)
    (fun _ ↦ by simp) _)] at hp
  cases hp

/-- **The timer of the next call.** -/
theorem timer_step (h : r.TimerKept .toDualsense) (i : Input) : TimerMove r (r.cause i) (r.step i) := by
  have hm := step_move r i
  have hw := hm.within
  revert hm hw
  generalize r.cause i = cause
  generalize r.step i = r'
  intro hm hw
  cases hm with
  | quiet hq hc =>
    refine timer_of_within h hw (by simp [hc]) ?_
    cases cause with
    | event s e =>
      cases e with
      | connectionComplete => exact absurd hc (Set.insert_nonempty _ _).ne_empty
      | disconnectComplete => exact absurd hc (Set.insert_nonempty _ _).ne_empty
      | cmdStatus => exact absurd hc (Set.insert_nonempty _ _).ne_empty
      | _ => cases s <;> rfl
    | _ => rfl
  | connectionComplete hp =>
    rename_i s _ _ _
    cases s with
    | toDualsense => exact timer_connectionComplete hp h
    | toPlaystation => exact timer_of_within h hw (by simp [Cause.aspects]) rfl
  | disconnectComplete hp =>
    rename_i s _ _ _
    cases s with
    | toDualsense => exact timer_disconnectComplete hp h
    | toPlaystation => exact timer_of_within h hw (by simp [Cause.aspects]) rfl
  | cmdStatus hp =>
    rename_i s _ _ _
    cases s with
    | toDualsense => exact timer_cmdStatus hp h
    | toPlaystation => exact timer_of_within h hw (by simp [Cause.aspects]) rfl
  | reconnect hk =>
    rename_i s _ _
    cases s with
    | toDualsense => exact timer_fireReconnect r _
    | toPlaystation => exact timer_of_within h hw (by simp [Cause.aspects]) rfl
  | acl => exact timer_of_within h hw (by simp [Cause.aspects, aclAspects]) rfl
  | connRequest | modeChange | linkKeyRequest | linkKeyNotify | authComplete | encryptChange
  | numCompletedPackets | bufferSize =>
    exact timer_of_within h hw (by simp [Cause.aspects]) (by cases ‹ConnectionSide› <;> rfl)
  | _ => exact timer_of_within h hw (by simp [Cause.aspects]) rfl

/-! ## What pages the pad -/

/-- What a step has to do with the pages of the pad. -/
inductive PageMove (r : Relay) : Cause → Relay → Prop
  | none {c r'} (h : ∃ new, r'.out = r.out ++ new
        ∧ ∀ k, .cmdIssued .toDualsense k ∈ new → callsPeer k.ogf k.ocf = false)
      (hc : c = .reconnect .toDualsense → (r.h .toDualsense).pairing.btAddr.isSet = true →
        (r.h .toDualsense).links.connectionHandle ≠ 0) : PageMove r c r'
  | paged {c r' k} (h : ∃ new, r'.out = r.out ++ new ∧ .cmdIssued .toDualsense k ∈ new)
      (hk : callsPeer k.ogf k.ocf = true) (haddr : (r.h .toDualsense).pairing.btAddr.isSet = true) :
      PageMove r c r'

theorem page_of_within {A : Set Aspect} {c : Cause} (hw : Performs (Op.Within A) r r')
    (hC : .calling .toDualsense ∉ A)
    (hc : c = .reconnect .toDualsense → (r.h .toDualsense).pairing.btAddr.isSet = true →
      (r.h .toDualsense).links.connectionHandle ≠ 0) : PageMove r c r' := by
  obtain ⟨new, hout, hnew⟩ := hw.out
  refine .none ⟨new, hout, fun k hk ↦ Bool.eq_false_iff.mpr fun hcalls ↦ ?_⟩ hc
  exact hC (((hnew _ hk).within rfl rfl).calling hcalls)

theorem page_of_other {A : Set Aspect} {c : Cause} (hw : Performs (Op.Within A) r r')
    (hC : .calling .toDualsense ∉ A) (hc : c ≠ .reconnect .toDualsense) : PageMove r c r' :=
  page_of_within hw hC fun h ↦ absurd h hc

/-- A call to the pad's address, if that is known. -/
theorem page_sendConnectionRequest {A : Set Aspect} {c : Cause} {mid : Relay}
    (hw : Performs (Op.Within A) r mid) (hC : .calling .toDualsense ∉ A) :
    PageMove r c (mid.sendConnectionRequest .toDualsense (mid.h .toDualsense).pairing.btAddr) := by
  rw [padAddr_eq hw]
  unfold sendConnectionRequest
  by_cases haddr : (r.h .toDualsense).pairing.btAddr.isSet = true
  · rw [if_pos haddr]
    extract_lets r₁
    have h₁ : Performs (Op.Within {.scanning .toPlaystation}) mid r₁ := .ite
      (fun _ ↦ (within_writeScanEnable mid _ (by rfl) _).trans (within_onScanSuppressed _ _ (by rfl) true))
      fun _ ↦ .refl mid
    obtain ⟨before, hbefore, -⟩ := hw.out
    obtain ⟨scan, hscan, -⟩ := h₁.out
    obtain ⟨new, hout, -, ⟨k, hk⟩, hcounts⟩ := page_sendCmd r₁ (r.h .toDualsense).pairing.btAddr
    refine .paged ⟨before ++ (scan ++ new), ?_, ?_⟩ (k := k) ?_ haddr
    · rw [hout, hscan, hbefore]
      simp only [List.append_assoc]
    · exact List.mem_append_right _ (List.mem_append_right _ hk)
    · have hall := hcounts k hk fun _ ↦ true
      rwa [Pages.counts, Bool.and_true] at hall
  · rw [if_neg haddr]
    exact page_of_within hw hC fun _ h ↦ absurd h haddr

theorem page_comingUp {s : ConnectionSide} (h : ComingUpMove r s r') : PageMove r (.comingUp s) r' := by
  cases h with
  | waiting h hp => exact page_of_other h (by simp) (by simp)
  | up h hp hp' =>
    rename_i mid
    cases s with
    | toDualsense =>
      have hset : Performs (Op.Within {.comingUp, .pacing .toDualsense, .scanning .toDualsense}) mid
          (mid.applySideSettings .toDualsense) := within_applySideSettings mid _ (by simp)
      exact page_sendConnectionRequest (A := {.comingUp, .pacing .toDualsense, .scanning .toDualsense})
        ((h.widen (by simp [Set.insert_subset_iff])).trans hset) (by simp)
    | toPlaystation =>
      have hset : Performs (Op.Within {.comingUp, .pacing .toPlaystation, .scanning .toPlaystation}) mid
          (mid.applySideSettings .toPlaystation) := within_applySideSettings mid _ (by simp)
      exact page_of_other (A := {.comingUp, .pacing .toPlaystation, .scanning .toPlaystation})
        ((h.widen (by simp [Set.insert_subset_iff])).trans hset) (by simp) (by simp)

theorem page_reconnect {s : ConnectionSide} {delay : Time} {k : ℕ}
    (hk : r.tasks[k]? = some (.reconnect s delay)) :
    PageMove r (.reconnect s) ((r.unpark k).fireReconnect s) := by
  have hw := (Move.reconnect hk).within
  cases s with
  | toPlaystation => exact page_of_other hw (by simp [Cause.aspects]) (by simp)
  | toDualsense =>
    unfold fireReconnect
    extract_lets r₁
    have h₁ : Performs (Op.Within {.timing .toDualsense}) r r₁ :=
      (within_unparkReconnect r _ (by rfl) hk).trans (within_onReconnectPending _ _ (by rfl) false)
    have hlinks := links_eq h₁ .toDualsense (by simp) (by simp)
    rw [hlinks]
    by_cases hup : (r.h .toDualsense).links.connectionHandle ≠ 0
    · rw [if_pos hup]
      exact page_of_within h₁ (by simp) fun _ _ ↦ hup
    · rw [if_neg hup]
      exact page_sendConnectionRequest h₁ (by simp)

/-- The handover calls the console and nobody else. -/
theorem page_handover {s : ConnectionSide} {k : ℕ} (hk : r.tasks[k]? = some (.handover s)) :
    PageMove r (.handover s) ((r.unpark k).fireHandover s) := by
  cases s with
  | toDualsense => exact page_of_other (Move.handover hk).within (by simp [Cause.aspects]) (by simp)
  | toPlaystation =>
    have hdetach : Performs (Op.Within {.endpoints, .reports, .keys}) r (r.unpark k).disableGadget :=
      (quiet_unpark r hk (by simp)).within.trans (within_disableGadget _ (by simp) (by simp))
    rw [fireHandover, connectToConsole_of_busy _ ConnectionSide.toPlaystation.other fun h ↦ by cases h.1]
    refine page_of_other (hdetach.trans (within_emit _ ?_)) (by simp) (by simp)
    exact Or.inr (Or.inr rfl)

/-- **What pages the pad.** -/
theorem page_move (r : Relay) (i : Input) : PageMove r (r.cause i) (r.step i) := by
  have hm := step_move r i
  have hw := hm.within
  have hup : ∀ s, r.cause i = .comingUp s → ComingUpMove r s (r.step i) := fun s ↦ comingUp_move
  revert hm hw hup
  generalize r.cause i = cause
  generalize r.step i = r'
  intro hm hw hup
  cases hm with
  | quiet h hc =>
    refine page_of_within hw (by simp [hc]) ?_
    rintro rfl
    exact absurd hc (Set.insert_nonempty _ _).ne_empty
  | comingUp h => exact page_comingUp (hup _ rfl)
  | reconnect hk => exact page_reconnect hk
  | handover hk => exact page_handover hk
  | acl => exact page_of_other hw (by simp [Cause.aspects, aclAspects]) (by simp)
  | _ => exact page_of_other hw (by simp [Cause.aspects]) (by simp)

end Relay

/-! ## A call is under way -/

/-- The pages of the pad, and whether there was one. -/
structure Calling where
  pages : Pages := {}
  begun : Bool := false

namespace Calling

/-- A page of the pad. -/
def isPage : Output → Bool
  | .cmdIssued .toDualsense c => callsPeer c.ogf c.ocf
  | _ => false

def note (x : Calling) (r : Relay) (i : DialInput) : Calling where
  pages := x.pages.note (fun _ _ ↦ true) r i
  begun := x.begun || (r.added i.input).any isPage

/-- After the first page, a page is out or a timer is parked while the link is down. -/
def GoesOn (x : Calling) (r : Relay) : Prop :=
  x.begun = true → ¬ r.Live .toDualsense → 0 < x.pages.total ∨ r.parked .toDualsense

/-- The link is up, or the timer runs, or the step starts it; otherwise the step does not end the last page, and
the pages that cannot be written are fewer than those that are out and those it issues. -/
def CallsOn (x : Calling) (r : Relay) (i : DialInput) : Prop :=
  r.Live .toDualsense
    ∨ r.parked .toDualsense ∧ r.cause i.input ≠ .reconnect .toDualsense
    ∨ r.callsAgain (r.cause i.input) = true
    ∨ (0 < x.pages.total → 0 < (x.pages.noteInput r i).total)
      ∧ ((r.added i.input).countP (Output.dropsPage fun _ ↦ true) = 0
        ∨ (r.added i.input).countP (Output.dropsPage fun _ ↦ true)
          < (x.pages.noteInput r i).total + (r.added i.input).countP (Output.issuesPage fun _ ↦ true))

/-- What is so in every state. -/
structure Sound (x : Calling) (r : Relay) : Prop where
  current : (r.h .toDualsense).links.connectionHandle = 0 ∨ r.Live .toDualsense
  timer : r.TimerKept .toDualsense
  known : x.begun = true → (r.h .toDualsense).pairing.btAddr.isSet = true

variable {x : Calling} {r : Relay} {i : DialInput}

/-- A link that was up and is not is the current one, and its timer follows. -/
theorem callsAgain_of_live (h : r.Live .toDualsense) (h' : ¬ (r.step i.input).Live .toDualsense) :
    r.callsAgain (r.cause i.input) = true := by
  have hlinks := openLinks_step r i.input .toDualsense
  have hlive : (r.linksAfter .toDualsense (r.cause i.input)).1
      ∉ (r.linksAfter .toDualsense (r.cause i.input)).2 := by rwa [← hlinks]
  generalize r.cause i.input = cause at hlive ⊢
  unfold linksAfter at hlive
  split at hlive
  · rename_i t e
    split at hlive
    · exact absurd (Finset.mem_insert_self _ _) hlive
    · exact absurd h hlive
  · rename_i t e
    split at hlive
    · rename_i ht
      subst ht
      split at hlive
      · rename_i hcur
        exact beq_iff_eq.mpr hcur
      · rename_i hcur
        exact absurd (Finset.mem_erase.mpr ⟨Ne.symm hcur, h⟩) hlive
    · exact absurd h hlive
  · exact absurd h hlive

theorem Sound.step (h : x.Sound r) : (x.note r i).Sound (r.step i.input) where
  current := by
    have hlinks := openLinks_step r i.input .toDualsense
    have hgoal : ((r.step i.input).openLinks .toDualsense).1 = 0
        ∨ ((r.step i.input).openLinks .toDualsense).1 ∈ ((r.step i.input).openLinks .toDualsense).2 := by
      rw [hlinks]
      unfold linksAfter
      split
      · split
        · exact .inr (Finset.mem_insert_self _ _)
        · exact h.current
      · split
        · rename_i ht
          subst ht
          split
          · exact .inl rfl
          · rename_i hcur
            exact h.current.imp id fun hl ↦ Finset.mem_erase.mpr ⟨Ne.symm hcur, hl⟩
        · exact h.current
      · exact h.current
    exact hgoal
  timer := (timer_step h.timer i.input).kept
  known := by
    rw [padAddr_eq (step_move r i.input).within]
    intro hbegun
    rcases Bool.or_eq_true .. ▸ hbegun with hbefore | hissued
    · exact h.known hbefore
    · obtain ⟨o, ho, hpage⟩ := List.any_eq_true.mp hissued
      have hm := page_move r i.input
      generalize r.cause i.input = cause at hm
      generalize hr' : r.step i.input = r' at hm
      cases hm with
      | paged _ _ haddr => exact haddr
      | none hout =>
        obtain ⟨new, hout, hnone⟩ := hout
        rw [added_eq (by rw [hr', hout])] at ho
        unfold isPage at hpage
        split at hpage
        · rw [hnone _ ho] at hpage
          cases hpage
        · cases hpage

/-- A page that is out, or issued, is out behind the step. -/
theorem total_note_pos
    (hdrops : (r.added i.input).countP (Output.dropsPage fun _ ↦ true) = 0
      ∨ (r.added i.input).countP (Output.dropsPage fun _ ↦ true)
        < (x.pages.noteInput r i).total + (r.added i.input).countP (Output.issuesPage fun _ ↦ true))
    (h : 0 < (x.pages.noteInput r i).total + (r.added i.input).countP (Output.issuesPage fun _ ↦ true)) :
    0 < (x.note r i).pages.total := by
  have hle := Pages.outstanding_run_observe (fun _ ↦ true) (x.pages.noteInput r i) (r.added i.input)
  have hgiven := Pages.givenUp_run_observe (fun _ ↦ true) (x.pages.noteInput r i) (r.added i.input)
  unfold note Pages.note Pages.total at *
  dsimp only
  rcases hdrops with hnone | hfewer
  · omega
  · omega

/-- **One step.**  A call is under way behind it, if one was before. -/
theorem GoesOn.step (h : x.GoesOn r) (hs : x.Sound r) (hok : x.CallsOn r i) :
    (x.note r i).GoesOn (r.step i.input) := by
  intro hbegun hdown
  have htimer := timer_step hs.timer i.input
  have hstarted : r.callsAgain (r.cause i.input) = true → (r.step i.input).parked .toDualsense :=
    fun hc ↦ (htimer.started hc).resolve_left hdown
  have hlive : r.Live .toDualsense → (r.step i.input).parked .toDualsense :=
    fun hl ↦ hstarted (callsAgain_of_live hl hdown)
  rcases hok with hl | ⟨hp, hc⟩ | hc | ⟨hends, hdrops⟩
  · exact .inr (hlive hl)
  · exact .inr (htimer.parked hc hp)
  · exact .inr (hstarted hc)
  · have hm := page_move r i.input
    generalize hcause : r.cause i.input = cause at hm
    generalize hr' : r.step i.input = r' at hm
    cases hm with
    | paged hout hk =>
      obtain ⟨new, hout, hmem⟩ := hout
      have hadded : r.added i.input = new := added_eq (by rw [hr', hout])
      have hcounts : Pages.counts (fun _ ↦ true) _ = true := (Bool.and_true _).trans hk
      refine .inl (total_note_pos hdrops (Nat.add_pos_right _ ?_))
      rw [hadded]
      exact List.countP_pos_iff.mpr ⟨_, hmem, hcounts⟩
    | none hout hidle =>
      have hbefore : x.begun = true := by
        obtain ⟨new, hout, hnone⟩ := hout
        have hadded : r.added i.input = new := added_eq (by rw [hr', hout])
        rcases Bool.or_eq_true .. ▸ hbegun with hx | hissued
        · exact hx
        · rw [hadded] at hissued
          obtain ⟨o, ho, hpage⟩ := List.any_eq_true.mp hissued
          unfold isPage at hpage
          split at hpage
          · rw [hnone _ ho] at hpage
            cases hpage
          · cases hpage
      by_cases hl : r.Live .toDualsense
      · exact .inr (hr' ▸ hlive hl)
      rcases h hbefore hl with htotal | hp
      · exact .inl (total_note_pos hdrops (Nat.add_pos_left (hends htotal) _))
      · by_cases hc : cause = .reconnect .toDualsense
        · exact absurd (hs.current.resolve_right hl) (hidle hc (hs.known hbefore))
        · exact .inr (hr' ▸ htimer.parked (hcause ▸ hc) hp)

end Calling

/-- The relay and the pages of the pad. -/
abbrev callingStep : Relay × Calling → DialInput → Relay × Calling :=
  withHistory (fun r i ↦ r.step i.input) Calling.note

/-- **Paging never stops.**  After the first page of the pad, a page is out or the timer of the next one is
parked whenever the link is down, if each event that ends the last page is one that is answered. -/
theorem paging_goes_on (c : Config) (is : List DialInput)
    (h : Along callingStep (fun p i ↦ p.2.CallsOn p.1 i) (.init c, {}) is) :
    (run callingStep (.init c, {}) is).2.GoesOn (run callingStep (.init c, {}) is).1 := by
  let Inv (p : Relay × Calling) : Prop := p.2.Sound p.1 ∧ p.2.GoesOn p.1
  have hinit : Inv (.init c, {}) := ⟨⟨.inl rfl, nofun, nofun⟩, nofun⟩
  have hstep : ∀ p i, Inv p → p.2.CallsOn p.1 i → Inv (callingStep p i) :=
    fun _ _ hp hok ↦ ⟨hp.1.step, hp.2.step hp.1 hok⟩
  exact (run_invariant_of_along hinit hstep h : Inv _).2

/-- A timer of the next call on this side. -/
def Task.redials (s : ConnectionSide) : Task → Bool
  | .reconnect t _ => t == s
  | _ => false

theorem any_redials_iff {r : Relay} {s : ConnectionSide} :
    r.tasks.any (Task.redials s) = true ↔ r.parked s := by
  constructor
  · intro h
    obtain ⟨t, ht, hs⟩ := List.any_eq_true.mp h
    unfold Task.redials at hs
    split at hs
    · rw [beq_iff_eq.mp hs] at ht
      exact ⟨_, ht⟩
    · cases hs
  · rintro ⟨delay, h⟩
    exact List.any_eq_true.mpr ⟨_, h, beq_self_eq_true s⟩

instance (r : Relay) (s : ConnectionSide) : Decidable (r.parked s) := decidable_of_iff _ any_redials_iff

instance (c : Cause) (s : ConnectionSide) : Decidable (c = .reconnect s) :=
  match c with
  | .reconnect t => decidable_of_iff (t = s) ⟨fun h ↦ h ▸ rfl, fun h ↦ Cause.reconnect.inj h⟩
  | .event .. | .acl .. | .handover _ | .interruptFallback .. | .enableGadget _ | .ep0 _
  | .getReportTimeout | .outputDone _ | .inputDone _ | .shutdown | .comingUp _ | .other => isFalse nofun

instance (x : Calling) (r : Relay) (i : DialInput) : Decidable (x.CallsOn r i) := by
  unfold Calling.CallsOn
  infer_instance

/-- The pad is paged, and its page ends with this status. -/
def pageEnds (pad : BdAddr) (status : UInt8) : List DialInput :=
  (Input.bringUp .toDualsense ++ [Input.commandRoom .toDualsense]).map ({ input := · })
    ++ [⟨.connComplete .toDualsense status 0 pad, true⟩]

def behindPageEnd (status : UInt8) : Relay × Calling :=
  run callingStep (.init { dsAddr := ⟨1, 2, 3, 4, 5, 6⟩ }, {}) (pageEnds ⟨1, 2, 3, 4, 5, 6⟩ status)

theorem paging_goes_on_timeout :
    (behindPageEnd HCI_PAGE_TIMEOUT).2.begun = true ∧ ¬ (behindPageEnd HCI_PAGE_TIMEOUT).1.Live .toDualsense
      ∧ (0 < (behindPageEnd HCI_PAGE_TIMEOUT).2.pages.total
        ∨ (behindPageEnd HCI_PAGE_TIMEOUT).1.parked .toDualsense) :=
  have hbegun : (behindPageEnd HCI_PAGE_TIMEOUT).2.begun = true := by decide +kernel
  have hdown : ¬ (behindPageEnd HCI_PAGE_TIMEOUT).1.Live .toDualsense := by decide +kernel
  ⟨hbegun, hdown, paging_goes_on _ _ (by decide +kernel) hbegun hdown⟩

/-- The pad is paged twice, and both pages are refused because the controller still has a link from an
earlier run. -/
def refusedTwice : List DialInput :=
  let refused : Input := .pageStatus .toDualsense HCI_ACL_CONNECTION_EXISTS
  (Input.bringUp .toDualsense ++ [Input.commandRoom .toDualsense, refused, .fire 1,
    Input.commandRoom .toDualsense, refused]).map ({ input := · })

def behindRefusals : Relay × Calling :=
  run callingStep (.init { dsAddr := ⟨1, 2, 3, 4, 5, 6⟩ }, {}) refusedTwice

/-- The links of an earlier run are swept once, and the second refusal is not followed by anything. -/
theorem paging_goes_on_refused :
    Along diallingStep (fun p i ↦ p.2.Plausible p.1 i) (.init { dsAddr := ⟨1, 2, 3, 4, 5, 6⟩ }, {}) refusedTwice
      ∧ ¬ behindRefusals.2.GoesOn behindRefusals.1 := by
  refine ⟨by decide +kernel, fun h ↦ ?_⟩
  exact absurd (h (by decide +kernel) (by decide +kernel)) (by decide +kernel)

end DualSenseMitm
