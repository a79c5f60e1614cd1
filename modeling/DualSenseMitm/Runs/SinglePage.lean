import DualSenseMitm.Runs.PagingOn
import DualSenseMitm.Runs.PlayLink

/-!
# One page at a time

A page of a handler is issued when the pad's side comes up, by the timer of the next call, and by the
handover, which calls for the console's side.  None of them looks whether a page is out already.

* `pages_move` — what issues a page, and that it issues one.
* `timerOnce_step` — a timer that is parked is pending, and there is only one.
* `one_page_at_a_time` — no page is issued while another is out, if the handover finds none out and a
  timer that met one finds none when it fires.
-/

set_option autoImplicit false

namespace DualSenseMitm

open Bytes Machine Relay

/-- A Create Connection of this side. -/
def Output.isPage (s : ConnectionSide) : Output → Bool
  | .cmdIssued t c => t == s && callsPeer c.ogf c.ocf
  | _ => false

namespace Relay

variable {r r' : Relay} {A : Set Aspect} {s t : ConnectionSide}

/-! ## The timers of the next call -/

/-- How many timers of the next call are parked. -/
def timers (r : Relay) (s : ConnectionSide) : ℕ := r.tasks.countP (Task.redials s)

theorem countP_eraseIdx (p : Task → Bool) (l : List Task) (k : ℕ) :
    l.countP p = (l.eraseIdx k).countP p + (l[k]?.toList.countP p) := by
  induction l generalizing k with
  | nil => rfl
  | cons a l ih =>
    cases k with
    | zero => simp [List.countP_cons]
    | succ k =>
      rw [List.eraseIdx_cons_succ, List.countP_cons, List.countP_cons, List.getElem?_cons_succ, ih k]
      omega

theorem timers_unpark {k : ℕ} {task : Task} (hk : r.tasks[k]? = some task) :
    r.timers s = (r.unpark k).timers s + if task.redials s then 1 else 0 := by
  rw [timers, timers, unpark, countP_eraseIdx _ r.tasks k, hk]
  simp [List.countP_cons]

/-- Only what has to do with the timer of a side parks one or takes it off. -/
theorem timers_perform {op : Op} (h : op.Within A r) (hA : .timing s ∉ A) :
    (r.perform op).timers s = r.timers s := by
  cases op with
  | spawn task =>
    have hplain : task.redials s = false := by
      cases task with
      | reconnect u delay =>
        refine beq_eq_false_iff_ne.mpr ?_
        rintro rfl
        exact hA (h.resolve_left (by simp [Op.Quiet, Task.isPlain]))
      | _ => rfl
    rw [timers, timers, perform, spawn, List.countP_append, List.countP_singleton, hplain]
    rfl
  | unpark k =>
    cases hk : r.tasks[k]? with
    | none =>
      have hlen : r.tasks.length ≤ k := List.getElem?_eq_none_iff.mp hk
      rw [timers, timers, perform, unpark, List.eraseIdx_of_length_le hlen]
    | some task =>
      have hplain : task.redials s = false := by
        cases task with
        | reconnect u delay =>
          refine beq_eq_false_iff_ne.mpr ?_
          rintro rfl
          rcases h with h | ⟨t, delay', ht, htA⟩
          · exact h u delay hk
          · rw [hk] at ht
            cases ht
            exact hA htA
        | _ => rfl
      have hcount := timers_unpark (s := s) hk
      rw [hplain] at hcount
      exact hcount.symm
  | frame t cid pre data => rw [timers, timers, perform, tasks_l2capSendFrame]
  | _ => rfl

theorem timers_eq (h : Performs (Op.Within A) r r') (hA : .timing s ∉ A) : r'.timers s = r.timers s :=
  h.invariant (fun a ↦ a.timers s = r.timers s) rfl fun _ _ ha hop ↦ (timers_perform hop hA).trans ha

/-- The timer of a side is parked once while it is pending, and not at all otherwise. -/
def TimerOnce (r : Relay) (s : ConnectionSide) : Prop :=
  r.timers s = if (r.h s).paging.reconnectPending = true then 1 else 0

theorem TimerOnce.of_within (h : r.TimerOnce s) (hw : Performs (Op.Within A) r r') (hT : .timing s ∉ A) :
    r'.TimerOnce s := by
  rw [TimerOnce, timers_eq hw hT, reconnectPending_eq hw s hT]
  exact h

/-- What leaves the timer alone, but for a `schedule_reconnect` at its end. -/
inductive Schedules (s : ConnectionSide) (r : Relay) : Relay → Prop
  | aside {A : Set Aspect} {u} (h : Performs (Op.Within A) r u) (hT : .timing s ∉ A) : Schedules s r u
  | scheduled {A : Set Aspect} {mid} (h : Performs (Op.Within A) r mid) (hT : .timing s ∉ A) (delay : Time) :
      Schedules s r (mid.scheduleReconnect s delay)

theorem TimerOnce.scheduleReconnect (h : r.TimerOnce s) (delay : Time) :
    (r.scheduleReconnect s delay).TimerOnce s := by
  unfold Relay.scheduleReconnect
  by_cases hp : (r.h s).paging.reconnectPending = true
  · rw [if_pos hp]
    exact h
  · rw [TimerOnce, if_neg hp] at h
    have hnone : r.tasks.countP (Task.redials s) = 0 := h
    rw [if_neg hp, TimerOnce, timers]
    simp [spawn, onPaging, onHandler, Task.redials, hnone]

theorem TimerOnce.schedules (h : r.TimerOnce s) (hs : Schedules s r r') : r'.TimerOnce s := by
  cases hs with
  | aside hw hT => exact h.of_within hw hT
  | scheduled hw hT delay => exact (h.of_within hw hT).scheduleReconnect delay

theorem schedules_handleConnectionFailure {mid : Relay} (hw : Performs (Op.Within A) r mid) (hT : .timing s ∉ A)
    (e : EvtConnComplete) : Schedules s r (mid.handleConnectionFailure s e) := by
  unfold handleConnectionFailure
  extract_lets btAddr r₁ since r₂
  by_cases haddr : btAddr.isSet = true ∧ e.bdaddr = btAddr
  · rw [if_pos haddr]
    cases s with
    | toDualsense =>
      dsimp only
      split
      · exact .scheduled hw hT _
      · exact .aside hw hT
    | toPlaystation =>
      have h₁ : Performs (Op.Within A) r r₁ := hw.trans (quiet_onPaging mid _ fun _ ↦ by rfl).within
      have h₁' : Performs (Op.Within A) r (r₁.advance 1) := h₁.trans (quiet_advance r₁ 1).within
      have h₂ : Performs (Op.Within A) r r₂ := h₁'.trans (quiet_endHandoverPaging _ _).within
      dsimp only
      split
      · exact .scheduled h₁ hT _
      · split
        · exact .scheduled h₂ hT _
        · split
          · exact .scheduled h₁' hT _
          · exact .scheduled h₁' hT _
  · rw [if_neg haddr]
    exact .aside hw hT

theorem schedules_handleConnectionComplete {p : PacketContents} {e : EvtConnComplete × PacketContents}
    (hp : EvtConnComplete.get? p = some e) : Schedules s r (r.handleConnectionComplete s p) := by
  have hover : Performs (Op.Within {.links, .linkNotes, .scanning s.other, .authenticating s, .pacing s}) r
      (r.pageOver s e.1.status) := within_pageOver r s (by simp) (fun _ ↦ by simp) _
  have hup := hover.trans (within_connected _ s (by simp) (fun _ ↦ by simp) e.1)
  rw [handleConnectionComplete_eq r s hp]
  split
  · exact schedules_handleConnectionFailure hover (by simp) _
  · split
    · exact .aside hup (by simp)
    · exact .aside (hup.trans (within_requestAuthentication _ s (by simp) _)) (by simp)

theorem schedules_handleDisconnectComplete {p : PacketContents} {e : EvtDisconnComplete × PacketContents}
    (hp : EvtDisconnComplete.get? p = some e) : Schedules s r (r.handleDisconnectComplete s p) := by
  have hgone : Performs (Op.Within {.links, .scanning s, .pacing s}) r (r.linkGone s e.1.handle) :=
    within_linkGone r s (by simp) _
  rw [handleDisconnectComplete_eq r s hp]
  split
  · exact .aside hgone (by simp)
  · exact .scheduled (hgone.trans (within_currentGone _ s (by simp) (fun _ ↦ by simp) (by simp))) (by simp) _

theorem schedules_handleCmdStatus (p : PacketContents) : Schedules s r (r.handleCmdStatus s p) := by
  unfold handleCmdStatus
  cases EvtCmdStatus.get? p with
  | none => exact .aside (A := ∅) (.refl r) (Set.notMem_empty _)
  | some e =>
    dsimp -zeta only
    extract_lets r₁
    have h₁ : Performs (Op.Within {.closing}) r r₁ := (quiet_commandAnswered r _ _).within
    split
    · rw [sweepStaleLinks]
      split
      · exact .aside h₁ (by simp)
      · extract_lets r₂ r₃
        have h₂ : Performs (Op.Within {.closing}) r r₂ :=
          h₁.trans (within_onPaging r₁ _ (.inr (by rfl)) (.inl fun _ ↦ rfl) (.inl fun _ ↦ rfl))
        have h₃ : Performs (Op.Within {.closing}) r r₃ :=
          h₂.trans (.foldl _ sweepHandles (fun r handle _ ↦ within_disconnect r _ (by rfl) handle) r₂)
        exact .scheduled (h₃.trans (quiet_spawn r₃ (by rfl)).within) (by simp) _
    · exact .aside h₁ (by simp)

/-- The timer that fires was the one that was pending, and none is behind it. -/
theorem timerOnce_reconnect {k : ℕ} {delay : Time} (h : r.TimerOnce s)
    (hk : r.tasks[k]? = some (.reconnect s delay)) :
    (r.h s).paging.reconnectPending = true
      ∧ (((r.unpark k).fireReconnect s).h s).paging.reconnectPending = false
      ∧ ((r.unpark k).fireReconnect s).timers s = 0 := by
  have hcount := timers_unpark (s := s) hk
  rw [show (Task.reconnect s delay).redials s = true from beq_self_eq_true s, if_pos rfl] at hcount
  have hpending : (r.h s).paging.reconnectPending = true := by
    by_contra hp
    rw [TimerOnce, if_neg hp] at h
    omega
  rw [TimerOnce, if_pos hpending] at h
  unfold fireReconnect
  extract_lets r₁
  have hrest : Performs (Op.Within {.calling s, .scanning s.other}) r₁
      (if (r₁.h s).links.connectionHandle ≠ 0 then r₁
        else r₁.sendConnectionRequest s (r₁.h s).pairing.btAddr) :=
    .ite (fun _ ↦ .refl r₁) fun _ ↦ within_sendConnectionRequest r₁ s (by simp) (fun _ ↦ by simp) _
  refine ⟨hpending, ?_, ?_⟩
  · rw [reconnectPending_eq hrest s (by simp)]
    simp [r₁]
  · rw [timers_eq hrest (by simp)]
    have hnone : (r.unpark k).timers s = 0 := by omega
    exact hnone

theorem timerOnce_step (i : Input) (h : r.TimerOnce s) : (r.step i).TimerOnce s := by
  have hm := step_move r i
  have hw := hm.within
  revert hm hw
  generalize r.cause i = cause
  generalize r.step i = r'
  intro hm hw
  cases hm with
  | quiet hq hc => exact h.of_within hw (by simp [hc])
  | @connectionComplete t _ _ _ hp =>
    by_cases ht : s = t
    · subst ht
      exact h.schedules (schedules_handleConnectionComplete hp)
    · exact h.of_within hw (by simp [Cause.aspects, ht])
  | @disconnectComplete t _ _ _ hp =>
    by_cases ht : s = t
    · subst ht
      exact h.schedules (schedules_handleDisconnectComplete hp)
    · exact h.of_within hw (by simp [Cause.aspects, ht])
  | @cmdStatus t p _ _ hp =>
    by_cases ht : s = t
    · subst ht
      exact h.schedules (schedules_handleCmdStatus p)
    · exact h.of_within hw (by simp [Cause.aspects, ht])
  | @reconnect t _ _ hk =>
    by_cases ht : s = t
    · subst ht
      obtain ⟨-, hpending, hnone⟩ := timerOnce_reconnect h hk
      rw [TimerOnce, hnone, hpending]
      rfl
    · exact h.of_within hw (by simp [Cause.aspects, ht])
  | acl => exact h.of_within hw (by simp [Cause.aspects, aclAspects])
  | _ => exact h.of_within hw (by simp [Cause.aspects])

/-! ## What pages -/

/-- What issues a page of this side. -/
def pagesFor (r : Relay) (s : ConnectionSide) : Cause → Prop
  | .comingUp t => t = s ∧ s = .toDualsense ∧ (r.h s).phase ≠ .running
  | .reconnect t => t = s ∧ (r.h s).links.connectionHandle = 0 ∧ (r.h s).pairing.btAddr.isSet = true
  | .handover t =>
    t = .toDualsense ∧ s = .toPlaystation ∧ (r.h s).links.connectionHandle = 0
      ∧ (r.h t).pairing.consoleAddr.isSet = true
  | _ => False

/-- What a step has to do with the pages of a side: it issues none, or it is one of those that page, and
issues one. -/
inductive PagesMove (s : ConnectionSide) (r : Relay) (c : Cause) (u : Relay) : Prop
  | none {new} (hout : u.out = r.out ++ new) (hnew : ∀ o ∈ new, o.isPage s = false)
  | paged (pre o post) (hout : u.out = r.out ++ (pre ++ o :: post)) (hpre : ∀ o ∈ pre, o.isPage s = false)
      (hpost : ∀ o ∈ post, o.isPage s = false) (hwhy : r.pagesFor s c)

theorem isPage_of_allowed {o : Output} (h : o.Allowed A) (hC : .calling s ∉ A) : o.isPage s = false := by
  cases o with
  | cmdIssued t c =>
    refine Bool.eq_false_iff.mpr fun hpage ↦ ?_
    obtain ⟨ht, hcalls⟩ := Bool.and_eq_true_iff.mp hpage
    obtain rfl := beq_iff_eq.mp ht
    exact hC ((h.within rfl rfl).calling hcalls)
  | _ => rfl

theorem pages_of_within {c : Cause} (hw : Performs (Op.Within A) r r') (hC : .calling s ∉ A) :
    PagesMove s r c r' := by
  obtain ⟨new, hout, hnew⟩ := hw.out
  exact .none hout fun o ho ↦ isPage_of_allowed (hnew o ho) hC

/-- A call is one page at most. -/
theorem pages_sendConnectionRequest {c : Cause} {mid : Relay} (hw : Performs (Op.Within A) r mid)
    (hC : .calling s ∉ A) (addr : BdAddr) (hwhy : addr.isSet = true → r.pagesFor s c) :
    PagesMove s r c (mid.sendConnectionRequest s addr) := by
  unfold sendConnectionRequest
  by_cases haddr : addr.isSet = true
  · rw [if_pos haddr]
    extract_lets r₁
    have h₁ : Performs (Op.Within {.scanning s.other}) mid r₁ := .ite
      (fun _ ↦ (within_writeScanEnable mid _ (by rfl) _).trans (within_onScanSuppressed _ _ (by rfl) true))
      fun _ ↦ .refl mid
    obtain ⟨before, hbefore, hbefore'⟩ := hw.out
    obtain ⟨scan, hscan, hscan'⟩ := h₁.out
    have hout := out_sendCmd r₁ s OGF_LINK_CTL OCF_CREATE_CONN
      (addr.bytes ++ put16 ACL_PTYPE_MASK ++ [0x01, 0] ++ put16 0x00 ++ [0x00]) "create connection"
    rw [hscan, hbefore, List.append_assoc r.out, List.append_assoc r.out] at hout
    refine .paged _ _ _ hout ?_ ?_ (hwhy haddr)
    · intro o ho
      rcases List.mem_append.mp ho with ho | ho
      · exact isPage_of_allowed (hbefore' o ho) hC
      · exact isPage_of_allowed (hscan' o ho) (by simp)
    · intro o ho
      cases o with
      | cmdIssued t c => exact absurd ho ((pumped_silent _ _).2 t c)
      | _ => rfl
  · rw [if_neg haddr]
    exact pages_of_within hw hC

theorem pages_comingUp {t : ConnectionSide} (h : ComingUpMove r t r') : PagesMove s r (.comingUp t) r' := by
  cases h with
  | waiting h => exact pages_of_within h (by simp)
  | @up mid h hp =>
    have hset : Performs (Op.Within {.comingUp, .pacing t, .scanning t}) r (mid.applySideSettings t) :=
      (h.widen (by simp [Set.insert_subset_iff])).trans (within_applySideSettings mid _ (by simp))
    cases t with
    | toPlaystation => exact pages_of_within hset (by simp)
    | toDualsense =>
      cases s with
      | toDualsense =>
        have hwhy : r.pagesFor .toDualsense (.comingUp .toDualsense) := ⟨rfl, rfl, hp⟩
        exact pages_sendConnectionRequest hset (by simp) _ fun _ ↦ hwhy
      | toPlaystation =>
        have hrest : Performs (Op.Within {.comingUp, .pacing .toDualsense, .scanning .toDualsense,
            .calling .toDualsense, .scanning .toPlaystation}) r (mid.startPaging .toDualsense) :=
          (h.widen (by simp [Set.insert_subset_iff])).trans
            (within_startPaging mid _ (by simp) (by simp) fun _ ↦ by simp)
        exact pages_of_within hrest (by simp)

theorem pages_reconnect {t : ConnectionSide} {delay : Time} {k : ℕ}
    (hk : r.tasks[k]? = some (.reconnect t delay)) :
    PagesMove s r (.reconnect t) ((r.unpark k).fireReconnect t) := by
  by_cases ht : s = t
  · subst ht
    unfold fireReconnect
    extract_lets r₁
    have h₁ : Performs (Op.Within {.timing s}) r r₁ :=
      (within_unparkReconnect r _ (by rfl) hk).trans (within_onReconnectPending _ _ (by rfl) false)
    have hlinks := links_eq h₁ s (by simp) (by simp)
    have hpairing := pairing_eq h₁ s (by simp)
    rw [hlinks, hpairing]
    by_cases hup : (r.h s).links.connectionHandle = 0
    · rw [if_neg (not_not_intro hup)]
      exact pages_sendConnectionRequest (c := .reconnect s) h₁ (by simp) _ fun haddr ↦ ⟨rfl, hup, haddr⟩
    · rw [if_pos hup]
      exact pages_of_within h₁ (by simp)
  · exact pages_of_within (Move.reconnect hk).within (by simp [Cause.aspects, ht])

/-- The call of the handover pages if there is no link. -/
theorem pages_connectToConsole {c : Cause} {mid : Relay} (hw : Performs (Op.Within A) r mid) (hK : .keys ∈ A)
    (hS : .scanning .toPlaystation ∈ A) (hC : .calling .toPlaystation ∉ A)
    (addr : BdAddr) (key : LinkKey)
    (hwhy : (mid.h .toPlaystation).links.connectionHandle = 0 → addr.isSet = true → r.pagesFor .toPlaystation c) :
    PagesMove .toPlaystation r c (mid.connectToConsole .toPlaystation addr key) := by
  by_cases hidle : (mid.h .toPlaystation).links.connectionHandle = 0
  · unfold connectToConsole
    rw [beq_iff_eq.mpr hidle]
    extract_lets idle r₁ r₂ r₃ r₄ r₅
    have h₁ : Performs (Op.Within A) r r₁ := hw.trans (within_emit mid hK)
    have h₂ : Performs (Op.Within A) r r₂ := h₁.trans (within_onPairing r₁ _ hK fun h ↦ by cases h)
    have hlisten : Performs (Op.Within {.scanning .toPlaystation}) r₂ r₃ :=
      within_writeScanEnable r₂ _ (by rfl) _
    have hsince : Performs (Op.Within {.scanning .toPlaystation}) r₂ r₄ :=
      (hlisten.trans (quiet_advance r₃ 1).within).trans (Performs.within (quiet_onPaging _ _ fun _ ↦ rfl))
    have hrest : Performs (Op.Within {.scanning .toPlaystation}) r₂ r₅ :=
      hsince.trans (quiet_writePageTimeout r₄ _ _).within
    have h₅ : Performs (Op.Within A) r r₅ := h₂.trans (hrest.widen (Set.singleton_subset_iff.mpr hS))
    have haddr : (r₅.h .toPlaystation).pairing.btAddr = addr := by
      rw [pairing_eq hrest .toPlaystation (by simp)]
      simp [r₂]
    rw [if_pos ⟨rfl, rfl⟩, haddr]
    exact pages_sendConnectionRequest h₅ hC _ (hwhy hidle)
  · rw [connectToConsole_of_busy mid .toPlaystation fun h ↦ hidle h.2]
    exact pages_of_within (hw.trans (within_emit mid hK)) hC

theorem pages_handover {t : ConnectionSide} {k : ℕ} (hk : r.tasks[k]? = some (.handover t)) :
    PagesMove s r (.handover t) ((r.unpark k).fireHandover t) := by
  have hquiet : Performs (Op.Within {.endpoints, .reports}) r (r.unpark k).disableGadget :=
    (quiet_unpark r hk (by simp)).within.trans (within_disableGadget _ (by simp) (by simp))
  have hdetach : Performs (Op.Within {.keys, .endpoints, .reports, .scanning .toPlaystation}) r
      (r.unpark k).disableGadget := hquiet.widen (by simp [Set.insert_subset_iff])
  cases t with
  | toPlaystation =>
    have hbusy : ¬ (ConnectionSide.toPlaystation.other = .toPlaystation
        ∧ ((r.unpark k).disableGadget.h ConnectionSide.toPlaystation.other).links.connectionHandle = 0) :=
      fun h ↦ by cases h.1
    rw [fireHandover, connectToConsole_of_busy _ _ hbusy]
    exact pages_of_within (hdetach.trans (within_emit _ (Set.mem_insert _ _))) (by simp)
  | toDualsense =>
    cases s with
    | toDualsense => exact pages_of_within (Move.handover hk).within (by simp [Cause.aspects])
    | toPlaystation =>
      have hlinks := links_eq hquiet .toPlaystation (by simp) (by simp)
      have hpairing := pairing_eq hquiet .toDualsense (by simp)
      refine pages_connectToConsole hdetach (by simp) (by simp) (by simp) _ _ fun hidle haddr ↦ ?_
      exact ⟨rfl, rfl, hlinks ▸ hidle, hpairing ▸ haddr⟩

/-- **What pages.** -/
theorem pages_move (r : Relay) (s : ConnectionSide) (i : Input) : PagesMove s r (r.cause i) (r.step i) := by
  have hm := step_move r i
  have hw := hm.within
  have hup : ∀ t, r.cause i = .comingUp t → ComingUpMove r t (r.step i) := fun t ↦ comingUp_move
  revert hm hw hup
  generalize r.cause i = cause
  generalize r.step i = r'
  intro hm hw hup
  cases hm with
  | quiet h hc => exact pages_of_within hw (by simp [hc])
  | comingUp h => exact pages_comingUp (hup _ rfl)
  | reconnect hk => exact pages_reconnect hk
  | handover hk => exact pages_handover hk
  | acl => exact pages_of_within hw (by simp [Cause.aspects, aclAspects])
  | _ => exact pages_of_within hw (by simp [Cause.aspects])

end Relay

/-! ## The pages that are out -/

/-- The pages of each side that are not over. -/
structure PagesOut where
  out : ConnectionSide → ℕ := fun _ ↦ 0
  /-- The timer that is pending was started while a page was out, or the handover paged behind it. -/
  crossed : ConnectionSide → Bool := fun _ ↦ false

namespace PagesOut

/-- A page is issued, or dropped at the write. -/
def observe (s : ConnectionSide) (k : ℕ) : Output → ℕ
  | .cmdIssued t c => if t = s ∧ callsPeer c.ogf c.ocf = true then k + 1 else k
  | .cmdDropped t c => if t = s ∧ callsPeer c.ogf c.ocf = true then k - 1 else k
  | _ => k

/-- A page is over with a Connection Complete of its own, or refused by a Command Status. -/
def noteInput (x : PagesOut) (s : ConnectionSide) (r : Relay) (i : DialInput) : ℕ :=
  match r.cause i.input with
  | .event t (.connectionComplete _) => if t = s ∧ i.ours = true then x.out s - 1 else x.out s
  | .event t (.cmdStatus e) =>
    if t = s ∧ e.opcode = cmdOpcodePack OGF_LINK_CTL OCF_CREATE_CONN ∧ e.status ≠ HCI_SUCCESS then x.out s - 1
    else x.out s
  | _ => x.out s

/-- The handover calls for this side. -/
def handsOver (r : Relay) (s : ConnectionSide) (i : Input) : Bool :=
  match r.cause i with
  | .handover t => t == s.other
  | _ => false

def note (x : PagesOut) (r : Relay) (i : DialInput) : PagesOut :=
  let out' s := run (observe s) (x.noteInput s r i) (r.added i.input)
  { out := out'
    crossed := fun s ↦
      ((r.step i.input).h s).paging.reconnectPending
        && if (r.h s).paging.reconnectPending then x.crossed s || handsOver r s i.input && out' s != 0
          else out' s != 0 }

/-- No page is issued while another is out. -/
def SinglePage (x : PagesOut) (r : Relay) (i : DialInput) : Prop :=
  ∀ s, Along (observe s) (fun k o ↦ o.isPage s = true → k = 0) (x.noteInput s r i) (r.added i.input)

/-- The handover that calls finds no page out, and neither does a timer that met one. -/
def Spaced (x : PagesOut) (r : Relay) (i : DialInput) : Prop :=
  ∀ s, r.pagesFor s (r.cause i.input) → (x.crossed s = true ∨ handsOver r s i.input = true) → x.out s = 0

/-! ## One step -/

variable {s : ConnectionSide} {k : ℕ} {x : PagesOut} {r : Relay} {i : DialInput}

/-- What is no page adds none. -/
theorem observe_le {o : Output} (h : o.isPage s = false) : observe s k o ≤ k := by
  unfold observe
  split
  · rename_i t c
    rw [if_neg]
    rintro ⟨rfl, hcalls⟩
    exact absurd h (by simp [Output.isPage, hcalls])
  · split
    · exact Nat.sub_le k 1
    · exact le_rfl
  · exact le_rfl

theorem run_observe_le {new : List Output} (h : ∀ o ∈ new, o.isPage s = false) :
    run (observe s) k new ≤ k := by
  induction new generalizing k with
  | nil => exact le_rfl
  | cons o new ih =>
    have ho : observe s k o ≤ k := observe_le (h o List.mem_cons_self)
    exact (ih fun o' ho' ↦ h o' (List.mem_cons_of_mem _ ho')).trans ho

/-- What holds no page keeps to one. -/
theorem single_of_none {new : List Output} (h : ∀ o ∈ new, o.isPage s = false) :
    Along (observe s) (fun k o ↦ o.isPage s = true → k = 0) k new := by
  induction new generalizing k with
  | nil => trivial
  | cons o new ih =>
    have ho := h o List.mem_cons_self
    exact ⟨fun hp ↦ absurd (ho.symm.trans hp) Bool.false_ne_true,
      ih fun o' ho' ↦ h o' (List.mem_cons_of_mem _ ho')⟩

/-- No input adds a page. -/
theorem noteInput_le (x : PagesOut) (s : ConnectionSide) (r : Relay) (i : DialInput) :
    x.noteInput s r i ≤ x.out s := by
  unfold noteInput
  split
  · split <;> omega
  · split <;> omega
  · exact le_rfl

/-- What a step leaves of the pages, by what it pages. -/
theorem single_of_move (hm : PagesMove s r (r.cause i.input) (r.step i.input))
    (hok : r.pagesFor s (r.cause i.input) → x.out s = 0) :
    Along (observe s) (fun k o ↦ o.isPage s = true → k = 0) (x.noteInput s r i) (r.added i.input)
      ∧ (¬ r.pagesFor s (r.cause i.input) → (x.note r i).out s ≤ x.out s) := by
  have hle := x.noteInput_le s r i
  cases hm with
  | none hout hnew =>
    rw [added_eq hout]
    refine ⟨single_of_none hnew, fun _ ↦ ?_⟩
    have hrun : run (observe s) (x.noteInput s r i) (r.added i.input) ≤ x.noteInput s r i := by
      rw [added_eq hout]
      exact run_observe_le hnew
    exact hrun.trans hle
  | paged pre o post hout hpre hpost hwhy =>
    rw [added_eq hout]
    refine ⟨along_append.mpr ⟨single_of_none hpre, fun _ ↦ ?_, single_of_none hpost⟩, fun h ↦ absurd hwhy h⟩
    have hbefore : run (observe s) (x.noteInput s r i) pre ≤ x.noteInput s r i := run_observe_le hpre
    have hzero := hok hwhy
    omega

/-- A side that comes up without being up behind it has not paged. -/
theorem out_note_of_waiting (hc : r.cause i.input = .comingUp s)
    (hp : ((r.step i.input).h s).phase ≠ .running) : (x.note r i).out s ≤ x.out s := by
  have hle := x.noteInput_le s r i
  have hup := comingUp_move hc
  have hnone : ∃ new, (r.step i.input).out = r.out ++ new ∧ ∀ o ∈ new, o.isPage s = false := by
    revert hup hp
    generalize r.step i.input = r'
    intro hp hup
    cases hup with
    | waiting h _ =>
      obtain ⟨new, hout, hnew⟩ := h.out
      exact ⟨new, hout, fun o ho ↦ isPage_of_allowed (hnew o ho) (by simp)⟩
    | @up mid _ _ hp' =>
      have hphase := phase_eq (within_startPaging (A := {.calling s, .scanning s, .scanning s.other}) mid s
        (by simp) (by simp) (by simp)) s (by simp)
      rw [hphase, hp', if_pos rfl] at hp
      exact absurd rfl hp
  obtain ⟨new, hout, hnew⟩ := hnone
  have hrun : run (observe s) (x.noteInput s r i) (r.added i.input) ≤ x.noteInput s r i := by
    rw [added_eq hout]
    exact run_observe_le hnew
  exact hrun.trans hle

/-- What is so in every state of a run whose calls are spaced. -/
structure Sound (x : PagesOut) (r : Relay) : Prop where
  once : ∀ s, r.TimerOnce s
  waiting : ∀ s, (r.h s).paging.reconnectPending = true → x.crossed s = false → x.out s = 0
  rested : (r.h .toDualsense).phase ≠ .running →
    x.out .toDualsense = 0 ∧ (r.h .toDualsense).paging.reconnectPending = false

/-- A timer that fires was pending, and is not behind it. -/
theorem Sound.reconnect (h : x.Sound r) {j : Input} (hc : r.cause j = .reconnect s) :
    (r.h s).paging.reconnectPending = true ∧ ((r.step j).h s).paging.reconnectPending = false := by
  have hm := step_move r j
  rw [hc] at hm
  revert hm
  generalize r.step j = r'
  intro hm
  cases hm with
  | quiet h hc => exact absurd hc (Set.insert_nonempty _ _).ne_empty
  | reconnect hk =>
    obtain ⟨hbefore, hbehind, -⟩ := timerOnce_reconnect (h.once s) hk
    exact ⟨hbefore, hbehind⟩

/-- A page that is issued finds none out. -/
theorem Sound.none_out (h : x.Sound r) (hok : x.Spaced r i) (hp : r.pagesFor s (r.cause i.input)) :
    x.out s = 0 := by
  have hspaced := hok s hp
  have hrec := fun hc ↦ h.reconnect (s := s) (j := i.input) hc
  revert hspaced hp hrec
  rw [handsOver]
  generalize r.cause i.input = cause
  intro hp hspaced hrec
  cases cause with
  | comingUp t =>
    obtain ⟨-, rfl, hphase⟩ := hp
    exact (h.rested hphase).1
  | reconnect t =>
    obtain ⟨rfl, -⟩ := hp
    cases hcrossed : x.crossed t with
    | true => exact hspaced (.inl hcrossed)
    | false => exact h.waiting t (hrec rfl).1 hcrossed
  | handover t =>
    obtain ⟨rfl, rfl, -⟩ := hp
    exact hspaced (.inr rfl)
  | _ => exact hp.elim

theorem Sound.waiting_step (h : x.Sound r) (hok : x.Spaced r i)
    (hp : ((r.step i.input).h s).paging.reconnectPending = true) (hc : (x.note r i).crossed s = false) :
    (x.note r i).out s = 0 := by
  have hmove := single_of_move (x := x) (pages_move r s i.input) (h.none_out hok)
  have hcrossed : (if (r.h s).paging.reconnectPending = true then
      x.crossed s || handsOver r s i.input && (x.note r i).out s != 0 else (x.note r i).out s != 0) = false := by
    rcases (Bool.and_eq_false_iff.mp hc : _ ∨ _) with hbehind | hbehind
    · exact absurd (hbehind.symm.trans hp) Bool.false_ne_true
    · exact hbehind
  by_cases hpending : (r.h s).paging.reconnectPending = true
  · rw [if_pos hpending, Bool.or_eq_false_iff] at hcrossed
    obtain ⟨hbefore, hhand⟩ := hcrossed
    have hzero := h.waiting s hpending hbefore
    by_cases hpages : r.pagesFor s (r.cause i.input)
    · have hrec := fun hc ↦ (h.reconnect (s := s) (j := i.input) hc).2
      revert hpages hhand hrec
      rw [handsOver]
      generalize r.cause i.input = cause
      intro hhand hpages hrec
      cases cause with
      | comingUp t =>
        obtain ⟨-, rfl, hphase⟩ := hpages
        exact absurd ((h.rested hphase).2.symm.trans hpending) Bool.false_ne_true
      | reconnect t =>
        obtain ⟨rfl, -⟩ := hpages
        exact absurd ((hrec rfl).symm.trans hp) Bool.false_ne_true
      | handover t =>
        obtain ⟨rfl, rfl, -⟩ := hpages
        simpa using hhand
      | _ => exact hpages.elim
    · have hle := hmove.2 hpages
      omega
  · rw [if_neg hpending] at hcrossed
    simpa using hcrossed

/-- Before the pad's side is up it has neither a page out nor a timer. -/
theorem Sound.rested_step (h : x.Sound r) (hok : x.Spaced r i)
    (hp : ((r.step i.input).h .toDualsense).phase ≠ .running) :
    (x.note r i).out .toDualsense = 0
      ∧ ((r.step i.input).h .toDualsense).paging.reconnectPending = false := by
  have hphase : (r.h .toDualsense).phase ≠ .running := fun hr ↦ hp (running_step i.input _ hr)
  obtain ⟨hzero, hpending⟩ := h.rested hphase
  have hmove := single_of_move (x := x) (pages_move r .toDualsense i.input) (h.none_out hok)
  have hnorec : r.cause i.input ≠ .reconnect .toDualsense := fun hc ↦
    absurd (hpending.symm.trans (h.reconnect hc).1) Bool.false_ne_true
  have hnoevent : ∀ e, r.cause i.input ≠ .event .toDualsense e := fun e hc ↦ hphase (running_of_event hc)
  have hw := (step_move r i.input).within
  constructor
  · have hle : (x.note r i).out .toDualsense ≤ x.out .toDualsense := by
      by_cases hc : r.cause i.input = .comingUp .toDualsense
      · exact out_note_of_waiting hc hp
      · refine hmove.2 ?_
        revert hc hnorec
        generalize r.cause i.input = cause
        intro hnorec hc hpages
        cases cause with
        | comingUp t => exact hc (by rw [hpages.1])
        | reconnect t => exact hnorec (by rw [hpages.1])
        | handover t => cases hpages.2.1
        | _ => exact hpages
    omega
  · rw [← hpending]
    refine reconnectPending_eq hw .toDualsense ?_
    revert hnorec hnoevent
    generalize r.cause i.input = cause
    intro hnorec hnoevent
    cases cause with
    | event t e =>
      cases t with
      | toDualsense => exact absurd rfl (hnoevent e)
      | toPlaystation => cases e <;> simp [Cause.aspects]
    | reconnect t =>
      cases t with
      | toDualsense => exact absurd rfl hnorec
      | toPlaystation => simp [Cause.aspects]
    | _ => simp [Cause.aspects, aclAspects]

/-- **One step.** -/
theorem Sound.step (h : x.Sound r) (hok : x.Spaced r i) :
    (x.note r i).Sound (r.step i.input) ∧ x.SinglePage r i := by
  refine ⟨⟨fun s ↦ timerOnce_step i.input (h.once s), fun s ↦ h.waiting_step hok, h.rested_step hok⟩, fun s ↦ ?_⟩
  exact (single_of_move (pages_move r s i.input) (h.none_out hok)).1

end PagesOut

/-- The relay and the pages that are out. -/
abbrev pagesStep : Relay × PagesOut → DialInput → Relay × PagesOut :=
  withHistory (fun r i ↦ r.step i.input) PagesOut.note

/-- **One page at a time.**  No page is issued while another of the same side is out, if each call of the
handover finds none out, and so does each timer that was started while one was, or that the handover paged
behind. -/
theorem one_page_at_a_time (c : Config) (is : List DialInput)
    (h : Along pagesStep (fun p i ↦ p.2.Spaced p.1 i) (.init c, {}) is) :
    Along pagesStep (fun p i ↦ p.2.SinglePage p.1 i) (.init c, {}) is := by
  let Inv (p : Relay × PagesOut) : Prop := p.2.Sound p.1
  have hinit : Inv (.init c, {}) :=
    { once := fun s ↦ by cases s <;> rfl
      waiting := fun _ _ _ ↦ rfl
      rested := fun _ ↦ ⟨rfl, rfl⟩ }
  have hstep : ∀ p i, Inv p → p.2.Spaced p.1 i → Inv (pagesStep p i) ∧ p.2.SinglePage p.1 i :=
    fun _ _ hp hok ↦ hp.step hok
  exact h.of_invariant hinit hstep

instance (r : Relay) (s : ConnectionSide) (c : Cause) : Decidable (r.pagesFor s c) := by
  cases c <;> (unfold Relay.pagesFor; infer_instance)

instance (x : PagesOut) (r : Relay) (i : DialInput) : Decidable (x.Spaced r i) := by
  unfold PagesOut.Spaced
  infer_instance

/-- The page of the start times out, and the timer pages again. -/
def calledAgain : List DialInput :=
  pageEnds ⟨1, 2, 3, 4, 5, 6⟩ HCI_PAGE_TIMEOUT ++ [{ input := .fire 0 }]

theorem one_page_at_a_time_retry :
    Along pagesStep (fun p i ↦ p.2.SinglePage p.1 i) (.init { dsAddr := ⟨1, 2, 3, 4, 5, 6⟩ }, {}) calledAgain :=
  one_page_at_a_time _ _ (by decide +kernel)

/-- A feature report the host sets. -/
def setReport (data : List UInt8) : Input :=
  .ep0 [.setup { requestType := 0x21, request := 0x09, value := 0x0300, length := 64, data := .ok data }]

/-- The host pairs the controller and sends the pair command twice; one handover has called the console. -/
def pairedTwice : List DialInput :=
  (Input.bringUp .toPlaystation ++ [Input.commandRoom .toPlaystation] ++ Input.gadgetUp ⟨1, 2, 3, 4, 5, 6⟩
    ++ [setReport (REPORT_PAIRING_SET :: List.replicate 6 7 ++ List.replicate 17 1),
      setReport [REPORT_TRANSPORT, 0x01], setReport [REPORT_TRANSPORT, 0x01], .fire 0]).map ({ input := · })

def secondHandover : DialInput := { input := .fire 0 }

def beforeHandover : Relay × PagesOut := run pagesStep (.init { dsAddr := ⟨1, 2, 3, 4, 5, 6⟩ }, {}) pairedTwice

/-- The other handover pages while that call is out. -/
theorem second_page_while_one_is_out :
    ¬ Along pagesStep (fun p i ↦ p.2.SinglePage p.1 i) (.init { dsAddr := ⟨1, 2, 3, 4, 5, 6⟩ }, {})
      (pairedTwice ++ [secondHandover]) := by
  intro h
  have hsingle : beforeHandover.2.SinglePage beforeHandover.1 secondHandover := (along_append.mp h).2.1
  have htwice : ¬ Along (PagesOut.observe .toPlaystation)
      (fun k o ↦ o.isPage .toPlaystation = true → k = 0)
      (beforeHandover.2.noteInput .toPlaystation beforeHandover.1 secondHandover)
      (beforeHandover.1.added secondHandover.input) := by decide +kernel
  exact htwice (hsingle .toPlaystation)

end DualSenseMitm
