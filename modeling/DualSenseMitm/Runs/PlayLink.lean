import DualSenseMitm.Runs.Pages
import DualSenseMitm.Sending

/-!
# The play link

The console registers the controller from one radio and plays through another.  The link the second
radio calls on is the play link, and `on_play_link_` is to say that the relay is on it: only then may
the adapter stop listening a quarter of the time.  The code infers it from a second link that comes up
while there is one.

* `PlayLink` — whether the current link is the console's call from its other radio, read off the calls
  and pages themselves, and whether output has come since the link came up.
* `PlayLink.Truthful` — `on_play_link_` says so, the adapter listens at its normal pace once output has come
  on a play link, and no page of ours takes the place of one.
* `play_link_marked` — that is so exactly when links come up next to the current one just when they are
  the other radio's calls.
-/

set_option autoImplicit false

namespace DualSenseMitm

open Bytes Machine Relay

/-- The page scan activity a command sets on one side. -/
def Output.pageScan? (s : ConnectionSide) : Output → Option (List UInt8)
  | .cmdIssued t c => if t = s ∧ writesPageScan c.ogf c.ocf = true then some c.param else none
  | _ => none

/-- The standard window, every 1.28 seconds. -/
def normalPageScan : List UInt8 := put16 PAGE_SCAN_INTERVAL_NORMAL ++ put16 PAGE_SCAN_WINDOW_NORMAL

namespace Relay

/-- The page scan activity the adapter of one side was last given. -/
def pageScan (r : Relay) (s : ConnectionSide) : Option (List UInt8) :=
  (r.out.filterMap (Output.pageScan? s)).getLast?

/-- The mark of the console's handler. -/
abbrev onPlayLink (r : Relay) : Bool := (r.h .toPlaystation).links.onPlayLink

/-- The console's handler has seen output since its channels were reset. -/
abbrev outputSeen (r : Relay) : Bool := (r.h .toPlaystation).channels.consoleOutputSeen

/-- A link of the console with this handle is another one than the current. -/
def besideCurrent (r : Relay) (handle : UInt16) : Bool :=
  (r.h .toPlaystation).links.connectionHandle != 0 && (r.h .toPlaystation).links.connectionHandle != handle

/-- A link that comes up is the console's call from a radio other than the one it registered us with. -/
def playCall (r : Relay) (ours : Bool) (e : EvtConnComplete) : Bool :=
  !ours && decide (r.fromPeer .toPlaystation e.bdaddr) && e.bdaddr != r.peer .toPlaystation

/-- An ACL packet completes output of the console. -/
def consoleOutput (r : Relay) (p : PacketContents) : Bool :=
  match r.contentsOf .toPlaystation p with
  | .payload cid _ => cid == Channel.hidInterrupt.scid
  | _ => false

end Relay

/-- What the play link is known from. -/
structure PlayLink where
  /-- The current link is the console's call from its other radio. -/
  play : Bool := false
  /-- Output has come since the current link came up. -/
  output : Bool := false

namespace PlayLink

/-- Behind one cause, with the answer whether a Connection Complete ends our own page. -/
def noteCause (x : PlayLink) (r : Relay) (ours : Bool) : Cause → PlayLink
  | .event .toPlaystation (.connectionComplete e) =>
    if e.status = HCI_SUCCESS then { play := r.playCall ours e, output := false } else x
  | .event .toPlaystation (.disconnectComplete e) =>
    if e.handle = (r.h .toPlaystation).links.connectionHandle then {} else x
  | .acl .toPlaystation p => if r.consoleOutput p then { x with output := true } else x
  | _ => x

def note (x : PlayLink) (r : Relay) (i : DialInput) : PlayLink := x.noteCause r i.ours (r.cause i.input)

/-- The mark tells the truth about this step. -/
structure Truthful (x : PlayLink) (r : Relay) (i : DialInput) : Prop where
  marked : (r.step i.input).onPlayLink = (x.note r i).play
  quiet : (x.note r i).play = true → (x.note r i).output = true →
    (r.step i.input).pageScan .toPlaystation = some normalPageScan
  kept : x.play = true → i.ours = true → ∀ e, (r.cause i.input).completed? = some (.toPlaystation, e) →
    ((r.step i.input).h .toPlaystation).links.connectionHandle = (r.h .toPlaystation).links.connectionHandle

/-- A link that comes up is the other radio's call just when it comes up next to another link, or takes
the place of such a call. -/
def CallsMove (x : PlayLink) (r : Relay) (i : DialInput) : Prop :=
  ∀ e, (r.cause i.input).completed? = some (.toPlaystation, e) → e.status = HCI_SUCCESS →
    r.playCall i.ours e = (x.play || r.besideCurrent e.handle)

end PlayLink

/-- The relay and its play link. -/
abbrev playStep : Relay × PlayLink → DialInput → Relay × PlayLink :=
  withHistory (fun r i ↦ r.step i.input) PlayLink.note

namespace Relay

variable {r r' : Relay} {s : ConnectionSide}

/-! ## How often the adapter listens -/

theorem pageScan_eq {A : Set Aspect} (h : Performs (Op.Within A) r r') (hA : .pacing s ∉ A) :
    r'.pageScan s = r.pageScan s := by
  obtain ⟨new, hout, hnew⟩ := h.out
  have hnone : new.filterMap (Output.pageScan? s) = [] := by
    rw [List.filterMap_eq_nil_iff]
    intro o ho
    cases o with
    | cmdIssued t c =>
      refine if_neg ?_
      rintro ⟨rfl, hw⟩
      have hw' : CommandWithin A t c.ogf c.ocf := (hnew _ ho).within rfl rfl
      exact hA (hw'.pacing hw)
    | _ => rfl
  rw [pageScan, hout, List.filterMap_append, hnone, List.append_nil, pageScan]

theorem pageScan_writePageScanActivity (r : Relay) (interval window : UInt16) :
    (r.writePageScanActivity s interval window).pageScan s = some (put16 interval ++ put16 window) := by
  have hpumped : ∀ ps : List (Command × Bool),
      (ps.map (pumpOutput s)).filterMap (Output.pageScan? s) = [] := by
    intro ps
    rw [List.filterMap_eq_nil_iff]
    intro o ho
    obtain ⟨p, -, rfl⟩ := List.mem_map.mp ho
    rw [pumpOutput]
    split <;> rfl
  have hissued : Output.pageScan? s (.cmdIssued s (r.command s OGF_HOST_CTL OCF_WRITE_PAGE_ACTIVITY
      (put16 interval ++ put16 window) "write page scan activity")) = some (put16 interval ++ put16 window) :=
    if_pos ⟨rfl, rfl⟩
  rw [pageScan, writePageScanActivity, out_sendCmd, List.filterMap_append, List.filterMap_cons_some hissued,
    hpumped, List.getLast?_append]
  rfl

/-! ## The marks -/

/-- The marks of the console's handler, and the pace at which its adapter listens. -/
structure PlayMarks where
  onPlay : Bool
  output : Bool
  pageScan : Option (List UInt8)

def playMarks (r : Relay) : PlayMarks := ⟨r.onPlayLink, r.outputSeen, r.pageScan .toPlaystation⟩

/-- Behind output of the console. -/
def PlayMarks.afterOutput (m : PlayMarks) : PlayMarks :=
  if m.output then m else ⟨m.onPlay, true, if m.onPlay then some normalPageScan else m.pageScan⟩

theorem PlayMarks.output_afterOutput (m : PlayMarks) : m.afterOutput.output = true := by
  rw [PlayMarks.afterOutput]
  split
  · assumption
  · rfl

theorem PlayMarks.onPlay_afterOutput (m : PlayMarks) : m.afterOutput.onPlay = m.onPlay := by
  rw [PlayMarks.afterOutput]
  split <;> rfl

/-- The marks behind a cause, if it is no handler coming up. -/
def marksAfter (r : Relay) : Cause → PlayMarks
  | .event .toPlaystation (.connectionComplete e) =>
    if e.status = HCI_SUCCESS ∧ r.besideCurrent e.handle = true then ⟨true, false, r.pageScan .toPlaystation⟩
    else r.playMarks
  | .event .toPlaystation (.disconnectComplete e) =>
    if e.handle = (r.h .toPlaystation).links.connectionHandle then
      ⟨false, false, some (put16 PAGE_SCAN_INTERVAL_EAGER ++ put16 PAGE_SCAN_WINDOW_EAGER)⟩
    else r.playMarks
  | .acl .toPlaystation p => if r.consoleOutput p then r.playMarks.afterOutput else r.playMarks
  | _ => r.playMarks

theorem playMarks_eq {A : Set Aspect} (h : Performs (Op.Within A) r r') (hl : .links ∉ A)
    (hK : .console .toPlaystation ∉ A) (hP : .pacing .toPlaystation ∉ A) : r'.playMarks = r.playMarks := by
  have hseen : r'.outputSeen = r.outputSeen := congrArg Prod.snd (console_eq h .toPlaystation hl hK)
  rw [playMarks, pageScan_eq h hP, hseen, onPlayLink, onPlayLink_eq h .toPlaystation hl, playMarks]

theorem besideCurrent_iff {handle : UInt16} : r.besideCurrent handle = true
    ↔ (r.h .toPlaystation).links.connectionHandle ≠ 0 ∧ (r.h .toPlaystation).links.connectionHandle ≠ handle := by
  rw [besideCurrent, Bool.and_eq_true, bne_iff_ne, bne_iff_ne]

/-- The mark is set where the peer moves to another link, and the channels start over. -/
theorem marks_leaveOldLink (r : Relay) (t : ConnectionSide) (handle : UInt16) :
    ((r.leaveOldLink t handle).onPlayLink, (r.leaveOldLink t handle).outputSeen)
      = if t = .toPlaystation ∧ r.besideCurrent handle = true then (true, false)
        else (r.onPlayLink, r.outputSeen) := by
  unfold leaveOldLink
  dsimp only
  cases t with
  | toDualsense =>
    have hnot : ¬ (ConnectionSide.toDualsense = .toPlaystation ∧ r.besideCurrent handle = true) :=
      fun h ↦ by cases h.1
    rw [if_neg hnot]
    split
    · simp [resetChannels, onPlayLink, outputSeen]
    · rfl
  | toPlaystation =>
    by_cases hb : r.besideCurrent handle = true
    · rw [if_pos (besideCurrent_iff.mp hb), if_pos ⟨rfl, hb⟩]
      simp [resetChannels, onPlayLink, outputSeen]
    · rw [if_neg fun h ↦ hb (besideCurrent_iff.mpr h), if_neg fun h ↦ hb h.2]

theorem playMarks_connected (r : Relay) (t : ConnectionSide) (e : EvtConnComplete) :
    (r.connected t e).playMarks
      = if t = .toPlaystation ∧ r.besideCurrent e.handle = true then ⟨true, false, r.pageScan .toPlaystation⟩
        else r.playMarks := by
  have hscan : (r.connected t e).pageScan .toPlaystation = r.pageScan .toPlaystation := by
    refine pageScan_eq (within_connected (A := {.links, .pacing .toDualsense}) r t (by simp) ?_ e) (by simp)
    rintro rfl
    simp
  suffices hmarks : ((r.connected t e).onPlayLink, (r.connected t e).outputSeen)
      = ((r.leaveOldLink t e.handle).onPlayLink, (r.leaveOldLink t e.handle).outputSeen) by
    rw [marks_leaveOldLink] at hmarks
    rw [playMarks, hscan]
    split at hmarks
    · rename_i hb
      obtain ⟨hplay, hseen⟩ := Prod.mk.inj hmarks
      rw [if_pos hb, hplay, hseen]
    · rename_i hb
      obtain ⟨hplay, hseen⟩ := Prod.mk.inj hmarks
      rw [if_neg hb, hplay, hseen, playMarks]
  clear hscan
  unfold connected
  extract_lets r₂ r₃ r₄ r₅ r₆
  have hrest : Performs (Op.Within {.pacing t}) r₃ r₆ := by
    have h₅ : Performs Op.Quiet r₃ r₅ :=
      (quiet_onPaging r₃ t fun _ ↦ by rfl).trans (quiet_endHandoverPaging r₄ t)
    exact .ite (fun _ ↦ h₅.within.trans (within_writePageScanActivity r₅ t (by rfl) _ _)) fun _ ↦ h₅.within
  have hplay := onPlayLink_eq hrest .toPlaystation (by simp)
  have hseen : r₆.outputSeen = r₃.outputSeen :=
    congrArg Prod.snd (console_eq hrest .toPlaystation (by simp) (by simp))
  have h₃ : (r₃.onPlayLink, r₃.outputSeen) = (r₂.onPlayLink, r₂.outputSeen) := by
    cases t <;> simp [r₃, onPlayLink, outputSeen]
  rw [show r₃.onPlayLink = r₆.onPlayLink from hplay.symm, ← hseen] at h₃
  rw [← h₃]
  cases t <;> simp [onPlayLink, outputSeen]

theorem playMarks_handleConnectionComplete (r : Relay) (t : ConnectionSide) {p : PacketContents}
    {e : EvtConnComplete × PacketContents} (hp : EvtConnComplete.get? p = some e) :
    (r.handleConnectionComplete t p).playMarks = r.marksAfter (.event t (.connectionComplete e.1)) := by
  have hover := within_pageOver (A := {.linkNotes, .scanning t.other}) r t (by simp) (by simp) e.1.status
  have hsame : (r.pageOver t e.1.status).playMarks = r.playMarks :=
    playMarks_eq hover (by simp) (by simp) (by simp)
  have hbeside : (r.pageOver t e.1.status).besideCurrent e.1.handle = r.besideCurrent e.1.handle := by
    have hlink := congrArg Prod.fst (openLinks_eq hover .toPlaystation (by simp))
    rw [besideCurrent, besideCurrent, show ((r.pageOver t e.1.status).h .toPlaystation).links.connectionHandle
      = (r.h .toPlaystation).links.connectionHandle from hlink]
  have hafter : r.marksAfter (.event t (.connectionComplete e.1))
      = if t = .toPlaystation ∧ e.1.status = HCI_SUCCESS ∧ r.besideCurrent e.1.handle = true then
          ⟨true, false, r.pageScan .toPlaystation⟩ else r.playMarks := by
    cases t with
    | toDualsense => rfl
    | toPlaystation => exact if_congr (by simp) rfl rfl
  rw [handleConnectionComplete_eq r t hp, hafter]
  by_cases hs : e.1.status = HCI_SUCCESS
  · have hup := playMarks_connected (r.pageOver t e.1.status) t e.1
    rw [hbeside, hsame, show (r.pageOver t e.1.status).pageScan .toPlaystation = r.pageScan .toPlaystation from
      congrArg PlayMarks.pageScan hsame] at hup
    have hauth := playMarks_eq (within_requestAuthentication (A := {.authenticating t})
      ((r.pageOver t e.1.status).connected t e.1) t (by rfl) e.1.handle) (by simp) (by simp) (by simp)
    rw [if_neg (not_not_intro hs), apply_ite playMarks, hauth, ite_self, hup]
    exact if_congr (by simp [hs]) rfl rfl
  · rw [if_pos hs, if_neg fun h ↦ hs h.2.1, ← hsame]
    exact playMarks_eq (within_handleConnectionFailure (A := {.timing t}) _ t (by rfl) e.1) (by simp) (by simp)
      (by simp)

theorem pageScan_currentGone (r : Relay) : (r.currentGone .toPlaystation).pageScan .toPlaystation
    = some (put16 PAGE_SCAN_INTERVAL_EAGER ++ put16 PAGE_SCAN_WINDOW_EAGER) := by
  unfold currentGone
  extract_lets r₃ r₄ r₅ r₆
  have hrest : Performs (Op.Within {.links, .scanning .toPlaystation})
      ((r₄.onLinks .toPlaystation fun l ↦ { l with onPlayLink := false }).writePageScanActivity .toPlaystation
        PAGE_SCAN_INTERVAL_EAGER PAGE_SCAN_WINDOW_EAGER) (r₆.resetChannels .toPlaystation) :=
    ((within_writeScanEnable _ _ (by simp) _).trans (within_onLinks r₅ _ (by simp) _)).trans
      (within_resetChannels r₆ _ (by simp))
  rw [pageScan_eq hrest (by simp), pageScan_writePageScanActivity]

theorem playMarks_handleDisconnectComplete (r : Relay) (t : ConnectionSide) {p : PacketContents}
    {e : EvtDisconnComplete × PacketContents} (hp : EvtDisconnComplete.get? p = some e) :
    (r.handleDisconnectComplete t p).playMarks = r.marksAfter (.event t (.disconnectComplete e.1)) := by
  have hscan : (r.linkGone t e.1.handle).pageScan .toPlaystation = r.pageScan .toPlaystation :=
    pageScan_eq (within_linkGone (A := {.links}) r t (by rfl) _) (by simp)
  have hgone : (r.linkGone t e.1.handle).playMarks = r.playMarks := by
    rw [playMarks, hscan]
    cases t <;> simp [linkGone, onPlayLink, outputSeen, playMarks]
  rw [handleDisconnectComplete_eq r t hp]
  by_cases hcur : e.1.handle = (r.h t).links.connectionHandle
  · have hlast := playMarks_eq (within_scheduleReconnect (A := {.timing t})
      ((r.linkGone t e.1.handle).currentGone t) t (by rfl) (reconnectDelay t e.1)) (by simp) (by simp) (by simp)
    rw [if_neg (not_not_intro hcur), hlast]
    cases t with
    | toDualsense =>
      have hscan' : ((r.linkGone .toDualsense e.1.handle).currentGone .toDualsense).pageScan .toPlaystation
          = r.pageScan .toPlaystation :=
        (pageScan_eq (within_currentGone (A := {.links, .pacing .toDualsense}) _ .toDualsense (by simp)
          (fun h ↦ by cases h) (by simp)) (by simp)).trans hscan
      rw [playMarks, hscan', ← hscan]
      refine Eq.trans ?_ hgone
      simp [currentGone, resetChannels, writePageScanActivity, onPlayLink, outputSeen, playMarks]
    | toPlaystation =>
      rw [playMarks, pageScan_currentGone, marksAfter, if_pos hcur]
      simp [currentGone, resetChannels, writePageScanActivity, writeScanEnable, onPlayLink, outputSeen]
  · rw [if_pos hcur, hgone]
    cases t with
    | toDualsense => rfl
    | toPlaystation => rw [marksAfter, if_neg hcur]

/-! ## Output of the console -/

/-- The first output on a play link is what lets the adapter rest. -/
theorem playMarks_relayConsoleOutputToPad (r : Relay) (report : List UInt8) :
    (r.relayConsoleOutputToPad .toPlaystation report).playMarks = r.playMarks.afterOutput := by
  have hrest := playMarks_eq (A := ∅) (quiet_behindNoteConsoleOutput r report).within (by simp) (by simp) (by simp)
  rw [hrest, noteConsoleOutput, PlayMarks.afterOutput]
  by_cases hseen : r.outputSeen = true
  · rw [if_pos hseen, if_pos (show r.playMarks.output = true from hseen)]
  · rw [if_neg hseen, if_neg (show ¬ r.playMarks.output = true from hseen)]
    generalize ha : r.onChannels .toPlaystation (fun c ↦ { c with consoleOutputSeen := true }) = a
    have hplay : a.onPlayLink = r.onPlayLink := by simp [← ha, onPlayLink]
    have hout : a.outputSeen = true := by simp [← ha, outputSeen]
    have hscan : a.pageScan .toPlaystation = r.pageScan .toPlaystation := by rw [← ha]; rfl
    rw [quietTheRadio, show (a.h .toPlaystation).links.onPlayLink = r.onPlayLink from hplay]
    by_cases hp : r.onPlayLink = true
    · have hquiet := pageScan_writePageScanActivity (s := .toPlaystation) a PAGE_SCAN_INTERVAL_NORMAL
        PAGE_SCAN_WINDOW_NORMAL
      have hw := within_writePageScanActivity (A := {.pacing .toPlaystation}) a .toPlaystation (by rfl)
        PAGE_SCAN_INTERVAL_NORMAL PAGE_SCAN_WINDOW_NORMAL
      have hseen' := congrArg Prod.snd (console_eq hw .toPlaystation (by simp) (by simp))
      rw [if_pos hp, if_pos (show r.playMarks.onPlay = true from hp), playMarks, hquiet, onPlayLink,
        onPlayLink_eq hw .toPlaystation (by simp), show Relay.outputSeen _ = a.outputSeen from hseen', hout]
      exact congrArg (PlayMarks.mk · true (some normalPageScan)) hplay
    · rw [if_neg hp, if_neg (show ¬ r.playMarks.onPlay = true from hp), playMarks, hplay, hout, hscan]
      rfl

theorem playMarks_routePayload (r : Relay) (t : ConnectionSide) (cid : UInt16) (payload : List UInt8) :
    (r.routePayload t cid payload).playMarks
      = if t = .toPlaystation ∧ cid = Channel.hidInterrupt.scid then r.playMarks.afterOutput
        else r.playMarks := by
  cases t with
  | toDualsense =>
    have hnot : ¬ (ConnectionSide.toDualsense = .toPlaystation ∧ cid = Channel.hidInterrupt.scid) :=
      fun h ↦ by cases h.1
    rw [if_neg hnot]
    exact playMarks_eq (within_routePayload
      (A := {.relaying .toPlaystation, .reports, .forwarding, .console .toDualsense, .pacing .toDualsense})
      r .toDualsense (by simp) (by simp) (by simp) (by simp) (by simp) cid payload) (by simp) (by simp) (by simp)
  | toPlaystation =>
    by_cases hI : cid = Channel.hidInterrupt.scid
    · subst hI
      rw [if_pos ⟨rfl, rfl⟩]
      exact playMarks_relayConsoleOutputToPad r payload
    · rw [if_neg fun h ↦ hI h.2]
      by_cases hC : cid = Channel.hidControl.scid
      · subst hC
        change (r.handleFeatureRequestFromConsole .toPlaystation payload).playMarks = r.playMarks
        unfold handleFeatureRequestFromConsole
        extract_lets r₁
        have h₁ : r₁.playMarks = r.playMarks := by
          simp only [r₁]
          split
          · simp [playMarks, onPlayLink, outputSeen, pageScan]
          · rfl
        split
        · rw [← h₁]
          exact playMarks_eq (A := ∅) (quiet_l2capSendHid r₁ _ _ _).within (by simp) (by simp) (by simp)
        · exact h₁
      · unfold routePayload
        rw [if_neg hC, if_neg hI]
        refine playMarks_eq (A := {.forwarding}) (.ite (fun _ ↦ ?_) fun _ ↦ .ite (fun _ ↦ ?_) fun _ ↦ .refl r)
          (by simp) (by simp) (by simp)
        · exact within_handleSdpAnswerFromPad r _ (by rfl) payload
        · exact within_handleSdpQuery r _ (by rfl) payload

theorem playMarks_handleAcl (r : Relay) (t : ConnectionSide) (p : PacketContents) :
    (r.handleAcl t p).playMarks = r.marksAfter (.acl t p) := by
  have hreasm : ∀ (a : Relay) re, (a.setReasm t (aclHandle p) re).playMarks = a.playMarks := fun a re ↦
    playMarks_eq (within_setReasm (A := {.linkNotes}) a t (by rfl) _ re) (by simp) (by simp) (by simp)
  have harriving : ∀ re pdu, (r.arriving t p re pdu).playMarks = r.playMarks := fun re pdu ↦
    playMarks_eq (within_arriving (A := {.linkNotes, .routing}) r t (by simp) (by simp) p re pdu) (by simp)
      (by simp) (by simp)
  have hafter : r.marksAfter (.acl t p)
      = match r.contentsOf t p with
        | .payload cid _ =>
          if t = .toPlaystation ∧ cid = Channel.hidInterrupt.scid then r.playMarks.afterOutput else r.playMarks
        | _ => r.playMarks := by
    cases t with
    | toDualsense => split <;> simp [marksAfter]
    | toPlaystation =>
      rw [marksAfter, consoleOutput]
      split <;> simp
  have hpart := acl_part r t p
  rw [hafter]
  revert hpart
  generalize r.contentsOf t p = contents
  generalize r.handleAcl t p = r'
  intro hpart
  cases hpart with
  | nothing h => exact playMarks_eq h (by simp) (by simp) (by simp)
  | @command re pdu q _ h =>
    obtain ⟨re', rfl⟩ := h
    dsimp only
    rw [hreasm, ← harriving re pdu]
    exact playMarks_eq (within_handleL2capCmd (A := {.signalling t, .binding t}) _ t (by simp) (by simp) q)
      (by simp) (by simp) (by simp)
  | @payload re pdu cid data _ h =>
    obtain ⟨re', rfl⟩ := h
    dsimp only
    rw [hreasm, playMarks_routePayload, harriving re pdu]

/-- **The marks behind a step.** -/
theorem playMarks_step (r : Relay) (i : Input) (hc : r.cause i ≠ .comingUp .toPlaystation) :
    (r.step i).playMarks = r.marksAfter (r.cause i) := by
  have hm := step_move r i
  have hw := hm.within
  revert hm hw hc
  generalize r.cause i = cause
  generalize r.step i = r'
  intro hc hm hw
  cases hm with
  | quiet h hq =>
    rw [playMarks_eq (A := ∅) h.within (by simp) (by simp) (by simp)]
    cases cause with
    | event t e =>
      cases e with
      | connectionComplete | disconnectComplete => exact absurd hq (Set.insert_nonempty _ _).ne_empty
      | _ => cases t <;> rfl
    | acl t p => exact absurd hq (Set.insert_nonempty _ _).ne_empty
    | _ => rfl
  | connectionComplete hp => exact playMarks_handleConnectionComplete r _ hp
  | disconnectComplete hp => exact playMarks_handleDisconnectComplete r _ hp
  | acl => exact playMarks_handleAcl r _ _
  | comingUp =>
    rename_i s h
    cases s with
    | toDualsense => exact playMarks_eq h (by simp [Cause.aspects]) (by simp [Cause.aspects]) (by simp [Cause.aspects])
    | toPlaystation => exact absurd rfl hc
  | connRequest | modeChange | linkKeyRequest | linkKeyNotify | authComplete | encryptChange | cmdStatus
  | numCompletedPackets | bufferSize =>
    rw [playMarks_eq hw (by simp [Cause.aspects]) (by simp [Cause.aspects]) (by simp [Cause.aspects])]
    cases ‹ConnectionSide› <;> rfl
  | _ =>
    rw [playMarks_eq hw (by simp [Cause.aspects]) (by simp [Cause.aspects]) (by simp [Cause.aspects])]
    rfl

/-! ## A handler that is not up yet -/

/-- The console's handler is in its read loop, or has been on no link. -/
def Rested (r : Relay) : Prop := (r.h .toPlaystation).phase ≠ .running → r.onPlayLink = false

/-- A handler that is up stays up, and one that is not stays so unless it comes up. -/
theorem running_step (i : Input) (t : ConnectionSide) (h : (r.h t).phase = .running) :
    ((r.step i).h t).phase = .running := by
  by_cases hc : ∃ s, r.cause i = .comingUp s
  · obtain ⟨s, hc⟩ := hc
    have hup := comingUp_move hc
    revert hup
    generalize r.step i = r'
    intro hup
    cases hup with
    | waiting _ hp => exact (hp t).mpr h
    | @up mid _ hp hp' =>
      rw [phase_eq (within_startPaging (A := {.calling s, .scanning s, .scanning s.other}) mid s (by simp)
        (by simp) (by simp)) t (by simp), hp' t]
      split
      · rfl
      · exact h
  · have hnot : .comingUp ∉ (r.cause i).aspects := by
      revert hc
      generalize r.cause i = cause
      intro hc
      cases cause with
      | event s e => cases e <;> simp [Cause.aspects]
      | comingUp s => exact absurd ⟨s, rfl⟩ hc
      | _ => simp [Cause.aspects, aclAspects]
    rw [phase_eq (step_move r i).within t hnot, h]

/-- An event of the console's adapter is only read by a handler that is up. -/
theorem running_of_event {i : Input} {e : Event} (hc : r.cause i = .event s e) : (r.h s).phase = .running := by
  cases i with
  | packet t bytes =>
    unfold cause at hc
    dsimp only at hc
    cases hp : (r.h t).phase with
    | running =>
      rw [hp] at hc
      dsimp only at hc
      unfold causeOfPacket at hc
      split at hc
      · cases hc
      · split at hc
        · cases hc
          exact hp
        · split at hc <;> cases hc
    | _ => rw [hp] at hc; cases hc
  | fire k =>
    unfold cause at hc
    dsimp only at hc
    split at hc <;> cases hc
  | _ => cases hc

/-- The marks behind any step. -/
theorem marks_step (r : Relay) (i : Input) : (r.step i).onPlayLink = (r.marksAfter (r.cause i)).onPlay
    ∧ (r.step i).outputSeen = (r.marksAfter (r.cause i)).output := by
  by_cases hc : r.cause i = .comingUp .toPlaystation
  · have hw := (step_move r i).within
    rw [hc] at hw ⊢
    exact ⟨onPlayLink_eq hw _ (by simp [Cause.aspects]),
      congrArg Prod.snd (console_eq hw _ (by simp [Cause.aspects]) (by simp [Cause.aspects]))⟩
  · rw [← playMarks_step r i hc]
    exact ⟨rfl, rfl⟩

theorem rested_step (i : Input) (h : r.Rested) : (r.step i).Rested := by
  intro hphase
  have hbefore : (r.h .toPlaystation).phase ≠ .running := fun hp ↦ hphase (running_step i _ hp)
  have hflag := h hbefore
  have hevent : ∀ e, r.cause i ≠ .event .toPlaystation e := fun e hc ↦ hbefore (running_of_event hc)
  rw [(marks_step r i).1]
  revert hevent
  generalize r.cause i = cause
  intro hevent
  cases cause with
  | event t e =>
    cases t with
    | toDualsense => exact hflag
    | toPlaystation => exact absurd rfl (hevent e)
  | acl t p =>
    cases t with
    | toDualsense => exact hflag
    | toPlaystation =>
      rw [marksAfter]
      split
      · rwa [PlayMarks.onPlay_afterOutput]
      · exact hflag
  | _ => exact hflag

/-- Once output has come on a play link, the adapter listens at its normal pace. -/
def PlayMarks.Quieted (m : PlayMarks) : Prop :=
  m.onPlay = true → m.output = true → m.pageScan = some normalPageScan

theorem PlayMarks.Quieted.afterOutput {m : PlayMarks} (h : m.Quieted) : m.afterOutput.Quieted := by
  rw [PlayMarks.afterOutput]
  split
  · exact h
  · exact fun hplay _ ↦ if_pos hplay

theorem quieted_marksAfter (h : r.playMarks.Quieted) (c : Cause) : (r.marksAfter c).Quieted := by
  unfold marksAfter
  split
  · split
    · exact fun _ hout ↦ by cases hout
    · exact h
  · split
    · exact fun hplay ↦ by cases hplay
    · exact h
  · split
    · exact h.afterOutput
    · exact h
  · exact h

/-- **One step.**  Only output on the play link, and the end of the link, change the pace. -/
theorem quieted_step (i : Input) (hr : r.Rested) (h : r.playMarks.Quieted) : (r.step i).playMarks.Quieted := by
  by_cases hc : r.cause i = .comingUp .toPlaystation
  · have hflag : (r.step i).onPlayLink = r.onPlayLink := by rw [(marks_step r i).1, hc]; rfl
    have hup := comingUp_move hc
    revert hup hflag
    generalize r.step i = r'
    intro hflag hup
    cases hup with
    | waiting hw => rwa [playMarks_eq hw (by simp) (by simp) (by simp)]
    | up _ hp =>
      intro hplay
      rw [show PlayMarks.onPlay _ = r.onPlayLink from hflag, hr hp] at hplay
      cases hplay
  · rw [playMarks_step r i hc]
    exact quieted_marksAfter h _

end Relay

/-! ## The mark and the play link -/

namespace PlayLink

variable {x : PlayLink} {r : Relay} {i : DialInput}

/-- Output that has come since the link came up has been seen. -/
theorem output_note (h : x.output = true → r.outputSeen = true) (hout : (x.note r i).output = true) :
    (r.step i.input).outputSeen = true := by
  rw [(marks_step r i.input).2]
  revert hout
  rw [note]
  generalize r.cause i.input = cause
  intro hout
  unfold noteCause at hout
  split at hout
  · rw [marksAfter]
    split at hout
    · cases hout
    · rename_i hs
      rw [if_neg fun hup ↦ hs hup.1]
      exact h hout
  · rw [marksAfter]
    split at hout
    · cases hout
    · rename_i hcur
      rw [if_neg hcur]
      exact h hout
  · rw [marksAfter]
    split at hout
    · rename_i hc
      rw [if_pos hc]
      exact PlayMarks.output_afterOutput _
    · rename_i hc
      rw [if_neg hc]
      exact h hout
  · rename_i hconnect hdisconnect hacl
    rw [marksAfter]
    · exact h hout
    · exact hconnect
    · exact hdisconnect
    · exact hacl

/-- The mark is true behind a step just when the links that come up are what they are taken for. -/
theorem marked_iff (hplay : r.onPlayLink = x.play) :
    (r.step i.input).onPlayLink = (x.note r i).play ↔ x.CallsMove r i := by
  rw [(marks_step r i.input).1, note, CallsMove]
  generalize r.cause i.input = cause
  unfold noteCause
  split
  · rename_i e
    rw [marksAfter]
    by_cases hs : e.status = HCI_SUCCESS
    · have hcalls : (∀ e', Cause.completed? (.event .toPlaystation (.connectionComplete e))
          = some (.toPlaystation, e') → e'.status = HCI_SUCCESS →
            r.playCall i.ours e' = (x.play || r.besideCurrent e'.handle))
          ↔ r.playCall i.ours e = (x.play || r.besideCurrent e.handle) :=
        ⟨fun h ↦ h e rfl hs, fun h e' he _ ↦ by cases he; exact h⟩
      rw [hcalls, if_pos hs, ← hplay]
      cases hb : r.besideCurrent e.handle with
      | true =>
        rw [if_pos ⟨hs, rfl⟩, Bool.or_true]
        exact eq_comm
      | false =>
        rw [if_neg fun h ↦ Bool.false_ne_true h.2, Bool.or_false]
        exact eq_comm
    · rw [if_neg hs, if_neg fun h ↦ hs h.1]
      exact iff_of_true hplay fun e' he hs' ↦ by cases he; exact absurd hs' hs
  · rw [marksAfter]
    split
    · exact iff_of_true rfl fun e he ↦ by cases he
    · exact iff_of_true hplay fun e he ↦ by cases he
  · rw [marksAfter]
    split
    · exact iff_of_true ((PlayMarks.onPlay_afterOutput _).trans hplay) fun e he ↦ by cases he
    · exact iff_of_true hplay fun e he ↦ by cases he
  · rename_i hconnect hdisconnect hacl
    rw [marksAfter]
    · refine iff_of_true hplay fun e he ↦ ?_
      cases cause with
      | event t e' =>
        cases e' with
        | connectionComplete e'' =>
          cases he
          exact absurd rfl (hconnect e)
        | _ => cases he
      | _ => cases he
    · exact hconnect
    · exact hdisconnect
    · exact hacl

/-- A page of ours takes the place of no play link. -/
theorem kept_of_callsMove (h : x.CallsMove r i) (hplay : x.play = true) (hours : i.ours = true)
    {e : EvtConnComplete} (hc : (r.cause i.input).completed? = some (.toPlaystation, e)) :
    ((r.step i.input).h .toPlaystation).links.connectionHandle
      = (r.h .toPlaystation).links.connectionHandle := by
  have hlinks := congrArg Prod.fst (openLinks_step r i.input .toPlaystation)
  refine hlinks.trans ?_
  have hfail : e.status ≠ HCI_SUCCESS := fun hs ↦ by
    have hcall := h e hc hs
    rw [hplay, hours, playCall, Bool.not_true, Bool.false_and, Bool.false_and, Bool.true_or] at hcall
    cases hcall
  revert hc
  generalize r.cause i.input = cause
  intro hc
  cases cause with
  | event t e' =>
    cases e' with
    | connectionComplete e'' =>
      cases hc
      rw [linksAfter, if_neg fun h ↦ hfail h.2]
      rfl
    | _ => cases hc
  | _ => cases hc

end PlayLink

open PlayLink

/-- **The play link.**  The mark tells the truth along a run exactly when each link of the console that
comes up is its other radio's call just when it comes up next to the current link, or takes the place of
such a call. -/
theorem play_link_marked (c : Config) (is : List DialInput) :
    Along playStep (fun p i ↦ p.2.Truthful p.1 i) (.init c, {}) is
      ↔ Along playStep (fun p i ↦ p.2.CallsMove p.1 i) (.init c, {}) is := by
  let Inv (p : Relay × PlayLink) : Prop := p.1.Rested ∧ p.1.playMarks.Quieted
    ∧ (p.2.output = true → p.1.outputSeen = true) ∧ p.1.onPlayLink = p.2.play
  have hinit : Inv (.init c, {}) := by
    refine ⟨fun _ ↦ rfl, fun hplay ↦ ?_, fun hout ↦ ?_, rfl⟩
    · cases hplay
    · cases hout
  have hstep : ∀ p i, Inv p → p.2.CallsMove p.1 i → Inv (playStep p i) ∧ p.2.Truthful p.1 i := by
    rintro ⟨r, x⟩ i ⟨hr, hq, hout, hplay⟩ hcalls
    have hmarked : (r.step i.input).onPlayLink = (x.note r i).play := (marked_iff hplay).mpr hcalls
    have hq' := quieted_step i.input hr hq
    refine ⟨⟨rested_step i.input hr, hq', output_note hout, hmarked⟩, hmarked, fun hp ho ↦ ?_, fun hp ho e hc ↦ ?_⟩
    · exact hq' (hmarked.trans hp) (output_note hout ho)
    · exact kept_of_callsMove hcalls hp ho hc
  constructor
  · exact fun h ↦ h.of_invariant hinit fun p i hp hok ↦
      have hcalls : p.2.CallsMove p.1 i := (marked_iff hp.2.2.2).mp hok.marked
      ⟨(hstep p i hp hcalls).1, hcalls⟩
  · exact fun h ↦ h.of_invariant hinit hstep

/-- The console lets the link of its registration go, calls from its other radio and opens its interrupt
channel there. -/
def calledBack : List DialInput :=
  (Input.bringUp .toPlaystation ++ Input.incomingCall .toPlaystation ⟨7, 7, 7, 7, 7, 7⟩ 2
    ++ [Input.hangUp .toPlaystation 2 DISCONNECT_REMOTE_USER]
    ++ Input.incomingCall .toPlaystation ⟨9, 7, 7, 7, 7, 7⟩ 3
    ++ [Input.openChannel .toPlaystation 3 Channel.hidInterrupt.psm 0x40]).map ({ input := · })

def firstOutput : DialInput :=
  { input := .data .toPlaystation 3 Channel.hidInterrupt.scid [HIDP_DATA_OUTPUT, REPORT_BT] }

def beforeOutput : Relay × PlayLink := run playStep (.init .session, {}) calledBack

/-- The play link is not marked, and the adapter goes on listening a quarter of the time. -/
theorem play_link_unmarked :
    Along diallingStep (fun p i ↦ p.2.Plausible p.1 i) (.init .session, {}) (calledBack ++ [firstOutput])
      ∧ ¬ Along playStep (fun p i ↦ p.2.Truthful p.1 i) (.init .session, {}) (calledBack ++ [firstOutput]) := by
  refine ⟨by decide +kernel, fun h ↦ ?_⟩
  have htruth : beforeOutput.2.Truthful beforeOutput.1 firstOutput := (along_append.mp h).2.1
  have heager : (beforeOutput.1.step firstOutput.input).pageScan .toPlaystation ≠ some normalPageScan := by
    decide +kernel
  exact heager (htruth.quiet (by decide +kernel) (by decide +kernel))

end DualSenseMitm
