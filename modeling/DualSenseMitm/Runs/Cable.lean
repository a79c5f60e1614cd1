import DualSenseMitm.Runs.Accounts

/-!
# Input on the cable

The gadget is attached once, and the pair command detaches it.  While the host has it enabled each of the
pad's reports is submitted to the interrupt IN endpoint, unless the host has not taken the one before.

* `one_input_in_flight` — there is never more than one that the host has not taken.
* `detached_for_good` — behind the detachment the host is sent nothing more.
-/

set_option autoImplicit false

namespace DualSenseMitm

open Bytes Machine

/-- A report submitted to the interrupt IN endpoint. -/
def Output.isUsbInput : Output → Bool
  | .usbInput .. => true
  | _ => false

/-- One that was accepted, and that the host is to take. -/
def Output.isAccepted : Output → Bool
  | .usbInput _ ok => ok
  | _ => false

/-- Without input to the host there is none to take. -/
theorem countP_isAccepted {os : List Output} (h : ∀ o ∈ os, o.isUsbInput = false) :
    os.countP Output.isAccepted = 0 := by
  have hinput : ∀ o : Output, o.isAccepted = true → o.isUsbInput = true := fun o ho ↦ by
    cases o <;> first | rfl | cases ho
  refine List.countP_eq_zero.mpr fun o ho hacc ↦ ?_
  have hno := h o ho
  rw [hinput o hacc] at hno
  cases hno

/-! ## One report at a time -/

/-- What a step submits, it submits while the host reads and has taken the report before. -/
structure CableStep (t u : Tally) (new : List Output) : Prop where
  shown : u.shown = t.shown ++ new
  ready : (∃ o ∈ new, o.isUsbInput = true) → t.bound = true ∧ t.enabled = true ∧ t.inBusy = false
  busy : u.inBusy.toNat = t.inBusy.toNat + new.countP Output.isAccepted

namespace CableStep

variable {t u v : Tally}

/-- What is no input to the host. -/
theorem of_shown {os : List Output} (hshown : u.shown = t.shown ++ os) (hbusy : u.inBusy = t.inBusy)
    (hno : ∀ o ∈ os, o.isUsbInput = false) : CableStep t u os where
  shown := hshown
  ready := by
    rintro ⟨o, ho, hin⟩
    rw [hno o ho] at hin
    cases hin
  busy := by rw [hbusy, countP_isAccepted hno, Nat.add_zero]

theorem of_cable {report : List UInt8} (h : CableMove report t u) : ∃ new, CableStep t u new := by
  cases h with
  | none => exact ⟨[], of_shown (List.append_nil _).symm rfl (by simp)⟩
  | @sent usb ok hbound henabled hidle =>
    refine ⟨[.usbInput usb ok], rfl, fun _ ↦ ⟨hbound, henabled, hidle⟩, ?_⟩
    rw [hidle]
    cases ok <;> rfl

/-- What is shown around it is no input to the host. -/
theorem around {t' u' : Tally} {before new after : List Output} (h : CableStep t' u' new)
    (ht : t'.shown = t.shown ++ before) (hu : u.shown = u'.shown ++ after) (hsame : t'.bound = t.bound
      ∧ t'.enabled = t.enabled ∧ t'.inBusy = t.inBusy) (hbusy : u.inBusy = u'.inBusy)
    (hno : ∀ o ∈ before ++ after, o.isUsbInput = false) : CableStep t u (before ++ new ++ after) where
  shown := by rw [hu, h.shown, ht, List.append_assoc, List.append_assoc, List.append_assoc]
  ready := by
    rintro ⟨o, ho, hin⟩
    rw [List.mem_append, List.mem_append] at ho
    rcases ho with (ho | ho) | ho
    · rw [hno o (List.mem_append_left _ ho)] at hin
      cases hin
    · rw [← hsame.1, ← hsame.2.1, ← hsame.2.2]
      exact h.ready ⟨o, ho, hin⟩
    · rw [hno o (List.mem_append_right _ ho)] at hin
      cases hin
  busy := by
    have hbefore := countP_isAccepted fun o ho ↦ hno o (List.mem_append_left after ho)
    have hafter := countP_isAccepted fun o ho ↦ hno o (List.mem_append_right before ho)
    rw [hbusy, h.busy, hsame.2.2, List.countP_append, List.countP_append, hbefore, hafter, Nat.zero_add,
      Nat.add_zero]

/-- What becomes of a payload towards the console is no input to the host. -/
theorem of_console {report : List UInt8} {b : Bool} (h : ConsoleMove report t b u) :
    ∃ after, u.shown = t.shown ++ after ∧ u.inBusy = t.inBusy ∧ ∀ o ∈ after, o.isUsbInput = false := by
  cases h with
  | sent => exact ⟨_, rfl, rfl, by simp [Output.isUsbInput]⟩
  | _ => exact ⟨[], (List.append_nil _).symm, rfl, by simp⟩

end CableStep

/-- **What a step submits.**  The completions apart, each step adds to what is under way what it submits. -/
theorem TallyStep.cableStep {opened : ConnectionSide → Bool} {t u : Tally} {brought : Brought}
    (h : TallyStep opened t brought u) (hb : brought ≠ .completion) : ∃ new, CableStep t u new := by
  have hsilent : u.shown = t.shown → u.inBusy = t.inBusy → ∃ new, CableStep t u new := fun hs hi ↦
    ⟨[], .of_shown (hs.trans (List.append_nil _).symm) hi (by simp)⟩
  cases h with
  | snapshot => exact ⟨_, .of_shown rfl rfl (by simp [Output.isUsbInput])⟩
  | input hcable hconsole =>
    obtain ⟨new, hnew⟩ := CableStep.of_cable hcable
    obtain ⟨after, hshown, hbusy, hno⟩ := CableStep.of_console hconsole
    refine ⟨_, hnew.around (List.append_assoc _ _ _) hshown ⟨rfl, rfl, rfl⟩ hbusy ?_⟩
    intro o ho
    rcases List.mem_append.mp ho with ho | ho
    · rcases List.mem_append.mp ho with ho | ho
      · rw [List.mem_singleton.mp ho]
        rfl
      · split at ho
        · rw [List.mem_singleton.mp ho]
          rfl
        · cases ho
    · exact hno o ho
  | output h =>
    revert h
    generalize opened .toDualsense = b
    intro h
    cases h <;> exact hsilent rfl rfl
  | flushed => exact ⟨_, .of_shown rfl rfl (by simp [Output.isUsbInput])⟩
  | taken => exact absurd rfl hb
  | events _ h =>
    have hsame : u.shown = t.shown ∧ u.inBusy = t.inBusy := by
      clear hsilent
      induction h with
      | refl => exact ⟨rfl, rfl⟩
      | tail _ hmove ih => cases hmove <;> exact ih
    exact hsilent hsame.1 hsame.2
  | enabling _ h => cases h <;> exact hsilent rfl rfl
  | detaching => exact ⟨_, .of_shown rfl rfl (by simp [Output.isUsbInput])⟩
  | _ => exact hsilent rfl rfl

/-- The reports that were accepted and that the host has not taken. -/
def inFlight (x : ℕ) (r : Relay) : Input → ℕ
  | .inputDone _ => x - 1
  | i => x + (r.added i).countP Output.isAccepted

/-- A report is submitted only while the gadget is attached, the host reads and nothing is under way. -/
def Relay.SubmitsInTurn (r : Relay) (i : Input) : Prop :=
  (∃ o ∈ r.added i, o.isUsbInput = true) → r.usb.bound = true ∧ r.usb.endpointsEnabled = true ∧ r.usb.inBusy = false

namespace Relay

/-- What is submitted is among what is shown. -/
theorem added_shown {r : Relay} {i : Input} {new : List Output} (h : (r.step i).tally.shown = r.tally.shown ++ new) :
    new = (r.added i).filter Output.isShown := by
  rw [shown_step] at h
  exact (List.append_cancel_left h).symm

theorem eq_inputDone {r : Relay} {i : Input} (h : r.broughtBy (r.cause i) = .completion) :
    ∃ result, i = .inputDone result := by
  have hne : ∀ q : Option (ConnectionSide × UInt16 × List UInt8),
      (q.elim Brought.other fun p ↦ onInterrupt p.1 p.2.1 p.2.2) ≠ .completion := by
    rintro (_ | p) hq
    · cases hq
    · rw [Option.elim, onInterrupt] at hq
      split at hq <;> cases hq
  cases hc : r.cause i with
  | inputDone result => exact ⟨result, eq_of_gadgetInput? r (by rw [hc]; rfl)⟩
  | acl s p =>
    rw [hc] at h
    exact absurd h (hne (r.payloadOf (.acl s p)))
  | _ =>
    rw [hc] at h
    cases h

theorem inFlight_step {r : Relay} (hsteady : r.Steady) (i : Input) :
    r.SubmitsInTurn i ∧ (r.step i).usb.inBusy.toNat = inFlight r.usb.inBusy.toNat r i := by
  have hstep := hsteady.tallyStep i
  by_cases hdone : ∃ result, i = .inputDone result
  · obtain ⟨result, rfl⟩ := hdone
    have htaken : (r.step (.inputDone result)).tally = { r.tally with inBusy := false } :=
      tally_inputCompletion r result
    have hnone : (r.added (.inputDone result)).filter Output.isShown = [] :=
      (added_shown ((congrArg Tally.shown htaken).trans (List.append_nil r.tally.shown).symm)).symm
    refine ⟨?_, ?_⟩
    · rintro ⟨o, ho, hin⟩
      have hmem : o ∈ (r.added (.inputDone result)).filter Output.isShown :=
        List.mem_filter.mpr ⟨ho, by cases o <;> first | rfl | cases hin⟩
      rw [hnone] at hmem
      cases hmem
    · have hidle : (r.step (.inputDone result)).usb.inBusy = false := congrArg Tally.inBusy htaken
      rw [hidle, inFlight]
      cases r.usb.inBusy <;> rfl
  · have hb : r.broughtBy (r.cause i) ≠ .completion := fun h ↦ hdone (eq_inputDone h)
    obtain ⟨new, hnew⟩ := hstep.cableStep hb
    have heq := added_shown hnew.shown
    refine ⟨?_, ?_⟩
    · rintro ⟨o, ho, hin⟩
      refine hnew.ready ⟨o, ?_, hin⟩
      rw [heq]
      exact List.mem_filter.mpr ⟨ho, by cases o <;> first | rfl | cases hin⟩
    · have hcount : new.countP Output.isAccepted = (r.added i).countP Output.isAccepted := by
        rw [heq]
        refine List.countP_filter.trans (List.countP_congr fun o _ ↦ ?_)
        rw [Bool.and_eq_true]
        exact and_iff_left_of_imp fun ho ↦ by cases o <;> first | rfl | cases ho
      have hplain : inFlight r.usb.inBusy.toNat r i = r.usb.inBusy.toNat + (r.added i).countP Output.isAccepted := by
        cases i with
        | inputDone result => exact absurd ⟨result, rfl⟩ hdone
        | _ => rfl
      rw [hplain, ← hcount]
      exact hnew.busy

end Relay

/-- **One report is on its way to the host.**  In every run a report is submitted only while the gadget is
attached, the host has it enabled and every report before it was taken; so there is never more than one
that was accepted and not taken. -/
theorem one_input_in_flight (cfg : Config) (is : List Input) :
    let p := run (withHistory Relay.step inFlight) (.init cfg, 0) is
    p.2 ≤ 1 ∧ p.2 = p.1.usb.inBusy.toNat ∧ Along Relay.step (fun r i ↦ r.SubmitsInTurn i) (.init cfg) is := by
  intro p
  have hinv : p.1.Steady ∧ p.2 = p.1.usb.inBusy.toNat := by
    refine @run_invariant _ _ _ (fun q : Relay × ℕ ↦ q.1.Steady ∧ q.2 = q.1.usb.inBusy.toNat) _ is
      ⟨Relay.steady_init cfg, rfl⟩ fun q i ⟨hsteady, hcount⟩ ↦ ⟨hsteady.step i, ?_⟩
    show inFlight q.2 q.1 i = (q.1.step i).usb.inBusy.toNat
    rw [hcount, (Relay.inFlight_step hsteady i).2]
  refine ⟨hinv.2.trans_le (Bool.toNat_le _), hinv.2, ?_⟩
  exact along_iff_prefixes.mpr fun pre i _ ↦ (Relay.inFlight_step (Relay.steady_run cfg pre) i).1

/-! ## Attached once -/

/-- Requests are served and the gadget is detached only when it was attached; and behind the detachment
it is not attached, and the host gets no input. -/
structure Tally.Attached (t : Tally) : Prop where
  serving : t.serving = true → t.started = true
  handover : .handover .toDualsense ∈ t.parked → t.started = true
  gone : .gadgetDetached ∈ t.shown → t.started = true ∧ t.bound = false
  last : t.shown.Pairwise fun o o' ↦ o = .gadgetDetached → o'.isUsbInput = false

namespace Tally.Attached

variable {t u : Tally}

/-- Something else is shown. -/
theorem shows (h : t.Attached) {os : List Output} (hshown : u.shown = t.shown ++ os)
    (hsame : u.serving = t.serving ∧ u.parked = t.parked ∧ u.started = t.started ∧ u.bound = t.bound)
    (hno : ∀ o ∈ os, o ≠ .gadgetDetached) (hready : (∃ o ∈ os, o.isUsbInput = true) → t.bound = true) :
    u.Attached where
  serving := by
    rw [hsame.1, hsame.2.2.1]
    exact h.serving
  handover := by
    rw [hsame.2.1, hsame.2.2.1]
    exact h.handover
  gone hgone := by
    rw [hshown] at hgone
    rw [hsame.2.2.1, hsame.2.2.2]
    rcases List.mem_append.mp hgone with hgone | hgone
    · exact h.gone hgone
    · exact absurd rfl (hno _ hgone)
  last := by
    rw [hshown]
    refine List.pairwise_append.mpr ⟨h.last, ?_, ?_⟩
    · exact List.pairwise_of_forall_mem_list fun o ho _ _ hgone ↦ absurd hgone (hno o ho)
    · intro o ho o' ho' hgone
      rw [hgone] at ho
      have hfree := (h.gone ho).2
      by_contra hin
      rw [hready ⟨o', ho', (Bool.not_eq_false _).mp hin⟩] at hfree
      cases hfree

/-- What changes neither what is shown nor the gadget. -/
theorem of_same (h : t.Attached) (hshown : u.shown = t.shown)
    (hsame : u.serving = t.serving ∧ u.parked = t.parked ∧ u.started = t.started ∧ u.bound = t.bound) : u.Attached :=
  h.shows (hshown.trans (List.append_nil _).symm) hsame (by simp) (by simp)

/-- What is parked changes. -/
theorem of_parked (h : t.Attached) {ts : List Task} (hts : .handover .toDualsense ∈ ts → t.started = true) :
    Tally.Attached { t with parked := ts } := ⟨h.serving, hts, h.gone, h.last⟩

theorem step {opened : ConnectionSide → Bool} {brought : Brought} (h : t.Attached)
    (hstep : TallyStep opened t brought u) : u.Attached := by
  have hless : ∀ {ts : List Task}, ts.Sublist t.parked → .handover .toDualsense ∈ ts → t.started = true :=
    fun hts hmem ↦ h.handover (hts.subset hmem)
  cases hstep with
  | kept => exact h
  | snapshot => exact h.shows rfl ⟨rfl, rfl, rfl, rfl⟩ (by simp) (by simp [Output.isUsbInput])
  | @input report link v _ hcable hconsole =>
    have hv : v.Attached := by
      have hseen := h.shows (u := t.put [.padInput report (opened .toPlaystation)]) rfl ⟨rfl, rfl, rfl, rfl⟩
        (by simp) (by simp [Output.isUsbInput])
      have hpublished := hseen.shows (u := Tally.put _ (if Published report then
        [.published (slice report BT_BODY_OFF INPUT_BODY_LEN) link] else [])) rfl ⟨rfl, rfl, rfl, rfl⟩
        (by split <;> simp) (by split <;> simp [Output.isUsbInput])
      cases hcable with
      | none => exact hpublished
      | sent hbound => exact hpublished.shows rfl ⟨rfl, rfl, rfl, rfl⟩ (by simp) fun _ ↦ hbound
    revert hconsole
    generalize opened .toPlaystation = b
    intro hconsole
    cases hconsole with
    | shut => exact hv
    | sent => exact hv.shows rfl ⟨rfl, rfl, rfl, rfl⟩ (by simp) (by simp [Output.isUsbInput])
    | dropped | held => exact hv.of_same rfl ⟨rfl, rfl, rfl, rfl⟩
  | output hmove =>
    revert hmove
    generalize opened .toDualsense = b
    intro hmove
    cases hmove <;> exact h.of_same rfl ⟨rfl, rfl, rfl, rfl⟩
  | flushed => exact h.shows rfl ⟨rfl, rfl, rfl, rfl⟩ (by simp) (by simp [Output.isUsbInput])
  | taken => exact h.of_same rfl ⟨rfl, rfl, rfl, rfl⟩
  | events hserving hmoves =>
    -- requests come while the gadget is served, so it was attached
    have hstarted := h.serving hserving
    suffices hboth : u.Attached ∧ u.started = true from hboth.1
    clear hless
    induction hmoves with
    | refl => exact ⟨h, hstarted⟩
    | tail _ hmove ih =>
      cases hmove with
      | enabled => exact ⟨ih.1.of_same rfl ⟨rfl, rfl, rfl, rfl⟩, ih.2⟩
      | paired => exact ⟨ih.1.of_parked fun _ ↦ ih.2, ih.2⟩
  | configured => exact h.of_parked fun hmem ↦ h.handover (by simpa using hmem)
  | starting hts => exact h.of_parked fun hmem ↦ hless hts (by simpa using hmem)
  | enabling hts hmove =>
    cases hmove with
    | before => exact h.of_parked (hless hts)
    | now hnew =>
      refine ⟨fun _ ↦ rfl, fun _ ↦ rfl, fun hgone ↦ ?_, h.last⟩
      have hstarted := (h.gone hgone).1
      rw [hnew] at hstarted
      cases hstarted
  | detaching hmem hts =>
    refine ⟨h.serving, hless hts, fun _ ↦ ⟨h.handover hmem, rfl⟩, ?_⟩
    refine List.pairwise_append.mpr ⟨h.last, List.pairwise_singleton _ _, ?_⟩
    intro _ _ o' ho' _
    rw [List.mem_singleton.mp ho']
    rfl

end Tally.Attached

/-- **Detached for good.**  In every run the gadget, once detached, is never attached again, whatever the
pad, the console and the host do then; and behind the detachment no report is submitted to the host. -/
theorem detached_for_good (cfg : Config) (is : List Input) :
    let r := run Relay.step (.init cfg) is
    (.gadgetDetached ∈ r.out → r.usb.bound = false)
      ∧ r.out.Pairwise fun o o' ↦ o = .gadgetDetached → o'.isUsbInput = false := by
  intro r
  have hattached : r.tally.Attached := by
    refine tally_run (P := Tally.Attached) cfg is ⟨?_, ?_, ?_, List.Pairwise.nil⟩ fun hstep h ↦ h.step hstep
    · exact fun h ↦ Bool.noConfusion h
    · exact fun h ↦ absurd h (List.not_mem_nil)
    · exact fun h ↦ absurd h (List.not_mem_nil)
  refine ⟨fun hgone ↦ (hattached.gone (List.mem_filter.mpr ⟨hgone, rfl⟩)).2, ?_⟩
  -- what is not shown is neither of the two
  refine (List.pairwise_filter.mp hattached.last).imp_of_mem fun {o o'} _ _ hpair hgone ↦ ?_
  by_contra hin
  have hin := (Bool.not_eq_false _).mp hin
  rw [hpair (by rw [hgone]; rfl) (by cases o' <;> first | rfl | cases hin) hgone] at hin
  cases hin

end DualSenseMitm
