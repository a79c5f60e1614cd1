import DualSenseMitm.Runs.Ends
import DualSenseMitm.Runs.FeatureAnswers
import DualSenseMitm.Runs.HeldReports
import DualSenseMitm.Runs.TwoLinks
import Mathlib.Tactic.IntervalCases

/-!
# The format of the reports to the console

Until the console asks for the calibration or the firmware it is sent cut-down reports, and then full
ones.  A report that is held is stored as the pad sent it and goes out in the format of that later
moment.  Payloads of another size are passed on as well, as if they were laid out the same.

* `Relay.input_step` — what is sent on the console's interrupt channel, where it comes from, and that each
  report in it is marked once.
* `input_order` — the order of the marked reports, and that nothing else is sent as input.
* `fullReports_step` — which format the console reads.
* `reports_formatted` — in a run in which the pad sends nothing but its full reports, the console gets
  each of them in the format it asked for.
-/

set_option autoImplicit false

namespace DualSenseMitm

open Bytes Machine LatestSlot

/-- A report handed to the console's send function. -/
def Output.relayed? : Output → Option (List UInt8)
  | .relayed report _ _ => some report
  | _ => none

/-- A frame to the console on its channel with this end. -/
def Sent.isInput (cid : UInt16) (f : Sent) : Bool := f.side == .toPlaystation && f.cid == cid

namespace Relay

/-- The remote end of the console's interrupt channel. -/
abbrev inputEnd (r : Relay) : UInt16 := r.dcid .toPlaystation .hidInterrupt

/-- The console reads full reports. -/
abbrev fullReports (r : Relay) : Bool := (r.h .toPlaystation).channels.consoleFullReports

/-- A report as it is sent to the console. -/
def framed (full : Bool) (report : List UInt8) : List UInt8 :=
  if full then report else HIDP_DATA_INPUT :: makeCutDownReport report

/-- A report of the pad that is passed on to the console, or held for it. -/
def BringsInput (r : Relay) (cause : Cause) (report : List UInt8) : Prop :=
  r.payloadOf cause = some (.toDualsense, Channel.hidInterrupt.scid, report) ∧ r.linked = true
    ∧ r.inputEnd ≠ 0 ∧ opaqueFrame report = false

/-- A frame to the pad, or on another channel of the console's than the interrupt channel. -/
def Elsewhere (r : Relay) (f : Sent) : Prop :=
  f.side = .toPlaystation →
    f.cid = L2CAP_CID_SIGNALLING ∨ ∃ c, c ≠ .hidInterrupt ∧ r.dcid .toPlaystation c = f.cid

/-- The console's interrupt channel ends where nothing else does. -/
def EndApart (r : Relay) : Prop :=
  r.inputEnd ≠ 0 → r.inputEnd ≠ L2CAP_CID_SIGNALLING ∧ ∀ c, c ≠ .hidInterrupt → r.dcid .toPlaystation c ≠ r.inputEnd

instance (r : Relay) : Decidable r.EndApart := inferInstanceAs (Decidable (_ → _))

/-- What these outputs send the console on that end carries, in this format, reports that they mark as sent: each
of them at most once, and in their order. -/
def Ties (cid : UInt16) (full : Bool) (os : List Output) : Prop :=
  ((os.filterMap Output.sent?).filter (Sent.isInput cid)).Sublist
    ((os.filterMap Output.relayed?).map fun report ↦ ⟨.toPlaystation, cid, framed full report⟩)

/-- From one state to another. -/
def Tied (cid : UInt16) (full : Bool) (r r' : Relay) : Prop := ∃ new, r'.out = r.out ++ new ∧ Ties cid full new

variable {r r' r'' : Relay} {s : ConnectionSide}

/-! ## What is sent elsewhere -/

theorem elsewhere_of_maySend {A : Set Aspect} {f : Sent} (h : r.MaySend A f)
    (hR : .relaying .toPlaystation ∉ A) (hF : .forwarding ∉ A) : r.Elsewhere f := by
  intro hs
  refine h.imp_right ?_
  rintro ⟨-, c, hc, hwhy⟩
  rw [hs] at hc hwhy
  rcases hwhy with hpad | hread | hrelay | hforward
  · cases hpad
  · exact ⟨c, by rw [hread.1]; decide, hc⟩
  · exact absurd hrelay.1 hR
  · exact absurd hforward hF

theorem sends_elsewhere {A : Set Aspect} (h : Performs (Op.Within A) r r') (hb : ∀ s, .binding s ∉ A)
    (hR : .relaying .toPlaystation ∉ A) (hF : .forwarding ∉ A) : Sends r.Elsewhere r r' :=
  (Sends.of_within h hb).mono fun _ hf ↦ elsewhere_of_maySend hf hR hF

/-- What is sent on another channel. -/
theorem sends_sentOn {c : Channel} (hc : s = .toPlaystation → c ≠ .hidInterrupt) {payload : List UInt8}
    (h : r'.frames = r.frames ++ r.sentOn s c payload) : Sends r.Elsewhere r r' := by
  refine ⟨_, h, fun f hf hs ↦ ?_⟩
  obtain ⟨-, -, rfl⟩ := (mem_sentOn r s).mp hf
  obtain rfl : s = .toPlaystation := hs
  exact .inr ⟨c, hc rfl, rfl⟩

theorem sends_handleSdpAnswerFromPad (r : Relay) (s : ConnectionSide) (payload : List UInt8) :
    Sends r.Elsewhere r (r.handleSdpAnswerFromPad s payload) := by
  unfold handleSdpAnswerFromPad
  extract_lets r₁
  split
  · split
    · have hend : r₁.dcid s.other .hidSdp = r.dcid s.other .hidSdp := by simp [r₁, dcid]
      have hends : r₁.sentOn s.other .hidSdp payload = r.sentOn s.other .hidSdp payload := by
        rw [sentOn, sentOn, hend]
      have hframes : (r₁.l2capSendData s.other .hidSdp payload).frames
          = r.frames ++ r.sentOn s.other .hidSdp payload := by
        rw [frames_l2capSendData, hends]
        rfl
      exact sends_sentOn (fun _ ↦ by decide) hframes
    · exact .of_eq rfl
  · exact .of_eq rfl

theorem sends_handleSdpQuery (r : Relay) (s : ConnectionSide) (request : List UInt8) :
    Sends r.Elsewhere r (r.handleSdpQuery s request) := by
  unfold handleSdpQuery handleSdpRequest
  extract_lets cache
  split
  · exact sends_sentOn (fun _ ↦ by decide) (frames_l2capSendData r _ .sdpClient request)
  · split
    · exact sends_sentOn (fun _ ↦ by decide) (frames_l2capSendData r s .hidSdp _)
    · split
      · exact .of_eq rfl
      · exact sends_sentOn (fun _ ↦ by decide) (frames_l2capSendData r s .hidSdp _)

/-- **Payloads that are no reports of the pad** are answered and passed on elsewhere. -/
theorem sends_routePayload {cid : UInt16} {data : List UInt8} (hne : data ≠ [])
    (h : ¬ (s = .toDualsense ∧ cid = Channel.hidInterrupt.scid)) :
    Sends r.Elsewhere r (r.routePayload s cid data) := by
  unfold routePayload
  split
  · cases s with
    | toDualsense =>
      have hframes := r.frames_handleFeatureAnswerFromPad hne
      by_cases hlinked : r.linked = true
      · rw [if_pos hlinked] at hframes
        exact sends_sentOn (fun _ ↦ by decide) hframes
      · rw [if_neg hlinked, List.append_nil] at hframes
        exact .of_eq hframes
    | toPlaystation =>
      exact sends_elsewhere (A := {.console .toPlaystation})
        (within_handleFeatureRequestFromConsole r _ (by simp) rfl data) (by simp) (by simp) (by simp)
  · split
    · rename_i hcid
      cases s with
      | toDualsense => exact absurd ⟨rfl, hcid⟩ h
      | toPlaystation =>
        exact sends_elsewhere (A := {.console .toPlaystation, .pacing .toPlaystation})
          (within_relayConsoleOutputToPad r _ (by simp) (by simp) rfl data) (by simp) (by simp) (by simp)
    · split
      · exact sends_handleSdpAnswerFromPad r s data
      · split
        · exact sends_handleSdpQuery r s data
        · exact .of_eq rfl

/-! ## What is sent on the interrupt channel -/

theorem frames_sendReportToConsole {report : List UInt8} (hne : report ≠ []) (flushed : Bool) :
    (r.sendReportToConsole .toPlaystation report flushed).frames
      = r.frames ++ r.sentOn .toPlaystation .hidInterrupt (framed r.fullReports report) := by
  have hcons : byteAt report 0 :: report.drop 1 = report := by
    cases report with
    | nil => exact absurd rfl hne
    | cons x rest => rfl
  unfold sendReportToConsole
  extract_lets r₁
  have h₁ : r₁.frames = r.frames := by simp [r₁]
  have hon : ∀ payload, r₁.sentOn .toPlaystation .hidInterrupt payload
      = r.sentOn .toPlaystation .hidInterrupt payload := fun _ ↦ rfl
  rw [framed]
  split
  · rename_i hfull
    rw [if_pos (show r.fullReports = true from hfull), sendFullReportToConsole, frames_l2capSendHid, hcons, hon, h₁]
  · rename_i hfull
    rw [if_neg (show ¬ r.fullReports = true from hfull), sendCutDownReportToConsole, frames_l2capSendHid, hon, h₁]

/-- A report that is sent, in the format the console reads. -/
def InFormat (r : Relay) (report : List UInt8) (f : Sent) : Prop :=
  f = ⟨.toPlaystation, r.inputEnd, framed r.fullReports report⟩

theorem sends_sendReportToConsole {report : List UInt8} (hne : report ≠ []) (flushed : Bool)
    (hend : r'.inputEnd = r.inputEnd) (hfull : r'.fullReports = r.fullReports) :
    Sends (r.InFormat report) r' (r'.sendReportToConsole .toPlaystation report flushed) := by
  refine ⟨_, frames_sendReportToConsole hne flushed, fun f hf ↦ ?_⟩
  obtain ⟨-, -, rfl⟩ := (mem_sentOn r' .toPlaystation).mp hf
  rw [InFormat, ← hend, ← hfull]

/-- A report that arrives is sent as it is read, or put in the slot. -/
theorem sends_relayPadInputToConsole {report : List UInt8} (hne : report ≠ []) :
    Sends (fun f ↦ r.linked = true ∧ r.inputEnd ≠ 0 ∧ opaqueFrame report = false ∧ r.InFormat report f) r
        (r.relayPadInputToConsole .toDualsense report)
      ∧ ((r.relayPadInputToConsole .toDualsense report).held = r.held
        ∨ (r.relayPadInputToConsole .toDualsense report).held = .empty
        ∨ r.linked = true ∧ r.inputEnd ≠ 0 ∧ opaqueFrame report = false
          ∧ (r.relayPadInputToConsole .toDualsense report).held = r.held.store report) := by
  unfold relayPadInputToConsole
  extract_lets r₁
  split
  · rename_i hopen
    by_cases hopaque : opaqueFrame report = true
    · rw [if_pos hopaque]
      exact ⟨.of_eq rfl, .inl (by simp [held, r₁])⟩
    · rw [if_neg hopaque]
      have hopaque : opaqueFrame report = false := Bool.eq_false_iff.mpr hopaque
      split
      · rw [show ConnectionSide.toDualsense.other = .toPlaystation from rfl]
        generalize ha : ((r₁.afterRoom .toPlaystation).onHeld .toPlaystation fun h ↦ h.clear).noteInputSent
          .toPlaystation = a
        have hframes : a.frames = r.frames := by simp [← ha, noteInputSent, afterRoom, r₁]
        have hend : a.inputEnd = r.inputEnd := by simp [← ha, noteInputSent, afterRoom, r₁, inputEnd, dcid]
        have hfull : a.fullReports = r.fullReports := by
          simp [← ha, noteInputSent, afterRoom, r₁, fullReports]
        refine ⟨(Sends.of_eq hframes).trans ?_, .inr (.inl ?_)⟩
        · exact (sends_sendReportToConsole hne false hend hfull).mono fun f hf ↦ ⟨hopen.1, hopen.2, hopaque, hf⟩
        · rw [held_sendReportToConsole, ← ha, held_noteInputSent]
          simp [held, HeldFrame.clear]
      · refine ⟨.of_eq (by simp [afterRoom, r₁]), .inr (.inr ⟨hopen.1, hopen.2, hopaque, ?_⟩)⟩
        simp [held, afterRoom, r₁]
  · exact ⟨.of_eq rfl, .inl rfl⟩

theorem sends_relayPadInput {report : List UInt8} (hne : report ≠ []) :
    Sends (fun f ↦ r.linked = true ∧ r.inputEnd ≠ 0 ∧ opaqueFrame report = false ∧ r.InFormat report f) r
        (r.relayPadInput .toDualsense report)
      ∧ ((r.relayPadInput .toDualsense report).held = r.held ∨ (r.relayPadInput .toDualsense report).held = .empty
        ∨ r.linked = true ∧ r.inputEnd ≠ 0 ∧ opaqueFrame report = false
          ∧ (r.relayPadInput .toDualsense report).held = r.held.store report) := by
  unfold relayPadInput
  extract_lets r₁
  generalize ha : (r₁.publishInput .toDualsense report).relayPadInputToUsb .toDualsense report = a
  have hquiet : Performs (Op.Within ∅) r₁ a := by
    rw [← ha]
    exact Performs.within ((quiet_publishInput r₁ _ report).trans (quiet_relayPadInputToUsb _ _ report))
  have hlinked : a.linked = r.linked := hquiet.linked
  have hend : a.inputEnd = r.inputEnd := congrFun (dcid_eq hquiet .toPlaystation (by simp) (by simp)) _
  have hfull : a.fullReports = r.fullReports :=
    congrArg Prod.fst (console_eq hquiet .toPlaystation (by simp) (by simp))
  have hheld : a.held = r.held := held_eq hquiet .toPlaystation (by simp) (by simp)
  have hframes : a.frames = r.frames := by simp [← ha, r₁]
  obtain ⟨hsends, hslot⟩ := sends_relayPadInputToConsole (r := a) hne
  rw [hlinked, hend] at hsends
  rw [hlinked, hend, hheld] at hslot
  refine ⟨(Sends.of_eq hframes).trans (hsends.mono ?_), hslot⟩
  rintro f ⟨hl, he, ho, hf⟩
  rw [InFormat, hend, hfull] at hf
  exact ⟨hl, he, ho, hf⟩

/-- A buffer that returns takes what is held. -/
theorem sends_flushHeldReport :
    Sends (fun f ↦ r.held.valid = true ∧ r.InFormat r.held.view f) r (r.flushHeldReport .toPlaystation) := by
  unfold flushHeldReport
  extract_lets r₁
  have hframes : r₁.frames = r.frames := by simp [r₁, afterRoom]
  split
  · rename_i hvalid
    have hne : r.held.view ≠ [] := by
      intro hnil
      rw [HeldFrame.valid, hnil] at hvalid
      cases hvalid
    split
    · split
      · exact .of_eq hframes
      · split
        · generalize ha : (((r₁.onHeld .toPlaystation fun h ↦ h.clear).noteInputSent .toPlaystation).onStreams
            .toPlaystation fun st ↦ { st with consoleInputFlushed := st.consoleInputFlushed + 1 }) = a
          have hframes' : a.frames = r.frames := by simp [← ha, noteInputSent, hframes]
          have hend : a.inputEnd = r.inputEnd := by simp [← ha, noteInputSent, afterRoom, r₁, inputEnd, dcid]
          have hfull : a.fullReports = r.fullReports := by
            simp [← ha, noteInputSent, afterRoom, r₁, fullReports]
          refine (Sends.of_eq hframes').trans ?_
          exact (sends_sendReportToConsole hne true hend hfull).mono fun f hf ↦ ⟨hvalid, hf⟩
        · exact .of_eq hframes
    · exact .of_eq hframes
  · exact .of_eq rfl

/-! ## Marks and frames -/

theorem Tied.trans {cid : UInt16} {full : Bool} (h : Tied cid full r r') (h' : Tied cid full r' r'') :
    Tied cid full r r'' := by
  obtain ⟨new, hout, hties⟩ := h
  obtain ⟨more, hout', hties'⟩ := h'
  refine ⟨new ++ more, by rw [hout', hout, List.append_assoc], ?_⟩
  rw [Ties, List.filterMap_append, List.filter_append, List.filterMap_append, List.map_append]
  exact hties.append hties'

/-- Where nothing is sent as input, nothing needs a mark. -/
theorem Tied.of_frames {cid : UInt16} (full : Bool) (hout : r.out <+: r'.out)
    (h : Sends (fun f ↦ f.isInput cid = false) r r') : Tied cid full r r' := by
  obtain ⟨new, hout⟩ := hout
  obtain ⟨frames, hframes, hnone⟩ := h
  have hsent : new.filterMap Output.sent? = frames := by
    rw [Relay.frames, ← hout, List.filterMap_append] at hframes
    exact List.append_cancel_left hframes
  refine ⟨new, hout.symm, ?_⟩
  rw [Ties, hsent, List.filter_eq_nil_iff.mpr fun f hf ↦ by rw [hnone f hf]; decide]
  exact List.nil_sublist _

theorem Tied.of_eq {cid : UInt16} {full : Bool} (hout : r'.out = r.out) : Tied cid full r r' :=
  ⟨[], by rw [hout, List.append_nil], .refl _⟩

/-- A frame sent elsewhere is none on an end that the interrupt channel has to itself. -/
theorem Elsewhere.not_isInput (hends : r.EndApart) (hopen : r.inputEnd ≠ 0) {f : Sent} (h : r.Elsewhere f) :
    f.isInput r.inputEnd = false := by
  obtain ⟨happart, hothers⟩ := hends hopen
  by_contra hinput
  obtain ⟨hside, hcid⟩ : f.side = .toPlaystation ∧ f.cid = r.inputEnd := by
    simpa [Sent.isInput] using hinput
  rcases h hside with hsig | ⟨c, hc, hend⟩
  · exact happart (hcid.symm.trans hsig)
  · exact hothers c hc (hend.trans hcid)

/-- A report that is sent is marked right before. -/
theorem tied_sendReportToConsole {report : List UInt8} (hne : report ≠ []) (flushed : Bool) :
    Tied r.inputEnd r.fullReports r (r.sendReportToConsole .toPlaystation report flushed) := by
  obtain ⟨new, hout, -⟩ := (forwards_sendReportToConsole r .toPlaystation report flushed).out
  rw [out_emit, List.append_assoc] at hout
  have hframes := r.frames_sendReportToConsole hne flushed
  rw [frames, hout, List.filterMap_append] at hframes
  have hsent := List.append_cancel_left hframes
  refine ⟨_, hout, ?_⟩
  have hmarks : ∀ now, (Output.relayed report flushed now :: new).filterMap Output.relayed?
      = report :: new.filterMap Output.relayed? := fun _ ↦ rfl
  rw [Ties, hsent, List.singleton_append, hmarks, List.map_cons]
  refine List.Sublist.trans ?_ (List.Sublist.cons_cons _ (List.nil_sublist _))
  refine (List.filter_sublist).trans ?_
  rw [sentOn, frameOf]
  split
  · exact List.nil_sublist _
  · split
    · exact List.nil_sublist _
    · exact .refl _

/-- A report sent from a state that reads the same format on the same end. -/
theorem Tied.reported {report : List UInt8} (hne : report ≠ []) (flushed : Bool) (hout : r'.out = r.out)
    (hend : r'.inputEnd = r.inputEnd) (hfull : r'.fullReports = r.fullReports) :
    Tied r.inputEnd r.fullReports r (r'.sendReportToConsole .toPlaystation report flushed) := by
  rw [← hend, ← hfull]
  exact (Tied.of_eq hout).trans (tied_sendReportToConsole hne flushed)

theorem tied_relayPadInputToConsole {report : List UInt8} (hne : report ≠ []) :
    Tied r.inputEnd r.fullReports r (r.relayPadInputToConsole .toDualsense report) := by
  unfold relayPadInputToConsole
  extract_lets r₁
  split
  · split
    · exact .of_eq (by simp [r₁])
    · split
      · rw [show ConnectionSide.toDualsense.other = .toPlaystation from rfl]
        refine .reported hne false ?_ ?_ ?_
        · simp [noteInputSent, afterRoom, r₁]
        · simp [noteInputSent, afterRoom, r₁, inputEnd, dcid]
        · simp [noteInputSent, afterRoom, r₁, fullReports]
      · exact .of_eq (by simp [afterRoom, r₁])
  · exact .of_eq rfl

theorem tied_relayPadInput {report : List UInt8} (hne : report ≠ []) :
    Tied r.inputEnd r.fullReports r (r.relayPadInput .toDualsense report) := by
  unfold relayPadInput
  extract_lets r₁
  generalize ha : (r₁.publishInput .toDualsense report).relayPadInputToUsb .toDualsense report = a
  have hquiet : Performs (Op.Within ∅) r₁ a := by
    rw [← ha]
    exact Performs.within ((quiet_publishInput r₁ _ report).trans (quiet_relayPadInputToUsb _ _ report))
  have hend : a.inputEnd = r.inputEnd := congrFun (dcid_eq hquiet .toPlaystation (by simp) (by simp)) _
  have hfull : a.fullReports = r.fullReports :=
    congrArg Prod.fst (console_eq hquiet .toPlaystation (by simp) (by simp))
  obtain ⟨new, hout, -⟩ := hquiet.out
  have hpre : r.out <+: a.out := (List.prefix_append _ _).trans ⟨new, hout.symm⟩
  rw [← hend, ← hfull]
  exact (Tied.of_frames _ hpre (.of_eq (by simp [← ha, r₁]))).trans (tied_relayPadInputToConsole hne)

theorem tied_flushHeldReport :
    Tied r.inputEnd r.fullReports r (r.flushHeldReport .toPlaystation) := by
  unfold flushHeldReport
  extract_lets r₁
  have hroom : Tied r.inputEnd r.fullReports r r₁ := .of_eq (by simp [r₁, afterRoom])
  split
  · rename_i hvalid
    have hne : r.held.view ≠ [] := by
      intro hnil
      rw [HeldFrame.valid, hnil] at hvalid
      cases hvalid
    split
    · split
      · exact hroom
      · split
        · refine .reported hne true ?_ ?_ ?_
          · simp [noteInputSent, afterRoom, r₁]
          · simp [noteInputSent, afterRoom, r₁, inputEnd, dcid]
          · simp [noteInputSent, afterRoom, r₁, fullReports]
        · exact hroom
    · exact hroom
  · exact .of_eq rfl

/-! ## One step -/

/-- What a step sends the console on its interrupt channel, and what becomes of the slot. -/
structure InputStep (r : Relay) (cause : Cause) (r' : Relay) : Prop where
  sends : Sends (fun f ↦ r.Elsewhere f ∨ (r.held.valid = true ∧ r.InFormat r.held.view f)
    ∨ ∃ report, r.BringsInput cause report ∧ r.InFormat report f) r r'
  slot : r'.held = r.held ∨ r'.held = .empty ∨ ∃ report, r.BringsInput cause report ∧ r'.held = r.held.store report
  tied : r.EndApart → r.inputEnd ≠ 0 → Tied r.inputEnd r.fullReports r r'

theorem InputStep.of_elsewhere {cause : Cause} (h : Sends r.Elsewhere r r')
    (hheld : r'.held = r.held ∨ r'.held = .empty) (hout : r.out <+: r'.out) : InputStep r cause r' where
  sends := h.mono fun _ ↦ .inl
  slot := hheld.imp_right .inl
  tied hends hopen := .of_frames _ hout (h.mono fun _ hf ↦ hf.not_isInput hends hopen)

theorem InputStep.of_within {A : Set Aspect} {cause : Cause} (h : Performs (Op.Within A) r r')
    (hb : ∀ s, .binding s ∉ A) (hR : .relaying .toPlaystation ∉ A) (hF : .forwarding ∉ A) :
    InputStep r cause r' := by
  obtain ⟨new, hout, -⟩ := h.out
  exact .of_elsewhere (sends_elsewhere h hb hR hF) (held_eq_or_empty h .toPlaystation hR) ⟨new, hout.symm⟩

/-- Where nothing but the partial PDUs and the count of buffers differs. -/
theorem Elsewhere.congr (hends : r'.dcid .toPlaystation = r.dcid .toPlaystation) {f : Sent}
    (h : r'.Elsewhere f) : r.Elsewhere f := by
  intro hs
  rw [← hends]
  exact h hs

theorem InFormat.congr (hends : r'.dcid .toPlaystation = r.dcid .toPlaystation)
    (hfull : r'.fullReports = r.fullReports) {report : List UInt8} {f : Sent} (h : r'.InFormat report f) :
    r.InFormat report f := by
  rwa [InFormat, inputEnd, hends, hfull] at h

/-- A count of buffers returned, and what is held. -/
theorem numCompleted_eq (r : Relay) (s : ConnectionSide) (plen : UInt8) (p : PacketContents) :
    r.handleNumCompletedPackets s plen p = r
      ∨ ∃ a, Performs (Op.Within {.credits s}) r a ∧ a.frames = r.frames
        ∧ r.handleNumCompletedPackets s plen p = a.flushHeldReport s := by
  unfold handleNumCompletedPackets
  split
  · exact .inl rfl
  · split
    · exact .inl rfl
    · rename_i body _ _
      refine .inr ⟨_, ?_, ?_, rfl⟩
      · exact (within_onAcl r s (.inl (by rfl)) (AclFlowControl.shrinks_onNumCompleted _ _)).trans
          (quiet_advance _ _).within
      · simp

theorem inputStep_numCompleted (r : Relay) (s : ConnectionSide) (plen : UInt8) (p : PacketContents) {cause : Cause} :
    InputStep r cause (r.handleNumCompletedPackets s plen p) := by
  cases s with
  | toDualsense =>
    have hw : Performs (Op.Within {.relaying .toDualsense}) r (r.handleNumCompletedPackets .toDualsense plen p) :=
      within_handleNumCompletedPackets r _ (by rfl) plen p
    exact .of_within hw (by simp) (by simp) (by simp)
  | toPlaystation =>
    rcases numCompleted_eq r .toPlaystation plen p with heq | ⟨a, hcount, hframes, heq⟩
    · rw [heq]
      exact .of_elsewhere (.of_eq rfl) (.inl rfl) List.prefix_rfl
    · rw [heq]
      obtain ⟨new, hout, -⟩ := hcount.out
      have hends := dcid_eq hcount .toPlaystation (by simp) (by simp)
      have hfull : a.fullReports = r.fullReports :=
        congrArg Prod.fst (console_eq hcount .toPlaystation (by simp) (by simp))
      have hheld : a.held = r.held := held_eq hcount .toPlaystation (by simp) (by simp)
      refine ⟨(Sends.of_eq hframes).trans (sends_flushHeldReport.mono ?_), ?_, fun _ _ ↦ ?_⟩
      · rintro f ⟨hvalid, hf⟩
        rw [hheld] at hvalid hf
        exact .inr (.inl ⟨hvalid, hf.congr hends hfull⟩)
      · rw [← hheld]
        exact (held_flushHeldReport a).imp_right .inl
      · have htied := tied_flushHeldReport (r := a)
        rw [inputEnd, hends, hfull] at htied
        exact (Tied.of_frames _ ⟨new, hout.symm⟩ (.of_eq hframes)).trans htied

theorem held_setReasm (r : Relay) (s : ConnectionSide) (handle : UInt16) (re : Option AclReasm) :
    (r.setReasm s handle re).held = r.held := by
  simp [held, setReasm]

theorem inputStep_acl (r : Relay) (s : ConnectionSide) (p : PacketContents) :
    InputStep r (.acl s p) (r.handleAcl s p) := by
  have hpart := acl_part r s p
  have hall : r.out <+: (r.handleAcl s p).out := by
    obtain ⟨new, hout, -⟩ := (within_handleAcl r s p).out
    exact ⟨new, hout.symm⟩
  have hpayload : ∀ cid data, r.contentsOf s p = .payload cid data → data ≠ []
      ∧ r.payloadOf (.acl s p) = some (s, cid, data) := by
    intro cid data hc
    refine ⟨ne_nil_of_contentsOf r s hc, ?_⟩
    rw [payloadOf, hc]
  revert hpart hpayload hall
  generalize r.handleAcl s p = r'
  generalize r.contentsOf s p = contents
  intro hpart hall hpayload
  cases hpart with
  | nothing h => exact .of_within h (by simp) (by simp) (by simp)
  | @command re pdu q _ h =>
    obtain ⟨re', rfl⟩ := h
    have hbefore := within_arriving (A := {.linkNotes, .routing}) r s (by simp) (by simp) p re pdu
    have hends := dcid_eq hbefore .toPlaystation (by simp) (by simp)
    have hframes : (r.arriving s p re pdu).frames = r.frames := by simp [arriving, setReasm]
    have hheld : (r.arriving s p re pdu).held = r.held := held_eq hbefore .toPlaystation (by simp) (by simp)
    generalize r.arriving s p re pdu = a at hends hframes hheld hall
    have hw : Performs (Op.Within {.signalling s, .binding s}) a (a.handleL2capCmd s q) :=
      within_handleL2capCmd a s (by simp) (by simp) q
    have hsends : Sends r.Elsewhere a (a.handleL2capCmd s q) := by
      refine (Sends.command (command_move a s q)).mono fun f hf ↦ ?_
      exact (elsewhere_of_maySend hf (by simp) (by simp)).congr hends
    refine .of_elsewhere (((Sends.of_eq hframes).trans hsends).trans (.of_eq rfl)) (.inl ?_) hall
    rw [held_setReasm, ← hheld]
    exact held_eq hw .toPlaystation (by simp) (by simp)
  | @payload re pdu cid data _ h =>
    obtain ⟨re', rfl⟩ := h
    obtain ⟨hne, hbrought⟩ := hpayload cid data rfl
    have hbefore := within_arriving (A := {.linkNotes, .routing}) r s (by simp) (by simp) p re pdu
    have hends := dcid_eq hbefore .toPlaystation (by simp) (by simp)
    have hlinked : (r.arriving s p re pdu).linked = r.linked := hbefore.linked
    have hfull : (r.arriving s p re pdu).fullReports = r.fullReports :=
      congrArg Prod.fst (console_eq hbefore .toPlaystation (by simp) (by simp))
    have hframes : (r.arriving s p re pdu).frames = r.frames := by simp [arriving, setReasm]
    have hheld : (r.arriving s p re pdu).held = r.held := held_eq hbefore .toPlaystation (by simp) (by simp)
    obtain ⟨new, hout, -⟩ := hbefore.out
    generalize r.arriving s p re pdu = a at hends hlinked hfull hframes hheld hout hall
    by_cases hinput : s = .toDualsense ∧ cid = Channel.hidInterrupt.scid
    · obtain ⟨rfl, rfl⟩ := hinput
      obtain ⟨hsends, hslot⟩ := sends_relayPadInput (r := a) hne
      rw [hlinked, inputEnd, hends] at hsends hslot
      refine ⟨((Sends.of_eq hframes).trans (hsends.mono ?_)).trans (.of_eq rfl), ?_, fun _ _ ↦ ?_⟩
      · rintro f ⟨hl, he, ho, hf⟩
        exact .inr (.inr ⟨data, ⟨hbrought, hl, he, ho⟩, hf.congr hends hfull⟩)
      · rw [held_setReasm]
        rw [hheld] at hslot
        refine hslot.imp_right (Or.imp_right ?_)
        rintro ⟨hl, he, ho, hs⟩
        exact ⟨data, ⟨hbrought, hl, he, ho⟩, hs⟩
      · have htied := tied_relayPadInput (r := a) hne
        rw [inputEnd, hends, hfull] at htied
        exact ((Tied.of_frames _ ⟨new, hout.symm⟩ (.of_eq hframes)).trans htied).trans (.of_eq rfl)
    · have hw : Performs (Op.Within {.reports, .forwarding, .console s, .pacing s}) a (a.routePayload s cid data) :=
        within_routePayload_of_ne a s (by simp) (by simp) (by simp) (by simp) hinput data
      have hsends := (sends_routePayload hne hinput).mono fun f (hf : a.Elsewhere f) ↦ hf.congr hends
      refine .of_elsewhere (((Sends.of_eq hframes).trans hsends).trans (.of_eq rfl)) (.inl ?_) hall
      rw [held_setReasm, ← hheld]
      exact held_eq hw .toPlaystation (by simp) (by simp)

/-- **What one step sends the console as reports.** -/
theorem input_step (r : Relay) (i : Input) : InputStep r (r.cause i) (r.step i) := by
  have hm := step_move r i
  have hw := hm.within
  revert hm hw
  generalize r.cause i = cause
  generalize r.step i = r'
  intro hm hw
  cases hm with
  | acl => exact inputStep_acl r _ _
  | numCompletedPackets => exact inputStep_numCompleted r _ _ _
  | quiet h => exact .of_within (A := ∅) h.within (by simp) (by simp) (by simp)
  | _ => exact .of_within hw (by simp [Cause.aspects]) (by simp [Cause.aspects]) (by simp [Cause.aspects])

/-- The frames a step sends on the console's interrupt channel carry, in the format the console reads, the reports
that the step marks as sent: each of them at most once, in their order, and no other. -/
def SendsMarked (r : Relay) (i : Input) : Prop :=
  r.EndApart → r.inputEnd ≠ 0 → Ties r.inputEnd r.fullReports (r.added i)

theorem sendsMarked (r : Relay) (i : Input) : r.SendsMarked i := by
  intro hends hopen
  obtain ⟨new, hout, hties⟩ := (input_step r i).tied hends hopen
  rwa [added_eq hout]

end Relay

/-- **Input towards the console keeps its order.**  In every run, at every point of the trace, the reports sent
towards the console are a subsequence of the non-opaque reports the pad sent, and whatever the held slot
releases is the newest report that could have waited in it.  On an interrupt channel with an end of its own
nothing goes out but these reports, in the format the console reads and none of them twice. -/
theorem input_order (c : Config) (is : List Input) :
    InOrder notOpaque mayWait (inputTrace (run Relay.step (.init c) is).out)
      ∧ Along Relay.step Relay.SendsMarked (.init c) is :=
  ⟨inOrder_run c is, along_iff_prefixes.mpr fun pre i _ ↦ (run Relay.step (.init c) pre).sendsMarked i⟩

namespace Relay

variable {r r' r'' : Relay} {s : ConnectionSide}

/-! ## Which format the console reads -/

/-- A request on the console's control channel that names the calibration or the firmware. -/
def namesFull (r : Relay) (cause : Cause) : Bool :=
  match r.payloadOf cause with
  | some (.toPlaystation, cid, data) =>
    cid == Channel.hidControl.scid && decide (1 < data.length)
      && (byteAt data 1 == REPORT_CALIBRATION || byteAt data 1 == REPORT_FIRMWARE)
  | _ => false

theorem fullReports_handleFeatureRequestFromConsole (r : Relay) (data : List UInt8) :
    (r.handleFeatureRequestFromConsole .toPlaystation data).fullReports
      = (r.fullReports || (decide (1 < data.length)
        && (byteAt data 1 == REPORT_CALIBRATION || byteAt data 1 == REPORT_FIRMWARE))) := by
  unfold handleFeatureRequestFromConsole
  extract_lets r₁
  have h₁ : r₁.fullReports = (r.fullReports || (decide (1 < data.length)
      && (byteAt data 1 == REPORT_CALIBRATION || byteAt data 1 == REPORT_FIRMWARE))) := by
    show Relay.fullReports (ite _ _ _) = _
    split
    · rename_i h
      simp [fullReports, h]
    · rename_i h
      cases hfull : r.fullReports with
      | true => rfl
      | false =>
        have hno : ¬ (1 < data.length ∧ (byteAt data 1 = REPORT_CALIBRATION ∨ byteAt data 1 = REPORT_FIRMWARE)) :=
          fun hnames ↦ h ⟨hnames.1, Bool.eq_false_iff.mp hfull, hnames.2⟩
        simpa using hno
  rw [← h₁]
  have hsend : ∀ header rest, (r₁.l2capSendHid .toDualsense .hidControl header rest).fullReports = r₁.fullReports :=
    fun header rest ↦ congrArg Prod.fst (console_eq (A := {.forwarding})
      (within_l2capSendFramed r₁ .toDualsense (.inr (by simp)) [header] rest) .toPlaystation (by simp) (by simp))
  split
  · exact hsend _ _
  · rfl

/-- Nothing else the console sends changes it. -/
theorem fullReports_routePayload (r : Relay) (s : ConnectionSide) (cid : UInt16) (data : List UInt8) :
    (r.routePayload s cid data).fullReports
      = (r.fullReports || (s == .toPlaystation && cid == Channel.hidControl.scid && decide (1 < data.length)
        && (byteAt data 1 == REPORT_CALIBRATION || byteAt data 1 == REPORT_FIRMWARE))) := by
  have hkept : ∀ {A : Set Aspect} {r' : Relay}, Performs (Op.Within A) r r' → .links ∉ A →
      .console .toPlaystation ∉ A → r'.fullReports = r.fullReports := fun h hl hK ↦
    congrArg Prod.fst (console_eq h .toPlaystation hl hK)
  cases s with
  | toDualsense =>
    have hw : Performs (Op.Within {.relaying .toPlaystation, .reports, .forwarding, .console .toDualsense,
        .pacing .toDualsense}) r (r.routePayload .toDualsense cid data) :=
      within_routePayload r _ (by simp [ConnectionSide.other]) (by simp) (by simp) (by simp) (by simp) cid data
    rw [hkept hw (by simp) (by simp)]
    exact (Bool.or_false _).symm
  | toPlaystation =>
    by_cases hcontrol : cid = Channel.hidControl.scid
    · rw [routePayload, if_pos hcontrol]
      refine (fullReports_handleFeatureRequestFromConsole r data).trans ?_
      simp [hcontrol]
    · have hcid : (cid == Channel.hidControl.scid) = false := beq_eq_false_iff_ne.mpr hcontrol
      rw [hcid, Bool.and_false, Bool.false_and, Bool.false_and, Bool.or_false, routePayload, if_neg hcontrol]
      split
      · have hnote := untouched_noteConsoleOutput (P := fun _ ↦ True) r
        have hrest := (quiet_behindNoteConsoleOutput r data).within (A := ∅)
        have hsame := congrArg Prod.fst (console_eq hrest .toPlaystation (by simp) (by simp))
        exact hsame.trans hnote.full
      · split
        · exact hkept (A := {.forwarding}) (within_handleSdpAnswerFromPad r _ (by simp) data) (by simp) (by simp)
        · split
          · exact hkept (A := {.forwarding}) (within_handleSdpQuery r _ (by simp) data) (by simp) (by simp)
          · rfl

theorem fullReports_handleAcl (r : Relay) (s : ConnectionSide) (p : PacketContents) :
    (r.handleAcl s p).fullReports = (r.fullReports || r.namesFull (.acl s p)) := by
  have hkept : ∀ {A : Set Aspect} {a a' : Relay}, Performs (Op.Within A) a a' → .links ∉ A →
      .console .toPlaystation ∉ A → a'.fullReports = a.fullReports := fun h hl hK ↦
    congrArg Prod.fst (console_eq h .toPlaystation hl hK)
  have hreasm : ∀ a re, (setReasm a s (aclHandle p) re).fullReports = a.fullReports := fun a re ↦
    hkept (A := {.linkNotes}) (within_setReasm a s (by simp) _ re) (by simp) (by simp)
  have hpart := acl_part r s p
  rw [namesFull, payloadOf]
  revert hpart
  generalize r.handleAcl s p = r'
  generalize r.contentsOf s p = contents
  intro hpart
  cases hpart with
  | nothing h =>
    rw [hkept h (by simp) (by simp)]
    exact (Bool.or_false _).symm
  | @command re pdu q _ h =>
    obtain ⟨re', rfl⟩ := h
    have hbefore := within_arriving (A := {.linkNotes, .routing}) r s (by simp) (by simp) p re pdu
    have hcommand : Performs (Op.Within {.signalling s, .binding s}) (r.arriving s p re pdu)
        ((r.arriving s p re pdu).handleL2capCmd s q) := within_handleL2capCmd _ s (by simp) (by simp) q
    rw [hreasm, hkept hcommand (by simp) (by simp), hkept hbefore (by simp) (by simp)]
    exact (Bool.or_false _).symm
  | @payload re pdu cid data _ h =>
    obtain ⟨re', rfl⟩ := h
    have hbefore := within_arriving (A := {.linkNotes, .routing}) r s (by simp) (by simp) p re pdu
    rw [hreasm, fullReports_routePayload, hkept hbefore (by simp) (by simp)]
    cases s <;> rfl

/-- **Which format the console reads.** -/
theorem fullReports_step (r : Relay) (i : Input) :
    (r.step i).fullReports
      = if r.startsOver .toPlaystation (r.cause i) = true then false
        else r.fullReports || r.namesFull (r.cause i) := by
  have hnamed : ∀ cause, (∀ s p, cause ≠ .acl s p) → r.namesFull cause = false := by
    intro cause hno
    cases cause with
    | acl s p => exact absurd rfl (hno s p)
    | _ => rfl
  by_cases hover : r.startsOver .toPlaystation (r.cause i) = true
  · rw [if_pos hover]
    have hall := standing_startsOver .toPlaystation hover
    exact congrArg (fun st ↦ st.2.1) hall
  · rw [if_neg hover]
    by_cases hacl : ∀ s p, r.cause i ≠ .acl s p
    · rw [hnamed _ hacl, Bool.or_false]
      have hkept := standing_kept .toPlaystation (Bool.eq_false_iff.mpr hover) (hacl .toPlaystation)
      exact congrArg (fun st ↦ st.2.1) hkept
    · push Not at hacl
      obtain ⟨s, p, hcause⟩ := hacl
      rw [step_of_acl r s hcause, hcause]
      exact fullReports_handleAcl r s p

/-- The payload of the pad's that a cause brings on its interrupt channel. -/
def inputOf (r : Relay) (cause : Cause) : Option (List UInt8) :=
  match r.payloadOf cause with
  | some (.toDualsense, cid, data) => if cid = Channel.hidInterrupt.scid then some data else none
  | _ => none

theorem inputOf_of_brings {cause : Cause} {report : List UInt8} (h : r.BringsInput cause report) :
    r.inputOf cause = some report := by
  rw [inputOf, h.1]
  rfl

end Relay

/-! ## The two formats -/

/-- A full report of the pad with its HIDP header, that carries its state. -/
structure IsStateReport (report : List UInt8) : Prop where
  size : report.length = 79
  header : byteAt report 0 = HIDP_DATA_INPUT
  id : byteAt report 1 = REPORT_BT
  state : byteAt report 2 &&& 0x01 ≠ 0

instance (report : List UInt8) : Decidable (IsStateReport report) :=
  decidable_of_iff (report.length = 79 ∧ byteAt report 0 = HIDP_DATA_INPUT ∧ byteAt report 1 = REPORT_BT
      ∧ byteAt report 2 &&& 0x01 ≠ 0)
    ⟨fun h ↦ ⟨h.1, h.2.1, h.2.2.1, h.2.2.2⟩, fun h ↦ ⟨h.size, h.header, h.id, h.state⟩⟩

/-- The ten bytes of a report 0x01 with its header: the sticks, the buttons, the counter and the triggers
of a full report. -/
structure CutDownOf (report basic : List UInt8) : Prop where
  size : basic.length = 1 + 10
  header : byteAt basic 0 = HIDP_DATA_INPUT
  id : byteAt basic 1 = 0x01
  sticks : ∀ k < 4, byteAt basic (2 + k) = byteAt report (3 + k)
  buttons : byteAt basic 6 = byteAt report 10 ∧ byteAt basic 7 = byteAt report 11
    ∧ byteAt basic 8 &&& 0x03 = byteAt report 12 &&& 0x03
  counter : byteAt basic 8 >>> 2 = byteAt report 9 &&& 0x3f
  triggers : ∀ k < 2, byteAt basic (9 + k) = byteAt report (7 + k)

/-- Two bits of buttons and six of the counter in one byte. -/
theorem counter_bits (buttons counter : UInt8) :
    let packed := (buttons &&& 0x03) ||| ((counter &&& 0x3f) <<< (2 : UInt8))
    packed &&& 0x03 = buttons &&& 0x03 ∧ packed >>> 2 = counter &&& 0x3f := by
  have hlow : ∀ n : Fin 256, UInt8.ofFin n &&& 0x03 ∈ (List.range 4).map UInt8.ofNat := by decide +kernel
  have hhigh : ∀ n : Fin 256, UInt8.ofFin n &&& 0x3f ∈ (List.range 64).map UInt8.ofNat := by decide +kernel
  have hall : ∀ x ∈ (List.range 4).map UInt8.ofNat, ∀ y ∈ (List.range 64).map UInt8.ofNat,
      (x ||| (y <<< (2 : UInt8))) &&& 0x03 = x ∧ (x ||| (y <<< (2 : UInt8))) >>> 2 = y := by decide +kernel
  exact hall _ (hlow buttons.toFin) _ (hhigh counter.toFin)

theorem cutDownOf_makeCutDownReport (report : List UInt8) :
    CutDownOf report (HIDP_DATA_INPUT :: makeCutDownReport report) := by
  obtain ⟨hbuttons, hcounter⟩ := counter_bits (byteAt report 12) (byteAt report 9)
  exact ⟨rfl, rfl, rfl, fun k hk ↦ by interval_cases k <;> rfl, ⟨rfl, rfl, hbuttons⟩, hcounter,
    fun k hk ↦ by interval_cases k <;> rfl⟩

/-! ## What the console gets -/

/-- What the pad has sent, and whether the console has named a report that turns full ones on since its
channels started over. -/
structure FormatHistory where
  payloads : List (List UInt8) := []
  named : Bool := false

namespace FormatHistory

open Relay

def note (x : FormatHistory) (r : Relay) (i : Input) : FormatHistory where
  payloads := x.payloads ++ (r.inputOf (r.cause i)).toList
  named := if r.startsOver .toPlaystation (r.cause i) = true then false else x.named || r.namesFull (r.cause i)

/-- What the step sends on the console's interrupt channel is a report of the pad in the format the
console asked for. -/
def Formatted (q : Relay × FormatHistory) (i : Input) : Prop :=
  ∀ f ∈ (q.1.step i).frames.drop q.1.frames.length, f.side = .toPlaystation → f.cid = q.1.inputEnd →
    q.1.inputEnd ≠ 0 → ∃ report ∈ (q.2.note q.1 i).payloads, IsStateReport report
      ∧ if q.2.named = true then f.payload = report else CutDownOf report f.payload

end FormatHistory

namespace Relay

/-- What the pad sends to be passed on, frames of its opaque stream apart, are full reports. -/
def FullInput (r : Relay) (i : Input) : Prop :=
  ∀ report ∈ r.inputOf (r.cause i), r.linked = true → r.inputEnd ≠ 0 → opaqueFrame report = false →
    IsStateReport report

instance (r : Relay) (i : Input) : Decidable (r.FullInput i) := inferInstanceAs (Decidable (∀ _ ∈ _, _))

end Relay

namespace FormatHistory

open Relay

variable {x : FormatHistory} {r : Relay} {i : Input}

/-- The history knows the format, and what is held is a report of the pad. -/
structure Knows (x : FormatHistory) (r : Relay) : Prop where
  mode : r.fullReports = x.named
  slot : r.held.valid = true → r.held.view ∈ x.payloads ∧ IsStateReport r.held.view

/-- A report that the step brings is among the pad's, and full. -/
theorem brought {report : List UInt8} (hi : r.FullInput i) (h : r.BringsInput (r.cause i) report) :
    report ∈ (x.note r i).payloads ∧ IsStateReport report := by
  have hinput := inputOf_of_brings h
  refine ⟨List.mem_append_right _ ?_, hi report hinput h.2.1 h.2.2.1 h.2.2.2⟩
  rw [hinput]
  exact List.mem_singleton_self _

theorem Knows.step (h : x.Knows r) (hi : r.FullInput i) : (x.note r i).Knows (r.step i) := by
  refine ⟨?_, fun hvalid ↦ ?_⟩
  · rw [fullReports_step, h.mode]
    rfl
  · rcases (input_step r i).slot with hslot | hslot | ⟨report, hbrings, hslot⟩
    · rw [hslot] at hvalid ⊢
      obtain ⟨hmem, hstate⟩ := h.slot hvalid
      exact ⟨List.mem_append_left _ hmem, hstate⟩
    · rw [hslot] at hvalid
      cases hvalid
    · obtain ⟨hmem, hstate⟩ := brought (x := x) hi hbrings
      have hview : (r.step i).held.view = report := by
        rw [hslot]
        exact HeldFrame.view_store _ (by rw [hstate.size]; decide)
      rw [hview]
      exact ⟨hmem, hstate⟩

theorem formatted (h : x.Knows r) (hi : r.FullInput i) (hends : r.EndApart) : Formatted (r, x) i := by
  intro f hf hside hcid hopen
  obtain ⟨new, hnew, hsent⟩ := (input_step r i).sends
  rw [show (r.step i).frames = _ from hnew, List.drop_left] at hf
  have hframed : ∀ report, r.InFormat report f →
      if x.named = true then f.payload = report else CutDownOf report f.payload := by
    intro report hin
    obtain rfl : f = _ := hin
    rw [← h.mode, framed]
    split
    · rfl
    · exact cutDownOf_makeCutDownReport report
  obtain ⟨happart, hothers⟩ := hends hopen
  rcases hsent f hf with helse | ⟨hvalid, hin⟩ | ⟨report, hbrings, hin⟩
  · rcases helse hside with hsig | ⟨c, hc, hend⟩
    · exact absurd (hcid.symm.trans hsig) happart
    · exact absurd (hend.trans hcid) (hothers c hc)
  · obtain ⟨hmem, hstate⟩ := h.slot hvalid
    exact ⟨_, List.mem_append_left _ hmem, hstate, hframed _ hin⟩
  · obtain ⟨hmem, hstate⟩ := brought (x := x) hi hbrings
    exact ⟨report, hmem, hstate, hframed report hin⟩

end FormatHistory

/-- **The format of the reports.**  In a run in which what the pad sends to be passed on are full reports, and
the console's interrupt channel has an end of its own, the console gets each report in the format it asked for. -/
theorem reports_formatted (c : Config) (is : List Input)
    (h : Along Relay.step (fun r i ↦ r.FullInput i ∧ r.EndApart) (.init c) is) :
    Along (withHistory Relay.step FormatHistory.note) FormatHistory.Formatted (.init c, {}) is := by
  rw [← along_withHistory Relay.step FormatHistory.note (p := (.init c, {}))] at h
  let Inv (q : Relay × FormatHistory) : Prop := q.2.Knows q.1
  have hinit : Inv (.init c, {}) := ⟨rfl, fun hvalid ↦ by cases hvalid⟩
  exact h.of_invariant hinit fun q i hq hi ↦ ⟨FormatHistory.Knows.step hq hi.1, FormatHistory.formatted hq hi.1 hi.2⟩

/-- A report goes out cut down, the console asks for the calibration, and the next one goes out whole. -/
theorem reports_formatted_calibration :
    Along (withHistory Relay.step FormatHistory.note) FormatHistory.Formatted (.init .session, {})
      (Input.bothLinked ++ [.openChannel .toPlaystation 2 Channel.hidInterrupt.psm 0x40,
        .openChannel .toPlaystation 2 Channel.hidControl.psm 0x41, .stateReport,
        .data .toPlaystation 2 Channel.hidControl.scid [HIDP_GET_FEATURE, REPORT_CALIBRATION],
        .stateReport]) :=
  reports_formatted _ _ (by decide +kernel)

/-- A report of the kind a pad starts with on a fresh link. -/
def Input.shortReport : Input :=
  .data .toDualsense 1 Channel.hidInterrupt.scid ([HIDP_DATA_INPUT, 0x01] ++ List.replicate 9 0)

/-- The state behind the opening of the console's interrupt channel. -/
def shortReportAhead : Relay × FormatHistory :=
  run (withHistory Relay.step FormatHistory.note) (.init .session, {})
    (Input.bothLinked ++ [.openChannel .toPlaystation 2 Channel.hidInterrupt.psm 0x40])

/-- The pad's own cut-down report is rearranged as if it were a full one. -/
theorem short_report_rearranged : ¬ ∀ (c : Config) (is : List Input),
    Along (withHistory Relay.step FormatHistory.note) FormatHistory.Formatted (.init c, {}) is := by
  intro h
  let opened : Input := .openChannel .toPlaystation 2 Channel.hidInterrupt.psm 0x40
  have hlast : FormatHistory.Formatted shortReportAhead .shortReport :=
    (along_append.mp (h .session ((Input.bothLinked ++ [opened]) ++ [Input.shortReport]))).2.1
  have hnone : ∀ report ∈ (shortReportAhead.2.note shortReportAhead.1 .shortReport).payloads,
      ¬ IsStateReport report := by decide +kernel
  unfold FormatHistory.Formatted at hlast
  have hsent := hlast ⟨.toPlaystation, 0x40, HIDP_DATA_INPUT :: 0x01 :: List.replicate 9 0⟩
    (by decide +kernel) (by decide +kernel) (by decide +kernel) (by decide +kernel)
  obtain ⟨report, hmem, hstate, -⟩ := hsent
  exact hnone report hmem hstate

end DualSenseMitm
