import DualSenseMitm.Readings

/-!
# What is counted, and what is shown

Next to what it relays the relay keeps counters and shows itself: to a viewer, to the host on the cable, to
the adapters in the order of its commands.  Few functions have anything to do with that.  `Relay.tally` is all
of it in one record; the bookkeeping leaves it as it is (`blind_tally`), the lemmas `tally_…` say what the other
functions make of it, and `tally_step` how the tally behind a step comes from the one before it.
-/

set_option autoImplicit false

namespace DualSenseMitm

open Bytes Machine

/-! ## The tally -/

namespace Relay

/-- The commands a side has issued. -/
def issued (r : Relay) (s : ConnectionSide) : List Command := r.out.filterMap (Output.issued? s)

/-- Those that left the queue. -/
def gone (r : Relay) (s : ConnectionSide) : List Command := r.out.filterMap (Output.gone? s)

/-- And those that wait. -/
def waiting (r : Relay) (s : ConnectionSide) : List Command :=
  (r.h s).cmdQueue.queue.filter fun c ↦ !c.isReset

end Relay

/-- What is counted and shown. -/
@[ext] structure Tally where
  bound : Bool
  enabled : Bool
  serving : Bool
  inBusy : Bool
  /-- The pad's handler has attached the gadget, or tried to. -/
  started : Bool
  counts : ConnectionSide → Counts
  /-- The coroutines about the gadget. -/
  parked : List Task
  shown : List Output
  /-- Each command that was issued has left the queue or waits in it, in the order they were issued. -/
  inOrder : ConnectionSide → Prop

namespace Tally

/-- Something more is shown. -/
def put (t : Tally) (os : List Output) : Tally := { t with shown := t.shown ++ os }

/-- A coroutine about the gadget is parked. -/
def park (t : Tally) (k : Task) : Tally := { t with parked := t.parked ++ [k] }

/-- One side counts. -/
def count (t : Tally) (s : ConnectionSide) (f : Counts → Counts) : Tally :=
  { t with counts := Function.update t.counts s (f (t.counts s)) }

end Tally

namespace Relay

def tally (r : Relay) : Tally where
  bound := r.usb.bound
  enabled := r.usb.endpointsEnabled
  serving := r.usb.serving
  inBusy := r.usb.inBusy
  started := (r.h .toDualsense).streams.usbStarted
  counts := fun s ↦ (r.h s).streams.counts
  parked := r.tasks.filter Task.isGadget
  shown := r.out.filter Output.isShown
  inOrder := fun s ↦ r.issued s = r.gone s ++ r.waiting s

/-- What the tally is about, and nothing else. -/
theorem tally_congr {r r' : Relay} (husb : r'.usb = r.usb) (hout : r'.out = r.out) (htasks : r'.tasks = r.tasks)
    (hh : ∀ s, (r'.h s).streams.counts = (r.h s).streams.counts
      ∧ (r'.h s).streams.usbStarted = (r.h s).streams.usbStarted
      ∧ (r'.h s).cmdQueue.queue = (r.h s).cmdQueue.queue) : r'.tally = r.tally := by
  have hcounts := fun s ↦ (hh s).1
  have hstarted := (hh .toDualsense).2.1
  have hqueue := fun s ↦ (hh s).2.2
  simp only [tally, issued, gone, waiting, husb, hout, htasks, hcounts, hstarted, hqueue]

variable (r : Relay) (s : ConnectionSide)

/-! ## Single operations -/

section operations

@[simp] theorem tally_onLinks (f : Links → Links) : (r.onLinks s f).tally = r.tally :=
  tally_congr rfl rfl rfl fun t ↦ by simp

@[simp] theorem tally_onPairing (f : Pairing → Pairing) : (r.onPairing s f).tally = r.tally :=
  tally_congr rfl rfl rfl fun t ↦ by simp

@[simp] theorem tally_onPaging (f : Paging → Paging) : (r.onPaging s f).tally = r.tally :=
  tally_congr rfl rfl rfl fun t ↦ by simp

@[simp] theorem tally_onChannels (f : Channels → Channels) : (r.onChannels s f).tally = r.tally :=
  tally_congr rfl rfl rfl fun t ↦ by simp

@[simp] theorem tally_onHeld (f : HeldFrame → HeldFrame) : (r.onHeld s f).tally = r.tally :=
  tally_congr rfl rfl rfl fun t ↦ by simp

@[simp] theorem tally_onGaps (f : SendGaps → SendGaps) : (r.onGaps s f).tally = r.tally :=
  tally_congr rfl rfl rfl fun t ↦ by simp

@[simp] theorem tally_onAcl (f : AclFlowControl → AclFlowControl) : (r.onAcl s f).tally = r.tally :=
  tally_congr rfl rfl rfl fun t ↦ by simp

@[simp] theorem tally_onRadio (f : Radio → Radio) : (r.onRadio s f).tally = r.tally :=
  tally_congr rfl rfl rfl fun t ↦ by simp

@[simp] theorem tally_setPhase (p : Phase) : (r.setPhase s p).tally = r.tally :=
  tally_congr rfl rfl rfl fun t ↦ by simp

@[simp] theorem tally_advance (n : ℕ) : (r.advance n).tally = r.tally := rfl

theorem tally_onCmdQueue {f : HciCommandQueue → HciCommandQueue} (hf : ∀ q, (f q).queue = q.queue) :
    (r.onCmdQueue s f).tally = r.tally :=
  tally_congr rfl rfl rfl fun t ↦ by simp [apply_ite HciCommandQueue.queue, hf]

theorem tally_onStreams {f : DualSenseMitm.Streams → DualSenseMitm.Streams}
    (hf : ∀ st, (f st).counts = st.counts ∧ (f st).usbStarted = st.usbStarted) :
    (r.onStreams s f).tally = r.tally :=
  tally_congr rfl rfl rfl fun t ↦ by
    by_cases ht : t = s <;> simp [ht, hf]

theorem tally_onUsb {f : UsbHandler → UsbHandler}
    (hf : ∀ u, (f u).bound = u.bound ∧ (f u).endpointsEnabled = u.endpointsEnabled ∧ (f u).serving = u.serving
      ∧ (f u).inBusy = u.inBusy) : (r.onUsb f).tally = r.tally :=
  have h := hf r.usb
  Tally.ext h.1 h.2.1 h.2.2.1 h.2.2.2 rfl rfl rfl rfl rfl

theorem tally_spawn {t : Task} (ht : t.isGadget = false) : (r.spawn t).tally = r.tally := by
  have hparked : (r.tasks ++ [t]).filter Task.isGadget = r.tasks.filter Task.isGadget := by
    rw [List.filter_append, List.filter_cons_of_neg (by rw [ht]; decide), List.filter_nil, List.append_nil]
  exact Tally.ext rfl rfl rfl rfl rfl rfl hparked rfl rfl

theorem tally_spawn_gadget {t : Task} (ht : t.isGadget = true) :
    (r.spawn t).tally = r.tally.park t := by
  have hparked : (r.tasks ++ [t]).filter Task.isGadget = r.tasks.filter Task.isGadget ++ [t] := by
    rw [List.filter_append, List.filter_cons_of_pos ht, List.filter_nil]
  exact Tally.ext rfl rfl rfl rfl rfl rfl hparked rfl rfl

/-- Something that is no command leaves the process. -/
theorem tally_emit {o : Output} (hi : ∀ t, o.issued? t = none) (hg : ∀ t, o.gone? t = none) :
    (r.emit o).tally = r.tally.put ([o].filter Output.isShown) := by
  refine Tally.ext rfl rfl rfl rfl rfl rfl rfl (List.filter_append _ _) (funext fun t ↦ ?_)
  have hissued : (r.emit o).issued t = r.issued t := by
    rw [issued, out_emit, List.filterMap_append, List.filterMap_cons_none (hi t), List.filterMap_nil, List.append_nil,
      issued]
  have hgone : (r.emit o).gone t = r.gone t := by
    rw [gone, out_emit, List.filterMap_append, List.filterMap_cons_none (hg t), List.filterMap_nil, List.append_nil,
      gone]
  show ((r.emit o).issued t = (r.emit o).gone t ++ r.waiting t) = (r.issued t = r.gone t ++ r.waiting t)
  rw [hissued, hgone]

theorem tally_emit_of_isShown {o : Output} (h : o.isShown = true) :
    (r.emit o).tally = r.tally.put [o] := by
  have hi : ∀ t, o.issued? t = none := fun t ↦ by cases o <;> first | rfl | cases h
  have hg : ∀ t, o.gone? t = none := fun t ↦ by cases o <;> first | rfl | cases h
  rw [tally_emit r hi hg, List.filter_cons_of_pos h, List.filter_nil]

theorem tally_emit_of_plain {o : Output} (hi : ∀ t, o.issued? t = none) (hg : ∀ t, o.gone? t = none)
    (h : o.isShown = false) : (r.emit o).tally = r.tally := by
  rw [tally_emit r hi hg, List.filter_cons_of_neg (by rw [h]; decide), List.filter_nil]
  exact Tally.ext rfl rfl rfl rfl rfl rfl rfl (List.append_nil _) rfl

theorem tally_emit_of_aside {o : Output} (h : o.Aside) : (r.emit o).tally = r.tally :=
  tally_emit_of_plain r h.issued h.gone h.shown

/-! The queue hands commands on, and loses none. -/

theorem gone?_pumpOutput (t : ConnectionSide) (p : Command × Bool) :
    (pumpOutput s p).gone? t = if s = t ∧ p.1.isReset = false then some p.1 else none := by
  unfold pumpOutput
  split <;> rfl

theorem gone?_pumped (t : ConnectionSide) (ps : List (Command × Bool)) :
    (ps.map (pumpOutput s)).filterMap (Output.gone? t)
      = if s = t then (ps.map Prod.fst).filter fun c ↦ !c.isReset else [] := by
  induction ps with
  | nil => cases s <;> cases t <;> rfl
  | cons p ps ih =>
    rw [List.map_cons, List.filterMap_cons, gone?_pumpOutput, ih, List.map_cons, List.filter_cons]
    by_cases hs : s = t
    · cases hp : p.1.isReset <;> simp [hs]
    · simp [hs]

theorem issued?_pumped (t : ConnectionSide) (ps : List (Command × Bool)) :
    (ps.map (pumpOutput s)).filterMap (Output.issued? t) = [] := by
  refine List.filterMap_eq_nil_iff.mpr fun o ho ↦ ?_
  obtain ⟨p, -, rfl⟩ := List.mem_map.mp ho
  rw [pumpOutput]
  split <;> rfl

theorem isShown_pumped (ps : List (Command × Bool)) : (ps.map (pumpOutput s)).filter Output.isShown = [] := by
  refine List.filter_eq_nil_iff.mpr fun o ho ↦ ?_
  obtain ⟨p, -, rfl⟩ := List.mem_map.mp ho
  rw [pumpOutput]
  split <;> exact Bool.false_ne_true

/-- What has left the queue and what is in it are the same commands behind the pump. -/
theorem gone_pumpCommands (t : ConnectionSide) :
    (r.pumpCommands s).gone t ++ (r.pumpCommands s).waiting t = r.gone t ++ r.waiting t := by
  rw [gone, waiting, out_pumpCommands, List.filterMap_append, gone?_pumped, h_pumpCommands, List.append_assoc]
  by_cases hs : s = t
  · subst hs
    have hqueue := HciCommandQueue.queue_pump (fun k ↦ r.env.cmdWrite (r.tick + k))
      (fun k ↦ r.env.clock (r.tick + k)) (r.h s).cmdQueue
    rw [if_pos rfl, ← List.filter_append, if_pos rfl, gone, waiting]
    exact congrArg (fun q ↦ r.out.filterMap (Output.gone? s) ++ q.filter fun c ↦ !c.isReset) hqueue.symm
  · rw [if_neg hs, if_neg (Ne.symm hs), List.nil_append, gone, waiting]

@[simp] theorem tally_pumpCommands : (r.pumpCommands s).tally = r.tally := by
  have hh : ∀ t, ((r.pumpCommands s).h t).streams = (r.h t).streams := fun t ↦ by rw [h_pumpCommands]
  have hissued : ∀ t, (r.pumpCommands s).issued t = r.issued t := fun t ↦ by
    rw [issued, out_pumpCommands, List.filterMap_append, issued?_pumped, List.append_nil, issued]
  refine Tally.ext rfl rfl rfl rfl ?_ ?_ rfl ?_ (funext fun t ↦ ?_)
  · exact congrArg Streams.usbStarted (hh .toDualsense)
  · exact funext fun t ↦ congrArg Streams.counts (hh t)
  · show (r.pumpCommands s).out.filter _ = r.out.filter _
    rw [out_pumpCommands, List.filter_append, isShown_pumped, List.append_nil]
  · show (_ = (r.pumpCommands s).gone t ++ (r.pumpCommands s).waiting t) = _
    rw [hissued, gone_pumpCommands]
    rfl

/-- A command that is issued waits behind the others. -/
theorem tally_push (c : Command) :
    ((r.onCmdQueue s fun q ↦ q.push c).emit (.cmdIssued s c)).tally = r.tally := by
  generalize hr : (r.onCmdQueue s fun q ↦ q.push c).emit (.cmdIssued s c) = r'
  have hh : ∀ t, (r'.h t).streams = (r.h t).streams := fun t ↦ by rw [← hr, h_emit, h_onCmdQueue]
  have hout : r'.out = r.out ++ [.cmdIssued s c] := by rw [← hr]; rfl
  refine Tally.ext (by rw [← hr]; rfl) (by rw [← hr]; rfl) (by rw [← hr]; rfl) (by rw [← hr]; rfl)
    (congrArg Streams.usbStarted (hh .toDualsense)) (funext fun t ↦ congrArg Streams.counts (hh t))
    (by rw [← hr]; rfl) ?_ (funext fun t ↦ propext ?_)
  · show r'.out.filter _ = r.out.filter _
    rw [hout, List.filter_append]
    exact List.append_nil _
  · show r'.issued t = r'.gone t ++ r'.waiting t ↔ r.issued t = r.gone t ++ r.waiting t
    have hgone : r'.gone t = r.gone t := by
      rw [gone, hout, List.filterMap_append]
      exact List.append_nil _
    have hqueue : (r'.h t).cmdQueue.queue = (r.h t).cmdQueue.queue ++ if t = s then [c] else [] := by
      rw [← hr, h_emit, h_onCmdQueue]
      by_cases ht : t = s <;> simp [ht]
    rw [hgone, issued, hout, List.filterMap_append, waiting, hqueue, List.filter_append, ← List.append_assoc,
      issued, waiting]
    by_cases ht : t = s
    · subst ht
      cases hc : c.isReset with
      | true => simp [Output.issued?, hc]
      | false =>
        have hmark : Output.issued? t (.cmdIssued t c) = some c := if_pos ⟨rfl, hc⟩
        rw [List.filterMap_cons_some hmark, List.filterMap_nil, if_pos rfl,
          List.filter_cons_of_pos (by rw [hc]; rfl), List.filter_nil]
        exact List.append_left_inj [c]
    · simp [Output.issued?, ht, Ne.symm ht]

@[simp] theorem tally_sendCmd (ogf ocf : UInt16) (param : List UInt8) (what : String) :
    (r.sendCmd s ogf ocf param what).tally = r.tally := by
  rw [sendCmd, tally_pumpCommands, tally_push]

@[simp] theorem tally_l2capSendFrame (cid : UInt16) (pre data : List UInt8) :
    (r.l2capSendFrame s cid pre data).tally = r.tally := by
  unfold l2capSendFrame
  extract_lets payload links ok r₁
  have h₁ : r₁.tally = r.tally := tally_emit_of_plain _ (fun _ ↦ rfl) (fun _ ↦ rfl) rfl
  split
  · rfl
  · split
    · rw [tally_onAcl, h₁]
    · exact h₁

end operations

/-! ## Commands and frames -/

section sending

@[simp] theorem tally_l2capSendFramed (c : Channel) (pre data : List UInt8) :
    (r.l2capSendFramed s c pre data).tally = r.tally := by
  unfold l2capSendFramed
  split
  · rfl
  · exact tally_l2capSendFrame r s _ _ _

@[simp] theorem tally_l2capSendData (c : Channel) (data : List UInt8) :
    (r.l2capSendData s c data).tally = r.tally := tally_l2capSendFramed r s c [] data

@[simp] theorem tally_l2capSendHid (c : Channel) (hidpHeader : UInt8) (data : List UInt8) :
    (r.l2capSendHid s c hidpHeader data).tally = r.tally := tally_l2capSendFramed r s c [hidpHeader] data

end sending

end Relay

/-- The bookkeeping counts nothing and shows nothing. -/
theorem blind_tally : Blind Relay.tally where
  onLinks := Relay.tally_onLinks
  onPairing := Relay.tally_onPairing
  onPaging := Relay.tally_onPaging
  onChannels := Relay.tally_onChannels
  onHeld := Relay.tally_onHeld
  onAcl := Relay.tally_onAcl
  onRadio := Relay.tally_onRadio
  setPhase := Relay.tally_setPhase
  advance := Relay.tally_advance
  onCmdQueue := fun r s _ hf ↦ Relay.tally_onCmdQueue r s hf
  onStreams := fun r s _ hf ↦ Relay.tally_onStreams r s hf
  onUsb := fun r _ hf ↦ Relay.tally_onUsb r hf
  spawn := fun r _ ht ↦ Relay.tally_spawn r ht
  emit := fun r _ ho ↦ Relay.tally_emit_of_aside r ho
  pumpCommands := Relay.tally_pumpCommands
  sendCmd := Relay.tally_sendCmd
  signal := fun r s _ _ ↦ Relay.tally_l2capSendFrame r s _ _ _

namespace Relay

variable (r : Relay) (s : ConnectionSide)

/-! ## Signalling -/

section signalling

/-- The pad's interrupt channel is configured: the gadget is to be attached. -/
theorem tally_handleConfResponse (p : PacketContents) :
    (r.handleConfResponse s p).tally = r.tally
      ∨ (r.handleConfResponse s p).tally = r.tally.park (.startUsbGadget .toDualsense) := by
  unfold handleConfResponse
  split
  · exact .inl rfl
  · extract_lets r₁
    have h₁ : r₁.tally = r.tally := by
      show Relay.tally (ite _ _ _) = _
      split <;> simp
    split
    · rename_i h
      rw [tally_spawn_gadget r₁ rfl, h₁, h.2]
      exact .inr rfl
    · exact .inl h₁

theorem tally_handleL2capCmd (p : PacketContents) :
    (r.handleL2capCmd s p).tally = r.tally
      ∨ (r.handleL2capCmd s p).tally = r.tally.park (.startUsbGadget .toDualsense) := by
  rcases blind_tally.handleL2capCmd r s p with h | ⟨ident, q, h⟩
  · exact .inl h
  · rw [h, ← tally_onChannels r s fun c ↦ { c with currentCmdIdent := ident }]
    exact tally_handleConfResponse _ s q

end signalling

/-! ## What is passed on -/

section passing

@[simp] theorem tally_l2capSendHidFeatureSet (report : List UInt8) :
    (r.l2capSendHidFeatureSet s report).tally = r.tally := by
  unfold l2capSendHidFeatureSet
  extract_lets declared btSize data buf
  split <;> simp

@[simp] theorem tally_l2capSendOutputReport (report : List UInt8) :
    (r.l2capSendOutputReport s report).tally = r.tally := by
  unfold l2capSendOutputReport
  extract_lets seq r₁ common head bt
  have h₁ : r₁.tally = r.tally := tally_onStreams r s fun _ ↦ ⟨rfl, rfl⟩
  split <;> simp [h₁]

theorem tally_handleSdpAnswerFromPad (payload : List UInt8) :
    (r.handleSdpAnswerFromPad s payload).tally = r.tally := by
  unfold handleSdpAnswerFromPad
  extract_lets r₁
  have h₁ : r₁.tally = r.tally := tally_onStreams r s.other fun _ ↦ ⟨rfl, rfl⟩
  split
  · split <;> simp [h₁]
  · rfl

theorem tally_handleSdpQuery (request : List UInt8) : (r.handleSdpQuery s request).tally = r.tally := by
  unfold handleSdpQuery handleSdpRequest
  extract_lets cache
  split
  · exact tally_l2capSendData r _ _ _
  · split
    · exact tally_l2capSendData r _ _ _
    · split <;> simp

theorem tally_handleFeatureRequestFromConsole (report : List UInt8) :
    (r.handleFeatureRequestFromConsole s report).tally = r.tally := by
  unfold handleFeatureRequestFromConsole
  extract_lets r₁
  have h₁ : r₁.tally = r.tally := by
    show Relay.tally (ite _ _ _) = _
    split <;> simp
  split <;> simp [h₁]

end passing

/-! ## The gadget -/

section gadget

theorem tally_handleFeatureAnswerFromPad (report : List UInt8) :
    (r.handleFeatureAnswerFromPad s report).tally = r.tally := by
  unfold handleFeatureAnswerFromPad
  extract_lets feature addr report' r₁
  have h₁ : r₁.tally = r.tally := by
    show Relay.tally (ite _ _ _) = _
    split <;> simp
  split
  · rw [blind_tally.onFeatureReport, h₁]
  · exact h₁

theorem tally_beginGetReport (reportId : UInt8) (length : UInt16) :
    (r.beginGetReport reportId length).tally = r.tally := by
  unfold beginGetReport
  split
  · exact blind_tally.ep0Reply r _
  · rw [l2capGetReport, tally_l2capSendHid]
    rfl

/-- The pair command leads to the handover. -/
theorem tally_takeTransport (report : List UInt8) :
    (r.takeTransport s report).tally = r.tally ∨ (r.takeTransport s report).tally = r.tally.park (.handover s) := by
  unfold takeTransport
  extract_lets sub r₁ r₂
  have h₂ : r₂.tally = r.tally :=
    (tally_l2capSendHidFeatureSet r₁ s report).trans (tally_onStreams r s fun _ ↦ ⟨rfl, rfl⟩)
  split
  · exact .inl rfl
  · split
    · rw [tally_spawn_gadget r₂ rfl, h₂]
      exact .inr rfl
    · exact .inl h₂

theorem tally_l2capSendFeatureSet (report : List UInt8) :
    (r.l2capSendFeatureSet s report).tally = r.tally
      ∨ (r.l2capSendFeatureSet s report).tally = r.tally.park (.handover s) := by
  unfold l2capSendFeatureSet
  split
  · exact .inl rfl
  · split
    · exact .inl (blind_tally.takePairingSet r s report)
    · split
      · exact tally_takeTransport r s report
      · exact .inl (tally_l2capSendHidFeatureSet r s report)

theorem tally_handleSetup (req : UsbSetup) :
    (r.handleSetup req).tally = r.tally ∨ (r.handleSetup req).tally = r.tally.park (.handover .toDualsense) := by
  unfold handleSetup
  split
  · exact .inl (tally_beginGetReport r _ _)
  · unfold takeSetReport
    split
    · exact .inl (blind_tally.ep0StageFailed r _ _)
    · extract_lets data
      split
      · exact .inl rfl
      · split
        · exact .inl (tally_l2capSendOutputReport r _ _)
        · exact tally_l2capSendFeatureSet r _ _
  · exact .inl (blind_tally.ep0Reply r _)
  · exact .inl (blind_tally.ep0Reply r _)
  · exact .inl (blind_tally.ep0Reply r _)
  · exact .inl (blind_tally.ep0Reply r _)
  · exact .inl ((blind_tally.ep0Ack _).trans (tally_onUsb r fun _ ↦ ⟨rfl, rfl, rfl, rfl⟩))
  · exact .inl (blind_tally.ep0Stall r _)
  · exact .inl (blind_tally.ep0Stall r _)

/-- An event on ep0 enables the endpoints or disables them, or is a request. -/
theorem tally_handleUsbEvent (e : UsbEvent) :
    (∃ enabled, (r.handleUsbEvent e).tally = { r.tally with enabled := enabled })
      ∨ (r.handleUsbEvent e).tally = r.tally.park (.handover .toDualsense) := by
  cases e with
  | unbind => exact .inl ⟨false, rfl⟩
  | disable => exact .inl ⟨false, rfl⟩
  | enable =>
    show (∃ enabled, r.onEndpointsEnabled.tally = _) ∨ _
    unfold onEndpointsEnabled
    split
    · exact .inl ⟨_, rfl⟩
    · rw [blind_tally.submitOutputRead]
      exact .inl ⟨true, rfl⟩
  | setup req => exact (tally_handleSetup r req).imp_left fun h ↦ ⟨_, h⟩

theorem tally_outputCompletion (result : Option (List UInt8)) : (r.outputCompletion result).tally = r.tally := by
  unfold outputCompletion
  split
  · unfold onOutputDone
    extract_lets r₁
    have h₁ : r₁.tally = r.tally := tally_onUsb r fun _ ↦ ⟨rfl, rfl, rfl, rfl⟩
    cases result with
    | none => exact h₁
    | some data =>
      dsimp only
      rw [blind_tally.submitOutputRead]
      split
      · exact h₁
      · rw [tally_l2capSendOutputReport, h₁]
  · rfl

/-- The host has taken a report. -/
theorem tally_inputCompletion (result : Int) :
    (r.inputCompletion result).tally = { r.tally with inBusy := false } := by
  unfold inputCompletion
  split
  · unfold onInputDone
    extract_lets r₁
    split
    · exact (tally_onUsb _ fun _ ↦ ⟨rfl, rfl, rfl, rfl⟩).trans rfl
    · rfl
  · rename_i h
    exact Tally.ext rfl rfl rfl (Bool.eq_false_iff.mpr h) rfl rfl rfl rfl rfl

theorem tally_enableGadget : r.enableGadget.2.tally = { r.tally with bound := r.enableGadget.2.usb.bound } := by
  unfold enableGadget
  split
  · extract_lets ok r₁
    split <;> rfl
  · rfl

/-- The gadget is attached once, or an attempt is made. -/
theorem tally_enableUsbGadget (hs : s = .toDualsense) :
    (r.enableUsbGadget s).tally = r.tally ∧ r.tally.started = true
      ∨ r.tally.started = false ∧ ∃ bound serving,
        (r.enableUsbGadget s).tally = { r.tally with started := true, bound := bound, serving := serving } := by
  subst hs
  unfold enableUsbGadget
  split
  · rename_i h
    exact .inl ⟨rfl, h⟩
  · rename_i h
    refine .inr ⟨Bool.eq_false_iff.mpr h, ?_⟩
    generalize hr : (r.onStreams .toDualsense fun st ↦ { st with usbStarted := true }) = r₁
    have h₁ : r₁.tally = { r.tally with started := true } := by
      rw [← hr]
      refine Tally.ext rfl rfl rfl rfl ?_ (funext fun t ↦ ?_) rfl rfl ?_
      · show ((r.onStreams _ _).h _).streams.usbStarted = true
        rw [h_onStreams, if_pos rfl]
      · show ((r.onStreams _ _).h t).streams.counts = _
        rw [h_onStreams]
        by_cases ht : t = .toDualsense
        · rw [if_pos ht]
          rfl
        · rw [if_neg ht]
          rfl
      · funext t
        show (r.issued t = r.gone t ++ (Relay.onStreams r _ _).waiting t) = _
        rw [waiting, h_onStreams]
        rfl
    have h₂ := tally_enableGadget r₁
    rw [h₁] at h₂
    show ∃ bound serving, Relay.tally
      (if r₁.enableGadget.1 then r₁.enableGadget.2.onUsb _ else r₁.enableGadget.2) = _
    split
    · exact ⟨_, true, congrArg (fun t : Tally ↦ { t with serving := true }) h₂⟩
    · exact ⟨_, _, h₂⟩

/-- The gadget is detached. -/
theorem tally_disableGadget :
    r.disableGadget.tally = { r.tally.put [.gadgetDetached] with bound := false, enabled := false } := by
  rw [disableGadget, tally_emit_of_isShown _ rfl]
  rfl

theorem tally_fireHandover :
    (r.fireHandover s).tally = { r.tally.put [.gadgetDetached] with bound := false, enabled := false } := by
  unfold fireHandover
  extract_lets r₁
  rw [blind_tally.connectToConsole, tally_disableGadget]

/-- The pad is asked for its reports before the gadget is attached. -/
theorem tally_startUsbGadget : (r.startUsbGadget s).tally = r.tally.park (.enableUsbGadget s) := by
  rw [startUsbGadget, tally_spawn_gadget _ rfl]
  simp [l2capGetReport]

end gadget

/-! ## Reports that pass through -/

/-- The interrupt channel of a peer takes what the other one sends. -/
def interruptOpen (r : Relay) (s : ConnectionSide) : Bool := r.linked && r.dcid s .hidInterrupt != 0

theorem interruptOpen_iff : r.interruptOpen s = true ↔ r.linked = true ∧ r.dcid s .hidInterrupt ≠ 0 := by
  rw [interruptOpen, Bool.and_eq_true, bne_iff_ne]

end Relay

/-- The pad's state in a payload: what is published. -/
def Published (report : List UInt8) : Prop :=
  1 + INPUT_BT_SIZE ≤ report.length ∧ byteAt report 0 = HIDP_DATA_INPUT ∧ byteAt report 1 = REPORT_BT
    ∧ carriesControllerState report

instance (report : List UInt8) : Decidable (Published report) := inferInstanceAs (Decidable (_ ∧ _))

/-- What becomes of a payload on the cable: nothing, or a report while the host reads and none is under way. -/
inductive CableMove (report : List UInt8) (t : Tally) : Tally → Prop
  | none : CableMove report t t
  | sent {usb ok} (hbound : t.bound = true) (henabled : t.enabled = true) (hidle : t.inBusy = false)
      (hfull : 1 + INPUT_BODY_OFF_BT + INPUT_BODY_LEN ≤ report.length ∧ byteAt report 0 = HIDP_DATA_INPUT
        ∧ byteAt report 1 = REPORT_BT)
      (husb : usb = makeUsbReport report ∨ usb = setPsOnUsbReport (makeUsbReport report)) :
      CableMove report t { t.put [.usbInput usb ok] with inBusy := ok }

/-- What becomes of a payload towards the console: with its channel open it is dropped, sent, or held. -/
inductive ConsoleMove (report : List UInt8) (t : Tally) : (opened : Bool) → Tally → Prop
  | shut : ConsoleMove report t false t
  | dropped (h : opaqueFrame report = true) :
      ConsoleMove report t true (t.count .toPlaystation fun c ↦ { c with opaqueDropped := c.opaqueDropped + 1 })
  | sent {now} (h : opaqueFrame report = false) :
      ConsoleMove report t true
        ((t.count .toPlaystation fun c ↦ { c with inputCount := c.inputCount + 1 }).put [.relayed report false now])
  | held (h : opaqueFrame report = false) :
      ConsoleMove report t true (t.count .toPlaystation fun c ↦ { c with backpressure := c.backpressure + 1 })

theorem ConsoleMove.of_eq {report : List UInt8} {t u u' : Tally} {opened : Bool} (h : ConsoleMove report t opened u)
    (heq : u' = u) : ConsoleMove report t opened u' := heq ▸ h

/-- What becomes of a payload of the console: with the pad's channel open it is sent, or dropped. -/
inductive OutputMove (t : Tally) : (opened : Bool) → Tally → Prop
  | shut : OutputMove t false t
  | sent : OutputMove t true (t.count .toPlaystation fun c ↦ { c with outputCount := c.outputCount + 1 })
  | dropped : OutputMove t true (t.count .toPlaystation fun c ↦ { c with outputDropped := c.outputDropped + 1 })

theorem OutputMove.of_eq {t u u' : Tally} {opened : Bool} (h : OutputMove t opened u) (heq : u' = u) :
    OutputMove t opened u' := heq ▸ h

namespace Relay

variable (r : Relay) (s : ConnectionSide)

section reports

/-- A side counts. -/
theorem tally_onStreams_count {f : DualSenseMitm.Streams → DualSenseMitm.Streams} {g : Counts → Counts}
    (hf : ∀ st, (f st).counts = g st.counts ∧ (f st).usbStarted = st.usbStarted) :
    (r.onStreams s f).tally = r.tally.count s g := by
  have hh : ∀ t, ((r.onStreams s f).h t).streams = if t = s then f (r.h t).streams else (r.h t).streams :=
    fun t ↦ by rw [h_onStreams]
  refine Tally.ext rfl rfl rfl rfl ?_ (funext fun t ↦ ?_) rfl rfl (funext fun t ↦ ?_)
  · show ((r.onStreams s f).h .toDualsense).streams.usbStarted = (r.h .toDualsense).streams.usbStarted
    rw [hh]
    split
    · exact (hf _).2
    · rfl
  · show ((r.onStreams s f).h t).streams.counts = Function.update r.tally.counts s (g (r.tally.counts s)) t
    rw [hh]
    by_cases ht : t = s
    · subst ht
      rw [if_pos rfl, Function.update_self]
      exact (hf _).1
    · rw [if_neg ht, Function.update_of_ne ht]
      rfl
  · show (r.issued t = r.gone t ++ (r.onStreams s f).waiting t) = _
    rw [waiting, h_onStreams]
    rfl

theorem tally_publishInput (report : List UInt8) :
    (r.publishInput s report).tally
      = r.tally.put (if Published report then
          [.published (slice report BT_BODY_OFF INPUT_BODY_LEN) (r.linkSnapshot s)] else []) := by
  by_cases h : Published report
  · have heq : r.publishInput s report
        = r.emit (.published (slice report BT_BODY_OFF INPUT_BODY_LEN) (r.linkSnapshot s)) := if_pos h
    rw [heq, if_pos h, tally_emit_of_isShown r rfl]
  · have heq : r.publishInput s report = r := if_neg h
    rw [heq, if_neg h]
    exact Tally.ext rfl rfl rfl rfl rfl rfl rfl (List.append_nil _).symm rfl

theorem tally_sendInput {r' : Relay} (report : List UInt8) (h : r'.tally = r.tally) :
    (r'.sendInput report).tally = r.tally
      ∨ (r.tally.enabled = true ∧ r.tally.inBusy = false) ∧ ∃ ok, (r'.sendInput report).tally
        = { r.tally.put [.usbInput (report.take REPORT_LENGTH) ok] with inBusy := ok } := by
  unfold sendInput
  extract_lets ok r₁
  have h₁ : r₁.tally = r.tally.put [.usbInput (report.take REPORT_LENGTH) ok] := by
    rw [← h]
    exact tally_emit_of_isShown _ rfl
  split
  · rename_i hidle
    have hidle' : r.tally.enabled = true ∧ r.tally.inBusy = false := by
      rw [← h]
      exact ⟨hidle.1, Bool.eq_false_iff.mpr hidle.2⟩
    refine .inr ⟨hidle', ok, ?_⟩
    by_cases hok : ok = true
    · rw [if_pos hok, hok]
      rw [hok] at h₁
      exact congrArg (fun t : Tally ↦ { t with inBusy := true }) h₁
    · rw [if_neg hok, h₁, Bool.eq_false_iff.mpr hok]
      exact Tally.ext rfl rfl rfl hidle'.2 rfl rfl rfl rfl rfl
  · exact .inl h

theorem length_setPsOnUsbReport {usb : List UInt8} : (setPsOnUsbReport usb).length = usb.length := by
  unfold setPsOnUsbReport
  split
  · exact List.length_set
  · rfl

theorem tally_relayPadInputToUsb (report : List UInt8) :
    CableMove report r.tally (r.relayPadInputToUsb s report).tally := by
  have hsend : ∀ (r' : Relay) (usb : List UInt8), r'.tally = r.tally → r.tally.bound = true →
      (1 + INPUT_BODY_OFF_BT + INPUT_BODY_LEN ≤ report.length ∧ byteAt report 0 = HIDP_DATA_INPUT
        ∧ byteAt report 1 = REPORT_BT) →
      (usb = makeUsbReport report ∨ usb = setPsOnUsbReport (makeUsbReport report)) →
      CableMove report r.tally (r'.sendInput usb).tally := by
    intro r' usb h hbound hfull husb
    have hlen : usb.take REPORT_LENGTH = usb := by
      refine List.take_of_length_le (le_of_eq ?_)
      rcases husb with rfl | rfl
      · exact length_makeUsbReport report
      · exact length_setPsOnUsbReport.trans (length_makeUsbReport report)
    rcases tally_sendInput r usb h with hkept | ⟨⟨henabled, hidle⟩, ok, hsent⟩
    · rw [hkept]
      exact .none
    · rw [hsent, hlen]
      exact .sent hbound henabled hidle hfull husb
  unfold relayPadInputToUsb
  split
  · rename_i h
    extract_lets usb since r₁ attempt
    split
    · split
      · exact hsend _ _ (tally_onStreams r₁ s fun _ ↦ ⟨rfl, rfl⟩) h.1 h.2 (.inr rfl)
      · exact hsend _ _ rfl h.1 h.2 (.inl rfl)
    · exact hsend _ _ rfl h.1 h.2 (.inl rfl)
  · exact .none

theorem tally_noteInputSent :
    (r.noteInputSent s).tally = r.tally.count s fun c ↦ { c with inputCount := c.inputCount + 1 } := by
  rw [noteInputSent, tally_advance, tally_onGaps]
  exact tally_onStreams_count r s fun _ ↦ ⟨rfl, rfl⟩

theorem tally_sendReportToConsole (report : List UInt8) (flushed : Bool) :
    (r.sendReportToConsole s report flushed).tally = r.tally.put [.relayed report flushed r.lastReading] := by
  unfold sendReportToConsole
  extract_lets r₁
  have h₁ : r₁.tally = r.tally.put [.relayed report flushed r.lastReading] := tally_emit_of_isShown r rfl
  split
  · rw [sendFullReportToConsole, tally_l2capSendHid, h₁]
  · rw [sendCutDownReportToConsole, tally_l2capSendHid, h₁]

theorem tally_relayPadInputToConsole (report : List UInt8) :
    ConsoleMove report r.tally (r.interruptOpen .toPlaystation)
      (r.relayPadInputToConsole .toDualsense report).tally := by
  unfold relayPadInputToConsole
  extract_lets r₁
  split
  · rename_i h
    have hopen : r.interruptOpen .toPlaystation = true := (interruptOpen_iff r _).mpr h
    have h₁ : r₁.tally = r.tally := tally_onChannels r _ _
    rw [hopen, ← h₁]
    split
    · rename_i ho
      exact (ConsoleMove.dropped ho).of_eq (tally_onStreams_count r₁ _ fun _ ↦ ⟨rfl, rfl⟩)
    · rename_i ho
      have ho : opaqueFrame report = false := Bool.eq_false_iff.mpr ho
      split
      · rw [tally_sendReportToConsole, tally_noteInputSent, tally_onHeld, blind_tally.afterRoom]
        exact .sent ho
      · rw [tally_onHeld, ← blind_tally.afterRoom r₁ .toPlaystation]
        exact (ConsoleMove.held ho).of_eq (tally_onStreams_count _ _ fun _ ↦ ⟨rfl, rfl⟩)
  · rename_i h
    have hshut : r.interruptOpen .toPlaystation = false :=
      Bool.eq_false_iff.mpr fun hopen ↦ h ((interruptOpen_iff r _).mp hopen)
    rw [hshut]
    exact .shut

/-- **What a payload of the pad comes to.** -/
theorem tally_relayPadInput (report : List UInt8) :
    ∃ link t, CableMove report ((r.tally.put [.padInput report (r.interruptOpen .toPlaystation)]).put
        (if Published report then [.published (slice report BT_BODY_OFF INPUT_BODY_LEN) link] else [])) t
      ∧ ConsoleMove report t (r.interruptOpen .toPlaystation) (r.relayPadInput .toDualsense report).tally := by
  unfold relayPadInput
  extract_lets r₁
  have h₁ : r₁.tally = r.tally.put [.padInput report (r.interruptOpen .toPlaystation)] := tally_emit_of_isShown r rfl
  have h₂ := tally_publishInput r₁ .toDualsense report
  generalize hr₂ : r₁.publishInput .toDualsense report = r₂ at h₂
  have h₃ := tally_relayPadInputToUsb r₂ .toDualsense report
  generalize hr₃ : r₂.relayPadInputToUsb .toDualsense report = r₃ at h₃
  have hopen : r₃.interruptOpen .toPlaystation = r.interruptOpen .toPlaystation := by
    have hquiet : Performs (Op.Within ∅) r₁ r₃ := by
      rw [← hr₃, ← hr₂]
      exact Performs.within ((quiet_publishInput r₁ _ report).trans (quiet_relayPadInputToUsb _ _ report))
    have hlinked : r₃.linked = r.linked := hquiet.linked
    have hend : r₃.dcid .toPlaystation .hidInterrupt = r.dcid .toPlaystation .hidInterrupt :=
      congrFun (dcid_eq hquiet .toPlaystation (by simp) (by simp)) _
    rw [interruptOpen, interruptOpen, hlinked, hend]
  have h₄ := tally_relayPadInputToConsole r₃ report
  rw [hopen] at h₄
  rw [h₂, h₁] at h₃
  exact ⟨_, _, h₃, h₄⟩

/-- A buffer that returns takes what is held. -/
theorem tally_flushHeldReport :
    (r.flushHeldReport s).tally = r.tally
      ∨ (r.h s).held.valid = true ∧ ∃ now, (r.flushHeldReport s).tally
        = (r.tally.count s fun c ↦ { c with inputCount := c.inputCount + 1, flushed := c.flushed + 1 }).put
            [.relayed (r.h s).held.view true now] := by
  unfold flushHeldReport
  extract_lets r₁
  have h₁ : r₁.tally = r.tally := blind_tally.afterRoom r s
  split
  · rename_i hvalid
    split
    · split
      · exact .inl ((tally_onHeld r₁ s _).trans h₁)
      · split
        · have hsent : ((r₁.onHeld s fun h ↦ h.clear).noteInputSent s).tally
              = r.tally.count s fun c ↦ { c with inputCount := c.inputCount + 1 } := by
            rw [tally_noteInputSent, tally_onHeld, h₁]
          generalize (r₁.onHeld s fun h ↦ h.clear).noteInputSent s = r₂ at hsent
          have hcount : (r₂.onStreams s fun st ↦ { st with consoleInputFlushed := st.consoleInputFlushed + 1 }).tally
              = r₂.tally.count s fun c ↦ { c with flushed := c.flushed + 1 } :=
            tally_onStreams_count r₂ s fun _ ↦ ⟨rfl, rfl⟩
          refine .inr ⟨hvalid, ?_⟩
          rw [tally_sendReportToConsole, hcount, hsent]
          refine ⟨_, congrArg (fun t : Tally ↦ t.put _) (Tally.ext rfl rfl rfl rfl rfl ?_ rfl rfl rfl)⟩
          simp [Tally.count]
        · exact .inl h₁
    · exact .inl h₁
  · exact .inl rfl

/-- A payload of the console is sent to the pad, or dropped. -/
theorem tally_relayConsoleOutputToPad (report : List UInt8) :
    OutputMove r.tally (r.interruptOpen .toDualsense) (r.relayConsoleOutputToPad .toPlaystation report).tally := by
  unfold relayConsoleOutputToPad
  extract_lets r₁ target r₂ r₃
  have h₁ : r₁.tally = r.tally := by
    show Relay.tally (ite _ _ _) = _
    split
    · rfl
    · rw [blind_tally.quietTheRadio, tally_onChannels]
  have h₂ : r₂.tally = r.tally := by
    show Relay.tally (ite _ _ _) = _
    split
    · refine Eq.trans (tally_onStreams r₁ _ ?_) h₁
      exact fun _ ↦ ⟨rfl, rfl⟩
    · exact h₁
  have h₃ : r₃.tally = r.tally := by
    refine Eq.trans (tally_onStreams r₂ _ ?_) h₂
    exact fun _ ↦ ⟨rfl, rfl⟩
  have hopen : (r₂.linked = true ∧ r₂.dcid .toDualsense .hidInterrupt ≠ 0)
      ↔ r.linked = true ∧ r.dcid .toDualsense .hidInterrupt ≠ 0 := by
    have hnote : Performs (Op.Within {.console .toPlaystation, .pacing .toPlaystation}) r r₂ := by
      have hseen : Performs (Op.Within {.console .toPlaystation, .pacing .toPlaystation}) r r₁ :=
        .ite (fun _ ↦ .refl r) fun _ ↦
          .trans (within_onConsole r _ (by simp) fun _ ↦ ⟨by rfl, by rfl⟩) (within_quietTheRadio _ _ (by simp))
      refine hseen.trans (.ite (fun _ ↦ Performs.within (quiet_onStreams r₁ _ ?_)) fun _ ↦ .refl r₁)
      exact fun _ ↦ rfl
    rw [hnote.linked, dcid_eq hnote .toDualsense (by simp) (by simp)]
  split
  · rename_i h
    have hshows : r.interruptOpen .toDualsense = true := (interruptOpen_iff r _).mpr (hopen.mp h)
    rw [hshows, ← h₃, ← blind_tally.afterRoom r₃ .toDualsense]
    split
    · rw [tally_l2capSendData]
      exact OutputMove.sent.of_eq (tally_onStreams_count _ _ fun _ ↦ ⟨rfl, rfl⟩)
    · exact OutputMove.dropped.of_eq (tally_onStreams_count _ _ fun _ ↦ ⟨rfl, rfl⟩)
  · rename_i h
    have hshut : r.interruptOpen .toDualsense = false :=
      Bool.eq_false_iff.mpr fun ho ↦ h (hopen.mpr ((interruptOpen_iff r _).mp ho))
    rw [hshut, h₂]
    exact .shut

end reports

end Relay

end DualSenseMitm
