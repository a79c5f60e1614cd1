import DualSenseMitm.Runs.HeldReports
import DualSenseMitm.Runs.ReportGaps
import DualSenseMitm.Runs.ServiceRecord
import DualSenseMitm.Tallies

/-!
# What the counters count

`TallyStep` is what a step of the relay comes to in its tally, and `tally_step` that there is nothing else.
Whatever is said of counters, of the gadget or of the feed over a whole run is an induction over these few
cases.
-/

set_option autoImplicit false

namespace DualSenseMitm

open Bytes Machine

/-! ## The cases -/

/-- What a request or a notice of the host does. -/
inductive EventMove (t : Tally) : Tally → Prop
  | enabled (b : Bool) : EventMove t { t with enabled := b }
  | paired : EventMove t (t.park (.handover .toDualsense))

/-- The gadget is attached, or was before. -/
inductive EnableMove (t : Tally) : Tally → Prop
  | before (h : t.started = true) : EnableMove t t
  | now {bound serving} (h : t.started = false) :
      EnableMove t { t with started := true, bound := bound, serving := serving }

/-- What an input brings, as far as the tally goes. -/
inductive Brought
  /-- A payload on the interrupt channel of a peer. -/
  | payload (s : ConnectionSide) (report : List UInt8)
  /-- The host has taken a report. -/
  | completion
  | other

/-- What one step comes to, with what its input brings. -/
inductive TallyStep (opened : ConnectionSide → Bool) (t : Tally) : Brought → Tally → Prop
  | kept : TallyStep opened t .other t
  | snapshot {link} : TallyStep opened t .other (t.put [.publishedLink link])
  | input {report link u v}
      (hcable : CableMove report ((t.put [.padInput report (opened .toPlaystation)]).put
        (if Published report then [.published (slice report BT_BODY_OFF INPUT_BODY_LEN) link] else [])) u)
      (hconsole : ConsoleMove report u (opened .toPlaystation) v) :
      TallyStep opened t (.payload .toDualsense report) v
  | output {report u} (h : OutputMove t (opened .toDualsense) u) :
      TallyStep opened t (.payload .toPlaystation report) u
  | flushed {view now} :
      TallyStep opened t .other
        ((t.count .toPlaystation fun c ↦ { c with inputCount := c.inputCount + 1, flushed := c.flushed + 1 }).put
          [.relayed view true now])
  | taken : TallyStep opened t .completion { t with inBusy := false }
  | events {u} (hserving : t.serving = true) (h : Relation.ReflTransGen EventMove t u) :
      TallyStep opened t .other u
  | configured : TallyStep opened t .other (t.park (.startUsbGadget .toDualsense))
  /-- The wait for the pad's answers begins. -/
  | starting {ts} (hts : ts.Sublist t.parked) :
      TallyStep opened t .other (Tally.park { t with parked := ts } (.enableUsbGadget .toDualsense))
  | enabling {ts u} (hts : ts.Sublist t.parked) (h : EnableMove { t with parked := ts } u) :
      TallyStep opened t .other u
  | detaching {ts} (hk : .handover .toDualsense ∈ t.parked) (hts : ts.Sublist t.parked) :
      TallyStep opened t .other
        { t.put [.gadgetDetached] with bound := false, enabled := false, parked := ts }

/-- The coroutines about the gadget are the pad-facing handler's. -/
def Tally.PadOnly (t : Tally) : Prop :=
  ∀ k ∈ t.parked, k ∈ [.startUsbGadget .toDualsense, .enableUsbGadget .toDualsense, Task.handover .toDualsense]

namespace Relay

variable (r : Relay) (s : ConnectionSide)

/-- What a payload on a channel amounts to. -/
def onInterrupt (s : ConnectionSide) (cid : UInt16) (data : List UInt8) : Brought :=
  if cid = Channel.hidInterrupt.scid then .payload s data else .other

def broughtBy (r : Relay) : Cause → Brought
  | .inputDone _ => .completion
  | cause => (r.payloadOf cause).elim .other fun p ↦ onInterrupt p.1 p.2.1 p.2.2

/-! ## Packets -/

theorem tally_routePayload (cid : UInt16) (data : List UInt8) :
    TallyStep r.interruptOpen r.tally (onInterrupt s cid data) (r.routePayload s cid data).tally := by
  have hkept : ∀ {t : Tally}, t = r.tally → TallyStep r.interruptOpen r.tally .other t := by
    rintro t rfl
    exact .kept
  unfold routePayload onInterrupt
  by_cases hcontrol : cid = Channel.hidControl.scid
  · have hno : cid ≠ Channel.hidInterrupt.scid := by rw [hcontrol]; decide
    rw [if_pos hcontrol, if_neg hno]
    cases s with
    | toDualsense => exact hkept (tally_handleFeatureAnswerFromPad r _ data)
    | toPlaystation => exact hkept (tally_handleFeatureRequestFromConsole r _ data)
  · rw [if_neg hcontrol]
    by_cases hinterrupt : cid = Channel.hidInterrupt.scid
    · rw [if_pos hinterrupt, if_pos hinterrupt]
      cases s with
      | toDualsense =>
        obtain ⟨link, t, hcable, hconsole⟩ := tally_relayPadInput r data
        exact .input hcable hconsole
      | toPlaystation => exact .output (tally_relayConsoleOutputToPad r data)
    · rw [if_neg hinterrupt, if_neg hinterrupt]
      refine hkept ?_
      split
      · exact tally_handleSdpAnswerFromPad r s data
      · split
        · exact tally_handleSdpQuery r s data
        · rfl

theorem interruptOpen_arriving (p : PacketContents) (re : Option AclReasm) (pdu : List UInt8) :
    (r.arriving s p re pdu).interruptOpen = r.interruptOpen := by
  funext t
  have hw := within_arriving (A := {.linkNotes, .routing}) r s (by simp) (by simp) p re pdu
  rw [interruptOpen, interruptOpen, hw.linked, dcid_eq hw t (by simp) (by simp)]

/-- What a signalling command does. -/
theorem tally_command (p : PacketContents) :
    TallyStep r.interruptOpen r.tally .other (r.handleL2capCmd s p).tally := by
  rcases tally_handleL2capCmd r s p with h | h
  · rw [h]
    exact .kept
  · rw [h]
    exact .configured

theorem tally_handleAcl (p : PacketContents) :
    TallyStep r.interruptOpen r.tally (r.broughtBy (.acl s p)) (r.handleAcl s p).tally := by
  have hpart := blind_tally.handleAcl r s p
  show TallyStep _ _ ((r.payloadOf (.acl s p)).elim .other fun q ↦ onInterrupt q.1 q.2.1 q.2.2) _
  rw [payloadOf]
  revert hpart
  generalize (r.handleAcl s p).tally = t
  generalize r.contentsOf s p = contents
  intro hpart
  cases hpart with
  | nothing => exact .kept
  | @command re pdu =>
    rw [← blind_tally.arriving r s p re pdu, ← interruptOpen_arriving r s p re pdu]
    exact tally_command _ s _
  | @payload re pdu =>
    rw [← blind_tally.arriving r s p re pdu, ← interruptOpen_arriving r s p re pdu]
    exact tally_routePayload _ s _ _

/-- Buffers that come free may take what is held. -/
theorem tally_numCompletedPackets (hidle : r.PadSideIdle) (plen : UInt8) (p : PacketContents) :
    TallyStep r.interruptOpen r.tally .other (r.handleNumCompletedPackets s plen p).tally := by
  unfold handleNumCompletedPackets
  split
  · exact .kept
  · split
    · exact .kept
    · rename_i body _ _
      generalize hr : (r.onAcl s fun a ↦ a.onNumCompleted (fun k ↦ r.env.clock (r.tick + k)) body).advance
        (byteAt body 0).toNat = r₁
      have h₁ : r₁.tally = r.tally := by rw [← hr, tally_advance, tally_onAcl]
      have hheld : (r₁.h s).held = (r.h s).held := by rw [← hr]; simp
      rcases tally_flushHeldReport r₁ s with h | ⟨hvalid, now, h⟩
      · rw [h, h₁]
        exact .kept
      · cases s with
        | toDualsense =>
          rw [hheld, hidle] at hvalid
          cases hvalid
        | toPlaystation =>
          rw [h, h₁]
          exact .flushed

theorem tally_handleEvent (hidle : r.PadSideIdle) (p : PacketContents) :
    TallyStep r.interruptOpen r.tally .other (r.handleEvent s p).tally := by
  rcases blind_tally.handleEvent r s p with h | ⟨plen, q, h⟩
  · rw [h]
    exact .kept
  · rw [h]
    exact tally_numCompletedPackets r s hidle plen q

/-! ## The gadget -/

/-- Events of the host, one after another. -/
theorem tally_readEp0 (events : List UsbEvent) :
    TallyStep r.interruptOpen r.tally .other (r.readEp0 events).tally := by
  have hfold : ∀ (r' : Relay), Relation.ReflTransGen EventMove r'.tally (events.foldl handleUsbEvent r').tally := by
    induction events with
    | nil => exact fun _ ↦ .refl
    | cons e events ih =>
      intro r'
      refine Relation.ReflTransGen.head ?_ (ih _)
      rcases tally_handleUsbEvent r' e with ⟨b, h⟩ | h
      · rw [h]
        exact .enabled b
      · rw [h]
        exact .paired
  unfold readEp0
  split
  · rename_i h
    exact .events h.1 (hfold r)
  · exact .kept

/-- The coroutines about the gadget, without the one that carries on. -/
theorem tally_unpark {k : ℕ} {task : Task} (hk : r.tasks[k]? = some task) :
    ∃ ts, ts.Sublist r.tally.parked ∧ (r.unpark k).tally = { r.tally with parked := ts }
      ∧ (task.isGadget = false → ts = r.tally.parked) := by
  refine ⟨(r.tasks.eraseIdx k).filter Task.isGadget, (List.eraseIdx_sublist _ _).filter _, rfl, fun hno ↦ ?_⟩
  obtain ⟨hlt, rfl⟩ := List.getElem?_eq_some_iff.mp hk
  show (r.tasks.eraseIdx k).filter Task.isGadget = r.tasks.filter Task.isGadget
  have hsplit : r.tasks = r.tasks.take k ++ r.tasks[k] :: r.tasks.drop (k + 1) := by
    rw [List.cons_getElem_drop_succ, List.take_append_drop]
  rw [List.eraseIdx_eq_take_drop_succ, List.filter_append]
  conv_rhs => rw [hsplit, List.filter_append, List.filter_cons_of_neg (by rw [hno]; decide)]

theorem mem_parked {k : ℕ} {task : Task} (hk : r.tasks[k]? = some task) (hg : task.isGadget = true) :
    task ∈ r.tally.parked := List.mem_filter.mpr ⟨List.mem_of_getElem? hk, hg⟩

theorem tally_fire (hpad : r.tally.PadOnly) (k : ℕ) :
    TallyStep r.interruptOpen r.tally .other (r.fire k).tally := by
  unfold fire
  cases hk : r.tasks[k]? with
  | none => exact .kept
  | some task =>
    obtain ⟨ts, hts, hunpark, hsame⟩ := tally_unpark r hk
    have hplain : task.isGadget = false → (r.unpark k).tally = r.tally := fun hno ↦ by rw [hunpark, hsame hno]
    have hside : ∀ s, task = .startUsbGadget s ∨ task = .enableUsbGadget s ∨ task = .handover s →
        s = .toDualsense := by
      intro s hs
      have hmem := hpad task (mem_parked r hk (by rcases hs with rfl | rfl | rfl <;> rfl))
      rcases hs with rfl | rfl | rfl <;> cases s <;> first | rfl | simp at hmem
    cases task with
    | reconnect t delay =>
      show TallyStep _ _ _ ((r.unpark k).fireReconnect t).tally
      rw [blind_tally.fireReconnect, hplain rfl]
      exact .kept
    | sweepDone t =>
      show TallyStep _ _ _ ((r.unpark k).suppressCmdErrors t false).tally
      rw [suppressCmdErrors, tally_onPaging, hplain rfl]
      exact .kept
    | interruptFallback t link =>
      show TallyStep _ _ _ ((r.unpark k).fireInterruptFallback t link).tally
      rw [blind_tally.fireInterruptFallback, hplain rfl]
      exact .kept
    | startUsbGadget t =>
      show TallyStep _ _ _ ((r.unpark k).startUsbGadget t).tally
      rw [hside t (.inl rfl), tally_startUsbGadget, hunpark]
      exact .starting hts
    | enableUsbGadget t =>
      show TallyStep _ _ _ ((r.unpark k).enableUsbGadget t).tally
      have h := tally_enableUsbGadget (r.unpark k) t (hside t (.inr (.inl rfl)))
      rw [hunpark] at h
      rcases h with ⟨h, hbefore⟩ | ⟨hnew, bound, serving, h⟩
      · rw [h]
        exact .enabling hts (.before hbefore)
      · rw [h]
        exact .enabling hts (.now hnew)
    | handover t =>
      show TallyStep _ _ _ ((r.unpark k).fireHandover t).tally
      have hmem := mem_parked r hk rfl
      rw [hside t (.inr (.inr rfl))] at hmem ⊢
      rw [tally_fireHandover, hunpark]
      exact .detaching hmem hts

/-! ## One step -/

/-- **What one step comes to.** -/
theorem tally_step (hidle : r.PadSideIdle) (hpad : r.tally.PadOnly) (i : Input) :
    TallyStep r.interruptOpen r.tally (r.broughtBy (r.cause i)) (r.step i).tally := by
  have hkept : ∀ {t : Tally}, t = r.tally → TallyStep r.interruptOpen r.tally .other t := by
    rintro t rfl
    exact .kept
  cases i with
  | start s =>
    show TallyStep _ _ _ (Relay.tally (ite _ _ _))
    split
    · exact hkept (blind_tally.startHandler r s)
    · exact .kept
  | resetTimeout s =>
    show TallyStep _ _ _ (Relay.tally (ite _ _ _))
    split
    · exact hkept (blind_tally.afterReset r s)
    · exact .kept
  | packet s bytes =>
    unfold cause step takePacket
    dsimp only
    cases (r.h s).phase with
    | down => exact .kept
    | resetting => exact hkept (blind_tally.packetDuringReset r s bytes)
    | running =>
      unfold causeOfPacket handleBluetoothData
      cases PacketContents.get 1 bytes with
      | none => exact .kept
      | some q =>
        dsimp only
        by_cases hevent : byteAt q.1 0 = HCI_EVENT_PKT
        · rw [if_pos hevent, if_pos hevent]
          exact tally_handleEvent r s hidle q.2
        · rw [if_neg hevent, if_neg hevent]
          by_cases hacl : byteAt q.1 0 = HCI_ACLDATA_PKT
          · rw [if_pos hacl, if_pos hacl]
            exact tally_handleAcl r s q.2
          · rw [if_neg hacl, if_neg hacl]
            exact .kept
  | fire k =>
    have hother : r.broughtBy (r.cause (.fire k)) = .other := by
      unfold cause
      dsimp only
      repeat' split
      all_goals rfl
    rw [hother]
    exact tally_fire r hpad k
  | watch s =>
    show TallyStep _ _ _ (Relay.tally (ite _ _ _))
    split
    · exact hkept (blind_tally.watchCommands r s)
    · exact .kept
  | pollRadio s =>
    show TallyStep _ _ _ (Relay.tally (ite _ _ _))
    split
    · exact hkept (blind_tally.readRadioQuality r s)
    · exact .kept
  | publishStage =>
    show TallyStep _ _ _ (Relay.tally (ite _ _ _))
    split
    · rw [publishStage, tally_emit_of_isShown r rfl]
      exact .snapshot
    · exact .kept
  | ep0 events => exact tally_readEp0 r events
  | getReportTimeout => exact hkept (blind_tally.getReportTimeout r)
  | inputDone result =>
    show TallyStep _ _ _ (r.inputCompletion result).tally
    rw [tally_inputCompletion]
    exact .taken
  | outputDone result => exact hkept (tally_outputCompletion r result)
  | shutdown =>
    show TallyStep _ _ _ (Relay.tally (ite _ _ _))
    split
    · exact hkept ((blind_tally.disconnectLink _ _).trans (blind_tally.disconnectLink r _))
    · exact hkept (blind_tally.disconnectLink r _)

end Relay

/-! ## Runs -/

namespace TallyStep

variable {opened : ConnectionSide → Bool} {t u : Tally} {brought : Brought}

/-- What a payload of the pad shows changes nothing about the gadget's coroutines. -/
theorem parked_of_cable {report : List UInt8} (h : CableMove report t u) :
    u.parked = t.parked ∧ u.started = t.started ∧ u.counts = t.counts ∧ u.inOrder = t.inOrder := by
  cases h <;> exact ⟨rfl, rfl, rfl, rfl⟩

theorem parked_of_console {report : List UInt8} {b : Bool} (h : ConsoleMove report t b u) :
    u.parked = t.parked ∧ u.started = t.started ∧ u.inOrder = t.inOrder := by
  cases h <;> exact ⟨rfl, rfl, rfl⟩

theorem parked_of_output {b : Bool} (h : OutputMove t b u) :
    u.parked = t.parked ∧ u.started = t.started ∧ u.inOrder = t.inOrder := by
  cases h <;> exact ⟨rfl, rfl, rfl⟩

/-- What is parked behind a step was parked before, or is one of the three. -/
theorem padOnly (h : TallyStep opened t brought u) (hpad : t.PadOnly) : u.PadOnly := by
  have hsub : ∀ {ts : List Task}, ts.Sublist t.parked → ∀ k ∈ ts, k ∈ t.parked := fun hts k hk ↦ hts.subset hk
  have hmore : ∀ {v : Tally} {k : Task}, v.PadOnly →
      k ∈ [.startUsbGadget .toDualsense, .enableUsbGadget .toDualsense, Task.handover .toDualsense] →
      (v.park k).PadOnly := by
    intro v k hv hk k' hk'
    rcases List.mem_append.mp hk' with hk' | hk'
    · exact hv k' hk'
    · rw [List.mem_singleton.mp hk']
      exact hk
  cases h with
  | kept | snapshot | taken | flushed => exact hpad
  | input hcable hconsole =>
    rw [Tally.PadOnly, (parked_of_console hconsole).1, (parked_of_cable hcable).1]
    exact hpad
  | output h =>
    rw [Tally.PadOnly, (parked_of_output h).1]
    exact hpad
  | events _ h =>
    induction h with
    | refl => exact hpad
    | tail _ hmove ih =>
      cases hmove with
      | enabled b => exact ih
      | paired => exact hmore ih (by simp)
  | configured => exact hmore hpad (by simp)
  | starting hts => exact hmore (fun k hk ↦ hpad k (hsub hts k hk)) (by simp)
  | enabling hts h =>
    cases h with
    | before => exact fun k hk ↦ hpad k (hsub hts k hk)
    | now => exact fun k hk ↦ hpad k (hsub hts k hk)
  | detaching _ hts => exact fun k hk ↦ hpad k (hsub hts k hk)

end TallyStep

namespace Relay

/-- What the cases of a step rest on. -/
structure Steady (r : Relay) : Prop where
  idle : r.PadSideIdle
  padOnly : r.tally.PadOnly

theorem steady_init (cfg : Config) : (Relay.init cfg).Steady := ⟨rfl, fun _ hk ↦ by cases hk⟩

theorem Steady.tallyStep {r : Relay} (h : r.Steady) (i : Input) :
    TallyStep r.interruptOpen r.tally (r.broughtBy (r.cause i)) (r.step i).tally :=
  tally_step r h.idle h.padOnly i

/-- What a step shows is part of what it puts out. -/
theorem shown_step (r : Relay) (i : Input) :
    (r.step i).tally.shown = r.tally.shown ++ (r.added i).filter Output.isShown := by
  obtain ⟨new, hout⟩ := out_step r i
  rw [added_eq hout.symm]
  show (r.step i).out.filter Output.isShown = r.out.filter Output.isShown ++ _
  rw [← hout, List.filter_append]

theorem Steady.step {r : Relay} (h : r.Steady) (i : Input) : (r.step i).Steady :=
  ⟨padSideIdle_step r h.idle i, (h.tallyStep i).padOnly h.padOnly⟩

theorem steady_run (cfg : Config) (is : List Input) : (run Relay.step (.init cfg) is).Steady :=
  run_invariant is (steady_init cfg) fun _ i h ↦ h.step i

end Relay

/-- **The induction over a run's tally.**  What holds of the tally at the start and is kept by each of the
cases holds of it wherever a run ends. -/
theorem tally_run {P : Tally → Prop} (cfg : Config) (is : List Input) (h0 : P (Relay.init cfg).tally)
    (hstep : ∀ {opened t brought u}, TallyStep opened t brought u → P t → P u) :
    P (run Relay.step (.init cfg) is).tally := by
  have h : (run Relay.step (.init cfg) is).Steady ∧ P (run Relay.step (.init cfg) is).tally :=
    @run_invariant _ _ _ (fun r : Relay ↦ r.Steady ∧ P r.tally) _ is ⟨Relay.steady_init cfg, h0⟩
      fun r i ⟨hsteady, hinv⟩ ↦ ⟨hsteady.step i, hstep (hsteady.tallyStep i) hinv⟩
  exact h.2

/-! ## Commands -/

/-- **Commands leave in the order they were issued.**  In every run, with any answers of the controllers and
any writes that fail, the commands a side has issued are those that were written or dropped, in that order,
and then those that wait. -/
theorem commands_in_order (cfg : Config) (is : List Input) (s : ConnectionSide) :
    let r := run Relay.step (.init cfg) is
    r.issued s = r.gone s ++ r.waiting s := by
  refine tally_run (P := fun t ↦ t.inOrder s) cfg is rfl fun h hinv ↦ ?_
  cases h with
  | input hcable hconsole =>
    rw [(TallyStep.parked_of_console hconsole).2.2, (TallyStep.parked_of_cable hcable).2.2.2]
    exact hinv
  | output h =>
    rw [(TallyStep.parked_of_output h).2.2]
    exact hinv
  | events _ h =>
    induction h with
    | refl => exact hinv
    | tail _ hmove ih => cases hmove <;> exact ih
  | enabling _ h => cases h <;> exact hinv
  | _ => exact hinv

/-! ## Reports and their counters -/

/-- The payloads that came while the other peer's interrupt channel was open. -/
structure Arrivals where
  /-- Reports of the pad, frames of its opaque stream apart. -/
  reports : ℕ := 0
  opaques : ℕ := 0
  /-- Payloads of the console. -/
  outputs : ℕ := 0

namespace Arrivals

def add (x : Arrivals) (opened : ConnectionSide → Bool) : Brought → Arrivals
  | .payload .toDualsense report =>
    if opened .toPlaystation = false then x
    else if opaqueFrame report then { x with opaques := x.opaques + 1 }
    else { x with reports := x.reports + 1 }
  | .payload .toPlaystation _ =>
    if opened .toDualsense = false then x else { x with outputs := x.outputs + 1 }
  | _ => x

def note (x : Arrivals) (r : Relay) (i : Input) : Arrivals := x.add r.interruptOpen (r.broughtBy (r.cause i))

end Arrivals

/-- A report is handed to the console's send function. -/
def Output.isRelayed : Output → Bool
  | .relayed .. => true
  | _ => false

/-- The counters of the console-facing handler agree with what came and what was handed on. -/
structure Balanced (x : Arrivals) (c : Counts) (shown : List Output) : Prop where
  reports : c.inputCount + c.backpressure = UInt64.ofNat x.reports + c.flushed
  opaques : c.opaqueDropped = UInt64.ofNat x.opaques
  outputs : c.outputCount + c.outputDropped = UInt64.ofNat x.outputs
  sent : c.inputCount = UInt64.ofNat (shown.countP Output.isRelayed)
  flushed : c.flushed = UInt64.ofNat (shown.countP Output.isFlush)

namespace Balanced

variable {x : Arrivals} {c : Counts} {shown : List Output}

/-- Nothing that is counted is shown. -/
theorem shows (h : Balanced x c shown) {os : List Output} (hr : os.countP Output.isRelayed = 0)
    (hf : os.countP Output.isFlush = 0) : Balanced x c (shown ++ os) where
  reports := h.reports
  opaques := h.opaques
  outputs := h.outputs
  sent := by rw [List.countP_append, hr, Nat.add_zero, h.sent]
  flushed := by rw [List.countP_append, hf, Nat.add_zero, h.flushed]

/-- On the cable nothing is counted. -/
theorem of_cable {report : List UInt8} {t u : Tally} (h : Balanced x (t.counts .toPlaystation) t.shown)
    (hmove : CableMove report t u) : Balanced x (u.counts .toPlaystation) u.shown := by
  cases hmove with
  | none => exact h
  | sent => exact h.shows rfl rfl

theorem counts_count (t : Tally) (s : ConnectionSide) (f : Counts → Counts) :
    (t.count s f).counts s = f (t.counts s) := Function.update_self s _ t.counts

theorem counts_put (t : Tally) (os : List Output) : (t.put os).counts = t.counts := rfl

theorem shown_put (t : Tally) (os : List Output) : (t.put os).shown = t.shown ++ os := rfl

/-- Each payload that comes while the channel is open is counted once. -/
theorem step {opened : ConnectionSide → Bool} {t u : Tally} {brought : Brought}
    (h : Balanced x (t.counts .toPlaystation) t.shown) (hstep : TallyStep opened t brought u) :
    Balanced (x.add opened brought) (u.counts .toPlaystation) u.shown := by
  cases hstep with
  | snapshot => exact h.shows rfl rfl
  | @input report link v _ hcable hconsole =>
    have hshown : Balanced x (v.counts .toPlaystation) v.shown := by
      refine of_cable ((h.shows rfl rfl).shows ?_ ?_) hcable
      all_goals split <;> rfl
    rw [Arrivals.add]
    generalize opened .toPlaystation = b at hconsole
    cases hconsole with
    | shut => exact hshown
    | dropped ho =>
      rw [if_neg (by decide), if_pos ho, counts_count]
      exact { hshown with opaques := by rw [hshown.opaques, UInt64.ofNat_add]; rfl }
    | sent ho =>
      rw [if_neg (by decide), if_neg (by rw [ho]; decide)]
      rw [counts_put, counts_count, shown_put]
      refine ⟨?_, hshown.opaques, hshown.outputs, ?_, ?_⟩
      · have := hshown.reports
        rw [UInt64.ofNat_add]
        grind
      · rw [List.countP_append, hshown.sent, UInt64.ofNat_add]
        rfl
      · rw [List.countP_append]
        exact hshown.flushed
    | held ho =>
      rw [if_neg (by decide), if_neg (by rw [ho]; decide), counts_count]
      refine { hshown with reports := ?_ }
      have := hshown.reports
      rw [UInt64.ofNat_add]
      grind
  | @output report _ hmove =>
    rw [Arrivals.add]
    generalize opened .toDualsense = b at hmove
    cases hmove with
    | shut => exact h
    | sent | dropped =>
      rw [if_neg (by decide), counts_count]
      refine { h with outputs := ?_ }
      have := h.outputs
      rw [UInt64.ofNat_add]
      grind
  | flushed =>
    have hnothing : x.add opened .other = x := rfl
    rw [hnothing, counts_put, counts_count, shown_put]
    refine ⟨?_, h.opaques, h.outputs, ?_, ?_⟩
    · have := h.reports
      grind
    · rw [List.countP_append, h.sent, UInt64.ofNat_add]
      rfl
    · rw [List.countP_append, h.flushed, UInt64.ofNat_add]
      rfl
  | events _ hmoves =>
    induction hmoves with
    | refl => exact h
    | tail _ hmove ih => cases hmove <;> exact ih
  | enabling _ hmove => cases hmove <;> exact h
  | detaching => exact h.shows rfl rfl
  | _ => exact h

end Balanced

/-- **Every payload is accounted for.**  In every run, of the reports of the pad that came while the console's
interrupt channel was open each was counted as handed on or as kept back, once more when it was handed on
after all, or as opaque; each payload of the console that came while the pad's was open as handed on or as
dropped; and what is counted as handed on was handed to the send function, from the slot or directly, whether
or not a frame came of it. -/
theorem payloads_accounted_for (cfg : Config) (is : List Input) :
    let p := run (withHistory Relay.step Arrivals.note) (.init cfg, {}) is
    let c := (p.1.h .toPlaystation).streams
    c.consoleInputCount + c.consoleInputBackpressure = UInt64.ofNat p.2.reports + c.consoleInputFlushed
      ∧ c.consoleInputOpaqueDropped = UInt64.ofNat p.2.opaques
      ∧ c.consoleOutputCount + c.consoleOutputDropped = UInt64.ofNat p.2.outputs
      ∧ c.consoleInputCount = UInt64.ofNat (p.1.out.countP Output.isRelayed)
      ∧ c.consoleInputFlushed = UInt64.ofNat (p.1.out.countP Output.isFlush) := by
  intro p c
  let Inv (q : Relay × Arrivals) :=
    q.1.Steady ∧ Balanced q.2 (q.1.tally.counts .toPlaystation) q.1.tally.shown
  have hinv : Inv p := by
    refine run_invariant is ⟨Relay.steady_init cfg, ⟨rfl, rfl, rfl, rfl, rfl⟩⟩ fun q i ⟨hsteady, hbalanced⟩ ↦ ?_
    exact ⟨hsteady.step i, hbalanced.step (hsteady.tallyStep i)⟩
  obtain ⟨-, hreports, hopaques, houtputs, hsent, hflushed⟩ := hinv
  have hshown : ∀ f : Output → Bool, (∀ o, f o = true → o.isShown = true) →
      p.1.tally.shown.countP f = p.1.out.countP f := by
    intro f hf
    refine (List.countP_filter).trans (List.countP_congr fun o _ ↦ ?_)
    rw [Bool.and_eq_true]
    exact and_iff_left_of_imp (hf o)
  refine ⟨hreports, hopaques, houtputs, ?_, ?_⟩
  · rw [← hshown _ fun o ho ↦ by cases o <;> first | rfl | cases ho]
    exact hsent
  · rw [← hshown _ fun o ho ↦ by cases o <;> first | rfl | cases ho]
    exact hflushed

end DualSenseMitm
