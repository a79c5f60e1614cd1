import DualSenseMitm.Moves

/-!
# Reads of the gadget's OUT endpoint

One read is to be kept queued on the OUT endpoint while the host has it enabled.  The relay submits
it and the controller ends it, at a moment of its own: with a report, with `ESHUTDOWN` when the host
takes the endpoint down, or with another error.  The completion then waits until it is reaped, and the
events that say what the host did wait on ep0 for themselves, so the two arrive in any order.

* `EndpointState` — the relay with the completion that waits.
* `KeepsReading` — what every step but a completion does to the endpoint.
* `output_always_read` — a read is in flight wherever the endpoint is enabled, exactly when no read
  that died with the endpoint is reaped while it is enabled.
-/

set_option autoImplicit false

namespace DualSenseMitm

open Bytes Machine Relay

/-! ## The controller's side -/

/-- How the controller ends a read of the OUT endpoint. -/
inductive ReadEnd
  /-- With a report, of any length. -/
  | data (bytes : List UInt8)
  /-- The host disabled the endpoint. -/
  | disabled
  /-- Any other error. -/
  | failed
deriving DecidableEq

/-- What `on_output_done` is told. -/
def ReadEnd.result : ReadEnd → Option (List UInt8)
  | .data bytes => some bytes
  | .disabled | .failed => none

/-- What can happen next. -/
inductive EndpointInput
  | input (i : Input)
  /-- The controller ends the read in flight. -/
  | completes (e : ReadEnd)
  /-- `endpoint_events` takes the completion. -/
  | reap

/-- The relay, and what the controller holds for it. -/
structure EndpointState where
  relay : Relay
  /-- The completion that has not been reaped. -/
  completed : Option ReadEnd := none
  /-- How many have been. -/
  reaped : ℕ := 0

namespace EndpointState

def step (st : EndpointState) : EndpointInput → EndpointState
  -- completions come from the controller alone
  | .input (.outputDone _) => st
  | .input i => { st with relay := st.relay.step i }
  | .completes e =>
    if st.relay.usb.outBusy ∧ st.completed = none then { st with completed := some e } else st
  | .reap =>
    match st.completed with
    | none => st
    | some e =>
      { relay := st.relay.step (.outputDone e.result), completed := none, reaped := st.reaped + 1 }

end EndpointState

namespace Relay

/-- How many reads have been submitted. -/
def readsSubmitted (out : List Output) : ℕ := out.count (.usbOutputRead true)

/-- A read is in flight if the endpoint is enabled. -/
def Reading (r : Relay) : Prop := r.usb.endpointsEnabled = true → r.usb.outBusy = true

/-- The endpoint is enabled by an event of ep0 alone, which is read once the gadget is up. -/
structure Serves (r : Relay) : Prop where
  files : r.usb.epOutOpen = r.usb.ep0Open
  up : r.usb.serving = true → r.usb.ep0Open = true
  enabled : r.usb.endpointsEnabled = true → r.usb.serving = true

theorem Serves.epOutOpen {r : Relay} (h : r.Serves) (he : r.usb.endpointsEnabled = true) :
    r.usb.epOutOpen = true := h.files.trans (h.up (h.enabled he))

/-- What a step that takes no completion does to the endpoint: a read in flight stays in flight, and
only an endpoint that has none gets one. -/
structure KeepsReading (r r' : Relay) : Prop where
  out : r.out <+: r'.out
  serving : r.usb.serving = true → r'.usb.serving = true
  serves : r.Serves → r'.Serves
  count : readsSubmitted r'.out + r.usb.outBusy.toNat
    = readsSubmitted r.out + r'.usb.outBusy.toNat
  busy : r.usb.outBusy = true → r'.usb.outBusy = true
  reading : r.Serves → .usbOutputRead false ∉ r'.out → r.Reading → r'.Reading

namespace KeepsReading

theorem refl (r : Relay) : r.KeepsReading r :=
  ⟨List.prefix_rfl, id, id, rfl, id, fun _ _ ↦ id⟩

theorem trans {r r' r'' : Relay} (h : r.KeepsReading r') (h' : r'.KeepsReading r'') :
    r.KeepsReading r'' := by
  refine ⟨h.out.trans h'.out, fun hs ↦ h'.serving (h.serving hs), fun hs ↦ h'.serves (h.serves hs), ?_,
    fun hb ↦ h'.busy (h.busy hb), ?_⟩
  · have := h.count
    have := h'.count
    omega
  · intro hs hok hr
    have hok' : Output.usbOutputRead false ∉ r'.out := fun hm ↦ hok (h'.out.subset hm)
    exact h'.reading (h.serves hs) hok (h.reading hs hok' hr)

/-- The endpoint is as it was, and no read was submitted. -/
theorem of_eq {r r' : Relay} (hout : r.out <+: r'.out)
    (hcount : readsSubmitted r'.out = readsSubmitted r.out)
    (husb : r'.usb.endpoints = r.usb.endpoints) : r.KeepsReading r' := by
  simp only [UsbHandler.endpoints, Prod.mk.injEq] at husb
  obtain ⟨hep0, hout', hserving, henabled, hbusy⟩ := husb
  refine ⟨hout, fun hs ↦ hserving.trans hs, fun hs ↦ ?_, by rw [hcount, hbusy],
    fun hb ↦ hbusy.trans hb, fun _ _ hr ↦ ?_⟩
  · exact ⟨by rw [hout', hep0, hs.files], by rw [hserving, hep0]; exact hs.up,
      by rw [henabled, hserving]; exact hs.enabled⟩
  · rw [Reading, henabled, hbusy]
    exact hr

end KeepsReading

variable {r r' : Relay}

theorem readsSubmitted_append (out new : List Output) :
    readsSubmitted (out ++ new) = readsSubmitted out + readsSubmitted new := List.count_append

theorem keepsReading_of_within {A : Set Aspect} (h : Performs (Op.Within A) r r')
    (hA : .endpoints ∉ A) : r.KeepsReading r' := by
  obtain ⟨new, hout, hnew⟩ := h.out
  refine .of_eq ⟨new, hout.symm⟩ ?_ (endpoints_eq h hA)
  have hnone : readsSubmitted new = 0 := List.count_eq_zero_of_not_mem fun hm ↦
    hA ((hnew _ hm).within rfl rfl)
  rw [hout, readsSubmitted_append, hnone, add_zero]

/-! ## The endpoint goes up and down -/

/-- A read that is submitted is the only one, and there is one if the endpoint is enabled. -/
theorem submitOutputRead_spec (r : Relay) :
    r.KeepsReading r.submitOutputRead
      ∧ (r.Serves → .usbOutputRead false ∉ r.submitOutputRead.out → r.submitOutputRead.Reading) := by
  unfold submitOutputRead
  by_cases hidle : r.usb.outBusy = true ∨ ¬ r.usb.endpointsEnabled = true ∨ ¬ r.usb.epOutOpen = true
  · rw [if_pos hidle]
    refine ⟨.refl r, fun hs _ he ↦ ?_⟩
    rcases hidle with hb | he' | ho
    · exact hb
    · exact absurd he he'
    · exact absurd (hs.epOutOpen he) ho
  rw [if_neg hidle]
  obtain ⟨hfree, -⟩ := not_or.mp hidle
  have hfree' : r.usb.outBusy = false := Bool.eq_false_iff.mpr hfree
  extract_lets ok r₁
  have hout : r₁.out = r.out ++ [.usbOutputRead ok] := rfl
  by_cases hok : ok = true
  · rw [if_pos hok]
    have hreads : readsSubmitted (r.out ++ [.usbOutputRead ok]) = readsSubmitted r.out + 1 := by
      rw [readsSubmitted_append, hok]
      rfl
    refine ⟨⟨⟨_, rfl⟩, id, fun hs ↦ ⟨hs.files, hs.up, hs.enabled⟩, ?_, fun _ ↦ rfl,
      fun _ _ _ _ ↦ rfl⟩, fun _ _ _ ↦ rfl⟩
    change readsSubmitted (r.out ++ [.usbOutputRead ok]) + r.usb.outBusy.toNat = _ + 1
    rw [hreads, hfree']
    rfl
  · rw [if_neg hok]
    have hrefused : ok = false := Bool.eq_false_iff.mpr hok
    have hmem : Output.usbOutputRead false ∈ r₁.out := by
      rw [hout, hrefused]
      exact List.mem_append_right _ List.mem_cons_self
    refine ⟨.of_eq ⟨_, rfl⟩ ?_ rfl, fun _ h ↦ absurd hmem h⟩
    rw [hout, readsSubmitted_append, hrefused]
    rfl

theorem keepsReading_onEndpointsEnabled (r : Relay) (hserving : r.usb.serving = true) :
    r.KeepsReading r.onEndpointsEnabled := by
  unfold onEndpointsEnabled
  by_cases he : r.usb.endpointsEnabled = true
  · rw [if_pos he]
    exact .refl r
  rw [if_neg he]
  generalize hup : r.onUsb (fun u ↦ { u with endpointsEnabled := true }) = r₁
  have hserves : r.Serves → r₁.Serves := fun hs ↦ by
    rw [← hup]
    exact ⟨hs.files, hs.up, fun _ ↦ hserving⟩
  have hbusy : r₁.usb.outBusy = r.usb.outBusy := by rw [← hup]; rfl
  have hout : r₁.out = r.out := by rw [← hup]; rfl
  obtain ⟨hkeeps, hreading⟩ := submitOutputRead_spec r₁
  refine ⟨hout ▸ hkeeps.out, fun hs ↦ hkeeps.serving ?_, fun hs ↦ hkeeps.serves (hserves hs), ?_,
    fun hb ↦ ?_, fun hs hok _ ↦ ?_⟩
  · rw [← hup]
    exact hs
  · rw [← hbusy, ← hout]
    exact hkeeps.count
  · exact hkeeps.busy (hbusy.trans hb)
  · exact hreading (hserves hs) hok

/-- The endpoint going down leaves its read alone. -/
theorem keepsReading_of_down (hout : r.out <+: r'.out)
    (hcount : readsSubmitted r'.out = readsSubmitted r.out)
    (husb : r'.usb.endpoints = { r.usb with endpointsEnabled := false }.endpoints) :
    r.KeepsReading r' := by
  simp only [UsbHandler.endpoints, Prod.mk.injEq] at husb
  obtain ⟨hep0, hout', hserving, henabled, hbusy⟩ := husb
  refine ⟨hout, fun hs ↦ hserving.trans hs, fun hs ↦ ?_, by rw [hcount, hbusy],
    fun hb ↦ hbusy.trans hb, fun _ _ _ he ↦ ?_⟩
  · refine ⟨by rw [hout', hep0, hs.files], by rw [hserving, hep0]; exact hs.up, fun he ↦ ?_⟩
    rw [henabled] at he
    cases he
  · rw [henabled] at he
    cases he

theorem keepsReading_disableGadget (r : Relay) : r.KeepsReading r.disableGadget :=
  keepsReading_of_down ⟨_, rfl⟩ (by
    change readsSubmitted (r.out ++ [.gadgetDetached]) = _
    rw [readsSubmitted_append]
    rfl) rfl

theorem keepsReading_enableUsbGadget (r : Relay) (s : ConnectionSide) :
    r.KeepsReading (r.enableUsbGadget s) := by
  unfold enableUsbGadget enableGadget
  by_cases hstarted : (r.h s).streams.usbStarted = true
  · rw [if_pos hstarted]
    exact .refl r
  rw [if_neg hstarted]
  by_cases hopen : (r.onStreams s fun st ↦ { st with usbStarted := true }).usb.ep0Open = true
  · rw [if_pos hopen]
    dsimp only
    split
    · exact ⟨List.prefix_rfl, fun _ ↦ rfl, fun hs ↦ ⟨hs.files, fun _ ↦ hopen, fun _ ↦ rfl⟩, rfl, id,
        fun _ _ ↦ id⟩
    · exact .of_eq List.prefix_rfl rfl rfl
  · rw [if_neg hopen]
    exact .of_eq List.prefix_rfl rfl rfl

/-! ## Any step -/

theorem keepsReading_handleUsbEvent (r : Relay) (e : UsbEvent) (hserving : r.usb.serving = true) :
    r.KeepsReading (r.handleUsbEvent e) := by
  have hm := usb_move r e
  revert hm
  generalize r.handleUsbEvent e = r'
  intro hm
  cases hm with
  | pairingSet =>
    exact keepsReading_of_within (within_takePairingSet r _ (Set.mem_singleton _) _) (by simp)
  | endpointsUp => exact keepsReading_onEndpointsEnabled r hserving
  | endpointsDown => exact keepsReading_of_down List.prefix_rfl rfl rfl
  | within h => exact keepsReading_of_within h (by simp)

theorem keepsReading_readEp0 (r : Relay) (events : List UsbEvent) :
    r.KeepsReading (r.readEp0 events) := by
  unfold readEp0
  split
  · rename_i hread
    let Kept (a : Relay) : Prop := r.KeepsReading a ∧ a.usb.serving = true
    have hkept : ∀ a e, Kept a → Kept (a.handleUsbEvent e) := by
      rintro a e ⟨hkeeps, hserving⟩
      have he := keepsReading_handleUsbEvent a e hserving
      exact ⟨hkeeps.trans he, he.serving hserving⟩
    have hrun : Kept (run handleUsbEvent r events) :=
      run_invariant events ⟨.refl r, hread.1⟩ hkept
    exact hrun.1
  · exact .refl r

/-- Every step but a completion keeps the read that is in flight. -/
theorem keepsReading_step (r : Relay) {i : Input} (hi : ∀ result, i ≠ .outputDone result) :
    r.KeepsReading (r.step i) := by
  have hcause : ∀ result, r.cause i ≠ .outputDone result := fun result h ↦
    hi result (eq_of_gadgetInput? r (congrArg Cause.gadgetInput? h))
  have hm := step_move r i
  have hw := hm.within
  revert hm hw hcause
  generalize r.cause i = c
  generalize r.step i = t
  intro hcause hm hw
  cases hm with
  | ep0 => exact keepsReading_readEp0 r _
  | outputDone => exact absurd rfl (hcause _)
  | enableGadget hk =>
    have hunpark := keepsReading_of_within (A := ∅) (quiet_unpark r hk nofun).within (by simp)
    exact hunpark.trans (keepsReading_enableUsbGadget _ _)
  | handover hk =>
    rename_i s k
    have hunpark := keepsReading_of_within (A := ∅) (quiet_unpark r hk nofun).within (by simp)
    refine (hunpark.trans (keepsReading_disableGadget _)).trans ?_
    exact keepsReading_of_within (A := {.keys, .calling s.other, .scanning s.other})
      (within_connectToConsole _ s.other (by simp) (by simp) (by simp) _ _) (by simp)
  | quiet h => exact keepsReading_of_within (A := ∅) h.within (by simp)
  | acl => exact keepsReading_of_within hw (by simp [Cause.aspects, aclAspects])
  | _ => exact keepsReading_of_within hw (by simp [Cause.aspects])

/-- A completion frees the endpoint.  One that carries a report is followed by the next read, one that
does not is not. -/
theorem outputCompletion_spec (r : Relay) (hbusy : r.usb.outBusy = true)
    (result : Option (List UInt8)) :
    let r' := r.outputCompletion result
    (r.Serves → r'.Serves) ∧ readsSubmitted r'.out = readsSubmitted r.out + r'.usb.outBusy.toNat
      ∧ (r.Serves → .usbOutputRead false ∉ r'.out →
          (r'.Reading ↔ (result = none → r.usb.endpointsEnabled = false))) := by
  intro r'
  have hr' : r' = r.onOutputDone result := if_pos hbusy
  rw [hr']
  unfold onOutputDone
  generalize hfree : r.onUsb (fun u ↦ { u with outBusy := false }) = r₁
  have hout : r₁.out = r.out := by rw [← hfree]; rfl
  have hidle : r₁.usb.outBusy = false := by rw [← hfree]; rfl
  have henabled : r₁.usb.endpointsEnabled = r.usb.endpointsEnabled := by rw [← hfree]; rfl
  have hserves : r.Serves → r₁.Serves := fun hs ↦ by
    rw [← hfree]
    exact ⟨hs.files, hs.up, hs.enabled⟩
  cases result with
  | none =>
    refine ⟨hserves, by rw [hidle, hout]; rfl, fun _ _ ↦ ?_⟩
    dsimp only
    rw [Reading, henabled, hidle]
    simp
  | some data =>
    dsimp only
    generalize hsent : (if (data.take REPORT_LENGTH).isEmpty = true then r₁
      else r₁.l2capSendOutputReport .toDualsense (data.take REPORT_LENGTH)) = r₂
    have hquiet : Performs (Op.Within {.outputs}) r₁ r₂ := by
      rw [← hsent]
      exact .ite (fun _ ↦ .refl r₁) fun _ ↦ within_l2capSendOutputReport _ (by rfl) _
    have h₂ : r₁.KeepsReading r₂ := keepsReading_of_within hquiet (by simp)
    have hidle₂ : r₂.usb.outBusy = false :=
      (congrArg (fun e ↦ e.2.2.2.2) (endpoints_eq hquiet (by simp))).trans hidle
    obtain ⟨h₃, hreading⟩ := submitOutputRead_spec r₂
    refine ⟨fun hs ↦ h₃.serves (h₂.serves (hserves hs)), ?_, ?_⟩
    · have hcount₂ := h₂.count
      have hcount₃ := h₃.count
      rw [hidle, hidle₂, hout] at hcount₂
      rw [hidle₂] at hcount₃
      rw [Bool.toNat_false] at hcount₂ hcount₃
      omega
    · intro hs hok
      exact iff_of_true (hreading (h₂.serves (hserves hs)) hok) nofun

end Relay

/-! ## Runs -/

namespace EndpointState

/-- Once nothing waits to be reaped, exactly one read is in flight if the endpoint is enabled: it has
been submitted, and its completion not reaped. -/
def Reads (st : EndpointState) : Prop :=
  st.completed = none → st.relay.usb.endpointsEnabled = true →
    st.relay.usb.outBusy = true ∧ readsSubmitted st.relay.out = st.reaped + 1

/-- A read that died with the endpoint is reaped while the endpoint is down. -/
def ReapStep (st : EndpointState) : EndpointInput → Prop
  | .reap => st.completed = some .disabled → st.relay.usb.endpointsEnabled = false
  | _ => True

instance (st : EndpointState) (x : EndpointInput) : Decidable (st.ReapStep x) := by
  unfold ReapStep; split <;> infer_instance

/-- The relay and the controller agree on what is in flight. -/
structure Agrees (st : EndpointState) : Prop where
  serves : st.relay.Serves
  count : readsSubmitted st.relay.out = st.reaped + st.relay.usb.outBusy.toNat
  busy : st.completed ≠ none → st.relay.usb.outBusy = true
  killed : st.completed ≠ some .failed

theorem Agrees.reads_iff {st : EndpointState} (h : st.Agrees) : st.Reads ↔ st.relay.Reading := by
  refine ⟨fun hr he ↦ ?_, fun hr _ he ↦ ⟨hr he, ?_⟩⟩
  · by_cases hcomp : st.completed = none
    · exact (hr hcomp he).1
    · exact h.busy hcomp
  · rw [h.count, hr he]
    rfl

/-- What has left the process. -/
def out (st : EndpointState) : List Output := st.relay.out

theorem out_step (st : EndpointState) (x : EndpointInput) : st.out <+: (st.step x).out := by
  unfold EndpointState.step
  split
  · exact List.prefix_rfl
  · exact Relay.out_step _ _
  · split <;> exact List.prefix_rfl
  · split
    · exact List.prefix_rfl
    · exact Relay.out_step _ _

/-- What a step does, unless a submission or a read fails for a reason of its own. -/
theorem Agrees.step {st : EndpointState} (h : st.Agrees) {x : EndpointInput}
    (hx : x ≠ .completes .failed) :
    (st.step x).Agrees
      ∧ (.usbOutputRead false ∉ (st.step x).relay.out → st.relay.Reading →
          ((st.step x).relay.Reading ↔ st.ReapStep x)) := by
  cases x with
  | completes e =>
    unfold EndpointState.step
    dsimp only
    split
    · rename_i hbusy
      refine ⟨⟨h.serves, h.count, fun _ ↦ hbusy.1, fun he ↦ hx ?_⟩, fun _ hr ↦ ?_⟩
      · rw [Option.some.inj he]
      · exact iff_of_true hr trivial
    · exact ⟨h, fun _ hr ↦ iff_of_true hr trivial⟩
  | reap =>
    cases hcomp : st.completed with
    | none =>
      have hstep : st.step .reap = st := by simp only [EndpointState.step, hcomp]
      rw [hstep]
      refine ⟨h, fun _ hr ↦ iff_of_true hr fun he ↦ ?_⟩
      rw [hcomp] at he
      cases he
    | some e =>
      have hbusy : st.relay.usb.outBusy = true := h.busy (by rw [hcomp]; nofun)
      obtain ⟨hserves, hcount, hreading⟩ := outputCompletion_spec st.relay hbusy e.result
      have hstep : st.step .reap
          = ⟨st.relay.outputCompletion e.result, none, st.reaped + 1⟩ := by
        simp only [EndpointState.step, hcomp]
        rfl
      rw [hstep]
      refine ⟨⟨hserves h.serves, ?_, fun hn ↦ absurd rfl hn, nofun⟩, fun hok _ ↦ ?_⟩
      · dsimp only
        rw [hcount, h.count, hbusy]
        rfl
      · rw [hreading h.serves hok]
        unfold ReapStep
        rw [hcomp]
        cases e with
        | data bytes => exact iff_of_true nofun nofun
        | disabled => exact ⟨fun hr _ ↦ hr rfl, fun hr _ ↦ hr rfl⟩
        | failed => exact absurd hcomp h.killed
  | input i =>
    by_cases hi : ∃ result, i = .outputDone result
    · obtain ⟨result, rfl⟩ := hi
      exact ⟨h, fun _ hr ↦ iff_of_true hr trivial⟩
    · have hkeeps := keepsReading_step st.relay fun result he ↦ hi ⟨result, he⟩
      have hstep : st.step (.input i) = { st with relay := st.relay.step i } := by
        cases i with
        | outputDone result => exact absurd ⟨result, rfl⟩ hi
        | _ => rfl
      rw [hstep]
      refine ⟨⟨hkeeps.serves h.serves, ?_, fun hn ↦ hkeeps.busy (h.busy hn), h.killed⟩,
        fun hok hr ↦ iff_of_true (hkeeps.reading h.serves hok hr) trivial⟩
      have hcount := hkeeps.count
      have := h.count
      dsimp only
      omega

end EndpointState

/-- **The OUT endpoint is always read.**  In a run in which every submission is accepted and reads
end with a report or with their endpoint, one read is in flight wherever the endpoint is enabled and
nothing waits to be reaped, exactly when no read that died with the endpoint is reaped while the
endpoint is enabled. -/
theorem output_always_read (c : Config) (xs : List EndpointInput)
    (hreads : .completes .failed ∉ xs)
    (hsubmits : .usbOutputRead false ∉
      (run EndpointState.step { relay := .init c } xs).relay.out) :
    Along EndpointState.step (fun st x ↦ (st.step x).Reads) { relay := .init c } xs
      ↔ Along EndpointState.step EndpointState.ReapStep { relay := .init c } xs := by
  have hinit : EndpointState.Agrees { relay := .init c } :=
    ⟨⟨rfl, nofun, nofun⟩, rfl, fun h ↦ absurd rfl h, nofun⟩
  let fine (st : EndpointState) (x : EndpointInput) : Prop :=
    x ≠ .completes .failed ∧ .usbOutputRead false ∉ (st.step x).relay.out
  have hfine : Along EndpointState.step fine { relay := .init c } xs := by
    refine along_iff_prefixes.mpr ?_
    rintro pre x ⟨post, rfl⟩
    refine ⟨fun hx ↦ hreads (by rw [hx]; simp), fun hm ↦ hsubmits ?_⟩
    have hgrows := prefix_run (f := EndpointState.out) EndpointState.out_step
      ((run EndpointState.step { relay := .init c } pre).step x) post
    rw [run_append, run_concat]
    exact hgrows.subset hm
  have hinv : ∀ st x, st.Agrees → fine st x → (st.step x).Agrees := fun st x h hx ↦ (h.step hx.1).1
  refine along_kept_iff hinit nofun hinv ?_ hfine
  intro st x h hx hr
  rw [(h.step hx.1).1.reads_iff]
  exact (h.step hx.1).2 hx.2 (h.reads_iff.mp hr)

/-- A report is read and the next read submitted. -/
theorem output_always_read_report :
    Along EndpointState.step (fun st x ↦ (st.step x).Reads)
      { relay := .init { dsAddr := ⟨1, 2, 3, 4, 5, 6⟩ } }
      ((Input.gadgetUp ⟨1, 2, 3, 4, 5, 6⟩).map .input ++ [.completes (.data [2, 0, 0]), .reap]) :=
  (output_always_read _ _ (by simp [Input.gadgetUp]) (by decide +kernel)).mpr
    (by decide +kernel)

/-- The host resets the device: the endpoint goes down under its read and comes up again, and the relay
learns of both before it reaps the read. -/
def afterBusReset : EndpointState :=
  run EndpointState.step { relay := .init { dsAddr := ⟨1, 2, 3, 4, 5, 6⟩ } }
    ((Input.gadgetUp ⟨1, 2, 3, 4, 5, 6⟩).map .input ++ [.completes .disabled, .input (.ep0 [.disable, .enable]), .reap])

/-- Every submission was accepted, nothing waits to be reaped, the endpoint is enabled, and no read is
in flight. -/
theorem output_always_read_bus_reset :
    .usbOutputRead false ∉ afterBusReset.relay.out ∧ ¬ afterBusReset.Reads := by
  have hcompleted : afterBusReset.completed = none := by decide +kernel
  have henabled : afterBusReset.relay.usb.endpointsEnabled = true := by decide +kernel
  have hidle : afterBusReset.relay.usb.outBusy = false := by decide +kernel
  refine ⟨by decide +kernel, fun h ↦ ?_⟩
  rw [(h hcompleted henabled).1] at hidle
  cases hidle

end DualSenseMitm
