import DualSenseMitm.Runs.FeatureWrites

/-!
# What the cable carries of the pad's input

Over the cable the console gets the pad's reports in the framing of USB.  Two things are changed in them:
the charging nibble, and for a while the PS button, until the console has told the pad to leave the cable.

* `UsbHistory` — when the host first took a report, and whether the pair command was seen.
* `Reframes` — what may differ between a report of the pad and the one that is handed on.
* `usb_input_reframed` — nothing else does, in any state of a run.
-/

set_option autoImplicit false

namespace DualSenseMitm

open Bytes Machine Relay

/-! ## What happened -/

/-- The console tells the pad to come over to it. -/
def UsbEvent.isPairCommand : UsbEvent → Bool
  | .setup req =>
    decide (classify req.requestType req.request req.value = .setReport
      ∧ (req.value >>> (8 : UInt16)).toUInt8 ≠ REPORT_TYPE_OUTPUT ∧ byteAt req.dataStage 0 = REPORT_TRANSPORT
      ∧ ¬ (1 < req.dataStage.length ∧ byteAt req.dataStage 1 = TRANSPORT_UNPAIR))
  | _ => false

/-- The events of the gadget an input brings. -/
def Relay.usbEvents (r : Relay) : Input → List UsbEvent
  | .ep0 events => if r.usb.serving ∧ r.usb.pendingGet = none then events else []
  | _ => []

/-- When the host took its first report, and whether a pair command was seen. -/
structure UsbHistory where
  taken : Option Time := none
  paired : Bool := false

namespace UsbHistory

/-- A report is taken, or ep0 is read. -/
def note (x : UsbHistory) (r : Relay) (i : Input) : UsbHistory where
  taken :=
    match i with
    | .inputDone result => if r.usb.inBusy ∧ 0 ≤ result then some (x.taken.getD r.now) else x.taken
    | _ => x.taken
  paired := x.paired || (r.usbEvents i).any UsbEvent.isPairCommand

/-- No pair command was seen, and it is the time of the `k`-th press behind the first report taken. -/
def Presses (x : UsbHistory) (now : Time) (k : ℕ) : Prop :=
  x.paired = false ∧ ∃ start ∈ x.taken,
    1000 + 1500 * (k : Int) ≤ millisecondsBetween start now ∧ millisecondsBetween start now < 1200 + 1500 * (k : Int)

instance (x : UsbHistory) (now : Time) (k : ℕ) : Decidable (x.Presses now k) :=
  inferInstanceAs (Decidable (_ ∧ ∃ start ∈ x.taken, _))

end UsbHistory

/-! ## The reports -/

/-- A report of the pad with its whole body. -/
def FullPayload (payload : List UInt8) : Prop :=
  66 ≤ payload.length ∧ byteAt payload 0 = 0xa1 ∧ byteAt payload 1 = 0x31

instance (payload : List UInt8) : Decidable (FullPayload payload) := inferInstanceAs (Decidable (_ ∧ _))

/-- A report of the pad in the framing of USB, and with PS pressed or not. -/
structure Reframes (pressed : Prop) (payload usb : List UInt8) : Prop where
  length : usb.length = 64
  id : byteAt usb 0 = 0x01
  body : ∀ i < 63, i ≠ STATUS_OFF → i ≠ BUTTON_PS_OFF → byteAt usb (1 + i) = byteAt payload (3 + i)
  capacity : byteAt usb (1 + STATUS_OFF) &&& 0x0f = byteAt payload (3 + STATUS_OFF) &&& 0x0f
  charging : byteAt usb (1 + STATUS_OFF) >>> 4
    = if 10 ≤ byteAt payload (3 + STATUS_OFF) &&& 0x0f then STATUS_CHARGING_FULL else STATUS_CHARGING_CHARGING
  ps : pressed → byteAt usb (1 + BUTTON_PS_OFF) = byteAt payload (3 + BUTTON_PS_OFF) ||| BUTTON_PS
  noPs : ¬ pressed → byteAt usb (1 + BUTTON_PS_OFF) = byteAt payload (3 + BUTTON_PS_OFF)

/-- What is handed on of a payload: a full one in the framing of USB, with the number of its press, and
nothing of any other. -/
structure HandsOn (q : Relay × UsbHistory) (payload : List UInt8) : Prop where
  full : q.1.usb.bound = true → FullPayload payload → ∃ (r' : Relay) (usb : List UInt8),
    q.1.relayPadInputToUsb .toDualsense payload = r'.sendInput usb ∧ r'.usb = q.1.usb
      ∧ Reframes (∃ k, q.2.Presses q.1.now k) payload usb
      ∧ ∀ k, q.2.Presses q.1.now k → k + 1 < 2 ^ 31 → (r'.h .toDualsense).streams.autoPsAttempt = k + 1
  other : ¬ (q.1.usb.bound = true ∧ FullPayload payload) → q.1.relayPadInputToUsb .toDualsense payload = q.1

/-! ## One report -/

theorem byteAt_slice {b : List UInt8} {off n i : ℕ} (h : i < n) : byteAt (slice b off n) i = byteAt b (off + i) := by
  rw [byteAt, slice, List.getD_eq_getElem?_getD, List.getElem?_map, List.getElem?_range h]
  rfl

theorem byteAt_set_of_ne {b : List UInt8} {i j : ℕ} (h : i ≠ j) (x : UInt8) : byteAt (b.set i x) j = byteAt b j := by
  rw [byteAt, byteAt, List.getD_eq_getElem?_getD, List.getD_eq_getElem?_getD, List.getElem?_set_ne h]

theorem byteAt_set_self {b : List UInt8} {i : ℕ} (h : i < b.length) (x : UInt8) : byteAt (b.set i x) i = x := by
  rw [byteAt, List.getD_eq_getElem?_getD, List.getElem?_set_self h]
  rfl

/-- The status byte has the charging nibble it is given, and its own capacity. -/
theorem status_nibbles (status charging : UInt8)
    (h : charging = STATUS_CHARGING_FULL ∨ charging = STATUS_CHARGING_CHARGING) :
    ((charging <<< (4 : UInt8)) ||| (status &&& 0x0f)) &&& 0x0f = status &&& 0x0f
      ∧ ((charging <<< (4 : UInt8)) ||| (status &&& 0x0f)) >>> (4 : UInt8) = charging := by
  have hall : ∀ n : Fin 256, ∀ charging ∈ [STATUS_CHARGING_FULL, STATUS_CHARGING_CHARGING],
      ((charging <<< (4 : UInt8)) ||| (UInt8.ofFin n &&& 0x0f)) &&& 0x0f = UInt8.ofFin n &&& 0x0f
        ∧ ((charging <<< (4 : UInt8)) ||| (UInt8.ofFin n &&& 0x0f)) >>> (4 : UInt8) = charging := by
    decide +kernel
  exact hall status.toFin charging (by simpa using h)

/-- What the report in the framing of USB has at each place. -/
theorem byteAt_makeUsbReport {payload : List UInt8} {i : ℕ} (hi : i < 63) (hstatus : i ≠ STATUS_OFF) :
    byteAt (makeUsbReport payload) (1 + i) = byteAt payload (3 + i) := by
  rw [Nat.add_comm 1 i, makeUsbReport, byteAt_cons_succ, byteAt_set_of_ne hstatus.symm]
  exact byteAt_slice hi

/-- A report in the framing of USB, with nothing pressed. -/
theorem reframes_makeUsbReport {pressed : Prop} (h : ¬ pressed) (payload : List UInt8) :
    Reframes pressed payload (makeUsbReport payload) := by
  have hslice : byteAt (slice payload BT_BODY_OFF INPUT_BODY_LEN) STATUS_OFF = byteAt payload (3 + STATUS_OFF) :=
    byteAt_slice (by decide)
  have hstatus : byteAt (makeUsbReport payload) (1 + STATUS_OFF)
      = ((if 10 ≤ byteAt payload (3 + STATUS_OFF) &&& 0x0f then STATUS_CHARGING_FULL
          else STATUS_CHARGING_CHARGING) <<< (4 : UInt8)) ||| (byteAt payload (3 + STATUS_OFF) &&& 0x0f) := by
    rw [Nat.add_comm 1 STATUS_OFF, makeUsbReport, byteAt_cons_succ, byteAt_set_self (by rw [length_slice]; decide),
      hslice]
  obtain ⟨hcapacity, hcharging⟩ := status_nibbles (byteAt payload (3 + STATUS_OFF))
    (if 10 ≤ byteAt payload (3 + STATUS_OFF) &&& 0x0f then STATUS_CHARGING_FULL else STATUS_CHARGING_CHARGING)
    (by split <;> simp)
  rw [← hstatus] at hcapacity hcharging
  exact ⟨length_makeUsbReport payload, rfl, fun i hi hne _ ↦ byteAt_makeUsbReport hi hne, hcapacity, hcharging,
    fun hp ↦ absurd hp h, fun _ ↦ byteAt_makeUsbReport (by decide) (by decide)⟩

/-- And with PS pressed. -/
theorem reframes_setPsOnUsbReport {pressed : Prop} (h : pressed) (payload : List UInt8) :
    Reframes pressed payload (setPsOnUsbReport (makeUsbReport payload)) := by
  have hbase : Reframes False payload (makeUsbReport payload) := reframes_makeUsbReport id payload
  have hset : setPsOnUsbReport (makeUsbReport payload)
      = (makeUsbReport payload).set (1 + BUTTON_PS_OFF)
          (byteAt (makeUsbReport payload) (1 + BUTTON_PS_OFF) ||| BUTTON_PS) :=
    if_pos (length_makeUsbReport payload)
  have hother : ∀ i, i ≠ 1 + BUTTON_PS_OFF →
      byteAt (setPsOnUsbReport (makeUsbReport payload)) i = byteAt (makeUsbReport payload) i := fun i hi ↦ by
    rw [hset, byteAt_set_of_ne hi.symm]
  have hps : byteAt (setPsOnUsbReport (makeUsbReport payload)) (1 + BUTTON_PS_OFF)
      = byteAt payload (3 + BUTTON_PS_OFF) ||| BUTTON_PS := by
    rw [hset, byteAt_set_self (by rw [length_makeUsbReport]; decide), hbase.noPs id]
  have hstatus := hother (1 + STATUS_OFF) (by decide)
  refine ⟨?_, ?_, fun i hi hne hnps ↦ ?_, ?_, ?_, fun _ ↦ hps, fun hn ↦ absurd h hn⟩
  · rw [hset, List.length_set]
    exact hbase.length
  · rw [hother 0 (by decide)]
    exact hbase.id
  · rw [hother (1 + i) (by omega)]
    exact hbase.body i hi hne hnps
  · rw [hstatus]
    exact hbase.capacity
  · rw [hstatus]
    exact hbase.charging

/-- The times of the presses, in the arithmetic of the code. -/
theorem press_iff {since : Int} {k : ℕ} :
    1000 + 1500 * (k : Int) ≤ since ∧ since < 1200 + 1500 * (k : Int)
      ↔ (AUTO_PS_DELAY_MS ≤ since ∧ (since - AUTO_PS_DELAY_MS).tmod AUTO_PS_PERIOD_MS < AUTO_PS_WIDTH_MS)
        ∧ (since - AUTO_PS_DELAY_MS).tdiv AUTO_PS_PERIOD_MS = k := by
  show _ ↔ (1000 ≤ since ∧ (since - 1000).tmod 1500 < 200) ∧ (since - 1000).tdiv 1500 = k
  constructor
  · rintro ⟨hfrom, hto⟩
    have hnonneg : 0 ≤ since - 1000 := by omega
    rw [Int.tmod_eq_emod_of_nonneg hnonneg, Int.tdiv_eq_ediv_of_nonneg hnonneg]
    omega
  · rintro ⟨⟨hdelay, hwidth⟩, hk⟩
    have hnonneg : 0 ≤ since - 1000 := by omega
    rw [Int.tmod_eq_emod_of_nonneg hnonneg] at hwidth
    rw [Int.tdiv_eq_ediv_of_nonneg hnonneg] at hk
    omega

namespace Relay

variable {r : Relay} {x : UsbHistory}

/-- The history is what the code goes by. -/
structure Remembers (r : Relay) (x : UsbHistory) : Prop where
  taken : r.usb.inputFlowingSince = x.taken.getD noTime
  afterEpoch : x.taken ≠ some noTime
  paired : (r.h .toDualsense).streams.pairCommandSeen = x.paired

/-- A press is one of an input that flows and that the console has not answered. -/
theorem Remembers.presses_iff (h : r.Remembers x) {now : Time} {k : ℕ} :
    x.Presses now k
      ↔ (r.usb.inputFlowingSince ≠ noTime ∧ ¬ (r.h .toDualsense).streams.pairCommandSeen = true)
        ∧ 1000 + 1500 * (k : Int) ≤ millisecondsBetween r.usb.inputFlowingSince now
        ∧ millisecondsBetween r.usb.inputFlowingSince now < 1200 + 1500 * (k : Int) := by
  rw [UsbHistory.Presses, h.paired, h.taken, Bool.not_eq_true]
  cases htaken : x.taken with
  | none => simp
  | some start =>
    have hstart : start ≠ noTime := fun hn ↦ h.afterEpoch (by rw [htaken, hn])
    simp [hstart]

/-- What is handed on of a payload is told by the history. -/
theorem Remembers.handsOn (h : r.Remembers x) (payload : List UInt8) : HandsOn (r, x) payload := by
  refine ⟨fun hbound hfull ↦ ?_, fun hnot ↦ if_neg hnot⟩
  have hcond : r.usb.bound ∧ 1 + INPUT_BODY_OFF_BT + INPUT_BODY_LEN ≤ payload.length
      ∧ byteAt payload 0 = HIDP_DATA_INPUT ∧ byteAt payload 1 = REPORT_BT := ⟨hbound, hfull⟩
  have hsilent : (∀ k, ¬ x.Presses r.now k) → ∀ r' : Relay, r'.usb = r.usb →
      r.relayPadInputToUsb .toDualsense payload = r'.sendInput (makeUsbReport payload) →
      ∃ (r' : Relay) (usb : List UInt8), r.relayPadInputToUsb .toDualsense payload = r'.sendInput usb
        ∧ r'.usb = r.usb ∧ Reframes (∃ k, x.Presses r.now k) payload usb
        ∧ ∀ k, x.Presses r.now k → k + 1 < 2 ^ 31 → (r'.h .toDualsense).streams.autoPsAttempt = k + 1 :=
    fun hno r' husb heq ↦ ⟨r', _, heq, husb, reframes_makeUsbReport (not_exists.mpr hno) payload,
      fun k hk ↦ absurd hk (hno k)⟩
  unfold relayPadInputToUsb at hsilent ⊢
  rw [if_pos hcond] at hsilent ⊢
  by_cases hlive : r.usb.inputFlowingSince ≠ noTime ∧ ¬ (r.h .toDualsense).streams.pairCommandSeen = true
  · rw [if_pos hlive] at hsilent ⊢
    extract_lets since r₁ attempt at hsilent ⊢
    by_cases hwindow : AUTO_PS_DELAY_MS ≤ since
        ∧ (since - AUTO_PS_DELAY_MS).tmod AUTO_PS_PERIOD_MS < AUTO_PS_WIDTH_MS
    · rw [if_pos hwindow]
      -- the press the code counts is the one the clock is in
      obtain ⟨k, hk⟩ : ∃ k : ℕ, (since - AUTO_PS_DELAY_MS).tdiv AUTO_PS_PERIOD_MS = k :=
        Int.eq_ofNat_of_zero_le (Int.tdiv_nonneg (Int.sub_nonneg_of_le hwindow.1) (by decide))
      have hpress : x.Presses r.now k := h.presses_iff.mpr ⟨hlive, press_iff.mpr ⟨hwindow, hk⟩⟩
      refine ⟨_, _, rfl, rfl, reframes_setPsOnUsbReport ⟨k, hpress⟩ payload, fun k' hk' hlt ↦ ?_⟩
      have hsame : (since - AUTO_PS_DELAY_MS).tdiv AUTO_PS_PERIOD_MS = k' :=
        (press_iff.mp (h.presses_iff.mp hk').2).2
      have hattempt : attempt = 1 + ((k' : Int)).bmod (2 ^ 32) := by rw [← hsame]
      have hbmod : ((k' : Int)).bmod (2 ^ 32) = k' := Int.bmod_eq_of_le (by omega) (by omega)
      simp only [h_onStreams, if_true]
      rw [hattempt, hbmod, Int.add_comm]
    · rw [if_neg hwindow] at hsilent ⊢
      exact hsilent (fun k hk ↦ hwindow (press_iff.mp (h.presses_iff.mp hk).2).1) r₁ rfl rfl
  · rw [if_neg hlive] at hsilent ⊢
    exact hsilent (fun k hk ↦ hlive (h.presses_iff.mp hk).1) r rfl rfl

/-! ## One step -/

/-- Only the completion of a report says since when the host takes input. -/
theorem inputFlowingSince_step {i : Input} (hi : ∀ result, i ≠ .inputDone result) :
    (r.step i).usb.inputFlowingSince = r.usb.inputFlowingSince := by
  refine inputFlowingSince_eq (step_move r i).within fun hA ↦ ?_
  have hg := fun j ↦ r.eq_of_gadgetInput? (i := i) (j := j)
  revert hA hg
  generalize r.cause i = cause
  intro hA hg
  cases cause with
  | inputDone result => exact hi result (hg _ rfl)
  | event s e => cases e <;> simp [Cause.aspects] at hA
  | acl => simp [Cause.aspects, aclAspects] at hA
  | _ => simp [Cause.aspects] at hA

/-- Only what is read from ep0 brings a pair command. -/
theorem pairCommandSeen_step {i : Input} (hi : ∀ events, i ≠ .ep0 events) :
    ((r.step i).h .toDualsense).streams.pairCommandSeen = (r.h .toDualsense).streams.pairCommandSeen := by
  refine pairCommandSeen_eq (step_move r i).within .toDualsense fun hA ↦ ?_
  have hg := fun j ↦ r.eq_of_gadgetInput? (i := i) (j := j)
  revert hA hg
  generalize r.cause i = cause
  intro hA hg
  cases cause with
  | ep0 events => exact hi events (hg _ rfl)
  | event s e => cases e <;> simp [Cause.aspects] at hA
  | acl => simp [Cause.aspects, aclAspects] at hA
  | _ => simp [Cause.aspects] at hA

theorem inputFlowingSince_inputCompletion (result : Int) :
    (r.inputCompletion result).usb.inputFlowingSince
      = if r.usb.inBusy ∧ 0 ≤ result ∧ r.usb.inputFlowingSince = noTime then r.now
        else r.usb.inputFlowingSince := by
  unfold inputCompletion
  by_cases hbusy : r.usb.inBusy = true
  · rw [if_pos hbusy]
    unfold onInputDone
    extract_lets r₁
    have h₁ : r₁.usb.inputFlowingSince = r.usb.inputFlowingSince := rfl
    by_cases hfirst : 0 ≤ result ∧ r.usb.inputFlowingSince = noTime
    · rw [h₁, if_pos hfirst, if_pos ⟨hbusy, hfirst⟩]
      rfl
    · rw [h₁, if_neg hfirst, if_neg fun h ↦ hfirst h.2, h₁]
  · rw [if_neg hbusy, if_neg fun h ↦ hbusy h.1]

/-- A 0x08 that is forwarded is a pair command. -/
theorem isPairCommand_iff {req : UsbSetup} (hreq : classify req.requestType req.request req.value = .setReport)
    (hfeature : (req.value >>> (8 : UInt16)).toUInt8 ≠ REPORT_TYPE_OUTPUT) :
    (Forwarded req.dataStage ∧ byteAt req.dataStage 0 = REPORT_TRANSPORT)
      ↔ UsbEvent.isPairCommand (.setup req) = true := by
  rw [UsbEvent.isPairCommand, decide_eq_true_eq]
  constructor
  · rintro ⟨hforwarded, hid⟩
    exact ⟨hreq, hfeature, hid, fun h ↦ hforwarded.2.2.1 ⟨hid, h⟩⟩
  · rintro ⟨-, -, hid, hpair⟩
    refine ⟨⟨fun hnil ↦ ?_, ?_, fun h ↦ hpair h.2, .inr ?_⟩, hid⟩
    · rw [hnil] at hid
      exact absurd hid (by decide)
    · rw [hid]
      decide
    · rw [hid]
      decide

/-- One event of the gadget. -/
theorem pairCommandSeen_handleUsbEvent (r : Relay) (e : UsbEvent) :
    ((r.handleUsbEvent e).h .toDualsense).streams.pairCommandSeen
      = ((r.h .toDualsense).streams.pairCommandSeen || e.isPairCommand) := by
  have hkept : ∀ {r' : Relay} {A : Set Aspect}, Performs (Op.Within A) r r' → .handover ∉ A →
      e.isPairCommand = false → (r'.h .toDualsense).streams.pairCommandSeen
        = ((r.h .toDualsense).streams.pairCommandSeen || e.isPairCommand) := fun hw hA hno ↦ by
    rw [pairCommandSeen_eq hw .toDualsense hA, hno, Bool.or_false]
  have hdown : Performs (Op.Within {.endpoints}) r r.onEndpointsDisabled := within_onEndpointsDisabled r (by simp)
  cases e with
  | unbind => exact hkept hdown (by simp) rfl
  | disable => exact hkept hdown (by simp) rfl
  | enable => exact hkept (A := {.endpoints}) (within_onEndpointsEnabled r (by simp)) (by simp) rfl
  | setup req =>
    have hreply : ∀ data, Performs (Op.Within {.reports}) r (r.ep0Reply data) := fun data ↦
      within_ep0Reply r (by simp) data
    have hstall : Performs (Op.Within {.reports}) r (r.ep0Stall req.requestType) := within_emit r (by rfl)
    have hno : classify req.requestType req.request req.value ≠ .setReport →
        UsbEvent.isPairCommand (.setup req) = false := fun hne ↦ decide_eq_false fun h ↦ hne h.1
    rw [handleUsbEvent, handleSetup]
    cases hreq : classify req.requestType req.request req.value with
    | setReport =>
      dsimp only
      by_cases hout : (req.value >>> (8 : UInt16)).toUInt8 = REPORT_TYPE_OUTPUT
      · refine hkept (A := {.reports, .outputs}) ?_ (by simp) (decide_eq_false fun h ↦ h.2.1 hout)
        unfold takeSetReport
        split
        · exact within_ep0StageFailed r (by simp) _ _
        · dsimp only
          rw [if_pos hout]
          exact .ite (fun _ ↦ .refl r) fun _ ↦ within_l2capSendOutputReport r (by simp) _
      · have hpair := isPairCommand_iff hreq hout
        rw [r.pairCommandSeen_takeSetReport hout]
        congr 1
        exact Bool.eq_iff_iff.mpr (decide_eq_true_iff.trans hpair)
    | getReport =>
      exact hkept (A := {.reports}) (within_beginGetReport r (by simp) _ _) (by simp) (hno (by simp [hreq]))
    | setIdle =>
      exact hkept (A := {.reports})
        (.trans (quiet_onUsb r fun _ ↦ ⟨by rfl, by rfl, by rfl⟩).within (within_ep0Ack _ (by simp))) (by simp)
        (hno (by simp [hreq]))
    | getReportDescriptor => exact hkept (hreply _) (by simp) (hno (by simp [hreq]))
    | getHidDescriptor => exact hkept (hreply _) (by simp) (hno (by simp [hreq]))
    | getIdle => exact hkept (hreply _) (by simp) (hno (by simp [hreq]))
    | getProtocol => exact hkept (hreply _) (by simp) (hno (by simp [hreq]))
    | setProtocol => exact hkept hstall (by simp) (hno (by simp [hreq]))
    | unsupported => exact hkept hstall (by simp) (hno (by simp [hreq]))

theorem pairCommandSeen_readEp0 (r : Relay) (events : List UsbEvent) :
    ((r.readEp0 events).h .toDualsense).streams.pairCommandSeen
      = ((r.h .toDualsense).streams.pairCommandSeen
          || (r.usbEvents (.ep0 events)).any UsbEvent.isPairCommand) := by
  have hfold : ∀ a : Relay, ((events.foldl handleUsbEvent a).h .toDualsense).streams.pairCommandSeen
      = ((a.h .toDualsense).streams.pairCommandSeen || events.any UsbEvent.isPairCommand) := by
    intro a
    induction events generalizing a with
    | nil => simp
    | cons e events ih => rw [List.foldl_cons, ih, a.pairCommandSeen_handleUsbEvent, List.any_cons, Bool.or_assoc]
  rw [readEp0, usbEvents]
  split
  · exact hfold r
  · simp

/-- The history goes on with each step, once the clock has left its epoch. -/
theorem Remembers.step (hclock : ∀ n, r.env.clock n ≠ noTime) (h : r.Remembers x) (i : Input) :
    (r.step i).Remembers (x.note r i) := by
  have hnow : r.now ≠ noTime := hclock r.tick
  have hpaired : (∀ events, i ≠ .ep0 events) →
      ((r.step i).h .toDualsense).streams.pairCommandSeen = (x.note r i).paired := by
    intro hi
    have hnone : r.usbEvents i = [] := by
      cases i with
      | ep0 events => exact absurd rfl (hi events)
      | _ => rfl
    show _ = (x.paired || (r.usbEvents i).any UsbEvent.isPairCommand)
    rw [pairCommandSeen_step hi, h.paired, hnone, List.any_nil, Bool.or_false]
  have htaken : (∀ result, i ≠ .inputDone result) → (x.note r i).taken = x.taken := by
    intro hi
    cases i with
    | inputDone result => exact absurd rfl (hi result)
    | _ => rfl
  cases i with
  | inputDone result =>
    refine ⟨?_, ?_, hpaired fun _ hn ↦ by cases hn⟩
    · show (r.inputCompletion result).usb.inputFlowingSince = Option.getD (ite _ _ _) noTime
      rw [inputFlowingSince_inputCompletion]
      by_cases hdone : r.usb.inBusy = true ∧ 0 ≤ result
      · rw [if_pos hdone, h.taken, Option.getD_some]
        cases htaken : x.taken with
        | none => exact if_pos ⟨hdone.1, hdone.2, rfl⟩
        | some start => exact if_neg fun hn ↦ h.afterEpoch (htaken.trans (congrArg some hn.2.2))
      · rw [if_neg hdone, if_neg fun hn ↦ hdone ⟨hn.1, hn.2.1⟩]
        exact h.taken
    · show ite _ _ _ ≠ some noTime
      split
      · cases htaken : x.taken with
        | none => exact fun hn ↦ hnow (Option.some.inj hn)
        | some start => exact fun hn ↦ h.afterEpoch (htaken.trans hn)
      · exact h.afterEpoch
  | ep0 events =>
    have hno : ∀ result, (.ep0 events : Input) ≠ .inputDone result := fun _ hn ↦ by cases hn
    refine ⟨(inputFlowingSince_step hno).trans h.taken, h.afterEpoch, ?_⟩
    show ((r.readEp0 events).h .toDualsense).streams.pairCommandSeen = _
    rw [pairCommandSeen_readEp0, h.paired]
    rfl
  | _ =>
    have hno := htaken fun _ hn ↦ by cases hn
    refine ⟨?_, ?_, hpaired fun _ hn ↦ by cases hn⟩
    · rw [inputFlowingSince_step (fun _ hn ↦ by cases hn), h.taken, hno]
    · rw [hno]
      exact h.afterEpoch

end Relay

/-- **Over the cable nothing but the PS press and the charging nibble is changed.**  In every state of a run,
a report of the pad with its whole body is handed on as it is but for these two, with PS pressed exactly at
its times; the number of a press is the one of its time, as far as an int goes. -/
theorem usb_input_reframed (c : Config) (hclock : ∀ n, c.env.clock n ≠ noTime) (is : List Input)
    (payload : List UInt8) :
    HandsOn (run (withHistory Relay.step UsbHistory.note) (.init c, {}) is) payload := by
  let Inv (q : Relay × UsbHistory) := (∀ n, q.1.env.clock n ≠ noTime) ∧ q.1.Remembers q.2
  have hstart : Inv (.init c, {}) := ⟨hclock, rfl, (fun h ↦ by cases h), rfl⟩
  have hrun : Inv (run (withHistory Relay.step UsbHistory.note) (.init c, {}) is) := by
    refine run_invariant is hstart fun q i hq ↦ ⟨?_, hq.2.step hq.1 i⟩
    show ∀ n, (q.1.step i).env.clock n ≠ noTime
    rw [(step_move q.1 i).within.env]
    exact hq.1
  exact hrun.2.handsOn payload

/-- The host has taken one report of the pad. -/
def Input.inputTaken : List Input := Input.gadgetUp ⟨1, 2, 3, 4, 5, 6⟩ ++ [.stateReport, .inputDone 64]

/-- A report with nothing pressed. -/
def Input.idleReport : List UInt8 := [HIDP_DATA_INPUT, REPORT_BT, 0x01] ++ List.replicate 76 0

theorem usb_input_reframed_idle :
    HandsOn (run (withHistory Relay.step UsbHistory.note) (.init .session, {}) Input.inputTaken) Input.idleReport :=
  usb_input_reframed .session (fun _ ↦ Int.one_ne_zero) Input.inputTaken Input.idleReport

/-! ## The number of a press -/

/-- The number that is logged for a report. -/
def Relay.attemptFor (r : Relay) (payload : List UInt8) : Int :=
  ((r.relayPadInputToUsb .toDualsense payload).h .toDualsense).streams.autoPsAttempt

/-- A later press has a larger number. -/
def AttemptsIncrease (q q' : Relay × UsbHistory) (payload : List UInt8) : Prop :=
  q.1.usb.bound = true → q'.1.usb.bound = true → FullPayload payload → ∀ k k', q.2.Presses q.1.now k →
    q'.2.Presses q'.1.now k' → k < k' → q.1.attemptFor payload < q'.1.attemptFor payload

/-- The pad reports in the press 2³¹ - 2, and then in the press 2³¹, which is more than a century later. -/
def Config.longSession : Config :=
  { Config.session with
    env := { clock := fun n ↦
      if n ≤ 6 then 1
      else if n ≤ 8 then 1 + milliseconds (1000 + 1500 * (2 ^ 31 - 2)) else 1 + milliseconds (1000 + 1500 * 2 ^ 31) } }

theorem longSession_clock :
    (∀ n, Config.longSession.env.clock n ≠ noTime)
      ∧ ∀ m n, m ≤ n → Config.longSession.env.clock m ≤ Config.longSession.env.clock n := by
  have hclock : ∀ n, Config.longSession.env.clock n
      = if n ≤ 6 then 1 else if n ≤ 8 then 3221225470000000001 else 3221225473000000001 := fun _ ↦ rfl
  constructor
  · intro n
    rw [hclock]
    split
    · decide
    · split <;> decide
  · intro m n hmn
    rw [hclock, hclock]
    split_ifs <;> first | omega | decide

/-- The number is an int, and comes out negative. -/
theorem attempts_wrap :
    ¬ ∀ (c : Config) (is is' : List Input) (payload : List UInt8), (∀ n, c.env.clock n ≠ noTime) →
      (∀ m n, m ≤ n → c.env.clock m ≤ c.env.clock n) →
      AttemptsIncrease (run (withHistory Relay.step UsbHistory.note) (.init c, {}) is)
        (run (withHistory Relay.step UsbHistory.note) (.init c, {}) (is ++ is')) payload := by
  intro h
  have hgrows := h .longSession Input.inputTaken [.stateReport] Input.idleReport longSession_clock.1
    longSession_clock.2 (by decide +kernel) (by decide +kernel) (by decide) (2 ^ 31 - 2) (2 ^ 31)
    (by decide +kernel) (by decide +kernel) (by decide)
  exact absurd hgrows (by decide +kernel)

end DualSenseMitm
