import DualSenseMitm.Sending

/-!
# The pad's opaque stream

A report of the pad without controller state shares its id and its size with the ones that carry it.  The
feed and the console's interrupt channel are kept free of them; the gadget is not.

* `Relay.PassesNothing` — no consumer is handed anything of a payload, now or later.
* `opaque_passes_nothing` — so it is exactly while the gadget has nowhere to put a report.
-/

set_option autoImplicit false

namespace DualSenseMitm

open Bytes Machine Relay

/-- A report of the full size whose flags say that it carries no controller state. -/
structure IsOpaque (payload : List UInt8) : Prop where
  size : payload.length = 1 + INPUT_BT_SIZE
  header : byteAt payload 0 = HIDP_DATA_INPUT
  report : byteAt payload 1 = REPORT_BT
  flags : byteAt payload BT_FLAGS_OFF &&& FLAG_HAS_HID = 0

/-- Something of the pad's input is handed on: to the gadget, the feed or a channel. -/
def Output.handsOn : Output → Bool
  | .usbInput .. | .published .. | .acl .. => true
  | _ => false

theorem carriesControllerState_of_isOpaque {payload : List UInt8} (h : IsOpaque payload) :
    carriesControllerState payload = false := by
  rw [carriesControllerState, h.flags, bne_self_eq_false, Bool.and_false]

theorem opaqueFrame_of_isOpaque {payload : List UInt8} (h : IsOpaque payload) :
    opaqueFrame payload = true := by
  rw [opaqueFrame, carriesControllerState_of_isOpaque h, h.size]
  rfl

namespace Relay

variable (r : Relay) {payload : List UInt8}

/-- The endpoint takes the next report. -/
def EndpointFree : Prop := r.usb.endpointsEnabled = true ∧ r.usb.inBusy = false

instance : Decidable r.EndpointFree := inferInstanceAs (Decidable (_ ∧ _))

/-- No consumer is handed anything of this payload: nothing that `relay_pad_input` does with it hands
something on, and neither held slot changes. -/
def PassesNothing (payload : List UInt8) : Prop :=
  (∀ o ∈ (r.relayPadInput .toDualsense payload).out.drop r.out.length, ¬ o.handsOn)
    ∧ ∀ s, ((r.relayPadInput .toDualsense payload).h s).held = (r.h s).held

/-! ## Each consumer -/

theorem publishInput_of_isOpaque (s : ConnectionSide) (h : IsOpaque payload) :
    r.publishInput s payload = r := by
  rw [publishInput, if_neg]
  rintro ⟨-, -, -, hstate⟩
  rw [carriesControllerState_of_isOpaque h] at hstate
  cases hstate

theorem out_sendInput (report : List UInt8) :
    ∃ ok, (r.sendInput report).out
      = r.out ++ if r.EndpointFree then [.usbInput (report.take REPORT_LENGTH) ok] else [] := by
  refine ⟨r.env.aioSubmit r.tick, ?_⟩
  by_cases hfree : r.EndpointFree
  · rw [if_pos hfree, sendInput, if_pos ⟨hfree.1, by rw [hfree.2]; decide⟩]
    dsimp only
    split <;> rfl
  · rw [if_neg hfree, List.append_nil, sendInput, if_neg fun h ↦ hfree ⟨h.1, Bool.not_eq_true _ ▸ h.2⟩]

/-- The gadget does not ask what a report carries. -/
theorem out_relayPadInputToUsb_of_isOpaque (s : ConnectionSide) (h : IsOpaque payload) :
    ∃ usb ok, (r.relayPadInputToUsb s payload).out
      = r.out ++ if r.usb.bound = true ∧ r.EndpointFree then [.usbInput usb ok] else [] := by
  have hsize : 1 + INPUT_BODY_OFF_BT + INPUT_BODY_LEN ≤ payload.length := by
    rw [h.size]
    decide
  rw [relayPadInputToUsb]
  by_cases hbound : r.usb.bound = true
  · rw [if_pos ⟨hbound, hsize, h.header, h.report⟩]
    dsimp only
    simp only [hbound, true_and]
    split
    · split
      · exact ⟨_, out_sendInput ((r.advance 1).onStreams s _) _⟩
      · exact ⟨_, out_sendInput (r.advance 1) _⟩
    · exact ⟨_, r.out_sendInput _⟩
  · exact ⟨[], true, by simp [hbound]⟩

/-- The console is handed nothing, and nothing is held for it. -/
theorem relayPadInputToConsole_of_isOpaque (s : ConnectionSide) (h : IsOpaque payload) :
    (r.relayPadInputToConsole s payload).out = r.out
      ∧ ∀ t, ((r.relayPadInputToConsole s payload).h t).held = (r.h t).held := by
  rw [relayPadInputToConsole]
  split
  · rw [if_pos (opaqueFrame_of_isOpaque h)]
    refine ⟨rfl, fun t ↦ ?_⟩
    cases s <;> cases t <;> rfl
  · exact ⟨rfl, fun _ ↦ rfl⟩

end Relay

/-- **Where the frames of the opaque stream go.**  Nowhere, exactly while the gadget is detached, its
endpoints are down, or the host has not taken the report before. -/
theorem opaque_passes_nothing (r : Relay) {payload : List UInt8} (h : IsOpaque payload) :
    r.PassesNothing payload ↔ ¬ (r.usb.bound = true ∧ r.EndpointFree) := by
  let r₁ := r.emit (.padInput payload (r.linked && r.dcid ConnectionSide.toPlaystation .hidInterrupt != 0))
  have hstep : r.relayPadInput .toDualsense payload
      = (r₁.relayPadInputToUsb .toDualsense payload).relayPadInputToConsole .toDualsense payload := by
    rw [relayPadInput, publishInput_of_isOpaque _ _ h]
    rfl
  obtain ⟨hconsole, hslot⟩ := relayPadInputToConsole_of_isOpaque (r₁.relayPadInputToUsb .toDualsense payload)
    .toDualsense h
  obtain ⟨usb, ok, husb⟩ := out_relayPadInputToUsb_of_isOpaque r₁ .toDualsense h
  have hheld : ∀ s, ((r.relayPadInput .toDualsense payload).h s).held = (r.h s).held := by
    intro s
    have hquiet := quiet_relayPadInputToUsb r₁ .toDualsense payload
    rw [hstep, hslot, held_eq (A := ∅) hquiet.within s (by simp) (by simp)]
    rfl
  have hout : (r.relayPadInput .toDualsense payload).out.drop r.out.length
      = .padInput payload (r.linked && r.dcid ConnectionSide.toPlaystation .hidInterrupt != 0)
        :: if r.usb.bound = true ∧ r.EndpointFree then [.usbInput usb ok] else [] := by
    rw [hstep, hconsole, husb, out_emit, List.append_assoc, List.drop_left]
    rfl
  rw [PassesNothing, and_iff_left hheld, hout]
  split
  · rename_i hopen
    simp [hopen, Output.handsOn]
  · rename_i hopen
    simp [hopen, Output.handsOn]

/-- A frame of the opaque stream. -/
def opaqueExample : List UInt8 :=
  [HIDP_DATA_INPUT, REPORT_BT, 0x02] ++ List.replicate 76 0xff

theorem opaque_passes_nothing_over_radio :
    IsOpaque opaqueExample ∧ consoleInputOpen.dcid .toPlaystation .hidInterrupt ≠ 0
      ∧ consoleInputOpen.PassesNothing opaqueExample :=
  have h : IsOpaque opaqueExample := ⟨rfl, rfl, rfl, rfl⟩
  ⟨h, by decide +kernel, (opaque_passes_nothing consoleInputOpen h).mpr (by decide +kernel)⟩

/-- With the gadget up, the host is handed the frame as a report. -/
theorem opaque_passes_to_usb :
    ¬ (run step (.init .session) (Input.gadgetUp ⟨1, 2, 3, 4, 5, 6⟩)).PassesNothing opaqueExample := by
  intro h
  exact absurd h.1 (by decide +kernel)

end DualSenseMitm
