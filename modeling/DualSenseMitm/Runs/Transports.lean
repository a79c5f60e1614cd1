import DualSenseMitm.Runs.Cable
import DualSenseMitm.Runs.Feed
import DualSenseMitm.Runs.UsbInput

/-!
# One state, wherever it is read

A payload of the pad is laid out in three ways: as it came in the feed, in the framing of USB for the host,
and once more in the reports for the console.  `decode` reads the state from a body.  What a viewer reads
in the feed is the state of the payload that just came, and so is what the host reads, but for the PS
button, which the relay presses itself, and for the nibble that says how the battery is charged.
-/

set_option autoImplicit false

namespace DualSenseMitm

open Bytes Machine InputFeed

/-- The body that starts at this offset. -/
def bodyAt (b : List UInt8) (off : ℕ) : Body := fun i ↦ byteAt b (off + i)

/-- What the relay may change in a state: PS is down, and another nibble of the battery says how it is
charged. -/
structure Agrees (seen played : PadState) : Prop where
  sticks : (seen.lx, seen.ly, seen.rx, seen.ry) = (played.lx, played.ly, played.rx, played.ry)
  triggers : (seen.l2, seen.r2) = (played.l2, played.r2)
  touch : seen.touch = played.touch
  capacity : seen.battery &&& 0x0f = played.battery &&& 0x0f
  buttons : seen.buttons = played.buttons ∨ seen.buttons = played.buttons ||| Button.ps.bit

theorem decode_toBody (report : List UInt8) : decode (toBody (bodyOf report)) = decode (bodyAt report BT_BODY_OFF) :=
  congrArg decode (funext fun i ↦ byteAt_slice i.isLt)

/-- A body with PS down has the bit of PS besides its own. -/
theorem packButtons_ps {body body' : Body} (h₇ : body' DPAD_OFF = body DPAD_OFF)
    (h₈ : body' BUTTONS2_OFF = body BUTTONS2_OFF) (h₉ : body' BUTTONS3_OFF = body BUTTONS3_OFF ||| BUTTON_PS) :
    packButtons body' = packButtons body ||| Button.ps.bit := by
  have hall : ∀ n : Fin 256, ((UInt8.ofFin n ||| BUTTON_PS) &&& (0x07 : UInt8)).toUInt32 <<< (16 : UInt32)
      = (UInt8.ofFin n &&& (0x07 : UInt8)).toUInt32 <<< (16 : UInt32) ||| Button.ps.bit := by decide +kernel
  have hps := hall (body BUTTONS3_OFF).toFin
  rw [UInt8.ofFin_toFin] at hps
  rw [packButtons, packButtons, h₇, h₈, h₉, hps, ← UInt32.or_assoc]

/-- The host reads the state of the payload. -/
theorem agrees_of_reframes {pressed : Prop} {payload usb : List UInt8} (h : Reframes pressed payload usb) :
    Agrees (decode (bodyAt usb 1)) (decode (bodyAt payload BT_BODY_OFF)) := by
  have hsame : ∀ i : Fin BODY_LEN, i.1 ≠ STATUS_OFF → i.1 ≠ BUTTON_PS_OFF →
      bodyAt usb 1 i = bodyAt payload BT_BODY_OFF i := fun i ↦ h.body i i.isLt
  refine ⟨?_, ?_, ?_, h.capacity, ?_⟩
  · rw [Prod.mk.injEq, Prod.mk.injEq, Prod.mk.injEq]
    exact ⟨hsame _ (by decide) (by decide), hsame _ (by decide) (by decide), hsame _ (by decide) (by decide),
      hsame _ (by decide) (by decide)⟩
  · rw [Prod.mk.injEq]
    exact ⟨hsame _ (by decide) (by decide), hsame _ (by decide) (by decide)⟩
  · show (fun i ↦ decodeTouch (touchPoint (bodyAt usb 1) i)) = fun i ↦ decodeTouch (touchPoint (bodyAt payload _) i)
    refine funext fun i ↦ congrArg decodeTouch (funext fun k ↦ ?_)
    have hi := i.isLt
    have hk := k.isLt
    refine hsame _ ?_ ?_
    · show TOUCH_OFF + 4 * i.1 + k.1 ≠ STATUS_OFF
      rw [TOUCH_OFF, STATUS_OFF]
      omega
    · show TOUCH_OFF + 4 * i.1 + k.1 ≠ BUTTON_PS_OFF
      rw [TOUCH_OFF, BUTTON_PS_OFF]
      omega
  · have h₇ : bodyAt usb 1 DPAD_OFF = bodyAt payload BT_BODY_OFF DPAD_OFF := hsame _ (by decide) (by decide)
    have h₈ : bodyAt usb 1 BUTTONS2_OFF = bodyAt payload BT_BODY_OFF BUTTONS2_OFF := hsame _ (by decide) (by decide)
    by_cases hpressed : pressed
    · exact .inr (packButtons_ps h₇ h₈ (h.ps hpressed))
    · refine .inl ?_
      have h₉ : bodyAt usb 1 BUTTONS3_OFF = bodyAt payload BT_BODY_OFF BUTTONS3_OFF := h.noPs hpressed
      show packButtons _ = packButtons _
      rw [packButtons, packButtons, h₇, h₈, h₉]

/-! ## One step -/

/-- What is shown of a payload is read as its state. -/
def Output.ReadsAs (report : List UInt8) : Output → Prop
  | .published body _ => decode (toBody body) = decode (bodyAt report BT_BODY_OFF)
  | .usbInput usb _ => Agrees (decode (bodyAt usb 1)) (decode (bodyAt report BT_BODY_OFF))
  | _ => True

/-- It is no state that is shown. -/
def Output.isState : Output → Bool
  | .published .. | .usbInput .. => true
  | _ => false

/-- Whatever a step shows of a state, it shows of the payload its input brings. -/
theorem TallyStep.readsAs {opened : ConnectionSide → Bool} {t u : Tally} {brought : Brought}
    (h : TallyStep opened t brought u) : ∃ new, u.shown = t.shown ++ new
      ∧ ∀ o ∈ new, o.isState = true → ∃ report, brought = .payload .toDualsense report ∧ o.ReadsAs report := by
  have hsilent : u.shown = t.shown → ∃ new, u.shown = t.shown ++ new
      ∧ ∀ o ∈ new, o.isState = true → ∃ report, brought = .payload .toDualsense report ∧ o.ReadsAs report :=
    fun hs ↦ ⟨[], hs.trans (List.append_nil _).symm, by simp⟩
  cases h with
  | snapshot | flushed | detaching => exact ⟨_, rfl, by simp [Output.isState]⟩
  | @input report link v _ hcable hconsole =>
    have hpublished : ∀ o ∈ (if Published report then [Output.published (bodyOf report) link] else []),
        o.ReadsAs report := by
      intro o ho
      split at ho
      · rw [List.mem_singleton.mp ho]
        exact decode_toBody report
      · cases ho
    have hv : ∃ new, v.shown = t.shown ++ new ∧ ∀ o ∈ new, o.isState = true → o.ReadsAs report := by
      cases hcable with
      | none =>
        refine ⟨_, List.append_assoc _ _ _, fun o ho _ ↦ ?_⟩
        rcases List.mem_append.mp ho with ho | ho
        · rw [List.mem_singleton.mp ho]
          trivial
        · exact hpublished o ho
      | @sent usb ok _ _ _ hfull husb =>
        have hagrees : Agrees (decode (bodyAt usb 1)) (decode (bodyAt report BT_BODY_OFF)) := by
          rcases husb with rfl | rfl
          · exact @agrees_of_reframes False _ _ (reframes_makeUsbReport id report)
          · exact @agrees_of_reframes True _ _ (reframes_setPsOnUsbReport trivial report)
        refine ⟨_, (congrArg (· ++ _) (List.append_assoc _ _ _)).trans (List.append_assoc _ _ _), fun o ho _ ↦ ?_⟩
        rcases List.mem_append.mp ho with ho | ho
        · rcases List.mem_append.mp ho with ho | ho
          · rw [List.mem_singleton.mp ho]
            trivial
          · exact hpublished o ho
        · rw [List.mem_singleton.mp ho]
          exact hagrees
    obtain ⟨new, hshown, hnew⟩ := hv
    have hall : ∀ o ∈ new, o.isState = true → ∃ report', Brought.payload .toDualsense report
        = .payload .toDualsense report' ∧ o.ReadsAs report' := fun o ho hs ↦ ⟨report, rfl, hnew o ho hs⟩
    revert hconsole
    generalize opened .toPlaystation = b
    intro hconsole
    cases hconsole with
    | @sent now =>
      refine ⟨new ++ [.relayed report false now], ?_, fun o ho hs ↦ ?_⟩
      · rw [← List.append_assoc, ← hshown]
        rfl
      · rcases List.mem_append.mp ho with ho | ho
        · exact hall o ho hs
        · rw [List.mem_singleton.mp ho] at hs
          cases hs
    | _ => exact ⟨new, hshown, hall⟩
  | output h =>
    revert h
    generalize opened .toDualsense = b
    intro h
    cases h <;> exact hsilent rfl
  | events _ h =>
    have hshown : u.shown = t.shown := by
      clear hsilent
      induction h with
      | refl => rfl
      | tail _ hmove ih => cases hmove <;> exact ih
    exact hsilent hshown
  | enabling _ h => cases h <;> exact hsilent rfl
  | _ => exact hsilent rfl

/-- The payload of the pad's that an input brings. -/
theorem Relay.inputOf_of_broughtBy {r : Relay} {cause : Cause} {report : List UInt8}
    (h : r.broughtBy cause = .payload .toDualsense report) : r.inputOf cause = some report := by
  cases cause with
  | acl s p =>
    have h' : (r.payloadOf (.acl s p)).elim .other (fun p ↦ onInterrupt p.1 p.2.1 p.2.2)
        = Brought.payload .toDualsense report := h
    rw [inputOf]
    revert h'
    generalize r.payloadOf (.acl s p) = q
    rintro h'
    cases q with
    | none => cases h'
    | some q =>
      obtain ⟨t, cid, data⟩ := q
      rw [Option.elim, onInterrupt] at h'
      split at h'
      · rename_i hcid
        cases h'
        exact if_pos hcid
      · cases h'
  | _ => cases h

/-- **One state, wherever it is read.**  In every run, whatever a step puts into the feed or submits to the
host is read, by the layout of either, as the state in the payload that the step was handed by the pad: the
feed's is that state, and the host's agrees with it but for a PS that is pressed and the charging nibble. -/
theorem transports_agree (cfg : Config) (is : List Input) :
    Along Relay.step (fun r i ↦ ∀ o ∈ r.added i, o.isState = true →
      ∃ report ∈ r.inputOf (r.cause i), o.ReadsAs report) (.init cfg) is := by
  refine along_iff_prefixes.mpr fun pre i _ o ho hstate ↦ ?_
  obtain ⟨new, hshown, hnew⟩ := ((Relay.steady_run cfg pre).tallyStep i).readsAs
  have hmem : o ∈ new := by
    rw [Relay.added_shown hshown]
    exact List.mem_filter.mpr ⟨ho, by cases o <;> first | rfl | cases hstate⟩
  obtain ⟨report, hbrought, hreads⟩ := hnew o hmem hstate
  exact ⟨report, Relay.inputOf_of_broughtBy hbrought, hreads⟩

end DualSenseMitm
