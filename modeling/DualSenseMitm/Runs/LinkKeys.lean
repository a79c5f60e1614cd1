import DualSenseMitm.Frames
import DualSenseMitm.Moves

/-!
# Which key a Link Key Request is answered with

A handler keeps three copies of a link key and answers from one of them.  `KeyHistory` is what the
trace says about the keys of a side: the key last established for every peer, by any of the ways a
key is established, and the key last handed to the copy that is answered from.

`keyHanded_run` is the invariant: the handler answers with the key last handed to it.  So it answers
with the right one exactly when the two histories agree, which is `link_key_agreement`.
-/

set_option autoImplicit false

namespace DualSenseMitm

open Bytes Machine Relay

/-! ## The history of the keys -/

/-- What has happened to the keys of one side. -/
structure KeyHistory where
  /-- The key last established for each peer, less those an authentication condemned.  Addresses of
  one peer differ in their first byte at most. -/
  established : BdAddr → Option LinkKey
  /-- The key last loaded by the constructor or taken by `connect_to_console`, unless an
  authentication has condemned it. -/
  handed : Option LinkKey

namespace KeyHistory

/-- A key is established for a peer. -/
def establish (k : KeyHistory) (addr : BdAddr) (key : LinkKey) : KeyHistory :=
  { k with established := fun a ↦ if a.sameRadio addr then some key else k.established a }

/-- An authentication with the key that was handed over has failed. -/
def condemn (k : KeyHistory) : KeyHistory where
  established a := if k.established a = k.handed then none else k.established a
  handed := none

/-- What one output says about the keys of the side `s`. -/
def observe (s : ConnectionSide) (k : KeyHistory) : Output → KeyHistory
  | .keyNotified t addr key => if t = s then k.establish addr key else k
  | .consoleCalled t addr key idle =>
    if t = s ∧ s = .toPlaystation then
      { k.establish addr key with handed := if idle then some key else k.handed }
    else k
  | .keyFailed t => if t = s then k.condemn else k
  | _ => k

end KeyHistory

/-- The keys loaded at start: by the constructor of the pad-facing handler, and by
`set_console_pairing` on the console-facing one. -/
def Config.keysAtStart (c : Config) : ConnectionSide → KeyHistory
  | .toDualsense =>
    { established := fun a ↦ if a.sameRadio c.dsAddr then c.linkKey else none
      handed := c.linkKey }
  | .toPlaystation =>
    { established := fun a ↦ c.consolePairing.bind fun p ↦ if a.sameRadio p.1 then some p.2 else none
      handed := none }

/-- The history of the keys of the side `s`. -/
def keyHistory (c : Config) (s : ConnectionSide) (out : List Output) : KeyHistory :=
  run (KeyHistory.observe s) (c.keysAtStart s) out

/-! ## The answers -/

/-- The answer to a Link Key Request: the command's code and parameters. -/
def keyReply (addr : BdAddr) : Option LinkKey → UInt16 × List UInt8
  | some key => (OCF_LINK_KEY_REPLY, addr.bytes ++ key.val)
  | none => (OCF_LINK_KEY_NEG_REPLY, addr.bytes)

theorem keyReply_injective (addr : BdAddr) : Function.Injective (keyReply addr) := by
  intro k k' h
  cases k with
  | none =>
    cases k' with
    | none => rfl
    | some key' => exact absurd (congrArg Prod.fst h) (by simp [keyReply, OCF_LINK_KEY_REPLY, OCF_LINK_KEY_NEG_REPLY])
  | some key =>
    cases k' with
    | none => exact absurd (congrArg Prod.fst h) (by simp [keyReply, OCF_LINK_KEY_REPLY, OCF_LINK_KEY_NEG_REPLY])
    | some key' =>
      have hval := List.append_cancel_left (congrArg Prod.snd h)
      rw [Subtype.ext hval]

/-- The answers to Link Key Requests that were sent. -/
def keyReplies (out : List Output) : List (ConnectionSide × UInt16 × List UInt8) :=
  out.filterMap fun
    | .cmdIssued s c => if answersKey c.ogf c.ocf then some (s, c.ocf, c.param) else none
    | _ => none

/-- A step that answers a request of the peer with the key last established for it, or negatively if
there is none, and answers nothing else. -/
def AnswersRight (c : Config) (r : Relay) (i : Input) : Prop :=
  match r.cause i with
  | .event s (.linkKeyRequest addr) =>
    r.fromPeer s addr → keyReplies (r.step i).out
      = keyReplies r.out ++ [(s, keyReply addr ((keyHistory c s r.out).established addr))]
  | _ => keyReplies (r.step i).out = keyReplies r.out

/-- When the peer asks for a key, the one last established for it is the one last handed over. -/
def HandedLast (c : Config) (r : Relay) (i : Input) : Prop :=
  match r.cause i with
  | .event s (.linkKeyRequest addr) =>
    r.fromPeer s addr → (keyHistory c s r.out).established addr = (keyHistory c s r.out).handed
  | _ => True

/-! ## The handler answers with what it was handed -/

/-- The handler's copy is the key last handed over. -/
def KeyHanded (c : Config) (r : Relay) : Prop :=
  ∀ s, (r.h s).pairing.linkKey = (keyHistory c s r.out).handed

section performs

variable {A : Set Aspect} {r r' : Relay} (h : Performs (Op.Within A) r r')
include h

theorem keyHistory_eq (hA : .keys ∉ A) (c : Config) (s : ConnectionSide) :
    keyHistory c s r'.out = keyHistory c s r.out := by
  obtain ⟨new, hout, hnew⟩ := h.out
  rw [hout]
  refine run_append_of_silent _ _ fun o ho k ↦ ?_
  have hw := (hnew o ho).within
  cases o with
  | keyNotified | consoleCalled | keyFailed => exact absurd (hw rfl rfl) hA
  | _ => rfl

theorem keyReplies_eq (hA : .answering ∉ A) : keyReplies r'.out = keyReplies r.out := by
  obtain ⟨new, hout, hnew⟩ := h.out
  have hnil : keyReplies new = [] := by
    refine List.filterMap_eq_nil_iff.mpr fun o ho ↦ ?_
    cases o with
    | cmdIssued s c =>
      exact if_neg fun hc ↦ hA (((hnew _ ho).within rfl rfl).2 hc)
    | _ => rfl
  rw [hout, keyReplies, List.filterMap_append]
  change _ ++ keyReplies new = _
  rw [hnil, List.append_nil]
  rfl

theorem KeyHanded.of_within (hA : .keys ∉ A) {c : Config} (hk : KeyHanded c r) :
    KeyHanded c r' := fun s ↦ by rw [pairing_eq h s hA, keyHistory_eq h hA, hk s]

end performs

@[simp] theorem keyHistory_concat (c : Config) (s : ConnectionSide) (out : List Output)
    (o : Output) : keyHistory c s (out ++ [o]) = (keyHistory c s out).observe s o := by
  simp [keyHistory]

namespace KeyHanded

variable {c : Config} {r : Relay} (hk : KeyHanded c r)
include hk

/-- An output that hands nothing over. -/
theorem emit {o : Output} (ho : ∀ s k, (KeyHistory.observe s k o).handed = k.handed) :
    KeyHanded c (r.emit o) := fun s ↦ by
  rw [h_emit, out_emit, keyHistory_concat, ho, hk s]

/-- A write of the pairing members that leaves the copy alone. -/
theorem onPairing {s : ConnectionSide} {f : Pairing → Pairing}
    (hf : ∀ p, (f p).linkKey = p.linkKey) : KeyHanded c (r.onPairing s f) := fun t ↦ by
  rw [out_onPairing, ← hk t, h_onPairing]
  dsimp only
  split
  · exact hf _
  · rfl

theorem handleLinkKeyNotify (s : ConnectionSide) (p : PacketContents) :
    KeyHanded c (r.handleLinkKeyNotify s p) := by
  unfold Relay.handleLinkKeyNotify
  split
  · exact hk
  · rename_i e _ _
    have hnotified := hk.emit (o := .keyNotified s e.bdaddr e.linkKey) fun t k ↦ by
      simp only [KeyHistory.observe, KeyHistory.establish]; split <;> rfl
    cases s with
    | toPlaystation =>
      exact ((hnotified.onPairing fun _ ↦ by rfl).onPairing fun _ ↦ by rfl).emit fun _ _ ↦ rfl
    | toDualsense => exact (hnotified.onPairing fun _ ↦ by rfl).emit fun _ _ ↦ rfl

theorem takePairingSet (s : ConnectionSide) (report : List UInt8) :
    KeyHanded c (r.takePairingSet s report) := by
  unfold Relay.takePairingSet
  split
  · extract_lets key host r₁
    have h₁ : KeyHanded c r₁ := hk.emit fun _ _ ↦ rfl
    split
    · split
      · exact h₁.onPairing fun _ ↦ rfl
      · exact h₁
    · exact (h₁.onPairing fun _ ↦ by rfl).emit fun _ _ ↦ rfl
  · exact hk

/-- A failed authentication takes the key away from the copy and from the history. -/
theorem handleAuthComplete (s : ConnectionSide) (p : PacketContents) :
    KeyHanded c (r.handleAuthComplete s p) := by
  unfold Relay.handleAuthComplete
  split
  · exact hk
  · extract_lets r₁ r₂
    have hout : ∀ t, keyHistory c t r₁.out
        = if s = t then (keyHistory c t r.out).condemn else keyHistory c t r.out := fun t ↦ by
      rw [out_emit, keyHistory_concat]; rfl
    split
    · split
      · split
        · have h₂ : KeyHanded c r₂ := fun t ↦ by
            rw [out_onPairing, hout, h_onPairing]
            dsimp only
            by_cases ht : t = s
            · rw [if_pos ht, if_pos ht.symm]; rfl
            · rw [if_neg ht, if_neg (Ne.symm ht)]; exact hk t
          split
          · exact h₂.emit fun _ _ ↦ rfl
          · exact h₂
        · rename_i hnone
          intro t
          rw [hout]
          by_cases ht : s = t
          · rw [if_pos ht]
            subst ht
            simpa [KeyHistory.condemn] using hnone
          · rw [if_neg ht]; exact hk t
      · exact hk
    · cases s with
      | toPlaystation =>
        exact hk.of_within (A := ∅) (quiet_sendCmd r _ rfl _ _).within (by simp)
      | toDualsense =>
        exact hk.of_within (within_l2capSendCmdRequest r _ (Set.mem_singleton _) _ _) (by simp)

/-- A call hands its key over when it is taken, and is lost otherwise. -/
theorem connectToConsole (s : ConnectionSide) (addr : BdAddr) (key : LinkKey) :
    KeyHanded c (r.connectToConsole s addr key) := by
  by_cases h : s = .toPlaystation ∧ (r.h s).links.connectionHandle = 0
  · obtain ⟨rfl, h⟩ := h
    refine KeyHanded.of_within (A := {.calling .toPlaystation, .scanning .toPlaystation})
      (connectToConsole_of_idle r (by simp) (by simp) h addr key) (by simp) ?_
    intro t
    rw [out_onPairing, out_emit, keyHistory_concat, h_onPairing, h_emit]
    cases t with
    | toDualsense => exact hk _
    | toPlaystation => simp [KeyHistory.observe]
  · rw [connectToConsole_of_busy r s h addr key]
    refine hk.emit fun t k ↦ ?_
    simp only [KeyHistory.observe]
    split
    · rename_i ht
      obtain ⟨rfl, rfl⟩ := ht
      have hbusy : ¬ ((r.h .toPlaystation).links.connectionHandle == 0) = true := fun hb ↦
        h ⟨rfl, beq_iff_eq.mp hb⟩
      rw [if_neg hbusy]
    · rfl

/-- Every step keeps it. -/
theorem step (i : Input) : KeyHanded c (r.step i) := by
  have hm := step_move r i
  have hw := hm.within
  revert hm hw
  generalize r.cause i = cause
  generalize r.step i = t
  intro hm hw
  cases hm with
  | linkKeyNotify hp => exact hk.handleLinkKeyNotify _ _
  | authComplete hp => exact hk.handleAuthComplete _ _
  | handover hp =>
    rename_i s k
    have h : Performs (Op.Within {.endpoints, .reports}) r (r.unpark k).disableGadget :=
      (quiet_unpark r hp nofun).within.trans (within_disableGadget _ (by simp) (by simp))
    exact (hk.of_within h (by simp)).connectToConsole _ _ _
  | ep0 =>
    exact readEp0_invariant r (KeyHanded c) hk (fun r _ _ report _ h ↦ h.takePairingSet _ report)
      fun r r' h hr ↦ hr.of_within h (by simp)
  | quiet h => exact hk.of_within (A := ∅) h.within (by simp)
  | acl => exact hk.of_within hw (by simp [Cause.aspects, aclAspects])
  | _ => exact hk.of_within hw (by simp [Cause.aspects])

end KeyHanded

/-- The handler's copy is what was last handed to it, wherever a run ends. -/
theorem keyHanded_run (c : Config) (is : List Input) : KeyHanded c (run step (.init c) is) := by
  refine run_invariant is (fun s ↦ ?_) fun r i hr ↦ hr.step i
  cases s <;> rcases hp : c.consolePairing with _ | ⟨addr, key⟩ <;>
    simp [Relay.init, Config.handler, Config.pairing, keyHistory, Config.keysAtStart, hp]

/-! ## The answer -/

/-- What a request is answered with. -/
theorem keyReplies_handleLinkKeyRequest (r : Relay) (s : ConnectionSide) {p q : PacketContents}
    {addr : BdAddr} (hp : evtBdAddr? 6 p = some (addr, q)) :
    keyReplies (r.handleLinkKeyRequest s p).out
      = keyReplies r.out ++ [(s, keyReply addr (r.h s).pairing.linkKey)] := by
  have hpumped : ∀ l : List (Command × Bool), keyReplies (l.map (pumpOutput s)) = [] := fun l ↦ by
    refine List.filterMap_eq_nil_iff.mpr fun o ho ↦ ?_
    obtain ⟨p, -, rfl⟩ := List.mem_map.mp ho
    cases hb : p.2 <;> simp [pumpOutput, hb]
  have hcmd : ∀ ogf ocf param what, answersKey ogf ocf = true →
      keyReplies (r.sendCmd s ogf ocf param what).out = keyReplies r.out ++ [(s, ocf, param)] := by
    intro ogf ocf param what ha
    have hcons : ∀ l, keyReplies (.cmdIssued s (r.command s ogf ocf param what) :: l)
        = (s, ocf, param) :: keyReplies l := fun l ↦ by
      simp [keyReplies, command, ha]
    rw [out_sendCmd, keyReplies, List.filterMap_append]
    change keyReplies _ ++ keyReplies _ = _
    rw [hcons, hpumped]
  unfold handleLinkKeyRequest
  rw [hp]
  dsimp only
  cases (r.h s).pairing.linkKey with
  | none => exact hcmd _ _ _ _ rfl
  | some key => exact hcmd _ _ _ _ rfl

/-- A handler that answers with what it was handed answers right exactly when that is the key last
established. -/
theorem answersRight_iff {c : Config} {r : Relay} (hk : KeyHanded c r) (i : Input) :
    AnswersRight c r i ↔ HandedLast c r i := by
  have hm := step_move r i
  have hw := hm.within
  unfold AnswersRight HandedLast
  revert hm hw
  generalize r.cause i = cause
  generalize r.step i = t
  intro hm hw
  cases hm with
  | linkKeyRequest hp =>
    rename_i s p addr q
    dsimp only
    rw [keyReplies_handleLinkKeyRequest r s hp, hk s]
    refine imp_congr_right fun _ ↦ ⟨fun h ↦ ?_, fun h ↦ by rw [h]⟩
    have hlast := (List.cons.inj (List.append_cancel_left h)).1
    exact (keyReply_injective addr (Prod.ext_iff.mp hlast).2).symm
  | quiet h hc =>
    have heq := keyReplies_eq (A := ∅) h.within (by simp)
    cases cause with
    | event s e =>
      cases e with
      | linkKeyRequest addr => exact absurd hc (Set.singleton_ne_empty _)
      | _ => exact iff_of_true heq trivial
    | _ => exact iff_of_true heq trivial
  | _ => exact iff_of_true (keyReplies_eq hw (by simp [Cause.aspects, aclAspects])) trivial

/-- **When the answers agree with the keys established.**  Every Link Key Request of a run is
answered with the key last established for the peer exactly when, at each of them, that is the key
last handed to the copy that answers. -/
theorem link_key_agreement (c : Config) (is : List Input) :
    (∀ pre i, pre ++ [i] <+: is → AnswersRight c (run step (.init c) pre) i)
      ↔ Along step (HandedLast c) (.init c) is := by
  rw [along_iff_prefixes]
  exact forall₃_congr fun pre i _ ↦ answersRight_iff (keyHanded_run c pre) i

/-- A pad that has just been paired asks for its key when it reconnects, and is told there is
none. -/
theorem link_key_agreement_fresh_pairing :
    let pad : BdAddr := ⟨1, 2, 3, 4, 5, 6⟩
    let key := List.replicate 16 (7 : UInt8)
    let is := Input.bringUp .toDualsense ++
      [.event .toDualsense EVT_LINK_KEY_NOTIFY (pad.bytes ++ key ++ [5]),
        .event .toDualsense EVT_LINK_KEY_REQ pad.bytes]
    ¬ ∀ pre i, pre ++ [i] <+: is →
      AnswersRight { dsAddr := pad } (run step (.init { dsAddr := pad }) pre) i := by
  intro pad key is h
  have hlast := h (is.take 3) (.event .toDualsense EVT_LINK_KEY_REQ pad.bytes) List.prefix_rfl
  have hright := hlast ⟨by decide, by decide⟩
  exact absurd hright (by decide)

end DualSenseMitm
