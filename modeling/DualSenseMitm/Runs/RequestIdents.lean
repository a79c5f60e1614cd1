import DualSenseMitm.Runs.Ends

/-!
# The numbers of the signalling requests

Each side numbers its signalling requests with one counter of eight bits, which starts at 1 and is not
reset with the link.

* `Relay.requests` — the numbers of the requests sent to the peer of one side.
* `requests_run` — they are those of a counter.
* `requests_legal_iff` — so they are legal for as long as the counter has not come round.
-/

set_option autoImplicit false

namespace DualSenseMitm

open Bytes Machine

/-! ## Numbers from a counter of eight bits -/

/-- The next numbers of a counter. -/
def numbers : UInt8 → ℕ → List UInt8
  | _, 0 => []
  | a, n + 1 => a :: numbers (a + 1) n

@[simp] theorem length_numbers (a : UInt8) (n : ℕ) : (numbers a n).length = n := by
  induction n generalizing a with
  | zero => rfl
  | succ n ih => rw [numbers, List.length_cons, ih]

theorem numbers_add (a : UInt8) (m n : ℕ) :
    numbers a (m + n) = numbers a m ++ numbers (a + UInt8.ofNat m) n := by
  induction m generalizing a with
  | zero => rw [Nat.zero_add, numbers, List.nil_append, show UInt8.ofNat 0 = 0 from rfl, UInt8.add_zero]
  | succ m ih =>
    have hnext : a + 1 + UInt8.ofNat m = a + UInt8.ofNat (m + 1) := by
      rw [UInt8.ofNat_add, UInt8.add_comm (UInt8.ofNat m), UInt8.add_assoc]
      rfl
    rw [Nat.succ_add, numbers, ih, hnext, numbers, List.cons_append]

theorem mem_numbers {a x : UInt8} {n : ℕ} : x ∈ numbers a n ↔ ∃ k < n, x = a + UInt8.ofNat k := by
  induction n with
  | zero => simp [numbers]
  | succ n ih =>
    rw [numbers_add, List.mem_append, ih]
    constructor
    · rintro (⟨k, hk, rfl⟩ | h)
      · exact ⟨k, by omega, rfl⟩
      · exact ⟨n, Nat.lt_succ_self n, List.mem_singleton.mp h⟩
    · rintro ⟨k, hk, rfl⟩
      rcases Nat.lt_succ_iff_lt_or_eq.mp hk with hk | rfl
      · exact .inl ⟨k, hk, rfl⟩
      · exact .inr (List.mem_singleton.mpr rfl)

/-- A counter does not stand still. -/
theorem isChain_numbers (a : UInt8) (n : ℕ) : (numbers a n).IsChain (· ≠ ·) := by
  induction n generalizing a with
  | zero => exact .nil
  | succ n ih =>
    cases n with
    | zero => exact .singleton a
    | succ n =>
      refine .cons_cons ?_ (ih (a + 1))
      intro h
      have hval := congrArg UInt8.toNat h
      rw [UInt8.toNat_add, UInt8.toNat_one] at hval
      have := a.toNat_lt
      omega

/-- A counter that starts at 1 comes to 0 with the 256th number. -/
theorem zero_mem_numbers_iff (n : ℕ) : 0 ∈ numbers 1 n ↔ 255 < n := by
  rw [mem_numbers]
  constructor
  · rintro ⟨k, hk, h⟩
    have hval := congrArg UInt8.toNat h
    rw [UInt8.toNat_add, UInt8.toNat_ofNat', UInt8.toNat_one, UInt8.toNat_zero] at hval
    omega
  · exact fun h ↦ ⟨255, h, rfl⟩

/-! ## Requests -/

/-- The codes of the requests. -/
def isRequest (code : UInt8) : Bool :=
  code == L2CAP_CONN_REQ || code == L2CAP_CONF_REQ || code == L2CAP_DISCONN_REQ

/-- The number of a frame that carries a request to the peer of a side. -/
def Sent.requestIdent? (s : ConnectionSide) (f : Sent) : Option UInt8 :=
  if f.side = s ∧ f.cid = L2CAP_CID_SIGNALLING ∧ isRequest (byteAt f.payload 0) then
    some (byteAt f.payload 1)
  else none

/-- No request is numbered 0, and none like the one before it. -/
def LegalIdents (idents : List UInt8) : Prop := 0 ∉ idents ∧ idents.IsChain (· ≠ ·)

instance (idents : List UInt8) : Decidable (LegalIdents idents) := inferInstanceAs (Decidable (_ ∧ _))

namespace Relay

variable {r r' r'' : Relay} {s : ConnectionSide}

/-- The numbers of the requests sent to the peer of a side, in order. -/
def requests (r : Relay) (s : ConnectionSide) : List UInt8 := r.frames.filterMap (Sent.requestIdent? s)

/-- The number of the next request. -/
def nextIdent (r : Relay) (s : ConnectionSide) : UInt8 := (r.h s).channels.cmdRequestIdent

/-- From one state to another each request of a side takes the next number. -/
def Numbered (s : ConnectionSide) (r r' : Relay) : Prop :=
  ∃ n, r'.requests s = r.requests s ++ numbers (r.nextIdent s) n
    ∧ r'.nextIdent s = r.nextIdent s + UInt8.ofNat n

namespace Numbered

theorem of_eq (hrequests : r'.requests s = r.requests s) (hident : r'.nextIdent s = r.nextIdent s) :
    Numbered s r r' :=
  ⟨0, by rw [hrequests, numbers, List.append_nil], by rw [hident, show UInt8.ofNat 0 = 0 from rfl, UInt8.add_zero]⟩

theorem trans (h : Numbered s r r') (h' : Numbered s r' r'') : Numbered s r r'' := by
  obtain ⟨m, hrequests, hident⟩ := h
  obtain ⟨n, hrequests', hident'⟩ := h'
  refine ⟨m + n, ?_, ?_⟩
  · rw [hrequests', hrequests, hident, List.append_assoc, numbers_add]
  · rw [hident', hident, UInt8.ofNat_add, UInt8.add_assoc]

/-- Whatever does without the signalling channel sends no request. -/
theorem perform {A : Set Aspect} (he : EndsApart s r) {op : Op} (hop : op.Within A r)
    (hs : .signalling s ∉ A) : Numbered s r (r.perform op) := by
  refine of_eq ?_ (cmdRequestIdent_perform hop s hs)
  cases op with
  | frame t cid pre data =>
    have hcid : t = s → cid ≠ L2CAP_CID_SIGNALLING := by
      rintro rfl
      rcases hop with ⟨-, c, hc, -⟩ | hA | ⟨-, c, hc, -⟩
      · rw [← hc]
        exact he c
      · exact absurd hA.1 hs
      · rw [← hc]
        exact he c
    rw [Relay.perform, requests, frames_l2capSendFrame, List.filterMap_append, ← requests]
    refine List.append_right_eq_self.mpr (List.filterMap_eq_nil_iff.mpr fun f hf ↦ if_neg ?_)
    rw [(mem_frameOf.mp hf).2]
    exact fun h ↦ hcid h.1 h.2.1
  | emit o =>
    cases o with
    | acl => exact absurd hop (by rintro (h | h) <;> cases h)
    | _ => rw [Relay.perform, requests, frames_emit]; exact congrArg _ (List.append_nil _)
  | pump t => rw [Relay.perform, requests, frames_pumpCommands, requests]
  | cmd t ogf ocf param what => rw [Relay.perform, requests, frames_sendCmd, requests]
  | _ => rfl

theorem of_within {A : Set Aspect} (he : EndsApart s r) (h : Performs (Op.Within A) r r')
    (hs : .signalling s ∉ A) : Numbered s r r' := by
  refine (h.invariant (fun a ↦ EndsApart s a ∧ Numbered s r a) ⟨he, of_eq rfl rfl⟩ ?_).2
  rintro a op ⟨ha, hnumbered⟩ hop
  exact ⟨EndsApart.perform ha hop fun hA ↦ hs hA.1, hnumbered.trans (perform ha hop hs)⟩

end Numbered

/-! ## Signalling -/

section signalling

variable (r : Relay) (t : ConnectionSide)

theorem nextIdent_l2capSendCmd (ident code : UInt8) (data : List UInt8) :
    (r.l2capSendCmd t ident code data).nextIdent s = r.nextIdent s := by
  simp [nextIdent, l2capSendCmd]

/-- A response is no request. -/
theorem numbered_response {code : UInt8} (hcode : isRequest code = false) (ident : UInt8)
    (data : List UInt8) : Numbered s r (r.l2capSendCmd t ident code data) := by
  refine .of_eq ?_ (r.nextIdent_l2capSendCmd t _ _ _)
  rw [requests, l2capSendCmd, frames_l2capSendFrame, List.filterMap_append, ← requests]
  refine List.append_right_eq_self.mpr (List.filterMap_eq_nil_iff.mpr fun f hf ↦ if_neg ?_)
  rw [(mem_frameOf.mp hf).2]
  exact fun h ↦ Bool.false_ne_true (hcode.symm.trans h.2.2)

/-- A request takes the next number. -/
theorem numbered_request {code : UInt8} (hcode : isRequest code = true) {data : List UInt8}
    (hfits : data.length ≤ 8) : Numbered s r (r.l2capSendCmdRequest t code data) := by
  have hsmall : ∀ ident,
      tooLarge ([code, ident] ++ put16 (UInt16.ofNat data.length) ++ data) = false := by
    intro ident
    refine decide_eq_false ?_
    simp only [List.length_append, List.length_cons, List.length_nil, length_put16]
    omega
  have hframes : (r.l2capSendCmdRequest t code data).requests s
      = r.requests s ++ if t = s then [r.nextIdent t] else [] := by
    rw [requests, l2capSendCmdRequest, l2capSendCmd, frames_l2capSendFrame, frames_onChannels,
      List.filterMap_append, ← requests, frameOf, hsmall, if_neg Bool.false_ne_true, List.filterMap_cons,
      List.filterMap_nil, Sent.requestIdent?]
    by_cases ht : t = s
    · rw [if_pos ⟨ht, rfl, hcode⟩, if_pos ht]
      rfl
    · rw [if_neg fun h ↦ ht h.1, if_neg ht]
  by_cases ht : t = s
  · subst ht
    refine ⟨1, by rw [hframes, if_pos rfl]; rfl, ?_⟩
    simp [nextIdent, l2capSendCmdRequest, l2capSendCmd]
  · refine .of_eq (by rw [hframes, if_neg ht, List.append_nil]) ?_
    simp [nextIdent, l2capSendCmdRequest, l2capSendCmd, Ne.symm ht]

theorem numbered_l2capSendConnRequest (c : Channel) : Numbered s r (r.l2capSendConnRequest t c) :=
  r.numbered_request t (by decide) (by simp [length_put16])

theorem numbered_l2capSendConfigureMtuRequest (dcid mtuSize : UInt16) :
    Numbered s r (r.l2capSendConfigureMtuRequest t dcid mtuSize) :=
  r.numbered_request t (by decide) (by simp [length_put16])

theorem numbered_setDcid (c : Channel) (d : UInt16) : Numbered s r (r.setDcid t c d) := by
  refine .of_eq rfl ?_
  by_cases ht : s = t <;> simp [nextIdent, setDcid, ht]

theorem numbered_noteIdent (ident : UInt8) : Numbered s r (r.noteIdent t ident) := by
  refine .of_eq rfl ?_
  by_cases ht : s = t <;> simp [nextIdent, noteIdent, ht]

theorem numbered_confRequestChain (c : Channel) : Numbered s r (r.confRequestChain t c) := by
  unfold confRequestChain
  split
  · exact .of_eq rfl rfl
  · split
    · split <;> exact .of_eq rfl rfl
    · exact .of_eq rfl rfl
    · exact r.numbered_l2capSendConnRequest _ _
    · exact r.numbered_l2capSendConnRequest _ _
    · exact .of_eq rfl rfl

end signalling

theorem numbered_command (he : EndsApart s r) {t : ConnectionSide} {cmd : L2capCommand}
    (h : CommandMove r t cmd r') : Numbered s r r' := by
  cases h with
  | @connResponse ident p rsp q hp =>
    refine (r.numbered_noteIdent t ident).trans ?_
    unfold handleConnResponse
    rw [hp]
    dsimp only
    split
    · split
      · exact .of_eq rfl rfl
      · exact (numbered_setDcid _ t _ _).trans (numbered_l2capSendConfigureMtuRequest _ t _ _)
    · exact .of_eq rfl rfl
  | @confResponse ident p rsp q hp =>
    refine (r.numbered_noteIdent t ident).trans ?_
    exact .of_within (A := ∅) (noteIdent_endsApart he t ident) (quiet_handleConfResponse _ t _).within
      (Set.notMem_empty _)
  | @confRequest ident p req q hp =>
    refine (r.numbered_noteIdent t ident).trans ?_
    unfold handleConfRequest
    rw [hp]
    dsimp only
    split
    · exact .of_eq rfl rfl
    · exact (numbered_response _ t (by decide) _ _).trans (numbered_confRequestChain _ t _)
  | @connRequest ident p req q hp =>
    refine (r.numbered_noteIdent t ident).trans ?_
    unfold handleConnRequestL2cap
    rw [hp]
    dsimp only
    split
    · exact numbered_response _ t (by decide) _ _
    · exact ((numbered_setDcid _ t _ _).trans (numbered_response _ t (by decide) _ _)).trans
        (numbered_l2capSendConfigureMtuRequest _ t _ _)
  | @disconnRequest ident p req q hp =>
    refine (r.numbered_noteIdent t ident).trans ?_
    unfold handleDisconnRequest
    rw [hp]
    exact numbered_response _ t (by decide) _ _
  | other h => exact .of_within (A := ∅) he h.within (Set.notMem_empty _)

/-! ## One step -/

theorem numbered_acl (he : EndsApart s r) (t : ConnectionSide) (p : PacketContents) :
    Numbered s r (r.handleAcl t p) := by
  have hacl := acl_command r t p
  revert hacl
  generalize r.handleAcl t p = r'
  generalize (r.commandOf (.acl t p)).map Prod.snd = completed
  intro hacl
  cases hacl with
  | aside h => exact .of_within he h (by simp)
  | @command r₁ r₂ _ cmd h₁ h h₂ hout =>
    have he₁ : EndsApart s r₁ := he.of_within h₁ (by simp)
    have hbefore := (Numbered.of_within he h₁ (by simp)).trans (numbered_command he₁ h)
    have hrequests : r'.requests s = r₂.requests s :=
      congrArg (fun out ↦ (out.filterMap Output.sent?).filterMap (Sent.requestIdent? s)) hout
    exact hbefore.trans (.of_eq hrequests (cmdRequestIdent_eq h₂ s (by simp)))

theorem numbered_handleAuthComplete (he : EndsApart s r) {t : ConnectionSide} {p q : PacketContents}
    {e : EvtAuthComplete} (hp : EvtAuthComplete.get? p = some (e, q)) :
    Numbered s r (r.handleAuthComplete t p) := by
  by_cases hc : t = .toDualsense ∧ e.status = HCI_SUCCESS
  · obtain ⟨rfl, hs⟩ := hc
    have hask : r.handleAuthComplete .toDualsense p = r.l2capSendConnRequest .toDualsense .sdpClient := by
      rw [handleAuthComplete, hp]
      exact if_neg (not_not_intro hs)
    rw [hask]
    exact r.numbered_l2capSendConnRequest _ _
  · have hq := within_handleAuthComplete (A := {.keys}) r t rfl hp fun ht hs ↦ absurd ⟨ht, hs⟩ hc
    exact .of_within he hq (by simp)

theorem numbered_handleEncryptChange (he : EndsApart s r) {t : ConnectionSide} {p q : PacketContents}
    {e : EvtEncryptChange} (hp : EvtEncryptChange.get? p = some (e, q)) :
    Numbered s r (r.handleEncryptChange t p) := by
  unfold handleEncryptChange
  rw [hp]
  dsimp -zeta only
  extract_lets r₁
  have h₁ : Numbered s r r₁ := by
    show Numbered s r (ite _ _ _)
    split
    · exact r.numbered_l2capSendConnRequest _ _
    · exact .of_eq rfl rfl
  have he₁ : EndsApart s r₁ :=
    he.of_within (A := {.signalling t}) (.ite (fun _ ↦ within_l2capSendCmdRequest r t (by rfl) _ _) fun _ ↦ .refl r)
      (by simp)
  split
  · split
    · have hrole : ∀ addr, Performs Op.Quiet r₁ (r₁.requestCentralRole t addr) := fun addr ↦
        quiet_sendCmd r₁ t (by rfl) (addr.bytes ++ [0x00]) "switch role"
      exact h₁.trans (.of_within (A := ∅) he₁ (hrole _).within (Set.notMem_empty _))
    · exact h₁
  · exact .of_eq rfl rfl

theorem numbered_fireInterruptFallback (r : Relay) (t : ConnectionSide) (link : UInt16) :
    Numbered s r (r.fireInterruptFallback t link) := by
  rw [fireInterruptFallback]
  split
  · exact r.numbered_l2capSendConnRequest t _
  · exact .of_eq rfl rfl

/-- **What a step asks for.**  Each request takes the next number. -/
theorem numbered_step (he : EndsApart s r) (i : Input) : Numbered s r (r.step i) := by
  have hm := step_move r i
  have hw := hm.within
  revert hm hw
  generalize r.cause i = cause
  generalize r.step i = r'
  intro hm hw
  cases hm with
  | acl => exact numbered_acl he _ _
  | authComplete hp => exact numbered_handleAuthComplete he hp
  | encryptChange hp => exact numbered_handleEncryptChange he hp
  | @interruptFallback t link k hk =>
    exact (Numbered.of_eq rfl rfl).trans (numbered_fireInterruptFallback (r.unpark k) t link)
  | quiet h => exact .of_within (A := ∅) he h.within (Set.notMem_empty _)
  | _ => exact .of_within he hw (by simp [Cause.aspects])

end Relay

/-! ## A whole run -/

open Relay

/-- No peer names the signalling channel as the end of another one. -/
def NamesApart (r : Relay) (i : Input) : Prop :=
  (r.commandOf (r.cause i)).bind (fun cmd ↦ namedEnd cmd.2) ≠ some L2CAP_CID_SIGNALLING

instance (r : Relay) (i : Input) : Decidable (NamesApart r i) := inferInstanceAs (Decidable (_ ≠ _))

/-- The requests of a run are numbered 1, 2, 3 and so on, by a counter of eight bits. -/
theorem requests_run (cfg : Config) (is : List Input) (s : ConnectionSide)
    (h : Along Relay.step NamesApart (.init cfg) is) :
    ∃ n, (run Relay.step (.init cfg) is).requests s = numbers 1 n := by
  let Inv (r : Relay) : Prop := EndsApart s r ∧ Numbered s (.init cfg) r
  have hstep : ∀ r i, Inv r → NamesApart r i → Inv (r.step i) := by
    rintro r i ⟨he, hnumbered⟩ hi
    refine ⟨(asks_step he i fun cmd hcmd hn ↦ hi ?_).2, hnumbered.trans (numbered_step he i)⟩
    rw [hcmd, Option.bind_some, hn]
  have hinit : Inv (.init cfg) :=
    ⟨fun c ↦ (by decide : (0 : UInt16) ≠ L2CAP_CID_SIGNALLING), .of_eq rfl rfl⟩
  obtain ⟨-, n, hrequests, -⟩ := run_invariant_of_along hinit hstep h
  exact ⟨n, hrequests⟩

/-- **The numbers of the requests.**  They are legal exactly as long as there are no more than 255. -/
theorem requests_legal_iff (cfg : Config) (is : List Input) (s : ConnectionSide)
    (h : Along Relay.step NamesApart (.init cfg) is) :
    LegalIdents ((run Relay.step (.init cfg) is).requests s)
      ↔ ((run Relay.step (.init cfg) is).requests s).length ≤ 255 := by
  obtain ⟨n, hn⟩ := requests_run cfg is s h
  rw [hn, LegalIdents, zero_mem_numbers_iff, length_numbers, Nat.not_lt]
  exact and_iff_left (isChain_numbers 1 n)

/-- The pad's link is encrypted, again and again. -/
def reEncrypted (n : ℕ) : List Input :=
  Input.bringUp .toDualsense ++ List.replicate n (.event .toDualsense EVT_ENCRYPT_CHANGE [HCI_SUCCESS, 1, 0, 1])

theorem requests_legal_encrypted :
    LegalIdents ((run Relay.step (.init .session) (reEncrypted 3)).requests .toDualsense) := by
  refine (requests_legal_iff _ _ _ ?_).mpr ?_ <;> decide +kernel

/-- Each asks for the pad's first channel, which the pad does not open: the 256th request is numbered 0. -/
theorem requests_come_round :
    ¬ LegalIdents ((run Relay.step (.init .session) (reEncrypted 256)).requests .toDualsense) := by
  decide +kernel

end DualSenseMitm
