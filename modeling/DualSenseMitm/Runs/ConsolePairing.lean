import DualSenseMitm.Frames
import DualSenseMitm.Moves

/-!
# Which console a key belongs to

The console's address and its key are kept by both handlers and on disk, and are written by halves.
`PairHistory` is what the trace says about them: the key last established with every console, and
the halves as they were last written.

* `PairHistory.Permits` — a pair that is saved or called with is one that a console established,
  and the newest one of that console.
* `pairsTracked_run` — the handlers hold the halves of the history, so the history knows in advance
  which pair a handler will hand over.
* `console_pairing_integrity` — when the pairs that are handed over are right.
-/

set_option autoImplicit false

namespace DualSenseMitm

open Bytes Machine Relay

/-! ## The history of the pairs -/

/-- What has happened to the console's pairing. -/
structure PairHistory where
  /-- The key last established with each console: by a report 0x0a that carries one, or by a Link Key
  Notification. -/
  latest : BdAddr → Option LinkKey
  /-- The address of the last report 0x0a, and the key of the last one that carried any. -/
  written : Option (BdAddr × LinkKey)
  /-- The address `connect_to_console` last took. -/
  called : BdAddr

namespace PairHistory

/-- What one output says about the pairs. -/
def observe (k : PairHistory) : Output → PairHistory
  | .pairingWritten host key =>
    if key.allZero then { k with written := k.written.map fun p ↦ (host, p.2) }
    else
      { k with
        latest := Function.update k.latest host (some key)
        written := some (host, key) }
  | .keyNotified .toPlaystation addr key =>
    { k with latest := Function.update k.latest addr (some key) }
  | .consoleCalled .toPlaystation addr _ true => { k with called := addr }
  | _ => k

/-- The console at this address established this key, and none since. -/
def Agreed (k : PairHistory) (addr : BdAddr) (key : LinkKey) : Prop :=
  addr.isSet = true ∧ k.latest addr = some key

end PairHistory

/-- The pair an output hands over: to be saved, or to call the console with. -/
def Output.handsOver? : Output → Option (BdAddr × LinkKey)
  | .consolePairing addr key => some (addr, key)
  | .consoleCalled .toPlaystation addr key _ => some (addr, key)
  | _ => none

/-- A pair may be handed over only while it is agreed. -/
def PairHistory.Permits (k : PairHistory) (o : Output) : Prop :=
  ∀ addr key, o.handsOver? = some (addr, key) → k.Agreed addr key

theorem PairHistory.permits_consolePairing (k : PairHistory) (addr : BdAddr) (key : LinkKey) :
    k.Permits (.consolePairing addr key) ↔ k.Agreed addr key :=
  ⟨fun h ↦ h addr key rfl, fun h _ _ ho ↦ by cases ho; exact h⟩

theorem PairHistory.permits_consoleCalled (k : PairHistory) (addr : BdAddr) (key : LinkKey)
    (idle : Bool) :
    k.Permits (.consoleCalled .toPlaystation addr key idle) ↔ k.Agreed addr key :=
  ⟨fun h ↦ h addr key rfl, fun h _ _ ho ↦ by cases ho; exact h⟩

/-- The saved pairing, which a console established in an earlier run. -/
def Config.pairsAtStart (c : Config) : PairHistory where
  latest a := c.consolePairing.bind fun p ↦ if a = p.1 then some p.2 else none
  written := c.consolePairing
  called := {}

/-- The history of the pairs behind a trace. -/
def pairHistory (c : Config) (out : List Output) : PairHistory :=
  run PairHistory.observe c.pairsAtStart out

@[simp] theorem pairHistory_concat (c : Config) (out : List Output) (o : Output) :
    pairHistory c (out ++ [o]) = (pairHistory c out).observe o := run_concat _ _ _ _

/-- Every pair a trace hands over was agreed at that moment. -/
def PairsAgreed (c : Config) (out : List Output) : Prop :=
  Along PairHistory.observe PairHistory.Permits c.pairsAtStart out

theorem pairsAgreed_concat {c : Config} {out : List Output} {o : Output} :
    PairsAgreed c (out ++ [o]) ↔ PairsAgreed c out ∧ (pairHistory c out).Permits o := by
  simp only [PairsAgreed, along_append, Along, and_true]
  rfl

/-- The condition on a step under which the pairs it hands over are agreed. -/
def PairStep (c : Config) (r : Relay) (i : Input) : Prop :=
  let k := pairHistory c r.out
  match r.cause i with
  -- a key is saved under the address that was called, whoever it was negotiated with
  | .event s (.linkKeyNotify e) => s = .toPlaystation →
    k.called.isSet = true ∧ (k.called = e.bdaddr ∨ k.latest k.called = some e.linkKey)
  -- an address and a key may have been written at different times
  | .handover s => s = .toDualsense → ∃ p, k.written = some p ∧ k.Agreed p.1 p.2
  | .ep0 events =>
    r.usb.serving ∧ r.usb.pendingGet = none → ∀ e ∈ events, ∀ report, e.pairingReport? = some report →
      23 ≤ report.length → (LinkKey.read report 7).allZero = false → (BdAddr.read report 1).isSet = true
  | _ => True

/-! ## The handlers hold the halves -/

/-- The members of the handlers are the halves of the history. -/
structure PairsTracked (c : Config) (r : Relay) : Prop where
  seen : (r.h .toDualsense).pairing.consolePairingSeen = (pairHistory c r.out).written.isSome
  pair : ((r.h .toDualsense).pairing.consoleAddr, (r.h .toDualsense).pairing.consoleLinkKey)
    = (pairHistory c r.out).written.getD ({}, default)
  called : (r.h .toPlaystation).pairing.btAddr = (pairHistory c r.out).called

/-- A function keeps the halves, and hands over only agreed pairs exactly when `p`. -/
structure PairsMove (c : Config) (p : Prop) (r r' : Relay) : Prop where
  tracked : PairsTracked c r'
  agreed : PairsAgreed c r'.out ↔ PairsAgreed c r.out ∧ p

theorem PairsMove.congr {c : Config} {p q : Prop} {r r' : Relay} (h : PairsMove c p r r')
    (hpq : p ↔ q) : PairsMove c q r r' := ⟨h.tracked, h.agreed.trans (and_congr_right' hpq)⟩

theorem PairsMove.trans {c : Config} {p q : Prop} {r r' r'' : Relay} (h : PairsMove c p r r')
    (h' : PairsMove c q r' r'') : PairsMove c (p ∧ q) r r'' :=
  ⟨h'.tracked, by rw [h'.agreed, h.agreed, and_assoc]⟩

/-- A handler whose members are written as before, but for those no pair is made of. -/
theorem PairsTracked.of_eq {c : Config} {r r' : Relay} (hk : PairsTracked c r)
    (hout : pairHistory c r'.out = pairHistory c r.out)
    (hseen : (r'.h .toDualsense).pairing.consolePairingSeen
      = (r.h .toDualsense).pairing.consolePairingSeen)
    (haddr : (r'.h .toDualsense).pairing.consoleAddr = (r.h .toDualsense).pairing.consoleAddr)
    (hkey : (r'.h .toDualsense).pairing.consoleLinkKey = (r.h .toDualsense).pairing.consoleLinkKey)
    (hcalled : (r'.h .toPlaystation).pairing.btAddr = (r.h .toPlaystation).pairing.btAddr) :
    PairsTracked c r' where
  seen := by rw [hseen, hout, hk.seen]
  pair := by rw [haddr, hkey, hout, hk.pair]
  called := by rw [hcalled, hout, hk.called]

section performs

variable {A : Set Aspect} {r r' : Relay} (h : Performs (Op.Within A) r r') (hA : .keys ∉ A)
include h hA

/-- What leaves the process without an aspect of keys says nothing about the pairs. -/
theorem pairs_silent : ∃ new, r'.out = r.out ++ new ∧
    ∀ o ∈ new, (∀ k, PairHistory.observe k o = k) ∧ ∀ k, PairHistory.Permits k o := by
  obtain ⟨new, hout, hnew⟩ := h.out
  refine ⟨new, hout, fun o ho ↦ ?_⟩
  have hw := (hnew o ho).within
  cases o with
  | pairingWritten | consoleCalled | keyNotified | consolePairing => exact absurd (hw rfl rfl) hA
  | _ => exact ⟨fun k ↦ rfl, fun k _ _ h ↦ nomatch h⟩

theorem pairHistory_eq (c : Config) : pairHistory c r'.out = pairHistory c r.out := by
  obtain ⟨new, hout, hnew⟩ := pairs_silent h hA
  rw [hout]
  exact run_append_of_silent _ _ fun o ho ↦ (hnew o ho).1

theorem pairsAgreed_iff (c : Config) : PairsAgreed c r'.out ↔ PairsAgreed c r.out := by
  obtain ⟨new, hout, hnew⟩ := pairs_silent h hA
  rw [PairsAgreed, hout]
  exact along_append_of_silent _ _ fun o ho ↦ (hnew o ho).2

end performs

namespace PairsTracked

variable {c : Config} {r : Relay} (hk : PairsTracked c r)
include hk

theorem of_within {A : Set Aspect} {r' : Relay} (h : Performs (Op.Within A) r r')
    (hA : .keys ∉ A) : PairsMove c True r r' := by
  have hp := fun s ↦ pairing_eq h s hA
  refine ⟨hk.of_eq (pairHistory_eq h hA c) ?_ ?_ ?_ ?_, ?_⟩
  · rw [hp]
  · rw [hp]
  · rw [hp]
  · rw [hp]
  · rw [and_true, pairsAgreed_iff h hA]

/-- A report 0x0a hands over a pair exactly when it carries a key, and then that pair. -/
theorem takePairingSet (report : List UInt8) :
    PairsMove c (23 ≤ report.length → (LinkKey.read report 7).allZero = false →
      (BdAddr.read report 1).isSet = true) r (r.takePairingSet .toDualsense report) := by
  unfold Relay.takePairingSet
  by_cases hlen : 23 ≤ report.length
  · rw [if_pos hlen]
    extract_lets key host r₁
    have hmark : PairsAgreed c r₁.out ↔ PairsAgreed c r.out :=
      pairsAgreed_concat.trans (and_iff_left fun _ _ h ↦ nomatch h)
    by_cases hzero : key.allZero = true
    · rw [if_pos hzero]
      have hhist : pairHistory c r₁.out = { pairHistory c r.out with
          written := (pairHistory c r.out).written.map fun p ↦ (host, p.2) } := by
        rw [out_emit, pairHistory_concat, PairHistory.observe, if_pos hzero]
      have hagreed : PairsAgreed c r₁.out ↔ PairsAgreed c r.out ∧ (23 ≤ report.length →
          key.allZero = false → host.isSet = true) :=
        hmark.trans (and_iff_left fun _ h ↦ absurd hzero (by rw [h]; decide)).symm
      have hseen := hk.seen
      have hpair := hk.pair
      split
      · rename_i hs
        obtain ⟨p, hp⟩ : ∃ p, (pairHistory c r.out).written = some p :=
          Option.isSome_iff_exists.mp (hseen ▸ hs)
        rw [hp] at hpair
        refine ⟨⟨?_, ?_, ?_⟩, hagreed⟩
        · rw [out_onPairing, hhist]; simp [hp, r₁, hseen]
        · rw [out_onPairing, hhist]; simpa [hp, r₁] using congrArg Prod.snd hpair
        · rw [out_onPairing, hhist]; simp [r₁, hk.called]
      · rename_i hs
        have hp : (pairHistory c r.out).written = none :=
          Option.not_isSome_iff_eq_none.mp fun h ↦ hs (hseen.trans h)
        refine ⟨hk.of_eq ?_ rfl rfl rfl rfl, hagreed⟩
        rw [hhist, hp, Option.map_none, ← hp]
    · rw [if_neg hzero]
      have hhist : pairHistory c r₁.out = { pairHistory c r.out with
          latest := Function.update (pairHistory c r.out).latest host (some key)
          written := some (host, key) } := by
        rw [out_emit, pairHistory_concat, PairHistory.observe, if_neg hzero]
      have hsaved : ∀ k : PairHistory, k.observe (.consolePairing host key) = k := fun _ ↦ rfl
      refine ⟨⟨?_, ?_, ?_⟩, ?_⟩
      · rw [out_emit, out_onPairing, pairHistory_concat, hsaved, hhist]; simp
      · rw [out_emit, out_onPairing, pairHistory_concat, hsaved, hhist]; simp
      · rw [out_emit, out_onPairing, pairHistory_concat, hsaved, hhist]; simp [r₁, hk.called]
      · rw [out_emit, out_onPairing, pairsAgreed_concat, hmark, hhist]
        rw [PairHistory.permits_consolePairing]
        exact and_congr_right fun _ ↦ ⟨fun h _ _ ↦ h.1, fun h ↦
          ⟨h hlen (Bool.eq_false_iff.mpr hzero), Function.update_self ..⟩⟩
  · rw [if_neg hlen]
    exact ⟨hk, by simp [hlen]⟩

/-- A Link Key Notification hands over a pair on the console's side only. -/
theorem handleLinkKeyNotify (s : ConnectionSide) {p q : PacketContents} {e : EvtLinkKeyNotify}
    (hp : EvtLinkKeyNotify.get? p = some (e, q)) :
    PairsMove c (s = .toPlaystation → (pairHistory c r.out).called.isSet = true ∧
      ((pairHistory c r.out).called = e.bdaddr
        ∨ (pairHistory c r.out).latest (pairHistory c r.out).called = some e.linkKey))
      r (r.handleLinkKeyNotify s p) := by
  unfold Relay.handleLinkKeyNotify
  rw [hp]
  dsimp only
  have hmark : PairsAgreed c (r.out ++ [.keyNotified s e.bdaddr e.linkKey]) ↔ PairsAgreed c r.out :=
    pairsAgreed_concat.trans (and_iff_left fun _ _ h ↦ nomatch h)
  cases s with
  | toDualsense =>
    refine ⟨hk.of_eq ?_ ?_ ?_ ?_ ?_, ?_⟩
    · rw [out_emit, out_onPairing, out_emit, pairHistory_concat, pairHistory_concat]; rfl
    · simp
    · simp
    · simp
    · simp
    · rw [out_emit, out_onPairing, out_emit, pairsAgreed_concat, hmark]
      exact and_congr_right fun _ ↦ ⟨fun _ h ↦ (nomatch h), fun _ _ _ h ↦ (nomatch h)⟩
  | toPlaystation =>
    have hhist : pairHistory c (r.out ++ [.keyNotified .toPlaystation e.bdaddr e.linkKey])
        = { pairHistory c r.out with
            latest := Function.update (pairHistory c r.out).latest e.bdaddr (some e.linkKey) } :=
      pairHistory_concat ..
    have hsaved : ∀ (k : PairHistory) (addr : BdAddr),
        k.observe (.consolePairing addr e.linkKey) = k := fun _ _ ↦ rfl
    refine ⟨⟨?_, ?_, ?_⟩, ?_⟩
    · rw [out_emit, out_onPairing, out_onPairing, out_emit, pairHistory_concat, hsaved, hhist]
      simp [hk.seen]
    · rw [out_emit, out_onPairing, out_onPairing, out_emit, pairHistory_concat, hsaved, hhist]
      simp [hk.pair]
    · rw [out_emit, out_onPairing, out_onPairing, out_emit, pairHistory_concat, hsaved, hhist]
      simp [hk.called]
    · rw [out_emit, out_onPairing, out_onPairing, out_emit, pairsAgreed_concat, hmark, hhist]
      refine and_congr_right fun _ ↦ ?_
      have hagreed : ∀ addr,
          PairHistory.Agreed { pairHistory c r.out with
              latest := Function.update (pairHistory c r.out).latest e.bdaddr (some e.linkKey) }
            addr e.linkKey
          ↔ addr.isSet = true
              ∧ (addr = e.bdaddr ∨ (pairHistory c r.out).latest addr = some e.linkKey) := by
        intro addr
        refine and_congr_right fun _ ↦ ?_
        by_cases ha : addr = e.bdaddr
        · simp [ha]
        · simp [ha]
      rw [PairHistory.permits_consolePairing, ← hagreed, ← hk.called]
      simp

/-- A failed authentication says nothing about the console's pairing. -/
theorem handleAuthComplete (s : ConnectionSide) (p : PacketContents) :
    PairsMove c True r (r.handleAuthComplete s p) := by
  have hsilent : ∀ r' o, PairsMove c True r r' → (∀ k, PairHistory.observe k o = k) →
      o.handsOver? = none → PairsMove c True r (r'.emit o) := by
    intro r' o h ho hnone
    refine ⟨h.tracked.of_eq ?_ rfl rfl rfl rfl, ?_⟩
    · rw [out_emit, pairHistory_concat, ho]
    · rw [out_emit, pairsAgreed_concat, h.agreed]
      exact and_iff_left fun _ _ h ↦ by rw [hnone] at h; cases h
  have hrefl : PairsMove c True r r := ⟨hk, (and_true _).symm.to_iff⟩
  unfold Relay.handleAuthComplete
  split
  · exact hrefl
  · extract_lets r₁ r₂
    have h₁ : PairsMove c True r r₁ := hsilent r _ hrefl (fun _ ↦ rfl) rfl
    have h₂ : PairsMove c True r r₂ := by
      refine ⟨h₁.tracked.of_eq rfl ?_ ?_ ?_ ?_, h₁.agreed⟩
      all_goals simp only [r₂, h_onPairing]; split <;> rfl
    split
    · split
      · split
        · split
          · exact hsilent r₂ _ h₂ (fun _ ↦ rfl) rfl
          · exact h₂
        · exact h₁
      · exact hrefl
    · cases s with
      | toPlaystation => exact hk.of_within (A := ∅) (quiet_sendCmd r _ rfl _ _).within (by simp)
      | toDualsense =>
        exact hk.of_within (within_l2capSendCmdRequest r _ (Set.mem_singleton _) _ _) (by simp)

/-- A call hands over the pair it is made with. -/
theorem connectToConsole (s : ConnectionSide) (addr : BdAddr) (key : LinkKey) :
    PairsMove c (s = .toPlaystation → (pairHistory c r.out).Agreed addr key) r
      (r.connectToConsole s addr key) := by
  have hagreed : ∀ idle, PairsAgreed c (r.out ++ [.consoleCalled s addr key idle])
      ↔ PairsAgreed c r.out ∧ (s = .toPlaystation → (pairHistory c r.out).Agreed addr key) := by
    intro idle
    rw [pairsAgreed_concat]
    cases s with
    | toPlaystation => simp [PairHistory.permits_consoleCalled]
    | toDualsense => simp [PairHistory.Permits, Output.handsOver?]
  by_cases h : s = .toPlaystation ∧ (r.h s).links.connectionHandle = 0
  · obtain ⟨rfl, h⟩ := h
    have hhist : pairHistory c (r.out ++ [.consoleCalled .toPlaystation addr key true])
        = { pairHistory c r.out with called := addr } := pairHistory_concat ..
    have hhead : PairsMove c (ConnectionSide.toPlaystation = .toPlaystation →
        (pairHistory c r.out).Agreed addr key) r
        ((r.emit (.consoleCalled .toPlaystation addr key true)).onPairing .toPlaystation
          fun p ↦ { p with linkKey := some key, consoleAddr := addr, btAddr := addr }) := by
      refine ⟨⟨?_, ?_, ?_⟩, hagreed true⟩
      · rw [out_onPairing, out_emit, hhist]; simp [hk.seen]
      · rw [out_onPairing, out_emit, hhist]; simp [hk.pair]
      · rw [out_onPairing, out_emit, hhist]; simp
    have htail := hhead.tracked.of_within
      (A := {.calling .toPlaystation, .scanning .toPlaystation})
      (connectToConsole_of_idle r (by simp) (by simp) h addr key) (by simp)
    exact (hhead.trans htail).congr (and_iff_left trivial)
  · rw [connectToConsole_of_busy r s h addr key]
    refine ⟨hk.of_eq ?_ rfl rfl rfl rfl, hagreed _⟩
    rw [out_emit, pairHistory_concat]
    cases s with
    | toDualsense => rfl
    | toPlaystation =>
      have hbusy : ((r.h .toPlaystation).links.connectionHandle == 0) = false :=
        beq_eq_false_iff_ne.mpr fun hb ↦ h ⟨rfl, hb⟩
      rw [hbusy]
      rfl

/-- The handover calls with the halves. -/
theorem fireHandover (s : ConnectionSide) :
    PairsMove c (s = .toDualsense → ∃ p, (pairHistory c r.out).written = some p
      ∧ (pairHistory c r.out).Agreed p.1 p.2) r (r.fireHandover s) := by
  have hquiet : Performs (Op.Within {.endpoints, .reports}) r r.disableGadget :=
    within_disableGadget r (by simp) (by simp)
  have hdetach := hk.of_within hquiet (by simp)
  refine (hdetach.trans (hdetach.tracked.connectToConsole _ _ _)).congr ?_
  rw [true_and]
  cases s with
  | toPlaystation => exact iff_of_true (fun h ↦ nomatch h) fun h ↦ nomatch h
  | toDualsense =>
    have hpair := hdetach.tracked.pair
    rw [pairHistory_eq hquiet (by simp) c] at hpair ⊢
    refine imp_congr (iff_of_true rfl rfl) ?_
    cases hw : (pairHistory c r.out).written with
    | none =>
      rw [hw] at hpair
      obtain ⟨haddr, -⟩ := Prod.mk.inj hpair
      refine iff_of_false (fun h ↦ ?_) fun h ↦ nomatch h.choose_spec.1
      rw [haddr] at h
      exact absurd h.1 (by decide)
    | some p =>
      rw [hw] at hpair
      obtain ⟨haddr, hkey⟩ := Prod.mk.inj hpair
      rw [haddr, hkey]
      exact ⟨fun h ↦ ⟨p, rfl, h⟩, fun ⟨_, hq, h⟩ ↦ by cases hq; exact h⟩

/-- One read of ep0 hands over what its reports 0x0a carry. -/
theorem readEp0 (events : List UsbEvent) :
    PairsMove c (r.usb.serving ∧ r.usb.pendingGet = none → ∀ e ∈ events, ∀ report,
      e.pairingReport? = some report → 23 ≤ report.length →
        (LinkKey.read report 7).allZero = false → (BdAddr.read report 1).isSet = true)
      r (r.readEp0 events) := by
  let ok (e : UsbEvent) : Prop := ∀ report, e.pairingReport? = some report → 23 ≤ report.length →
    (LinkKey.read report 7).allZero = false → (BdAddr.read report 1).isSet = true
  have hevent : ∀ r e, PairsTracked c r → PairsMove c (ok e) r (r.handleUsbEvent e) := by
    intro r e hk
    have hm := usb_move r e
    generalize r.handleUsbEvent e = t at hm
    rcases hreport : e.pairingReport? with _ | report
    · refine (hk.of_within (hm.within_of_none hreport) (by simp)).congr
        (iff_of_true trivial fun report hr' ↦ ?_)
      rw [hreport] at hr'
      cases hr'
    · rw [hm.eq_of_some hreport]
      refine (hk.takePairingSet _).congr ⟨fun h report' hr' ↦ ?_, fun h ↦ h _ hreport⟩
      rw [← Option.some.inj (hreport.symm.trans hr')]
      exact h
  unfold Relay.readEp0
  by_cases hread : r.usb.serving ∧ r.usb.pendingGet = none
  · rw [if_pos hread]
    change PairsMove c _ r (run handleUsbEvent r events)
    refine ⟨run_invariant events hk fun r e hk ↦ (hevent r e hk).tracked, ?_⟩
    have hrun : PairsAgreed c (run handleUsbEvent r events).out
        ↔ PairsAgreed c r.out ∧ Along handleUsbEvent (fun _ e ↦ ok e) r events :=
      run_iff_along (P := fun r ↦ PairsAgreed c r.out) hk
        (fun r e hk ↦ (hevent r e hk).tracked) fun r e hk ↦ (hevent r e hk).agreed
    rw [hrun, along_const]
    exact and_congr_right fun _ ↦ ⟨fun h _ ↦ h, fun h ↦ h hread⟩
  · rw [if_neg hread]
    exact ⟨hk, (and_iff_left fun h ↦ absurd h hread).symm⟩

/-- A step of the relay. -/
theorem step (i : Input) : PairsMove c (PairStep c r i) r (r.step i) := by
  have hm := step_move r i
  have hw := hm.within
  unfold PairStep
  revert hm hw
  generalize r.cause i = cause
  generalize r.step i = t
  intro hm hw
  cases hm with
  | linkKeyNotify hp =>
    exact hk.handleLinkKeyNotify _ hp
  | authComplete hp => exact hk.handleAuthComplete _ _
  | handover hp =>
    rename_i s k
    have hunpark := hk.of_within (A := ∅) (quiet_unpark r hp nofun).within (by simp)
    exact (hunpark.trans (hunpark.tracked.fireHandover s)).congr (and_iff_right trivial)
  | ep0 => exact hk.readEp0 _
  | quiet h hc =>
    have hquiet := hk.of_within (A := ∅) h.within (by simp)
    cases cause with
    | event s e =>
      cases e with
      | linkKeyNotify => exact absurd hc (Set.singleton_ne_empty _)
      | _ => exact hquiet
    | handover => exact absurd hc (Set.insert_nonempty _ _).ne_empty
    | ep0 => exact absurd hc (Set.insert_nonempty _ _).ne_empty
    | _ => exact hquiet
  | acl => exact hk.of_within hw (by simp [Cause.aspects, aclAspects])
  | _ => exact hk.of_within hw (by simp [Cause.aspects])

end PairsTracked

/-- The handlers hold the halves of the history, wherever a run ends. -/
theorem pairsTracked_run (c : Config) (is : List Input) :
    PairsTracked c (run step (.init c) is) := by
  refine run_invariant is ?_ fun r i hr ↦ (hr.step i).tracked
  rcases hp : c.consolePairing with _ | ⟨addr, key⟩ <;> refine ⟨?_, ?_, ?_⟩ <;>
    simp [Relay.init, Config.handler, Config.pairing, pairHistory, Config.pairsAtStart, hp]

/-- **When the pairs that are handed over are right.**  Every pair that a run saves or calls the
console with is, at that moment, the one its console established last, exactly when every step of
the run meets `PairStep`. -/
theorem console_pairing_integrity (c : Config) (is : List Input) :
    PairsAgreed c (run step (.init c) is).out ↔ Along step (PairStep c) (.init c) is := by
  have hrun : PairsAgreed c (run step (.init c) is).out
      ↔ PairsAgreed c (Relay.init c).out ∧ Along step (PairStep c) (.init c) is :=
    run_iff_along (P := fun r ↦ PairsAgreed c r.out) (pairsTracked_run c [])
      (fun r i hr ↦ (hr.step i).tracked) fun r i hr ↦ (hr.step i).agreed
  exact hrun.trans (and_iff_right trivial)

/-- The saved console calls in before it was ever called, and pairs anew: its key is saved for an
address of all zeros. -/
theorem console_pairing_integrity_called_first :
    let console : BdAddr := ⟨1, 2, 3, 4, 5, 6⟩
    let c : Config := { dsAddr := ⟨6, 5, 4, 3, 2, 1⟩, consolePairing := some (console, default) }
    let key := List.replicate 16 (7 : UInt8)
    ¬ PairsAgreed c (run step (.init c) (Input.bringUp .toPlaystation ++
      [.event .toPlaystation EVT_LINK_KEY_NOTIFY (console.bytes ++ key ++ [5])])).out := by
  intro console c key
  let notified := Input.event .toPlaystation EVT_LINK_KEY_NOTIFY (console.bytes ++ key ++ [5])
  have hstep := (pairsTracked_run c (Input.bringUp .toPlaystation)).step notified
  refine mt hstep.agreed.mp (mt And.right fun h ↦ ?_)
  exact absurd (h rfl).1 (by decide)

end DualSenseMitm
