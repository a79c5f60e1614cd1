import DualSenseMitm.Lib.CheckedReads
import DualSenseMitm.Relay

/-!
# What one run leaves for the next

`main` loads two files before it builds the handlers, and the handlers' callbacks write them.  Nobody looks
how much of a write the disk has taken, and a file that was not written whole is not read.

* `Config.load` — what `main` starts with, and `Disk.take` — what a callback makes of the files.
* `loadState_eq_some_iff`, `loadConsolePairing_eq_some_iff` — what is read is what has been written.
* `loaded_was_saved` — over any runs, a key that is loaded was saved as a whole, and for this pad.
* `bonds_survive` — when the disk takes every write, runs of one pad go on where the last one ended.
-/

set_option autoImplicit false

namespace DualSenseMitm

open Bytes Machine

/-! ## The files -/

/-- `LINK_KEY_FILE` and `CONSOLE_KEY_FILE`. -/
structure Disk where
  linkKeyFile : Option (List UInt8) := none
  consoleKeyFile : Option (List UInt8) := none

/-- `SavedState`. -/
structure SavedState where
  linkKey : LinkKey
  dsAddr : BdAddr

/-- What `save_state` writes. -/
def saveState (st : SavedState) : List UInt8 := st.linkKey.val ++ st.dsAddr.bytes

/-- `load_state`. -/
def loadState (file : Option (List UInt8)) : Option SavedState :=
  file.bind fun f ↦ if 22 ≤ f.length then some ⟨.read f 0, .read f 16⟩ else none

/-- What `save_console_pairing` writes. -/
def saveConsolePairing (pairing : BdAddr × LinkKey) (controller : BdAddr) : List UInt8 :=
  pairing.2.val ++ pairing.1.bytes ++ controller.bytes

/-- `load_console_pairing`: not that of another controller. -/
def loadConsolePairing (file : Option (List UInt8)) (controller : BdAddr) : Option (BdAddr × LinkKey) :=
  file.bind fun f ↦
    if 28 ≤ f.length ∧ BdAddr.read f 22 = controller then some (.read f 16, .read f 0) else none

/-- What `main` starts with: the arguments and the adapters give `c`, the files the rest. -/
def Config.load (c : Config) (d : Disk) : Config :=
  let c :=
    match loadState d.linkKeyFile with
    | some st => { c with dsAddr := st.dsAddr, linkKey := some st.linkKey }
    | none => { c with linkKey := none }
  { c with consolePairing := loadConsolePairing d.consoleKeyFile c.dsAddr }

/-- A file behind a write: unchanged, if it could not be opened, or as much as the disk has taken. -/
def store (taken : Option ℕ) (contents : List UInt8) (file : Option (List UInt8)) : Option (List UInt8) :=
  match taken with
  | none => file
  | some n => some (contents.take n)

/-- The callbacks `main` sets. -/
def Disk.take (dsAddr : BdAddr) (d : Disk) (taken : Option ℕ) : Output → Disk
  | .linkKeySaved key => { d with linkKeyFile := store taken (saveState ⟨key, dsAddr⟩) d.linkKeyFile }
  | .linkKeyRejected => { d with linkKeyFile := if taken.isSome then none else d.linkKeyFile }
  | .consolePairing addr key =>
    { d with consoleKeyFile := store taken (saveConsolePairing (addr, key) dsAddr) d.consoleKeyFile }
  | _ => d

/-- One run of the program. -/
structure Launch where
  /-- The arguments, the adapters and the surroundings. -/
  config : Config
  inputs : List Input
  /-- How much the disk takes of the `n`-th thing that leaves the process; none if the file cannot be
  opened, or removed. -/
  taken : ℕ → Option ℕ

namespace Launch

/-- The pad of a run. -/
def pad (s : Launch) (d : Disk) : BdAddr := (s.config.load d).dsAddr

/-- What leaves the process. -/
def out (s : Launch) (d : Disk) : List Output := (run Relay.step (.init (s.config.load d)) s.inputs).out

/-- The files behind a run. -/
def leave (d : Disk) (s : Launch) : Disk :=
  (s.out d).zipIdx.foldl (fun left o ↦ left.take (s.pad d) (s.taken o.2) o.1) d

end Launch

/-! ## What is read is what has been written -/

theorem slice_append (b : List UInt8) (off m n : ℕ) : slice b off (m + n) = slice b off m ++ slice b (off + m) n := by
  rw [slice, slice, slice, List.range_add, List.map_append, List.map_map]
  congr 2
  funext i
  rw [Function.comp_apply, Nat.add_assoc]

theorem slice_eq_take {b : List UInt8} {n : ℕ} (h : n ≤ b.length) : slice b 0 n = b.take n :=
  slice_eq_take_drop (by rwa [Nat.zero_add])

theorem bytes_read (b : List UInt8) (off : ℕ) : (BdAddr.read b off).bytes = slice b off 6 := rfl

theorem LinkKey.length_val (key : LinkKey) : key.val.length = 16 := key.property

theorem BdAddr.read_append (key : LinkKey) (addr : BdAddr) (rest : List UInt8) :
    BdAddr.read (key.val ++ (addr.bytes ++ rest)) 16 = addr := by
  have hbyte : ∀ i, byteAt (key.val ++ (addr.bytes ++ rest)) (16 + i) = byteAt (addr.bytes ++ rest) i := by
    intro i
    have hskip := byteAt_append_right key.val (addr.bytes ++ rest) i
    rwa [key.length_val] at hskip
  rw [BdAddr.read, hbyte 1, hbyte 2, hbyte 3, hbyte 4, hbyte 5, show byteAt _ 16 = _ from hbyte 0]
  rfl

theorem LinkKey.read_append (key : LinkKey) (rest : List UInt8) : LinkKey.read (key.val ++ rest) 0 = key := by
  refine Subtype.ext ?_
  show slice (key.val ++ rest) 0 16 = key.val
  have hlen : 16 ≤ (key.val ++ rest).length := by
    rw [List.length_append, key.length_val]
    omega
  rw [slice_eq_take hlen]
  exact List.take_left' key.length_val

theorem length_saveState (st : SavedState) : (saveState st).length = 22 := by
  rw [saveState, List.length_append, st.linkKey.length_val]
  rfl

theorem length_saveConsolePairing (pairing : BdAddr × LinkKey) (controller : BdAddr) :
    (saveConsolePairing pairing controller).length = 28 := by
  rw [saveConsolePairing, List.length_append, List.length_append, pairing.2.length_val]
  rfl

theorem loadState_eq_some_iff {file : Option (List UInt8)} {st : SavedState} :
    loadState file = some st ↔ ∃ rest, file = some (saveState st ++ rest) := by
  constructor
  · intro h
    obtain ⟨f, rfl, hst⟩ := Option.bind_eq_some_iff.mp h
    by_cases hlen : 22 ≤ f.length
    · rw [if_pos hlen] at hst
      refine ⟨f.drop 22, congrArg some ?_⟩
      have hwritten : saveState st = f.take 22 := by
        rw [← Option.some.inj hst, saveState, bytes_read, ← slice_eq_take hlen]
        exact (slice_append f 0 16 6).symm
      rw [hwritten, List.take_append_drop]
    · rw [if_neg hlen] at hst
      cases hst
  · rintro ⟨rest, rfl⟩
    have hlen : 22 ≤ (saveState st ++ rest).length := by
      rw [List.length_append, length_saveState]
      omega
    rw [loadState, Option.bind_some, if_pos hlen, saveState, List.append_assoc, LinkKey.read_append,
      BdAddr.read_append]

theorem loadConsolePairing_eq_some_iff {file : Option (List UInt8)} {controller : BdAddr}
    {pairing : BdAddr × LinkKey} :
    loadConsolePairing file controller = some pairing
      ↔ ∃ rest, file = some (saveConsolePairing pairing controller ++ rest) := by
  constructor
  · intro h
    obtain ⟨f, rfl, hp⟩ := Option.bind_eq_some_iff.mp h
    by_cases hread : 28 ≤ f.length ∧ BdAddr.read f 22 = controller
    · rw [if_pos hread] at hp
      obtain ⟨hlen, rfl⟩ := hread
      refine ⟨f.drop 28, congrArg some ?_⟩
      have hwritten : saveConsolePairing pairing (.read f 22) = f.take 28 := by
        rw [← Option.some.inj hp, saveConsolePairing, bytes_read, bytes_read, ← slice_eq_take hlen]
        rw [show (28 : ℕ) = 16 + 6 + 6 from rfl, slice_append, slice_append]
        rfl
      rw [hwritten, List.take_append_drop]
    · rw [if_neg hread] at hp
      cases hp
  · rintro ⟨rest, rfl⟩
    obtain ⟨addr, key⟩ := pairing
    have hlen : 28 ≤ (saveConsolePairing (addr, key) controller ++ rest).length := by
      rw [List.length_append, length_saveConsolePairing]
      omega
    have hcontroller : BdAddr.read (saveConsolePairing (addr, key) controller ++ rest) 22 = controller := by
      have hfront : (key.val ++ addr.bytes).length = 22 := by
        rw [List.length_append, key.length_val]
        rfl
      have hbyte : ∀ i, byteAt (key.val ++ addr.bytes ++ (controller.bytes ++ rest)) (22 + i)
          = byteAt (controller.bytes ++ rest) i := by
        intro i
        rw [← hfront, byteAt_append_right]
      rw [saveConsolePairing, List.append_assoc _ _ rest, BdAddr.read, hbyte 1, hbyte 2, hbyte 3, hbyte 4, hbyte 5,
        show byteAt _ 22 = _ from hbyte 0]
      rfl
    rw [loadConsolePairing, Option.bind_some, if_pos ⟨hlen, hcontroller⟩, saveConsolePairing, List.append_assoc,
      List.append_assoc, LinkKey.read_append, BdAddr.read_append]

theorem loadState_saveState (st : SavedState) : loadState (some (saveState st)) = some st :=
  loadState_eq_some_iff.mpr ⟨[], by rw [List.append_nil]⟩

theorem loadConsolePairing_saveConsolePairing (pairing : BdAddr × LinkKey) (controller : BdAddr) :
    loadConsolePairing (some (saveConsolePairing pairing controller)) controller = some pairing :=
  loadConsolePairing_eq_some_iff.mpr ⟨[], by rw [List.append_nil]⟩

/-- A write of a fixed size that has left as much as another would is that other one. -/
theorem eq_of_take_eq_append {w w' rest : List UInt8} {n : ℕ} (hlen : w.length = w'.length)
    (h : w.take n = w' ++ rest) : w = w' := by
  have hsum := congrArg List.length h
  rw [List.length_take, List.length_append] at hsum
  obtain rfl : rest = [] := List.eq_nil_of_length_eq_zero (by omega)
  rwa [List.append_nil, List.take_of_length_le (by omega)] at h

/-- A key that a write has left was written whole, or was there before. -/
theorem loadState_store {taken : Option ℕ} {st st' : SavedState} {file : Option (List UInt8)}
    (h : loadState (store taken (saveState st) file) = some st') : st' = st ∨ loadState file = some st' := by
  cases taken with
  | none => exact .inr h
  | some n =>
    obtain ⟨rest, hfile⟩ := loadState_eq_some_iff.mp h
    have hwritten : (saveState st).take n = saveState st' ++ rest := Option.some.inj hfile
    have hwhole : saveState st = saveState st' :=
      eq_of_take_eq_append (by rw [length_saveState, length_saveState]) hwritten
    have hread := loadState_saveState st
    rw [hwhole, loadState_saveState] at hread
    exact .inl (Option.some.inj hread)

theorem loadConsolePairing_store {taken : Option ℕ} {pairing pairing' : BdAddr × LinkKey}
    {controller controller' : BdAddr} {file : Option (List UInt8)}
    (h : loadConsolePairing (store taken (saveConsolePairing pairing controller) file) controller' = some pairing') :
    controller' = controller ∧ pairing' = pairing ∨ loadConsolePairing file controller' = some pairing' := by
  cases taken with
  | none => exact .inr h
  | some n =>
    obtain ⟨rest, hfile⟩ := loadConsolePairing_eq_some_iff.mp h
    have hwritten : (saveConsolePairing pairing controller).take n
        = saveConsolePairing pairing' controller' ++ rest := Option.some.inj hfile
    have hwhole : saveConsolePairing pairing controller = saveConsolePairing pairing' controller' :=
      eq_of_take_eq_append (by rw [length_saveConsolePairing, length_saveConsolePairing]) hwritten
    -- the address of the controller is the tail of what was written
    have hcontroller : controller' = controller := by
      have hbytes := congrArg (List.drop 22) hwhole
      have hdrop : ∀ p a, (saveConsolePairing p a).drop 22 = a.bytes := fun p a ↦ by
        refine List.drop_left' ?_
        rw [List.length_append, p.2.length_val]
        rfl
      rw [hdrop, hdrop] at hbytes
      rw [← BdAddr.read_bytes_append controller [], ← BdAddr.read_bytes_append controller' [], hbytes]
    subst hcontroller
    have hsame := loadConsolePairing_saveConsolePairing pairing controller'
    rw [hwhole, loadConsolePairing_saveConsolePairing] at hsame
    exact .inl ⟨rfl, Option.some.inj hsame⟩

/-! ## Where a key comes from -/

/-- Before the runs, or from one of them for this pad. -/
def KeyOrigin (d : Disk) (launches : List Launch) (st : SavedState) : Prop :=
  loadState d.linkKeyFile = some st
    ∨ ∃ pre s, pre ++ [s] <+: launches ∧ s.pad (run Launch.leave d pre) = st.dsAddr
      ∧ .linkKeySaved st.linkKey ∈ s.out (run Launch.leave d pre)

/-- The same of a pairing with the console. -/
def PairingOrigin (d : Disk) (launches : List Launch) (controller : BdAddr) (pairing : BdAddr × LinkKey) : Prop :=
  loadConsolePairing d.consoleKeyFile controller = some pairing
    ∨ ∃ pre s, pre ++ [s] <+: launches ∧ s.pad (run Launch.leave d pre) = controller
      ∧ .consolePairing pairing.1 pairing.2 ∈ s.out (run Launch.leave d pre)

namespace Launch

variable {s : Launch} {d : Disk}

/-- What the callbacks keep is kept by a run. -/
theorem leave_invariant (Inv : Disk → Prop) (h : Inv d)
    (htake : ∀ left taken o, o ∈ s.out d → Inv left → Inv (left.take (s.pad d) taken o)) : Inv (s.leave d) := by
  have hall : ∀ os : List (Output × ℕ), (∀ o ∈ os, o.1 ∈ s.out d) → ∀ left, Inv left →
      Inv (os.foldl (fun left o ↦ left.take (s.pad d) (s.taken o.2) o.1) left) := by
    intro os
    induction os with
    | nil => exact fun _ _ hleft ↦ hleft
    | cons o os ih =>
      intro hos left hleft
      exact ih (fun o' ho' ↦ hos o' (List.mem_cons_of_mem _ ho')) _
        (htake left _ o.1 (hos o List.mem_cons_self) hleft)
  exact hall _ (fun o ho ↦ List.fst_mem_of_mem_zipIdx ho) d h

theorem loadState_leave {st : SavedState} (h : loadState (s.leave d).linkKeyFile = some st) :
    loadState d.linkKeyFile = some st ∨ s.pad d = st.dsAddr ∧ .linkKeySaved st.linkKey ∈ s.out d := by
  have hinv := leave_invariant (s := s) (d := d) (fun left ↦ ∀ st, loadState left.linkKeyFile = some st →
    loadState d.linkKeyFile = some st ∨ s.pad d = st.dsAddr ∧ .linkKeySaved st.linkKey ∈ s.out d)
    (fun _ hst ↦ .inl hst)
  refine hinv (fun left taken o ho hleft st hst ↦ ?_) st h
  cases o with
  | linkKeySaved key =>
    rcases loadState_store hst with rfl | hst
    · exact .inr ⟨rfl, ho⟩
    · exact hleft st hst
  | linkKeyRejected =>
    cases taken with
    | none => exact hleft st hst
    | some => cases hst
  | _ => exact hleft st hst

theorem loadConsolePairing_leave {controller : BdAddr} {pairing : BdAddr × LinkKey}
    (h : loadConsolePairing (s.leave d).consoleKeyFile controller = some pairing) :
    loadConsolePairing d.consoleKeyFile controller = some pairing
      ∨ s.pad d = controller ∧ .consolePairing pairing.1 pairing.2 ∈ s.out d := by
  have hinv := leave_invariant (s := s) (d := d) (fun left ↦
    ∀ pairing, loadConsolePairing left.consoleKeyFile controller = some pairing →
      loadConsolePairing d.consoleKeyFile controller = some pairing
        ∨ s.pad d = controller ∧ .consolePairing pairing.1 pairing.2 ∈ s.out d)
    (fun _ hp ↦ .inl hp)
  refine hinv (fun left taken o ho hleft pairing hp ↦ ?_) pairing h
  cases o with
  | consolePairing addr key =>
    rcases loadConsolePairing_store hp with ⟨rfl, rfl⟩ | hp
    · exact .inr ⟨rfl, ho⟩
    · exact hleft pairing hp
  | _ => exact hleft pairing hp

end Launch

/-- **A key that is loaded was saved.**  Whatever the disk has taken of the writes, and wherever the runs have
ended, `main` starts with a key or a pairing only if it was read from the files there were at first, or an
earlier run for the same pad saved just that. -/
theorem loaded_was_saved (d : Disk) (launches : List Launch) (c : Config) :
    let now := c.load (run Launch.leave d launches)
    (∀ key, now.linkKey = some key → KeyOrigin d launches ⟨key, now.dsAddr⟩)
      ∧ ∀ pairing, now.consolePairing = some pairing → PairingOrigin d launches now.dsAddr pairing := by
  have hkeys : ∀ st, loadState (run Launch.leave d launches).linkKeyFile = some st → KeyOrigin d launches st := by
    induction launches using List.reverseRecOn with
    | nil => exact fun _ hst ↦ .inl hst
    | append_singleton pre s ih =>
      intro st hst
      rw [run_concat] at hst
      rcases Launch.loadState_leave hst with hst | ⟨hpad, hsaved⟩
      · refine (ih st hst).imp_right ?_
        rintro ⟨pre', s', hpre, hs'⟩
        exact ⟨pre', s', hpre.trans (List.prefix_append _ _), hs'⟩
      · exact .inr ⟨pre, s, List.prefix_rfl, hpad, hsaved⟩
  have hpairings : ∀ a p, loadConsolePairing (run Launch.leave d launches).consoleKeyFile a = some p →
      PairingOrigin d launches a p := by
    clear hkeys
    induction launches using List.reverseRecOn with
    | nil => exact fun _ _ hp ↦ .inl hp
    | append_singleton pre s ih =>
      intro a p hp
      rw [run_concat] at hp
      rcases Launch.loadConsolePairing_leave hp with hp | ⟨hpad, hsaved⟩
      · refine (ih a p hp).imp_right ?_
        rintro ⟨pre', s', hpre, hs'⟩
        exact ⟨pre', s', hpre.trans (List.prefix_append _ _), hs'⟩
      · exact .inr ⟨pre, s, List.prefix_rfl, hpad, hsaved⟩
  refine ⟨fun key hkey ↦ ?_, fun pairing hp ↦ hpairings _ pairing hp⟩
  cases hload : loadState (run Launch.leave d launches).linkKeyFile with
  | none =>
    have hnone : (c.load (run Launch.leave d launches)).linkKey = none := by
      rw [Config.load, hload]
    rw [hnone] at hkey
    cases hkey
  | some st =>
    have hboth : (c.load (run Launch.leave d launches)).linkKey = some st.linkKey
        ∧ (c.load (run Launch.leave d launches)).dsAddr = st.dsAddr := by
      rw [Config.load, hload]
      exact ⟨rfl, rfl⟩
    obtain rfl : st.linkKey = key := Option.some.inj (hboth.1.symm.trans hkey)
    rw [hboth.2]
    exact hkeys st hload

/-! ## What is remembered -/

/-- The pad's key and the console's pairing, as they should outlive a run. -/
structure Bonds where
  key : Option LinkKey := none
  pairing : Option (BdAddr × LinkKey) := none
deriving DecidableEq

namespace Bonds

/-- What leaves the process changes them. -/
def take (b : Bonds) : Output → Bonds
  | .linkKeySaved key => { b with key := some key }
  | .linkKeyRejected => { b with key := none }
  | .consolePairing addr key => { b with pairing := some (addr, key) }
  | _ => b

/-- A run changes them. -/
def note (b : Bonds) (d : Disk) (s : Launch) : Bonds := (s.out d).foldl take b

end Bonds

/-- The files hold the bonds of a pad. -/
def Disk.Holds (d : Disk) (pad : BdAddr) (b : Bonds) : Prop :=
  loadState d.linkKeyFile = b.key.map (⟨·, pad⟩) ∧ loadConsolePairing d.consoleKeyFile pad = b.pairing

/-- A run that is asked for this pad, on a disk that takes every write as a whole. -/
def Launch.Kept (pad : BdAddr) (s : Launch) : Prop :=
  s.config.dsAddr = pad ∧ ∀ n, ∃ m, 28 ≤ m ∧ s.taken n = some m

/-- What takes nothing else gets all of it. -/
theorem store_of_le {m : ℕ} {contents : List UInt8} (file : Option (List UInt8)) (h : contents.length ≤ m) :
    store (some m) contents file = some contents := congrArg some (List.take_of_length_le h)

namespace Disk

variable {d : Disk} {pad : BdAddr} {b : Bonds}

/-- A write that is whole keeps the files to the bonds. -/
theorem Holds.take (h : d.Holds pad b) {m : ℕ} (hm : 28 ≤ m) (o : Output) :
    (d.take pad (some m) o).Holds pad (b.take o) := by
  obtain ⟨hkey, hpairing⟩ := h
  cases o with
  | linkKeySaved key =>
    have hwhole : store (some m) (saveState ⟨key, pad⟩) d.linkKeyFile = some (saveState ⟨key, pad⟩) :=
      store_of_le _ (by rw [length_saveState]; omega)
    have hload : loadState (store (some m) (saveState ⟨key, pad⟩) d.linkKeyFile) = some ⟨key, pad⟩ := by
      rw [hwhole, loadState_saveState]
    exact ⟨hload, hpairing⟩
  | linkKeyRejected => exact ⟨rfl, hpairing⟩
  | consolePairing addr key =>
    have hwhole : store (some m) (saveConsolePairing (addr, key) pad) d.consoleKeyFile
        = some (saveConsolePairing (addr, key) pad) :=
      store_of_le _ (by rw [length_saveConsolePairing]; omega)
    have hload : loadConsolePairing (store (some m) (saveConsolePairing (addr, key) pad) d.consoleKeyFile) pad
        = some (addr, key) := by
      rw [hwhole, loadConsolePairing_saveConsolePairing]
    exact ⟨hkey, hload⟩
  | _ => exact ⟨hkey, hpairing⟩

/-- What is loaded from the files are the bonds. -/
theorem Holds.load (h : d.Holds pad b) {c : Config} (hc : c.dsAddr = pad) :
    (c.load d).dsAddr = pad ∧ (c.load d).linkKey = b.key ∧ (c.load d).consolePairing = b.pairing := by
  obtain ⟨hkey, hpairing⟩ := h
  unfold Config.load
  cases hb : b.key with
  | none =>
    rw [hb, Option.map_none] at hkey
    rw [hkey]
    exact ⟨hc, rfl, (congrArg _ hc).trans hpairing⟩
  | some key =>
    rw [hb, Option.map_some] at hkey
    rw [hkey]
    exact ⟨rfl, rfl, hpairing⟩

/-- A run keeps the files to the bonds. -/
theorem Holds.leave (h : d.Holds pad b) {s : Launch} (hs : s.Kept pad) :
    (Launch.leave d s).Holds pad (b.note d s) := by
  obtain ⟨hpad, hwhole⟩ := hs
  have hsame : s.pad d = pad := (h.load hpad).1
  have hall : ∀ (os : List Output) (k : ℕ) (left : Disk) (held : Bonds), left.Holds pad held →
      ((os.zipIdx k).foldl (fun left o ↦ left.take pad (s.taken o.2) o.1) left).Holds pad
        (os.foldl Bonds.take held) := by
    intro os
    induction os with
    | nil => exact fun _ _ _ hleft ↦ hleft
    | cons o os ih =>
      intro k left held hleft
      obtain ⟨m, hm, htaken⟩ := hwhole k
      rw [List.zipIdx_cons, List.foldl_cons, List.foldl_cons]
      refine ih (k + 1) _ _ ?_
      rw [htaken]
      exact hleft.take hm o
  rw [Launch.leave, hsame]
  exact hall _ 0 d b h

end Disk

/-- **Nothing is forgotten between the runs.**  As long as the runs are all of one pad and the disk takes
what is written, `main` starts with the last key that was saved and not rejected since, and with the last
pairing. -/
theorem bonds_survive {d : Disk} {pad : BdAddr} {b : Bonds} (hd : d.Holds pad b) (launches : List Launch)
    (hs : ∀ s ∈ launches, s.Kept pad) {c : Config} (hc : c.dsAddr = pad) :
    let q := run (withHistory Launch.leave Bonds.note) (d, b) launches
    (c.load q.1).dsAddr = pad ∧ (c.load q.1).linkKey = q.2.key ∧ (c.load q.1).consolePairing = q.2.pairing := by
  have hinv : ∀ q : Disk × Bonds, q.1.Holds pad q.2 →
      (run (withHistory Launch.leave Bonds.note) q launches).1.Holds pad
        (run (withHistory Launch.leave Bonds.note) q launches).2 := by
    induction launches with
    | nil => exact fun _ hq ↦ hq
    | cons s launches ih =>
      intro q hq
      exact ih (fun s' hs' ↦ hs s' (List.mem_cons_of_mem _ hs')) _ (hq.leave (hs s List.mem_cons_self))
  exact (hinv (d, b) hd).load hc

/-- A pad is paired with, and the console pairs over the cable. -/
def Launch.first : Launch where
  config := { dsAddr := ⟨1, 2, 3, 4, 5, 6⟩ }
  inputs := Input.bringUp .toDualsense
    ++ [.event .toDualsense EVT_LINK_KEY_NOTIFY ([1, 2, 3, 4, 5, 6] ++ List.replicate 16 0x5a ++ [4])]
  taken := fun _ ↦ some 64

/-- The next run starts with the key of the first. -/
theorem bonds_survive_first :
    (Launch.first.config.load (Launch.leave {} .first)).linkKey
      = some ⟨List.replicate 16 0x5a, rfl⟩ := by
  have hpad : ({} : Disk).Holds ⟨1, 2, 3, 4, 5, 6⟩ {} := ⟨rfl, rfl⟩
  have hkept : ∀ s ∈ [Launch.first], s.Kept ⟨1, 2, 3, 4, 5, 6⟩ := by
    intro s hs
    rw [List.mem_singleton.mp hs]
    exact ⟨rfl, fun _ ↦ ⟨64, by decide, rfl⟩⟩
  have h := bonds_survive hpad [.first] hkept (c := Launch.first.config) rfl
  exact h.2.1.trans (by decide +kernel)

end DualSenseMitm
