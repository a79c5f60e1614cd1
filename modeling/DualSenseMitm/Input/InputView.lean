import DualSenseMitm.Input.InputFeed
import DualSenseMitm.Lib.ToggleLog
import Mathlib.Data.List.DropRight
import Mathlib.Data.Nat.Bitwise

/-!
# The viewer's log of presses

`note_event` compares the buttons of an event with those that were held, writes a line for each that has
changed, and keeps the last presses.

* `Panel.Shows.noteEvent` — the lines are those of `ToggleLog`, and the presses go into the list.
* `word_packButtons` — the table of the buttons covers every bit a body can set.
* `press_log_replays` — the log of any sequence of events, replayed.
-/

set_option autoImplicit false

namespace DualSenseMitm.InputFeed

open ToggleLog

/-! ## The table -/

inductive Button
  | up | right | down | left | square | cross | circle | triangle | l1 | r1 | l2 | r2 | create | options | l3 | r3
  | ps | touchpad | mute
deriving DecidableEq, Repr

/-- The bit of a button. -/
def Button.bit : Button → UInt32
  | .up => UP
  | .right => RIGHT
  | .down => DOWN
  | .left => LEFT
  | .square => 0x10
  | .cross => 0x20
  | .circle => 0x40
  | .triangle => 0x80
  | .l1 => 0x100
  | .r1 => 0x200
  | .l2 => 0x400
  | .r2 => 0x800
  | .create => 0x1000
  | .options => 0x2000
  | .l3 => 0x4000
  | .r3 => 0x8000
  | .ps => 0x10000
  | .touchpad => 0x20000
  | .mute => 0x40000

/-- `ButtonLook`, less its colour. -/
structure ButtonLook where
  bit : Button
  /-- What the panel and the log show. -/
  glyph : String
  /-- What the log also says. -/
  name : String

/-- `looks`, in the order of the log. -/
def looks : List ButtonLook := [
  ⟨.triangle, "△", "triangle"⟩,
  ⟨.circle, "◯", "circle"⟩,
  ⟨.cross, "✕", "cross"⟩,
  ⟨.square, "▢", "square"⟩,
  ⟨.up, "↑", "up"⟩,
  ⟨.right, "→", "right"⟩,
  ⟨.down, "↓", "down"⟩,
  ⟨.left, "←", "left"⟩,
  ⟨.l1, "L1", "L1"⟩,
  ⟨.r1, "R1", "R1"⟩,
  ⟨.l2, "L2", "L2"⟩,
  ⟨.r2, "R2", "R2"⟩,
  ⟨.l3, "L3", "L3"⟩,
  ⟨.r3, "R3", "R3"⟩,
  ⟨.create, "Create", "create"⟩,
  ⟨.options, "Options", "options"⟩,
  ⟨.ps, "PS", "ps"⟩,
  ⟨.touchpad, "Touch", "touchpad"⟩,
  ⟨.mute, "Mute", "mute"⟩]

/-! ## The log -/

/-- A line of the log. -/
structure Line where
  realtimeNs : UInt64
  down : Bool
  look : ButtonLook

/-- What the line says; the time is the local one. -/
def Line.text (wallTime : UInt64 → String) (l : Line) : String :=
  wallTime l.realtimeNs ++ (if l.down then "  down  " else "  up    ") ++ l.look.glyph ++ "  " ++ l.look.name

/-- What `note_event` uses of the panel, and what it has logged. -/
structure Panel where
  held : UInt32 := 0
  recent : List Button := []
  lines : List Line := []

/-- One more press: the oldest goes when there are more than 64. -/
def pushRecent (recent : List Button) (b : Button) : List Button :=
  if 64 < (recent ++ [b]).length then (recent ++ [b]).drop 1 else recent ++ [b]

/-- One round of the loop of `note_event`. -/
def noteButton (active : Bool) (realtimeNs : UInt64) (wentDown cameUp : UInt32) (p : Panel) (b : ButtonLook) :
    Panel :=
  let p :=
    if wentDown &&& b.bit.bit ≠ 0 then
      { p with
        recent := pushRecent p.recent b.bit
        lines := if active then p.lines ++ [⟨realtimeNs, true, b⟩] else p.lines }
    else p
  if cameUp &&& b.bit.bit ≠ 0 ∧ active then { p with lines := p.lines ++ [⟨realtimeNs, false, b⟩] } else p

/-- `note_event`. -/
def noteEvent (active : Bool) (p : Panel) (e : Event) : Panel :=
  let changed := e.buttons ^^^ p.held
  let p' := looks.foldl (noteButton active e.realtimeNs (changed &&& e.buttons) (changed &&& p.held)) p
  { p' with held := e.buttons }

/-! ## Words and sets -/

/-- The buttons a word holds. -/
def holds (w : UInt32) (b : Button) : Bool := w &&& b.bit != 0

/-- The buttons in the order of the log. -/
def keys : List Button := looks.map ButtonLook.bit

/-- The word of a set of buttons. -/
def word (s : Button → Bool) : UInt32 := keys.foldl (fun w b ↦ w ||| if s b then b.bit else 0) 0

theorem keys_nodup : keys.Nodup := by decide

theorem mem_keys (b : Button) : b ∈ keys := by cases b <;> decide

theorem bit_toNat (b : Button) : b.bit.toNat = 2 ^ b.bit.toNat.log2 := by cases b <;> decide

theorem toNat_and_bit (w : UInt32) (b : Button) :
    (w &&& b.bit).toNat = (w.toNat.testBit b.bit.toNat.log2).toNat * b.bit.toNat := by
  rw [UInt32.toNat_and]
  nth_rewrite 1 [bit_toNat b]
  rw [Nat.and_two_pow, ← bit_toNat b]

/-- A word holds a button if its bit is set. -/
theorem holds_eq_testBit (w : UInt32) (b : Button) : holds w b = w.toNat.testBit b.bit.toNat.log2 := by
  have hand := toNat_and_bit w b
  cases hset : w.toNat.testBit b.bit.toNat.log2 with
  | false =>
    rw [hset, Bool.toNat_false, Nat.zero_mul] at hand
    rw [holds, bne_eq_false_iff_eq]
    exact UInt32.toNat_inj.mp hand
  | true =>
    rw [hset, Bool.toNat_true, Nat.one_mul, bit_toNat b] at hand
    rw [holds, bne_iff_ne]
    intro hzero
    rw [hzero] at hand
    exact absurd hand (Nat.two_pow_pos _).ne

theorem and_bit (w : UInt32) (b : Button) : w &&& b.bit = if holds w b then b.bit else 0 := by
  refine UInt32.toNat_inj.mp ?_
  rw [toNat_and_bit, holds_eq_testBit]
  cases w.toNat.testBit b.bit.toNat.log2 with
  | false => exact Nat.zero_mul _
  | true => exact Nat.one_mul _

/-- What went down: it is held now, and was not. -/
theorem holds_changed_and (now before w : UInt32) (b : Button) :
    holds ((now ^^^ before) &&& w) b = ((holds now b ^^ holds before b) && holds w b) := by
  simp only [holds_eq_testBit]
  rw [UInt32.toNat_and, UInt32.toNat_xor, Nat.testBit_and, Nat.testBit_xor]

theorem and_or_distrib (w x y : UInt32) : w &&& (x ||| y) = w &&& x ||| w &&& y := by
  refine UInt32.toNat_inj.mp ?_
  simp only [UInt32.toNat_and, UInt32.toNat_or, Nat.and_or_distrib_left]

/-- The bits of the table are the lowest nineteen. -/
theorem word_holds (w : UInt32) : word (holds w) = w &&& 0x7ffff := by
  have hfold : ∀ (bs : List Button) (m : UInt32),
      bs.foldl (fun v b ↦ v ||| if holds w b then b.bit else 0) (w &&& m)
        = w &&& bs.foldl (fun v b ↦ v ||| b.bit) m := by
    intro bs
    induction bs with
    | nil => exact fun _ ↦ rfl
    | cons b bs ih =>
      intro m
      rw [List.foldl_cons, List.foldl_cons, ← and_bit, ← and_or_distrib]
      exact ih _
  have hzero : w &&& 0 = 0 := UInt32.and_zero
  have hall := hfold keys 0
  rw [hzero] at hall
  exact hall

theorem and_mask {w : UInt32} (h : w.toNat < 2 ^ 19) : w &&& 0x7ffff = w := by
  refine UInt32.toNat_inj.mp ?_
  rw [UInt32.toNat_and]
  exact Nat.and_two_pow_sub_one_of_lt_two_pow h

/-- A body sets the lowest nineteen bits and no other. -/
theorem packButtons_lt (body : Body) : (packButtons body).toNat < 2 ^ 19 := by
  have hdpad : ∀ n, (if n < hat.length then hat.getD n 0 else 0).toNat < 2 ^ 19 := by
    intro n
    by_cases hn : n < hat.length
    · rw [if_pos hn]
      have hall : ∀ m < 8, (hat.getD m 0).toNat < 2 ^ 19 := by decide
      exact hall n hn
    · rw [if_neg hn]
      decide
  have hface : ((body DPAD_OFF &&& (0xf0 : UInt8)).toUInt32).toNat < 2 ^ 19 := by
    have hlt := (body DPAD_OFF &&& (0xf0 : UInt8)).toNat_lt
    rw [UInt8.toNat_toUInt32]
    omega
  have hsecond : ((body BUTTONS2_OFF).toUInt32 <<< (8 : UInt32)).toNat < 2 ^ 19 := by
    have hlt := (body BUTTONS2_OFF).toNat_lt
    have hshift : ((body BUTTONS2_OFF).toUInt32 <<< (8 : UInt32)).toNat
        = (body BUTTONS2_OFF).toNat <<< 8 % 2 ^ 32 := UInt32.toNat_shiftLeft _ _
    rw [hshift, Nat.shiftLeft_eq]
    omega
  have hthird : ((body BUTTONS3_OFF &&& (0x07 : UInt8)).toUInt32 <<< (16 : UInt32)).toNat < 2 ^ 19 := by
    have hle : (body BUTTONS3_OFF &&& (0x07 : UInt8)).toNat ≤ 7 := by
      rw [UInt8.toNat_and]
      exact Nat.and_le_right
    have hshift : ((body BUTTONS3_OFF &&& (0x07 : UInt8)).toUInt32 <<< (16 : UInt32)).toNat
        = (body BUTTONS3_OFF &&& (0x07 : UInt8)).toNat <<< 16 % 2 ^ 32 := UInt32.toNat_shiftLeft _ _
    rw [hshift, Nat.shiftLeft_eq]
    omega
  unfold packButtons
  simp only [UInt32.toNat_or]
  exact Nat.or_lt_two_pow (Nat.or_lt_two_pow (Nat.or_lt_two_pow (hdpad _) hface) hsecond) hthird

/-- **The table covers every bit a body can set.** -/
theorem word_packButtons (body : Body) : word (holds (packButtons body)) = packButtons body := by
  rw [word_holds, and_mask (packButtons_lt body)]

/-! ## One event -/

/-- What a line says. -/
def Line.mark (l : Line) : ToggleLog.Mark Button := ⟨l.look.bit, l.down⟩

/-- The presses of a log. -/
def presses (ms : List (ToggleLog.Mark Button)) : List Button :=
  ms.filterMap fun m ↦ if m.on then some m.key else none

/-- A panel that is to keep the last 64 presses and the lines of a log. -/
structure Panel.Shows (p : Panel) (ms : List (ToggleLog.Mark Button)) : Prop where
  lines : p.lines.map Line.mark = ms
  recent : p.recent = (presses ms).rtake 64

theorem rtake_pushRecent (bs : List Button) (b : Button) :
    pushRecent (bs.rtake 64) b = (bs ++ [b]).rtake 64 := by
  have hlen : (bs.rtake 64).length = min 64 bs.length := by
    rw [List.rtake, List.length_drop]
    omega
  unfold pushRecent
  rw [List.rtake_concat_succ, List.length_append, hlen, List.length_singleton]
  by_cases hfull : 64 ≤ bs.length
  · rw [if_pos (by omega), List.drop_append_of_le_length (by omega), List.rtake, List.drop_drop, List.rtake]
    congr 2
    omega
  · rw [if_neg (by omega), List.rtake, List.rtake, Nat.sub_eq_zero_of_le (by omega),
      Nat.sub_eq_zero_of_le (by omega)]

/-- One round: the button that has changed is written down, and a press is kept. -/
theorem Panel.Shows.noteButton {p : Panel} {ms : List (ToggleLog.Mark Button)} (h : p.Shows ms) (ns : UInt64)
    (now before : UInt32) (look : ButtonLook) :
    (InputFeed.noteButton true ns ((now ^^^ before) &&& now) ((now ^^^ before) &&& before) p look).Shows
      (ms ++ if holds before look.bit = holds now look.bit then [] else [⟨look.bit, holds now look.bit⟩]) := by
  have hdown : ((now ^^^ before) &&& now &&& look.bit.bit ≠ 0)
      ↔ ((holds now look.bit ^^ holds before look.bit) && holds now look.bit) = true := by
    rw [← holds_changed_and, holds, bne_iff_ne]
  have hup : ((now ^^^ before) &&& before &&& look.bit.bit ≠ 0)
      ↔ ((holds now look.bit ^^ holds before look.bit) && holds before look.bit) = true := by
    rw [← holds_changed_and, holds, bne_iff_ne]
  unfold InputFeed.noteButton
  rw [if_congr hdown rfl rfl, if_congr (and_congr_left' hup) rfl rfl]
  cases hnow : holds now look.bit <;> cases hbefore : holds before look.bit
  · simpa using h
  · refine ⟨?_, ?_⟩
    · simp [h.lines, Line.mark]
    · simp [h.recent, presses, List.filterMap_append]
  · refine ⟨?_, ?_⟩
    · simp [h.lines, Line.mark]
    · simp [h.recent, presses, List.filterMap_append, rtake_pushRecent]
  · simpa using h

/-- **One event.**  The lines are those of what has changed, in the order of the table. -/
theorem Panel.Shows.noteEvent {p : Panel} {ms : List (ToggleLog.Mark Button)} (h : p.Shows ms) (e : Event) :
    (InputFeed.noteEvent true p e).Shows (ms ++ marks keys (holds p.held) (holds e.buttons)) := by
  have hloop : ∀ (ls : List ButtonLook) (q : Panel) (ns : List (ToggleLog.Mark Button)), q.Shows ns →
      (ls.foldl (InputFeed.noteButton true e.realtimeNs ((e.buttons ^^^ p.held) &&& e.buttons)
          ((e.buttons ^^^ p.held) &&& p.held)) q).Shows
        (ns ++ marks (ls.map ButtonLook.bit) (holds p.held) (holds e.buttons)) := by
    intro ls
    induction ls with
    | nil =>
      intro q ns hq
      rw [List.map_nil, marks, List.filterMap_nil, List.append_nil]
      exact hq
    | cons look ls ih =>
      intro q ns hq
      have hmore := ih _ _ (hq.noteButton e.realtimeNs e.buttons p.held look)
      rw [List.append_assoc] at hmore
      rw [List.foldl_cons, List.map_cons, marks, List.filterMap_cons]
      split at hmore
      · rename_i hsame
        rw [if_pos hsame]
        exact hmore
      · rename_i hdiff
        rw [if_neg hdiff]
        exact hmore
  have hlast := hloop looks p ms h
  exact ⟨hlast.lines, hlast.recent⟩

/-! ## A sequence of events -/

/-- The panel behind a sequence of events, from this set, with a log. -/
def panelBehind (start : UInt32) (events : List Event) : Panel :=
  events.foldl (noteEvent true) { held := start }

/-- What the log of a sequence of events says. -/
def logged (start : UInt32) (events : List Event) : List (ToggleLog.Mark Button) :=
  (panelBehind start events).lines.map Line.mark

theorem panelBehind_concat (start : UInt32) (events : List Event) (e : Event) :
    panelBehind start (events ++ [e]) = noteEvent true (panelBehind start events) e := by
  rw [panelBehind, List.foldl_append]
  rfl

theorem held_panelBehind (start : UInt32) (events : List Event) :
    (panelBehind start events).held = (events.map Event.buttons).getLastD start := by
  induction events using List.reverseRecOn with
  | nil => rfl
  | append_singleton events e ih =>
    rw [panelBehind_concat, List.map_append, List.map_singleton, List.getLastD_concat]
    rfl

theorem getLastD_map_holds (start : UInt32) (events : List Event) :
    (events.map fun e ↦ holds e.buttons).getLastD (holds start)
      = holds ((events.map Event.buttons).getLastD start) := by
  induction events using List.reverseRecOn with
  | nil => rfl
  | append_singleton events e =>
    rw [List.map_append, List.map_append, List.map_singleton, List.map_singleton, List.getLastD_concat,
      List.getLastD_concat]

theorem shows_panelBehind (start : UInt32) (events : List Event) :
    (panelBehind start events).Shows (log keys (holds start) (events.map fun e ↦ holds e.buttons)) := by
  induction events using List.reverseRecOn with
  | nil => exact ⟨rfl, rfl⟩
  | append_singleton events e ih =>
    have hheld : (events.map fun e ↦ holds e.buttons).getLastD (holds start)
        = holds (panelBehind start events).held := by
      rw [held_panelBehind, getLastD_map_holds]
    rw [panelBehind_concat, List.map_append, log_append, hheld]
    have hone := ih.noteEvent e
    rwa [List.map_singleton, log, log, List.append_nil]

/-- A log that can be replayed. -/
structure Replayed (start : UInt32) (events : List Event) : Prop where
  /-- The lines about a button alternate, and start with the opposite of what it was. -/
  alternates : ∀ b, Alternates (holds start b) (about b (logged start events))
  /-- The log leads to the buttons of the last event. -/
  replayed : ∀ e ∈ events.getLast?, word (replay (holds start) (logged start events)) = e.buttons
  /-- The last event has added one line for each button it changes, and none for any other. -/
  once : ∀ before e, events = before ++ [e] → ∃ new, logged start events = logged start before ++ new
    ∧ ∀ b, about b new = if holds (panelBehind start before).held b = holds e.buttons b then []
        else [holds e.buttons b]
  recent : (panelBehind start events).recent = (presses (logged start events)).rtake 64

/-- **The press log can be replayed.** -/
theorem press_log_replays (start : UInt32) (events : List Event)
    (hbody : ∀ e ∈ events, ∃ body, e.buttons = packButtons body) : Replayed start events := by
  have hshows := shows_panelBehind start events
  have hlog : logged start events = log keys (holds start) (events.map fun e ↦ holds e.buttons) := hshows.lines
  refine ⟨fun b ↦ ?_, fun e he ↦ ?_, ?_, ?_⟩
  · rw [hlog]
    exact alternates_log keys_nodup (mem_keys b) _
  · obtain ⟨before, rfl⟩ := List.getLast?_eq_some_iff.mp he
    obtain ⟨body, hbody⟩ := hbody e (List.mem_append_right _ (List.mem_singleton_self e))
    rw [hlog, replay_log keys_nodup mem_keys, List.map_append, List.map_singleton, List.getLastD_concat, hbody,
      word_packButtons]
  · rintro before e rfl
    have hbefore := shows_panelBehind start before
    have hone := (hbefore.noteEvent e).lines
    rw [← panelBehind_concat, ← hbefore.lines] at hone
    exact ⟨_, hone, fun b ↦ about_marks keys_nodup (mem_keys b)⟩
  · rw [hlog]
    exact hshows.recent

/-- Everything is pressed at once, and then all is let go but for one diagonal. -/
def allPressed : List Body := [fun _ ↦ 0xf7, fun i ↦ if i = DPAD_OFF then 0x01 else 0]

theorem press_log_replays_all :
    Replayed 0 (allPressed.map fun body ↦ ⟨0, packButtons body, 0⟩) := by
  refine press_log_replays 0 _ fun e he ↦ ?_
  obtain ⟨body, -, rfl⟩ := List.mem_map.mp he
  exact ⟨body, rfl⟩

end DualSenseMitm.InputFeed
