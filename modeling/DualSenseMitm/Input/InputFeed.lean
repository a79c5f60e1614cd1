import DualSenseMitm.Bluetooth.Handler
import DualSenseMitm.Lib.RingLog

/-!
# The input feed

The page the relay shares with a viewer: the newest state report behind a sequence lock, and a ring
of the changes in the buttons.

* `packButtons` — every button of a report body as one bit.
* `decode` — what a report body says.
* `Writer.publish`, `Writer.publishLink` — the relay's side, each call as a whole.
* `Shared.drain` — the viewer's walk over the ring, as a whole.

A clock is what it reads: the times are arguments.  The page is the one `open` leaves, with its magic
and version in place.
-/

set_option autoImplicit false

namespace DualSenseMitm.InputFeed

open RingLog

def BODY_LEN : ℕ := 63
def EVENTS : ℕ := 256

instance : NeZero EVENTS := ⟨by decide⟩

/-- The body of a state report. -/
abbrev Body := Fin BODY_LEN → UInt8

/-! ## The buttons -/

def DPAD_OFF : Fin BODY_LEN := ⟨7, by decide⟩
def BUTTONS2_OFF : Fin BODY_LEN := ⟨8, by decide⟩
def BUTTONS3_OFF : Fin BODY_LEN := ⟨9, by decide⟩

def UP : UInt32 := 0x01
def RIGHT : UInt32 := 0x02
def DOWN : UInt32 := 0x04
def LEFT : UInt32 := 0x08

/-- The directions a value of the d-pad stands for: clockwise from the top, and none from eight on. -/
def hat : List UInt32 :=
  [UP, UP ||| RIGHT, RIGHT, DOWN ||| RIGHT, DOWN, DOWN ||| LEFT, LEFT, UP ||| LEFT]

/-- `pack_buttons`. -/
def packButtons (body : Body) : UInt32 :=
  let dpad := body DPAD_OFF &&& (0x0f : UInt8)
  (if dpad.toNat < hat.length then hat.getD dpad.toNat 0 else 0)
    ||| (body DPAD_OFF &&& (0xf0 : UInt8)).toUInt32
    ||| (body BUTTONS2_OFF).toUInt32 <<< (8 : UInt32)
    ||| (body BUTTONS3_OFF &&& (0x07 : UInt8)).toUInt32 <<< (16 : UInt32)

/-! ## The state -/

def TOUCH_OFF : ℕ := 32
def BATTERY_OFF : Fin BODY_LEN := ⟨52, by decide⟩

/-- `Touch`: a finger on the touchpad. -/
structure Touch where
  active : Bool := false
  x : UInt16 := 0
  y : UInt16 := 0
deriving DecidableEq

/-- `PadState`. -/
structure PadState where
  buttons : UInt32 := 0
  lx : UInt8 := 128
  ly : UInt8 := 128
  rx : UInt8 := 128
  ry : UInt8 := 128
  l2 : UInt8 := 0
  r2 : UInt8 := 0
  touch : Fin 2 → Touch := fun _ ↦ {}
  battery : UInt8 := 0

/-- The four bytes of a touch point: the contact, the low byte of one coordinate, a byte with four bits of
each, and the high byte of the other. -/
def touchPoint (body : Body) (i : Fin 2) : Fin 4 → UInt8 := fun k ↦
  body ⟨TOUCH_OFF + 4 * i + k, by
    have hi := i.isLt
    have hk := k.isLt
    rw [TOUCH_OFF, BODY_LEN]
    omega⟩

def decodeTouch (p : Fin 4 → UInt8) : Touch where
  active := p 0 &&& 0x80 == 0
  x := (p 1).toUInt16 ||| (p 2 &&& (0x0f : UInt8)).toUInt16 <<< (8 : UInt16)
  y := (p 2 >>> (4 : UInt8)).toUInt16 ||| (p 3).toUInt16 <<< (4 : UInt16)

/-- `decode`. -/
def decode (body : Body) : PadState where
  buttons := packButtons body
  lx := body ⟨0, by decide⟩
  ly := body ⟨1, by decide⟩
  rx := body ⟨2, by decide⟩
  ry := body ⟨3, by decide⟩
  l2 := body ⟨4, by decide⟩
  r2 := body ⟨5, by decide⟩
  touch := fun i ↦ decodeTouch (touchPoint body i)
  battery := body BATTERY_OFF

/-! ## The page -/

/-- `Event`: a change of the buttons. -/
structure Event where
  realtimeNs : UInt64 := 0
  buttons : UInt32 := 0
  reserved : UInt32 := 0
deriving DecidableEq

/-- `Shared`. -/
structure Shared where
  /-- Odd while the fields up to the link are written. -/
  seq : UInt64 := 0
  monotonicNs : UInt64 := 0
  reports : UInt64 := 0
  body : Body := fun _ ↦ 0
  link : LinkSnapshot := {}
  /-- How many events there ever were. -/
  eventHead : UInt64 := 0
  events : Fin EVENTS → Event := fun _ ↦ {}

/-- `n % EVENTS`. -/
def slotOf (n : UInt64) : Fin EVENTS := slot EVENTS n.toNat

/-! ## The writer -/

/-- The relay's side: the page, and the buttons of the body it published last. -/
structure Writer where
  shared : Shared := {}
  lastButtons : UInt32 := 0

namespace Writer

/-- `publish_link`. -/
def publishLink (w : Writer) (link : LinkSnapshot) : Writer :=
  let seq := w.shared.seq
  { w with shared := { w.shared with seq := seq + 2, link := link } }

/-- `publish`. -/
def publish (w : Writer) (body : Body) (link : LinkSnapshot) (monotonicNs realtimeNs : UInt64) : Writer :=
  let seq := w.shared.seq
  let shared :=
    { w.shared with
      seq := seq + 2
      body := body
      monotonicNs := monotonicNs
      reports := w.shared.reports + 1
      link := link }
  let buttons := packButtons body
  if buttons = w.lastButtons then { w with shared := shared }
  else
    let head := shared.eventHead
    { shared :=
        { shared with
          events := Function.update shared.events (slotOf head) ⟨realtimeNs, buttons, 0⟩
          eventHead := head + 1 }
      lastButtons := buttons }

end Writer

/-! ## The reader -/

/-- What a call of `drain` hands out and returns, and where it leaves the cursor. -/
structure Drained where
  lost : UInt64
  events : List Event
  cursor : UInt64

namespace Shared

/-- The loop of `drain`, from `cursor` up to `head`. -/
def copyEvents (s : Shared) (head cursor : UInt64) : List Event :=
  if cursor < head then s.events (slotOf cursor) :: s.copyEvents head (cursor + 1) else []
termination_by head.toNat - cursor.toNat
decreasing_by
  rename_i h
  rw [UInt64.lt_iff_toNat_lt] at h
  have hhead := head.toNat_lt
  rw [UInt64.toNat_add, UInt64.toNat_one]
  omega

/-- Where `drain` starts: at the cursor, unless the ring has been reset since, or no longer goes back
that far.  With it, how many events are skipped. -/
def drainFrom (head cursor : UInt64) : UInt64 × UInt64 :=
  let cursor := if head < cursor then 0 else cursor
  if head - cursor > UInt64.ofNat EVENTS then
    (head - UInt64.ofNat EVENTS, head - cursor - UInt64.ofNat EVENTS)
  else (cursor, 0)

/-- `drain`. -/
def drain (s : Shared) (cursor : UInt64) : Drained :=
  let head := s.eventHead
  let start := drainFrom head cursor
  { lost := start.2
    events := s.copyEvents head start.1
    cursor := if start.1 < head then head else start.1 }

end Shared

end DualSenseMitm.InputFeed
