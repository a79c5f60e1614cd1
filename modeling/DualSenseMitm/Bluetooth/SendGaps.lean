import DualSenseMitm.Common.Clock

/-!
# Gaps between sends

`SendGaps` measures how long the console went without an input report: one bucket a second with its
worst gap and the number of gaps above a threshold.
-/

set_option autoImplicit false

namespace DualSenseMitm

/-- The accumulator and the bucket last completed. -/
structure SendGaps where
  threshold : Time := milliseconds 100
  bucket : Time := seconds 1
  /-- The last send; not yet when there was none. -/
  last : Time := noTime
  bucketStart : Time := noTime
  curMax : Time := 0
  curCount : UInt32 := 0
  doneMax : Time := 0
  doneCount : UInt32 := 0
  /-- Counts the completed buckets. -/
  window : UInt32 := 0
deriving DecidableEq, Repr

namespace SendGaps

/-- The first half of `on_sent`: the gap since the last send. -/
def noteGap (now : Time) (g : SendGaps) : SendGaps :=
  if g.last = noTime then { g with last := now }
  else
    let gap := now - g.last
    { g with
      curMax := max g.curMax gap
      curCount := if g.threshold < gap then g.curCount + 1 else g.curCount
      last := now }

/-- `on_sent`. -/
def onSent (now : Time) (g : SendGaps) : SendGaps :=
  let g := g.noteGap now
  if g.bucketStart = noTime then { g with bucketStart := now }
  else if now - g.bucketStart < g.bucket then g
  else
    { g with
      doneMax := g.curMax
      doneCount := g.curCount
      window := g.window + 1
      curMax := 0
      curCount := 0
      bucketStart := now }

/-- `max_us`. -/
def maxUs (g : SendGaps) : UInt32 := UInt32.ofNat (g.doneMax.tdiv 1000).toNat

end SendGaps

end DualSenseMitm
