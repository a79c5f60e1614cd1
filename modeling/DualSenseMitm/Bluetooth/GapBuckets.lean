import DualSenseMitm.Bluetooth.SendGaps
import DualSenseMitm.Lib.Buckets
import Mathlib.Data.UInt
import Mathlib.Tactic.Linarith

/-!
# What the gap tracker publishes

The gaps between sends go into buckets, and what is published is about the last one that was closed.

* `gapsBetween` — the gaps of a sequence of sends.
* `SendGaps.Tracks` — the tracker's numbers are those of the buckets; `Tracks.onSent` is one send.
* `gaps_partitioned` — the same for every sequence, with the worst gap and the counts spelled out.
-/

set_option autoImplicit false

namespace DualSenseMitm

/-- The gaps between consecutive sends, the first of them behind `last`. -/
def gapsBehind (last : Time) : List Time → List Time
  | [] => []
  | t :: ts => (t - last) :: gapsBehind t ts

/-- The gaps between consecutive sends. -/
def gapsBetween : List Time → List Time
  | [] => []
  | t :: ts => gapsBehind t ts

/-- How many gaps are above the threshold. -/
def countAbove (threshold : Time) (gaps : List Time) : ℕ := gaps.countP fun gap ↦ threshold < gap

/-- The worst gap; nothing, if there is none. -/
def worst (gaps : List Time) : Time := gaps.foldl max 0

theorem worst_concat (gaps : List Time) (gap : Time) : worst (gaps ++ [gap]) = max (worst gaps) gap := by
  rw [worst, List.foldl_append]
  rfl

/-- The worst gap is one of them, and none is longer. -/
theorem worst_spec {gaps : List Time} (hnonneg : ∀ gap ∈ gaps, 0 ≤ gap) :
    (∀ gap ∈ gaps, gap ≤ worst gaps) ∧ (gaps ≠ [] → worst gaps ∈ gaps) := by
  induction gaps using List.reverseRecOn with
  | nil => exact ⟨fun _ h ↦ absurd h List.not_mem_nil, fun h ↦ absurd rfl h⟩
  | append_singleton gaps gap ih =>
    obtain ⟨hle, hmem⟩ := ih fun gap' h ↦ hnonneg gap' (List.mem_append_left _ h)
    have hgap : 0 ≤ gap := hnonneg gap (List.mem_append_right _ (List.mem_singleton_self gap))
    rw [worst_concat]
    refine ⟨fun gap' h ↦ ?_, fun _ ↦ ?_⟩
    · rcases List.mem_append.mp h with h | h
      · exact (hle gap' h).trans (le_max_left _ _)
      · rw [List.mem_singleton.mp h]
        exact le_max_right _ _
    · by_cases hempty : gaps = []
      · subst hempty
        rw [show worst [] = 0 from rfl, max_eq_right hgap]
        exact List.mem_singleton_self gap
      · rcases max_choice (worst gaps) gap with h | h
        · rw [h]
          exact List.mem_append_left _ (hmem hempty)
        · rw [h]
          exact List.mem_append_right _ (List.mem_singleton_self gap)

namespace SendGaps

variable {τ β : Time} {g : SendGaps} {x : Buckets Time} {sent : Time}

/-- What is published: the last bucket that was closed, or nothing. -/
structure Publishes (g : SendGaps) (τ : Time) (closed : List (List Time)) : Prop where
  count : g.doneCount = UInt32.ofNat (countAbove τ (closed.getLast?.getD []))
  worst : g.doneMax = DualSenseMitm.worst (closed.getLast?.getD [])
  window : g.window = UInt32.ofNat closed.length

/-- The tracker behind a send, with these buckets. -/
structure Tracks (g : SendGaps) (τ β : Time) (x : Buckets Time) (sent : Time) : Prop where
  threshold : g.threshold = τ
  bucket : g.bucket = β
  last : g.last = sent
  start : g.bucketStart = sent - x.current.sum
  /-- The clock has left its epoch, which stands for "not yet". -/
  afterEpoch : 0 < sent - x.current.sum
  nonneg : 0 ≤ x.current.sum
  worst : g.curMax = DualSenseMitm.worst x.current
  count : g.curCount = UInt32.ofNat (countAbove τ x.current)
  published : g.Publishes τ x.closed

/-- The first send opens a bucket, and is no gap. -/
theorem tracks_first (τ β : Time) {now : Time} (h : 0 < now) :
    (({ threshold := τ, bucket := β } : SendGaps).onSent now).Tracks τ β {} now := by
  have hnow : now - ([] : List Time).sum = now := by simp
  exact ⟨rfl, rfl, rfl, hnow.symm, by rwa [hnow], le_rfl, rfl, rfl, rfl, rfl, rfl⟩

/-- The gap of a send goes into the open bucket. -/
theorem Tracks.noteGap (h : g.Tracks τ β x sent) (now : Time) :
    g.noteGap now
      = { g with
          last := now
          curMax := DualSenseMitm.worst (x.current ++ [now - sent])
          curCount := UInt32.ofNat (countAbove τ (x.current ++ [now - sent])) } := by
  have hopen : g.last ≠ noTime := by
    have hpos : 0 < sent := by linarith [h.afterEpoch, h.nonneg]
    rw [h.last]
    exact hpos.ne'
  have hcount : (if g.threshold < now - g.last then g.curCount + 1 else g.curCount)
      = UInt32.ofNat (countAbove τ (x.current ++ [now - sent])) := by
    rw [countAbove, List.countP_append, List.countP_singleton, h.threshold, h.last, h.count]
    by_cases hgap : τ < now - sent
    · rw [if_pos hgap, if_pos (decide_eq_true hgap), UInt32.ofNat_add]
      rfl
    · rw [if_neg hgap, if_neg (by simpa using hgap)]
      rfl
  unfold SendGaps.noteGap
  rw [if_neg hopen]
  dsimp only
  rw [hcount, worst_concat, h.worst, h.last]

/-- **One send.**  It closes the bucket that its gap fills, and the closed one is published. -/
theorem Tracks.onSent {now : Time} (h : g.Tracks τ β x sent) (hnow : sent ≤ now) :
    (g.onSent now).Tracks τ β (x.add β (now - sent)) now := by
  have hsum : (x.current ++ [now - sent]).sum = x.current.sum + (now - sent) := by simp
  have hstart : g.bucketStart ≠ noTime := by
    rw [h.start]
    exact h.afterEpoch.ne'
  have hspan : now - g.bucketStart = (x.current ++ [now - sent]).sum := by
    rw [h.start, hsum]
    linarith
  unfold SendGaps.onSent Buckets.add
  rw [h.noteGap now]
  dsimp only
  rw [if_neg hstart, hspan, h.bucket]
  by_cases hfull : (x.current ++ [now - sent]).sum < β
  · rw [if_pos hfull, if_pos hfull]
    exact
      { h with
        bucket := rfl
        last := rfl
        start := by rw [hsum, h.start]; linarith
        afterEpoch := by rw [hsum]; linarith [h.afterEpoch]
        nonneg := by rw [hsum]; linarith [h.nonneg]
        worst := rfl
        count := rfl
        published := ⟨h.published.count, h.published.worst, h.published.window⟩ }
  · rw [if_neg hfull, if_neg hfull]
    have hnow' : now - ([] : List Time).sum = now := by simp
    refine ⟨h.threshold, rfl, rfl, hnow'.symm, ?_, le_rfl, rfl, rfl, ?_, ?_, ?_⟩
    · rw [hnow']
      linarith [h.afterEpoch, h.nonneg]
    · simp
    · simp
    · simp [h.published.window, UInt32.ofNat_add]

/-- A sequence of sends. -/
def onSents (g : SendGaps) (times : List Time) : SendGaps := times.foldl (fun g t ↦ g.onSent t) g

theorem Tracks.onSents (h : g.Tracks τ β x sent) {times : List Time} (hsorted : (sent :: times).Pairwise (· ≤ ·)) :
    ∃ last, (g.onSents times).Tracks τ β (x.fill β (gapsBehind sent times)) last := by
  induction times generalizing g x sent with
  | nil => exact ⟨sent, h⟩
  | cons t times ih =>
    obtain ⟨hfirst, hrest⟩ := List.pairwise_cons.mp hsorted
    exact ih (h.onSent (hfirst t List.mem_cons_self)) hrest

end SendGaps

/-- The buckets a sequence of sends fills. -/
def buckets (β : Time) (times : List Time) : Buckets Time := Buckets.fill β {} (gapsBetween times)

/-- The tracker behind a sequence of sends, with this threshold and this bucket length. -/
def trackerBehind (τ β : Time) (times : List Time) : SendGaps :=
  SendGaps.onSents { threshold := τ, bucket := β } times

theorem trackerBehind_publishes (τ β : Time) {times : List Time} (hsorted : times.Pairwise (· ≤ ·))
    (hepoch : ∀ t ∈ times, 0 < t) : (trackerBehind τ β times).Publishes τ (buckets β times).closed := by
  cases times with
  | nil => exact ⟨rfl, rfl, rfl⟩
  | cons t times =>
    obtain ⟨last, h⟩ := (SendGaps.tracks_first τ β (hepoch t List.mem_cons_self)).onSents hsorted
    exact h.published

theorem gapsBehind_nonneg {last : Time} {times : List Time} (h : (last :: times).Pairwise (· ≤ ·)) :
    ∀ gap ∈ gapsBehind last times, 0 ≤ gap := by
  induction times generalizing last with
  | nil => exact fun _ hgap ↦ absurd hgap List.not_mem_nil
  | cons t times ih =>
    obtain ⟨hfirst, hrest⟩ := List.pairwise_cons.mp h
    intro gap hgap
    rcases List.mem_cons.mp hgap with rfl | hgap
    · exact sub_nonneg.mpr (hfirst t List.mem_cons_self)
    · exact ih hrest gap hgap

theorem gapsBetween_nonneg {times : List Time} (h : times.Pairwise (· ≤ ·)) :
    ∀ gap ∈ gapsBetween times, 0 ≤ gap := by
  cases times with
  | nil => exact fun _ hgap ↦ absurd hgap List.not_mem_nil
  | cons t times => exact gapsBehind_nonneg h

/-- What the tracker publishes behind a sequence of sends. -/
structure Partitioned (τ β : Time) (times : List Time) : Prop where
  /-- No gap is lost, none is counted twice, and they are in order. -/
  gaps : (buckets β times).closed.flatten ++ (buckets β times).current = gapsBetween times
  closed : ∀ b ∈ (buckets β times).closed, Buckets.Filled β b
  current : (buckets β times).current ≠ [] → (buckets β times).current.sum < β
  count : ∀ b, (buckets β times).closed.getLast? = some b →
    (trackerBehind τ β times).doneCount = UInt32.ofNat (countAbove τ b)
  worst : ∀ b, (buckets β times).closed.getLast? = some b →
    IsGreatest {gap | gap ∈ b} (trackerBehind τ β times).doneMax
  none : (buckets β times).closed = [] →
    (trackerBehind τ β times).doneCount = 0 ∧ (trackerBehind τ β times).doneMax = 0
  window : (trackerBehind τ β times).window = UInt32.ofNat (buckets β times).closed.length

/-- **The gaps are partitioned.** -/
theorem gaps_partitioned (τ β : Time) (times : List Time) (hsorted : times.Pairwise (· ≤ ·))
    (hepoch : ∀ t ∈ times, 0 < t) : Partitioned τ β times := by
  have hpub := trackerBehind_publishes τ β hsorted hepoch
  have hflat : (buckets β times).closed.flatten ++ (buckets β times).current = gapsBetween times :=
    Buckets.flatten_fill {} _
  have hsound : (buckets β times).Sound β := by
    have hempty : ({} : Buckets Time).Sound β := ⟨fun _ h ↦ absurd h List.not_mem_nil, fun h ↦ absurd rfl h⟩
    exact hempty.fill _
  refine ⟨hflat, hsound.closed, hsound.current, fun b hb ↦ ?_, fun b hb ↦ ?_, fun hnone ↦ ?_, hpub.window⟩
  · rw [hpub.count, hb]
    rfl
  · have hmem : b ∈ (buckets β times).closed := List.mem_of_getLast? hb
    have hne : b ≠ [] := by
      obtain ⟨init, gap, rfl, -⟩ := hsound.closed b hmem
      exact List.concat_ne_nil gap init
    have hnonneg : ∀ gap ∈ b, 0 ≤ gap := fun gap hgap ↦ by
      refine gapsBetween_nonneg hsorted gap ?_
      rw [← hflat]
      exact List.mem_append_left _ (List.mem_flatten.mpr ⟨b, hmem, hgap⟩)
    obtain ⟨hle, hin⟩ := worst_spec hnonneg
    rw [hpub.worst, hb]
    exact ⟨hin hne, hle⟩
  · rw [hpub.count, hpub.worst, hnone]
    exact ⟨rfl, rfl⟩

/-- Three gaps above 20, two of them in the bucket that the third send closes. -/
theorem gaps_partitioned_stall : Partitioned 20 100 [1, 31, 121, 151] :=
  gaps_partitioned 20 100 _ (by decide) (by decide)

/-! ## A bucket of many sends -/

/-- A send with each tick of the clock. -/
def everyTick (n : ℕ) : List Time := (List.range' 1 n).map (↑)

theorem gapsBehind_everyTick (k n : ℕ) :
    gapsBehind k ((List.range' (k + 1) n).map (↑)) = List.replicate n 1 := by
  induction n generalizing k with
  | zero => rfl
  | succ n ih =>
    have hgap : ((k + 1 : ℕ) : Time) - (k : ℕ) = 1 := by
      push_cast
      linarith
    rw [List.range'_succ, List.map_cons, gapsBehind, hgap, ih (k + 1), List.replicate_succ]

/-- The ticks fill one bucket, with the last of them. -/
theorem fill_ticks (n : ℕ) :
    Buckets.fill ((n + 1 : ℕ) : Time) {} (List.replicate (n + 1) 1)
      = { closed := [List.replicate (n + 1) 1], current := [] } := by
  have hopen : ∀ k ≤ n, Buckets.fill ((n + 1 : ℕ) : Time) {} (List.replicate k 1)
      = { closed := [], current := List.replicate k (1 : Time) } := by
    intro k hk
    induction k with
    | zero => rfl
    | succ k ih =>
      rw [List.replicate_succ', Buckets.fill_append, ih (by omega), Buckets.fill_cons, Buckets.fill_nil,
        Buckets.add, if_pos]
      rw [← List.replicate_succ', List.sum_replicate, nsmul_one]
      exact Nat.cast_lt.mpr (by omega)
  rw [List.replicate_succ', Buckets.fill_append, hopen n le_rfl, Buckets.fill_cons, Buckets.fill_nil, Buckets.add,
    if_neg]
  · rfl
  · rw [← List.replicate_succ', List.sum_replicate, nsmul_one]
    exact lt_irrefl _

/-- The published count is the number of gaps above the threshold. -/
def CountsAll (τ β : Time) (times : List Time) : Prop :=
  ∀ b, (buckets β times).closed.getLast? = some b → (trackerBehind τ β times).doneCount.toNat = countAbove τ b

theorem everyTick_sound (n : ℕ) : (everyTick n).Pairwise (· ≤ ·) ∧ ∀ t ∈ everyTick n, 0 < t := by
  have hsorted : (List.range' 1 n).Pairwise (· < ·) := List.pairwise_lt_range'
  refine ⟨List.pairwise_map.mpr (hsorted.imp fun h ↦ Nat.cast_le.mpr h.le), fun t ht ↦ ?_⟩
  obtain ⟨k, hk, rfl⟩ := List.mem_map.mp ht
  have hpos : 1 ≤ k := (List.mem_range'_1.mp hk).1
  exact Nat.cast_pos.mpr hpos

/-- Only a bucket whose gaps fit 32 bits is counted. -/
theorem lt_of_countsAll {n : ℕ} (h : CountsAll 0 (n + 1 : ℕ) (everyTick (n + 1 + 1))) : n + 1 < 2 ^ 32 := by
  have hgaps : gapsBetween (everyTick (n + 1 + 1)) = List.replicate (n + 1) 1 := gapsBehind_everyTick 1 (n + 1)
  have hclosed : (buckets (n + 1 : ℕ) (everyTick (n + 1 + 1))).closed = [List.replicate (n + 1) 1] := by
    rw [buckets, hgaps, fill_ticks]
  have hcount : countAbove 0 (List.replicate (n + 1) 1) = n + 1 := by
    simp [countAbove, List.countP_replicate]
  obtain ⟨hsorted, hepoch⟩ := everyTick_sound (n + 1 + 1)
  have hpub := (trackerBehind_publishes 0 (n + 1 : ℕ) hsorted hepoch).count
  have hall := h (List.replicate (n + 1) 1) (by rw [hclosed]; rfl)
  rw [hpub, hclosed, List.getLast?_singleton, Option.getD_some, hcount, UInt32.toNat_ofNat'] at hall
  exact hall ▸ Nat.mod_lt _ (by positivity)

/-- The count has 32 bits: a bucket with `2 ^ 32` gaps above the threshold is published as one with none. -/
theorem many_gaps_uncounted : ¬ CountsAll 0 (2 ^ 32 : ℕ) (everyTick (2 ^ 32 + 1)) := by
  intro h
  obtain ⟨n, hn⟩ : ∃ n, 2 ^ 32 = n + 1 := ⟨2 ^ 32 - 1, by norm_num⟩
  rw [hn] at h
  exact absurd (lt_of_countsAll h) (by omega)

end DualSenseMitm
