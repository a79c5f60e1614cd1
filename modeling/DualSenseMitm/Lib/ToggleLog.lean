import Mathlib.Data.List.Nodup
import Mathlib.Logic.Function.Basic

/-!
# A log of what changes

A set of keys that are on or off is observed again and again, and each key that has changed is written down
in a fixed order.  Nothing is lost by that: the log gives back every set that was observed.

* `replay_marks`, `replay_log` — the log, replayed from the first set, gives the last.
* `about_marks` — a key that has changed is written down once, any other is not.
* `alternates_log` — the lines about one key alternate, and start with the opposite of what it was.
-/

set_option autoImplicit false

namespace ToggleLog

variable {κ : Type*} [DecidableEq κ]

/-- A line of the log: a key that is now on, or off. -/
structure Mark (κ : Type*) where
  key : κ
  on : Bool
deriving DecidableEq

/-- The keys that differ between two sets, in this order. -/
def marks (keys : List κ) (s t : κ → Bool) : List (Mark κ) :=
  keys.filterMap fun k ↦ if s k = t k then none else some ⟨k, t k⟩

/-- The log of the sets that were observed behind the first. -/
def log (keys : List κ) : (κ → Bool) → List (κ → Bool) → List (Mark κ)
  | _, [] => []
  | s, t :: ts => marks keys s t ++ log keys t ts

/-- The set a log leads to. -/
def replay (s : κ → Bool) (ms : List (Mark κ)) : κ → Bool :=
  ms.foldl (fun s m ↦ Function.update s m.key m.on) s

/-- What a log says of one key. -/
def about (k : κ) (ms : List (Mark κ)) : List Bool :=
  ms.filterMap fun m ↦ if m.key = k then some m.on else none

/-- Each value is the opposite of the one before it. -/
def Alternates : Bool → List Bool → Prop
  | _, [] => True
  | b, x :: xs => x = !b ∧ Alternates x xs

variable {keys : List κ} {s t : κ → Bool}

theorem about_append (k : κ) (ms ns : List (Mark κ)) : about k (ms ++ ns) = about k ms ++ about k ns :=
  List.filterMap_append

theorem replay_append (s : κ → Bool) (ms ns : List (Mark κ)) :
    replay s (ms ++ ns) = replay (replay s ms) ns := List.foldl_append

/-- What a key is behind a log: what it was, unless the log speaks of it. -/
theorem replay_apply (s : κ → Bool) (ms : List (Mark κ)) (k : κ) :
    replay s ms k = (about k ms).getLastD (s k) := by
  induction ms generalizing s with
  | nil => rfl
  | cons m ms ih =>
    have hcons : replay s (m :: ms) = replay (Function.update s m.key m.on) ms := rfl
    rw [hcons, ih, about, about, List.filterMap_cons]
    by_cases hk : m.key = k
    · subst hk
      rw [Function.update_self, if_pos rfl, List.getLastD_cons]
    · rw [Function.update_of_ne (Ne.symm hk), if_neg hk]

/-- One observation: each key that has changed is written down once. -/
theorem about_marks (hnodup : keys.Nodup) {k : κ} (hk : k ∈ keys) :
    about k (marks keys s t) = if s k = t k then [] else [t k] := by
  induction keys with
  | nil => cases hk
  | cons a keys ih =>
    obtain ⟨hfresh, hnodup⟩ := List.nodup_cons.mp hnodup
    have hsplit : about k (marks (a :: keys) s t)
        = (if a = k then if s a = t a then [] else [t a] else []) ++ about k (marks keys s t) := by
      rw [marks, List.filterMap_cons]
      by_cases ha : s a = t a
      · simp [ha, marks]
      · by_cases hak : a = k
        · subst hak
          simp [ha, about, marks]
        · simp [ha, hak, about, marks]
    rw [hsplit]
    by_cases hak : a = k
    · subst hak
      have hnone : about a (marks keys s t) = [] := by
        refine List.filterMap_eq_nil_iff.mpr fun m hm ↦ ?_
        obtain ⟨b, hb, hmark⟩ := List.mem_filterMap.mp hm
        have hkey : m.key = b := by
          split at hmark
          · cases hmark
          · rw [← Option.some.inj hmark]
        refine if_neg fun h ↦ hfresh ?_
        rwa [← h, hkey]
      rw [if_pos rfl, hnone, List.append_nil]
    · rw [if_neg hak, List.nil_append]
      exact ih hnodup ((List.mem_cons.mp hk).resolve_left (Ne.symm hak))

/-- The log of one observation leads to what was observed. -/
theorem replay_marks (hnodup : keys.Nodup) (hall : ∀ k, k ∈ keys) : replay s (marks keys s t) = t := by
  funext k
  rw [replay_apply, about_marks hnodup (hall k)]
  by_cases h : s k = t k
  · rw [if_pos h]
    exact h
  · rw [if_neg h]
    rfl

theorem replay_log (hnodup : keys.Nodup) (hall : ∀ k, k ∈ keys) (ts : List (κ → Bool)) :
    replay s (log keys s ts) = ts.getLastD s := by
  induction ts generalizing s with
  | nil => rfl
  | cons t ts ih => rw [log, replay_append, replay_marks hnodup hall, ih, List.getLastD_cons]

omit [DecidableEq κ] in
theorem log_append (s : κ → Bool) (ts us : List (κ → Bool)) :
    log keys s (ts ++ us) = log keys s ts ++ log keys (ts.getLastD s) us := by
  induction ts generalizing s with
  | nil => rfl
  | cons t ts ih => rw [List.cons_append, log, log, ih, List.append_assoc, List.getLastD_cons]

/-- The lines about a key alternate. -/
theorem alternates_log (hnodup : keys.Nodup) {k : κ} (hk : k ∈ keys) (ts : List (κ → Bool)) :
    Alternates (s k) (about k (log keys s ts)) := by
  induction ts generalizing s with
  | nil => trivial
  | cons t ts ih =>
    rw [log, about_append, about_marks hnodup hk]
    by_cases h : s k = t k
    · rw [if_pos h, List.nil_append, h]
      exact ih
    · rw [if_neg h]
      have hflip : t k = !s k := by
        cases hs : s k <;> cases ht : t k <;> simp_all
      exact ⟨hflip, ih⟩

end ToggleLog
