import Mathlib.Data.List.Basic

/-!
# Machines driven by a list of inputs

A machine is a step function `σ → ι → σ`.  Everything a machine may meet, nondeterminism of its
surroundings included, is part of the input, so a run is determined by the list of its inputs and
"for every run" is "for every list".

* `run step s is` — the state a run ends in, with `run_append` to cut it anywhere.
* `Along step ok s is` — every step of the run is taken from a state and with an input that meet
  `ok`.  A protocol's assumptions about its surroundings are stated this way.
* `run_invariant` and `run_invariant_of_along` — the induction over a run, made once: what holds
  at the start and is kept by every (permitted) step holds wherever a run ends.
* `Reaches step ok s t` — a permitted run leads from `s` to `t`: how to say what a function may do.
* `withHistory step mon` — the same machine carrying a history variable, which the machine itself
  never reads (`run_withHistory_fst`).
* `trace` and `run_trace` — a machine seen through another one: if each step looks like a run of the
  coarser machine, so does a run.
-/

set_option autoImplicit false

namespace Machine

variable {σ ι γ : Type*} (step : σ → ι → σ)

/-- The state a run over the inputs `is` ends in. -/
def run (s : σ) (is : List ι) : σ := is.foldl step s

@[simp] theorem run_nil (s : σ) : run step s [] = s := rfl

@[simp] theorem run_cons (s : σ) (i : ι) (is : List ι) :
    run step s (i :: is) = run step (step s i) is := rfl

theorem run_append (s : σ) (is js : List ι) :
    run step s (is ++ js) = run step (run step s is) js := List.foldl_append

@[simp] theorem run_concat (s : σ) (is : List ι) (i : ι) :
    run step s (is ++ [i]) = step (run step s is) i := by
  rw [run_append, run_cons, run_nil]

/-! ## Runs whose every step is permitted -/

/-- Every step of the run is taken from a state and with an input that meet `ok`. -/
def Along (ok : σ → ι → Prop) : σ → List ι → Prop
  | _, [] => True
  | s, i :: is => ok s i ∧ Along ok (step s i) is

variable {step}

instance decidableAlong {ok : σ → ι → Prop} [∀ s i, Decidable (ok s i)] (s : σ) :
    (is : List ι) → Decidable (Along step ok s is)
  | [] => isTrue trivial
  | i :: is =>
    have : Decidable (Along step ok (step s i) is) := decidableAlong (step s i) is
    inferInstanceAs (Decidable (ok s i ∧ Along step ok (step s i) is))

theorem along_append {ok : σ → ι → Prop} {s : σ} {is js : List ι} :
    Along step ok s (is ++ js) ↔ Along step ok s is ∧ Along step ok (run step s is) js := by
  induction is generalizing s with
  | nil => simp [Along]
  | cons i is ih => simp [Along, ih, and_assoc]

theorem Along.mono {ok ok' : σ → ι → Prop} (himp : ∀ s i, ok s i → ok' s i) {s : σ} {is : List ι}
    (h : Along step ok s is) : Along step ok' s is := by
  induction is generalizing s with
  | nil => trivial
  | cons i is ih => exact ⟨himp s i h.1, ih h.2⟩

/-- A run is permitted when the last step of each of its prefixes is. -/
theorem along_iff_prefixes {ok : σ → ι → Prop} {s : σ} {is : List ι} :
    Along step ok s is ↔ ∀ pre i, pre ++ [i] <+: is → ok (run step s pre) i := by
  constructor
  · rintro h pre i ⟨post, rfl⟩
    exact (along_append.mp (along_append.mp h).1).2.1
  · intro h
    induction is generalizing s with
    | nil => trivial
    | cons j is ih =>
      refine ⟨h [] j ⟨is, rfl⟩, ih fun pre i hpre ↦ ?_⟩
      exact h (j :: pre) i (List.cons_prefix_cons.mpr ⟨rfl, hpre⟩)

theorem Along.of_prefix {ok : σ → ι → Prop} {s : σ} {is pre : List ι} (h : Along step ok s is)
    (hpre : pre <+: is) : Along step ok s pre := by
  obtain ⟨post, rfl⟩ := hpre
  exact (along_append.mp h).1

/-- **The induction over a permitted run.**  What holds at the start and is kept by every step
that `ok` permits holds where the run ends. -/
theorem run_invariant_of_along {ok : σ → ι → Prop} {Inv : σ → Prop} {s : σ} {is : List ι}
    (h0 : Inv s) (hstep : ∀ s i, Inv s → ok s i → Inv (step s i)) (h : Along step ok s is) :
    Inv (run step s is) := by
  induction is generalizing s with
  | nil => exact h0
  | cons i is ih => exact ih (hstep s i h0 h.1) h.2

/-- The induction over a run with no condition on its steps. -/
theorem run_invariant {Inv : σ → Prop} {s : σ} (is : List ι) (h0 : Inv s)
    (hstep : ∀ s i, Inv s → Inv (step s i)) : Inv (run step s is) := by
  induction is generalizing s with
  | nil => exact h0
  | cons i is ih => exact ih (hstep s i h0)

theorem along_congr {ok ok' : σ → ι → Prop} {s : σ} {is : List ι}
    (h : ∀ s, ∀ i ∈ is, (ok s i ↔ ok' s i)) : Along step ok s is ↔ Along step ok' s is := by
  induction is generalizing s with
  | nil => rfl
  | cons i is ih =>
    exact and_congr (h s i (by simp)) (ih fun s j hj ↦ h s j (by simp [hj]))

theorem along_const {ok : ι → Prop} {s : σ} {is : List ι} :
    Along step (fun _ i ↦ ok i) s is ↔ ∀ i ∈ is, ok i := by
  induction is generalizing s with
  | nil => simp [Along]
  | cons i is ih => simp [Along, ih]

theorem along_and {ok ok' : σ → ι → Prop} {s : σ} {is : List ι} :
    Along step (fun s i ↦ ok s i ∧ ok' s i) s is ↔ Along step ok s is ∧ Along step ok' s is := by
  induction is generalizing s with
  | nil => simp [Along]
  | cons i is ih => rw [Along, Along, Along, ih, and_and_and_comm]

/-- What a permitted step shows of itself, in a state that meets the invariant, every step of a
permitted run shows. -/
theorem Along.of_invariant {ok P : σ → ι → Prop} {Inv : σ → Prop} {s : σ} {is : List ι}
    (h : Along step ok s is) (h0 : Inv s)
    (hstep : ∀ s i, Inv s → ok s i → Inv (step s i) ∧ P s i) : Along step P s is := by
  induction is generalizing s with
  | nil => trivial
  | cons i is ih => exact ⟨(hstep s i h0 h.1).2, ih h.2 (hstep s i h0 h.1).1⟩

/-- Conditions that agree at every step of a run agree on the run. -/
theorem Along.congr {ok ok' : σ → ι → Prop} {s : σ} {is : List ι}
    (h : Along step (fun s i ↦ ok s i ↔ ok' s i) s is) : Along step ok s is ↔ Along step ok' s is := by
  induction is generalizing s with
  | nil => rfl
  | cons i is ih => exact and_congr h.1 (ih h.2)

/-- **When every step of a run is permitted.**  If each step is permitted exactly when it keeps `P`,
then `P` holds where a run ends exactly when it held at the start and every step was permitted. -/
theorem run_iff_along {ok : σ → ι → Prop} {Inv P : σ → Prop} {s : σ} {is : List ι} (h0 : Inv s)
    (hinv : ∀ s i, Inv s → Inv (step s i)) (hstep : ∀ s i, Inv s → (P (step s i) ↔ P s ∧ ok s i)) :
    P (run step s is) ↔ P s ∧ Along step ok s is := by
  induction is generalizing s with
  | nil => simp [Along]
  | cons i is ih => rw [run_cons, ih (hinv s i h0), hstep s i h0, Along, and_assoc]

/-- **When a property is never lost.**  If, on the steps that are fine, `P` survives a step exactly when
`ok` permits it, then every state of a run has `P` exactly when `ok` permits every step. -/
theorem along_kept_iff {fine ok : σ → ι → Prop} {Inv P : σ → Prop} {s : σ} {is : List ι}
    (h0 : Inv s) (hp : P s) (hinv : ∀ s i, Inv s → fine s i → Inv (step s i))
    (hstep : ∀ s i, Inv s → fine s i → P s → (P (step s i) ↔ ok s i))
    (hfine : Along step fine s is) :
    Along step (fun s i ↦ P (step s i)) s is ↔ Along step ok s is := by
  induction is generalizing s with
  | nil => rfl
  | cons i is ih =>
    rw [Along, Along, hstep s i h0 hfine.1 hp]
    refine and_congr_right fun hok ↦ ?_
    exact ih (hinv s i h0 hfine.1) ((hstep s i h0 hfine.1 hp).mpr hok) hfine.2

/-- What every step only adds to, a run only adds to. -/
theorem prefix_run {ο : Type*} {f : σ → List ο} (h : ∀ s i, f s <+: f (step s i)) (s : σ)
    (is : List ι) : f s <+: f (run step s is) := by
  induction is generalizing s with
  | nil => exact List.prefix_rfl
  | cons i is ih => exact (h s i).trans (ih _)

/-! ## Reaching a state by permitted steps

A computation inside one step of a machine is itself a run, of smaller operations.  What a function
may do to the state is then said by naming the operations it is made of. -/

variable (step) in
/-- Some run, every step of it permitted, leads from one state to the other. -/
def Reaches (ok : σ → ι → Prop) (s t : σ) : Prop := ∃ is, Along step ok s is ∧ run step s is = t

namespace Reaches

variable {ok ok' : σ → ι → Prop} {s t u : σ}

@[refl] theorem refl (s : σ) : Reaches step ok s s := ⟨[], trivial, rfl⟩

theorem trans (h : Reaches step ok s t) (h' : Reaches step ok t u) : Reaches step ok s u := by
  obtain ⟨is, hok, rfl⟩ := h
  obtain ⟨js, hok', rfl⟩ := h'
  exact ⟨is ++ js, along_append.mpr ⟨hok, hok'⟩, run_append step s is js⟩

/-- One more permitted step. -/
theorem tail (h : Reaches step ok s t) (i : ι) (hi : ok t i) : Reaches step ok s (step t i) :=
  h.trans ⟨[i], ⟨hi, trivial⟩, rfl⟩

theorem single (i : ι) (hi : ok s i) : Reaches step ok s (step s i) := (refl s).tail i hi

theorem mono (h : Reaches step ok s t) (himp : ∀ s i, ok s i → ok' s i) : Reaches step ok' s t := by
  obtain ⟨is, hok, rfl⟩ := h
  exact ⟨is, hok.mono himp, rfl⟩

theorem ite {c : Prop} [Decidable c] (ht : c → Reaches step ok s t) (hu : ¬ c → Reaches step ok s u) :
    Reaches step ok s (if c then t else u) := by
  by_cases hc : c
  · rw [if_pos hc]; exact ht hc
  · rw [if_neg hc]; exact hu hc

/-- What every permitted step keeps is kept. -/
theorem invariant (Inv : σ → Prop) (h : Reaches step ok s t) (h0 : Inv s)
    (hstep : ∀ s i, Inv s → ok s i → Inv (step s i)) : Inv t := by
  obtain ⟨is, hok, rfl⟩ := h
  exact run_invariant_of_along h0 hstep hok

/-- A fold of functions that each reach by permitted steps. -/
theorem foldl {β : Type*} (f : σ → β → σ) (l : List β)
    (hf : ∀ s, ∀ b ∈ l, Reaches step ok s (f s b)) (s : σ) : Reaches step ok s (l.foldl f s) := by
  induction l generalizing s with
  | nil => exact refl s
  | cons b l ih =>
    exact (hf s b (by simp)).trans (ih (fun s c hc ↦ hf s c (by simp [hc])) (f s b))

end Reaches

/-! ## History variables -/

variable (step)

/-- The machine carrying a history variable, updated from the state and the input of each step. -/
def withHistory (mon : γ → σ → ι → γ) (p : σ × γ) (i : ι) : σ × γ :=
  (step p.1 i, mon p.2 p.1 i)

/-- A history variable does not change what the machine does. -/
theorem run_withHistory_fst (mon : γ → σ → ι → γ) (p : σ × γ) (is : List ι) :
    (run (withHistory step mon) p is).1 = run step p.1 is := by
  induction is generalizing p with
  | nil => rfl
  | cons i is ih => exact ih _

/-- A condition on the machine alone does not see the history. -/
theorem along_withHistory {ok : σ → ι → Prop} (mon : γ → σ → ι → γ) {p : σ × γ} {is : List ι} :
    Along (withHistory step mon) (fun q i ↦ ok q.1 i) p is ↔ Along step ok p.1 is := by
  induction is generalizing p with
  | nil => rfl
  | cons i is ih => exact and_congr_right fun _ ↦ ih

/-! ## Histories of a trace

A history can also be read off a trace: a machine whose inputs are what another one has put out.
What must hold at each output is then a condition on the steps of that machine. -/

section traces

variable {ο : Type*} {observe : γ → ο → γ} {new : List ο}

/-- What says nothing to a history does not change it. -/
theorem run_append_of_silent (start : γ) (out : List ο) (h : ∀ o ∈ new, ∀ k, observe k o = k) :
    run observe start (out ++ new) = run observe start out := by
  rw [run_append]
  generalize run observe start out = k
  induction new with
  | nil => rfl
  | cons o new ih =>
    rw [run_cons, h o (by simp)]
    exact ih fun o' ho' ↦ h o' (by simp [ho'])

/-- What must hold at no output that was added holds of a trace if it held before. -/
theorem along_append_of_silent {ok : γ → ο → Prop} (start : γ) (out : List ο)
    (h : ∀ o ∈ new, ∀ k, ok k o) : Along observe ok start (out ++ new) ↔ Along observe ok start out := by
  rw [along_append, and_iff_left]
  have hall : Along observe (fun _ o ↦ ∀ k, ok k o) (run observe start out) new :=
    along_const.mpr h
  exact hall.mono fun k o ho ↦ ho k

end traces

/-! ## A machine seen through another

What a step shows is a list of events of a coarser machine, and the view of its state is the state that
machine comes to with them. -/

section views

variable {α ε : Type*} {step} {coarse : α → ε → α} {view : σ → α} {shows : σ → ι → List ε}

variable (step) in
/-- What a run shows. -/
def trace (shows : σ → ι → List ε) : σ → List ι → List ε
  | _, [] => []
  | s, i :: is => shows s i ++ trace shows (step s i) is

/-- **The coarser machine goes along.** -/
theorem run_trace (h : ∀ s i, view (step s i) = run coarse (view s) (shows s i)) (s : σ) (is : List ι) :
    view (run step s is) = run coarse (view s) (trace step shows s is) := by
  induction is generalizing s with
  | nil => rfl
  | cons i is ih => rw [run_cons, ih, h, trace, run_append]

end views

end Machine
