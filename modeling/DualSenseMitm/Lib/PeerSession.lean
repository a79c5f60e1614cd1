import DualSenseMitm.Lib.Machine
import Mathlib.Data.Finset.Erase
import Mathlib.Data.Finset.Insert
import Mathlib.Data.List.Induction
import Mathlib.Logic.Function.Basic

/-!
# The session with one peer

An end point talks to its peer over links that come and go, of which one is the current one, and over
channels, to each of which the peer gives a remote end.  The channels are those of the current link: they
start over when it goes, or when another one takes its place.

* `PeerSession.step` — what becomes of a session when a link comes up or goes, or a channel gets an end.
* `PeerSession.current_run` — the current link is one of the links there are.
* `PeerSession.named` — a channel's end was named for it since the channels started over last, and no other one
  was named for it then.
-/

set_option autoImplicit false

open Machine

/-- The links to a peer and the remote ends of the channels; `0` where there is none. -/
structure PeerSession (H C E : Type*) where
  current : H
  links : Finset H
  ends : C → E

/-- What happens to a session. -/
inductive PeerEvent (H C E : Type*)
  | up (h : H)
  | down (h : H)
  | name (c : C) (e : E)
deriving DecidableEq

namespace PeerSession

variable {H C E : Type*} [DecidableEq H] [DecidableEq C] [Zero H] [Zero E]

/-- The channels start over. -/
def StartsOver (x : PeerSession H C E) : PeerEvent H C E → Prop
  | .up h => x.current ≠ 0 ∧ x.current ≠ h
  | .down h => h = x.current
  | .name .. => False

instance (x : PeerSession H C E) (e : PeerEvent H C E) : Decidable (x.StartsOver e) := by
  cases e with
  | up h => exact inferInstanceAs (Decidable (_ ∧ _))
  | down h => exact inferInstanceAs (Decidable (_ = _))
  | name => exact .isFalse id

def step (x : PeerSession H C E) (e : PeerEvent H C E) : PeerSession H C E :=
  let ends := if x.StartsOver e then fun _ ↦ 0 else x.ends
  match e with
  | .up h => ⟨h, insert h x.links, ends⟩
  | .down h => ⟨if h = x.current then 0 else x.current, x.links.erase h, ends⟩
  | .name c d => ⟨x.current, x.links, Function.update ends c d⟩

/-- No session yet. -/
def none : PeerSession H C E := ⟨0, ∅, fun _ ↦ 0⟩

/-- **The current link is there.** -/
theorem current_run (es : List (PeerEvent H C E)) :
    (run step none es).current = 0 ∨ (run step none es).current ∈ (run step none es).links := by
  refine @run_invariant _ _ _ (fun x : PeerSession H C E ↦ x.current = 0 ∨ x.current ∈ x.links) _ es (.inl rfl) ?_
  intro x e h
  cases e with
  | up h => exact .inr (Finset.mem_insert_self _ _)
  | down h' =>
    by_cases hcur : h' = x.current
    · exact .inl (if_pos hcur)
    · refine h.imp (fun h0 ↦ (if_neg hcur).trans h0) fun hmem ↦ ?_
      show (if h' = x.current then 0 else x.current) ∈ x.links.erase h'
      rw [if_neg hcur]
      exact Finset.mem_erase.mpr ⟨Ne.symm hcur, hmem⟩
  | name => exact h

/-- The end of a channel stands behind an event. -/
def Stands (c : C) (x : PeerSession H C E) (e : PeerEvent H C E) : Prop :=
  ¬ x.StartsOver e ∧ ∀ d, e ≠ .name c d

theorem ends_step {x : PeerSession H C E} {e : PeerEvent H C E} {c : C} (h : Stands c x e) :
    (x.step e).ends c = x.ends c := by
  cases e with
  | up | down => exact congrFun (if_neg h.1) c
  | name b d =>
    have hne : c ≠ b := fun hc ↦ h.2 d (by rw [hc])
    exact (Function.update_of_ne hne _ _).trans rfl

theorem ends_of_not_stands {x : PeerSession H C E} {e : PeerEvent H C E} {c : C} (h : ¬ Stands c x e) :
    (x.step e).ends c = 0 ∨ e = .name c ((x.step e).ends c) := by
  by_cases hover : x.StartsOver e
  · cases e with
    | up | down => exact .inl (congrFun (if_pos hover) c)
    | name => exact absurd hover id
  · have hnamed : ∃ d, e = .name c d := by
      by_contra hno
      exact h ⟨hover, fun d hd ↦ hno ⟨d, hd⟩⟩
    obtain ⟨d, rfl⟩ := hnamed
    exact .inr (congrArg _ (Function.update_self c d x.ends).symm)

/-- **Where an end comes from.**  It was named for its channel, and nothing took it off since. -/
theorem named {es : List (PeerEvent H C E)} {c : C} (h : (run step none es).ends c ≠ 0) :
    ∃ pre post, es = pre ++ .name c ((run step none es).ends c) :: post
      ∧ Along step (Stands c) (run step none (pre ++ [.name c ((run step none es).ends c)])) post := by
  induction es using List.reverseRecOn with
  | nil => exact absurd rfl h
  | append_singleton es e ih =>
    rw [run_concat] at h ⊢
    by_cases hstands : Stands c (run step none es) e
    · have hkept := ends_step hstands
      rw [hkept] at h ⊢
      obtain ⟨pre, post, hes, hstood⟩ := ih h
      refine ⟨pre, post ++ [e], ?_, along_append.mpr ⟨hstood, ?_, trivial⟩⟩
      · exact (congrArg (· ++ [e]) hes).trans (List.append_assoc _ _ _)
      · rw [← run_append, List.append_assoc, List.singleton_append, ← hes]
        exact hstands
    · rcases ends_of_not_stands hstands with h0 | hname
      · exact absurd h0 h
      · exact ⟨es, [], by rw [← hname], trivial⟩

end PeerSession
