import Mathlib

/-!
# Labelled transition systems and their runs

A system is a partial step function: in a state it takes an action and
either moves to a next state or refuses, the action not being enabled
there. Nothing is said about who takes the action – several threads and
the world outside them are one action type – so that a run is one
interleaving of all of them and a statement about every run is a
statement about every interleaving.

A run may be constrained. `Reaches step ok s t` says that `t` is reached
from `s` by steps that each satisfy `ok`, a condition on the action and
on the state it is taken in. Every safety result is an instance of one
induction, `Reaches.invariant`: what holds at the start and is kept by
each admissible step holds wherever the run gets to. `Reaches.mono` lets
a result about a weaker condition be used under a stronger one.

`runActions` executes a list of actions and checks each of them, and
`reaches_of_runActions` says that the execution is a run. It is how a
concrete interleaving is exhibited.
-/

variable {S A : Type*}

/-- **A constrained run**: `t` is reached from `s` by enabled steps, each
satisfying `ok` in the state it is taken in. -/
inductive Reaches (step : S → A → Option S) (ok : S → A → Prop) (s : S) : S → Prop
  | refl : Reaches step ok s s
  | tail {t u : S} (a : A) : Reaches step ok s t → ok t a → step t a = some u →
      Reaches step ok s u

namespace Reaches

variable {step : S → A → Option S} {ok ok' : S → A → Prop} {s t : S}

/-- **The invariant rule.** A property of the initial state that every
admissible step keeps holds of every state of the run. -/
theorem invariant (I : S → Prop) (h : Reaches step ok s t) (h₀ : I s)
    (hstep : ∀ u a v, I u → ok u a → step u a = some v → I v) : I t := by
  induction h with
  | refl => exact h₀
  | tail a _ hok hs ih => exact hstep _ a _ ih hok hs

/-- A run under a condition is a run under any weaker one. -/
theorem mono (h : Reaches step ok s t) (himp : ∀ u a, ok u a → ok' u a) :
    Reaches step ok' s t := by
  induction h with
  | refl => exact refl
  | tail a _ hok hs ih => exact tail a ih (himp _ _ hok) hs

end Reaches

/-- Executes a list of actions, stopping at the first one that is refused
or does not pass the check. -/
def runActions (step : S → A → Option S) (check : S → A → Bool) : S → List A → Option S
  | s, [] => some s
  | s, a :: rest =>
    if check s a then (step s a).bind fun t => runActions step check t rest else none

/-- **An execution is a run**, under any condition that the check implies
for its actions. -/
theorem reaches_of_runActions {step : S → A → Option S} {ok : S → A → Prop}
    {check : S → A → Bool} {s₀ s t : S} {as : List A}
    (hcheck : ∀ a ∈ as, ∀ s, check s a = true → ok s a) (h₀ : Reaches step ok s₀ s)
    (h : runActions step check s as = some t) : Reaches step ok s₀ t := by
  induction as generalizing s with
  | nil =>
    cases h
    exact h₀
  | cons a rest ih =>
    rw [runActions] at h
    split at h
    next ha =>
      obtain ⟨u, hu, hrest⟩ := Option.bind_eq_some_iff.mp h
      exact ih (fun b hb => hcheck b (List.mem_cons_of_mem a hb))
        (h₀.tail a (hcheck a List.mem_cons_self s ha) hu) hrest
    · cases h
