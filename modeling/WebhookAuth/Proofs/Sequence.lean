import Mathlib.Data.List.Basic
import Mathlib.Data.Nat.Init

/-!
# Steps one after another

A step gives a result and leaves a state, in which the next step is taken. The result at an index is
that of the step there in the state before it (`getElem?_results`); what every step preserves holds
in all states after the first in which it does (`before_of_le`); and steps that keep to the states
that others stand for are told by those others (`before_map`).
-/

namespace WebhookAuth.Sequence

variable {State Step Result : Type} (act : State → Step → Result) (left : Result → State)
  {start : State} {steps : List Step} {step : Step} {i j : ℕ}

/-- The results of the steps. -/
def results : State → List Step → List Result
  | _, [] => []
  | state, step :: steps => act state step :: results (left (act state step)) steps

/-- The state in which the step at an index is taken. -/
def before (start : State) (steps : List Step) (i : ℕ) : State :=
  (steps.take i).foldl (fun state step => left (act state step)) start

@[simp] theorem before_zero : before act left start steps 0 = start := rfl

theorem before_succ (h : steps[i]? = some step) :
    before act left start steps (i + 1) = left (act (before act left start steps i) step) := by
  unfold before
  rw [List.take_add_one, h, Option.toList_some, List.foldl_append]
  rfl

theorem before_succ_of_none (h : steps[i]? = none) :
    before act left start steps (i + 1) = before act left start steps i := by
  unfold before
  rw [List.take_add_one, h, Option.toList_none, List.append_nil]

theorem getElem?_results (start : State) (steps : List Step) (i : ℕ) :
    (results act left start steps)[i]? = steps[i]?.map (act (before act left start steps i)) := by
  induction steps generalizing start i with
  | nil => rfl
  | cons step steps ih =>
    cases i with
    | zero => rfl
    | succ i => exact ih _ i

/-- Where each step from a state that `f` makes leaves what `f` makes of the state that another step
leaves, all states are those that `f` makes. -/
theorem before_map {State' Result' : Type} (act' : State' → Step → Result')
    (left' : Result' → State') (f : State' → State)
    (hstep : ∀ state step, left (act (f state) step) = f (left' (act' state step)))
    (start : State') (steps : List Step) (i : ℕ) :
    before act left (f start) steps i = f (before act' left' start steps i) :=
  List.foldl_hom f hstep

/-- What the steps from an index on preserve holds from there on. -/
theorem before_of_le {P : State → Prop} (hij : i ≤ j) (hi : P (before act left start steps i))
    (hstep : ∀ k step, i ≤ k → k < j → steps[k]? = some step →
      P (before act left start steps k) → P (left (act (before act left start steps k) step))) :
    P (before act left start steps j) := by
  induction j, hij using Nat.le_induction with
  | base => exact hi
  | succ j hij ih =>
    have hj : P (before act left start steps j) :=
      ih fun k step hik hkj => hstep k step hik (by omega)
    cases h : steps[j]? with
    | none =>
      rw [before_succ_of_none act left h]
      exact hj
    | some step =>
      rw [before_succ act left h]
      exact hstep j step hij (by omega) h hj

end WebhookAuth.Sequence
