import Mathlib.Logic.Relation
import Mathlib.Order.Basic

/-!
# Guarded runs of a machine

A machine is a partial function `step : σ → α → Option σ`: the action `a` is enabled at
the state `s` when `step s a` is a state. A guard `ok : σ → α → Prop` says which actions
a run may take at which state. `Reaches step ok s t` are the runs from `s` to `t` all of
whose steps meet the guard, and `execute step ok s as` is the state after the list of
actions `as`.
-/

namespace Transition

variable {σ α : Type*}

/-- `Step step ok s t`: an enabled action that meets the guard leads from `s` to `t`. -/
def Step (step : σ → α → Option σ) (ok : σ → α → Prop) (s t : σ) : Prop :=
  ∃ a, ok s a ∧ step s a = some t

/-- `Reaches step ok s t`: a run from `s` to `t` all of whose steps meet the guard. -/
def Reaches (step : σ → α → Option σ) (ok : σ → α → Prop) : σ → σ → Prop :=
  Relation.ReflTransGen (Step step ok)

namespace Reaches

variable {step : σ → α → Option σ} {ok : σ → α → Prop} {s t u : σ}

/-- The empty run. -/
theorem refl (s : σ) :
  Reaches step ok s s
  := Relation.ReflTransGen.refl

/-- A run extended by a step at its end. -/
theorem tail {a : α} (h : Reaches step ok s t) (hok : ok t a) (hstep : step t a = some u) :
  Reaches step ok s u
  := Relation.ReflTransGen.tail h ⟨a, hok, hstep⟩

/-- A run extended by a step at its start. -/
theorem head {a : α} (hok : ok s a) (hstep : step s a = some t) (h : Reaches step ok t u) :
  Reaches step ok s u
  := Relation.ReflTransGen.head ⟨a, hok, hstep⟩ h

/-- What every guarded step preserves holds at the end of a run if it holds at its
start. -/
theorem invariant {I : σ → Prop}
    (hI : ∀ s a t, I s → ok s a → step s a = some t → I t)
    (h : Reaches step ok s t) (hs : I s) :
  I t
  := by
  induction h with
  | refl => apply hs
  | tail _ hstep ih =>
      obtain ⟨a, ha, hat⟩ := hstep
      apply hI _ a _ ih ha hat

/-- A quantity that no guarded step decreases does not decrease over a run. -/
theorem monotone {γ : Type*} [Preorder γ] {f : σ → γ}
    (hf : ∀ s a t, ok s a → step s a = some t → f s ≤ f t) (h : Reaches step ok s t) :
  f s ≤ f t
  := by
  apply h.invariant (I := fun u => f s ≤ f u)
  · intro u a v hu ha huv
    apply le_trans hu (hf u a v ha huv)
  · apply le_refl

end Reaches

/-- The state after a list of actions, `none` when one of them is not enabled or does not
meet the guard. -/
def execute (step : σ → α → Option σ) (ok : σ → α → Prop) [∀ s a, Decidable (ok s a)] :
    σ → List α → Option σ
  | s, [] => some s
  | s, a :: as => if ok s a then (step s a).bind fun t => execute step ok t as else none

/-- An executed list of actions is a guarded run. -/
theorem reaches_of_execute {step : σ → α → Option σ} {ok : σ → α → Prop}
    [∀ s a, Decidable (ok s a)] {s t : σ} {as : List α} (h : execute step ok s as = some t) :
  Reaches step ok s t
  := by
  induction as generalizing s with
  | nil =>
      obtain rfl : s = t := by simpa [execute] using h
      apply Reaches.refl
  | cons a as ih =>
      rw [execute] at h
      split at h
      · rename_i hok
        obtain ⟨u, hu, hut⟩ := Option.bind_eq_some_iff.mp h
        apply Reaches.head hok hu (ih hut)
      · cases h

/-- A property of the state after a list of actions is one of a reachable state. -/
theorem exists_reaches_of_execute (step : σ → α → Option σ) (ok : σ → α → Prop)
    [∀ s a, Decidable (ok s a)] (s : σ) (as : List α) (P : σ → Prop) [DecidablePred P]
    (h : ((execute step ok s as).any fun t => decide (P t)) = true) :
  ∃ t, Reaches step ok s t ∧ P t
  := by
  obtain ⟨t, ht, hP⟩ := (Option.any_eq_true _ _).mp h
  use t, reaches_of_execute ht, of_decide_eq_true hP

end Transition
