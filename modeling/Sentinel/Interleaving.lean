import Sentinel.Transition
import Mathlib.Logic.Function.Basic

/-!
# Processes that share a state

Any number of processes take turns. A process sees a state that it shares with the others and
a state of its own, and changes both; the environment changes the shared state. What a process
keeps true of its own state has to survive what the others do to the shared one
(`Keeps.invariant`).
-/

namespace Interleaving

/-- The shared state, and the state of each process. -/
structure State (ι σ τ : Type*) where
  shared : σ
  processes : ι → τ

/-- A process acts, or the environment. -/
inductive Action (ι ε η : Type*) where
  | process (i : ι) (event : ε)
  | environment (event : η)

variable {ι σ τ ε η : Type*} [DecidableEq ι]

/-- What an action does, when an event of the process `i` does `act i` and one of the
environment does `env`. -/
def step (act : ι → σ → τ → ε → Option (σ × τ)) (env : σ → η → Option σ)
    (s : State ι σ τ) : Action ι ε η → Option (State ι σ τ)
  | .process i event =>
      (act i s.shared (s.processes i) event).map fun next =>
        { shared := next.1
          processes := Function.update s.processes i next.2 }
  | .environment event => (env s.shared event).map fun shared => { s with shared := shared }

/-- The events of the processes meet a guard. -/
def Guard (ok : σ → τ → ε → Prop) (s : State ι σ τ) : Action ι ε η → Prop
  | .process i event => ok s.shared (s.processes i) event
  | .environment _ => True

instance (ok : σ → τ → ε → Prop) [∀ c q event, Decidable (ok c q event)] (s : State ι σ τ)
    (a : Action ι ε η) : Decidable (Guard ok s a) :=
  match a with
  | .process i event => inferInstanceAs (Decidable (ok s.shared (s.processes i) event))
  | .environment _ => inferInstanceAs (Decidable True)

/-- The events of processes that meet the guard `ok` keep `G` of the shared state, and `I` of it
and of the state of each process. -/
structure Keeps (act : ι → σ → τ → ε → Option (σ × τ)) (env : σ → η → Option σ)
    (ok : σ → τ → ε → Prop) (G : σ → Prop) (I : ι → σ → τ → Prop) : Prop where
  own : ∀ {i c q event c' q'}, G c → I i c q → ok c q event → act i c q event = some (c', q') →
    G c' ∧ I i c' q'
  other : ∀ {i j c q p event c' q'}, i ≠ j → G c → I i c q → I j c p →
    act i c q event = some (c', q') → I j c' p
  environment : ∀ {c event c'}, G c → env c event = some c' →
    G c' ∧ ∀ i q, I i c q → I i c' q

variable {act : ι → σ → τ → ε → Option (σ × τ)} {env : σ → η → Option σ}
  {ok : σ → τ → ε → Prop} {G : σ → Prop} {I : ι → σ → τ → Prop}

/-- An event of a process does to the shared state and to its own what the process does. -/
theorem act_of_step {s t : State ι σ τ} {i : ι} {event : ε}
    (h : step act env s (.process i event) = some t) :
  act i s.shared (s.processes i) event = some (t.shared, t.processes i)
  := by
  obtain ⟨⟨c, q⟩, hact, rfl⟩ := Option.map_eq_some_iff.mp h
  dsimp only
  rw [Function.update_self, hact]

/-- What every event keeps is an invariant of the runs. -/
theorem Keeps.invariant (h : Keeps act env ok G I) {s t : State ι σ τ}
    (hrun : Transition.Reaches (step act env) (Guard ok) s t)
    (hs : G s.shared ∧ ∀ i, I i s.shared (s.processes i)) :
  G t.shared ∧ ∀ i, I i t.shared (t.processes i)
  := by
  refine hrun.invariant (I := fun t => G t.shared ∧ ∀ i, I i t.shared (t.processes i)) ?_ hs
  rintro u a v ⟨hG, hI⟩ hok hstep
  cases a with
  | process i event =>
      obtain ⟨⟨c, q⟩, hact, rfl⟩ := Option.map_eq_some_iff.mp hstep
      obtain ⟨hG', hown⟩ := h.own hG (hI i) hok hact
      use hG'
      intro j
      by_cases hij : j = i
      · subst hij
        dsimp only
        rw [Function.update_self]
        apply hown
      · dsimp only
        rw [Function.update_of_ne hij]
        apply h.other (Ne.symm hij) hG (hI i) (hI j) hact
  | environment event =>
      obtain ⟨c, henv, rfl⟩ := Option.map_eq_some_iff.mp hstep
      obtain ⟨hG', henvI⟩ := h.environment hG henv
      use hG'
      intro i
      apply henvI i _ (hI i)

end Interleaving
