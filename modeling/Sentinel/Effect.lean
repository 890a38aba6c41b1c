import Mathlib.Data.Set.Defs
import Mathlib.Order.Basic

/-!
# Programs that change a state and may raise

An effect changes a state and returns a value or raises an exception. What it has changed
stays changed when it raises. `Ends x s Q E`: run from the state `s`, the effect `x` returns
a value and ends in a state with `Q`, or raises an exception and ends in a state with `E`.
The rules take an effect apart from its start; `Keeps I x` is the case of a property of the
state that holds before and after, however the effect ends.
-/

universe u

/-- A change of a state that returns a value or raises an exception. -/
abbrev Effect (σ ε : Type u) :=
  ExceptT ε (StateM σ)

namespace Effect

variable {σ ε α β : Type u}

/-- What an effect returns or raises from a state, and the state it leads to. -/
def exec (x : Effect σ ε α) (s : σ) : Except ε α × σ :=
  x.run.run s

/-- How an effect ends when it is run from a state. -/
def Ends (x : Effect σ ε α) (s : σ) (Q : α → σ → Prop) (E : ε → σ → Prop) : Prop :=
  match x.exec s with
  | (.ok a, t) => Q a t
  | (.error e, t) => E e t

variable {x y : Effect σ ε α} {f : α → Effect σ ε β} {s : σ} {Q Q' : α → σ → Prop}
  {R : β → σ → Prop} {E E' : ε → σ → Prop}

/-! ### The rules -/

@[simp]
theorem ends_pure {a : α} :
  Ends (pure a) s Q E ↔ Q a s
  := Iff.rfl

@[simp]
theorem ends_throw {e : ε} :
  Ends (throw e : Effect σ ε α) s Q E ↔ E e s
  := Iff.rfl

@[simp]
theorem ends_get {Q : σ → σ → Prop} :
  Ends (get : Effect σ ε σ) s Q E ↔ Q s s
  := Iff.rfl

@[simp]
theorem ends_modify {g : σ → σ} {Q : PUnit → σ → Prop} :
  Ends (modify g : Effect σ ε PUnit) s Q E ↔ Q ⟨⟩ (g s)
  := Iff.rfl

/-- One effect after another one. -/
@[simp]
theorem ends_bind :
  Ends (x >>= f) s R E ↔ Ends x s (fun a t => Ends (f a) t R E) E
  := by
  have hexec : (x >>= f).exec s = ExceptT.bindCont f (x.exec s).1 (x.exec s).2 := rfl
  rw [Ends, Ends, hexec]
  cases x.exec s with
  | mk r t =>
      cases r with
      | ok a => rfl
      | error e => rfl

/-- An effect whose exceptions are handled. -/
@[simp]
theorem ends_tryCatch {h : ε → Effect σ ε α} :
  Ends (tryCatch x h) s Q E ↔ Ends x s Q fun e t => Ends (h e) t Q E
  := by
  have hexec : (tryCatch x h : Effect σ ε α).exec s = match (x.exec s).1 with
      | .ok a => (.ok a, (x.exec s).2)
      | .error e => (h e).exec (x.exec s).2 := by
    change ((match (x.exec s).1 with
      | .ok a => pure (.ok a)
      | .error e => (h e).run : StateM σ (Except ε α)).run (x.exec s).2) = _
    cases (x.exec s).1 with
    | ok a => rfl
    | error e => rfl
  rw [Ends, Ends, hexec]
  cases x.exec s with
  | mk r t =>
      cases r with
      | ok a => rfl
      | error e => rfl

/-- Less may be said of how an effect ends. -/
theorem Ends.mono (h : Ends x s Q E) (hQ : ∀ a t, Q a t → Q' a t) (hE : ∀ e t, E e t → E' e t) :
  Ends x s Q' E'
  := by
  rw [Ends] at h ⊢
  cases hx : x.exec s with
  | mk r t =>
      rw [hx] at h
      cases r with
      | ok a => apply hQ a t h
      | error e => apply hE e t h

/-- Two things may be said of how an effect ends. -/
theorem Ends.and (h : Ends x s Q E) (h' : Ends x s Q' E') :
  Ends x s (fun a t => Q a t ∧ Q' a t) fun e t => E e t ∧ E' e t
  := by
  rw [Ends] at h h' ⊢
  cases hx : x.exec s with
  | mk r t =>
      rw [hx] at h h'
      cases r with
      | ok a => exact ⟨h, h'⟩
      | error e => exact ⟨h, h'⟩

/-- An effect that does not raise returns a value. -/
theorem Ends.exists_exec (h : Ends x s Q fun _ _ => False) :
  ∃ a t, x.exec s = (.ok a, t) ∧ Q a t
  := by
  rw [Ends] at h
  cases hx : x.exec s with
  | mk r t =>
      rw [hx] at h
      cases r with
      | ok a => exact ⟨a, t, rfl, h⟩
      | error e => exact h.elim

/-! ### What an effect keeps -/

/-- A property of the state that holds after an effect when it holds before. -/
def Keeps (I : σ → Prop) (x : Effect σ ε α) : Prop :=
  ∀ s, I s → Ends x s (fun _ t => I t) fun _ t => I t

variable {I : σ → Prop}

theorem keeps_pure (a : α) :
  Keeps I (pure a : Effect σ ε α)
  := fun _ h => h

theorem keeps_throw (e : ε) :
  Keeps I (throw e : Effect σ ε α)
  := fun _ h => h

theorem Keeps.bind (h : Keeps I x) (hf : ∀ a, Keeps I (f a)) :
  Keeps I (x >>= f)
  := by
  intro s hs
  rw [ends_bind]
  apply (h s hs).mono
  · intro a t ht
    apply hf a t ht
  · intro e t ht
    apply ht

theorem Keeps.tryCatch {h : ε → Effect σ ε α} (hx : Keeps I x) (hh : ∀ e, Keeps I (h e)) :
  Keeps I (tryCatch x h)
  := by
  intro s hs
  rw [ends_tryCatch]
  apply (hx s hs).mono
  · intro a t ht
    apply ht
  · intro e t ht
    apply hh e t ht

end Effect
