import Mathlib.Algebra.BigOperators.Group.List.Basic
import Mathlib.Algebra.Group.Basic

/-!
# Changes that follow one another

A list of changes, each from a value to a value, tiles the way from `a` to `b` when the first one
starts at `a`, each of the others where the one before it ended, and the last one ends at `b`.
-/

variable {α : Type*}

/-- The changes lead from `a` to `b` without a gap. -/
def Tiles (a : α) : List (α × α) → α → Prop
  | [], b => a = b
  | change :: changes, b => change.1 = a ∧ Tiles change.2 changes b

namespace Tiles

/-- The first change is from where the way starts. -/
theorem head {a b : α} {changes : List (α × α)} (h : Tiles a changes b) (hne : changes ≠ []) :
  (changes.head hne).1 = a
  := by
  cases changes with
  | nil => cases hne rfl
  | cons change changes => apply h.1

/-- The last change is to where the way ends. -/
theorem getLast {a b : α} {changes : List (α × α)} (h : Tiles a changes b) (hne : changes ≠ []) :
  (changes.getLast hne).2 = b
  := by
  induction changes generalizing a with
  | nil => cases hne rfl
  | cons change changes ih =>
      obtain ⟨-, h⟩ := h
      cases changes with
      | nil => apply h
      | cons next rest =>
          rw [List.getLast_cons (List.cons_ne_nil next rest)]
          apply ih h

/-- The changes add up to the whole one. -/
theorem sum_eq {G : Type*} [AddCommGroup G] {a b : G} {changes : List (G × G)}
    (h : Tiles a changes b) :
  (changes.map fun change => change.2 - change.1).sum = b - a
  := by
  induction changes generalizing a with
  | nil =>
      obtain rfl : a = b := h
      rw [List.map_nil, List.sum_nil, sub_self]
  | cons change changes ih =>
      obtain ⟨rfl, h⟩ := h
      rw [List.map_cons, List.sum_cons, ih h, sub_add_sub_comm, add_comm, add_sub_add_right_eq_sub]

end Tiles
