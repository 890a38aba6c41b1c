import Mathlib.Data.List.Sort
import Mathlib.Data.List.Perm.Basic
import Mathlib.Order.Basic

/-!
# Stable sorting by a key

`sortBy key l` lists the members of `l` by increasing key, members of equal key in their
order in `l`. It is a permutation of `l`, it is ordered by the key, and an ordered list is
sorted already. When the key tells the members of a list apart, every permutation of the
list is sorted to the same list.
-/

universe u v

variable {α : Type u} {κ : Type v} [LinearOrder κ]

/-- A linear order is one that finite sets can be sorted by. -/
instance isTrans_le_of_linearOrder : IsTrans κ (· ≤ ·) := inferInstance

instance antisymm_le_of_linearOrder : @Std.Antisymm κ (· ≤ ·) := inferInstance

/-- The members of a list by increasing key, stable for members of equal key. -/
def sortBy (key : α → κ) (l : List α) : List α :=
  l.mergeSort fun a b => decide (key a ≤ key b)

/-- A list ordered by a key. -/
def OrderedBy (key : α → κ) (l : List α) : Prop :=
  l.Pairwise fun a b => key a ≤ key b

/-- Sorting permutes the list. -/
theorem sortBy_perm (key : α → κ) (l : List α) :
  (sortBy key l).Perm l
  := List.mergeSort_perm l _

@[simp]
theorem mem_sortBy {key : α → κ} {l : List α} {a : α} :
  a ∈ sortBy key l ↔ a ∈ l
  := (sortBy_perm key l).mem_iff

@[simp]
theorem sortBy_nil (key : α → κ) :
  sortBy key [] = []
  := by
  simp [sortBy]

/-- Sorting empties no list. -/
theorem sortBy_eq_nil_iff {key : α → κ} {l : List α} :
  sortBy key l = [] ↔ l = []
  := by
  rw [← List.length_eq_zero_iff, (sortBy_perm key l).length_eq, List.length_eq_zero_iff]

/-- A sorted list is ordered by the key. -/
theorem orderedBy_sortBy (key : α → κ) (l : List α) :
  OrderedBy key (sortBy key l)
  := by
  have htrans : ∀ a b c : α, decide (key a ≤ key b) = true → decide (key b ≤ key c) = true →
      decide (key a ≤ key c) = true := by
    intro a b c hab hbc
    simp only [decide_eq_true_eq] at *
    apply le_trans hab hbc
  have htotal : ∀ a b : α, (decide (key a ≤ key b) || decide (key b ≤ key a)) = true := by
    intro a b
    simpa using le_total (key a) (key b)
  apply (List.pairwise_mergeSort htrans htotal l).imp
  intro a b hab
  simpa using hab

/-- Sorting leaves an ordered list as it is. -/
theorem OrderedBy.sortBy_eq {key : α → κ} {l : List α} (h : OrderedBy key l) :
  sortBy key l = l
  := by
  apply List.mergeSort_of_pairwise
  apply h.imp
  intro a b hab
  simpa using hab

/-- A sublist of an ordered list is ordered. -/
theorem OrderedBy.sublist {key : α → κ} {l l' : List α} (h : OrderedBy key l)
    (hl : l'.Sublist l) :
  OrderedBy key l'
  := List.Pairwise.sublist hl h

/-- Sorting keeps the members of a list that meet a predicate in place when they are ordered
already. -/
theorem filter_sortBy {key : α → κ} {l : List α} {p : α → Bool}
    (h : OrderedBy key (l.filter p)) :
  (sortBy key l).filter p = l.filter p
  := by
  have hsub : (l.filter p).Sublist (sortBy key l) := by
    apply List.sublist_mergeSort
    · intro a b c hab hbc
      simp only [decide_eq_true_eq] at *
      apply le_trans hab hbc
    · intro a b
      simpa using le_total (key a) (key b)
    · apply h.imp
      intro a b hab
      simpa using hab
    · apply List.filter_sublist
  have hfilter : (l.filter p).Sublist ((sortBy key l).filter p) := by
    have := hsub.filter p
    rwa [List.filter_filter, show (fun a => p a && p a) = p by funext a; simp] at this
  symm
  apply hfilter.eq_of_length
  apply List.Perm.length_eq
  apply ((sortBy_perm key l).filter p).symm

/-- Every member of an ordered list is at or after the first one. -/
theorem OrderedBy.head_le {key : α → κ} {a b : α} {l : List α} (h : OrderedBy key (a :: l))
    (hb : b ∈ l) :
  key a ≤ key b
  := List.rel_of_pairwise_cons h hb

/-- The rest of an ordered list is ordered. -/
theorem OrderedBy.tail {key : α → κ} {a : α} {l : List α} (h : OrderedBy key (a :: l)) :
  OrderedBy key l
  := List.Pairwise.of_cons h

/-- A list ordered by a yes-or-no key has the members without the key before those with it. -/
theorem OrderedBy.eq_append {key : α → Bool} {l : List α} (h : OrderedBy key l) :
  l = l.filter (fun a => !key a) ++ l.filter key
  := by
  induction l with
  | nil => rfl
  | cons a l ih =>
      have hl := ih h.tail
      cases hkey : key a with
      | false =>
          simp only [List.filter_cons, hkey, Bool.not_false, if_true, Bool.false_eq_true, if_false,
            List.cons_append]
          rw [← hl]
      | true =>
          -- all members have the key, as the first one has it
          have hnone : l.filter (fun a => !key a) = [] := by
            apply List.filter_eq_nil_iff.mpr
            intro b hb
            have hle : true ≤ key b := by
              rw [← hkey]
              apply h.head_le hb
            simp [top_le_iff.mp hle]
          simp only [List.filter_cons, hkey, Bool.not_true, Bool.false_eq_true, if_false, if_true,
            hnone, List.nil_append] at hl ⊢
          rw [← hl]

/-- Sorting by a yes-or-no key moves the members without the key to the front. -/
theorem sortBy_eq_append (key : α → Bool) (l : List α) :
  sortBy key l = l.filter (fun a => !key a) ++ l.filter key
  := by
  have hconstant : ∀ (p : α → Bool) (b : Bool), (∀ a, p a = true → key a = b) →
      OrderedBy key (l.filter p) := by
    intro p b hp
    apply List.pairwise_of_forall_mem_list
    intro a ha a' ha'
    rw [hp a (List.mem_filter.mp ha).2, hp a' (List.mem_filter.mp ha').2]
  rw [(orderedBy_sortBy key l).eq_append]
  congr 1
  · apply filter_sortBy
    apply hconstant _ false
    intro a ha
    simpa using ha
  · apply filter_sortBy
    apply hconstant _ true
    intro a ha
    apply ha

/-- When the key tells the members of a list apart, the list is sorted strictly. -/
theorem pairwise_lt_sortBy {key : α → κ} {l : List α} (h : (l.map key).Nodup) :
  (sortBy key l).Pairwise fun a b => key a < key b
  := by
  have hne : (sortBy key l).Pairwise fun a b => key a ≠ key b := by
    apply List.pairwise_map.mp
    apply ((sortBy_perm key l).map key).nodup_iff.mpr h
  apply ((orderedBy_sortBy key l).and hne).imp
  rintro a b ⟨hle, hne⟩
  apply lt_of_le_of_ne hle hne

/-- When the key tells the members of a list apart, every permutation of the list is sorted to
the same list. -/
theorem sortBy_eq_of_perm {key : α → κ} {l l' : List α} (h : (l.map key).Nodup)
    (hperm : l'.Perm l) :
  sortBy key l' = sortBy key l
  := by
  have hsorted := ((sortBy_perm key l').trans hperm).trans (sortBy_perm key l).symm
  apply hsorted.eq_of_pairwise _ (pairwise_lt_sortBy ((hperm.map key).nodup_iff.mpr h))
    (pairwise_lt_sortBy h)
  intro a b _ _ hab hba
  cases lt_asymm hab hba
