import Mathlib.Data.List.TakeDrop
import Mathlib.Data.List.Range
import Mathlib.Data.List.Nodup
import Mathlib.Tactic.SplitIfs

/-!
# Pages of a list

A list is cut into pages of one size, the last of which may be shorter. An empty list has one
empty page. The pages one after the other are the list, so each position of the list is on one
page.
-/

namespace Paging

variable {α : Type*} {size : ℕ} {l : List α}

/-- The number of pages of a list of a length. -/
def pageCount (size length : ℕ) : ℕ :=
  max 1 ((length + size - 1) / size)

/-- The members of a list on a page. -/
def page (size : ℕ) (l : List α) (k : ℕ) : List α :=
  (l.drop (k * size)).take size

theorem pageCount_pos (size length : ℕ) :
  0 < pageCount size length
  := by
  apply lt_of_lt_of_le Nat.one_pos (Nat.le_max_left _ _)

/-- The pages cover the list. -/
theorem length_le_pageCount_mul (h : 0 < size) (length : ℕ) :
  length ≤ pageCount size length * size
  := by
  have hceil : (length + size - 1) / size ≤ pageCount size length := Nat.le_max_right _ _
  have hdiv := Nat.div_add_mod (length + size - 1) size
  have hmod := Nat.mod_lt (length + size - 1) h
  have hmul := Nat.mul_le_mul_right size hceil
  rw [Nat.mul_comm] at hdiv
  omega

/-- The last page begins before the end of the list, unless the list is empty. -/
theorem pred_pageCount_mul_lt (h : 0 < size) {length : ℕ} (hlength : 0 < length) :
  (pageCount size length - 1) * size < length
  := by
  have hone : 1 ≤ (length + size - 1) / size := by
    apply (Nat.one_le_div_iff h).mpr
    omega
  have hdiv := Nat.div_mul_le_self (length + size - 1) size
  rw [pageCount, Nat.max_eq_right hone, Nat.sub_mul]
  omega

/-- A page has at most as many members as its size. -/
theorem length_page_le (size : ℕ) (l : List α) (k : ℕ) :
  (page size l k).length ≤ size
  := List.length_take_le _ _

/-- A member of a page is a member of the list. -/
theorem mem_of_mem_page {a : α} {k : ℕ} (h : a ∈ page size l k) :
  a ∈ l
  := List.mem_of_mem_drop (List.mem_of_mem_take h)

/-- The pages of a list that is not empty are not empty. -/
theorem page_ne_nil (h : 0 < size) (hl : l ≠ []) {k : ℕ} (hk : k < pageCount size l.length) :
  page size l k ≠ []
  := by
  have hstart : k * size < l.length := by
    apply lt_of_le_of_lt _ (pred_pageCount_mul_lt h (List.length_pos_of_ne_nil hl))
    apply Nat.mul_le_mul_right
    omega
  apply List.ne_nil_of_length_pos
  rw [page, List.length_take, List.length_drop]
  omega

/-- The first pages are the first members. -/
theorem flatMap_page_range (size : ℕ) (l : List α) (n : ℕ) :
  (List.range n).flatMap (page size l) = l.take (n * size)
  := by
  induction n with
  | zero => simp
  | succ n ih =>
      rw [List.range_succ, List.flatMap_append, ih, List.flatMap_singleton, page, Nat.succ_mul,
        List.take_add]

/-- The pages one after the other are the list. -/
theorem flatMap_page (h : 0 < size) (l : List α) :
  (List.range (pageCount size l.length)).flatMap (page size l) = l
  := by
  rw [flatMap_page_range]
  apply List.take_of_length_le
  apply length_le_pageCount_mul h

/-- Every member is on a page. -/
theorem exists_mem_page (h : 0 < size) {a : α} (ha : a ∈ l) :
  ∃ k < pageCount size l.length, a ∈ page size l k
  := by
  rw [← flatMap_page h l] at ha
  obtain ⟨k, hk, hmem⟩ := List.mem_flatMap.mp ha
  use k, List.mem_range.mp hk

/-- A member of a list without repetitions is on one page. -/
theorem eq_of_mem_page (hl : l.Nodup) {a : α} {j k : ℕ} (hj : a ∈ page size l j)
    (hk : a ∈ page size l k) :
  j = k
  := by
  obtain ⟨i, hi, hai⟩ := List.mem_iff_getElem.mp hj
  obtain ⟨i', hi', hai'⟩ := List.mem_iff_getElem.mp hk
  rw [page, List.length_take, List.length_drop] at hi hi'
  simp only [page, List.getElem_take, List.getElem_drop] at hai hai'
  have hindex : j * size + i = k * size + i' := hl.getElem_inj_iff.mp (hai.trans hai'.symm)
  have hdiv : ∀ n m, m < size → (n * size + m) / size = n := by
    intro n m hm
    rw [Nat.mul_comm, Nat.mul_add_div (by omega), Nat.div_eq_of_lt hm, Nat.add_zero]
  have heq := congrArg (· / size) hindex
  simp only [hdiv j i (by omega), hdiv k i' (by omega)] at heq
  apply heq

end Paging
