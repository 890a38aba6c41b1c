import Mathlib

/-!
# Packing pieces into pages

Pieces, such as the lines of a text, are joined by a separator. Pages of pieces are packed when
each page is as full as a limit allows, where the separators on a page count towards the limit.
-/

namespace Packing

variable {α : Type*} {x : α} {pieces page : List (List α)} {piece : List α}

/-! ### Joining pieces -/

theorem intercalate_append {as bs : List (List α)} (has : as ≠ []) (hbs : bs ≠ []) :
  [x].intercalate (as ++ bs) = [x].intercalate as ++ x :: [x].intercalate bs
  := by
  induction as with
  | nil => exact absurd rfl has
  | cons a as ih =>
      by_cases hnil : as = []
      · subst hnil
        rw [List.singleton_append, List.intercalate_cons_of_ne_nil hbs, List.intercalate_singleton,
          List.append_assoc, List.singleton_append]
      · rw [List.cons_append, List.intercalate_cons_of_ne_nil (by simp [hnil]), ih hnil,
          List.intercalate_cons_of_ne_nil hnil]
        simp only [List.append_assoc, List.cons_append]

/-- Joining one more piece. -/
theorem intercalate_concat (h : pieces ≠ []) :
  [x].intercalate (pieces ++ [piece]) = [x].intercalate pieces ++ x :: piece
  := by
  rw [intercalate_append h (List.cons_ne_nil _ _), List.intercalate_singleton]

/-- Pieces can be joined page by page. -/
theorem intercalate_flatten {pages : List (List (List α))} (h : ∀ page ∈ pages, page ≠ []) :
  [x].intercalate pages.flatten = [x].intercalate (pages.map [x].intercalate)
  := by
  induction pages with
  | nil => rfl
  | cons page pages ih =>
      obtain ⟨hpage, hpages⟩ := List.forall_mem_cons.mp h
      cases pages with
      | nil => simp
      | cons next pages =>
          have hne : (next :: pages).flatten ≠ [] := by
            rw [List.flatten_cons]
            apply List.append_ne_nil_of_left_ne_nil
            apply hpages next List.mem_cons_self
          rw [List.flatten_cons, intercalate_append hpage hne, ih hpages,
            List.map_cons (l := next :: pages), List.intercalate_cons_of_ne_nil (by simp),
            List.append_assoc, List.singleton_append]

/-- The number of elements of some pieces, when each is followed by a separator. -/
def weight (pieces : List (List α)) : ℕ :=
  (pieces.map fun piece => piece.length + 1).sum

@[simp]
theorem weight_nil :
  weight ([] : List (List α)) = 0
  := rfl

@[simp]
theorem weight_cons :
  weight (piece :: pieces) = piece.length + 1 + weight pieces
  := by
  simp [weight]

@[simp]
theorem weight_append {as bs : List (List α)} :
  weight (as ++ bs) = weight as + weight bs
  := by
  simp [weight]

theorem length_lt_weight (h : piece ∈ pieces) :
  piece.length < weight pieces
  := by
  obtain ⟨before, after, rfl⟩ := List.append_of_mem h
  rw [weight_append, weight_cons]
  omega

theorem length_intercalate (h : pieces ≠ []) :
  ([x].intercalate pieces).length + 1 = weight pieces
  := by
  induction pieces with
  | nil => exact absurd rfl h
  | cons piece pieces ih =>
      by_cases hnil : pieces = []
      · simp [hnil]
      · have hlength := ih hnil
        rw [List.intercalate_cons_of_ne_nil hnil, weight_cons]
        simp only [List.length_append, List.length_singleton]
        omega

/-- Pages that are joined weigh as much as their pieces. -/
theorem weight_map_intercalate {pages : List (List (List α))} (h : ∀ page ∈ pages, page ≠ []) :
  weight (pages.map [x].intercalate) = weight pages.flatten
  := by
  induction pages with
  | nil => rfl
  | cons page pages ih =>
      obtain ⟨hpage, hpages⟩ := List.forall_mem_cons.mp h
      rw [List.map_cons, weight_cons, List.flatten_cons, weight_append, ih hpages,
        length_intercalate hpage]

/-- Joined pieces and the pieces one after another are the same but for the separators. -/
theorem filter_intercalate [DecidableEq α] :
  ([x].intercalate pieces).filter (· ≠ x) = pieces.flatten.filter (· ≠ x)
  := by
  induction pieces with
  | nil => rfl
  | cons piece pieces ih =>
      by_cases hnil : pieces = []
      · simp [hnil]
      · rw [List.intercalate_cons_of_ne_nil hnil, List.flatten_cons]
        simp only [List.filter_append, ih]
        simp

/-! ### Packed pages -/

/-- Pages that fit, each followed by a page whose first piece does not fit on it as well. -/
structure IsPacked (x : α) (limit : ℕ) (pages : List (List (List α))) : Prop where
  ne_nil : ∀ page ∈ pages, page ≠ []
  fits : ∀ page ∈ pages, ([x].intercalate page).length ≤ limit
  full : pages.IsChain fun page next =>
    ∀ piece ∈ next.head?, limit < ([x].intercalate page).length + 1 + piece.length

namespace IsPacked

variable {limit : ℕ} {pages : List (List (List α))}

/-- One piece that fits. -/
theorem singleton (h : piece.length ≤ limit) :
  IsPacked x limit [[piece]]
  := by
  constructor
  · simp
  · simpa using h
  · apply List.isChain_singleton

/-- Another piece that fits on the last page. -/
theorem concat (h : IsPacked x limit (pages ++ [page]))
    (hfits : ([x].intercalate page).length + 1 + piece.length ≤ limit) :
  IsPacked x limit (pages ++ [page ++ [piece]])
  := by
  have hpage : page ≠ [] := h.ne_nil page (by simp)
  constructor
  · intro other hmem
    obtain hmem | rfl := by simpa using hmem
    · apply h.ne_nil other (by simp [hmem])
    · simp
  · intro other hmem
    obtain hmem | rfl := by simpa using hmem
    · apply h.fits other (by simp [hmem])
    · rw [intercalate_concat hpage, List.length_append, List.length_cons]
      omega
  · obtain ⟨hpages, -, hlast⟩ := List.isChain_append.mp h.full
    apply List.isChain_append.mpr ⟨hpages, List.isChain_singleton _, _⟩
    intro last hmem other hother
    obtain rfl : other = page ++ [piece] := by simpa using hother.symm
    rw [List.head?_append_of_ne_nil _ hpage]
    apply hlast last hmem page (by simp)

/-- Another piece, which does not fit on the last page. -/
theorem concat_page (h : IsPacked x limit (pages ++ [page])) (hpiece : piece.length ≤ limit)
    (hfull : limit < ([x].intercalate page).length + 1 + piece.length) :
  IsPacked x limit (pages ++ [page] ++ [[piece]])
  := by
  constructor
  · intro other hmem
    obtain hmem | rfl := List.mem_append.mp hmem |>.imp_right List.mem_singleton.mp
    · apply h.ne_nil other hmem
    · simp
  · intro other hmem
    obtain hmem | rfl := List.mem_append.mp hmem |>.imp_right List.mem_singleton.mp
    · apply h.fits other hmem
    · simpa using hpiece
  · apply List.isChain_append.mpr ⟨h.full, List.isChain_singleton _, _⟩
    intro last hlast other hother
    obtain rfl : last = page := by simpa using hlast.symm
    obtain rfl : other = [piece] := by simpa using hother.symm
    simpa using hfull

/-- The pages after the first one. -/
theorem tail (h : IsPacked x limit (page :: pages)) :
  IsPacked x limit pages
  where
  ne_nil other hmem := h.ne_nil other (List.mem_cons_of_mem _ hmem)
  fits other hmem := h.fits other (List.mem_cons_of_mem _ hmem)
  full := h.full.tail

end IsPacked

end Packing
