import Mathlib.Data.List.Basic

/-!
# Loops that may stop

A loop that reads each member of a list, and stops where a member cannot be read.
-/

namespace Loops

variable {α β σ : Type*} {f : α → Option β}

/-- A list is read when every member is. -/
theorem mapM_eq_some_iff {l : List α} {read : List β} :
  l.mapM f = some read ↔ l.map f = read.map some
  := by
  induction l generalizing read with
  | nil =>
      cases read with
      | nil => exact iff_of_true rfl rfl
      | cons b read => exact iff_of_false nofun nofun
  | cons a l ih =>
      rw [List.mapM_cons, List.map_cons]
      cases read with
      | nil => cases f a <;> cases l.mapM f <;> exact iff_of_false nofun nofun
      | cons b read =>
          rw [List.map_cons, List.cons.injEq, ← ih]
          cases f a <;> cases l.mapM f <;> simp

/-- A list is not read when a member is not. -/
theorem mapM_eq_none_iff {l : List α} :
  l.mapM f = none ↔ ∃ a ∈ l, f a = none
  := by
  induction l with
  | nil => exact iff_of_false nofun (by simp)
  | cons a l ih =>
      rw [List.mapM_cons, List.exists_mem_cons_iff, ← ih]
      cases f a <;> cases l.mapM f <;> simp

/-- The members that are read, when every member is. -/
theorem filterMap_of_map {l : List α} {read : List β} (h : l.map f = read.map some) :
  l.filterMap f = read
  := by
  have hread := congrArg (List.filterMap id) h
  rw [List.filterMap_map, List.filterMap_map] at hread
  rw [← Function.id_comp f, hread]
  apply List.filterMap_some

/-- A loop that changes a state at what it reads is a loop over what is read. -/
theorem foldlM_eq_map_mapM {g : σ → α → Option σ} {h : σ → β → σ}
    (hg : ∀ s a, g s a = (f a).map (h s)) (l : List α) (s : σ) :
  l.foldlM g s = (l.mapM f).map fun read => read.foldl h s
  := by
  induction l generalizing s with
  | nil => rfl
  | cons a l ih =>
      rw [List.foldlM_cons, List.mapM_cons, hg]
      cases f a with
      | none => rfl
      | some b =>
          change List.foldlM g (h s b) l = _
          rw [ih]
          cases l.mapM f <;> rfl

/-- The members next to which something was read. -/
theorem map_snd_of_mapM {l : List α} {read : List (β × α)}
    (h : (l.mapM fun a => (f a).map fun b => (b, a)) = some read) :
  read.map Prod.snd = l
  := by
  rw [mapM_eq_some_iff] at h
  induction l generalizing read with
  | nil =>
      cases read with
      | nil => rfl
      | cons pair read => cases h
  | cons a l ih =>
      cases read with
      | nil => cases h
      | cons pair read =>
          obtain ⟨hpair, hrest⟩ := List.cons.inj h
          obtain ⟨b, -, rfl⟩ := Option.map_eq_some_iff.mp hpair
          rw [List.map_cons, ih hrest]

/-- What is read of each member, next to the key of the member. -/
theorem map_of_mapM_key {κ : Type*} {key : α → κ} {l : List α} {read : List (κ × β)}
    (h : (l.mapM fun a => (f a).map fun b => (key a, b)) = some read) :
  read.map (fun pair => (pair.1, some pair.2)) = l.map fun a => (key a, f a)
  := by
  rw [mapM_eq_some_iff] at h
  induction l generalizing read with
  | nil =>
      cases read with
      | nil => rfl
      | cons pair read => cases h
  | cons a l ih =>
      cases read with
      | nil => cases h
      | cons pair read =>
          obtain ⟨hpair, hrest⟩ := List.cons.inj h
          obtain ⟨b, hb, rfl⟩ := Option.map_eq_some_iff.mp hpair
          rw [List.map_cons, List.map_cons, ih hrest, hb]

end Loops
