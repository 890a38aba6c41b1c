import Mathlib.Data.List.Nodup
import Mathlib.Data.List.Basic
import Mathlib.Data.List.Induction

/-!
# Dictionaries in insertion order

A `Dict κ ν` is a finite map from `κ` to `ν` that remembers the order in which its keys
were inserted: a list of items whose keys are distinct. Setting a key that is present
replaces its value in place, setting a new key appends an item.
-/

universe u v

/-- A finite map whose items are listed in the order in which their keys were inserted. -/
structure Dict (κ : Type u) (ν : Type v) where
  items : List (κ × ν)
  nodup : (items.map Prod.fst).Nodup
deriving DecidableEq

namespace Dict

variable {κ : Type u} {ν : Type v}

/-- The dictionary without items. -/
def empty : Dict κ ν where
  items := []
  nodup := List.nodup_nil

/-- The keys in insertion order. -/
def keys (d : Dict κ ν) : List κ :=
  d.items.map Prod.fst

/-- The values in the insertion order of their keys. -/
def values (d : Dict κ ν) : List ν :=
  d.items.map Prod.snd

@[simp]
theorem items_empty :
  (empty : Dict κ ν).items = []
  := rfl

/-- A dictionary is determined by its items. -/
theorem ext {d d' : Dict κ ν} (h : d.items = d'.items) :
  d = d'
  := by
  cases d
  cases d'
  cases h
  rfl

/-- Two items with the same key are the same item. -/
theorem eq_of_mem {d : Dict κ ν} {k : κ} {v v' : ν} (h : (k, v) ∈ d.items)
    (h' : (k, v') ∈ d.items) :
  v = v'
  := by
  have heq := List.inj_on_of_nodup_map d.nodup h h' rfl
  apply congrArg Prod.snd heq

/-! ### Lookup -/

section Lookup

variable [DecidableEq κ]

/-- The value of a key, if the key is present. -/
def get? (d : Dict κ ν) (k : κ) : Option ν :=
  d.items.lookup k

/-- The value of a key, or a default. -/
def getD (d : Dict κ ν) (k : κ) (default : ν) : ν :=
  (d.get? k).getD default

/-- The value of a key is the value of its item. -/
theorem get?_eq_some_iff {d : Dict κ ν} {k : κ} {v : ν} :
  d.get? k = some v ↔ (k, v) ∈ d.items
  := by
  obtain ⟨items, hnodup⟩ := d
  simp only [get?]
  induction items with
  | nil => simp
  | cons item items ih =>
      obtain ⟨k', v'⟩ := item
      simp only [List.map_cons, List.nodup_cons] at hnodup
      rw [List.lookup_cons, List.mem_cons]
      by_cases hk : k = k'
      · subst hk
        simp only [beq_self_eq_true, Option.some.injEq, Prod.mk.injEq, true_and]
        constructor
        · intro hv
          left
          rw [hv]
        · rintro (hv | hmem)
          · rw [hv]
          · exfalso
            apply hnodup.1
            apply List.mem_map.mpr
            use (k, v), hmem
      · have hne : (k == k') = false := by simpa using hk
        simp only [hne, Prod.mk.injEq, hk, false_and, false_or]
        apply ih hnodup.2

/-- A key has no value exactly when no item has it. -/
theorem get?_eq_none_iff {d : Dict κ ν} {k : κ} :
  d.get? k = none ↔ ∀ v, (k, v) ∉ d.items
  := by
  rw [Option.eq_none_iff_forall_ne_some]
  simp only [ne_eq, get?_eq_some_iff]

theorem mem_keys_iff {d : Dict κ ν} {k : κ} :
  k ∈ d.keys ↔ d.get? k ≠ none
  := by
  rw [ne_eq, get?_eq_none_iff, not_forall]
  simp [keys]

@[simp]
theorem get?_empty (k : κ) :
  (empty : Dict κ ν).get? k = none
  := rfl

@[simp]
theorem getD_empty (k : κ) (default : ν) :
  (empty : Dict κ ν).getD k default = default
  := rfl

end Lookup

/-! ### Setting and erasing -/

section Update

variable [DecidableEq κ]

/-- Set a key in a list of items: in place when present, at the end otherwise. -/
def setItems (k : κ) (v : ν) : List (κ × ν) → List (κ × ν)
  | [] => [(k, v)]
  | item :: items => if item.1 = k then (k, v) :: items else item :: setItems k v items

/-- Setting a key that is present keeps the keys, setting a new key appends it. -/
theorem keys_setItems (k : κ) (v : ν) (items : List (κ × ν)) :
  (setItems k v items).map Prod.fst
    = if k ∈ items.map Prod.fst then items.map Prod.fst else items.map Prod.fst ++ [k]
  := by
  induction items with
  | nil => simp [setItems]
  | cons item items ih =>
      by_cases hk : item.1 = k
      · simp [setItems, hk]
      · have hk' : ¬ k = item.1 := fun h => hk h.symm
        simp only [setItems, hk, if_false, List.map_cons, List.mem_cons, hk', false_or, ih]
        split <;> rfl

/-- Set a key: in place when present, at the end otherwise. -/
def set (d : Dict κ ν) (k : κ) (v : ν) : Dict κ ν where
  items := setItems k v d.items
  nodup := by
    rw [keys_setItems]
    by_cases hk : k ∈ d.items.map Prod.fst
    · rw [if_pos hk]
      apply d.nodup
    · rw [if_neg hk]
      apply List.Nodup.append d.nodup (List.nodup_singleton k)
      apply List.disjoint_singleton.mpr hk

/-- Remove a key. -/
def erase (d : Dict κ ν) (k : κ) : Dict κ ν where
  items := d.items.filter fun item => item.1 ≠ k
  nodup := d.nodup.sublist (List.filter_sublist.map Prod.fst)

/-- The items after setting a key: the new item and those with another key. -/
theorem mem_setItems_iff {k k' : κ} {v v' : ν} {items : List (κ × ν)}
    (hnodup : (items.map Prod.fst).Nodup) :
  (k', v') ∈ setItems k v items ↔ (k' = k ∧ v' = v) ∨ (k' ≠ k ∧ (k', v') ∈ items)
  := by
  induction items with
  | nil => simp [setItems]
  | cons item items ih =>
      obtain ⟨k₀, v₀⟩ := item
      simp only [List.map_cons, List.nodup_cons] at hnodup
      by_cases hk : k₀ = k
      · subst hk
        simp only [setItems, if_true, List.mem_cons, Prod.mk.injEq]
        constructor
        · rintro (heq | hmem)
          · apply Or.inl heq
          · right
            constructor
            · rintro rfl
              apply hnodup.1
              apply List.mem_map.mpr
              use (k', v'), hmem
            · apply Or.inr hmem
        · rintro (heq | ⟨hne, ⟨heq, -⟩ | hmem⟩)
          · apply Or.inl heq
          · apply absurd heq hne
          · apply Or.inr hmem
      · simp only [setItems, hk, if_false, List.mem_cons, Prod.mk.injEq, ih hnodup.2]
        constructor
        · rintro (⟨rfl, rfl⟩ | heq | ⟨hne, hmem⟩)
          · apply Or.inr ⟨hk, Or.inl ⟨rfl, rfl⟩⟩
          · apply Or.inl heq
          · apply Or.inr ⟨hne, Or.inr hmem⟩
        · rintro (heq | ⟨hne, heq | hmem⟩)
          · apply Or.inr (Or.inl heq)
          · apply Or.inl heq
          · apply Or.inr (Or.inr ⟨hne, hmem⟩)

theorem mem_items_set_iff {d : Dict κ ν} {k k' : κ} {v v' : ν} :
  (k', v') ∈ (d.set k v).items ↔ (k' = k ∧ v' = v) ∨ (k' ≠ k ∧ (k', v') ∈ d.items)
  := mem_setItems_iff d.nodup

theorem mem_items_erase_iff {d : Dict κ ν} {k k' : κ} {v' : ν} :
  (k', v') ∈ (d.erase k).items ↔ k' ≠ k ∧ (k', v') ∈ d.items
  := by
  simp [erase, and_comm]

@[simp]
theorem get?_set_self (d : Dict κ ν) (k : κ) (v : ν) :
  (d.set k v).get? k = some v
  := by
  rw [get?_eq_some_iff, mem_items_set_iff]
  simp

theorem get?_set_of_ne (d : Dict κ ν) {k k' : κ} (v : ν) (h : k' ≠ k) :
  (d.set k v).get? k' = d.get? k'
  := by
  apply Option.ext
  intro v'
  simp [get?_eq_some_iff, mem_items_set_iff, h]

theorem get?_set (d : Dict κ ν) (k k' : κ) (v : ν) :
  (d.set k v).get? k' = if k' = k then some v else d.get? k'
  := by
  by_cases hk : k' = k
  · rw [if_pos hk, hk]
    apply get?_set_self
  · rw [if_neg hk]
    apply get?_set_of_ne d v hk

theorem get?_erase (d : Dict κ ν) (k k' : κ) :
  (d.erase k).get? k' = if k' = k then none else d.get? k'
  := by
  apply Option.ext
  intro v'
  rw [get?_eq_some_iff, mem_items_erase_iff]
  split
  · simp [*]
  · simp [get?_eq_some_iff, *]

/-- Setting a key to the value that it has. -/
theorem setItems_eq_self {k : κ} {v : ν} {items : List (κ × ν)}
    (hnodup : (items.map Prod.fst).Nodup) (h : (k, v) ∈ items) :
  setItems k v items = items
  := by
  induction items with
  | nil => cases h
  | cons item items ih =>
      rw [setItems]
      split
      next hk =>
          have hmem : item ∈ item :: items := List.mem_cons_self
          rw [List.inj_on_of_nodup_map hnodup h hmem hk.symm]
      next hk =>
          rw [ih (List.nodup_cons.mp hnodup).2]
          rcases List.mem_cons.mp h with rfl | h
          · contradiction
          · apply h

theorem set_eq_self {d : Dict κ ν} {k : κ} {v : ν} (h : d.get? k = some v) :
  d.set k v = d
  := by
  apply ext
  apply setItems_eq_self d.nodup (get?_eq_some_iff.mp h)

/-- Only the last value of a key counts. -/
theorem set_set (d : Dict κ ν) (k : κ) (v v' : ν) :
  (d.set k v).set k v' = d.set k v'
  := by
  apply ext
  change setItems k v' (setItems k v d.items) = setItems k v' d.items
  induction d.items with
  | nil => simp [setItems]
  | cons item items ih =>
      rw [setItems, setItems]
      split
      next hk => simp [setItems]
      next hk => rw [setItems, if_neg hk, ih]

/-- Erasing a key without a value. -/
theorem erase_eq_self {d : Dict κ ν} {k : κ} (h : d.get? k = none) :
  d.erase k = d
  := by
  apply ext
  apply List.filter_eq_self.mpr
  rintro ⟨k', v⟩ hmem
  rw [decide_eq_true_iff]
  rintro rfl
  exact get?_eq_none_iff.mp h v hmem

end Update

/-! ### Mapping the values -/

/-- Apply a function to every value. -/
def mapValues {ν' : Type*} (f : ν → ν') (d : Dict κ ν) : Dict κ ν' where
  items := d.items.map fun item => (item.1, f item.2)
  nodup := by
    simpa [List.map_map, Function.comp_def] using d.nodup

theorem get?_mapValues [DecidableEq κ] {ν' : Type*} (f : ν → ν') (d : Dict κ ν) (k : κ) :
  (d.mapValues f).get? k = (d.get? k).map f
  := by
  apply Option.ext
  intro v
  simp only [get?_eq_some_iff, Option.map_eq_some_iff, mapValues, List.mem_map, Prod.mk.injEq]
  constructor
  · rintro ⟨⟨k', v'⟩, hmem, rfl, rfl⟩
    use v', hmem
  · rintro ⟨v', hmem, rfl⟩
    use (k, v'), hmem

/-- A function that changes no value. -/
theorem mapValues_eq_self {f : ν → ν} {d : Dict κ ν} (h : ∀ item ∈ d.items, f item.2 = item.2) :
  d.mapValues f = d
  := by
  apply ext
  calc
    d.items.map (fun item => (item.1, f item.2)) = d.items.map id :=
      List.map_congr_left fun item hitem => Prod.ext rfl (h item hitem)
    _ = d.items := List.map_id d.items

/-! ### Collecting the members of a list -/

section Collect

variable [DecidableEq κ] {α : Type*} {key : α → κ}

/-- The members of a list by a key. Of the members of equal key the last one counts, at the
place of the first one. -/
def collect (key : α → κ) (l : List α) : Dict κ α :=
  l.foldl (fun d a => d.set (key a) a) empty

@[simp]
theorem collect_nil :
  collect key [] = empty
  := rfl

/-- The last member of a list is set last. -/
theorem collect_concat (l : List α) (a : α) :
  collect key (l ++ [a]) = (collect key l).set (key a) a
  := by
  simp [collect]

/-- A collected item is a member of the list at its key. -/
theorem mem_of_mem_collect {l : List α} {k : κ} {a : α}
    (h : (k, a) ∈ (collect key l).items) :
  a ∈ l ∧ key a = k
  := by
  induction l using List.reverseRecOn with
  | nil => simp at h
  | append_singleton l b ih =>
      rw [collect_concat, mem_items_set_iff] at h
      rcases h with ⟨rfl, rfl⟩ | ⟨-, hmem⟩
      · simp
      · obtain ⟨hl, hk⟩ := ih hmem
        constructor
        · apply List.mem_append_left _ hl
        · apply hk

/-- Every collected value is a member of the list. -/
theorem mem_of_mem_values_collect {l : List α} {a : α} (h : a ∈ (collect key l).values) :
  a ∈ l
  := by
  obtain ⟨⟨k, b⟩, hmem, rfl⟩ := List.mem_map.mp h
  apply (mem_of_mem_collect hmem).1

/-- The keys of the collected values are the keys of the dictionary. -/
theorem map_values_collect (l : List α) :
  (collect key l).values.map key = (collect key l).keys
  := by
  rw [values, keys, List.map_map]
  apply List.map_congr_left
  rintro ⟨k, a⟩ hmem
  apply (mem_of_mem_collect hmem).2

/-- The collected items are the collected values at their keys. -/
theorem items_collect (l : List α) :
  (collect key l).items = (collect key l).values.map fun a => (key a, a)
  := by
  rw [values, List.map_map]
  nth_rewrite 1 [← List.map_id (collect key l).items]
  apply List.map_congr_left
  rintro ⟨k, a⟩ hmem
  rw [Function.comp_apply, (mem_of_mem_collect hmem).2]
  rfl

/-- The collected values have distinct keys. -/
theorem nodup_map_values_collect (l : List α) :
  ((collect key l).values.map key).Nodup
  := by
  rw [map_values_collect]
  apply (collect key l).nodup

variable (key) in
/-- Every key of a member is collected. -/
theorem exists_mem_values_collect {l : List α} {a : α} (h : a ∈ l) :
  ∃ b ∈ (collect key l).values, key b = key a
  := by
  induction l using List.reverseRecOn with
  | nil => cases h
  | append_singleton l c ih =>
      rw [collect_concat]
      by_cases hk : key a = key c
      · use c
        constructor
        · apply List.mem_map.mpr
          use (key c, c)
          simp [mem_items_set_iff]
        · rw [hk]
      · have hmem : a ∈ l := by
          rcases List.mem_append.mp h with hl | hc
          · apply hl
          · obtain rfl := List.mem_singleton.mp hc
            apply absurd rfl hk
        obtain ⟨b, hb, hba⟩ := ih hmem
        obtain ⟨⟨k, b'⟩, hitem, rfl⟩ := List.mem_map.mp hb
        use b', List.mem_map.mpr ⟨(k, b'), ?_, rfl⟩, hba
        rw [mem_items_set_iff]
        right
        constructor
        · rw [← (mem_of_mem_collect hitem).2, hba]
          apply hk
        · apply hitem

/-- Setting a new key appends its item. -/
theorem setItems_of_notMem {k : κ} {v : ν} {items : List (κ × ν)}
    (h : k ∉ items.map Prod.fst) :
  setItems k v items = items ++ [(k, v)]
  := by
  induction items with
  | nil => rfl
  | cons item items ih =>
      simp only [List.map_cons, List.mem_cons, not_or] at h
      rw [setItems, if_neg (Ne.symm h.1), ih h.2]
      rfl

/-- Setting new keys one after the other. -/
theorem items_foldl_set {pairs : List (κ × ν)} {d : Dict κ ν}
    (hnodup : ((d.items ++ pairs).map Prod.fst).Nodup) :
  (pairs.foldl (fun d pair => d.set pair.1 pair.2) d).items = d.items ++ pairs
  := by
  induction pairs generalizing d with
  | nil => rw [List.foldl_nil, List.append_nil]
  | cons pair pairs ih =>
      have hnew : pair.1 ∉ d.items.map Prod.fst := by
        intro hmem
        rw [List.map_append, List.nodup_append] at hnodup
        apply hnodup.2.2 pair.1 hmem pair.1 List.mem_cons_self rfl
      have hset : (d.set pair.1 pair.2).items = d.items ++ [pair] := setItems_of_notMem hnew
      rw [List.foldl_cons, ih]
      · rw [hset, List.append_assoc]
        rfl
      · rw [hset, List.append_assoc]
        apply hnodup

/-- A dictionary that is made of pairs with different keys has these pairs. -/
theorem items_set_pairs {pairs : List (κ × ν)} (hnodup : (pairs.map Prod.fst).Nodup) :
  (pairs.foldl (fun d pair => d.set pair.1 pair.2) (.empty : Dict κ ν)).items = pairs
  := by
  rw [items_foldl_set]
  · rfl
  · exact hnodup

theorem values_set_of_notMem {d : Dict κ ν} {k : κ} (v : ν) (h : k ∉ d.keys) :
  (d.set k v).values = d.values ++ [v]
  := by
  change (setItems k v d.items).map Prod.snd = d.items.map Prod.snd ++ [v]
  rw [setItems_of_notMem h, List.map_append]
  rfl

/-- A list whose members have distinct keys is collected as it is. -/
theorem values_collect_of_nodup {l : List α} (h : (l.map key).Nodup) :
  (collect key l).values = l
  := by
  induction l using List.reverseRecOn with
  | nil => rfl
  | append_singleton l a ih =>
      rw [List.map_append, List.map_singleton] at h
      have hl : (collect key l).values = l := ih (List.Nodup.of_append_left h)
      have hnew : key a ∉ (collect key l).keys := by
        rw [← map_values_collect, hl]
        apply List.disjoint_singleton.mp (List.disjoint_of_nodup_append h)
      rw [collect_concat, values_set_of_notMem a hnew, hl]

/-- Setting a key changes only the values that have the key, for a predicate that none of
them meets. -/
theorem filter_values_set (p : ν → Bool) {d : Dict κ ν} {k : κ} {v : ν}
    (hold : ∀ v', (k, v') ∈ d.items → p v' = false) (hnew : p v = false) :
  (d.set k v).values.filter p = d.values.filter p
  := by
  obtain ⟨items, hnodup⟩ := d
  simp only [values, set] at *
  clear hnodup
  induction items with
  | nil => simp [setItems, hnew]
  | cons item items ih =>
      obtain ⟨k', v'⟩ := item
      by_cases hk : k' = k
      · subst hk
        have hv' : p v' = false := hold v' (List.mem_cons_self)
        simp [setItems, hnew, hv']
      · have hrest : ∀ w, (k, w) ∈ items → p w = false := by
          intro w hw
          apply hold w (List.mem_cons_of_mem _ hw)
        simp only [setItems, hk, if_false, List.map_cons, List.filter_cons, ih hrest]

end Collect

/-! ### Lists of values by a key -/

section UpsertBy

variable [DecidableEq κ] {α : Type*}

/-- Put a value in the place of the value of its key, or at the end. -/
def upsertBy (key : α → κ) (a : α) : List α → List α
  | [] => [a]
  | b :: l => if key b = key a then a :: l else b :: upsertBy key a l

/-- Setting the key of a value in a list of items made of values. -/
theorem setItems_map (key : α → κ) (f : α → ν) (a : α) (l : List α) :
  setItems (key a) (f a) (l.map fun b => (key b, f b))
    = (upsertBy key a l).map fun b => (key b, f b)
  := by
  induction l with
  | nil => rfl
  | cons b l ih =>
      rw [List.map_cons, setItems, upsertBy]
      split
      · rfl
      · rw [ih, List.map_cons]

/-- Only which values have the same key matters. -/
theorem upsertBy_congr {κ' : Type*} [DecidableEq κ'] {key : α → κ} {key' : α → κ'}
    (h : ∀ a b, key a = key b ↔ key' a = key' b) (a : α) (l : List α) :
  upsertBy key a l = upsertBy key' a l
  := by
  induction l with
  | nil => rfl
  | cons b l ih => simp only [upsertBy, h b a, ih]

/-- The values after a value is put: the new one and those of another key. -/
theorem mem_upsertBy {key : α → κ} {a b : α} {l : List α} (h : (l.map key).Nodup) :
  b ∈ upsertBy key a l ↔ b = a ∨ key b ≠ key a ∧ b ∈ l
  := by
  induction l with
  | nil => simp [upsertBy]
  | cons c l ih =>
      rw [List.map_cons, List.nodup_cons] at h
      rw [upsertBy]
      split
      next hc =>
          -- the values after the replaced one have another key
          have hrest : b ∈ l → key b ≠ key a := by
            intro hb hba
            apply h.1
            rw [hc, ← hba]
            apply List.mem_map_of_mem hb
          constructor
          · intro hmem
            rcases List.mem_cons.mp hmem with rfl | hb
            · apply Or.inl rfl
            · apply Or.inr ⟨hrest hb, List.mem_cons_of_mem _ hb⟩
          · rintro (rfl | ⟨hne, hmem⟩)
            · apply List.mem_cons_self
            · rcases List.mem_cons.mp hmem with rfl | hb
              · apply absurd hc hne
              · apply List.mem_cons_of_mem _ hb
      next hc =>
          rw [List.mem_cons, List.mem_cons, ih h.2]
          constructor
          · rintro (rfl | rfl | ⟨hne, hb⟩)
            · apply Or.inr ⟨hc, Or.inl rfl⟩
            · apply Or.inl rfl
            · apply Or.inr ⟨hne, Or.inr hb⟩
          · rintro (rfl | ⟨hne, rfl | hb⟩)
            · apply Or.inr (Or.inl rfl)
            · apply Or.inl rfl
            · apply Or.inr (Or.inr ⟨hne, hb⟩)

/-- A value of a new key is put at the end. -/
theorem upsertBy_of_forall_ne {key : α → κ} {a : α} {l : List α}
    (h : ∀ b ∈ l, key b ≠ key a) :
  upsertBy key a l = l ++ [a]
  := by
  induction l with
  | nil => rfl
  | cons b l ih =>
      rw [upsertBy, if_neg (h b List.mem_cons_self), ih fun c hc => h c (List.mem_cons_of_mem _ hc)]
      rfl

/-- A value is put in the place of the value of its key. -/
theorem upsertBy_append {key : α → κ} {a b : α} {l l' : List α}
    (h : ∀ c ∈ l, key c ≠ key a) (hb : key b = key a) :
  upsertBy key a (l ++ b :: l') = l ++ a :: l'
  := by
  induction l with
  | nil => rw [List.nil_append, upsertBy, if_pos hb, List.nil_append]
  | cons c l ih =>
      rw [List.cons_append, upsertBy, if_neg (h c List.mem_cons_self),
        ih fun d hd => h d (List.mem_cons_of_mem _ hd)]
      rfl

/-- The collected values of a list with one more member. -/
theorem values_collect_concat {key : α → κ} (l : List α) (a : α) :
  (collect key (l ++ [a])).values = upsertBy key a (collect key l).values
  := by
  have hset := setItems_map key (fun b => b) a (collect key l).values
  rw [← items_collect] at hset
  rw [collect_concat, values, set]
  dsimp only
  rw [hset, List.map_map]
  apply List.map_id

/-- A map of the values of items commutes with putting an item. -/
theorem upsertBy_fst_map {β : Type*} (f : κ × α → β) (item : κ × α) (items : List (κ × α)) :
  upsertBy Prod.fst (item.1, f item) (items.map fun item => (item.1, f item))
    = (upsertBy Prod.fst item items).map fun item => (item.1, f item)
  := by
  induction items with
  | nil => rfl
  | cons item' items ih =>
      rw [List.map_cons, upsertBy, upsertBy]
      dsimp only
      split
      · rfl
      · rw [ih, List.map_cons]

/-- A map of the values of items commutes with collecting the items. -/
theorem values_collect_fst_map {β : Type*} (f : κ × α → β) (items : List (κ × α)) :
  (collect Prod.fst (items.map fun item => (item.1, f item))).values
    = (collect Prod.fst items).values.map fun item => (item.1, f item)
  := by
  induction items using List.reverseRecOn with
  | nil => rfl
  | append_singleton items item ih =>
      rw [List.map_append, List.map_singleton, values_collect_concat, values_collect_concat, ih,
        upsertBy_fst_map]

end UpsertBy

end Dict
