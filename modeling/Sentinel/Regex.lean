import Mathlib.Data.List.Infix
import Mathlib.Data.List.TakeWhile

/-!
# Regular expressions

Backtracking regular expressions over the characters of a text, and the substitution of what
they match by a mask, or by a text that depends on it. `attempts` lists what an expression may
match at a position, in the order in which backtracking tries it. A substitution keeps what is
around the masked parts, so a text without characters of the mask that is part of the result
was part of the text before (`Masked.infix_of_infix`).
-/

/-- A regular expression. -/
inductive Regex where
  /-- the empty text -/
  | empty
  /-- a character with a property -/
  | char (p : Char → Bool)
  /-- characters with a property, at least `min` and at most `max`, as many as possible first -/
  | many (p : Char → Bool) (min : ℕ) (max : Option ℕ)
  /-- a place between a word and what is no word -/
  | boundary (isWord : Char → Bool)
  | seq (r r' : Regex)
  | alt (r r' : Regex)

namespace Regex

/-- The texts that an expression matches at the beginning of a text that follows a character,
the preferred one first. -/
def attempts (previous : Option Char) (s : List Char) : Regex → List (List Char)
  | empty => [[]]
  | char p => ((s.take 1).filter p).map fun c => [c]
  | many p min max =>
      let longest := ((max.elim s fun n => s.take n).takeWhile p).length
      (List.range' min (longest + 1 - min)).reverse.map fun n => s.take n
  | boundary isWord => if previous.any isWord ≠ s.head?.any isWord then [[]] else []
  | seq r r' =>
      (r.attempts previous s).flatMap fun u =>
        (r'.attempts (u.getLast?.or previous) (s.drop u.length)).map fun v => u ++ v
  | alt r r' => r.attempts previous s ++ r'.attempts previous s

/-- What an expression matches is a beginning of the text. -/
theorem isPrefix_of_mem_attempts {r : Regex} {previous : Option Char} {s u : List Char}
    (h : u ∈ r.attempts previous s) :
  u <+: s
  := by
  induction r generalizing previous s u with
  | empty =>
      rw [List.mem_singleton.mp h]
      apply List.nil_prefix
  | char p =>
      obtain ⟨c, hc, rfl⟩ := List.mem_map.mp h
      cases s with
      | nil => cases hc
      | cons c' s =>
          obtain rfl := List.mem_singleton.mp (List.mem_of_mem_filter hc)
          apply List.prefix_append [c] s
  | many p min max =>
      obtain ⟨n, -, rfl⟩ := List.mem_map.mp h
      apply List.take_prefix
  | boundary isWord =>
      rw [attempts] at h
      split at h
      · rw [List.mem_singleton.mp h]
        apply List.nil_prefix
      · cases h
  | seq r r' ih ih' =>
      obtain ⟨u, hu, hmap⟩ := List.mem_flatMap.mp h
      obtain ⟨v, hv, rfl⟩ := List.mem_map.mp hmap
      obtain ⟨rest, rfl⟩ := ih hu
      rw [List.drop_left] at hv
      apply (List.prefix_append_right_inj u).mpr (ih' hv)
  | alt r r' ih ih' =>
      rcases List.mem_append.mp h with h | h
      · apply ih h
      · apply ih' h

/-- The texts that an expression matches, wherever they are. -/
def Matches : Regex → List Char → Prop
  | empty, u | boundary _, u => u = []
  | char p, u => ∃ c, p c ∧ u = [c]
  | many p min max, u => (∀ c ∈ u, p c) ∧ min ≤ u.length ∧ ∀ n ∈ max, u.length ≤ n
  | seq r r', u => ∃ v w, u = v ++ w ∧ r.Matches v ∧ r'.Matches w
  | alt r r', u => r.Matches u ∨ r'.Matches u

/-- The longest match of repeated characters is no longer than allowed. -/
theorem length_longest_le (p : Char → Bool) (max : Option ℕ) (s : List Char) :
  ∀ n ∈ max, ((max.elim s fun n => s.take n).takeWhile p).length ≤ n
  := by
  rintro n ⟨⟩
  apply (List.takeWhile_prefix p).length_le.trans
  apply List.length_take_le

/-- The longest match of repeated characters is a beginning of the text. -/
theorem longest_isPrefix (p : Char → Bool) (max : Option ℕ) (s : List Char) :
  (max.elim s fun n => s.take n).takeWhile p <+: s
  := by
  apply (List.takeWhile_prefix p).trans
  cases max with
  | none => apply List.prefix_rfl
  | some n => apply List.take_prefix

/-- What is tried at a position matches. -/
theorem matches_of_mem_attempts {r : Regex} {previous : Option Char} {s u : List Char}
    (h : u ∈ r.attempts previous s) :
  r.Matches u
  := by
  induction r generalizing previous s u with
  | empty => apply List.mem_singleton.mp h
  | char p =>
      obtain ⟨c, hc, rfl⟩ := List.mem_map.mp h
      use c, (List.mem_filter.mp hc).2
  | many p min max =>
      obtain ⟨n, hn, rfl⟩ := List.mem_map.mp h
      rw [List.mem_reverse, List.mem_range'_1] at hn
      have hpre := longest_isPrefix p max s
      have hmax := length_longest_le p max s
      obtain ⟨longest, hlongest⟩ : ∃ v, (max.elim s fun n => s.take n).takeWhile p = v := ⟨_, rfl⟩
      rw [hlongest] at hn hpre hmax
      have hlength : (s.take n).length = n := by
        have hle := hpre.length_le
        rw [List.length_take]
        omega
      have htake : s.take n <+: longest := by
        apply List.prefix_of_prefix_length_le (List.take_prefix n s) hpre
        omega
      refine ⟨?_, by omega, ?_⟩
      · intro c hc
        have hmem := htake.subset hc
        rw [← hlongest] at hmem
        apply List.mem_takeWhile_imp hmem
      · intro m hm
        have hle := hmax m hm
        omega
  | boundary isWord =>
      rw [attempts] at h
      split at h
      · apply List.mem_singleton.mp h
      · cases h
  | seq r r' ih ih' =>
      obtain ⟨u, hu, hmap⟩ := List.mem_flatMap.mp h
      obtain ⟨v, hv, rfl⟩ := List.mem_map.mp hmap
      use u, v, rfl, ih hu, ih' hv
  | alt r r' ih ih' =>
      rcases List.mem_append.mp h with h | h
      · apply Or.inl (ih h)
      · apply Or.inr (ih' h)

/-- No place is looked at. -/
def PlaceFree : Regex → Prop
  | boundary _ => False
  | seq r r' | alt r r' => r.PlaceFree ∧ r'.PlaceFree
  | empty | char _ | many _ _ _ => True

/-- What matches wherever it is, is tried. -/
theorem mem_attempts_of_matches {r : Regex} (hfree : r.PlaceFree) {u : List Char}
    (h : r.Matches u) (previous : Option Char) (rest : List Char) :
  u ∈ r.attempts previous (u ++ rest)
  := by
  induction r generalizing previous u rest with
  | empty => apply List.mem_singleton.mpr h
  | char p =>
      obtain ⟨c, hc, rfl⟩ := h
      apply List.mem_map.mpr
      use c, List.mem_filter.mpr ⟨List.mem_singleton.mpr rfl, hc⟩
  | many p min max =>
      obtain ⟨hall, hmin, hmax⟩ := h
      obtain ⟨x, hx⟩ : ∃ x, (max.elim (u ++ rest) fun n => (u ++ rest).take n) = u ++ x := by
        cases max with
        | none => exists rest
        | some n =>
            use rest.take (n - u.length)
            rw [Option.elim_some, List.take_append, List.take_of_length_le (hmax n rfl)]
      have hlongest : u.length ≤ ((u ++ x).takeWhile p).length := by
        rw [List.takeWhile_append_of_pos hall, List.length_append]
        omega
      apply List.mem_map.mpr
      use u.length
      rw [hx, List.mem_reverse, List.mem_range'_1, List.take_left]
      apply And.intro _ rfl
      omega
  | boundary isWord => cases hfree
  | seq r r' ih ih' =>
      obtain ⟨v, w, rfl, hv, hw⟩ := h
      apply List.mem_flatMap.mpr
      use v
      rw [List.append_assoc, List.drop_left]
      use ih hfree.1 hv previous (w ++ rest)
      apply List.mem_map.mpr
      use w, ih' hfree.2 hw _ rest
  | alt r r' ih ih' =>
      apply List.mem_append.mpr
      rcases h with h | h
      · apply Or.inl (ih hfree.1 h previous rest)
      · apply Or.inr (ih' hfree.2 h previous rest)

/-- The preferred match at a position. -/
def first (r : Regex) (previous : Option Char) (s : List Char) : Option (List Char) :=
  (r.attempts previous s).head?

/-- The second one of two expressions gives its preferred match. -/
theorem first_seq {r r' : Regex} {previous : Option Char} {s w : List Char}
    (h : (seq r r').first previous s = some w) :
  ∃ u ∈ r.attempts previous s, ∃ v,
    r'.first (u.getLast?.or previous) (s.drop u.length) = some v ∧ w = u ++ v
  := by
  rw [first, attempts, List.head?_flatMap] at h
  obtain ⟨u, hu, hhead⟩ := List.exists_of_findSome?_eq_some h
  rw [List.head?_map] at hhead
  obtain ⟨v, hv, rfl⟩ := Option.map_eq_some_iff.mp hhead
  use u, hu, v, hv

/-- Characters with a property are all taken. -/
theorem first_many {p : Char → Bool} {min : ℕ} {previous : Option Char} {s v : List Char}
    (h : (many p min none).first previous s = some v) :
  v = s.takeWhile p
  := by
  have hlast : (List.range' min ((s.takeWhile p).length + 1 - min)).getLast?.map s.take
      = some v := by
    rw [← List.head?_reverse, ← List.head?_map]
    apply h
  rw [List.getLast?_range'] at hlast
  split_ifs at hlast with hnone
  · cases hlast
  · have hlongest : min + ((s.takeWhile p).length + 1 - min) - 1 = (s.takeWhile p).length := by
      omega
    rw [hlongest] at hlast
    rw [← Option.some.inj hlast]
    apply (List.prefix_iff_eq_take.mp (List.takeWhile_prefix p)).symm

/-! ### Pieces -/

/-- The text before the first match, and each match with the text behind it. The first
characters of the text, `skip` many, belong to a match already. -/
def pieces (r : Regex) :
    ℕ → Option Char → List Char → List Char × List (List Char × List Char)
  | _, _, [] => ([], [])
  | skip + 1, _, c :: cs => r.pieces skip (some c) cs
  | 0, previous, c :: cs =>
      match r.first previous (c :: cs) with
      | some u =>
          let (v, rest) := r.pieces (u.length - 1) (some c) cs
          ([], (u, v) :: rest)
      | none =>
          let (v, rest) := r.pieces 0 (some c) cs
          (c :: v, rest)

/-- No match begins in a text that follows a character. -/
def Unfound (r : Regex) (previous : Option Char) (v : List Char) : Prop :=
  ∀ before c after, v = before ++ c :: after →
    ∃ rest, r.first (before.getLast?.or previous) (c :: after ++ rest) = none

/-- No match begins in the texts around the matches. -/
theorem unfound_pieces (r : Regex) (skip : ℕ) (previous : Option Char) (s : List Char) :
  (r.pieces skip previous s).1 <+: s.drop skip
    ∧ (∃ p, (skip = 0 → p = previous) ∧ r.Unfound p (r.pieces skip previous s).1)
    ∧ ∀ piece ∈ (r.pieces skip previous s).2, ∃ p, r.Unfound p piece.2
  := by
  have hnil (p : Option Char) : r.Unfound p [] := by
    intro before c after h
    cases List.append_ne_nil_of_right_ne_nil before (List.cons_ne_nil c after) h.symm
  induction s generalizing skip previous with
  | nil =>
      rw [pieces]
      use List.nil_prefix, ⟨previous, fun _ => rfl, hnil previous⟩
      nofun
  | cons c cs ih =>
      cases skip with
      | succ skip =>
          obtain ⟨hpre, ⟨p, -, hfirst⟩, hrest⟩ := ih skip (some c)
          use hpre, ⟨p, nofun, hfirst⟩, hrest
      | zero =>
          rw [pieces]
          split
          next u hu =>
              obtain ⟨-, ⟨p, -, hfirst⟩, hrest⟩ := ih (u.length - 1) (some c)
              use List.nil_prefix, ⟨previous, fun _ => rfl, hnil previous⟩
              apply List.forall_mem_cons.mpr ⟨⟨p, hfirst⟩, hrest⟩
          next hnone =>
              obtain ⟨hpre, ⟨p, hp, hfirst⟩, hrest⟩ := ih 0 (some c)
              obtain rfl := hp rfl
              rw [List.drop_zero] at hpre
              use List.cons_prefix_cons.mpr ⟨rfl, hpre⟩, ⟨previous, fun _ => rfl, ?_⟩, hrest
              intro before d after heq
              cases before with
              | nil =>
                  obtain ⟨rfl, rfl⟩ := List.cons.inj heq
                  obtain ⟨rest, hcs⟩ := hpre
                  use rest
                  rw [List.cons_append, hcs]
                  apply hnone
              | cons e before =>
                  obtain ⟨rfl, htail⟩ := List.cons.inj heq
                  obtain ⟨rest, hnone⟩ := hfirst before d after htail
                  use rest
                  rw [List.getLast?_cons]
                  cases hlast : before.getLast? with
                  | none =>
                      rw [hlast] at hnone
                      apply hnone
                  | some e' =>
                      rw [hlast] at hnone
                      apply hnone

/-- Every text behind a match is the end of the text or begins with a stop. -/
def Stopped (stop : Char → Bool) : List (List Char × List Char) → Prop
  | [] => True
  | (_, v) :: rest => (v = [] → rest = []) ∧ (∀ c ∈ v.head?, stop c) ∧ Stopped stop rest

/-- Every text behind a match begins with a stop, if it has a character. -/
theorem Stopped.head {stop : Char → Bool} {rest : List (List Char × List Char)}
    (h : Stopped stop rest) :
  ∀ piece ∈ rest, ∀ c ∈ piece.2.head?, stop c
  := by
  induction rest with
  | nil => nofun
  | cons piece rest ih => apply List.forall_mem_cons.mpr ⟨h.2.1, ih h.2.2⟩

theorem Stopped.mono {stop stop' : Char → Bool} (hstop : ∀ c, stop c → stop' c)
    {rest : List (List Char × List Char)} (h : Stopped stop rest) :
  Stopped stop' rest
  := by
  induction rest with
  | nil => trivial
  | cons piece rest ih =>
      obtain ⟨hend, hhead, hrest⟩ := h
      use hend, fun c hc => hstop c (hhead c hc), ih hrest

/-- An expression that takes all up to a stop, and does not begin with one, leaves stopped
pieces. -/
theorem stopped_pieces {r : Regex} {stop : Char → Bool}
    (hfirst : ∀ previous s u, r.first previous s = some u →
      u ≠ [] ∧ ∀ c ∈ (s.drop u.length).head?, stop c)
    (hstart : ∀ previous c s, stop c → r.first previous (c :: s) = none)
    (skip : ℕ) (previous : Option Char) (s : List Char) :
  Stopped stop (r.pieces skip previous s).2
    ∧ ((∀ c ∈ (s.drop skip).head?, stop c) →
      ((r.pieces skip previous s).1 = [] → (r.pieces skip previous s).2 = [])
        ∧ ∀ c ∈ (r.pieces skip previous s).1.head?, stop c)
  := by
  induction s generalizing skip previous with
  | nil =>
      rw [pieces]
      apply And.intro trivial
      intro _
      apply And.intro (fun _ => rfl) nofun
  | cons c cs ih =>
      cases skip with
      | succ skip => apply ih
      | zero =>
          rw [pieces]
          split
          next u hu =>
              obtain ⟨hne, hrest⟩ := hfirst previous (c :: cs) u hu
              obtain ⟨hstopped, hhead⟩ := ih (u.length - 1) (some c)
              have hdrop : (c :: cs).drop u.length = cs.drop (u.length - 1) := by
                cases u with
                | nil => cases hne rfl
                | cons d u => rfl
              rw [hdrop] at hrest
              obtain ⟨hend, hstop⟩ := hhead hrest
              apply And.intro ⟨hend, hstop, hstopped⟩
              intro hc
              have hnone := hstart previous c cs (hc c rfl)
              rw [hu] at hnone
              cases hnone
          next hnone =>
              apply And.intro (ih 0 (some c)).1
              intro hc
              apply And.intro nofun hc

end Regex

/-- A text from its pieces. -/
def joinPieces (v : List Char) : List (List Char × List Char) → List Char
  | [] => v
  | (u, w) :: rest => v ++ u ++ joinPieces w rest

/-- What the first `n` characters of a text from pieces have of the texts around the matches. -/
def keptPieces (n : ℕ) (v : List Char) : List (List Char × List Char) → List (List Char)
  | [] => [v.take n]
  | (u, w) :: rest => v.take n :: keptPieces (n - v.length - u.length) w rest

/-- What is kept is the beginning of the first text or of a text behind a match. -/
theorem exists_of_mem_keptPieces {n : ℕ} {v w : List Char}
    {rest : List (List Char × List Char)} (h : w ∈ keptPieces n v rest) :
  ∃ k, w = v.take k ∨ ∃ piece ∈ rest, w = piece.2.take k
  := by
  induction rest generalizing n v with
  | nil => use n, Or.inl (List.mem_singleton.mp h)
  | cons piece rest ih =>
      rcases List.mem_cons.mp h with h | h
      · use n, Or.inl h
      · obtain ⟨k, h | ⟨piece', hmem, h⟩⟩ := ih h
        · use k, Or.inr ⟨piece, List.mem_cons_self, h⟩
        · use k, Or.inr ⟨piece', List.mem_cons_of_mem _ hmem, h⟩

/-- A text from stopped pieces begins with a stop if its first piece does. -/
theorem stop_of_mem_head_joinPieces {stop : Char → Bool} {v : List Char}
    {rest : List (List Char × List Char)} (hend : v = [] → rest = [])
    (hstop : ∀ c ∈ v.head?, stop c) :
  ∀ c ∈ (joinPieces v rest).head?, stop c
  := by
  cases v with
  | nil =>
      rw [hend rfl]
      nofun
  | cons d v =>
      cases rest with
      | nil => apply hstop
      | cons piece rest => apply hstop

/-! ### Characters behind a match -/

namespace Regex

/-- Up to the next stop, no match has one of the characters `bad` behind it. -/
def Bare (r : Regex) (stop : Char → Bool) (bad s : List Char) : Prop :=
  ∀ u rest, u ++ rest <:+ s → r.Matches u → ∀ c ∈ rest.takeWhile fun c => !stop c, c ∉ bad

/-- A text from the end of two texts is from the second one, or has it all. -/
theorem suffix_append_cases {s t x : List Char} (h : x <:+ s ++ t) :
  x <:+ t ∨ ∃ y, y <:+ s ∧ x = y ++ t
  := by
  rcases List.suffix_or_suffix_of_suffix h (List.suffix_append s t) with ht | ⟨y, rfl⟩
  · apply Or.inl ht
  · obtain ⟨before, hbefore⟩ := h
    rw [← List.append_assoc] at hbefore
    apply Or.inr
    use y, ⟨before, List.append_cancel_right hbefore⟩

/-- What the first of two texts begins with, or a character of the second one. -/
theorem mem_takeWhile_append {p : Char → Bool} {c : Char} {s t : List Char}
    (h : c ∈ (s ++ t).takeWhile p) :
  c ∈ s.takeWhile p ∨ c ∈ t
  := by
  induction s with
  | nil => apply Or.inr (List.takeWhile_subset p h)
  | cons d s ih =>
      rw [List.cons_append, List.takeWhile_cons] at h
      split at h
      next hd =>
          rw [List.takeWhile_cons_of_pos hd]
          rcases List.mem_cons.mp h with rfl | h
          · apply Or.inl List.mem_cons_self
          · apply (ih h).imp_left (List.mem_cons_of_mem d)
      next => cases h

variable {r : Regex} {stop : Char → Bool} {bad : List Char}

/-- A part at the beginning has nothing more behind a match. -/
theorem Bare.left {s t : List Char} (h : r.Bare stop bad (s ++ t)) :
  r.Bare stop bad s
  := by
  rintro u rest ⟨before, rfl⟩ hmatch c hc
  apply h u (rest ++ t) ⟨before, by simp only [List.append_assoc]⟩ hmatch c
  rw [List.takeWhile_append]
  split
  · apply List.mem_append_left _ (List.takeWhile_subset _ hc)
  · apply hc

/-- Nothing is behind a match in an end of a text that is not behind one in the text. -/
theorem Bare.right {s t : List Char} (h : r.Bare stop bad (s ++ t)) :
  r.Bare stop bad t
  := by
  intro u rest hsuffix
  apply h u rest (hsuffix.trans (List.suffix_append s t))

/-- Behind a stop a text begins anew, if no match has a stop in it. -/
theorem bare_append_of_stop (hr : ∀ u, r.Matches u → ∀ c ∈ u, ¬ stop c) {s t : List Char}
    (hstop : ∀ c ∈ t.head?, stop c) :
  r.Bare stop bad (s ++ t) ↔ r.Bare stop bad s ∧ r.Bare stop bad t
  := by
  have hnil : (t.takeWhile fun c => !stop c) = [] := by
    cases t with
    | nil => rfl
    | cons d t => rw [List.takeWhile_cons, if_neg (by simpa using hstop d rfl)]
  constructor
  · intro h
    apply And.intro h.left h.right
  · rintro ⟨hs, ht⟩ u rest hsuffix hmatch c hc
    rcases suffix_append_cases hsuffix with hsuffix | ⟨y, hy, heq⟩
    · apply ht u rest hsuffix hmatch c hc
    · rcases List.append_eq_append_iff.mp heq with ⟨x, rfl, rfl⟩ | ⟨x, rfl, rfl⟩
      · -- the match is in the first text, and what is behind it ends with that text
        apply hs u x hy hmatch c
        rw [List.takeWhile_append, hnil, List.append_nil] at hc
        split at hc
        next hall => rwa [(List.takeWhile_prefix _).eq_of_length hall]
        next => apply hc
      · cases x with
        | nil =>
            rw [List.nil_append] at hnil
            rw [hnil] at hc
            cases hc
        | cons d x => cases hr _ hmatch d (by simp) (hstop d rfl)

/-- A text without the characters may follow, if every match ends with one of them. -/
theorem bare_append_of_notMem (hr : ∀ u, r.Matches u → ∃ c ∈ u.getLast?, c ∈ bad)
    {s t : List Char} (ht : ∀ c ∈ t, c ∉ bad) :
  r.Bare stop bad (s ++ t) ↔ r.Bare stop bad s
  := by
  use Bare.left
  intro hs u rest hsuffix hmatch c hc
  obtain ⟨d, hlast, hbad⟩ := hr u hmatch
  rcases suffix_append_cases hsuffix with hsuffix | ⟨y, hy, heq⟩
  · cases ht d (hsuffix.subset (List.mem_append_left _ (List.mem_of_getLast? hlast))) hbad
  · rcases List.append_eq_append_iff.mp heq with ⟨x, rfl, rfl⟩ | ⟨x, rfl, rfl⟩
    · rcases mem_takeWhile_append hc with hc | hc
      · apply hs u x hy hmatch c hc
      · apply ht c hc
    · cases x with
      | nil => apply ht c (List.takeWhile_subset _ hc)
      | cons e x =>
          -- the match ends in the second text
          rw [List.getLast?_append_cons] at hlast
          cases ht d (List.mem_append_left _ (List.mem_of_getLast? hlast)) hbad

/-- A text from stopped pieces, with no such characters in the matches, has none of them behind
a match exactly if what it has of the texts around the matches has none. -/
theorem bare_take_joinPieces (hstop : ∀ u, r.Matches u → ∀ c ∈ u, ¬ stop c)
    (hlast : ∀ u, r.Matches u → ∃ c ∈ u.getLast?, c ∈ bad) (n : ℕ) (v : List Char)
    (rest : List (List Char × List Char)) (hstopped : Stopped stop rest)
    (hmatches : ∀ piece ∈ rest, ∀ c ∈ piece.1, c ∉ bad) :
  r.Bare stop bad ((joinPieces v rest).take n) ↔ ∀ w ∈ keptPieces n v rest, r.Bare stop bad w
  := by
  induction rest generalizing n v with
  | nil => rw [joinPieces, keptPieces, List.forall_mem_singleton]
  | cons piece rest ih =>
      obtain ⟨u, w⟩ := piece
      obtain ⟨hend, hhead, hstopped⟩ := hstopped
      obtain ⟨hu, hmatches⟩ := List.forall_mem_cons.mp hmatches
      have hjoined : ∀ k, ∀ c ∈ ((joinPieces w rest).take k).head?, stop c := by
        intro k c hc
        cases k with
        | zero => cases hc
        | succ k =>
            apply stop_of_mem_head_joinPieces hend hhead
            rwa [List.head?_take, if_neg (Nat.succ_ne_zero k)] at hc
      rw [joinPieces, keptPieces, List.forall_mem_cons, ← ih _ w hstopped hmatches,
        List.append_assoc, List.take_append, List.take_append, ← List.append_assoc,
        bare_append_of_stop hstop (hjoined _), bare_append_of_notMem hlast]
      intro c hc
      apply hu c (List.mem_of_mem_take hc)

end Regex

/-! ### Substitutions -/

/-- A match: the text that is masked, and what is kept before and after it. -/
structure Match where
  before : List Char
  masked : List Char
  after : List Char

/-- The text of a match. -/
def Match.text (m : Match) : List Char :=
  m.before ++ m.masked ++ m.after

/-- Replace the masked parts of all matches by `mask`. The first characters of the text, `skip`
many, belong to a match already, and every match has a character. -/
def substitute (mask : List Char) (find : Option Char → List Char → Option Match) :
    ℕ → Option Char → List Char → List Char
  | _, _, [] => []
  | skip + 1, _, c :: cs => substitute mask find skip (some c) cs
  | 0, previous, c :: cs =>
      match find previous (c :: cs) with
      | some m =>
          m.before ++ mask ++ m.after ++ substitute mask find (m.text.length - 1) (some c) cs
      | none => c :: substitute mask find 0 (some c) cs

/-- The match of a text at the beginning of another one. -/
def findText (old : List Char) (_previous : Option Char) (s : List Char) : Option Match :=
  if old <+: s then some ⟨[], old, []⟩ else none

/-- Replace a text everywhere. -/
def replaceAll (old mask s : List Char) : List Char :=
  substitute mask (findText old) 0 none s

/-- An expression whose matches are masked in the middle. -/
structure MaskedRegex where
  before : Regex
  masked : Regex
  after : Regex

namespace MaskedRegex

/-- The preferred match at the beginning of a text that follows a character. -/
def find (r : MaskedRegex) (previous : Option Char) (s : List Char) : Option Match :=
  ((r.before.attempts previous s).flatMap fun u =>
    (r.masked.attempts (u.getLast?.or previous) (s.drop u.length)).flatMap fun v =>
      (r.after.attempts (v.getLast?.or (u.getLast?.or previous))
        (s.drop (u.length + v.length))).map fun w => Match.mk u v w).head?

/-- Mask what the expression matches. -/
def sub (r : MaskedRegex) (mask s : List Char) : List Char :=
  substitute mask r.find 0 none s

end MaskedRegex

/-! ### What a mask leaves -/

/-- Parts of a text are replaced by a mask. -/
inductive Masked (mask : List Char) : List Char → List Char → Prop
  | nil : Masked mask [] []
  | keep (c : Char) {s t : List Char} (h : Masked mask s t) : Masked mask (c :: s) (c :: t)
  | hide (r : List Char) {s t : List Char} (h : Masked mask s t) :
      Masked mask (r ++ s) (mask ++ t)

namespace Masked

variable {mask s t : List Char}

theorem refl (mask s : List Char) :
  Masked mask s s
  := by
  induction s with
  | nil => apply nil
  | cons c s ih => apply keep c ih

/-- A text is kept in front of another one. -/
theorem append (r : List Char) (h : Masked mask s t) :
  Masked mask (r ++ s) (r ++ t)
  := by
  induction r with
  | nil => apply h
  | cons c r ih => apply keep c ih

/-- A text without characters of the mask that the result begins with is what the text begins
with. -/
theorem isPrefix_of_isPrefix (hmask : mask ≠ []) (h : Masked mask s t) {w : List Char}
    (hw : ∀ c ∈ w, c ∉ mask) (hstart : w <+: t) :
  w <+: s
  := by
  induction h generalizing w with
  | nil => apply hstart
  | keep c h ih =>
      cases w with
      | nil => apply List.nil_prefix
      | cons c' w =>
          obtain ⟨rfl, hrest⟩ := List.cons_prefix_cons.mp hstart
          apply List.cons_prefix_cons.mpr
          use rfl
          apply ih _ hrest
          intro d hd
          apply hw d (List.mem_cons_of_mem _ hd)
  | hide r h ih =>
      cases w with
      | nil => apply List.nil_prefix
      | cons c' w =>
          -- the result begins with the mask
          obtain ⟨c, mask', rfl⟩ := List.exists_cons_of_ne_nil hmask
          obtain ⟨rfl, -⟩ := List.cons_prefix_cons.mp hstart
          cases hw c' List.mem_cons_self List.mem_cons_self

/-- A text without characters of the mask is not part of the mask. -/
theorem isInfix_of_isInfix_append {m w : List Char} (hw : ∀ c ∈ w, c ∉ m)
    (hpart : w <:+: m ++ t) :
  w <:+: t
  := by
  induction m with
  | nil => apply hpart
  | cons c m ih =>
      rcases List.infix_cons_iff.mp hpart with hstart | hrest
      · cases w with
        | nil => apply List.nil_infix
        | cons c' w =>
            obtain ⟨rfl, -⟩ := List.cons_prefix_cons.mp hstart
            cases hw c' List.mem_cons_self List.mem_cons_self
      · apply ih _ hrest
        intro d hd hmem
        apply hw d hd (List.mem_cons_of_mem c hmem)

/-- A text without characters of the mask that is part of the result is part of the text. -/
theorem isInfix_of_isInfix (hmask : mask ≠ []) (h : Masked mask s t) {w : List Char}
    (hw : ∀ c ∈ w, c ∉ mask) (hpart : w <:+: t) :
  w <:+: s
  := by
  induction h with
  | nil => apply hpart
  | keep c h ih =>
      rcases List.infix_cons_iff.mp hpart with hstart | hpart
      · apply List.IsPrefix.isInfix
        apply (keep c h).isPrefix_of_isPrefix hmask hw hstart
      · apply (ih hpart).trans (List.suffix_cons c _).isInfix
  | hide r h ih =>
      apply (ih (isInfix_of_isInfix_append hw hpart)).trans
      apply (List.suffix_append r _).isInfix

end Masked

/-- A substitution masks parts of the text. -/
theorem masked_substitute (mask : List Char)
    {find : Option Char → List Char → Option Match}
    (hfind : ∀ previous s m, find previous s = some m → m.text <+: s) (skip : ℕ)
    (previous : Option Char) (s : List Char) :
  Masked mask (s.drop skip) (substitute mask find skip previous s)
  := by
  induction s generalizing skip previous with
  | nil =>
      rw [List.drop_nil]
      cases skip <;> apply Masked.nil
  | cons c cs ih =>
      cases skip with
      | succ skip => apply ih
      | zero =>
          rw [substitute, List.drop_zero]
          split
          next m hm =>
              obtain ⟨rest, hrest⟩ := hfind _ _ m hm
              have htail := ih (m.text.length - 1) (some c)
              cases htext : m.text with
              | nil =>
                  obtain ⟨hbefore, -, hafter⟩ : m.before = [] ∧ m.masked = [] ∧ m.after = [] := by
                    simpa [Match.text] using htext
                  rw [hbefore, hafter, List.nil_append, List.append_nil]
                  rw [htext] at htail
                  apply Masked.hide [c] htail
              | cons c' u =>
                  -- the rest of the text follows the match
                  have hdrop : cs.drop (m.text.length - 1) = rest := by
                    rw [htext] at hrest ⊢
                    obtain ⟨-, rfl⟩ := List.cons.inj hrest
                    apply List.drop_left
                  rw [hdrop, htext] at htail
                  rw [← hrest, Match.text]
                  simp only [List.append_assoc]
                  apply Masked.append
                  apply Masked.hide
                  apply htail.append
          next => apply Masked.keep c (ih 0 (some c))

theorem isPrefix_of_findText (old : List Char) (previous : Option Char) (s : List Char)
    (m : Match) (h : findText old previous s = some m) :
  m.text <+: s
  := by
  obtain ⟨hstart, ⟨⟩⟩ := Option.ite_none_right_eq_some.mp h
  rw [Match.text, List.nil_append, List.append_nil]
  apply hstart

/-- Replacing a text everywhere masks it. -/
theorem masked_replaceAll (old mask s : List Char) :
  Masked mask s (replaceAll old mask s)
  := masked_substitute mask (isPrefix_of_findText old) 0 none s

/-- Replacing a text everywhere leaves none of it. -/
theorem not_isInfix_replaceAll {old mask : List Char} (hold : old ≠ []) (hmask : mask ≠ [])
    (h : ∀ c ∈ old, c ∉ mask) (s : List Char) :
  ¬ old <:+: replaceAll old mask s
  := by
  suffices hskip : ∀ skip previous, ¬ old <:+: substitute mask (findText old) skip previous s by
    apply hskip 0 none
  induction s with
  | nil =>
      intro skip previous hpart
      cases skip <;> apply hold (List.infix_nil.mp hpart)
  | cons c cs ih =>
      intro skip previous hpart
      cases skip with
      | succ skip => apply ih skip (some c) hpart
      | zero =>
          rw [substitute] at hpart
          split at hpart
          next m hm =>
              obtain ⟨-, ⟨⟩⟩ := Option.ite_none_right_eq_some.mp hm
              rw [List.nil_append, List.append_nil] at hpart
              apply ih _ _ (Masked.isInfix_of_isInfix_append h hpart)
          next hnone =>
              rcases List.infix_cons_iff.mp hpart with hstart | hrest
              · -- the text would begin with what is replaced
                have hkept := Masked.keep c
                  (masked_substitute mask (isPrefix_of_findText old) 0 (some c) cs)
                rw [List.drop_zero] at hkept
                have hfound := hkept.isPrefix_of_isPrefix hmask h hstart
                rw [findText, if_pos hfound] at hnone
                cases hnone
              · apply ih 0 (some c) hrest

/-- An expression masks parts of the text. -/
theorem MaskedRegex.masked_sub (r : MaskedRegex) (mask s : List Char) :
  Masked mask s (r.sub mask s)
  := by
  refine masked_substitute mask ?_ 0 none s
  intro previous s m hm
  obtain ⟨u, hu, hrest⟩ := List.mem_flatMap.mp (List.mem_of_mem_head? hm)
  obtain ⟨v, hv, hafter⟩ := List.mem_flatMap.mp hrest
  obtain ⟨w, hw, rfl⟩ := List.mem_map.mp hafter
  obtain ⟨s, rfl⟩ := Regex.isPrefix_of_mem_attempts hu
  rw [List.drop_left] at hv
  obtain ⟨s, rfl⟩ := Regex.isPrefix_of_mem_attempts hv
  have hlength : u.length + v.length = (u ++ v).length := List.length_append.symm
  rw [hlength, ← List.append_assoc, List.drop_left] at hw
  rw [Match.text, ← List.append_assoc]
  apply (List.prefix_append_right_inj (u ++ v)).mpr
  apply Regex.isPrefix_of_mem_attempts hw

/-- Every text without characters of the mask that is part of `t` is part of `s`. -/
def NothingNew (mask s t : List Char) : Prop :=
  ∀ w : List Char, (∀ c ∈ w, c ∉ mask) → w <:+: t → w <:+: s

theorem NothingNew.trans {mask s t u : List Char} (h : NothingNew mask s t)
    (h' : NothingNew mask t u) :
  NothingNew mask s u
  := by
  intro w hw hpart
  apply h w hw (h' w hw hpart)

theorem nothingNew_replaceAll {mask : List Char} (hmask : mask ≠ []) (old s : List Char) :
  NothingNew mask s (replaceAll old mask s)
  := by
  intro w hw
  apply (masked_replaceAll old mask s).isInfix_of_isInfix hmask hw

theorem MaskedRegex.nothingNew_sub {mask : List Char} (hmask : mask ≠ []) (r : MaskedRegex)
    (s : List Char) :
  NothingNew mask s (r.sub mask s)
  := by
  intro w hw
  apply (r.masked_sub mask s).isInfix_of_isInfix hmask hw
