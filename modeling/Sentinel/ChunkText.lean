import Sentinel.Packing

/-!
# Cutting a text into chunks

A message may not be longer than a limit, so a longer text is cut into chunks. A line that is
longer than the limit is sliced, and the others are packed as they come. A chunk that is collected
and still empty counts as none, so an empty line at the start of a chunk is dropped.

A text is the list of its characters.
-/

namespace Sentinel

/-- The chunks that are complete, and what is collected for the next one. -/
structure Chunks where
  parts : List (List Char)
  current : List Char
deriving DecidableEq

namespace Chunks

/-- Complete the chunk that is collected, if there is anything. -/
def flush (c : Chunks) : Chunks :=
  if c.current = [] then c else ⟨c.parts ++ [c.current], []⟩

/-- Slice a line while it is longer than the limit. What is left of it, and `none` when the loop
has not ended after so many rounds. -/
def sliceLine (limit : ℕ) : (rounds : ℕ) → Chunks → List Char → Option (Chunks × List Char)
  | 0, _, _ => none
  | rounds + 1, c, line =>
      if line.length > limit then
        let c := c.flush
        sliceLine limit rounds ⟨c.parts ++ [line.take limit], c.current⟩ (line.drop limit)
      else some (c, line)

/-- Append a line to what is collected if it fits, otherwise start another chunk with it. -/
def addLine (limit : ℕ) (c : Chunks) (line : List Char) : Chunks :=
  if c.current = [] then { c with current := line }
  else if c.current.length + 1 + line.length ≤ limit then
    { c with current := c.current ++ '\n' :: line }
  else ⟨c.parts ++ [c.current], line⟩

/-- The body of the loop over the lines. -/
def chunkLine (limit rounds : ℕ) (c : Chunks) (line : List Char) : Option Chunks := do
  let (c, line) ← sliceLine limit rounds c line
  return addLine limit c line

end Chunks

/-- `"\n".join(chunks)`. -/
def joinLines (chunks : List (List Char)) : List Char :=
  ['\n'].intercalate chunks

/-- Cut a text into chunks not longer than a limit. `none` when the loop over a line has not ended
after so many rounds. -/
def chunkText (rounds : ℕ) (s : List Char) (limit : ℕ) : Option (List (List Char)) :=
  if s.length ≤ limit then some [s]
  else do
    let c ← (s.splitOn '\n').foldlM (Chunks.chunkLine limit rounds) ⟨[], []⟩
    return c.flush.parts

namespace Chunks

variable {limit rounds : ℕ} {c : Chunks} {line : List Char} {lines : List (List Char)}

/-! ### Lengths and visible characters -/

/-- No chunk is longer than a limit. -/
structure Fits (limit : ℕ) (c : Chunks) : Prop where
  parts : ∀ chunk ∈ c.parts, chunk.length ≤ limit
  current : c.current.length ≤ limit

/-- The characters of the chunks. -/
def text (c : Chunks) : List Char :=
  c.parts.flatten ++ c.current

/-- The characters of a text that are no newlines. -/
def visible (text : List Char) : List Char :=
  text.filter (· ≠ '\n')

theorem visible_append (a b : List Char) :
  visible (a ++ b) = visible a ++ visible b
  := List.filter_append a b

theorem Fits.concat (h : c.Fits limit) {chunk current : List Char} (hchunk : chunk.length ≤ limit)
    (hcurrent : current.length ≤ limit) :
  Fits limit ⟨c.parts ++ [chunk], current⟩
  := by
  constructor
  · intro other hmem
    obtain hmem | rfl := List.mem_append.mp hmem |>.imp_right List.mem_singleton.mp
    · apply h.parts other hmem
    · apply hchunk
  · apply hcurrent

theorem Fits.flush (h : c.Fits limit) :
  c.flush.Fits limit
  := by
  rw [Chunks.flush]
  split
  · apply h
  · apply h.concat h.current (Nat.zero_le _)

@[simp]
theorem text_flush :
  c.flush.text = c.text
  := by
  rw [flush]
  split
  · rfl
  · simp [text]

@[simp]
theorem current_flush :
  c.flush.current = []
  := by
  rw [flush]
  split
  next hempty => apply hempty
  next => rfl

/-- Slicing a line ends. What is left of the line fits, and no character is lost. -/
theorem exists_sliceLine (hlimit : 1 ≤ limit) (hc : c.Fits limit) (line : List Char) :
  ∃ c' rest, (∀ rounds, line.length < rounds → sliceLine limit rounds c line = some (c', rest))
    ∧ c'.Fits limit ∧ rest.length ≤ limit ∧ c'.text ++ rest = c.text ++ line
  := by
  induction hlength : line.length using Nat.strong_induction_on generalizing c line with
  | _ length ih =>
      subst hlength
      by_cases hlong : line.length > limit
      · have hslice : Fits limit ⟨c.flush.parts ++ [line.take limit], c.flush.current⟩ :=
          hc.flush.concat (List.length_take_le _ _) hc.flush.current
        have hdrop : (line.drop limit).length < line.length := by
          rw [List.length_drop]
          omega
        obtain ⟨c', rest, hends, hfits, hrest, htext⟩ := ih _ hdrop hslice _ rfl
        refine ⟨c', rest, ?_, hfits, hrest, ?_⟩
        · rintro (_ | rounds) hrounds
          · exact absurd hrounds (Nat.not_lt_zero _)
          · rw [sliceLine, if_pos hlong]
            apply hends
            omega
        · rw [htext, ← text_flush (c := c), text, text]
          simp
      · refine ⟨c, line, ?_, hc, Nat.le_of_not_lt hlong, rfl⟩
        rintro (_ | rounds) hrounds
        · exact absurd hrounds (Nat.not_lt_zero _)
        · rw [sliceLine, if_neg hlong]

/-- A line that fits keeps the chunks from getting too long. -/
theorem Fits.addLine (h : c.Fits limit) (hline : line.length ≤ limit) :
  (addLine limit c line).Fits limit
  := by
  rw [Chunks.addLine]
  split
  next => exact ⟨h.parts, hline⟩
  next =>
      split
      next hfits =>
          use h.parts
          simp only [List.length_append, List.length_cons]
          omega
      next => apply h.concat h.current hline

/-- Only newlines are added or dropped with a line. -/
theorem visible_addLine :
  visible (addLine limit c line).text = visible (c.text ++ line)
  := by
  rw [addLine]
  split
  next hempty => simp [text, hempty]
  next =>
      split
      next => simp [text, visible]
      next => simp [text]

/-- Every line is added. No chunk gets too long, and no visible character is lost. -/
theorem exists_foldlM (hlimit : 1 ≤ limit) (hc : c.Fits limit) (lines : List (List Char)) :
  ∃ c', (∀ rounds, (∀ line ∈ lines, line.length < rounds) →
      lines.foldlM (chunkLine limit rounds) c = some c')
    ∧ c'.Fits limit ∧ visible c'.text = visible (c.text ++ lines.flatten)
  := by
  induction lines generalizing c with
  | nil => exact ⟨c, fun _ _ => rfl, hc, by simp⟩
  | cons line lines ih =>
      obtain ⟨sliced, rest, hslice, hfits, hrest, htext⟩ := exists_sliceLine hlimit hc line
      obtain ⟨c', hfold, hfits', hvisible⟩ := ih (hfits.addLine hrest)
      refine ⟨c', ?_, hfits', ?_⟩
      · intro rounds hlines
        obtain ⟨hline, hlines⟩ := List.forall_mem_cons.mp hlines
        rw [List.foldlM_cons, chunkLine, hslice rounds hline]
        apply hfold rounds hlines
      · rw [hvisible, visible_append, visible_addLine, ← visible_append, htext,
          List.flatten_cons, List.append_assoc]

end Chunks

/-- A line of a text is not longer than the text. -/
theorem length_le_of_mem_splitOn {s line : List Char} (h : line ∈ s.splitOn '\n') :
  line.length ≤ s.length
  := by
  have hlength := Packing.length_intercalate (x := '\n') (List.ne_nil_of_mem h)
  rw [List.intercalate_splitOn] at hlength
  have hlt := Packing.length_lt_weight h
  omega

/-- A text is cut into chunks that are not longer than the limit and have its visible
characters. -/
theorem chunkText_bounded {limit : ℕ} (hlimit : 1 ≤ limit) (s : List Char) :
  ∃ chunks, (∀ rounds, s.length < rounds → chunkText rounds s limit = some chunks)
    ∧ (∀ chunk ∈ chunks, chunk.length ≤ limit)
    ∧ chunks.flatten.filter (· ≠ '\n') = s.filter (· ≠ '\n')
  := by
  by_cases hshort : s.length ≤ limit
  · refine ⟨[s], ?_, by simpa using hshort, by simp⟩
    intro rounds _
    rw [chunkText, if_pos hshort]
  · have hempty : Chunks.Fits limit ⟨[], []⟩ := ⟨nofun, Nat.zero_le _⟩
    obtain ⟨c, hfold, hfits, hvisible⟩ := Chunks.exists_foldlM hlimit hempty (s.splitOn '\n')
    refine ⟨c.flush.parts, ?_, hfits.flush.parts, ?_⟩
    · intro rounds hrounds
      rw [chunkText, if_neg hshort, hfold rounds]
      · rfl
      · intro line hline
        apply Nat.lt_of_le_of_lt (length_le_of_mem_splitOn hline) hrounds
    · have htext : c.flush.parts.flatten = c.text := by
        rw [← Chunks.text_flush, Chunks.text, Chunks.current_flush, List.append_nil]
      have hlines : (s.splitOn '\n').flatten.filter (· ≠ '\n') = s.filter (· ≠ '\n') := by
        rw [← Packing.filter_intercalate, List.intercalate_splitOn]
      rw [htext, ← hlines]
      apply hvisible

/-- A line of three characters is sliced, and the empty lines around it are dropped. -/
theorem chunkText_bounded_sliced :
  ∃ chunks, (∀ rounds, 7 < rounds → chunkText rounds "\nabc\n\nd".toList 2 = some chunks)
    ∧ (∀ chunk ∈ chunks, chunk.length ≤ 2)
    ∧ chunks.flatten.filter (· ≠ '\n') = "abcd".toList
  := @chunkText_bounded 2 (by decide) "\nabc\n\nd".toList

example : chunkText 8 "\nabc\n\nd".toList 2 = some ["ab".toList, "c\n".toList, "d".toList] := by
  decide

namespace Chunks

variable {limit : ℕ} {c : Chunks} {line : List Char} {lines page : List (List Char)}

/-! ### Lines that fit -/

/-- A line that fits is not sliced. -/
theorem foldlM_eq_foldl {rounds : ℕ} (hrounds : 0 < rounds)
    (hlines : ∀ line ∈ lines, line.length ≤ limit) :
  lines.foldlM (chunkLine limit rounds) c = some (lines.foldl (addLine limit) c)
  := by
  obtain ⟨rounds, rfl⟩ := Nat.exists_eq_succ_of_ne_zero hrounds.ne'
  induction lines generalizing c with
  | nil => rfl
  | cons line lines ih =>
      obtain ⟨hline, hlines⟩ := List.forall_mem_cons.mp hlines
      rw [List.foldlM_cons, chunkLine, sliceLine, if_neg (Nat.not_lt.mpr hline)]
      apply ih hlines

/-- A page that begins with a line that is not empty is not empty. -/
theorem joinLines_ne_nil (hpage : page ≠ []) (hhead : page.head? ≠ some []) :
  joinLines page ≠ []
  := by
  cases page with
  | nil => exact absurd rfl hpage
  | cons line lines =>
      cases line with
      | nil => exact absurd rfl hhead
      | cons a line =>
          rw [joinLines, List.intercalate_cons_cons_left]
          apply List.cons_ne_nil

/-- A line that fits on the page that is collected. -/
theorem addLine_of_fits (hcurrent : c.current ≠ [])
    (h : c.current.length + 1 + line.length ≤ limit) :
  addLine limit c line = ⟨c.parts, c.current ++ '\n' :: line⟩
  := by
  rw [addLine, if_neg hcurrent, if_pos h]

/-- A line that does not fit on the page that is collected. -/
theorem addLine_of_full (hcurrent : c.current ≠ [])
    (h : limit < c.current.length + 1 + line.length) :
  addLine limit c line = ⟨c.parts ++ [c.current], line⟩
  := by
  rw [addLine, if_neg hcurrent, if_neg (Nat.not_le.mpr h)]

/-! ### Pages that begin with a line that is not empty -/

/-- The rest of a page is collected behind its first lines. -/
theorem foldl_page {parts : List (List Char)} (hpage : page ≠ []) (hhead : page.head? ≠ some [])
    (h : (joinLines (page ++ lines)).length ≤ limit) :
  lines.foldl (addLine limit) ⟨parts, joinLines page⟩ = ⟨parts, joinLines (page ++ lines)⟩
  := by
  induction lines generalizing page with
  | nil => rw [List.append_nil, List.foldl_nil]
  | cons line lines ih =>
      have hconcat : joinLines (page ++ [line]) = joinLines page ++ '\n' :: line :=
        Packing.intercalate_concat hpage
      have hsplit : page ++ line :: lines = page ++ [line] ++ lines := by simp
      have hfits : (joinLines page).length + 1 + line.length ≤ limit := by
        have hpageLength := Packing.length_intercalate (x := '\n') hpage
        have hlength := Packing.length_intercalate (x := '\n')
          (List.append_ne_nil_of_left_ne_nil hpage (line :: lines))
        rw [Packing.weight_append, Packing.weight_cons] at hlength
        rw [joinLines] at h ⊢
        omega
      rw [List.foldl_cons, addLine_of_fits (joinLines_ne_nil hpage hhead) hfits, ← hconcat, hsplit]
      apply ih
      · simp
      · rwa [List.head?_append_of_ne_nil _ hpage]
      · rwa [← hsplit]

/-- A page is collected from its first line on. -/
theorem foldl_page_cons {parts : List (List Char)} (hline : line ≠ [])
    (h : (joinLines (line :: lines)).length ≤ limit) :
  lines.foldl (addLine limit) ⟨parts, line⟩ = ⟨parts, joinLines (line :: lines)⟩
  := by
  have hhead : [line].head? ≠ some [] := by simpa using hline
  have hpage : joinLines [line] = line := List.intercalate_singleton
  have hfold : lines.foldl (addLine limit) ⟨parts, joinLines [line]⟩
      = ⟨parts, joinLines (line :: lines)⟩ := foldl_page (List.cons_ne_nil _ _) hhead h
  rwa [hpage] at hfold

/-- Packed pages are the chunks of their lines when each begins with a line that is not empty. -/
theorem foldl_pages {parts : List (List Char)} {pages : List (List (List Char))}
    (h : Packing.IsPacked '\n' limit (page :: pages))
    (hheads : ∀ other ∈ page :: pages, other.head? ≠ some []) :
  (pages.flatten.foldl (addLine limit) ⟨parts, joinLines page⟩).flush.parts
    = parts ++ (page :: pages).map joinLines
  := by
  induction pages generalizing parts page with
  | nil =>
      have hne := joinLines_ne_nil (h.ne_nil page List.mem_cons_self)
        (hheads page List.mem_cons_self)
      rw [List.flatten_nil, List.foldl_nil, flush, if_neg hne]
      rfl
  | cons next pages ih =>
      have hpage := h.ne_nil page List.mem_cons_self
      have hhead := hheads page List.mem_cons_self
      have hmem : next ∈ page :: next :: pages := List.mem_cons_of_mem _ List.mem_cons_self
      obtain ⟨line, lines, rfl⟩ := List.exists_cons_of_ne_nil (h.ne_nil next hmem)
      have hfull := (List.isChain_cons_cons.mp h.full).1 line rfl
      have hline : line ≠ [] := by simpa using hheads _ hmem
      rw [List.flatten_cons, List.cons_append, List.foldl_cons,
        addLine_of_full (joinLines_ne_nil hpage hhead) hfull, List.foldl_append,
        foldl_page_cons hline (h.fits _ hmem),
        ih h.tail fun other hother => hheads other (List.mem_cons_of_mem _ hother)]
      simp

/-- The chunks of the lines of packed pages that each begin with a line that is not empty. -/
theorem foldl_flatten {pages : List (List (List Char))} (hpages : pages ≠ [])
    (h : Packing.IsPacked '\n' limit pages) (hheads : ∀ page ∈ pages, page.head? ≠ some []) :
  (pages.flatten.foldl (addLine limit) ⟨[], []⟩).flush.parts = pages.map joinLines
  := by
  obtain ⟨page, pages, rfl⟩ := List.exists_cons_of_ne_nil hpages
  have hmem : page ∈ page :: pages := List.mem_cons_self
  obtain ⟨line, lines, rfl⟩ := List.exists_cons_of_ne_nil (h.ne_nil page hmem)
  have hline : line ≠ [] := by simpa using hheads _ hmem
  have hfirst : addLine limit ⟨[], []⟩ line = ⟨[], line⟩ := if_pos rfl
  rw [List.flatten_cons, List.cons_append, List.foldl_cons, hfirst, List.foldl_append,
    foldl_page_cons hline (h.fits _ hmem), foldl_pages h hheads, List.nil_append]

/-! ### Lines that are lost -/

/-- The lines are packed, each page begins with a line that is not empty, and the last page is
what is collected. -/
def Packed (limit : ℕ) (lines : List (List Char)) (c : Chunks) : Prop :=
  ∃ pages page, Packing.IsPacked '\n' limit (pages ++ [page])
    ∧ (pages ++ [page]).flatten = lines
    ∧ (∀ other ∈ pages ++ [page], other.head? ≠ some [])
    ∧ c = ⟨pages.map joinLines, joinLines page⟩

/-- The chunks weigh less than the lines. -/
def Lossy (lines : List (List Char)) (c : Chunks) : Prop :=
  Packing.weight c.flush.parts < Packing.weight lines

/-- The first line is a page, unless it is empty. -/
theorem packed_or_lossy_first (hline : line.length ≤ limit) :
  Packed limit [line] (addLine limit ⟨[], []⟩ line) ∨ Lossy [line] (addLine limit ⟨[], []⟩ line)
  := by
  by_cases hempty : line = []
  · right
    simp [Lossy, addLine, flush, hempty]
  · left
    refine ⟨[], [line], Packing.IsPacked.singleton hline, rfl, by simpa using hempty, ?_⟩
    simp [addLine, joinLines]

/-- After packed lines, a line is lost when it is empty and does not fit. -/
theorem Packed.addLine (h : Packed limit lines c) (hline : line.length ≤ limit) :
  Packed limit (lines ++ [line]) (addLine limit c line)
    ∨ Lossy (lines ++ [line]) (addLine limit c line)
  := by
  obtain ⟨pages, page, hpacked, rfl, hheads, rfl⟩ := h
  have hpage := hpacked.ne_nil page (by simp)
  have hhead := hheads page (by simp)
  have hcurrent := joinLines_ne_nil hpage hhead
  by_cases hfits : (joinLines page).length + 1 + line.length ≤ limit
  · left
    rw [addLine_of_fits hcurrent hfits]
    refine ⟨pages, page ++ [line], hpacked.concat hfits, by simp, ?_, ?_⟩
    · intro other hmem
      obtain hmem | rfl := List.mem_append.mp hmem |>.imp_right List.mem_singleton.mp
      · apply hheads other (List.mem_append_left _ hmem)
      · rwa [List.head?_append_of_ne_nil _ hpage]
    · rw [joinLines, joinLines, Packing.intercalate_concat hpage]
  · have hfull := Nat.lt_of_not_le hfits
    rw [addLine_of_full hcurrent hfull]
    by_cases hempty : line = []
    · right
      have hparts : pages.map joinLines ++ [joinLines page] = (pages ++ [page]).map joinLines := by
        rw [List.map_append, List.map_singleton]
      have hlines : Packing.weight ((pages ++ [page]).flatten ++ [[]])
          = Packing.weight (pages ++ [page]).flatten + 1 := by
        rw [Packing.weight_append]
        rfl
      rw [Lossy, flush, if_pos hempty, hempty, hlines, hparts,
        ← Packing.weight_map_intercalate hpacked.ne_nil]
      apply Nat.lt_succ_self
    · left
      refine ⟨pages ++ [page], [line], hpacked.concat_page hline hfull, by simp, ?_, ?_⟩
      · intro other hmem
        obtain hmem | rfl := List.mem_append.mp hmem |>.imp_right List.mem_singleton.mp
        · apply hheads other hmem
        · simpa using hempty
      · simp [joinLines]

/-- A line adds no more to the chunks than to the lines. -/
theorem Lossy.addLine (h : Lossy lines c) :
  Lossy (lines ++ [line]) (addLine limit c line)
  := by
  have hweight : Packing.weight (Chunks.addLine limit c line).flush.parts
      ≤ Packing.weight c.flush.parts + line.length + 1 := by
    by_cases hcurrent : c.current = []
    · rw [Chunks.addLine, if_pos hcurrent, flush, flush, if_pos hcurrent]
      split <;> simp <;> omega
    · rw [Chunks.addLine, if_neg hcurrent]
      split
      next => simp [flush, hcurrent]; omega
      next => by_cases hline : line = [] <;> simp [flush, hcurrent, hline]; omega
  rw [Lossy] at h ⊢
  rw [Packing.weight_append, Packing.weight_cons, Packing.weight_nil]
  omega

/-- After any lines that fit, they are packed or some are lost. -/
theorem packed_or_lossy (hne : lines ≠ []) (hlines : ∀ line ∈ lines, line.length ≤ limit) :
  Packed limit lines (lines.foldl (addLine limit) ⟨[], []⟩)
    ∨ Lossy lines (lines.foldl (addLine limit) ⟨[], []⟩)
  := by
  induction lines using List.reverseRecOn with
  | nil => exact absurd rfl hne
  | append_singleton lines line ih =>
      have hline : line.length ≤ limit := hlines line (by simp)
      rw [List.foldl_append, List.foldl_cons, List.foldl_nil]
      by_cases hnil : lines = []
      · subst hnil
        apply packed_or_lossy_first hline
      · have hbefore : ∀ other ∈ lines, other.length ≤ limit := by
          intro other hmem
          apply hlines other (List.mem_append_left _ hmem)
        obtain hpacked | hlossy := ih hnil hbefore
        · apply hpacked.addLine hline
        · apply Or.inr hlossy.addLine

end Chunks

/-- A text whose lines are not longer than the limit is its chunks joined by newlines exactly when
it is a chunk itself, or its lines can be packed into pages that all begin with a line that is not
empty. -/
theorem chunkText_joins_iff {rounds limit : ℕ} {s : List Char} (hrounds : 0 < rounds)
    (hlines : ∀ line ∈ s.splitOn '\n', line.length ≤ limit) :
  (chunkText rounds s limit).map joinLines = some s
    ↔ s.length ≤ limit ∨ ∃ pages, Packing.IsPacked '\n' limit pages
      ∧ pages.flatten = s.splitOn '\n' ∧ ∀ page ∈ pages, page.head? ≠ some []
  := by
  have hjoin : joinLines (s.splitOn '\n') = s := List.intercalate_splitOn '\n'
  by_cases hshort : s.length ≤ limit
  · rw [chunkText, if_pos hshort]
    simp [hshort, joinLines]
  · rw [chunkText, if_neg hshort, Chunks.foldlM_eq_foldl hrounds hlines]
    simp only [Option.bind_eq_bind, Option.bind_some, Option.pure_def, Option.map_some,
      Option.some.injEq, hshort, false_or]
    constructor
    · intro hchunks
      obtain hpacked | hlossy := Chunks.packed_or_lossy (List.splitOn_ne_nil _ _) hlines
      · obtain ⟨pages, page, hpacked, hflatten, hheads, -⟩ := hpacked
        use pages ++ [page], hpacked, hflatten, hheads
      · exfalso
        have hweight := Packing.length_intercalate (x := '\n') (List.splitOn_ne_nil '\n' s)
        rw [List.intercalate_splitOn] at hweight
        rw [Chunks.Lossy, ← hweight] at hlossy
        by_cases hnil : ((s.splitOn '\n').foldl (Chunks.addLine limit) ⟨[], []⟩).flush.parts = []
        · rw [hnil] at hchunks
          rw [← hchunks] at hshort
          exact hshort (Nat.zero_le _)
        · have hlength := Packing.length_intercalate (x := '\n') hnil
          rw [joinLines] at hchunks
          rw [hchunks] at hlength
          omega
    · rintro ⟨pages, hpacked, hflatten, hheads⟩
      have hpages : pages ≠ [] := by
        rintro rfl
        exact List.splitOn_ne_nil '\n' s hflatten.symm
      rw [← hflatten, Chunks.foldl_flatten hpages hpacked hheads]
      rw [← hflatten] at hjoin
      rw [← hjoin]
      apply (Packing.intercalate_flatten hpacked.ne_nil).symm

/-- An empty line between two lines survives when it fits behind the first one. -/
theorem chunkText_joins_three :
  (chunkText 1 "ab\n\ncd".toList 3).map joinLines = some "ab\n\ncd".toList
  := by
  apply (chunkText_joins_iff (by decide) (by decide)).mpr
  right
  use [["ab".toList, []], ["cd".toList]]
  refine ⟨⟨by decide, by decide, ?_⟩, by decide, by decide⟩
  apply List.isChain_pair.mpr
  decide

/-- An empty line between two lines is lost when the first one is as long as the limit. -/
theorem chunkText_drops_emptyLine :
  (∀ line ∈ "ab\n\ncd".toList.splitOn '\n', line.length ≤ 2)
    ∧ (chunkText 7 "ab\n\ncd".toList 2).map joinLines = some "ab\ncd".toList
    ∧ "ab\ncd".toList ≠ "ab\n\ncd".toList
  := by
  decide

end Sentinel
