import Sentinel.Text
import Mathlib.Data.List.DropRight

/-!
# Python integer literals

`int(text, 0)` reads a text as an integer literal of Python: a decimal number, or a number of base
sixteen, eight or two behind a prefix. A decimal literal begins with a zero only if it is zero.
Where both `int(text, 0)` and `int(text)` read a text, they read the same number.
-/

namespace Python

/-! ### Texts without the spaces at their ends -/

theorem stripBy_eq (p : Char → Bool) (text : String) :
  (stripBy p text).toList = (text.toList.dropWhile p).rdropWhile p
  := String.toList_ofList

/-- What is left between characters of a kind is stripped of no further characters of it. -/
theorem stripBy_stripBy {p q : Char → Bool} (h : ∀ c, p c = false → q c = false) (text : String) :
  stripBy q (stripBy p text) = stripBy p text
  := by
  apply String.toList_injective
  rw [stripBy_eq, stripBy_eq]
  generalize hleft : text.toList.dropWhile p = left
  have hfirst : (left.rdropWhile p).dropWhile q = left.rdropWhile p := by
    cases hstripped : left.rdropWhile p with
    | nil => rfl
    | cons c cs =>
        obtain ⟨after, hafter⟩ := hstripped ▸ List.rdropWhile_prefix p left
        have hne : text.toList.dropWhile p ≠ [] := by
          rw [hleft, ← hafter]
          apply List.cons_ne_nil
        have hc := List.head_dropWhile_not p hne
        simp only [hleft, ← hafter, List.cons_append, List.head_cons] at hc
        rw [List.dropWhile_cons_of_neg (by simp [h c hc])]
  rw [hfirst]
  apply List.rdropWhile_eq_self_iff.mpr
  intro hne hlast
  have hnot := List.rdropWhile_last_not p left hne
  rw [h _ (Bool.eq_false_iff.mpr hnot)] at hlast
  cases hlast

/-- A text is what is left of it between characters of a kind. -/
theorem exists_stripBy (p : Char → Bool) (text : String) :
  ∃ before after, text.toList = before ++ (stripBy p text).toList ++ after
    ∧ (∀ c ∈ before, p c) ∧ ∀ c ∈ after, p c
  := by
  use text.toList.takeWhile p, (text.toList.dropWhile p).rtakeWhile p
  refine ⟨?_, fun c hc => List.mem_takeWhile_imp hc, fun c hc => List.mem_rtakeWhile_imp hc⟩
  rw [stripBy_eq, List.append_assoc, List.rdropWhile_append_rtakeWhile,
    List.takeWhile_append_dropWhile]

/-- A text without characters of a kind between others of the kind. -/
theorem stripBy_of_eq_append {p : Char → Bool} {text middle : String} {before after : List Char}
    (htext : text.toList = before ++ middle.toList ++ after) (hbefore : ∀ c ∈ before, p c)
    (hafter : ∀ c ∈ after, p c) (hmiddle : ∀ c ∈ middle.toList, p c = false) :
  stripBy p text = middle
  := by
  apply String.toList_injective
  rw [stripBy_eq, htext, List.append_assoc, List.dropWhile_append_of_pos hbefore]
  cases hm : middle.toList with
  | nil =>
      rw [List.nil_append, List.dropWhile_eq_nil_iff.mpr hafter]
      rfl
  | cons c cs =>
      rw [hm] at hmiddle
      have hc : p c = false := hmiddle c List.mem_cons_self
      have hreverse : ∀ c' ∈ (c :: cs).reverse, p c' = false := by
        intro c' hmem
        apply hmiddle c' (List.mem_reverse.mp hmem)
      rw [List.cons_append, List.dropWhile_cons_of_neg (by simp [hc]), ← List.cons_append,
        List.rdropWhile, List.reverse_append, List.dropWhile_append_of_pos,
        dropWhile_eq_self hreverse, List.reverse_reverse]
      intro c' hmem
      apply hafter c' (List.mem_reverse.mp hmem)

/-! ### Signs -/

/-- Read a number with or without a sign. -/
def signed (read : List Char → Option ℕ) : List Char → Option ℤ
  | '-' :: cs => (read cs).map fun n : ℕ => -(n : ℤ)
  | '+' :: cs => (read cs).map fun n : ℕ => (n : ℤ)
  | cs => (read cs).map fun n : ℕ => (n : ℤ)

/-- A text without its sign. -/
def unsigned : List Char → List Char
  | '-' :: cs => cs
  | '+' :: cs => cs
  | cs => cs

/-- A text without a sign is read as it is. -/
theorem signed_of_ne {read : List Char → Option ℕ} {cs : List Char}
    (hminus : ∀ rest, cs ≠ '-' :: rest) (hplus : ∀ rest, cs ≠ '+' :: rest) :
  signed read cs = (read cs).map fun n : ℕ => (n : ℤ)
  := by
  unfold signed
  split
  next rest => exact absurd rfl (hminus rest)
  next rest => exact absurd rfl (hplus rest)
  next => rfl

theorem unsigned_of_ne {cs : List Char} (hminus : ∀ rest, cs ≠ '-' :: rest)
    (hplus : ∀ rest, cs ≠ '+' :: rest) :
  unsigned cs = cs
  := by
  unfold unsigned
  split
  next rest => exact absurd rfl (hminus rest)
  next rest => exact absurd rfl (hplus rest)
  next => rfl

theorem int_eq_signed (text : String) :
  int text = signed readNumber (stripBy isNumberSpace text).toList
  := by
  unfold int
  generalize (stripBy isNumberSpace text).toList = cs
  split
  next cs =>
      change _ = (readNumber cs).map fun n : ℕ => -(n : ℤ)
      cases readNumber cs <;> rfl
  next cs =>
      change _ = (readNumber cs).map fun n : ℕ => (n : ℤ)
      cases readNumber cs <;> rfl
  next hminus hplus =>
      rw [signed_of_ne hminus hplus]
      cases readNumber cs <;> rfl

/-- A number that is read is that of the text without its sign, or its opposite. -/
theorem signed_eq (read : List Char → Option ℕ) (cs : List Char) :
  signed read cs
    = (read (unsigned cs)).map fun n : ℕ => if cs.head? = some '-' then -(n : ℤ) else n
  := by
  by_cases hminus : ∃ rest, cs = '-' :: rest
  · obtain ⟨rest, rfl⟩ := hminus
    rfl
  · by_cases hplus : ∃ rest, cs = '+' :: rest
    · obtain ⟨rest, rfl⟩ := hplus
      rfl
    · rw [not_exists] at hminus hplus
      have hhead : cs.head? ≠ some '-' := by
        intro hhead
        obtain ⟨rest, rfl⟩ := List.head?_eq_some_iff.mp hhead
        exact hminus rest rfl
      rw [signed_of_ne hminus hplus, unsigned_of_ne hminus hplus]
      simp only [hhead, if_false]

/-! ### Literals -/

/-- The value of a letter of a hexadecimal number. -/
def hexLetter (c : Char) : Option ℕ :=
  if 'a' ≤ c ∧ c ≤ 'f' then some (c.toNat - 'a'.toNat + 10)
  else if 'A' ≤ c ∧ c ≤ 'F' then some (c.toNat - 'A'.toNat + 10)
  else none

/-- The value of a digit of a base up to sixteen. -/
def digitOf (base : ℕ) (c : Char) : Option ℕ :=
  ((decimal c).or (hexLetter c)).filter (· < base)

/-- Read digits of a base after a number, an underscore before each allowed. -/
def readDigitsOf (base n : ℕ) : List Char → Option ℕ
  | [] => some n
  | '_' :: c :: cs => do
      let d ← digitOf base c
      readDigitsOf base (base * n + d) cs
  | c :: cs => do
      let d ← digitOf base c
      readDigitsOf base (base * n + d) cs

/-- The base of the prefix with a letter. -/
def baseOfLetter (c : Char) : Option ℕ :=
  if c = 'x' ∨ c = 'X' then some 16
  else if c = 'o' ∨ c = 'O' then some 8
  else if c = 'b' ∨ c = 'B' then some 2
  else none

/-- The base of the prefix of a text, if it has one. -/
def baseOf : List Char → Option ℕ
  | zero :: letter :: _ => if decimal zero = some 0 then baseOfLetter letter else none
  | _ => none

/-- Read a literal without a sign. -/
def readLiteral (text : List Char) : Option ℕ :=
  match baseOf text, text with
  | some base, _ :: _ :: c :: cs => readDigitsOf base 0 (c :: cs)
  | some _, _ => none
  | none, c :: cs =>
      if decimal c = some 0 then (readNumber (c :: cs)).filter (· = 0) else readNumber (c :: cs)
  | none, [] => none

/-- `int(text, 0)`, `none` where it raises a `ValueError`. -/
def intLiteral (text : String) : Option ℤ :=
  signed readLiteral (stripBy isNumberSpace text).toList

example : intLiteral " -0x_1F" = some (-31) := by decide

example : intLiteral "00" = some 0 ∧ intLiteral "07" = none ∧ int "07" = some 7 := by decide

/-! ### Literals and decimal numbers -/

theorem isSpace_underscore :
  isSpace '_' = false
  := by decide

/-- A number that a decimal digit precedes. -/
theorem numeralFrom_cons_of_decimal {n d k : ℕ} {c : Char} {cs : List Char}
    (hd : decimal c = some d) (hspaces : ∀ c ∈ cs, isSpace c = false)
    (hnumeral : numeralFrom (10 * n + d) (cs.filter (· ≠ '_')) = some k) :
  (∀ c' ∈ c :: cs, isSpace c' = false) ∧ numeralFrom n ((c :: cs).filter (· ≠ '_')) = some k
  := by
  have hplain := isPlain_of_decimal hd
  constructor
  · rw [List.forall_mem_cons]
    exact ⟨hplain.notSpace, hspaces⟩
  · simpa [hplain.ne_underscore, numeralFrom, hd] using hnumeral

/-- The digits of a number that is read. -/
theorem readDigits_eq_some {n k : ℕ} {cs : List Char} (h : readDigits n cs = some k) :
  (∀ c ∈ cs, isSpace c = false) ∧ numeralFrom n (cs.filter (· ≠ '_')) = some k
  := by
  fun_induction readDigits n cs with
  | case1 n => exact ⟨nofun, h⟩
  | case2 n c cs ih =>
      obtain ⟨d, hd, hrest⟩ := Option.bind_eq_some_iff.mp h
      obtain ⟨hspaces, hnumeral⟩ := ih d hrest
      have hplain := isPlain_of_decimal hd
      constructor
      · simp [isSpace_underscore, hplain.notSpace]
        simpa using hspaces
      · simpa [hplain.ne_underscore, numeralFrom, hd] using hnumeral
  | case3 n c cs hnot ih =>
      obtain ⟨d, hd, hrest⟩ := Option.bind_eq_some_iff.mp h
      obtain ⟨hspaces, hnumeral⟩ := ih d hrest
      apply numeralFrom_cons_of_decimal hd hspaces hnumeral

/-- The digits of a decimal number that is read. -/
theorem readNumber_eq_some {k : ℕ} {cs : List Char} (h : readNumber cs = some k) :
  (∀ c ∈ cs, isSpace c = false) ∧ numeralFrom 0 (cs.filter (· ≠ '_')) = some k
  := by
  cases cs with
  | nil => cases h
  | cons c cs =>
      rw [readNumber] at h
      split at h
      next => cases h
      next =>
          obtain ⟨d, hd, hrest⟩ := Option.bind_eq_some_iff.mp h
          obtain ⟨hspaces, hnumeral⟩ := readDigits_eq_some hrest
          apply numeralFrom_cons_of_decimal hd hspaces
          rw [Nat.mul_zero, Nat.zero_add]
          apply hnumeral

/-- The letters of prefixes are no decimal digits. -/
theorem decimal_of_baseOfLetter {c : Char} {base : ℕ} (h : baseOfLetter c = some base) :
  decimal c = none ∧ c ≠ '_'
  := by
  rw [baseOfLetter] at h
  split at h
  next hletter => obtain rfl | rfl := hletter <;> decide
  next =>
      split at h
      next hletter => obtain rfl | rfl := hletter <;> decide
      next =>
          split at h
          next hletter => obtain rfl | rfl := hletter <;> decide
          next => cases h

/-- A text with a prefix is no decimal number. -/
theorem readNumber_of_baseOf {cs : List Char} {base : ℕ} (h : baseOf cs = some base) :
  readNumber cs = none
  := by
  unfold baseOf at h
  split at h
  next zero letter cs =>
      split at h
      next =>
          obtain ⟨hletter, hne⟩ := decimal_of_baseOfLetter h
          rw [readNumber]
          split
          · rfl
          · cases decimal zero with
            | none => rfl
            | some d =>
                simp only [Option.bind_eq_bind, Option.bind_some]
                rw [readDigits, hletter]
                · rfl
                · intro _ _ heq
                  exact absurd heq hne
      next => cases h
  next => cases h

/-- A literal without a prefix is a decimal number. -/
theorem readNumber_of_readLiteral {cs : List Char} {n : ℕ} (hbase : baseOf cs = none)
    (h : readLiteral cs = some n) :
  readNumber cs = some n
  := by
  cases cs with
  | nil => cases h
  | cons c cs =>
      simp only [readLiteral, hbase] at h
      split at h
      · exact (Option.filter_eq_some_iff.mp h).1
      · exact h

/-! ### Two readings of a text -/

/-- A text without a prefix that has no spaces around it besides those that `int` skips. -/
structure IsPlainNumber (text : String) : Prop where
  baseOf_eq : baseOf (unsigned (strip text).toList) = none
  stripBy_eq : stripBy isNumberSpace text = strip text

theorem int_strip_eq (text : String) :
  int (strip text) = signed readNumber (strip text).toList
  := by
  rw [int_eq_signed, strip, stripBy_stripBy]
  intro c hc
  exact isNumberSpace_eq_false hc

theorem intLiteral_strip_eq (text : String) :
  intLiteral (strip text) = signed readLiteral (strip text).toList
  := by
  rw [intLiteral, strip, stripBy_stripBy]
  intro c hc
  exact isNumberSpace_eq_false hc

/-- A text that `int` reads has no other spaces around it. -/
theorem stripBy_of_int {text : String} {n : ℤ} (h : int text = some n) :
  stripBy isNumberSpace text = strip text
  := by
  rw [int_eq_signed, signed_eq] at h
  obtain ⟨k, hread, -⟩ := Option.map_eq_some_iff.mp h
  obtain ⟨before, after, htext, hbefore, hafter⟩ := exists_stripBy isNumberSpace text
  have hspace : ∀ c, isNumberSpace c → isSpace c := by
    intro c hc
    exact (Bool.and_eq_true_iff.mp hc).1
  apply (stripBy_of_eq_append htext _ _ _).symm
  · exact fun c hc => hspace c (hbefore c hc)
  · exact fun c hc => hspace c (hafter c hc)
  · have hdigits := (readNumber_eq_some hread).1
    unfold unsigned at hdigits
    split at hdigits
    next heq =>
        rw [heq, List.forall_mem_cons]
        exact ⟨by decide, hdigits⟩
    next heq =>
        rw [heq, List.forall_mem_cons]
        exact ⟨by decide, hdigits⟩
    next => exact hdigits

end Python
