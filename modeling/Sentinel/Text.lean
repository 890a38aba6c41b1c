import Sentinel.Unicode
import Mathlib.Data.Nat.Notation
import Mathlib.Data.Int.Notation
import Mathlib.Data.List.Basic
import Mathlib.Tactic.IntervalCases
import Mathlib.Tactic.SplitIfs

/-!
# Python texts

The methods of Python's `str` that texts of users go through, and `int` of a text. What a
digit or a space is follows the tables of Unicode: `isdigit` also holds of digits that are
not decimal, such as superscripts, which `int` does not read.
-/

namespace Python

/-! ### Characters -/

/-- The value of a decimal digit. -/
def decimal (c : Char) : Option ℕ :=
  (zeros.find? fun n => n ≤ c.toNat ∧ c.toNat < n + 10).map fun n => c.toNat - n

/-- `c.isspace()` of a character. -/
def isSpace (c : Char) : Bool :=
  inRanges spaces c

/-- A space that `int` skips around a number. -/
def isNumberSpace (c : Char) : Bool :=
  isSpace c && !inRanges separators c

/-- `c.isdigit()` of a character. -/
def isDigitChar (c : Char) : Bool :=
  (decimal c).isSome || inRanges otherDigits c

/-! ### Texts -/

/-- `text.isdigit()`. -/
def isDigit (text : String) : Bool :=
  text.toList ≠ [] && text.toList.all isDigitChar

/-- `text.isdecimal()`. -/
def isDecimal (text : String) : Bool :=
  text.toList ≠ [] && text.toList.all fun c => (decimal c).isSome

/-- A text without the characters of a kind at its ends. -/
def stripBy (p : Char → Bool) (text : String) : String :=
  String.ofList (((text.toList.dropWhile p).reverse.dropWhile p).reverse)

/-- `text.strip()`. -/
def strip (text : String) : String :=
  stripBy isSpace text

/-- `text.split(c)` at a character. -/
def split (text : String) (c : Char) : List String :=
  (text.toList.splitOn c).map String.ofList

/-- `text.startswith(p)`. -/
def startsWith (text p : String) : Bool :=
  p.toList.isPrefixOf text.toList

/-- `text.removeprefix(p)`. -/
def removePrefix (text p : String) : String :=
  if startsWith text p then String.ofList (text.toList.drop p.length) else text

/-- A text begins with its beginning. -/
theorem startsWith_append (p text : String) :
  startsWith (p ++ text) p = true
  := by
  rw [startsWith, String.toList_append, List.isPrefixOf_iff_prefix]
  apply List.prefix_append

/-- A text without its beginning. -/
theorem removePrefix_append (p text : String) :
  removePrefix (p ++ text) p = text
  := by
  rw [removePrefix, if_pos (startsWith_append p text), String.toList_append,
    ← String.length_toList, List.drop_left, String.ofList_toList]

/-! ### Letter case -/

/-- `str.lower`: a lower case text is its own lower case, and no text but the empty one has
the empty text as its lower case. -/
structure LowerCase where
  lower : String → String
  lower_lower : ∀ s, lower (lower s) = lower s
  eq_empty : ∀ s, lower s = "" → s = ""

/-- An ASCII letter in lower case is its own lower case. -/
theorem toLower_toLower (x : Char) :
  x.toLower.toLower = x.toLower
  := by
  unfold Char.toLower
  split_ifs with h h'
  · have ha : 65 ≤ x.val.toNat := h.1
    have hz : x.val.toNat ≤ 90 := h.2
    have hz' : (x.val + 32).toNat ≤ 90 := h'.2
    have hstep : (32 : UInt32).toNat = 32 := rfl
    rw [UInt32.toNat_add] at hz'
    omega
  · rfl
  · rfl

/-- The lower case of ASCII texts, such as addresses. -/
def LowerCase.ascii : LowerCase where
  lower s := String.ofList (s.toList.map Char.toLower)
  lower_lower s := by
    have h : Char.toLower ∘ Char.toLower = Char.toLower := by
      ext x
      rw [Function.comp_apply, toLower_toLower]
    rw [String.toList_ofList, List.map_map, h]
  eq_empty s h := by simpa using h

/-! ### Representations -/

/-- `c.isprintable()` of a character. -/
def isPrintable (c : Char) : Bool :=
  32 ≤ c.toNat && (c.toNat < 127 || !inRanges unprintable c)

/-- The last hex digits of a number, as many as a width. -/
def hexadecimal (width n : ℕ) : List Char :=
  (List.range width).reverse.map fun i => Nat.digitChar (n / 16 ^ i % 16)

/-- A character of a representation between quotes `q`. -/
def reprChar (printable : Char → Bool) (q c : Char) : List Char :=
  if c = q ∨ c = '\\' then ['\\', c]
  else if c = '\n' then ['\\', 'n']
  else if c = '\r' then ['\\', 'r']
  else if c = '\t' then ['\\', 't']
  else if printable c then [c]
  else if c.toNat < 0x100 then ['\\', 'x'] ++ hexadecimal 2 c.toNat
  else if c.toNat < 0x10000 then ['\\', 'u'] ++ hexadecimal 4 c.toNat
  else ['\\', 'U'] ++ hexadecimal 8 c.toNat

/-- The representation of a text between single quotes, or between double quotes when the
text has single quotes only. -/
def reprChars (printable : Char → Bool) (text : List Char) : List Char :=
  let q := if Char.ofNat 39 ∈ text ∧ '"' ∉ text then '"' else Char.ofNat 39
  q :: text.flatMap (reprChar printable q) ++ [q]

/-- `repr(text)`. -/
def reprText (text : String) : String :=
  String.ofList (reprChars isPrintable text.toList)

example : reprText "a\u00ad\n" = "'a\\xad\\n'"
  := by decide

/-- A text between braces. -/
def braced (text : String) : String :=
  String.singleton '{' ++ text ++ String.singleton '}'

/-- `repr(bytes)`. -/
def reprBytes (bytes : List UInt8) : String :=
  String.ofList ('b' :: reprChars (fun c => 32 ≤ c.toNat ∧ c.toNat < 127)
    (bytes.map fun b => Char.ofNat b.toNat))

/-! ### Numbers -/

/-- The longest text of decimal digits that `int` reads. -/
def maxStrDigits : ℕ := 4300

/-- Read decimal digits after a number, an underscore between two digits allowed. -/
def readDigits (n : ℕ) : List Char → Option ℕ
  | [] => some n
  | '_' :: c :: cs => do
      let d ← decimal c
      readDigits (10 * n + d) cs
  | c :: cs => do
      let d ← decimal c
      readDigits (10 * n + d) cs

/-- Read a text of decimal digits. -/
def readNumber (text : List Char) : Option ℕ :=
  match text with
  | [] => none
  | c :: cs =>
      if maxStrDigits < (text.filter fun c => c ≠ '_').length then none
      else do
        let d ← decimal c
        readDigits d cs

/-- `int(text)`, `none` where it raises a `ValueError`. -/
def int (text : String) : Option ℤ :=
  match (stripBy isNumberSpace text).toList with
  | '-' :: cs => (readNumber cs).map fun n => -n
  | '+' :: cs => (readNumber cs).map fun n => n
  | cs => (readNumber cs).map fun n => n

/-! ### Numerals -/

/-- The number whose decimal digits are those of a number and some more, of any script. -/
def numeralFrom (n : ℕ) : List Char → Option ℕ
  | [] => some n
  | c :: cs => do
      let d ← decimal c
      numeralFrom (10 * n + d) cs

/-- The number whose decimal digits a text is. -/
def numeral (text : String) : Option ℕ :=
  if text.toList = [] then none else numeralFrom 0 text.toList

/-- A character that is neither a space nor a part of a number that is no digit. -/
structure IsPlain (c : Char) : Prop where
  notSpace : isSpace c = false
  ne_underscore : c ≠ '_'
  ne_minus : c ≠ '-'
  ne_plus : c ≠ '+'

/-- A character outside the spaces and the signs. -/
theorem isPlain_of_toNat {c : Char} {low high : ℕ} (hlow : low ≤ c.toNat) (hhigh : c.toNat ≤ high)
    (hspaces : ∀ range ∈ spaces, high < range.1 ∨ range.2 < low)
    (hsigns : ∀ n ∈ [0x5f, 0x2d, 0x2b], high < n ∨ n < low) :
  IsPlain c
  := by
  have hne : ∀ sign : Char, sign.toNat ∈ [0x5f, 0x2d, 0x2b] → c ≠ sign := by
    rintro _ hsign rfl
    rcases hsigns _ hsign with h | h <;> omega
  refine ⟨?_, hne '_' (by decide), hne '-' (by decide), hne '+' (by decide)⟩
  rw [isSpace, inRanges, List.any_eq_false]
  intro range hrange
  rw [decide_eq_true_iff]
  rcases hspaces range hrange with h | h <;> omega

theorem isPlain_of_decimal {c : Char} {d : ℕ} (h : decimal c = some d) :
  IsPlain c
  := by
  obtain ⟨first, hfind, -⟩ := Option.map_eq_some_iff.mp h
  have hbounds := List.find?_some hfind
  have htables : ∀ first ∈ zeros, (∀ range ∈ spaces, first + 9 < range.1 ∨ range.2 < first)
      ∧ ∀ n ∈ [0x5f, 0x2d, 0x2b], first + 9 < n ∨ n < first := by decide
  obtain ⟨hspaces, hsigns⟩ := htables first (List.mem_of_find?_eq_some hfind)
  rw [decide_eq_true_iff] at hbounds
  exact isPlain_of_toNat hbounds.1 (by omega) hspaces hsigns

/-- A digit is plain. -/
theorem isPlain_of_isDigitChar {c : Char} (h : isDigitChar c) :
  IsPlain c
  := by
  rw [isDigitChar, Bool.or_eq_true] at h
  rcases h with h | h
  · obtain ⟨d, hd⟩ := Option.isSome_iff_exists.mp h
    exact isPlain_of_decimal hd
  · obtain ⟨range, hrange, hbounds⟩ := List.any_eq_true.mp h
    have htables : ∀ range ∈ otherDigits,
        (∀ space ∈ spaces, range.2 < space.1 ∨ space.2 < range.1)
        ∧ ∀ n ∈ [0x5f, 0x2d, 0x2b], range.2 < n ∨ n < range.1 := by decide
    obtain ⟨hspaces, hsigns⟩ := htables range hrange
    have hbounds' := of_decide_eq_true hbounds
    exact isPlain_of_toNat hbounds'.1 hbounds'.2 hspaces hsigns

/-- Reading digits without underscores. -/
theorem readDigits_eq_numeralFrom {cs : List Char} (h : ∀ c ∈ cs, IsPlain c) (n : ℕ) :
  readDigits n cs = numeralFrom n cs
  := by
  induction cs generalizing n with
  | nil => rfl
  | cons c cs ih =>
      obtain ⟨hc, hcs⟩ := List.forall_mem_cons.mp h
      rw [readDigits, numeralFrom]
      · simp only [ih hcs]
      · intro _ _ heq
        exact absurd heq hc.ne_underscore

/-- Nothing is dropped where no character is of a kind. -/
theorem dropWhile_eq_self {p : Char → Bool} {l : List Char} (h : ∀ c ∈ l, p c = false) :
  l.dropWhile p = l
  := by
  cases l with
  | nil => rfl
  | cons c l => rw [List.dropWhile_cons_of_neg (by simp [h c List.mem_cons_self])]

/-- A text without characters of a kind keeps its ends. -/
theorem stripBy_eq_self {p : Char → Bool} {text : String} (h : ∀ c ∈ text.toList, p c = false) :
  stripBy p text = text
  := by
  rw [stripBy, dropWhile_eq_self h, dropWhile_eq_self, List.reverse_reverse, String.ofList_toList]
  intro c hc
  apply h c (List.mem_reverse.mp hc)

/-- A space that `int` skips is a space. -/
theorem isNumberSpace_eq_false {c : Char} (h : isSpace c = false) :
  isNumberSpace c = false
  := by
  rw [isNumberSpace, h, Bool.false_and]

/-- The number of a text of plain characters, unless it is too long. -/
theorem int_eq_numeral {text : String} (h : ∀ c ∈ text.toList, IsPlain c) :
  int text
    = if maxStrDigits < text.toList.length then none else (numeral text).map Int.ofNat
  := by
  have hstrip : stripBy isNumberSpace text = text :=
    stripBy_eq_self fun c hc => isNumberSpace_eq_false (h c hc).notSpace
  have hread : readNumber text.toList
      = if maxStrDigits < text.toList.length then none else numeral text := by
    rw [numeral]
    cases htext : text.toList with
    | nil => rfl
    | cons c cs =>
        rw [htext] at h
        have hfilter : (c :: cs).filter (fun c => c ≠ '_') = c :: cs := by
          apply List.filter_eq_self.mpr
          intro c' hc'
          exact decide_eq_true (h c' hc').ne_underscore
        rw [readNumber, hfilter]
        split
        · rfl
        · rw [if_neg (List.cons_ne_nil _ _), numeralFrom]
          have hcs := (List.forall_mem_cons.mp h).2
          simp only [readDigits_eq_numeralFrom hcs, Nat.mul_zero, Nat.zero_add]
  rw [int, hstrip]
  split
  next cs heq =>
      have hmem : '-' ∈ text.toList := heq ▸ List.mem_cons_self
      exact absurd rfl (h _ hmem).ne_minus
  next cs heq =>
      have hmem : '+' ∈ text.toList := heq ▸ List.mem_cons_self
      exact absurd rfl (h _ hmem).ne_plus
  next =>
      rw [hread]
      split
      · rfl
      · cases numeral text <;> rfl

theorem isPlain_of_isDigit {text : String} (h : isDigit text) :
  ∀ c ∈ text.toList, IsPlain c
  := by
  rw [isDigit, Bool.and_eq_true, List.all_eq_true] at h
  exact fun c hc => isPlain_of_isDigitChar (h.2 c hc)

/-- Every character of a numeral is a decimal digit. -/
theorem decimal_of_numeralFrom {cs : List Char} {n k : ℕ} (h : numeralFrom n cs = some k) :
  ∀ c ∈ cs, (decimal c).isSome
  := by
  induction cs generalizing n with
  | nil => nofun
  | cons c cs ih =>
      obtain ⟨d, hd, hrest⟩ := Option.bind_eq_some_iff.mp h
      apply List.forall_mem_cons.mpr ⟨_, ih hrest⟩
      rw [hd, Option.isSome_some]

/-- A numeral is a text of digits. -/
theorem isDigit_of_numeral {text : String} {k : ℕ} (h : numeral text = some k) :
  isDigit text
  := by
  rw [numeral] at h
  split at h
  next => cases h
  next hne =>
      rw [isDigit, Bool.and_eq_true, List.all_eq_true]
      use decide_eq_true hne
      intro c hc
      rw [isDigitChar, decimal_of_numeralFrom h c hc, Bool.true_or]

/-! ### The digits of a number -/

/-- A decimal digit of ASCII has its value. -/
theorem decimal_of_isDigit {c : Char} (h : c.isDigit) :
  decimal c = some (c.toNat - '0'.toNat)
  := by
  have hbounds : 48 ≤ c.toNat ∧ c.toNat ≤ 57 := by
    simpa [Char.isDigit, UInt32.le_iff_toNat_le] using h
  have hfirst : (48 ≤ c.toNat ∧ c.toNat < 48 + 10) := by omega
  rw [decimal, zeros, List.find?_cons, decide_eq_true hfirst]
  rfl

theorem numeralFrom_of_isDigit {cs : List Char} (h : ∀ c ∈ cs, c.isDigit) (n : ℕ) :
  numeralFrom n cs = some (Nat.ofDigitChars 10 cs n)
  := by
  induction cs generalizing n with
  | nil => rw [numeralFrom, Nat.ofDigitChars_nil]
  | cons c cs ih =>
      obtain ⟨hc, hcs⟩ := List.forall_mem_cons.mp h
      rw [numeralFrom, decimal_of_isDigit hc, Nat.ofDigitChars_cons]
      apply ih hcs

/-- The digits of a number are its numeral. -/
theorem numeral_toString (n : ℕ) :
  numeral (toString n) = some n
  := by
  have hdigits : (toString n).toList = Nat.toDigits 10 n := Nat.toList_repr
  rw [numeral, hdigits, if_neg Nat.toDigits_ne_nil, numeralFrom_of_isDigit,
    Nat.ofDigitChars_ten_toDigits]
  intro c hc
  apply Nat.isDigit_of_mem_toDigits (by decide) (by decide) hc

/-- Different numbers have different digits. -/
theorem toString_injective :
  Function.Injective (toString : ℕ → String)
  := by
  intro n m h
  have hnumeral := numeral_toString n
  rw [h, numeral_toString] at hnumeral
  apply (Option.some.inj hnumeral).symm

/-- The digits of a number are read back, unless there are too many. -/
theorem int_toString {n : ℕ} (h : n < 10 ^ maxStrDigits) :
  int (toString n) = some (n : ℤ)
  := by
  have hdigits : (toString n).toList = Nat.toDigits 10 n := Nat.toList_repr
  have hlength : (Nat.toDigits 10 n).length ≤ maxStrDigits :=
    (Nat.length_toDigits_le_iff (by decide) (by decide)).mpr h
  rw [int_eq_numeral (isPlain_of_isDigit (isDigit_of_numeral (numeral_toString n))),
    hdigits, if_neg (Nat.not_lt.mpr hlength), numeral_toString]
  rfl

example : int " 00_7" = some 7 := by decide

example : isDigit "²" = true ∧ int "²" = none := by decide

end Python
