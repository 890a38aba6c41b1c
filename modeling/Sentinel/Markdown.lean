import Mathlib.Data.List.Basic

/-!
# MarkdownV2

A reader of MarkdownV2 texts. A backslash makes the next character plain text. A reserved
character without one is a delimiter, and what stands between `](` and the next `)` without a
backslash is the target of a link. `scan` splits a text into these parts and loses nothing of
it (`unscan_scan`), and texts are escaped such that `scan` reads them back.
-/

namespace Markdown

/-- The reserved characters. -/
def reserved : List Char :=
  ['_', '*', '[', ']', '(', ')', '~', '\x60', '>', '#', '+', '-', '=', '|', '{', '}', '.', '!',
    '\\']

/-- The characters that are special in the target of a link. -/
def targetReserved : List Char :=
  [')', '\\']

/-- Put a backslash before every special character. -/
def escape (special : List Char) (s : List Char) : List Char :=
  s.flatMap fun c => if c ∈ special then ['\\', c] else [c]

/-- Remove the backslashes that escape a character. -/
def unescape : List Char → List Char
  | '\\' :: c :: cs => c :: unescape cs
  | c :: cs => c :: unescape cs
  | [] => []

/-- `telegram.helpers.escape_markdown` of version 2, for texts and for the targets of links. -/
structure EscapeMarkdown where
  text : String → String
  textLink : String → String
  toList_text : ∀ s, (text s).toList = escape reserved s.toList
  toList_textLink : ∀ s, (textLink s).toList = escape targetReserved s.toList

/-- Texts that are escaped character by character. -/
def EscapeMarkdown.standard : EscapeMarkdown where
  text s := String.ofList (escape reserved s.toList)
  textLink s := String.ofList (escape targetReserved s.toList)
  toList_text _ := String.toList_ofList
  toList_textLink _ := String.toList_ofList

/-- A part of a text. -/
inductive Token where
  /-- a character that is not reserved -/
  | plain (c : Char)
  /-- a character behind a backslash -/
  | escaped (c : Char)
  /-- a reserved character without a backslash -/
  | delimiter (c : Char)
  /-- the target of a link -/
  | target (raw : List Char)
deriving DecidableEq

namespace Token

/-- The text of a part. -/
def raw : Token → List Char
  | plain c => [c]
  | escaped c => ['\\', c]
  | delimiter c => [c]
  | target raw => raw

/-- The plain text that a part stands for. -/
def content : Token → List Char
  | plain c | escaped c => [c]
  | delimiter _ | target _ => []

/-- The delimiter that a part is. -/
def delimiters : Token → List Char
  | delimiter c => [c]
  | plain _ | escaped _ | target _ => []

/-- The target that a part is, without the backslashes. -/
def targets : Token → List (List Char)
  | target raw => [unescape raw]
  | plain _ | escaped _ | delimiter _ => []

end Token

/-- The parts of a text, after the part `target` of the target of a link. -/
def scan : Option (List Char) → List Char → List Token
  | none, [] => []
  | none, '\\' :: c :: cs => .escaped c :: scan none cs
  | none, ']' :: '(' :: cs => .delimiter ']' :: .delimiter '(' :: scan (some []) cs
  | none, c :: cs => (if c ∈ reserved then .delimiter c else .plain c) :: scan none cs
  | some target, [] => [.target target]
  | some target, '\\' :: c :: cs => scan (some (target ++ ['\\', c])) cs
  | some target, ')' :: cs => .target target :: .delimiter ')' :: scan none cs
  | some target, c :: cs => scan (some (target ++ [c])) cs

/-- The parts of a text. -/
def tokens (s : String) : List Token :=
  scan none s.toList

example : tokens "a*b\\*[x](u\\)v)." = [.plain 'a', .delimiter '*', .plain 'b', .escaped '*',
    .delimiter '[', .plain 'x', .delimiter ']', .delimiter '(', .target "u\\)v".toList,
    .delimiter ')', .delimiter '.'] := by
  decide

/-- The parts of a text make up the text. -/
theorem unscan_scan (target : Option (List Char)) (s : List Char) :
  (scan target s).flatMap Token.raw = target.getD [] ++ s
  := by
  fun_induction scan target s with
  | case4 c cs _ _ ih =>
      rw [List.flatMap_cons, ih]
      split <;> rfl
  | _ => simp_all [Token.raw]

/-! ### Escaped texts -/

theorem unescape_cons_of_ne {c : Char} (h : c ≠ '\\') (cs : List Char) :
  unescape (c :: cs) = c :: unescape cs
  := by
  rw [unescape]
  intro c' cs' heq
  apply absurd heq h

/-- A text is read back from its escaped form. -/
theorem unescape_escape {special : List Char} (h : '\\' ∈ special) (s : List Char) :
  unescape (escape special s) = s
  := by
  induction s with
  | nil => rfl
  | cons c cs ih =>
      rw [escape, List.flatMap_cons]
      split
      · rw [List.cons_append, List.cons_append, List.nil_append, unescape]
        congr 1
      next hplain =>
          have hne : c ≠ '\\' := by
            rintro rfl
            apply hplain h
          rw [List.cons_append, List.nil_append, unescape_cons_of_ne hne]
          congr 1

theorem scan_cons_of_not_mem {c : Char} (h : c ∉ reserved) (cs : List Char) :
  scan none (c :: cs) = .plain c :: scan none cs
  := by
  have hbackslash : c ≠ '\\' := by
    rintro rfl
    apply h (by decide)
  have hbracket : c ≠ ']' := by
    rintro rfl
    apply h (by decide)
  rw [scan, if_neg h]
  · intro c' cs' heq
    apply absurd heq hbackslash
  · intro cs' heq
    apply absurd heq hbracket

/-- An escaped text is plain text. -/
theorem scan_escape (s rest : List Char) :
  scan none (escape reserved s ++ rest)
    = s.map (fun c => if c ∈ reserved then .escaped c else .plain c) ++ scan none rest
  := by
  induction s with
  | nil => rfl
  | cons c cs ih =>
      rw [escape, List.flatMap_cons, List.map_cons, List.append_assoc]
      split
      · rw [List.cons_append, List.cons_append, List.nil_append, scan, List.cons_append]
        congr 1
      next hplain =>
          rw [List.cons_append, List.nil_append, scan_cons_of_not_mem hplain, List.cons_append]
          congr 1

/-- The target of a link ends behind its escaped text. -/
theorem scan_target (url target rest : List Char) :
  scan (some target) (escape targetReserved url ++ ')' :: rest)
    = .target (target ++ escape targetReserved url) :: .delimiter ')' :: scan none rest
  := by
  induction url generalizing target with
  | nil => simp [escape, scan]
  | cons c cs ih =>
      rw [escape, List.flatMap_cons, List.append_assoc]
      split
      · rw [List.cons_append, List.cons_append, List.nil_append, scan]
        apply (ih _).trans
        simp [escape]
      next hplain =>
          have hne : c ≠ '\\' ∧ c ≠ ')' := by
            constructor
            · rintro rfl
              apply hplain (by decide)
            · rintro rfl
              apply hplain (by decide)
          rw [List.cons_append, List.nil_append, scan]
          · apply (ih _).trans
            simp [escape]
          · intro c' cs' heq
            apply absurd heq hne.1
          · apply hne.2

end Markdown
