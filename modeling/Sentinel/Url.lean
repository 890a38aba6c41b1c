import Sentinel.Text
import Mathlib.Data.List.TakeDrop
import Mathlib.Data.List.TakeWhile

/-!
# Splitting URLs

`urllib.parse.urlsplit` of a text, which raises for some network locations, and the host name of
its result. A host name has no delimiter of the parts of a URL in it.
-/

namespace Python

/-- What splitting a URL takes from the rest of the library: letter case, which leaves the
delimiters of a URL alone, the normal form NFKC, and the check of a network location with both
square brackets. -/
structure UrlTables extends LowerCase where
  lower_delimiter : ∀ s : String, ∀ c ∈ (lower s).toList, c ∈ ['/', '?', '#', '@'] → c ∈ s.toList
  nfkc : List Char → List Char
  bracketed : List Char → Bool

/-- A delimiter that is a character in lower case is that character. -/
theorem toLower_eq_of_delimiter {c : Char} (h : c.toLower ∈ ['/', '?', '#', '@']) :
  c.toLower = c
  := by
  unfold Char.toLower at h ⊢
  split_ifs at h ⊢ with hupper
  · -- a letter in lower case is no delimiter
    have ha : 65 ≤ c.val.toNat := hupper.1
    have hz : c.val.toNat ≤ 90 := hupper.2
    have hstep : (32 : UInt32).toNat = 32 := rfl
    have hlower : (c.val + 32).toNat = c.val.toNat + 32 := by
      rw [UInt32.toNat_add]
      omega
    have hval : (c.val + 32).toNat ∈ [47, 63, 35, 64] := by
      simp only [List.mem_cons, List.not_mem_nil, or_false, Char.ext_iff, UInt32.ext_iff] at h ⊢
      apply h
    simp only [List.mem_cons, List.not_mem_nil, or_false] at hval
    omega
  · rfl

/-- The tables of ASCII texts, with no network location in brackets. -/
def UrlTables.ascii : UrlTables where
  toLowerCase := .ascii
  lower_delimiter s c hc hdelimiter := by
    have hlower : c ∈ s.toList.map Char.toLower := by
      simpa [LowerCase.ascii] using hc
    obtain ⟨d, hd, rfl⟩ := List.mem_map.mp hlower
    rwa [toLower_eq_of_delimiter hdelimiter]
  nfkc s := s
  bracketed _ := false

/-- The parts of a URL. -/
structure SplitResult where
  scheme : List Char
  netloc : List Char
  path : List Char
  query : List Char
  fragment : List Char

/-- A character of a scheme. -/
def isSchemeChar (c : Char) : Bool :=
  c.isAlphanum || c ∈ ['+', '-', '.']

/-- The scheme of a URL, in lower case, and the rest of the URL. -/
def splitScheme (url : List Char) : List Char × List Char :=
  let scheme := url.takeWhile (· ≠ ':')
  if ':' ∈ url ∧ scheme.head?.any Char.isAlpha ∧ scheme.all isSchemeChar then
    (scheme.map Char.toLower, url.drop (scheme.length + 1))
  else ([], url)

/-- `_splitnetloc` -/
def splitNetloc (url : List Char) : List Char × List Char :=
  url.span (· ∉ ['/', '?', '#'])

/-- `_checknetloc`: no character of the network location is a delimiter in another form. -/
def checkNetloc (t : UrlTables) (netloc : List Char) : Bool :=
  let n := netloc.filter (· ∉ ['@', ':', '#', '?'])
  netloc.all (·.toNat < 128) || n = t.nfkc n || !(t.nfkc n).any (· ∈ ['/', '?', '#', '@', ':'])

/-- The brackets of a network location are accepted. -/
def checkBrackets (t : UrlTables) (netloc : List Char) : Bool :=
  if '[' ∈ netloc ∧ ']' ∈ netloc then t.bracketed netloc
  else '[' ∉ netloc ∧ ']' ∉ netloc

/-- `urlsplit(url)`, `none` where it raises a `ValueError`. -/
def urlsplit (t : UrlTables) (url : List Char) : Option SplitResult :=
  let url := (url.dropWhile (·.toNat ≤ 32)).filter (· ∉ ['\t', '\r', '\n'])
  let (scheme, url) := splitScheme url
  let (netloc, url) := if ['/', '/'] <+: url then splitNetloc (url.drop 2) else ([], url)
  if !checkBrackets t netloc then none
  else
    let fragment := (url.dropWhile (· ≠ '#')).drop 1
    let url := url.takeWhile (· ≠ '#')
    let query := (url.dropWhile (· ≠ '?')).drop 1
    let path := url.takeWhile (· ≠ '?')
    if checkNetloc t netloc then some ⟨scheme, netloc, path, query, fragment⟩ else none

/-- What follows the last occurrence of a character, or the whole text. -/
def afterLast (c : Char) (s : List Char) : List Char :=
  (s.reverse.takeWhile (· ≠ c)).reverse

/-- The host of a network location. -/
def hostinfo (netloc : List Char) : List Char :=
  let info := afterLast '@' netloc
  if '[' ∈ info then ((info.dropWhile (· ≠ '[')).drop 1).takeWhile (· ≠ ']')
  else info.takeWhile (· ≠ ':')

/-- `hostname` -/
def SplitResult.hostname (t : UrlTables) (r : SplitResult) : Option (List Char) :=
  let host := hostinfo r.netloc
  if host = [] then none
  else
    some ((t.lower (String.ofList (host.takeWhile (· ≠ '%')))).toList ++ host.dropWhile (· ≠ '%'))

/-! ### Host names -/

theorem mem_of_mem_afterLast {c d : Char} {s : List Char} (h : d ∈ afterLast c s) :
  d ∈ s ∧ d ≠ c
  := by
  rw [afterLast, List.mem_reverse] at h
  use List.mem_reverse.mp (List.takeWhile_subset _ h)
  simpa using List.mem_takeWhile_imp h

/-- A character of the host is one of the network location behind the user. -/
theorem mem_of_mem_hostinfo {c : Char} {netloc : List Char} (h : c ∈ hostinfo netloc) :
  c ∈ netloc ∧ c ≠ '@'
  := by
  apply mem_of_mem_afterLast
  rw [hostinfo] at h
  split at h
  · apply List.dropWhile_subset _
    apply List.mem_of_mem_drop
    apply List.takeWhile_subset _ h
  · apply List.takeWhile_subset _ h

/-- A network location has no delimiter of a path, a query or a fragment. -/
theorem not_mem_netloc {t : UrlTables} {url : List Char} {r : SplitResult}
    (h : urlsplit t url = some r) :
  ∀ c ∈ r.netloc, c ∉ ['/', '?', '#']
  := by
  intro c hc
  simp only [urlsplit] at h
  split_ifs at h with hslashes hbrackets hcheck hbrackets hcheck
  · obtain rfl := Option.some.inj h
    rw [splitNetloc, List.span_eq_takeWhile_dropWhile] at hc
    simpa using List.mem_takeWhile_imp hc
  · obtain rfl := Option.some.inj h
    cases hc

/-- A host name has no delimiter of a URL in it. -/
theorem not_mem_hostname {t : UrlTables} {url : List Char} {r : SplitResult}
    (h : urlsplit t url = some r) {name : List Char} (hname : r.hostname t = some name) :
  ∀ c ∈ name, c ∉ ['/', '?', '#', '@']
  := by
  obtain ⟨-, ⟨⟩⟩ := Option.ite_none_left_eq_some.mp hname
  intro c hc hdelimiter
  have hhost : c ∈ hostinfo r.netloc := by
    rcases List.mem_append.mp hc with hlower | hzone
    · have hmem := t.lower_delimiter _ c hlower hdelimiter
      rw [String.toList_ofList] at hmem
      apply List.takeWhile_subset _ hmem
    · apply List.dropWhile_subset _ hzone
  obtain ⟨hnetloc, hat⟩ := mem_of_mem_hostinfo hhost
  have hslash := not_mem_netloc h c hnetloc
  simp only [List.mem_cons, List.not_mem_nil, or_false, not_or] at hdelimiter hslash
  grind

end Python
