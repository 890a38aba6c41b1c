import Sentinel.Hex
import Mathlib.Data.List.Basic
import Mathlib.Data.Char

/-!
# JSON texts of flat lists

`json.dumps` of a list of strings and natural numbers, without spaces after the commas and
with every character outside printable ASCII escaped. A string is a sequence of code points,
surrogates among them. Its text has its UTF-16 code units one after the other: a short escape
where JSON has one, otherwise the `\uXXXX` escape. Every unit is read back, so lists have one
text only when their strings have the same code units; strings without surrogates are then
equal.
-/

namespace Json

/-! ### Code points -/

/-- A character of a Python string, which may be a surrogate. -/
abbrev CodePoint := Fin 1114112

/-- The UTF-16 code units of a code point: itself, or a surrogate pair. -/
def units (c : CodePoint) : List ℕ :=
  if c.val < 65536 then [c.val]
  else [55296 + (c.val - 65536) / 1024, 56320 + (c.val - 65536) % 1024]

/-- The UTF-16 code units of a string. -/
def utf16 (s : List CodePoint) : List ℕ :=
  s.flatMap units

/-- A code point that is not a surrogate. -/
def IsScalar (c : CodePoint) : Prop :=
  c.val < 55296 ∨ 57344 ≤ c.val

/-- A code unit has sixteen bits. -/
theorem lt_of_mem_units {c : CodePoint} {n : ℕ} (h : n ∈ units c) :
  n < 65536
  := by
  have hc := c.isLt
  rw [units] at h
  split_ifs at h
  · rw [List.mem_singleton.mp h]
    assumption
  · rcases List.mem_cons.mp h with rfl | h
    · omega
    · rw [List.mem_singleton.mp h]
      omega

/-- The code units of a string have sixteen bits. -/
theorem lt_of_mem_utf16 {s : List CodePoint} {n : ℕ} (h : n ∈ utf16 s) :
  n < 65536
  := by
  obtain ⟨c, -, hn⟩ := List.mem_flatMap.mp h
  apply lt_of_mem_units hn

/-- A code point that is not a surrogate is read from its code units. -/
theorem units_append_inj {c d : CodePoint} (hc : IsScalar c) (hd : IsScalar d)
    {rest rest' : List ℕ} (h : units c ++ rest = units d ++ rest') :
  c = d ∧ rest = rest'
  := by
  rw [IsScalar] at hc hd
  rw [units, units] at h
  rw [Fin.ext_iff]
  split_ifs at h <;> simp only [List.cons_append, List.nil_append, List.cons.injEq] at h
  · apply h
  · omega
  · omega
  · obtain ⟨hhigh, hlow, hrest⟩ := h
    use by omega

/-- Code points that are no surrogates are read from their code units. -/
theorem utf16_injOn {s t : List CodePoint} (hs : ∀ c ∈ s, IsScalar c) (ht : ∀ c ∈ t, IsScalar c)
    (h : utf16 s = utf16 t) :
  s = t
  := by
  have hne (c : CodePoint) (rest : List ℕ) : units c ++ rest ≠ [] := by
    rw [units]
    split_ifs <;> simp
  induction s generalizing t with
  | nil =>
      rcases t with - | ⟨d, t⟩
      · rfl
      · apply absurd h.symm (hne d _)
  | cons c s ih =>
      rcases t with - | ⟨d, t⟩
      · apply absurd h (hne c _)
      · obtain ⟨rfl, hrest⟩ :=
          units_append_inj (hs c List.mem_cons_self) (ht d List.mem_cons_self) h
        rw [ih (fun c hc => hs c (List.mem_cons_of_mem _ hc))
          (fun c hc => ht c (List.mem_cons_of_mem _ hc)) hrest]

/-- A character is no surrogate, and is below `0x110000`. -/
theorem toNat_lt_or (c : Char) :
  c.toNat < 55296 ∨ 57344 ≤ c.toNat ∧ c.toNat < 1114112
  := by
  rcases c.valid with h | ⟨h, h'⟩
  · apply Or.inl h
  · right
    constructor
    · apply h
    · apply h'

theorem toNat_lt (c : Char) :
  c.toNat < 1114112
  := by
  rcases toNat_lt_or c with h | h <;> omega

/-- The code points of a string without surrogates. -/
def points (s : String) : List CodePoint :=
  s.toList.map fun c => ⟨c.toNat, toNat_lt c⟩

/-- The code points of a string are no surrogates. -/
theorem isScalar_of_mem_points {s : String} {c : CodePoint} (h : c ∈ points s) :
  IsScalar c
  := by
  obtain ⟨c, -, rfl⟩ := List.mem_map.mp h
  apply (toNat_lt_or c).imp_right And.left

/-- Strings without surrogates have the same code units only when they are equal. -/
theorem utf16_points_inj {s t : String} :
  utf16 (points s) = utf16 (points t) ↔ s = t
  := by
  constructor
  · intro h
    have hpoints := utf16_injOn (fun _ => isScalar_of_mem_points)
      (fun _ => isScalar_of_mem_points) h
    apply String.toList_injective
    apply List.map_injective_iff.mpr _ hpoints
    intro c d hcd
    rw [← Char.ofNat_toNat c, (Fin.mk.inj hcd : c.toNat = d.toNat), Char.ofNat_toNat]
  · rintro rfl
    rfl

/-! ### Code units -/

/-- The `\uXXXX` escape of a UTF-16 code unit. -/
def escapeUnit (n : ℕ) : List Char :=
  ['\\', 'u', Nat.digitChar (n / 4096), Nat.digitChar (n / 256 % 16),
    Nat.digitChar (n / 16 % 16), Nat.digitChar (n % 16)]

/-- Read the four hex digits of a code unit. -/
def readHex : List Char → Option (ℕ × List Char)
  | a :: b :: c :: d :: rest => do
      let a ← hexValue a
      let b ← hexValue b
      let c ← hexValue c
      let d ← hexValue d
      return (4096 * a + 256 * b + 16 * c + d, rest)
  | _ => none

/-- A code unit is read back from its escape. -/
theorem readHex_escapeUnit {n : ℕ} (h : n < 65536) (rest : List Char) :
  readHex ((escapeUnit n ++ rest).drop 2) = some (n, rest)
  := by
  have hdigits : 4096 * (n / 4096) + 256 * (n / 256 % 16) + 16 * (n / 16 % 16) + n % 16 = n := by
    omega
  simp only [escapeUnit, List.cons_append, List.nil_append, List.drop_succ_cons, List.drop_zero,
    readHex, hexValue_digitChar (show n / 4096 < 16 by omega),
    hexValue_digitChar (show n / 256 % 16 < 16 by omega),
    hexValue_digitChar (show n / 16 % 16 < 16 by omega),
    hexValue_digitChar (show n % 16 < 16 by omega), hdigits, Option.bind_eq_bind,
    Option.bind_some, Option.pure_def]

/-- The short escapes of JSON. -/
def shortEscape (n : ℕ) : Option Char :=
  if n = '"'.toNat then some '"'
  else if n = '\\'.toNat then some '\\'
  else if n = '\n'.toNat then some 'n'
  else if n = '\r'.toNat then some 'r'
  else if n = '\t'.toNat then some 't'
  else if n = 8 then some 'b'
  else if n = 12 then some 'f'
  else none

/-- The code unit of a short escape. -/
def ofShortEscape (c : Char) : Option ℕ :=
  if c = '"' then some '"'.toNat
  else if c = '\\' then some '\\'.toNat
  else if c = 'n' then some '\n'.toNat
  else if c = 'r' then some '\r'.toNat
  else if c = 't' then some '\t'.toNat
  else if c = 'b' then some 8
  else if c = 'f' then some 12
  else none

/-- The text of a code unit inside a JSON string. -/
def encodeUnit (n : ℕ) : List Char :=
  match shortEscape n with
  | some short => ['\\', short]
  | none => if 32 ≤ n ∧ n ≤ 126 then [Char.ofNat n] else escapeUnit n

/-- Read a code unit of a JSON string, `none` at the end of the string. -/
def readUnit : List Char → Option (ℕ × List Char)
  | [] => none
  | '"' :: _ => none
  | '\\' :: 'u' :: rest => readHex rest
  | '\\' :: c :: rest => (ofShortEscape c).map fun n => (n, rest)
  | c :: rest => some (c.toNat, rest)

/-- A short escape is read back. -/
theorem ofShortEscape_shortEscape {n : ℕ} {short : Char} (h : shortEscape n = some short) :
  ofShortEscape short = some n ∧ short ≠ 'u'
  := by
  simp only [shortEscape] at h
  split_ifs at h <;> (obtain rfl := Option.some.inj h; subst_vars; decide)

/-- The character of a printable code unit without a short escape ends no string and starts no
escape. -/
theorem ofNat_of_shortEscape_eq_none {n : ℕ} (h : shortEscape n = none) (hn : n ≤ 126) :
  (Char.ofNat n).toNat = n ∧ Char.ofNat n ≠ '"' ∧ Char.ofNat n ≠ '\\'
  := by
  have hnat : ∀ n < 127, (Char.ofNat n).toNat = n := by decide
  replace hnat := hnat n (by omega)
  use hnat
  constructor
  · intro heq
    rw [← hnat, heq] at h
    cases h
  · intro heq
    rw [← hnat, heq] at h
    cases h

/-- Every code unit is read back from its text. -/
theorem readUnit_encodeUnit {n : ℕ} (h : n < 65536) (rest : List Char) :
  readUnit (encodeUnit n ++ rest) = some (n, rest)
  := by
  cases hshort : shortEscape n with
  | some short =>
      obtain ⟨hread, hu⟩ := ofShortEscape_shortEscape hshort
      simp [encodeUnit, hshort, readUnit, hread]
  | none =>
      simp only [encodeUnit, hshort]
      split_ifs with hprintable
      · obtain ⟨hnat, hquote, hbackslash⟩ := ofNat_of_shortEscape_eq_none hshort hprintable.2
        simp [readUnit, hbackslash, hnat]
      · apply readHex_escapeUnit h

/-- The text of some code units up to the closing quote of their string. -/
def encodeUnits (us : List ℕ) : List Char :=
  us.flatMap encodeUnit

/-- Texts of code units up to a closing quote are equal only for equal code units. -/
theorem encodeUnits_append_inj {us vs : List ℕ} (hus : ∀ n ∈ us, n < 65536)
    (hvs : ∀ n ∈ vs, n < 65536) {rest rest' : List Char}
    (h : encodeUnits us ++ '"' :: rest = encodeUnits vs ++ '"' :: rest') :
  us = vs ∧ rest = rest'
  := by
  induction us generalizing vs with
  | nil =>
      rcases vs with - | ⟨v, vs⟩
      · use rfl, (List.cons.inj h).2
      · have hread := congrArg readUnit h
        rw [encodeUnits, encodeUnits, List.flatMap_cons, List.append_assoc,
          readUnit_encodeUnit (hvs v List.mem_cons_self)] at hread
        cases hread
  | cons u us ih =>
      have hread := congrArg readUnit h
      rw [encodeUnits, List.flatMap_cons, List.append_assoc,
        readUnit_encodeUnit (hus u List.mem_cons_self)] at hread
      rcases vs with - | ⟨v, vs⟩
      · cases hread
      · rw [encodeUnits, List.flatMap_cons, List.append_assoc,
          readUnit_encodeUnit (hvs v List.mem_cons_self)] at hread
        obtain ⟨rfl, hrest⟩ := Prod.mk.inj (Option.some.inj hread)
        obtain ⟨rfl, hrest'⟩ := ih (fun n hn => hus n (List.mem_cons_of_mem _ hn))
          (fun n hn => hvs n (List.mem_cons_of_mem _ hn)) hrest
        use rfl, hrest'

/-! ### Lists -/

/-- A member of a list: a string or a natural number. -/
inductive Atom where
  | str (s : List CodePoint)
  | num (n : ℕ)

/-- What the text of a member tells: the code units of a string, or a number. -/
def Atom.view : Atom → List ℕ ⊕ ℕ
  | .str s => .inl (utf16 s)
  | .num n => .inr n

/-- The text of a member of a list. -/
def encodeAtom : Atom → List Char
  | .str s => '"' :: encodeUnits (utf16 s) ++ ['"']
  | .num n => Nat.toDigits 10 n

/-- Members that tell the same have one text. -/
theorem encodeAtom_congr {a b : Atom} (h : a.view = b.view) :
  encodeAtom a = encodeAtom b
  := by
  rcases a with s | n <;> rcases b with t | m
  · rw [encodeAtom, encodeAtom, Sum.inl.inj h]
  · cases h
  · cases h
  · rw [Sum.inr.inj h]

/-- The text of the members of a list after its opening bracket. -/
def encodeAtoms : List Atom → List Char
  | [] => [']']
  | [a] => encodeAtom a ++ [']']
  | a :: b :: rest => encodeAtom a ++ ',' :: encodeAtoms (b :: rest)

/-- `json.dumps(atoms, separators=(",", ":"))`. -/
def dumps (atoms : List Atom) : String :=
  String.ofList ('[' :: encodeAtoms atoms)

/-- The digits of a number, read up to a character that is no digit. -/
theorem takeWhile_toDigits_append (n : ℕ) {sep : Char} (h : sep.isDigit = false)
    (rest : List Char) :
  (Nat.toDigits 10 n ++ sep :: rest).takeWhile Char.isDigit = Nat.toDigits 10 n
  := by
  rw [List.takeWhile_append_of_pos, List.takeWhile_cons_of_neg, List.append_nil]
  · simp [h]
  · intro c hc
    apply Nat.isDigit_of_mem_toDigits (by decide) (by decide) hc

/-- Different numbers have different digits. -/
theorem toDigits_injective {n m : ℕ} (h : Nat.toDigits 10 n = Nat.toDigits 10 m) :
  n = m
  := by
  rw [← Nat.ofDigitChars_ten_toDigits (n := n), h, Nat.ofDigitChars_ten_toDigits]

/-- The digits of a number start with a digit. -/
theorem toDigits_append_ne_cons (n : ℕ) {c : Char} (hc : c.isDigit = false)
    (rest rest' : List Char) :
  Nat.toDigits 10 n ++ rest ≠ c :: rest'
  := by
  intro h
  rcases hdigits : Nat.toDigits 10 n with - | ⟨d, ds⟩
  · apply Nat.toDigits_ne_nil hdigits
  · rw [hdigits] at h
    obtain ⟨rfl, -⟩ := List.cons.inj h
    have hmem : d ∈ Nat.toDigits 10 n := by
      rw [hdigits]
      apply List.mem_cons_self
    rw [Nat.isDigit_of_mem_toDigits (by decide) (by decide) hmem] at hc
    cases hc

/-- Texts of members followed by a separator are equal only for members that tell the same. -/
theorem encodeAtom_append_inj {a b : Atom} {sep sep' : Char} {rest rest' : List Char}
    (hsep : sep.isDigit = false) (hsep' : sep'.isDigit = false)
    (h : encodeAtom a ++ sep :: rest = encodeAtom b ++ sep' :: rest') :
  a.view = b.view ∧ sep = sep' ∧ rest = rest'
  := by
  rcases a with s | n <;> rcases b with t | m
  · simp only [encodeAtom, List.cons_append, List.append_assoc, List.nil_append,
      List.cons.injEq, true_and] at h
    obtain ⟨hst, hrest⟩ := encodeUnits_append_inj (fun _ => lt_of_mem_utf16)
      (fun _ => lt_of_mem_utf16) h
    use congrArg Sum.inl hst, (List.cons.inj hrest).1, (List.cons.inj hrest).2
  · apply absurd h.symm (toDigits_append_ne_cons m (by decide) _ _)
  · apply absurd h (toDigits_append_ne_cons n (by decide) _ _)
  · have hdigits : Nat.toDigits 10 n = Nat.toDigits 10 m := by
      rw [← takeWhile_toDigits_append n hsep rest, ← takeWhile_toDigits_append m hsep' rest']
      apply congrArg _ h
    obtain rfl := toDigits_injective hdigits
    obtain ⟨hsep, hrest⟩ := List.cons.inj (List.append_cancel_left h)
    use rfl, hsep

/-- No member starts with the closing bracket. -/
theorem encodeAtom_append_ne_bracket (a : Atom) (rest rest' : List Char) :
  encodeAtom a ++ rest ≠ ']' :: rest'
  := by
  rcases a with s | n
  · intro h
    cases (List.cons.inj h).1
  · apply toDigits_append_ne_cons n (by decide)

/-- Texts of lists are equal only for lists that tell the same. -/
theorem view_eq_of_encodeAtoms_eq {as bs : List Atom} (h : encodeAtoms as = encodeAtoms bs) :
  as.map Atom.view = bs.map Atom.view
  := by
  induction as using encodeAtoms.induct generalizing bs with
  | case1 =>
      rcases bs with - | ⟨b, - | ⟨c, bs⟩⟩
      · rfl
      · apply absurd h.symm (encodeAtom_append_ne_bracket b _ _)
      · apply absurd h.symm (encodeAtom_append_ne_bracket b _ _)
  | case2 a =>
      rcases bs with - | ⟨b, - | ⟨c, bs⟩⟩
      · apply absurd h (encodeAtom_append_ne_bracket a _ _)
      · rw [List.map_singleton, List.map_singleton,
          (encodeAtom_append_inj (by decide) (by decide) h).1]
      · cases (encodeAtom_append_inj (by decide) (by decide) h).2.1
  | case3 a a' as ih =>
      rcases bs with - | ⟨b, - | ⟨c, bs⟩⟩
      · apply absurd h (encodeAtom_append_ne_bracket a _ _)
      · cases (encodeAtom_append_inj (by decide) (by decide) h).2.1
      · obtain ⟨hab, -, hrest⟩ := encodeAtom_append_inj (by decide) (by decide) h
        rw [List.map_cons, hab, ih hrest]
        rfl

/-- Lists that tell the same have one text. -/
theorem encodeAtoms_congr {as bs : List Atom} (h : as.map Atom.view = bs.map Atom.view) :
  encodeAtoms as = encodeAtoms bs
  := by
  induction as using encodeAtoms.induct generalizing bs with
  | case1 => rw [List.map_eq_nil_iff.mp h.symm]
  | case2 a =>
      obtain ⟨b, rfl, hab⟩ := List.map_eq_singleton_iff.mp h.symm
      rw [encodeAtoms, encodeAtoms, encodeAtom_congr hab]
  | case3 a a' as ih =>
      rcases bs with - | ⟨b, - | ⟨b', bs⟩⟩
      · cases h
      · cases (List.cons.inj h).2
      · rw [encodeAtoms, encodeAtoms, encodeAtom_congr (List.cons.inj h).1, ih (List.cons.inj h).2]

/-- Lists have one text exactly when they tell the same. -/
theorem dumps_eq_iff {as bs : List Atom} :
  dumps as = dumps bs ↔ as.map Atom.view = bs.map Atom.view
  := by
  constructor
  · intro h
    apply view_eq_of_encodeAtoms_eq
    apply (List.cons.inj (String.ofList_injective h)).2
  · intro h
    rw [dumps, dumps, encodeAtoms_congr h]

end Json
