import Sentinel.Dict
import Sentinel.Regex
import Sentinel.Sorting
import Sentinel.Text

/-!
# Redaction of secrets

Every log line goes through a redactor. It replaces the registered secrets and what looks like
a secret in the texts of a payload, and shows nothing of the values of sensitive keys. The keys
themselves stay as they are.
-/

namespace Sentinel

open Python (LowerCase)

/-- The tables of Unicode for words and letter case. -/
structure CharTables extends LowerCase where
  /-- a character of a word, `\w` -/
  isWord : Char → Bool
  /-- the characters that differ from a character in letter case only, with itself -/
  variants : Char → List Char

namespace CharTables

/-- The tables of ASCII texts. -/
def ascii : CharTables where
  toLowerCase := .ascii
  isWord c := c.isAlphanum || c == '_'
  variants c := [c, c.toLower, c.toUpper]

variable (t : CharTables)

/-! ### Patterns -/

/-- A property of characters, whatever their letter case is. -/
def anyCase (p : Char → Bool) (c : Char) : Bool :=
  (t.variants c).any p

/-- One of some characters. -/
def oneOfChars (cs : String) : Char → Bool :=
  t.anyCase fun c => c ∈ cs.toList

/-- A character that is none of some characters and no space. -/
def noneOf (cs : String) (c : Char) : Bool :=
  !(t.oneOfChars cs c || Python.isSpace c)

/-- An ASCII letter or digit. -/
def isAlphanumeric (c : Char) : Bool :=
  'a' ≤ c ∧ c ≤ 'z' ∨ 'A' ≤ c ∧ c ≤ 'Z' ∨ '0' ≤ c ∧ c ≤ '9'

/-- Expressions one after the other. -/
def seqAll (rs : List Regex) : Regex :=
  rs.foldr .seq .empty

/-- A text. -/
def literal (s : String) : Regex :=
  seqAll (s.toList.map fun c => .char (t.anyCase fun c' => c' == c))

/-- One of some texts, the first that matches. -/
def oneOf : List Regex → Regex
  | [] => .char fun _ => false
  | [r] => r
  | r :: rs => .alt r (oneOf rs)

/-- Two words with `_`, `-` or nothing between them. -/
def joined (s s' : String) : Regex :=
  seqAll [t.literal s, .many (t.oneOfChars "_-") 0 (some 1), t.literal s']

/-- `_URL_USERINFO_PATTERN` -/
def urlUserinfoPattern : MaskedRegex where
  before := seqAll [.boundary t.isWord,
    oneOf [.seq (t.literal "http") (.many (t.oneOfChars "s") 0 (some 1)),
      .seq (t.literal "ws") (.many (t.oneOfChars "s") 0 (some 1))],
    t.literal "://"]
  masked := .many (t.noneOf "/@") 1 none
  after := t.literal "@"

/-- `_QUERY_SECRET_PATTERN` -/
def querySecretPattern : MaskedRegex where
  before := seqAll [.char (t.oneOfChars "?&"),
    oneOf [t.literal "password", t.literal "passwd", t.literal "secret", t.literal "token",
      t.joined "access" "token", t.joined "refresh" "token", t.joined "api" "key",
      t.literal "key"],
    t.literal "="]
  masked := .many (t.noneOf "&#") 1 none
  after := .empty

/-- `_NAMED_SECRET_PATTERN` -/
def namedSecretPattern : MaskedRegex where
  before := seqAll [.boundary t.isWord,
    oneOf [t.literal "password", t.literal "passwd", t.literal "secret", t.literal "token",
      t.joined "access" "token", t.joined "refresh" "token", t.joined "api" "key",
      t.literal "authorization"],
    .many Python.isSpace 0 none, .char (t.oneOfChars ":="), .many Python.isSpace 0 none]
  masked := oneOf [
    seqAll [t.literal "\"", .many (fun c => c != '"') 0 none, t.literal "\""],
    seqAll [t.literal "'", .many (fun c => c != Char.ofNat 39) 0 none, t.literal "'"],
    .many (t.noneOf ",;&\x7d") 1 none]
  after := .empty

/-- `_BEARER_PATTERN` -/
def bearerPattern : MaskedRegex where
  before := seqAll [.boundary t.isWord, t.literal "Authorization", .many Python.isSpace 0 none,
    t.literal ":", .many Python.isSpace 0 none, t.literal "Bearer", .many Python.isSpace 1 none]
  masked := .seq
    (.many (t.anyCase fun c => isAlphanumeric c ∨ c ∈ "._~+-/".toList) 1 none)
    (.many (t.oneOfChars "=") 0 none)
  after := .empty

/-- `_TELEGRAM_TOKEN_PATTERN` -/
def telegramTokenPattern : MaskedRegex where
  before := .empty
  masked := seqAll [.boundary t.isWord, .many (fun c => (Python.decimal c).isSome) 6 none,
    .char (fun c => c == ':'), .many (fun c => isAlphanumeric c ∨ c ∈ "_-".toList) 20 none,
    .boundary t.isWord]
  after := .empty

/-! ### Sensitive keys -/

/-- `_SENSITIVE_KEY_NAMES` -/
def sensitiveKeyNames : List String :=
  ["password", "passwd", "secret", "token", "access_token", "refresh_token", "api_key",
    "authorization"]

/-- `_is_sensitive_key` -/
def isSensitiveKey (key : String) : Bool :=
  let normalized := (t.lower key).toList.map fun c => if c = '-' then '_' else c
  normalized ∈ sensitiveKeyNames.map String.toList
    || sensitiveKeyNames.any fun suffix => ('_' :: suffix.toList).isSuffixOf normalized

end CharTables

/-- What is logged. Of a mapping, the texts of its keys count. -/
inductive Payload (ν : Type*) where
  | str (s : String)
  | mapping (items : List (String × Payload ν))
  | sequence (items : List (Payload ν))
  /-- `None`, a boolean or a number -/
  | scalar (value : ν)
  /-- an object of another type -/
  | other (typeName : String)

namespace Payload

variable {ν : Type*}

mutual

/-- The texts of a payload: its strings and the keys of its mappings. -/
def strings : Payload ν → List String
  | str s => [s]
  | mapping items => stringsItems items
  | sequence items => stringsAll items
  | scalar _ | other _ => []

def stringsItems : List (String × Payload ν) → List String
  | [] => []
  | (key, value) :: items => key :: value.strings ++ stringsItems items

def stringsAll : List (Payload ν) → List String
  | [] => []
  | value :: values => value.strings ++ stringsAll values

end

theorem stringsItems_eq (items : List (String × Payload ν)) :
  stringsItems items = items.flatMap fun item => item.1 :: item.2.strings
  := by
  induction items with
  | nil => rfl
  | cons item items ih => rw [stringsItems, ih, List.flatMap_cons]

mutual

/-- The texts of a payload that are logged as they are: the keys of its mappings, except for
those inside the value of a sensitive key, and the names of the types of other objects. Of the
items whose keys have the same text the last one counts. -/
def verbatim (t : CharTables) : Payload ν → List String
  | str _ | scalar _ => []
  | mapping items =>
      (Dict.collect Prod.fst (verbatimItems t items)).values.flatMap fun item => item.1 :: item.2
  | sequence items => verbatimAll t items
  | other typeName => ["<" ++ typeName ++ ">"]

def verbatimItems (t : CharTables) : List (String × Payload ν) → List (String × List String)
  | [] => []
  | (key, value) :: items =>
      (key, if t.isSensitiveKey key then [] else value.verbatim t) :: verbatimItems t items

def verbatimAll (t : CharTables) : List (Payload ν) → List String
  | [] => []
  | value :: values => value.verbatim t ++ verbatimAll t values

end

theorem verbatimItems_eq (t : CharTables) (items : List (String × Payload ν)) :
  verbatimItems t items = items.map fun item =>
    (item.1, if t.isSensitiveKey item.1 then [] else item.2.verbatim t)
  := by
  induction items with
  | nil => rfl
  | cons item items ih => rw [verbatimItems, ih, List.map_cons]

end Payload

/-- The registered secrets, in the order in which the set is iterated. -/
structure SecretRedactor where
  values : List String
  nodup : values.Nodup
  nonempty : "" ∉ values

namespace SecretRedactor

def redacted : String := "***"

/-- A redactor without secrets. -/
def new : SecretRedactor where
  values := []
  nodup := List.nodup_nil
  nonempty := nofun

/-- Register a value, unless it is empty. -/
def register (r : SecretRedactor) (value : String) : SecretRedactor :=
  if h : value = "" ∨ value ∈ r.values then r
  else
    { values := r.values ++ [value]
      nodup := by
        apply List.Nodup.append r.nodup (List.nodup_singleton value)
        apply List.disjoint_singleton.mpr
        intro hmem
        apply h (Or.inr hmem)
      nonempty := by
        intro hmem
        rcases List.mem_append.mp hmem with hmem | hmem
        · apply r.nonempty hmem
        · apply h (Or.inl (List.mem_singleton.mp hmem).symm) }

variable {ν : Type*} (t : CharTables) (r : SecretRedactor)

/-- The registered secrets are replaced, the longest first. -/
def replaceValues (value : List Char) : List Char :=
  let sensitiveValues := sortBy (fun v => OrderDual.toDual v.length) r.values
  sensitiveValues.foldl
    (fun value sensitiveValue => replaceAll sensitiveValue.toList redacted.toList value) value

/-- What the patterns match is masked. -/
def maskPatterns (value : List Char) : List Char :=
  let value := t.urlUserinfoPattern.sub redacted.toList value
  let value := t.querySecretPattern.sub redacted.toList value
  let value := t.bearerPattern.sub redacted.toList value
  let value := t.namedSecretPattern.sub redacted.toList value
  t.telegramTokenPattern.sub redacted.toList value

/-- `_redact_text` -/
def redactText (value : String) : String :=
  String.ofList (maskPatterns t (r.replaceValues value.toList))

mutual

/-- `redact` -/
def redact (key : Option String) : Payload ν → Payload ν
  | .str s => if key.any t.isSensitiveKey then .str redacted else .str (r.redactText t s)
  | .mapping items =>
      if key.any t.isSensitiveKey then .str redacted
      else .mapping (Dict.collect Prod.fst (redactItems items)).values
  | .sequence items =>
      if key.any t.isSensitiveKey then .str redacted else .sequence (redactAll items)
  | .scalar value => if key.any t.isSensitiveKey then .str redacted else .scalar value
  | .other typeName =>
      if key.any t.isSensitiveKey then .str redacted else .str ("<" ++ typeName ++ ">")

/-- The items of a mapping, redacted. -/
def redactItems : List (String × Payload ν) → List (String × Payload ν)
  | [] => []
  | (key, value) :: items => (key, redact (some key) value) :: redactItems items

/-- The members of a sequence, redacted. -/
def redactAll : List (Payload ν) → List (Payload ν)
  | [] => []
  | value :: values => redact none value :: redactAll values

end

theorem redactItems_eq (items : List (String × Payload ν)) :
  r.redactItems t items = items.map fun item => (item.1, r.redact t (some item.1) item.2)
  := by
  induction items with
  | nil => rfl
  | cons item items ih => rw [redactItems, ih, List.map_cons]

/-! ### Texts -/

/-- A text has no registered secret in it. -/
def Hides (s : String) : Prop :=
  ∀ value ∈ r.values, ¬ value.toList <:+: s.toList

/-- The mask has no characters in common with a text without asterisks. -/
theorem notMem_redacted {value : String} (h : '*' ∉ value.toList) :
  ∀ c ∈ value.toList, c ∉ redacted.toList
  := by
  intro c hc hmem
  have hstar : c = '*' := by simpa [redacted] using hmem
  rw [hstar] at hc
  apply h hc

theorem toList_ne_nil {value : String} (h : value ∈ r.values) :
  value.toList ≠ []
  := by
  intro hnil
  apply r.nonempty
  rw [← String.toList_eq_nil_iff.mp hnil]
  apply h

/-- The mask hides every secret without asterisks. -/
theorem hides_redacted (h : ∀ value ∈ r.values, '*' ∉ value.toList) :
  r.Hides redacted
  := by
  intro value hvalue hpart
  have hnil := Masked.isInfix_of_isInfix_append (t := []) (notMem_redacted (h value hvalue))
    (by rwa [List.append_nil])
  apply r.toList_ne_nil hvalue (List.infix_nil.mp hnil)

/-- Replacing values one after the other leaves none of them, and brings nothing new. -/
theorem not_isInfix_foldl_replaceAll (values : List String)
    (h : ∀ value ∈ values, value.toList ≠ [] ∧ '*' ∉ value.toList) (s : List Char) :
  NothingNew redacted.toList s (values.foldl (fun s value =>
      replaceAll value.toList redacted.toList s) s)
    ∧ ∀ value ∈ values, ¬ value.toList <:+: values.foldl (fun s value =>
      replaceAll value.toList redacted.toList s) s
  := by
  induction values generalizing s with
  | nil =>
      constructor
      · intro w _ hpart
        apply hpart
      · nofun
  | cons value values ih =>
      obtain ⟨hnew, hnone⟩ := ih (fun value hvalue => h value (List.mem_cons_of_mem _ hvalue))
        (replaceAll value.toList redacted.toList s)
      have hmask : redacted.toList ≠ [] := by decide
      rw [List.foldl_cons]
      constructor
      · apply (nothingNew_replaceAll hmask value.toList s).trans hnew
      · intro value' hvalue'
        rcases List.mem_cons.mp hvalue' with rfl | htail
        · obtain ⟨hne, hstar⟩ := h value' List.mem_cons_self
          intro hpart
          have hreplaced := hnew _ (notMem_redacted hstar) hpart
          apply not_isInfix_replaceAll hne hmask (notMem_redacted hstar) s hreplaced
        · apply hnone value' htail

/-- The patterns bring nothing new. -/
theorem nothingNew_maskPatterns (s : List Char) :
  NothingNew redacted.toList s (maskPatterns t s)
  := by
  have hmask : redacted.toList ≠ [] := by decide
  apply NothingNew.trans (t.urlUserinfoPattern.nothingNew_sub hmask s)
  apply NothingNew.trans (t.querySecretPattern.nothingNew_sub hmask _)
  apply NothingNew.trans (t.bearerPattern.nothingNew_sub hmask _)
  apply NothingNew.trans (t.namedSecretPattern.nothingNew_sub hmask _)
  apply t.telegramTokenPattern.nothingNew_sub hmask

/-- A redacted text has no registered secret in it. -/
theorem hides_redactText (h : ∀ value ∈ r.values, '*' ∉ value.toList) (s : String) :
  r.Hides (r.redactText t s)
  := by
  intro value hvalue hpart
  rw [redactText, String.toList_ofList] at hpart
  obtain ⟨-, hnone⟩ := not_isInfix_foldl_replaceAll
    (sortBy (fun v => OrderDual.toDual v.length) r.values) (by
      intro value hmem
      rw [mem_sortBy] at hmem
      use r.toList_ne_nil hmem, h value hmem) s.toList
  apply hnone value (mem_sortBy.mpr hvalue)
  apply nothingNew_maskPatterns t _ _ (notMem_redacted (h value hvalue)) hpart

/-! ### Payloads -/

/-- What is shown of a mapping: for each item that counts its key and its value. -/
theorem forall_mem_strings_mapping {P : String → Prop} (items : List (String × Payload ν)) :
  (∀ s ∈ Payload.stringsItems (Dict.collect Prod.fst (r.redactItems t items)).values, P s)
    ↔ ∀ item ∈ (Dict.collect Prod.fst items).values,
      P item.1 ∧ ∀ s ∈ (r.redact t (some item.1) item.2).strings, P s
  := by
  rw [Payload.stringsItems_eq, redactItems_eq, Dict.values_collect_fst_map,
    List.flatMap_map]
  simp only [List.forall_mem_flatMap, List.forall_mem_cons]

theorem forall_mem_verbatim_mapping {P : String → Prop} (items : List (String × Payload ν)) :
  (∀ s ∈ (Payload.mapping items).verbatim t, P s)
    ↔ ∀ item ∈ (Dict.collect Prod.fst items).values,
      P item.1 ∧ ∀ s ∈ (if t.isSensitiveKey item.1 then [] else item.2.verbatim t), P s
  := by
  rw [Payload.verbatim, Payload.verbatimItems_eq, Dict.values_collect_fst_map,
    List.flatMap_map]
  simp only [List.forall_mem_flatMap, List.forall_mem_cons]

/-- The value of a sensitive key is masked. -/
theorem redact_of_isSensitiveKey {key : Option String} (h : key.any t.isSensitiveKey = true)
    (p : Payload ν) :
  r.redact t key p = .str redacted
  := by
  cases p <;> rw [redact, if_pos h]

mutual

/-- A redacted payload hides the secrets exactly when its key is sensitive or the texts that
are logged as they are hide them. -/
theorem hides_redact_iff (h : ∀ value ∈ r.values, '*' ∉ value.toList) (key : Option String)
    (p : Payload ν) :
  (∀ s ∈ (r.redact t key p).strings, r.Hides s)
    ↔ key.any t.isSensitiveKey = true ∨ ∀ s ∈ p.verbatim t, r.Hides s
  := by
  by_cases hkey : key.any t.isSensitiveKey = true
  · rw [redact_of_isSensitiveKey t r hkey]
    apply iff_of_true _ (Or.inl hkey)
    intro s hs
    rw [List.mem_singleton.mp hs]
    apply r.hides_redacted h
  rw [or_iff_right hkey]
  cases p with
  | str s =>
      rw [redact, if_neg hkey]
      apply iff_of_true
      · intro s' hs
        rw [List.mem_singleton.mp hs]
        apply r.hides_redactText t h
      · nofun
  | mapping items =>
      rw [redact, if_neg hkey, Payload.strings, forall_mem_strings_mapping,
        forall_mem_verbatim_mapping]
      apply forall₂_congr
      intro item hitem
      apply and_congr_right
      intro _
      rw [hides_redactItems_iff h items item (Dict.mem_of_mem_values_collect hitem)]
      split
      next hsensitive => apply iff_of_true (Or.inl hsensitive) nofun
      next hsensitive => apply or_iff_right hsensitive
  | sequence values =>
      rw [redact, if_neg hkey, Payload.strings, Payload.verbatim]
      apply hides_redactAll_iff h values
  | scalar value =>
      rw [redact, if_neg hkey]
      apply iff_of_true <;> nofun
  | other typeName =>
      rw [redact, if_neg hkey]
      rfl

theorem hides_redactItems_iff (h : ∀ value ∈ r.values, '*' ∉ value.toList)
    (items : List (String × Payload ν)) (item : String × Payload ν) (hitem : item ∈ items) :
  (∀ s ∈ (r.redact t (some item.1) item.2).strings, r.Hides s)
    ↔ t.isSensitiveKey item.1 = true ∨ ∀ s ∈ item.2.verbatim t, r.Hides s
  := by
  cases items with
  | nil => cases hitem
  | cons first items =>
      obtain ⟨key, value⟩ := first
      rcases List.mem_cons.mp hitem with rfl | hrest
      · apply hides_redact_iff h (some key) value
      · apply hides_redactItems_iff h items item hrest

theorem hides_redactAll_iff (h : ∀ value ∈ r.values, '*' ∉ value.toList)
    (values : List (Payload ν)) :
  (∀ s ∈ Payload.stringsAll (r.redactAll t values), r.Hides s)
    ↔ ∀ s ∈ Payload.verbatimAll t values, r.Hides s
  := by
  cases values with
  | nil => rfl
  | cons value values =>
      rw [redactAll, Payload.stringsAll, Payload.verbatimAll, List.forall_mem_append,
        List.forall_mem_append, hides_redact_iff h none value, hides_redactAll_iff h values]
      apply and_congr_left
      intro _
      apply or_iff_right nofun

end

/-- No text of a redacted payload has a registered secret in it exactly when no text that is
logged as it is has one: of the texts of a payload only the keys of mappings are not
redacted. -/
theorem redact_hides_iff (h : ∀ value ∈ r.values, '*' ∉ value.toList) (p : Payload ν) :
  (∀ s ∈ (r.redact t none p).strings, r.Hides s) ↔ ∀ s ∈ p.verbatim t, r.Hides s
  := by
  rw [hides_redact_iff t r h]
  apply or_iff_right nofun

/-- A payload with the secret in a message. -/
def loginPayload : Payload ℤ :=
  .mapping [("message", .str "login with hunter2"), ("attempt", .scalar 1)]

/-- A payload without secrets in its keys. -/
theorem redact_hides_iff_message :
  (loginPayload.verbatim .ascii = ["message", "attempt"])
    ∧ ∀ s ∈ ((new.register "hunter2").redact .ascii none loginPayload).strings,
        (new.register "hunter2").Hides s
  := by
  have hvalues : (new.register "hunter2").values = ["hunter2"] := rfl
  use rfl
  apply (redact_hides_iff .ascii (new.register "hunter2") (by rw [hvalues]; decide) _).mpr
  intro s hs value hvalue
  have htexts : s ∈ ["message", "attempt"] := hs
  rw [hvalues] at hvalue
  rw [List.mem_singleton.mp hvalue]
  revert s
  decide

/-- A secret that is the key of a mapping is logged. -/
theorem not_hides_key :
  ¬ ∀ (t : CharTables) (r : SecretRedactor), (∀ value ∈ r.values, '*' ∉ value.toList) →
    ∀ p : Payload ℤ, ∀ s ∈ (r.redact t none p).strings, r.Hides s
  := by
  intro h
  have hvalues : (new.register "hunter2").values = ["hunter2"] := rfl
  have hhides := h .ascii (new.register "hunter2") (by rw [hvalues]; decide)
    (.mapping [("hunter2", .scalar 1)]) "hunter2" List.mem_cons_self
  apply hhides "hunter2"
  · rw [hvalues]
    apply List.mem_singleton_self
  · apply List.infix_rfl

end SecretRedactor

end Sentinel
