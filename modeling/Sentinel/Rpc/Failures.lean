import Sentinel.App.Logging
import Sentinel.Rpc.EndpointPool
import Sentinel.Url

/-!
# Failures of providers

What a provider raises is normalized: a summary of the failure for the endpoint, and a message
for the log in which every URL is replaced by its host. The URLs are those that a pattern finds,
and the host of one is read by a function that raises a `ValueError` for some of them.
-/

namespace Sentinel

open Python (UrlTables urlsplit isSpace)

/-- The tables of Unicode that the messages of providers go through. -/
structure MessageTables extends UrlTables where
  /-- a character of a word beyond ASCII, `\w` -/
  isWordBeyond : Char → Bool

/-- A character of a word. -/
def MessageTables.isWord (t : MessageTables) (c : Char) : Bool :=
  if c.toNat < 128 then c.isAlphanum || c == '_' else t.isWordBeyond c

/-- The tables of ASCII texts. -/
def MessageTables.ascii : MessageTables where
  toUrlTables := .ascii
  isWordBeyond _ := false

/-! ### Exceptions of providers -/

/-- The name of a class, which is an identifier. -/
structure ClassName where
  name : String
  noSlash : '/' ∉ name.toList

/-- What a provider answers, in JSON. -/
inductive JsonValue where
  | null
  | bool (value : Bool)
  | int (value : ℤ)
  /-- a number with a fraction or an exponent, by its text -/
  | float (text : String)
  | str (s : String)
  | list (items : List JsonValue)
  | dict (items : List (String × JsonValue))

namespace JsonValue

/-- `value.get(key) if isinstance(value, dict) else None` -/
def get (key : String) : JsonValue → JsonValue
  | dict items => (items.lookup key).getD null
  | _ => null

/-- `isinstance(value, int)`, which also holds of booleans. -/
def isInt : JsonValue → Bool
  | bool _ | int _ => true
  | _ => false

/-- The text of a string. -/
def text : JsonValue → Option String
  | str s => some s
  | _ => none

end JsonValue

/-- The exceptions that an operation of a provider raises. -/
inductive ProviderException where
  /-- one of `_RPC_TRANSPORT_EXCEPTIONS` -/
  | transport (className : ClassName)
  | tooManyRequests (className : ClassName) (text : String)
  /-- a `Web3RPCError` that is no semantic response -/
  | web3Rpc (className : ClassName) (rpcResponse : JsonValue)
  /-- one of `_RPC_SEMANTIC_RESPONSES` -/
  | semantic (className : ClassName)
  | other (className : ClassName)

namespace ProviderException

/-- `exc.__class__.__name__` -/
def className : ProviderException → ClassName
  | transport name | tooManyRequests name _ | web3Rpc name _ | semantic name | other name => name

/-- One of `_RPC_ENDPOINT_FAILURES` that is no semantic response. -/
def IsEndpointFailure : ProviderException → Prop
  | transport _ | tooManyRequests _ _ | web3Rpc _ _ => True
  | semantic _ | other _ => False

/-- The message of the provider. -/
def message : ProviderException → Option String
  | tooManyRequests _ text => some text
  | web3Rpc _ rpcResponse => ((rpcResponse.get "error").get "message").text
  | transport _ | semantic _ | other _ => none

end ProviderException

/-! ### Summaries -/

inductive RpcFailureKind where
  | transport
  | rpcRejected
deriving DecidableEq

structure RpcFailureSummary where
  endpointIndex : Option ℕ
  endpointLabel : Option String
  kind : RpcFailureKind
  rpcCode : Option JsonValue

/-- `label`, `none` where it raises a `ValueError`. -/
def RpcEndpoint.label (t : UrlTables) (endpoint : RpcEndpoint) : Option String :=
  (urlsplit t endpoint.uri.toList).map fun parts =>
    match parts.hostname t with
    | none => s!"rpc-{endpoint.index + 1}"
    | some hostname => s!"rpc-{endpoint.index + 1} ({String.ofList hostname})"

/-- The code of a rejection, if it is a number. -/
def rpcCode : ProviderException → Option JsonValue
  | .web3Rpc _ rpcResponse =>
      let code := (rpcResponse.get "error").get "code"
      if code.isInt then some code else none
  | _ => none

/-- The kind of a failure. -/
def failureKind : ProviderException → RpcFailureKind
  | .tooManyRequests _ _ | .web3Rpc _ _ => .rpcRejected
  | .transport _ | .semantic _ | .other _ => .transport

/-- `_failure_summary`, `none` where it raises a `ValueError`. -/
def failureSummary (t : UrlTables) (endpoint : RpcEndpoint) (exc : ProviderException) :
    Option RpcFailureSummary :=
  (endpoint.label t).map fun label =>
    { endpointIndex := some endpoint.index
      endpointLabel := some label
      kind := failureKind exc
      rpcCode := rpcCode exc }

/-! ### Messages -/

/-- The beginning of a URL in `_RPC_URL_PATTERN`, whatever its letter case is. -/
def urlStart : Regex :=
  let oneOfChars (cs : String) : Regex := .char fun c => c ∈ cs.toList
  let s : Regex := .many (fun c => c ∈ "sSſ".toList) 0 (some 1)
  .seq
    (CharTables.oneOf [
      CharTables.seqAll [oneOfChars "hH", oneOfChars "tT", oneOfChars "tT", oneOfChars "pP", s],
      CharTables.seqAll [oneOfChars "wW", oneOfChars "sSſ", s]])
    (CharTables.seqAll [oneOfChars ":", oneOfChars "/", oneOfChars "/"])

/-- `_RPC_URL_PATTERN` -/
def rpcUrlPattern (t : MessageTables) : Regex :=
  .seq (.boundary t.isWord) (.seq urlStart (.many (fun c => !isSpace c) 1 none))

/-- `" ".join(message.split())` -/
def normalize (message : List Char) : List Char :=
  List.intercalate [' '] ((message.splitOnP isSpace).filter (· ≠ []))

/-- `redact_url`: the host of a URL, `none` where it raises a `ValueError`. -/
def redactUrl (t : UrlTables) (url : List Char) : Option (List Char) :=
  (urlsplit t url).map fun parts =>
    ((parts.hostname t).filter (· ≠ [])).getD "RPC URL".toList

/-- The URLs that the pattern finds are replaced by their hosts. -/
def redactPieces (t : UrlTables) :
    List (List Char × List Char) → Option (List (List Char × List Char))
  | [] => some []
  | (url, v) :: rest => do
      let host ← redactUrl t url
      let rest ← redactPieces t rest
      return (host, v) :: rest

/-- The URLs that the pattern finds in a message, and the texts around them. -/
def messagePieces (t : MessageTables) (message : String) :
    List Char × List (List Char × List Char) :=
  (rpcUrlPattern t).pieces 0 none (normalize message.toList)

/-- `_MAX_RPC_ERROR_MESSAGE_LENGTH` -/
def maxRpcErrorMessageLength : ℕ := 240

/-- How many characters of a redacted message are logged. -/
def shownLength (redacted : List Char) : ℕ :=
  if redacted.length ≤ maxRpcErrorMessageLength then maxRpcErrorMessageLength
  else maxRpcErrorMessageLength - 3

/-- A redacted message, cut to the length of a message for the log. -/
def cutMessage (redacted : List Char) : List Char :=
  if redacted.length ≤ maxRpcErrorMessageLength then redacted
  else redacted.take (maxRpcErrorMessageLength - 3) ++ "...".toList

/-- `_safe_rpc_error_message`, `none` where it raises a `ValueError`. -/
def safeRpcErrorMessage (t : MessageTables) (exc : ProviderException) : Option (List Char) :=
  match exc.message with
  | none => some exc.className.name.toList
  | some message =>
      if (Python.strip message).toList = [] then some exc.className.name.toList
      else
        let (v, rest) := messagePieces t message
        (redactPieces t.toUrlTables rest).map fun rest => cutMessage (joinPieces v rest)

/-! ### Normalized failures -/

/-- What `_invoke_rpc_operation` does. -/
inductive Invoked (α : Type*) where
  | returned (value : α)
  /-- a `_RpcOperationFailed` -/
  | failed (failure : RpcFailureSummary) (logMessage : List Char)
  | raised (exc : ProviderException)
  | valueError

/-- `_invoke_rpc_operation` -/
def invokeRpcOperation {α : Type*} (t : MessageTables) (operation : Except ProviderException α)
    (endpoint : RpcEndpoint) : Invoked α :=
  match operation with
  | .ok value => .returned value
  | .error (.semantic name) => .raised (.semantic name)
  | .error (.other name) => .raised (.other name)
  | .error exc =>
      match failureSummary t.toUrlTables endpoint exc with
      | none => .valueError
      | some failure =>
          match safeRpcErrorMessage t exc with
          | none => .valueError
          | some logMessage => .failed failure logMessage

/-! ### URLs in messages -/

/-- A character that no userinfo, path or query of a URL goes beyond. -/
def urlStop (c : Char) : Bool :=
  isSpace c || c == '#'

/-- No URL of a text has a userinfo, a path or a query. -/
def RevealsNoUrl (message : List Char) : Prop :=
  urlStart.Bare urlStop ['/', '?', '@'] message

/-- No URL of a text that begins directly behind a character of a word has a userinfo, a path or
a query. -/
def RevealsNoUrlInWord (t : MessageTables) (message : List Char) : Prop :=
  ∀ before d u rest, message = before ++ d :: (u ++ rest) → t.isWord d → urlStart.Matches u →
    ∀ c ∈ rest.takeWhile fun c => !urlStop c, c ∉ ['/', '?', '@']

/-- The beginning of a URL: a letter, and what follows it up to two slashes. -/
theorem exists_of_matches_urlStart {u : List Char} (h : urlStart.Matches u) :
  ∃ c v, u = c :: v ++ ['/', '/'] ∧ c ∈ "hHwW".toList ∧ ∀ d ∈ v, d ∈ "tTpPsSſ:".toList
  := by
  simp only [urlStart, Regex.Matches, CharTables.oneOf, CharTables.seqAll, List.foldr,
    decide_eq_true_eq] at h
  obtain ⟨_, _, rfl, hscheme, _, _, rfl, ⟨c, hc, rfl⟩, _, _, rfl, ⟨d, hd, rfl⟩, _, _, rfl,
    ⟨e, he, rfl⟩, rfl⟩ := h
  obtain rfl := List.mem_singleton.mp hc
  obtain rfl := List.mem_singleton.mp hd
  obtain rfl := List.mem_singleton.mp he
  rcases hscheme with
    ⟨_, _, rfl, ⟨h, hh, rfl⟩, _, _, rfl, ⟨t, ht, rfl⟩, _, _, rfl, ⟨t', ht', rfl⟩, _, _, rfl,
      ⟨p, hp, rfl⟩, s, _, rfl, ⟨hs, -⟩, rfl⟩
    | ⟨_, _, rfl, ⟨w, hw, rfl⟩, _, _, rfl, ⟨s, hs, rfl⟩, s', _, rfl, ⟨hs', -⟩, rfl⟩
  · use h, t :: t' :: p :: s ++ [':']
    simp at *
    grind
  · use w, s :: s' ++ [':']
    simp at *
    grind

theorem placeFree_urlStart :
  urlStart.PlaceFree
  := by
  simp [urlStart, Regex.PlaceFree, CharTables.oneOf, CharTables.seqAll]

/-- No character of the beginning of a URL ends one. -/
theorem not_urlStop_of_matches (u : List Char) (h : urlStart.Matches u) :
  ∀ c ∈ u, ¬ urlStop c
  := by
  have hchars : ("hHwW".toList ++ "tTpPsSſ:".toList ++ ['/', '/']).all (!urlStop ·) := by decide
  obtain ⟨d, v, rfl, hd, hv⟩ := exists_of_matches_urlStart h
  intro c hc
  rw [Bool.not_eq_true, ← Bool.not_eq_true']
  apply List.all_eq_true.mp hchars
  rcases List.mem_append.mp hc with hc | hc
  · apply List.mem_append_left
    rcases List.mem_cons.mp hc with rfl | hc
    · apply List.mem_append_left _ hd
    · apply List.mem_append_right _ (hv c hc)
  · apply List.mem_append_right _ hc

theorem getLast?_of_matches (u : List Char) (h : urlStart.Matches u) :
  ∃ c ∈ u.getLast?, c ∈ ['/', '?', '@']
  := by
  obtain ⟨d, v, rfl, -⟩ := exists_of_matches_urlStart h
  use '/'
  rw [List.getLast?_append]
  simp

/-- A stop of the pattern is one of a URL. -/
theorem urlStop_of_isSpace {c : Char} (h : isSpace c) :
  urlStop c
  := by
  rw [urlStop, h, Bool.true_or]

/-! ### What the pattern finds -/

/-- The pattern takes the beginning of a URL and all up to the next space. -/
theorem first_rpcUrlPattern {t : MessageTables} {previous : Option Char} {s u : List Char}
    (h : (rpcUrlPattern t).first previous s = some u) :
  ∃ v x rest, s = v ++ x ++ rest ∧ urlStart.Matches v ∧ u = v ++ x
    ∧ ∀ c ∈ rest.head?, isSpace c
  := by
  obtain ⟨place, hplace, w, hw, rfl⟩ := Regex.first_seq h
  obtain rfl := Regex.matches_of_mem_attempts hplace
  obtain ⟨v, hv, x, hx, rfl⟩ := Regex.first_seq hw
  obtain ⟨rest, hs⟩ := Regex.isPrefix_of_mem_attempts hv
  rw [List.length_nil, List.drop_zero] at hs hx
  rw [← hs, List.drop_left] at hx
  obtain rfl := Regex.first_many hx
  use v, rest.takeWhile fun c => !isSpace c, rest.dropWhile fun c => !isSpace c
  rw [List.append_assoc, List.takeWhile_append_dropWhile, hs]
  use rfl, Regex.matches_of_mem_attempts hv, rfl
  intro c hc
  have hnot := List.head?_dropWhile_not (fun c => !isSpace c) rest
  rw [hc] at hnot
  simpa using hnot

/-- The pattern finds no URL in front of a space. -/
theorem first_rpcUrlPattern_of_isSpace (t : MessageTables) (previous : Option Char) (c : Char)
    (s : List Char) (h : isSpace c) :
  (rpcUrlPattern t).first previous (c :: s) = none
  := by
  cases hfirst : (rpcUrlPattern t).first previous (c :: s) with
  | none => rfl
  | some u =>
      obtain ⟨v, x, rest, hs, hmatch, -⟩ := first_rpcUrlPattern hfirst
      have hc := not_urlStop_of_matches v hmatch
      obtain ⟨d, v, rfl, -⟩ := exists_of_matches_urlStart hmatch
      obtain ⟨rfl, -⟩ := List.cons.inj hs
      cases hc c List.mem_cons_self (urlStop_of_isSpace h)

/-- The pattern finds a URL that is not behind a character of a word. -/
theorem first_rpcUrlPattern_ne_none {t : MessageTables} {previous : Option Char} {u : List Char}
    {c : Char} (hprevious : ¬ previous.any t.isWord) (hmatch : urlStart.Matches u)
    (hc : ¬ isSpace c) (rest : List Char) :
  (rpcUrlPattern t).first previous (u ++ c :: rest) ≠ none
  := by
  have hletters : ∀ d ∈ "hHwW".toList, d.toNat < 128 ∧ d.isAlphanum := by simp
  have hmem : u ++ [c] ∈ (rpcUrlPattern t).attempts previous (u ++ c :: rest) := by
    apply List.mem_flatMap.mpr
    use []
    constructor
    · -- the URL begins with a letter
      obtain ⟨d, v, rfl, hd, -⟩ := exists_of_matches_urlStart hmatch
      obtain ⟨hascii, halnum⟩ := hletters d hd
      have hword : t.isWord d := by
        rw [MessageTables.isWord, if_pos hascii, halnum, Bool.true_or]
      rw [Regex.attempts, if_pos, List.mem_singleton]
      rw [Bool.not_eq_true] at hprevious
      rw [hprevious, List.cons_append, List.cons_append, List.head?_cons, Option.any_some, hword]
      simp
    · apply List.mem_map.mpr
      use u ++ [c]
      apply And.intro _ (List.nil_append _)
      have hurl : (Regex.seq urlStart (.many (fun c => !isSpace c) 1 none)).Matches (u ++ [c]) := by
        use u, [c], rfl, hmatch
        refine ⟨?_, le_rfl, by simp⟩
        intro d hd
        rw [List.mem_singleton.mp hd]
        simpa using hc
      have hfree : (Regex.seq urlStart (.many (fun c => !isSpace c) 1 none)).PlaceFree := by
        use placeFree_urlStart
        trivial
      have htried := Regex.mem_attempts_of_matches hfree hurl
        (([] : List Char).getLast?.or previous) rest
      rw [List.append_assoc] at htried
      apply htried
  intro hnone
  rw [List.head?_eq_none_iff.mp hnone] at hmem
  cases hmem

/-- The texts behind the URLs that the pattern finds begin with a space. -/
theorem stopped_messagePieces (t : MessageTables) (message : String) :
  Regex.Stopped isSpace (messagePieces t message).2
  := by
  refine (Regex.stopped_pieces ?_ (first_rpcUrlPattern_of_isSpace t) 0 none _).1
  intro previous s u hfirst
  obtain ⟨v, x, rest, rfl, hmatch, rfl, hspace⟩ := first_rpcUrlPattern hfirst
  rw [List.drop_left]
  apply And.intro _ hspace
  obtain ⟨d, v, rfl, -⟩ := exists_of_matches_urlStart hmatch
  nofun

/-- The URLs that the pattern leaves are behind a character of a word. -/
theorem revealsNoUrl_take_iff {t : MessageTables} {previous : Option Char} {v : List Char}
    (hunfound : (rpcUrlPattern t).Unfound previous v)
    (hstart : previous = none ∨ ∀ c ∈ v.head?, isSpace c) (n : ℕ) :
  RevealsNoUrl (v.take n) ↔ RevealsNoUrlInWord t (v.take n)
  := by
  constructor
  · intro h before d u rest heq _ hmatch
    apply h u rest ⟨before ++ [d], _⟩ hmatch
    rw [heq, List.append_assoc, List.singleton_append]
  · rintro h u rest ⟨before, heq⟩ hmatch c hc hbad
    obtain ⟨e, rest, rfl⟩ := List.exists_cons_of_ne_nil
      (List.ne_nil_of_mem (List.takeWhile_subset _ hc))
    have hurl : ¬ isSpace e := by
      intro hspace
      rw [List.takeWhile_cons, if_neg (by simpa using urlStop_of_isSpace hspace)] at hc
      cases hc
    -- the text goes on behind what is shown
    have hv : v = before ++ (u ++ e :: (rest ++ v.drop n)) := by
      rw [← List.cons_append, ← List.append_assoc, ← List.append_assoc, List.append_assoc before,
        heq, List.take_append_drop]
    obtain ⟨d, w, rfl, -⟩ := exists_of_matches_urlStart hmatch
    obtain ⟨tail, hnone⟩ := hunfound before d (w ++ ['/', '/'] ++ e :: (rest ++ v.drop n)) hv
    have hword : (before.getLast?.or previous).any t.isWord := by
      by_contra hword
      apply first_rpcUrlPattern_ne_none hword hmatch hurl (rest ++ v.drop n ++ tail)
      rw [← hnone]
      simp only [List.cons_append, List.append_assoc]
    rcases List.eq_nil_or_concat' before with rfl | ⟨before, last, rfl⟩
    · rcases hstart with rfl | hspace
      · cases hword
      · rw [hv] at hspace
        apply not_urlStop_of_matches _ hmatch d List.mem_cons_self
        apply urlStop_of_isSpace (hspace d rfl)
    · rw [List.getLast?_concat] at hword
      apply h before last (d :: w ++ ['/', '/']) (e :: rest) _ hword hmatch c hc hbad
      rw [← heq, List.append_assoc, List.singleton_append]

/-! ### Redacted messages -/

/-- A host has no delimiter of a URL in it. -/
theorem not_mem_redactUrl {t : UrlTables} {url host : List Char}
    (h : redactUrl t url = some host) :
  ∀ c ∈ host, c ∉ ['/', '?', '@']
  := by
  obtain ⟨parts, hparts, rfl⟩ := Option.map_eq_some_iff.mp h
  cases hname : (parts.hostname t).filter (· ≠ []) with
  | none =>
      rw [Option.getD_none]
      simp
  | some name =>
      obtain ⟨hname, -⟩ := Option.filter_eq_some_iff.mp hname
      intro c hc
      have hnot := Python.not_mem_hostname hparts hname c hc
      simp only [List.mem_cons, List.not_mem_nil, or_false, not_or] at hnot ⊢
      use hnot.1, hnot.2.1, hnot.2.2.2

variable {t : UrlTables} {rest hosts : List (List Char × List Char)}

/-- The URLs are replaced if each of them is split. -/
theorem isSome_redactPieces_iff :
  (redactPieces t rest).isSome ↔ ∀ piece ∈ rest, (urlsplit t piece.1).isSome
  := by
  induction rest with
  | nil => simp [redactPieces]
  | cons piece rest ih =>
      obtain ⟨url, v⟩ := piece
      rw [List.forall_mem_cons, ← ih, redactPieces]
      cases hurl : urlsplit t url with
      | none => simp [redactUrl, hurl]
      | some parts => cases redactPieces t rest <;> simp [redactUrl, hurl]

/-- Replacing the URLs leaves the texts around them, and no delimiter of a URL elsewhere. -/
theorem redactPieces_spec (h : redactPieces t rest = some hosts) :
  hosts.map Prod.snd = rest.map Prod.snd ∧ ∀ piece ∈ hosts, ∀ c ∈ piece.1, c ∉ ['/', '?', '@']
  := by
  induction rest generalizing hosts with
  | nil =>
      obtain ⟨⟩ := h
      use rfl
      nofun
  | cons piece rest ih =>
      obtain ⟨url, v⟩ := piece
      obtain ⟨host, hhost, hbind⟩ := Option.bind_eq_some_iff.mp h
      obtain ⟨rest', hrest, ⟨⟩⟩ := Option.bind_eq_some_iff.mp hbind
      obtain ⟨heq, hnot⟩ := ih hrest
      rw [List.map_cons, List.map_cons, heq]
      use rfl
      apply List.forall_mem_cons.mpr ⟨not_mem_redactUrl hhost, hnot⟩

/-- The texts around the URLs are the same after the URLs are replaced. -/
theorem stopped_redactPieces {stop : Char → Bool} (h : redactPieces t rest = some hosts)
    (hstopped : Regex.Stopped stop rest) :
  Regex.Stopped stop hosts
  := by
  induction rest generalizing hosts with
  | nil =>
      obtain ⟨⟩ := h
      trivial
  | cons piece rest ih =>
      obtain ⟨url, v⟩ := piece
      obtain ⟨host, -, hbind⟩ := Option.bind_eq_some_iff.mp h
      obtain ⟨rest', hrest, ⟨⟩⟩ := Option.bind_eq_some_iff.mp hbind
      obtain ⟨hend, hhead, hstopped⟩ := hstopped
      refine ⟨?_, hhead, ih hrest hstopped⟩
      intro hv
      rw [hend hv] at hrest
      apply (Option.some.inj hrest).symm

/-- A cut message reveals what is shown of the redacted one. -/
theorem revealsNoUrl_cutMessage (redacted : List Char) :
  RevealsNoUrl (cutMessage redacted) ↔ RevealsNoUrl (redacted.take (shownLength redacted))
  := by
  rw [cutMessage, shownLength]
  split
  next hle => rw [List.take_of_length_le hle]
  next =>
      apply Regex.bare_append_of_notMem getLast?_of_matches
      simp

/-- The URLs that the pattern finds in a message are split, and none that it leaves in what is
shown of the message has a userinfo, a path or a query. -/
structure Redactable (t : MessageTables) (message : String) : Prop where
  split : ∀ piece ∈ (messagePieces t message).2, (urlsplit t.toUrlTables piece.1).isSome
  bare : ∀ hosts, redactPieces t.toUrlTables (messagePieces t message).2 = some hosts →
    ∀ w ∈ keptPieces (shownLength (joinPieces (messagePieces t message).1 hosts))
      (messagePieces t message).1 hosts, RevealsNoUrlInWord t w

/-- A redacted message reveals what the pattern leaves of it. -/
theorem revealsNoUrl_redacted_iff {t : MessageTables} {message : String}
    {hosts : List (List Char × List Char)}
    (h : redactPieces t.toUrlTables (messagePieces t message).2 = some hosts) (n : ℕ) :
  RevealsNoUrl ((joinPieces (messagePieces t message).1 hosts).take n)
    ↔ ∀ w ∈ keptPieces n (messagePieces t message).1 hosts, RevealsNoUrlInWord t w
  := by
  obtain ⟨hsnd, hnot⟩ := redactPieces_spec h
  have hstopped := stopped_redactPieces h (stopped_messagePieces t message)
  obtain ⟨-, ⟨p, hp, hfirst⟩, hrest⟩ :=
    (rpcUrlPattern t).unfound_pieces 0 none (normalize message.toList)
  rw [RevealsNoUrl, Regex.bare_take_joinPieces not_urlStop_of_matches getLast?_of_matches n _ hosts
    (hstopped.mono fun c => urlStop_of_isSpace) hnot]
  apply forall₂_congr
  intro w hw
  obtain ⟨k, rfl | ⟨piece, hpiece, rfl⟩⟩ := exists_of_mem_keptPieces hw
  · obtain rfl := hp rfl
    apply revealsNoUrl_take_iff hfirst (Or.inl rfl)
  · have hmem : piece.2 ∈ (messagePieces t message).2.map Prod.snd := by
      rw [← hsnd]
      apply List.mem_map_of_mem hpiece
    obtain ⟨piece', hpiece', heq⟩ := List.mem_map.mp hmem
    obtain ⟨p, hunfound⟩ := hrest piece' hpiece'
    rw [heq] at hunfound
    apply revealsNoUrl_take_iff hunfound (Or.inr (hstopped.head piece hpiece))

/-- A message is redacted, and reveals nothing of the URLs in it, exactly if it is redactable. -/
theorem safeRpcErrorMessage_reveals_iff (t : MessageTables) (exc : ProviderException) :
  (∃ logMessage, safeRpcErrorMessage t exc = some logMessage ∧ RevealsNoUrl logMessage)
    ↔ ∀ message ∈ exc.message, (Python.strip message).toList ≠ [] → Redactable t message
  := by
  have hname : RevealsNoUrl exc.className.name.toList := by
    intro u rest hsuffix hmatch
    obtain ⟨d, v, rfl, -⟩ := exists_of_matches_urlStart hmatch
    cases exc.className.noSlash (hsuffix.subset (by simp))
  rw [safeRpcErrorMessage]
  cases exc.message with
  | none =>
      constructor
      · nofun
      · intro _
        use exc.className.name.toList, rfl
  | some message =>
      simp only [Option.mem_some_iff, forall_eq']
      split
      next hblank =>
          constructor
          · intro _ hne
            cases hne hblank
          · intro _
            use exc.className.name.toList, rfl
      next hblank =>
          cases hhosts : redactPieces t.toUrlTables (messagePieces t message).2 with
          | none =>
              constructor
              · nofun
              · intro hredactable
                have hsome := isSome_redactPieces_iff.mpr (hredactable hblank).split
                rw [hhosts] at hsome
                cases hsome
          | some hosts =>
              constructor
              · rintro ⟨_, ⟨⟩, hreveals⟩ -
                constructor
                · apply isSome_redactPieces_iff.mp
                  rw [hhosts]
                  rfl
                · rintro hosts' hhosts'
                  obtain rfl := Option.some.inj (hhosts.symm.trans hhosts')
                  apply (revealsNoUrl_redacted_iff hhosts _).mp
                  apply (revealsNoUrl_cutMessage _).mp hreveals
              · intro hredactable
                use cutMessage (joinPieces (messagePieces t message).1 hosts), rfl
                apply (revealsNoUrl_cutMessage _).mpr
                apply (revealsNoUrl_redacted_iff hhosts _).mpr
                apply (hredactable hblank).bare hosts hhosts

/-! ### Normalizing -/

/-- A failure is summarized if the URI of the endpoint is split. -/
theorem isSome_failureSummary (t : UrlTables) (endpoint : RpcEndpoint) (exc : ProviderException) :
  (failureSummary t endpoint exc).isSome = (urlsplit t endpoint.uri.toList).isSome
  := by
  simp only [failureSummary, RpcEndpoint.label, Option.isSome_map]

/-- A failure of an endpoint is normalized if it is summarized and its message is redacted. -/
theorem invokeRpcOperation_eq_failed_iff {α : Type*} {t : MessageTables} {endpoint : RpcEndpoint}
    {exc : ProviderException} (h : exc.IsEndpointFailure) {failure : RpcFailureSummary}
    {logMessage : List Char} :
  invokeRpcOperation t (.error exc : Except ProviderException α) endpoint
      = .failed failure logMessage
    ↔ failureSummary t.toUrlTables endpoint exc = some failure
      ∧ safeRpcErrorMessage t exc = some logMessage
  := by
  have hinvoke : invokeRpcOperation t (.error exc : Except ProviderException α) endpoint
      = match failureSummary t.toUrlTables endpoint exc with
        | none => .valueError
        | some failure =>
            match safeRpcErrorMessage t exc with
            | none => .valueError
            | some logMessage => .failed failure logMessage := by
    cases exc with
    | transport name => rfl
    | tooManyRequests name text => rfl
    | web3Rpc name rpcResponse => rfl
    | semantic name => cases h
    | other name => cases h
  rw [hinvoke]
  cases failureSummary t.toUrlTables endpoint exc with
  | none => simp
  | some failure => cases safeRpcErrorMessage t exc <;> simp

/-- A failure of an endpoint is normalized, and the log message reveals nothing of the URLs in
it, exactly if the URI of the endpoint is split and the message of the provider is redactable. -/
theorem invokeRpcOperation_normalizes_iff {α : Type*} (t : MessageTables)
    (endpoint : RpcEndpoint) (exc : ProviderException) (h : exc.IsEndpointFailure) :
  (∃ failure logMessage,
      invokeRpcOperation t (.error exc : Except ProviderException α) endpoint
        = .failed failure logMessage
      ∧ failureSummary t.toUrlTables endpoint exc = some failure ∧ RevealsNoUrl logMessage)
    ↔ (urlsplit t.toUrlTables endpoint.uri.toList).isSome
      ∧ ∀ message ∈ exc.message, (Python.strip message).toList ≠ [] → Redactable t message
  := by
  have hmessage := safeRpcErrorMessage_reveals_iff t exc
  have hsummary := isSome_failureSummary t.toUrlTables endpoint exc
  constructor
  · rintro ⟨failure, logMessage, hfailed, hfailure, hreveals⟩
    obtain ⟨-, hlog⟩ := (invokeRpcOperation_eq_failed_iff h).mp hfailed
    rw [hfailure] at hsummary
    use hsummary.symm, hmessage.mp ⟨logMessage, hlog, hreveals⟩
  · rintro ⟨hsplit, hredactable⟩
    obtain ⟨logMessage, hlog, hreveals⟩ := hmessage.mpr hredactable
    rw [hsplit] at hsummary
    obtain ⟨failure, hfailure⟩ := Option.isSome_iff_exists.mp hsummary
    use failure, logMessage, (invokeRpcOperation_eq_failed_iff h).mpr ⟨hfailure, hlog⟩, hfailure

/-- A URL with a user, a path and a query is replaced by its host. -/
theorem invokeRpcOperation_normalizes_wss :
  ∃ failure logMessage,
    invokeRpcOperation .ascii
        (.error (.tooManyRequests ⟨"TooManyRequests", by decide⟩ "wss://me:pw@rpc.io/a?token=b")
          : Except ProviderException Unit) ⟨0, "wss://rpc.io"⟩
      = .failed failure logMessage
    ∧ failureSummary .ascii ⟨0, "wss://rpc.io"⟩
        (.tooManyRequests ⟨"TooManyRequests", by decide⟩ "wss://me:pw@rpc.io/a?token=b")
      = some failure
    ∧ RevealsNoUrl logMessage
  := by
  have hpieces : messagePieces .ascii "wss://me:pw@rpc.io/a?token=b"
      = ([], [("wss://me:pw@rpc.io/a?token=b".toList, [])]) := by decide +kernel
  have hhosts : redactPieces .ascii [("wss://me:pw@rpc.io/a?token=b".toList, [])]
      = some [("rpc.io".toList, [])] := by decide +kernel
  apply (invokeRpcOperation_normalizes_iff .ascii ⟨0, "wss://rpc.io"⟩
    (.tooManyRequests ⟨"TooManyRequests", by decide⟩ "wss://me:pw@rpc.io/a?token=b") trivial).mpr
  apply And.intro (by decide +kernel)
  rintro _ ⟨⟩ -
  constructor
  · rw [hpieces]
    decide +kernel
  · intro hosts hredacted w hw before d u rest hword
    rw [hpieces] at hredacted hw
    obtain rfl := Option.some.inj (hhosts.symm.trans hredacted)
    have hnil : w = [] := by
      obtain ⟨k, rfl | ⟨piece, hpiece, rfl⟩⟩ := exists_of_mem_keptPieces hw
      · apply List.take_nil
      · rw [List.mem_singleton.mp hpiece]
        apply List.take_nil
    rw [hnil] at hword
    cases List.append_ne_nil_of_right_ne_nil before (List.cons_ne_nil d _) hword.symm

/-- A provider makes the normalization fail with a bracket that is not closed, and a URL is logged
as it is behind a character of a word. -/
theorem invokeRpcOperation_valueError :
  invokeRpcOperation .ascii
      (.error (.web3Rpc ⟨"Web3RPCError", by decide⟩
        (.dict [("error", .dict [("code", .int (-32000)), ("message", .str "http://[x")])]))
        : Except ProviderException Unit) ⟨0, "wss://rpc.io"⟩ = .valueError
    ∧ safeRpcErrorMessage .ascii (.tooManyRequests ⟨"TooManyRequests", by decide⟩
        "_wss://me:pw@rpc.io/a?token=b") = some "_wss://me:pw@rpc.io/a?token=b".toList
    ∧ ¬ RevealsNoUrl "_wss://me:pw@rpc.io/a?token=b".toList
  := by
  refine ⟨rfl, by decide +kernel, ?_⟩
  intro h
  apply h "wss://".toList "me:pw@rpc.io/a?token=b".toList ⟨['_'], rfl⟩ _ '@' (by decide)
  · decide
  · have hstart : "wss://".toList ∈ urlStart.attempts none "wss://".toList := by decide
    apply Regex.matches_of_mem_attempts hstart

end Sentinel
