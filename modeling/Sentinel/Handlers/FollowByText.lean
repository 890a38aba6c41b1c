import Sentinel.Handlers.Subscriptions
import Mathlib.Data.List.SplitOn

/-!
# Following and unfollowing by text

A text names node operators by their numbers. To follow them, each item of the text has to be the
numeral of a node operator, and the canonical digits of the numbers are stored. To unfollow them,
each item has to be stored itself. The two agree where the items are canonical. A text with an
item that is a text of digits but no number raises.
-/

namespace Sentinel.Handlers

open Python

/-! ### Names of node operators -/

/-- An item is the numeral of a node operator. -/
def Names (n : ℤ) (item : String) : Prop :=
  ∃ k : ℕ, numeral item = some k ∧ (k : ℤ) < n

instance (n : ℤ) (item : String) : Decidable (Names n item) :=
  match h : numeral item with
  | none => isFalse fun ⟨_, hk, _⟩ => Option.some_ne_none _ (hk.symm.trans h)
  | some k =>
      decidable_of_iff ((k : ℤ) < n)
        ⟨fun hlt => ⟨k, h, hlt⟩, fun ⟨_, hk, hlt⟩ => Option.some.inj (h.symm.trans hk) ▸ hlt⟩

/-- The digits of the number of a numeral. -/
def canonicalId (item : String) : String :=
  toString (((numeral item).getD 0 : ℕ) : ℤ)

theorem canonicalId_of_numeral {item : String} {k : ℕ} (h : numeral item = some k) :
  canonicalId item = toString k
  := by
  rw [canonicalId, h]
  rfl

/-- The number of the canonical digits. -/
theorem numeral_canonicalId {item : String} {k : ℕ} (h : numeral item = some k) :
  numeral (canonicalId item) = some k
  := by
  rw [canonicalId_of_numeral h, numeral_toString]

/-- What `int` reads from a text of digits. -/
theorem numeral_of_int {item : String} {number : ℤ} (hdigit : isDigit item)
    (h : int item = some number) :
  ∃ k : ℕ, numeral item = some k ∧ number = k
  := by
  rw [int_eq_numeral (isPlain_of_isDigit hdigit)] at h
  split at h
  · cases h
  · obtain ⟨k, hk, rfl⟩ := Option.map_eq_some_iff.mp h
    exact ⟨k, hk, rfl⟩

/-- An item that is no text of digits names no node operator. -/
theorem not_names_of_not_isDigit {n : ℤ} {item : String} (h : ¬ isDigit item) :
  ¬ Names n item
  := fun ⟨_, hk, _⟩ => h (isDigit_of_numeral hk)

/-! ### The items of a text -/

/-- The items of a text, empty ones as well. -/
def items (text : String) : List String :=
  (split text ',').map parseItem

theorem items_ne_nil (text : String) :
  items text ≠ []
  := by
  rw [items, split, ne_eq, List.map_eq_nil_iff, List.map_eq_nil_iff]
  apply List.splitOn_ne_nil

/-- The ids of a text without empty items are its items. -/
theorem mem_parseNodeOperatorIds {text item : String} (h : "" ∉ items text) :
  item ∈ parseNodeOperatorIds text ↔ item ∈ items text
  := by
  rw [items] at h
  rw [parseNodeOperatorIds]
  simp only [if_neg h]
  constructor
  · exact Dict.mem_of_mem_values_collect
  · intro hmem
    obtain ⟨item', hmem', rfl⟩ := Dict.exists_mem_values_collect id hmem
    exact hmem'

/-- Every item names a node operator exactly when there are ids and every id does. -/
theorem forall_names_iff {n : ℤ} {text : String} :
  (∀ item ∈ items text, Names n item)
    ↔ parseNodeOperatorIds text ≠ [] ∧ ∀ id ∈ parseNodeOperatorIds text, Names n id
  := by
  by_cases hempty : "" ∈ items text
  · have hnil : parseNodeOperatorIds text = [] := by
      rw [items] at hempty
      rw [parseNodeOperatorIds]
      exact if_pos hempty
    have hnames : ¬ Names n "" := not_names_of_not_isDigit (by decide)
    exact iff_of_false (fun h => hnames (h "" hempty)) fun h => h.1 hnil
  · have hmem := fun item => @mem_parseNodeOperatorIds text item hempty
    have hne : parseNodeOperatorIds text ≠ [] := by
      obtain ⟨item, hitem⟩ := List.exists_mem_of_ne_nil _ (items_ne_nil text)
      exact List.ne_nil_of_mem ((hmem item).mpr hitem)
    rw [and_iff_right hne]
    exact forall_congr' fun item => by rw [hmem]

/-! ### Validating the ids -/

/-- The ids that can be read are valid when they name a node operator. -/
theorem validNodeOperatorIds_eq {n : ℤ} {ids : List String}
    (h : ∀ id ∈ ids, isDigit id → int id ≠ none) :
  validNodeOperatorIds (fun _ => some n) ids
    = some ((ids.filter fun id => Names n id).map canonicalId,
        ids.filter fun id => ¬ Names n id)
  := by
  induction ids with
  | nil => rfl
  | cons id ids ih =>
      obtain ⟨hid, hids⟩ := List.forall_mem_cons.mp h
      rw [validNodeOperatorIds, ih hids]
      by_cases hdigit : isDigit id
      · obtain ⟨number, hint⟩ := Option.ne_none_iff_exists'.mp (hid hdigit)
        obtain ⟨k, hk, rfl⟩ := numeral_of_int hdigit hint
        have hvalid : isValidOperatorId n k = decide (Names n id) := by
          have hnames : Names n id ↔ (k : ℤ) < n := by
            constructor
            · rintro ⟨k', hk', hlt⟩
              rwa [Option.some.inj (hk.symm.trans hk')]
            · exact fun hlt => ⟨k, hk, hlt⟩
          rw [isValidOperatorId, decide_eq_decide, hnames]
          exact and_iff_right (Int.natCast_nonneg k)
        have hcanonical : canonicalId id = toString (k : ℤ) := canonicalId_of_numeral hk
        by_cases hnames : Names n id <;> simp [hdigit, hint, hvalid, hnames, hcanonical]
      · have hnames : ¬ Names n id := not_names_of_not_isDigit hdigit
        simp [hdigit, hnames]

/-- Validating ids raises at one that is a text of digits but no number. -/
theorem validNodeOperatorIds_eq_none {count : String → Option ℤ} {ids : List String} {id : String}
    (hmem : id ∈ ids) (hdigit : isDigit id) (hint : int id = none) :
  validNodeOperatorIds count ids = none
  := by
  induction ids with
  | nil => cases hmem
  | cons id' ids ih =>
      rw [validNodeOperatorIds]
      rcases List.mem_cons.mp hmem with rfl | hmem
      · simp [hdigit, hint]
      · rw [ih hmem]
        split
        · cases int id' with
          | none => rfl
          | some number => cases count id' <;> rfl
        · rfl

/-! ### Following by text -/

/-- A chat gains node operators in both indexes. -/
structure Gains (before after : Application) (chatId : ℤ) (ids : List String) : Prop where
  subscriptions : ∀ c id, id ∈ (after.subscriptions c).ids
    ↔ c = chatId ∧ id ∈ ids ∨ id ∈ (before.subscriptions c).ids
  chatsFor : ∀ c id, c ∈ after.bot.nodeOperatorChats.chatsFor id
    ↔ c = chatId ∧ id ∈ ids ∨ c ∈ before.bot.nodeOperatorChats.chatsFor id

/-- Following the ids of a list gains them. -/
theorem gains_foldl_followOne (app : Application) (chatId : ℤ) (ids : List String) :
  Gains app (ids.foldl (followOne chatId) app) chatId ids
  := by
  induction ids generalizing app with
  | nil => exact ⟨fun c id => by simp, fun c id => by simp⟩
  | cons id ids ih =>
      obtain ⟨hsubscriptions, hchats⟩ := ih (followOne chatId app id)
      constructor
      · intro c id'
        rw [List.foldl_cons, hsubscriptions, followOne, Application.subscriptions_setSubscriptions,
          List.mem_cons]
        by_cases hc : c = chatId
        · subst hc
          rw [if_pos rfl, NodeOperatorSubscriptions.mem_ids_follow]
          tauto
        · rw [if_neg hc]
          simp [hc, Application.subscriptions]
      · intro c id'
        rw [List.foldl_cons, hchats, followOne, Application.bot_setSubscriptions,
          NodeOperatorChats.mem_chatsFor_subscribe, List.mem_cons]
        tauto

/-- The reply to a text that is refused. -/
def refusal (texts : Texts) (n : ℤ) (text : String) : String :=
  let invalidIds := (parseNodeOperatorIds text).filter fun id => ¬ Names n id
  texts.nodeOperatorCantFollow
    ++ if invalidIds = [] then "" else "\nInvalid: " ++ formatNodeOperatorIds invalidIds

/-- A text is followed as a whole or refused, and nothing raises. -/
def FollowsOrRefuses (n : ℤ) (text : String) : Prop :=
  ∀ texts app chatId, ∃ reply after,
    followNodeOperatorMessage texts (fun _ => some n) app chatId text = some (reply, after)
      ∧ ((∀ item ∈ items text, Names n item) →
        Gains app after chatId ((items text).map canonicalId))
      ∧ (¬ (∀ item ∈ items text, Names n item) → after = app ∧ reply = refusal texts n text)

theorem parseNodeOperatorIds_empty :
  parseNodeOperatorIds "" = []
  := by decide

/-- Only the ids that are gained count, not their order. -/
theorem Gains.congr {before after : Application} {chatId : ℤ} {ids ids' : List String}
    (h : Gains before after chatId ids) (hids : ∀ id, id ∈ ids ↔ id ∈ ids') :
  Gains before after chatId ids'
  := by
  constructor
  · intro c id
    rw [h.subscriptions, hids]
  · intro c id
    rw [h.chatsFor, hids]

/-- A text with ids that are all valid is followed. -/
theorem followNodeOperatorMessage_of_valid {texts : Texts} {count : String → Option ℤ}
    {app : Application} {chatId : ℤ} {text : String} {validIds : List String}
    (hvalid : validNodeOperatorIds count (parseNodeOperatorIds text) = some (validIds, []))
    (hne : validIds ≠ []) :
  ∃ reply, followNodeOperatorMessage texts count app chatId text
    = some (reply, validIds.foldl (followOne chatId) app)
  := by
  have htext : text ≠ "" := by
    rintro rfl
    rw [parseNodeOperatorIds_empty] at hvalid
    exact hne (Prod.mk.inj (Option.some.inj hvalid)).1.symm
  rw [followNodeOperatorMessage, if_neg htext, hvalid]
  rcases validIds with _ | ⟨validId, _ | _⟩
  · cases hne rfl
  · exact ⟨_, rfl⟩
  · exact ⟨_, rfl⟩

/-- A text that is not followed is refused. -/
theorem followNodeOperatorMessage_of_not_names {n : ℤ} {texts : Texts} {app : Application}
    {chatId : ℤ} {text : String}
    (hread : ∀ id ∈ parseNodeOperatorIds text, isDigit id → int id ≠ none)
    (hnames : ¬ ∀ item ∈ items text, Names n item) :
  followNodeOperatorMessage texts (fun _ => some n) app chatId text
    = some (refusal texts n text, app)
  := by
  rw [followNodeOperatorMessage]
  by_cases htext : text = ""
  · subst htext
    rw [if_pos rfl, refusal, parseNodeOperatorIds_empty]
    simp
  · rw [if_neg htext, validNodeOperatorIds_eq hread, refusal]
    rw [forall_names_iff] at hnames
    by_cases hinvalid : (parseNodeOperatorIds text).filter (fun id => ¬ Names n id) = []
    · have hall : ∀ id ∈ parseNodeOperatorIds text, Names n id := by
        intro id hid
        by_contra hnot
        exact List.filter_eq_nil_iff.mp hinvalid id hid (decide_eq_true hnot)
      have hnil : parseNodeOperatorIds text = [] := by
        by_contra hne
        exact hnames ⟨hne, hall⟩
      rw [hnil]
      simp
    · obtain ⟨invalidId, invalidIds, hcons⟩ := List.exists_cons_of_ne_nil hinvalid
      simp only [hcons, Option.bind_eq_bind, Option.bind_some, List.cons_ne_nil, if_false,
        ← String.append_assoc]
      -- the reply depends on the number of valid ids only
      rcases ((parseNodeOperatorIds text).filter fun id => Names n id).map canonicalId with
        _ | ⟨_, _ | _⟩
      · rfl
      · rfl
      · rfl

/-- For every text and every number of node operators, the text is followed as a whole or refused
without raising if and only if none of its ids is a text of digits that `int` does not read. -/
theorem followNodeOperatorMessage_total_iff (n : ℤ) (text : String) :
  FollowsOrRefuses n text
    ↔ ∀ id ∈ parseNodeOperatorIds text, isDigit id → int id ≠ none
  := by
  constructor
  · intro hfollows id hid hdigit hint
    obtain ⟨reply, after, hresult, -⟩ := hfollows ⟨"", fun id => id, "", fun id => id⟩ .empty 1
    have htext : text ≠ "" := by
      rintro rfl
      rw [parseNodeOperatorIds_empty] at hid
      cases hid
    rw [followNodeOperatorMessage, if_neg htext, validNodeOperatorIds_eq_none hid hdigit hint]
      at hresult
    cases hresult
  · intro hread texts app chatId
    by_cases hnames : ∀ item ∈ items text, Names n item
    · obtain ⟨hne, hall⟩ := forall_names_iff.mp hnames
      have hvalid := validNodeOperatorIds_eq (n := n) hread
      rw [List.filter_eq_self.mpr fun id hid => decide_eq_true (hall id hid),
        List.filter_eq_nil_iff.mpr fun id hid => by simpa using hall id hid] at hvalid
      have hmap : (parseNodeOperatorIds text).map canonicalId ≠ [] :=
        fun heq => hne (List.map_eq_nil_iff.mp heq)
      obtain ⟨reply, hresult⟩ :=
        @followNodeOperatorMessage_of_valid texts _ app chatId _ _ hvalid hmap
      refine ⟨reply, _, hresult, fun _ => ?_, fun hnot => absurd hnames hnot⟩
      have hempty : "" ∉ items text := fun hmem =>
        not_names_of_not_isDigit (by decide) (hnames "" hmem)
      apply (gains_foldl_followOne app chatId _).congr
      intro id
      simp only [List.mem_map, mem_parseNodeOperatorIds hempty]
    · exact ⟨_, _, followNodeOperatorMessage_of_not_names hread hnames,
        fun hall => absurd hall hnames, fun _ => ⟨rfl, rfl⟩⟩

/-- A superscript is a digit that `int` does not read. -/
theorem not_followsOrRefuses_superscript :
  ¬ FollowsOrRefuses 1 "²"
  := by
  intro hfollows
  obtain ⟨reply, after, hresult, -⟩ := hfollows ⟨"", fun id => id, "", fun id => id⟩ .empty 1
  have hnone : validNodeOperatorIds (fun _ => some 1) (parseNodeOperatorIds "²") = none := by
    have hmem : "²" ∈ parseNodeOperatorIds "²" := by decide
    exact validNodeOperatorIds_eq_none hmem (by decide) (by decide)
  rw [followNodeOperatorMessage, if_neg (by decide), hnone] at hresult
  cases hresult

/-! ### Unfollowing by text -/

/-- Following a text succeeds, with the ids that are stored. -/
def FollowAccepts (count : String → Option ℤ) (text : String) (validIds : List String) : Prop :=
  validNodeOperatorIds count (parseNodeOperatorIds text) = some (validIds, []) ∧ validIds ≠ []

/-- A chat follows none of the node operators that a text names, under whatever digits. -/
def FollowsNone (app : Application) (chatId : ℤ) (text : String) : Prop :=
  ∀ item ∈ parseNodeOperatorIds text, ∀ id, numeral id = numeral item →
    id ∉ (app.subscriptions chatId).ids ∧ chatId ∉ app.bot.nodeOperatorChats.chatsFor id

/-- The reply to a text whose node operators are unfollowed. -/
def unfollowedReply (texts : Texts) (text : String) : String :=
  match parseNodeOperatorIds text with
  | [nodeOperatorId] => texts.nodeOperatorUnfollowed nodeOperatorId
  | nodeOperatorIds =>
      "You are no longer following Node Operators " ++ formatNodeOperatorIds nodeOperatorIds

/-- Unfollowing a text after it was followed succeeds, and the chat follows what it did before. -/
def Undoes (texts : Texts) (count : String → Option ℤ) (before : Application) (chatId : ℤ)
    (text : String) : Prop :=
  ∃ reply app after,
    followNodeOperatorMessage texts count before chatId text = some (reply, app)
      ∧ unfollowNodeOperatorMessage texts app chatId text = (unfollowedReply texts text, after)
      ∧ (after.subscriptions chatId).ids = (before.subscriptions chatId).ids
      ∧ ∀ id, chatId ∈ after.bot.nodeOperatorChats.chatsFor id
        ↔ chatId ∈ before.bot.nodeOperatorChats.chatsFor id

/-- The ids that are stored are the canonical digits of numerals. -/
theorem FollowAccepts.eq_map {count : String → Option ℤ} {text : String} {validIds : List String}
    (h : FollowAccepts count text validIds) :
  validIds = (parseNodeOperatorIds text).map canonicalId
    ∧ ∀ id ∈ parseNodeOperatorIds text, ∃ k, numeral id = some k ∧ int id = some (k : ℤ)
  := by
  have hvalid := h.1
  generalize parseNodeOperatorIds text = ids at hvalid ⊢
  clear h
  induction ids generalizing validIds with
  | nil =>
      obtain ⟨rfl, -⟩ := Prod.mk.inj (Option.some.inj hvalid)
      exact ⟨rfl, nofun⟩
  | cons id ids ih =>
      rw [validNodeOperatorIds] at hvalid
      split at hvalid
      next hdigit =>
          obtain ⟨number, hint, hvalid⟩ := Option.bind_eq_some_iff.mp hvalid
          obtain ⟨n, -, hvalid⟩ := Option.bind_eq_some_iff.mp hvalid
          obtain ⟨⟨valid, invalid⟩, hrest, hvalid⟩ := Option.bind_eq_some_iff.mp hvalid
          obtain ⟨k, hk, rfl⟩ := numeral_of_int hdigit hint
          simp only at hvalid
          split at hvalid
          · obtain ⟨rfl, rfl⟩ := Prod.mk.inj (Option.some.inj hvalid)
            obtain ⟨rfl, hall⟩ := ih hrest
            constructor
            · rw [List.map_cons, canonicalId_of_numeral hk]
              rfl
            · exact List.forall_mem_cons.mpr ⟨⟨k, hk, hint⟩, hall⟩
          · cases (Prod.mk.inj (Option.some.inj hvalid)).2
      next =>
          obtain ⟨⟨valid, invalid⟩, -, hvalid⟩ := Option.bind_eq_some_iff.mp hvalid
          cases (Prod.mk.inj (Option.some.inj hvalid)).2

/-- A chat loses node operators in both indexes. -/
theorem mem_foldl_unfollowOne (app : Application) (chatId : ℤ) (ids : List String) (id : String) :
  (id ∈ ((ids.foldl (unfollowOne chatId) app).subscriptions chatId).ids
      ↔ id ∉ ids ∧ id ∈ (app.subscriptions chatId).ids)
    ∧ (chatId ∈ (ids.foldl (unfollowOne chatId) app).bot.nodeOperatorChats.chatsFor id
      ↔ id ∉ ids ∧ chatId ∈ app.bot.nodeOperatorChats.chatsFor id)
  := by
  induction ids generalizing app with
  | nil => simp
  | cons id' ids ih =>
      obtain ⟨hsubscriptions, hchats⟩ := ih (unfollowOne chatId app id')
      have hstep : id ∈ ((unfollowOne chatId app id').subscriptions chatId).ids
          ↔ id ≠ id' ∧ id ∈ (app.subscriptions chatId).ids := by
        change id ∈ ((app.setSubscriptions chatId _).subscriptions chatId).ids ↔ _
        rw [Application.subscriptions_setSubscriptions, if_pos rfl,
          NodeOperatorSubscriptions.mem_ids_unfollow]
      have hstep' : chatId ∈ (unfollowOne chatId app id').bot.nodeOperatorChats.chatsFor id
          ↔ id ≠ id' ∧ chatId ∈ app.bot.nodeOperatorChats.chatsFor id := by
        simp only [unfollowOne, Application.bot_setSubscriptions,
          NodeOperatorChats.mem_chatsFor_unsubscribe, and_true, ne_eq]
      rw [List.foldl_cons, hsubscriptions, hchats, hstep, hstep', List.mem_cons, not_or]
      exact ⟨and_left_comm.trans and_assoc.symm, and_left_comm.trans and_assoc.symm⟩

/-- The ids of a text that are not unfollowed. -/
def missingIds (app : Application) (chatId : ℤ) (text : String) : List String :=
  (parseNodeOperatorIds text).filter fun id =>
    ¬ isDigit id ∨ id ∉ (app.subscriptions chatId).ids

/-- A text whose ids are all followed is unfollowed. -/
theorem unfollowNodeOperatorMessage_of_followed {texts : Texts} {app : Application} {chatId : ℤ}
    {text : String} (hne : parseNodeOperatorIds text ≠ [])
    (hmissing : missingIds app chatId text = []) :
  unfollowNodeOperatorMessage texts app chatId text
    = (unfollowedReply texts text,
        (parseNodeOperatorIds text).foldl (unfollowOne chatId) (app.touch chatId))
  := by
  have htext : text ≠ "" := by
    rintro rfl
    exact hne parseNodeOperatorIds_empty
  rw [missingIds] at hmissing
  rw [unfollowNodeOperatorMessage, if_neg htext, unfollowedReply]
  simp only [Application.subscriptions_touch, hmissing]
  rcases hids : parseNodeOperatorIds text with _ | ⟨id, _ | _⟩
  · cases hne hids
  · rfl
  · rfl

/-- A text with an id that is not followed changes nothing. -/
theorem unfollowNodeOperatorMessage_of_missing {texts : Texts} {app : Application} {chatId : ℤ}
    {text : String} (hmissing : missingIds app chatId text ≠ []) :
  ((unfollowNodeOperatorMessage texts app chatId text).2.subscriptions chatId).ids
    = (app.subscriptions chatId).ids
  := by
  rw [missingIds] at hmissing
  rw [unfollowNodeOperatorMessage]
  split
  · rfl
  · obtain ⟨missingId, missing, hcons⟩ := List.exists_cons_of_ne_nil hmissing
    simp only [Application.subscriptions_touch, hcons]
    split
    · cases ‹missingId :: missing = []›
    · cases ‹missingId :: missing = []›
    · cases ‹missingId :: missing = []›
    · simp

section Undo

variable {texts : Texts} {count : String → Option ℤ} {app : Application} {chatId : ℤ}
  {text : String} {validIds : List String}

/-- When following succeeded for a chat that followed none of the node operators, an id of the
text is followed exactly when it is canonical. -/
theorem mem_ids_follow_iff (haccepts : FollowAccepts count text validIds)
    (hnone : FollowsNone app chatId text) {id : String} (hid : id ∈ parseNodeOperatorIds text) :
  id ∈ ((validIds.foldl (followOne chatId) app).subscriptions chatId).ids
    ↔ canonicalId id = id
  := by
  obtain ⟨rfl, hall⟩ := haccepts.eq_map
  rw [(gains_foldl_followOne app chatId _).subscriptions]
  constructor
  · rintro (⟨-, hmem⟩ | hmem)
    · obtain ⟨id', hid', rfl⟩ := List.mem_map.mp hmem
      obtain ⟨k, hk, -⟩ := hall id' hid'
      rw [canonicalId_of_numeral (numeral_canonicalId hk), canonicalId_of_numeral hk]
    · exact absurd hmem (hnone id hid id rfl).1
  · intro hcanonical
    exact .inl ⟨rfl, List.mem_map.mpr ⟨id, hid, hcanonical⟩⟩

/-- What `int` reads of an id is its canonical digits. -/
theorem map_int_eq_iff (haccepts : FollowAccepts count text validIds) {id : String}
    (hid : id ∈ parseNodeOperatorIds text) :
  (int id).map toString = some id ↔ canonicalId id = id
  := by
  obtain ⟨k, hk, hint⟩ := haccepts.eq_map.2 id hid
  rw [hint, Option.map_some, Option.some.injEq, canonicalId_of_numeral hk]
  rfl

/-- When unfollowing gives the chat back what it followed, every id is canonical. -/
theorem canonical_of_undoes (haccepts : FollowAccepts count text validIds)
    (hnone : FollowsNone app chatId text) (hundoes : Undoes texts count app chatId text)
    {id : String} (hid : id ∈ parseNodeOperatorIds text) :
  canonicalId id = id
  := by
  obtain ⟨reply, followed, after, hfollow, hunfollow, hids, -⟩ := hundoes
  obtain ⟨reply', hfollow'⟩ :=
    @followNodeOperatorMessage_of_valid texts _ app chatId _ _ haccepts.1 haccepts.2
  obtain ⟨-, rfl⟩ := Prod.mk.inj (Option.some.inj (hfollow'.symm.trans hfollow))
  by_contra hne
  have hmissing : missingIds (validIds.foldl (followOne chatId) app) chatId text ≠ [] := by
    have hmissed := mt (mem_ids_follow_iff haccepts hnone hid).mp hne
    exact List.ne_nil_of_mem (List.mem_filter.mpr ⟨hid, decide_eq_true (.inr hmissed)⟩)
  have hsame := @unfollowNodeOperatorMessage_of_missing texts _ chatId text hmissing
  rw [hunfollow, hids] at hsame
  obtain ⟨rfl, hall⟩ := haccepts.eq_map
  obtain ⟨k, hk, -⟩ := hall id hid
  -- the canonical digits were stored, and the chat did not follow them before
  have hgained := ((gains_foldl_followOne app chatId _).subscriptions chatId (canonicalId id)).mpr
    (.inl ⟨rfl, List.mem_map_of_mem hid⟩)
  rw [← hsame] at hgained
  exact (hnone id hid _ ((numeral_canonicalId hk).trans hk.symm)).1 hgained

/-- Unfollowing a text with canonical ids gives the chat back what it followed. -/
theorem undoes_of_canonical (haccepts : FollowAccepts count text validIds)
    (hnone : FollowsNone app chatId text)
    (hcanonical : ∀ id ∈ parseNodeOperatorIds text, canonicalId id = id) :
  Undoes texts count app chatId text
  := by
  obtain ⟨reply, hfollow⟩ :=
    @followNodeOperatorMessage_of_valid texts _ app chatId _ _ haccepts.1 haccepts.2
  have hvalid : validIds = parseNodeOperatorIds text := by
    rw [haccepts.eq_map.1]
    exact (List.map_congr_left hcanonical).trans (List.map_id _)
  have hmissing : missingIds (validIds.foldl (followOne chatId) app) chatId text = [] := by
    apply List.filter_eq_nil_iff.mpr
    intro id hid
    obtain ⟨k, hk, -⟩ := haccepts.eq_map.2 id hid
    rw [decide_eq_true_iff, not_or, not_not, not_not]
    exact ⟨isDigit_of_numeral hk, (mem_ids_follow_iff haccepts hnone hid).mpr (hcanonical id hid)⟩
  have hgains := gains_foldl_followOne app chatId validIds
  refine ⟨reply, _, _, hfollow,
    unfollowNodeOperatorMessage_of_followed (hvalid ▸ haccepts.2) hmissing, ?_, ?_⟩
  · ext id
    rw [(mem_foldl_unfollowOne _ _ _ id).1, Application.subscriptions_touch, hgains.subscriptions,
      hvalid]
    constructor
    · rintro ⟨hnot, ⟨-, hmem⟩ | hmem⟩
      · exact absurd hmem hnot
      · exact hmem
    · exact fun hmem => ⟨fun hid => (hnone id hid id rfl).1 hmem, .inr hmem⟩
  · intro id
    rw [(mem_foldl_unfollowOne _ _ _ id).2, Application.bot_touch, hgains.chatsFor, hvalid]
    constructor
    · rintro ⟨hnot, ⟨-, hmem⟩ | hmem⟩
      · exact absurd hmem hnot
      · exact hmem
    · exact fun hmem => ⟨fun hid => (hnone id hid id rfl).2 hmem, .inr hmem⟩

/-- For every text that is followed in a chat that followed none of its node operators,
unfollowing the text succeeds and gives the chat back what it followed before if and only if
every id of the text is spelled with its canonical digits. -/
theorem unfollowNodeOperatorMessage_undoes_iff (haccepts : FollowAccepts count text validIds)
    (hnone : FollowsNone app chatId text) :
  Undoes texts count app chatId text
    ↔ ∀ id ∈ parseNodeOperatorIds text, (int id).map toString = some id
  := by
  constructor
  · intro hundoes id hid
    exact (map_int_eq_iff haccepts hid).mpr (canonical_of_undoes haccepts hnone hundoes hid)
  · intro hcanonical
    apply undoes_of_canonical haccepts hnone
    exact fun id hid => (map_int_eq_iff haccepts hid).mp (hcanonical id hid)

end Undo

/-- One item that names one of ten node operators is accepted. -/
theorem followAccepts_one {text id : String} {k : ℕ} (hids : parseNodeOperatorIds text = [id])
    (hk : numeral id = some k) (hint : int id = some (k : ℤ)) (hlt : k < 10) :
  FollowAccepts (fun _ => some 10) text [canonicalId id]
  := by
  have hread : ∀ id ∈ parseNodeOperatorIds text, isDigit id → int id ≠ none := by
    rw [hids]
    intro id' hmem _
    rw [List.mem_singleton.mp hmem, hint]
    exact Option.some_ne_none _
  have hnames : Names 10 id := ⟨k, hk, by exact_mod_cast hlt⟩
  constructor
  · rw [validNodeOperatorIds_eq hread, hids]
    simp [hnames]
  · nofun

theorem followsNone_empty (chatId : ℤ) (text : String) :
  FollowsNone .empty chatId text
  := by
  intro item _ id _
  exact ⟨Finset.notMem_empty id, Finset.notMem_empty chatId⟩

/-- The number seven in its canonical digits. -/
theorem unfollowNodeOperatorMessage_undoes_iff_seven :
  Undoes ⟨"", fun id => id, "", fun id => id⟩ (fun _ => some 10) .empty 1 "#7"
  := by
  have hids : parseNodeOperatorIds "#7" = ["7"] := by decide
  have hint : int "7" = some 7 := by decide
  apply (unfollowNodeOperatorMessage_undoes_iff
    (followAccepts_one hids (by decide : numeral "7" = some 7) hint (by decide))
    (followsNone_empty 1 "#7")).mpr
  intro id hid
  rw [hids, List.mem_singleton] at hid
  rw [hid, hint]
  rfl

/-- The number seven with a leading zero: following stores its canonical digits, which
unfollowing does not find. -/
theorem not_undoes_leading_zero :
  FollowAccepts (fun _ => some 10) "07" [canonicalId "07"]
    ∧ FollowsNone .empty 1 "07"
    ∧ ¬ Undoes ⟨"", fun id => id, "", fun id => id⟩ (fun _ => some 10) .empty 1 "07"
  := by
  have hids : parseNodeOperatorIds "07" = ["07"] := by decide
  have hk : numeral "07" = some 7 := by decide
  have haccepts := followAccepts_one hids hk (by decide) (by decide)
  refine ⟨haccepts, followsNone_empty 1 "07", ?_⟩
  intro hundoes
  have hmem : "07" ∈ parseNodeOperatorIds "07" := by
    rw [hids]
    apply List.mem_singleton_self
  have hcanonical := canonical_of_undoes haccepts (followsNone_empty 1 "07") hundoes hmem
  rw [canonicalId_of_numeral hk] at hcanonical
  revert hcanonical
  decide

end Sentinel.Handlers
