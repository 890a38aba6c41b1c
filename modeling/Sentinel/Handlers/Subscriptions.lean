import Sentinel.Sorting
import Sentinel.Storage.BotStorage
import Sentinel.Text
import Mathlib.Data.Finset.Sort
import Mathlib.Data.String.Basic

/-!
# Following and unfollowing node operators

The handlers by which a chat follows and unfollows node operators, by a text or by a button,
and the migration of a chat to another chat id. Each of them changes two indexes: the
subscriptions in the data of the chat, and the chats of each node operator in the data of
the bot. The two `Agree` after any sequence of these.
-/

namespace Sentinel

open Python

/-- The texts of the replies of a module. -/
structure Texts where
  nodeOperatorCantFollow : String
  nodeOperatorFollowed : String → String
  nodeOperatorCantUnfollow : String
  nodeOperatorUnfollowed : String → String

namespace Handlers

def followOperatorPrefix : String := "follow_no:"
def unfollowOperatorPrefix : String := "unfollow_no:"

/-! ### Reading node operator ids -/

/-- An item of a text without spaces around it and without a leading `#`. -/
def parseItem (item : String) : String :=
  let nodeOperatorId := strip item
  if startsWith nodeOperatorId "#" then strip (removePrefix nodeOperatorId "#")
  else nodeOperatorId

/-- The node operator ids of a text, none when an item is empty. -/
def parseNodeOperatorIds (rawText : String) : List String :=
  let ids := (split rawText ',').map parseItem
  if "" ∈ ids then [] else (Dict.collect id ids).values

/-- The node operator ids as they are shown. -/
def formatNodeOperatorIds (nodeOperatorIds : List String) : String :=
  ", ".intercalate (nodeOperatorIds.map fun id => "#" ++ id)

/-- Whether there is a node operator of an id. -/
def isValidOperatorId (count id : ℤ) : Bool :=
  0 ≤ id ∧ id < count

/-- The valid ids in their canonical form, and the invalid ones. `count` is the number of node
operators when an id is checked, `none` where reading it raises. -/
def validNodeOperatorIds (count : String → Option ℤ) :
    List String → Option (List String × List String)
  | [] => some ([], [])
  | nodeOperatorId :: ids => do
      if isDigit nodeOperatorId then
        let number ← int nodeOperatorId
        let n ← count nodeOperatorId
        let (valid, invalid) ← validNodeOperatorIds count ids
        if isValidOperatorId n number then return (toString number :: valid, invalid)
        else return (valid, nodeOperatorId :: invalid)
      else
        let (valid, invalid) ← validNodeOperatorIds count ids
        return (valid, nodeOperatorId :: invalid)

/-! ### Following -/

/-- Add a node operator to the subscriptions of a chat and the chat to the node operator. -/
def followOne (chatId : ℤ) (app : Application) (nodeOperatorId : String) : Application :=
  let bot := { app.bot with
    nodeOperatorChats := app.bot.nodeOperatorChats.subscribe nodeOperatorId chatId }
  { app with bot := bot }.setSubscriptions chatId
    ((app.subscriptions chatId).follow nodeOperatorId)

/-- Follow the node operators of a text. The reply and the application after it, `none` where
the handler raises before it changes anything. -/
def followNodeOperatorMessage (texts : Texts) (count : String → Option ℤ) (app : Application)
    (chatId : ℤ) (text : String) : Option (String × Application) :=
  if text = "" then some (texts.nodeOperatorCantFollow, app)
  else do
    let (validIds, invalidIds) ← validNodeOperatorIds count (parseNodeOperatorIds text)
    match validIds, invalidIds with
    | [validId], [] =>
        return (texts.nodeOperatorFollowed validId, followOne chatId app validId)
    | _ :: _, [] =>
        return ("You are now following Node Operators " ++ formatNodeOperatorIds validIds,
          validIds.foldl (followOne chatId) app)
    | _, [] => return (texts.nodeOperatorCantFollow, app)
    | _, _ =>
        return (texts.nodeOperatorCantFollow ++ "\nInvalid: " ++ formatNodeOperatorIds invalidIds,
          app)

/-- Follow the node operator of a button. -/
def followNodeOperatorButton (texts : Texts) (count : String → Option ℤ) (app : Application)
    (chatId : ℤ) (data : String) : Option (String × Application) := do
  let nodeOperatorId := removePrefix data followOperatorPrefix
  let (validIds, invalidIds) ← validNodeOperatorIds count [nodeOperatorId]
  if validIds ≠ [] ∧ invalidIds = [] then
    return (texts.nodeOperatorFollowed nodeOperatorId, followOne chatId app nodeOperatorId)
  else return (texts.nodeOperatorCantFollow, app)

/-! ### Unfollowing -/

/-- Remove a node operator from the subscriptions of a chat and the chat from the node
operator. -/
def unfollowOne (chatId : ℤ) (app : Application) (nodeOperatorId : String) : Application :=
  let app := app.setSubscriptions chatId
    ((app.subscriptions chatId).unfollow nodeOperatorId).2
  { app with bot := { app.bot with
      nodeOperatorChats := app.bot.nodeOperatorChats.unsubscribe nodeOperatorId chatId } }

/-- Unfollow the node operators of a text. -/
def unfollowNodeOperatorMessage (texts : Texts) (app : Application) (chatId : ℤ)
    (text : String) : String × Application :=
  if text = "" then (texts.nodeOperatorCantUnfollow, app)
  else
    let app := app.touch chatId
    let nodeOperatorIds := parseNodeOperatorIds text
    let missingIds := nodeOperatorIds.filter fun id =>
      ¬ isDigit id ∨ id ∉ (app.subscriptions chatId).ids
    match nodeOperatorIds, missingIds with
    | [nodeOperatorId], [] =>
        (texts.nodeOperatorUnfollowed nodeOperatorId, unfollowOne chatId app nodeOperatorId)
    | _ :: _, [] =>
        ("You are no longer following Node Operators " ++ formatNodeOperatorIds nodeOperatorIds,
          nodeOperatorIds.foldl (unfollowOne chatId) app)
    | _, [] => (texts.nodeOperatorCantUnfollow, app)
    | _, _ =>
        (texts.nodeOperatorCantUnfollow ++ "\nInvalid: " ++ formatNodeOperatorIds missingIds, app)

/-- Unfollow the node operator of a button. -/
def unfollowNodeOperatorButton (texts : Texts) (app : Application) (chatId : ℤ)
    (data : String) : String × Application :=
  let app := app.touch chatId
  let nodeOperatorId := removePrefix data unfollowOperatorPrefix
  if ((app.subscriptions chatId).unfollow nodeOperatorId).1 then
    (texts.nodeOperatorUnfollowed nodeOperatorId, unfollowOne chatId app nodeOperatorId)
  else (texts.nodeOperatorCantUnfollow, app)

/-! ### Migrating a chat -/

/-- Move the subscriptions of a chat to another chat id. -/
def migrateChatSubscriptions (app : Application) (oldChatId newChatId : ℤ) : Application :=
  match app.chatData.get? oldChatId, app.chatData.get? newChatId with
  | none, _ => app
  | some oldData, none =>
      -- the data is moved
      { app with chatData := (app.chatData.set newChatId oldData).erase oldChatId }
  | some oldData, some newData =>
      let newData := (oldData.ids.sort (· ≤ ·)).foldl NodeOperatorSubscriptions.follow newData
      { app with chatData := (app.chatData.set newChatId newData).erase oldChatId }

/-- The old and the new chat id of a message about a migration. -/
def migrationIds (chatId : ℤ) (migrateTo migrateFrom : Option ℤ) : Option (ℤ × ℤ) :=
  match migrateTo, migrateFrom with
  | some newChatId, _ => some (chatId, newChatId)
  | none, some oldChatId => some (oldChatId, chatId)
  | none, none => none

/-- Subscribe a chat to the node operators that its data has. -/
def repair (app : Application) (chatId : ℤ) : Application :=
  match app.chatData.get? chatId with
  | none => app
  | some data =>
      { app with bot := { app.bot with
          nodeOperatorChats := (data.ids.sort (· ≤ ·)).foldl
            (fun chats id => chats.subscribe id chatId) app.bot.nodeOperatorChats } }

/-- Replace a chat id by another one. -/
def migrate (app : Application) (oldChatId newChatId : ℤ) : Application :=
  let app := migrateChatSubscriptions app oldChatId newChatId
  repair { app with bot := app.bot.migrateChatId oldChatId newChatId } newChatId

/-- Handle a message about a migration. -/
def chatMigration (app : Application) (chatId : ℤ) (migrateTo migrateFrom : Option ℤ) :
    Application :=
  match migrationIds chatId migrateTo migrateFrom with
  | none => app
  | some (oldChatId, newChatId) => migrate app oldChatId newChatId

/-! ### Sequences of updates -/

/-- An update that changes the subscriptions. -/
inductive Update where
  | followText (chatId : ℤ) (text : String) (count : String → Option ℤ)
  | followButton (chatId : ℤ) (data : String) (count : String → Option ℤ)
  | unfollowText (chatId : ℤ) (text : String)
  | unfollowButton (chatId : ℤ) (data : String)
  | migration (chatId : ℤ) (migrateTo migrateFrom : Option ℤ)
  /-- another update, which may make data for its chat -/
  | other (chatId : ℤ)

/-- A message about a migration is about two chats. -/
def Update.Proper : Update → Prop
  | .migration chatId migrateTo migrateFrom =>
      ∀ ids ∈ migrationIds chatId migrateTo migrateFrom, ids.1 ≠ ids.2
  | _ => True

/-- The application after an update. A handler that raises changes nothing. -/
def handle (texts : Texts) (app : Application) : Update → Application
  | .followText chatId text count =>
      ((followNodeOperatorMessage texts count app chatId text).map Prod.snd).getD app
  | .followButton chatId data count =>
      ((followNodeOperatorButton texts count app chatId data).map Prod.snd).getD app
  | .unfollowText chatId text => (unfollowNodeOperatorMessage texts app chatId text).2
  | .unfollowButton chatId data => (unfollowNodeOperatorButton texts app chatId data).2
  | .migration chatId migrateTo migrateFrom => chatMigration app chatId migrateTo migrateFrom
  | .other chatId => app.touch chatId

/-! ### The two indexes -/

/-- A chat follows a node operator exactly when it is one of the chats of the node operator. -/
def Agree (app : Application) : Prop :=
  ∀ chatId nodeOperatorId, nodeOperatorId ∈ (app.subscriptions chatId).ids
    ↔ chatId ∈ app.bot.nodeOperatorChats.chatsFor nodeOperatorId

theorem agree_empty :
  Agree .empty
  := by
  intro chatId nodeOperatorId
  simp [Application.subscriptions, Application.empty, NodeOperatorChats.chatsFor,
    NodeOperatorSubscriptions.empty]

theorem Agree.touch {app : Application} (h : Agree app) (chatId : ℤ) :
  Agree (app.touch chatId)
  := by
  intro c n
  rw [Application.subscriptions_touch, Application.bot_touch]
  apply h c n

theorem Agree.followOne {app : Application} (h : Agree app) (chatId : ℤ)
    (nodeOperatorId : String) :
  Agree (followOne chatId app nodeOperatorId)
  := by
  intro c n
  rw [Handlers.followOne, Application.subscriptions_setSubscriptions]
  simp only [Application.bot_setSubscriptions, NodeOperatorChats.mem_chatsFor_subscribe]
  split
  next heq =>
      subst heq
      rw [NodeOperatorSubscriptions.mem_ids_follow, h c n]
      tauto
  next hne =>
      have hsame := h c n
      simp only [hne, and_false, false_or]
      apply hsame

theorem Agree.unfollowOne {app : Application} (h : Agree app) (chatId : ℤ)
    (nodeOperatorId : String) :
  Agree (unfollowOne chatId app nodeOperatorId)
  := by
  intro c n
  change n ∈ ((app.setSubscriptions chatId _).subscriptions c).ids ↔ _
  rw [Application.subscriptions_setSubscriptions]
  simp only [Handlers.unfollowOne, Application.bot_setSubscriptions,
    NodeOperatorChats.mem_chatsFor_unsubscribe]
  split
  next heq =>
      subst heq
      rw [NodeOperatorSubscriptions.mem_ids_unfollow, h c n]
      tauto
  next hne =>
      rw [h c n]
      tauto

/-- What is kept for each node operator of a list is kept for the list. -/
theorem agree_foldl {f : Application → String → Application}
    (hf : ∀ app id, Agree app → Agree (f app id)) {app : Application} (h : Agree app)
    (ids : List String) :
  Agree (ids.foldl f app)
  := by
  induction ids generalizing app with
  | nil => apply h
  | cons id ids ih => apply ih (hf app id h)

/-! ### The handlers keep the indexes -/

theorem Agree.followNodeOperatorMessage {app : Application} (h : Agree app) {texts : Texts}
    {count : String → Option ℤ} {chatId : ℤ} {text : String} {result : String × Application}
    (hresult : followNodeOperatorMessage texts count app chatId text = some result) :
  Agree result.2
  := by
  rw [Handlers.followNodeOperatorMessage] at hresult
  split at hresult
  · obtain rfl := Option.some.inj hresult
    apply h
  · obtain ⟨⟨validIds, invalidIds⟩, -, hresult⟩ := Option.bind_eq_some_iff.mp hresult
    simp only at hresult
    split at hresult <;> obtain rfl := Option.some.inj hresult
    · apply h.followOne
    · apply agree_foldl (fun app id happ => happ.followOne chatId id) h
    · apply h
    · apply h

theorem Agree.followNodeOperatorButton {app : Application} (h : Agree app) {texts : Texts}
    {count : String → Option ℤ} {chatId : ℤ} {data : String} {result : String × Application}
    (hresult : followNodeOperatorButton texts count app chatId data = some result) :
  Agree result.2
  := by
  obtain ⟨⟨validIds, invalidIds⟩, -, hresult⟩ := Option.bind_eq_some_iff.mp hresult
  simp only at hresult
  split at hresult <;> obtain rfl := Option.some.inj hresult
  · apply h.followOne
  · apply h

theorem Agree.unfollowNodeOperatorMessage {app : Application} (h : Agree app) (texts : Texts)
    (chatId : ℤ) (text : String) :
  Agree (unfollowNodeOperatorMessage texts app chatId text).2
  := by
  rw [Handlers.unfollowNodeOperatorMessage]
  split
  · apply h
  · have htouch := h.touch chatId
    simp only
    split
    · apply htouch.unfollowOne
    · apply agree_foldl (fun app id happ => happ.unfollowOne chatId id) htouch
    · apply htouch
    · apply htouch

theorem Agree.unfollowNodeOperatorButton {app : Application} (h : Agree app) (texts : Texts)
    (chatId : ℤ) (data : String) :
  Agree (unfollowNodeOperatorButton texts app chatId data).2
  := by
  have htouch := h.touch chatId
  rw [Handlers.unfollowNodeOperatorButton]
  split
  · apply htouch.unfollowOne
  · apply htouch

/-! ### The migration keeps the indexes -/

/-- After the data of a chat is moved, the old chat follows nothing, the new one what any of
the two did. -/
theorem mem_ids_migrateChatSubscriptions {app : Application} {oldId newId c : ℤ}
    (h : oldId ≠ newId) {n : String} :
  n ∈ ((migrateChatSubscriptions app oldId newId).subscriptions c).ids
    ↔ c ≠ oldId ∧ (n ∈ (app.subscriptions c).ids
      ∨ c = newId ∧ n ∈ (app.subscriptions oldId).ids)
  := by
  simp only [migrateChatSubscriptions, Application.subscriptions, Dict.getD]
  cases hold : app.chatData.get? oldId with
  | none =>
      have hempty : n ∉ NodeOperatorSubscriptions.empty.ids := by
        simp [NodeOperatorSubscriptions.empty]
      by_cases hc : c = oldId
      · subst hc
        simp [hold, hempty]
      · simp [hc, hempty]
  | some oldData =>
      cases hnew : app.chatData.get? newId with
      | none =>
          simp only [Dict.get?_erase, Dict.get?_set]
          by_cases hc : c = oldId
          · simp [hc, NodeOperatorSubscriptions.empty]
          · by_cases hc' : c = newId
            · subst hc'
              simp [hc, hnew, NodeOperatorSubscriptions.empty]
            · simp [hc, hc']
      | some newData =>
          simp only [Dict.get?_erase, Dict.get?_set]
          by_cases hc : c = oldId
          · simp [hc, NodeOperatorSubscriptions.empty]
          · by_cases hc' : c = newId
            · subst hc'
              simp [hc, hnew, NodeOperatorSubscriptions.mem_ids_foldl_follow, or_comm]
            · simp [hc, hc']

theorem bot_migrateChatSubscriptions (app : Application) (oldId newId : ℤ) :
  (migrateChatSubscriptions app oldId newId).bot = app.bot
  := by
  rw [migrateChatSubscriptions]
  split <;> rfl

/-- Subscribing a chat to what it follows. -/
theorem mem_chatsFor_repair {app : Application} {chatId c : ℤ} {n : String} :
  c ∈ (repair app chatId).bot.nodeOperatorChats.chatsFor n
    ↔ c = chatId ∧ n ∈ (app.subscriptions chatId).ids
      ∨ c ∈ app.bot.nodeOperatorChats.chatsFor n
  := by
  rw [repair, Application.subscriptions, Dict.getD]
  cases hget : app.chatData.get? chatId with
  | none => simp [NodeOperatorSubscriptions.empty]
  | some data =>
      simp only [NodeOperatorChats.mem_chatsFor_foldl_subscribe, Finset.mem_sort,
        Option.getD_some]
      tauto

theorem subscriptions_repair (app : Application) (chatId c : ℤ) :
  (repair app chatId).subscriptions c = app.subscriptions c
  := by
  rw [repair]
  split <;> rfl

/-- Migrating a chat keeps the indexes. -/
theorem Agree.migrate {app : Application} (h : Agree app) {oldId newId : ℤ}
    (hne : oldId ≠ newId) :
  Agree (migrate app oldId newId)
  := by
  intro c n
  have hsubscriptions : ∀ c', n ∈ ((migrateChatSubscriptions app oldId newId).subscriptions c').ids
      ↔ c' ≠ oldId ∧ (n ∈ (app.subscriptions c').ids
        ∨ c' = newId ∧ n ∈ (app.subscriptions oldId).ids) :=
    fun c' => mem_ids_migrateChatSubscriptions hne
  rw [Handlers.migrate, subscriptions_repair, mem_chatsFor_repair]
  simp only [BotStorage.migrateChatId, NodeOperatorChats.mem_chatsFor_migrateChatId hne,
    bot_migrateChatSubscriptions]
  change n ∈ ((migrateChatSubscriptions app oldId newId).subscriptions c).ids ↔
    c = newId ∧ n ∈ ((migrateChatSubscriptions app oldId newId).subscriptions newId).ids ∨ _
  rw [hsubscriptions, hsubscriptions, h c n, h newId n, h oldId n]
  constructor
  · rintro ⟨hold, hmem⟩
    apply Or.inr ⟨hold, hmem⟩
  · rintro (⟨rfl, hold, hmem | ⟨-, hmem⟩⟩ | hmem)
    · use hold, Or.inl hmem
    · use hold, Or.inr ⟨rfl, hmem⟩
    · apply hmem

/-- An update keeps the indexes. -/
theorem Agree.handle {app : Application} (h : Agree app) (texts : Texts) {update : Update}
    (hproper : update.Proper) :
  Agree (handle texts app update)
  := by
  cases update with
  | followText chatId text count =>
      rw [Handlers.handle]
      cases hresult : Handlers.followNodeOperatorMessage texts count app chatId text with
      | none => apply h
      | some result => apply h.followNodeOperatorMessage hresult
  | followButton chatId data count =>
      rw [Handlers.handle]
      cases hresult : Handlers.followNodeOperatorButton texts count app chatId data with
      | none => apply h
      | some result => apply h.followNodeOperatorButton hresult
  | unfollowText chatId text => apply h.unfollowNodeOperatorMessage
  | unfollowButton chatId data => apply h.unfollowNodeOperatorButton
  | migration chatId migrateTo migrateFrom =>
      rw [Handlers.handle, chatMigration]
      cases hids : migrationIds chatId migrateTo migrateFrom with
      | none => apply h
      | some ids => apply h.migrate (hproper ids hids)
  | other chatId => apply h.touch

/-- The subscriptions of the chats and the chats of the node operators agree after every
sequence of updates. -/
theorem agree_foldl_handle (texts : Texts) (updates : List Update)
    (hproper : ∀ update ∈ updates, update.Proper) :
  Agree (updates.foldl (handle texts) .empty)
  := by
  induction updates using List.reverseRecOn with
  | nil => apply agree_empty
  | append_singleton updates update ih =>
      rw [List.foldl_append]
      apply Agree.handle
      · apply ih
        intro update' hmem
        apply hproper update' (List.mem_append_left _ hmem)
      · apply hproper update (List.mem_append_right _ List.mem_cons_self)

/-- A chat follows a node operator and is migrated. -/
def followAndMigrate : List Update :=
  [.followButton 1 "follow_no:7" fun _ => some 10, .migration 1 (some 2) none]

theorem agree_followAndMigrate :
  Agree (followAndMigrate.foldl (handle ⟨"", fun id => id, "", fun id => id⟩) .empty)
  := by
  apply agree_foldl_handle
  simp [followAndMigrate, Update.Proper, migrationIds]

end Handlers

end Sentinel
