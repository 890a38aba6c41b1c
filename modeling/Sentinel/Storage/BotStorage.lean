import Sentinel.Dict
import Mathlib.Data.Finset.Basic
import Mathlib.Data.Finset.Insert
import Mathlib.Data.Finset.Union
import Mathlib.Data.Int.Notation
import Mathlib.Tactic.Tauto

/-!
# Chat ids and node operator subscriptions

The bot keeps the ids of its chats in three sets, and for each node operator the set of the
chats that follow it. Each chat keeps the node operators it follows in its own data.
-/

namespace Sentinel

/-! ### Chat ids -/

/-- Replace a chat id in a set of chat ids. -/
def migrateChat (oldId newId : ℤ) (chats : Finset ℤ) : Finset ℤ :=
  if oldId ∈ chats then insert newId (chats.erase oldId) else chats

/-- A replaced chat id is not in the set, the new one is in it when the old one was. -/
theorem mem_migrateChat {oldId newId c : ℤ} (h : oldId ≠ newId) {chats : Finset ℤ} :
  c ∈ migrateChat oldId newId chats
    ↔ c ≠ oldId ∧ (c ∈ chats ∨ c = newId ∧ oldId ∈ chats)
  := by
  rw [migrateChat]
  split
  next hold =>
      rw [Finset.mem_insert, Finset.mem_erase]
      constructor
      · rintro (rfl | ⟨hne, hmem⟩)
        · use h.symm, Or.inr ⟨rfl, hold⟩
        · use hne, Or.inl hmem
      · rintro ⟨hne, hmem | ⟨hnew, -⟩⟩
        · apply Or.inr ⟨hne, hmem⟩
        · apply Or.inl hnew
  next hold =>
      constructor
      · intro hmem
        use fun heq => hold (heq ▸ hmem), Or.inl hmem
      · rintro ⟨-, hmem | ⟨-, hmem⟩⟩
        · apply hmem
        · apply absurd hmem hold

/-- A set of chat ids of the bot. -/
structure ChatIdSet where
  values : Finset ℤ
deriving DecidableEq

namespace ChatIdSet

def add (set : ChatIdSet) (chatId : ℤ) : ChatIdSet where
  values := insert chatId set.values

def remove (set : ChatIdSet) (chatId : ℤ) : ChatIdSet where
  values := set.values.erase chatId

/-- Replace a chat id by another one. -/
def migrateChatId (set : ChatIdSet) (oldId newId : ℤ) : ChatIdSet where
  values := if oldId = newId then set.values else migrateChat oldId newId set.values

end ChatIdSet

/-! ### The chats of a node operator -/

/-- The chats that follow each node operator. -/
structure NodeOperatorChats where
  mapping : Dict String (Finset ℤ)

namespace NodeOperatorChats

/-- The chats that follow a node operator. -/
def chatsFor (chats : NodeOperatorChats) (nodeOperatorId : String) : Finset ℤ :=
  chats.mapping.getD nodeOperatorId ∅

def subscribe (chats : NodeOperatorChats) (nodeOperatorId : String) (chatId : ℤ) :
    NodeOperatorChats where
  mapping := chats.mapping.set nodeOperatorId (insert chatId (chats.chatsFor nodeOperatorId))

/-- Remove a chat from a node operator. The set of a node operator is kept when it becomes
empty. -/
def unsubscribe (chats : NodeOperatorChats) (nodeOperatorId : String) (chatId : ℤ) :
    NodeOperatorChats where
  mapping :=
    match chats.mapping.get? nodeOperatorId with
    | none => chats.mapping
    | some values => chats.mapping.set nodeOperatorId (values.erase chatId)

/-- Replace a chat id by another one at every node operator. -/
def migrateChatId (chats : NodeOperatorChats) (oldId newId : ℤ) : NodeOperatorChats where
  mapping :=
    if oldId = newId then chats.mapping else chats.mapping.mapValues (migrateChat oldId newId)

theorem mem_chatsFor_subscribe {chats : NodeOperatorChats} {n n' : String} {c c' : ℤ} :
  c' ∈ (chats.subscribe n c).chatsFor n' ↔ n' = n ∧ c' = c ∨ c' ∈ chats.chatsFor n'
  := by
  rw [chatsFor, subscribe, Dict.getD, Dict.get?_set]
  split
  next heq =>
      subst heq
      simp
  next hne => simp [hne, chatsFor, Dict.getD]

/-- Subscribing a chat to a list of node operators. -/
theorem mem_chatsFor_foldl_subscribe {chats : NodeOperatorChats} {ids : List String}
    {n : String} {c c' : ℤ} :
  c' ∈ (ids.foldl (fun chats id => chats.subscribe id c) chats).chatsFor n
    ↔ n ∈ ids ∧ c' = c ∨ c' ∈ chats.chatsFor n
  := by
  induction ids generalizing chats with
  | nil => simp
  | cons id ids ih =>
      rw [List.foldl_cons, ih, mem_chatsFor_subscribe, List.mem_cons]
      tauto

theorem mem_chatsFor_unsubscribe {chats : NodeOperatorChats} {n n' : String} {c c' : ℤ} :
  c' ∈ (chats.unsubscribe n c).chatsFor n' ↔ ¬ (n' = n ∧ c' = c) ∧ c' ∈ chats.chatsFor n'
  := by
  simp only [chatsFor, unsubscribe, Dict.getD]
  cases hget : chats.mapping.get? n with
  | none =>
      constructor
      · intro hmem
        constructor
        · rintro ⟨rfl, -⟩
          simp [hget] at hmem
        · apply hmem
      · rintro ⟨-, hmem⟩
        apply hmem
  | some values =>
      rw [Dict.get?_set]
      split
      next heq =>
          subst heq
          simp [hget]
      next hne => simp [hne]

theorem mem_chatsFor_migrateChatId {chats : NodeOperatorChats} {oldId newId c : ℤ}
    (h : oldId ≠ newId) {n : String} :
  c ∈ (chats.migrateChatId oldId newId).chatsFor n
    ↔ c ≠ oldId ∧ (c ∈ chats.chatsFor n ∨ c = newId ∧ oldId ∈ chats.chatsFor n)
  := by
  rw [chatsFor, migrateChatId, if_neg h, Dict.getD, Dict.get?_mapValues, chatsFor, Dict.getD]
  cases chats.mapping.get? n with
  | none => simp
  | some values =>
      rw [Option.map_some, Option.getD_some, Option.getD_some, mem_migrateChat h]

end NodeOperatorChats

/-! ### The storage of the bot -/

/-- The chats of the bot and what they follow. -/
structure BotStorage where
  users : ChatIdSet
  groups : ChatIdSet
  channels : ChatIdSet
  nodeOperatorChats : NodeOperatorChats

/-- Replace a chat id by another one in every index. -/
def BotStorage.migrateChatId (storage : BotStorage) (oldId newId : ℤ) : BotStorage where
  users := storage.users.migrateChatId oldId newId
  groups := storage.groups.migrateChatId oldId newId
  channels := storage.channels.migrateChatId oldId newId
  nodeOperatorChats := storage.nodeOperatorChats.migrateChatId oldId newId

/-! ### Followers -/

/-- The node operators with a set of chats. -/
def NodeOperatorChats.ids (chats : NodeOperatorChats) : Finset String :=
  chats.mapping.keys.toFinset

/-- The chats that follow one of some node operators, of those that there are. -/
def NodeOperatorChats.resolveTargets (chats : NodeOperatorChats) (nodeOperatorIds : Finset String)
    (actualChatIds : Finset ℤ) : Finset ℤ :=
  nodeOperatorIds.biUnion chats.chatsFor ∩ actualChatIds

def BotStorage.actualChatIds (storage : BotStorage) : Finset ℤ :=
  storage.users.values ∪ (storage.groups.values ∪ storage.channels.values)

def BotStorage.resolveTargetChats (storage : BotStorage) (nodeOperatorIds : Finset String) :
    Finset ℤ :=
  storage.nodeOperatorChats.resolveTargets nodeOperatorIds storage.actualChatIds

/-- An active chat that follows a node operator. -/
def BotStorage.ActiveFollower (storage : BotStorage) (nodeOperatorId : String) (chatId : ℤ) :
    Prop :=
  chatId ∈ storage.actualChatIds ∧ chatId ∈ storage.nodeOperatorChats.chatsFor nodeOperatorId

instance (storage : BotStorage) (nodeOperatorId : String) (chatId : ℤ) :
    Decidable (storage.ActiveFollower nodeOperatorId chatId) :=
  inferInstanceAs (Decidable (_ ∧ _))

/-- A storage with one chat, which follows one node operator. -/
def BotStorage.follower (id : String) : BotStorage where
  users := ⟨{1}⟩
  groups := ⟨∅⟩
  channels := ⟨∅⟩
  nodeOperatorChats := NodeOperatorChats.subscribe ⟨.empty⟩ id 1

theorem BotStorage.activeFollower_follower {id id' : String} {c : ℤ} :
  (follower id).ActiveFollower id' c ↔ c = 1 ∧ id' = id
  := by
  have hactual : c ∈ (follower id).actualChatIds ↔ c = 1 := by
    simp [follower, BotStorage.actualChatIds]
  have hchats : c ∈ (follower id).nodeOperatorChats.chatsFor id' ↔ id' = id ∧ c = 1 := by
    rw [follower, NodeOperatorChats.mem_chatsFor_subscribe]
    simp [NodeOperatorChats.chatsFor]
  rw [BotStorage.ActiveFollower, hactual, hchats]
  tauto

/-- The targets are the active followers of the node operators. -/
theorem BotStorage.mem_resolveTargetChats {storage : BotStorage}
    {nodeOperatorIds : Finset String} {chatId : ℤ} :
  chatId ∈ storage.resolveTargetChats nodeOperatorIds
    ↔ ∃ id ∈ nodeOperatorIds, storage.ActiveFollower id chatId
  := by
  rw [resolveTargetChats, NodeOperatorChats.resolveTargets, Finset.mem_inter, Finset.mem_biUnion]
  constructor
  · rintro ⟨⟨id, hid, hfollows⟩, hactual⟩
    use id, hid, hactual
  · rintro ⟨id, hid, hactual, hfollows⟩
    use ⟨id, hid, hfollows⟩

/-- The targets of all node operators are the active followers of any. -/
theorem BotStorage.mem_resolveTargetChats_ids {storage : BotStorage} {chatId : ℤ} :
  chatId ∈ storage.resolveTargetChats storage.nodeOperatorChats.ids
    ↔ ∃ id, storage.ActiveFollower id chatId
  := by
  rw [mem_resolveTargetChats]
  constructor
  · rintro ⟨id, -, hfollower⟩
    use id
  · rintro ⟨id, hfollower⟩
    refine ⟨id, ?_, hfollower⟩
    rw [NodeOperatorChats.ids, List.mem_toFinset]
    by_contra hid
    have hchats : storage.nodeOperatorChats.chatsFor id = ∅ := by
      rw [NodeOperatorChats.chatsFor, Dict.getD, Dict.get?_eq_none_iff.mpr]
      · rfl
      · intro chats hchats
        apply hid (List.mem_map_of_mem hchats)
    have hmem := hfollower.2
    rw [hchats] at hmem
    contradiction

/-! ### The subscriptions of a chat -/

/-- The node operators that a chat follows. -/
structure NodeOperatorSubscriptions where
  ids : Finset String
deriving DecidableEq

namespace NodeOperatorSubscriptions

/-- The subscriptions of a chat without data. -/
def empty : NodeOperatorSubscriptions where
  ids := ∅

def follow (subscriptions : NodeOperatorSubscriptions) (nodeOperatorId : String) :
    NodeOperatorSubscriptions where
  ids := insert nodeOperatorId subscriptions.ids

/-- The subscriptions without a node operator, and whether the chat followed it. -/
def unfollow (subscriptions : NodeOperatorSubscriptions) (nodeOperatorId : String) :
    Bool × NodeOperatorSubscriptions :=
  if nodeOperatorId ∈ subscriptions.ids then
    (true, ⟨subscriptions.ids.erase nodeOperatorId⟩)
  else (false, subscriptions)

theorem mem_ids_follow {subscriptions : NodeOperatorSubscriptions} {n n' : String} :
  n' ∈ (subscriptions.follow n).ids ↔ n' = n ∨ n' ∈ subscriptions.ids
  := Finset.mem_insert

theorem mem_ids_unfollow {subscriptions : NodeOperatorSubscriptions} {n n' : String} :
  n' ∈ (subscriptions.unfollow n).2.ids ↔ n' ≠ n ∧ n' ∈ subscriptions.ids
  := by
  rw [unfollow]
  split
  next => apply Finset.mem_erase
  next hn =>
      constructor
      · intro hmem
        use fun heq => hn (heq ▸ hmem), hmem
      · rintro ⟨-, hmem⟩
        apply hmem

/-- Following a list of node operators. -/
theorem mem_ids_foldl_follow {subscriptions : NodeOperatorSubscriptions} {ids : List String}
    {n : String} :
  n ∈ (ids.foldl follow subscriptions).ids ↔ n ∈ ids ∨ n ∈ subscriptions.ids
  := by
  induction ids generalizing subscriptions with
  | nil => simp
  | cons id ids ih =>
      rw [List.foldl_cons, ih, mem_ids_follow, List.mem_cons]
      tauto

end NodeOperatorSubscriptions

/-! ### The data of the application -/

/-- The data of the chats and of the bot. -/
structure Application where
  chatData : Dict ℤ NodeOperatorSubscriptions
  bot : BotStorage

namespace Application

/-- The application before its first update. -/
def empty : Application where
  chatData := .empty
  bot := ⟨⟨∅⟩, ⟨∅⟩, ⟨∅⟩, ⟨.empty⟩⟩

/-- The node operators that a chat follows, none for a chat without data. -/
def subscriptions (app : Application) (chatId : ℤ) : NodeOperatorSubscriptions :=
  app.chatData.getD chatId .empty

/-- Set the subscriptions of a chat. -/
def setSubscriptions (app : Application) (chatId : ℤ)
    (subscriptions : NodeOperatorSubscriptions) : Application :=
  { app with chatData := app.chatData.set chatId subscriptions }

/-- The application with data for a chat. -/
def touch (app : Application) (chatId : ℤ) : Application :=
  app.setSubscriptions chatId (app.subscriptions chatId)

@[simp]
theorem bot_setSubscriptions (app : Application) (c : ℤ) (ids : NodeOperatorSubscriptions) :
  (app.setSubscriptions c ids).bot = app.bot
  := rfl

theorem subscriptions_setSubscriptions (app : Application) (c c' : ℤ)
    (ids : NodeOperatorSubscriptions) :
  (app.setSubscriptions c ids).subscriptions c' = if c' = c then ids else app.subscriptions c'
  := by
  rw [subscriptions, setSubscriptions, Dict.getD, Dict.get?_set]
  split <;> rfl

@[simp]
theorem subscriptions_touch (app : Application) (c c' : ℤ) :
  (app.touch c).subscriptions c' = app.subscriptions c'
  := by
  rw [touch, subscriptions_setSubscriptions]
  split
  next heq => rw [heq]
  next => rfl

@[simp]
theorem bot_touch (app : Application) (c : ℤ) :
  (app.touch c).bot = app.bot
  := rfl

end Application

end Sentinel
