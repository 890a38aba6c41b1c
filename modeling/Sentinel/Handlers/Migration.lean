import Sentinel.Handlers.Subscriptions

/-!
# The messages about a migration

A migration of a chat is announced in the old chat and in the new one, each any number of times
and in any order. The first message moves everything, and the ones after it change nothing, also
when the new chat has changed its subscriptions in between.
-/

namespace Sentinel

namespace Handlers

/-- Whether an update is a message about the migration of a chat to another chat id. -/
def Update.IsMigration (oldId newId : ℤ) : Update → Prop
  | .migration chatId migrateTo migrateFrom =>
      migrationIds chatId migrateTo migrateFrom = some (oldId, newId)
  | _ => False

/-- Whether an update is about the subscriptions of a chat other than this one. -/
def Update.IsFromOther (oldId : ℤ) : Update → Prop
  | .followText chatId _ _ | .followButton chatId _ _ | .unfollowText chatId _
  | .unfollowButton chatId _ | .other chatId => chatId ≠ oldId
  | .migration _ _ _ => False

/-- A message about a migration migrates the chat. -/
theorem handle_of_isMigration {oldId newId : ℤ} {update : Update}
    (h : update.IsMigration oldId newId) (texts : Texts) (app : Application) :
  handle texts app update = migrate app oldId newId
  := by
  cases update with
  | migration chatId migrateTo migrateFrom =>
      have hids : migrationIds chatId migrateTo migrateFrom = some (oldId, newId) := h
      rw [handle, chatMigration, hids]
  | _ => cases h

/-! ### What is not changed -/

/-- The data of a chat and the sets of chats are the same. -/
structure Frame (chatId : ℤ) (app app' : Application) : Prop where
  chatData : app'.chatData.get? chatId = app.chatData.get? chatId
  users : app'.bot.users = app.bot.users
  groups : app'.bot.groups = app.bot.groups
  channels : app'.bot.channels = app.bot.channels

theorem Frame.refl (chatId : ℤ) (app : Application) :
  Frame chatId app app
  := ⟨rfl, rfl, rfl, rfl⟩

theorem Frame.trans {chatId : ℤ} {app app' app'' : Application} (h : Frame chatId app app')
    (h' : Frame chatId app' app'') :
  Frame chatId app app''
  where
  chatData := h'.chatData.trans h.chatData
  users := h'.users.trans h.users
  groups := h'.groups.trans h.groups
  channels := h'.channels.trans h.channels

/-- The data of another chat is set. -/
theorem Frame.setSubscriptions {chatId c : ℤ} (h : c ≠ chatId) (app : Application)
    (subscriptions : NodeOperatorSubscriptions) :
  Frame chatId app (app.setSubscriptions c subscriptions)
  where
  chatData := Dict.get?_set_of_ne app.chatData subscriptions h.symm
  users := rfl
  groups := rfl
  channels := rfl

theorem Frame.followOne {chatId c : ℤ} (h : c ≠ chatId) (app : Application) (id : String) :
  Frame chatId app (followOne c app id)
  where
  chatData := Dict.get?_set_of_ne app.chatData _ h.symm
  users := rfl
  groups := rfl
  channels := rfl

theorem Frame.unfollowOne {chatId c : ℤ} (h : c ≠ chatId) (app : Application) (id : String) :
  Frame chatId app (unfollowOne c app id)
  where
  chatData := Dict.get?_set_of_ne app.chatData _ h.symm
  users := rfl
  groups := rfl
  channels := rfl

/-- What no step for an operator changes is not changed by the steps for a list. -/
theorem Frame.foldl {chatId : ℤ} {f : Application → String → Application}
    (hf : ∀ app id, Frame chatId app (f app id)) (app : Application) (ids : List String) :
  Frame chatId app (ids.foldl f app)
  := by
  induction ids generalizing app with
  | nil => apply Frame.refl
  | cons id ids ih => apply (hf app id).trans (ih (f app id))

/-- An update of another chat changes neither the data of a chat nor the sets of chats. -/
theorem frame_of_isFromOther {oldId : ℤ} {update : Update} (h : update.IsFromOther oldId)
    (texts : Texts) (app : Application) :
  Frame oldId app (handle texts app update)
  := by
  cases update with
  | followText c text count =>
      rw [handle]
      cases hresult : followNodeOperatorMessage texts count app c text with
      | none => apply Frame.refl
      | some result =>
          rw [followNodeOperatorMessage] at hresult
          split at hresult
          · obtain rfl := Option.some.inj hresult
            apply Frame.refl
          · obtain ⟨⟨validIds, invalidIds⟩, -, hresult⟩ := Option.bind_eq_some_iff.mp hresult
            simp only at hresult
            split at hresult <;> obtain rfl := Option.some.inj hresult
            · apply Frame.followOne h
            · apply Frame.foldl fun app id => Frame.followOne h app id
            · apply Frame.refl
            · apply Frame.refl
  | followButton c data count =>
      rw [handle]
      cases hresult : followNodeOperatorButton texts count app c data with
      | none => apply Frame.refl
      | some result =>
          obtain ⟨⟨validIds, invalidIds⟩, -, hresult⟩ := Option.bind_eq_some_iff.mp hresult
          simp only at hresult
          split at hresult <;> obtain rfl := Option.some.inj hresult
          · apply Frame.followOne h
          · apply Frame.refl
  | unfollowText c text =>
      rw [handle, unfollowNodeOperatorMessage]
      split
      · apply Frame.refl
      · have htouch : Frame oldId app (app.touch c) := Frame.setSubscriptions h app _
        apply htouch.trans
        simp only
        split
        · apply Frame.unfollowOne h
        · apply Frame.foldl fun app id => Frame.unfollowOne h app id
        · apply Frame.refl
        · apply Frame.refl
  | unfollowButton c data =>
      rw [handle, unfollowNodeOperatorButton]
      have htouch : Frame oldId app (app.touch c) := Frame.setSubscriptions h app _
      apply htouch.trans
      split
      · apply Frame.unfollowOne h
      · apply Frame.refl
  | migration => cases h
  | other c => apply Frame.setSubscriptions h

/-! ### A migrated chat -/

/-- The indexes agree, and a chat is in none of them. -/
structure Gone (chatId : ℤ) (app : Application) : Prop where
  agree : Agree app
  chatData : app.chatData.get? chatId = none
  users : chatId ∉ app.bot.users.values
  groups : chatId ∉ app.bot.groups.values
  channels : chatId ∉ app.bot.channels.values

/-- A chat that is gone is not a chat of any node operator. -/
theorem Gone.notMem_chatsFor {chatId : ℤ} {app : Application} (h : Gone chatId app)
    (nodeOperatorId : String) :
  chatId ∉ app.bot.nodeOperatorChats.chatsFor nodeOperatorId
  := by
  rw [← h.agree chatId nodeOperatorId, Application.subscriptions, Dict.getD, h.chatData]
  apply Finset.notMem_empty

/-- A chat that is gone stays so when other chats change their subscriptions. -/
theorem Gone.handle {oldId : ℤ} {app : Application} (h : Gone oldId app) (texts : Texts)
    {update : Update} (hupdate : update.IsFromOther oldId) :
  Gone oldId (handle texts app update)
  := by
  have hframe := frame_of_isFromOther hupdate texts app
  constructor
  · apply h.agree.handle
    cases update with
    | migration => cases hupdate
    | _ => trivial
  · rw [hframe.chatData, h.chatData]
  · rw [hframe.users]
    apply h.users
  · rw [hframe.groups]
    apply h.groups
  · rw [hframe.channels]
    apply h.channels

theorem migrateChat_of_notMem {oldId newId : ℤ} {chats : Finset ℤ} (h : oldId ∉ chats) :
  migrateChat oldId newId chats = chats
  := if_neg h

theorem ChatIdSet.migrateChatId_of_notMem {oldId newId : ℤ} {set : ChatIdSet}
    (h : oldId ∉ set.values) :
  set.migrateChatId oldId newId = set
  := by
  rw [ChatIdSet.migrateChatId, migrateChat_of_notMem h, ite_self]

/-- Migrating a chat that is gone changes no index of the bot. -/
theorem Gone.migrateChatId {oldId newId : ℤ} {app : Application} (h : Gone oldId app) :
  app.bot.migrateChatId oldId newId = app.bot
  := by
  have hmapping : app.bot.nodeOperatorChats.mapping.mapValues (migrateChat oldId newId)
      = app.bot.nodeOperatorChats.mapping := by
    apply Dict.mapValues_eq_self
    intro item hitem
    apply migrateChat_of_notMem
    have hchats : app.bot.nodeOperatorChats.chatsFor item.1 = item.2 := by
      rw [NodeOperatorChats.chatsFor, Dict.getD, Dict.get?_eq_some_iff.mpr hitem, Option.getD_some]
    rw [← hchats]
    apply h.notMem_chatsFor
  rw [BotStorage.migrateChatId, ChatIdSet.migrateChatId_of_notMem h.users,
    ChatIdSet.migrateChatId_of_notMem h.groups, ChatIdSet.migrateChatId_of_notMem h.channels,
    NodeOperatorChats.migrateChatId, hmapping, ite_self]

/-- Subscribing a chat to a node operator that it follows. -/
theorem subscribe_of_mem {chats : NodeOperatorChats} {id : String} {chatId : ℤ}
    (h : chatId ∈ chats.chatsFor id) :
  chats.subscribe id chatId = chats
  := by
  have hget : chats.mapping.get? id = some (chats.chatsFor id) := by
    rw [NodeOperatorChats.chatsFor, Dict.getD] at h ⊢
    cases hget : chats.mapping.get? id with
    | none => simp [hget] at h
    | some values => rfl
  rw [NodeOperatorChats.subscribe, Finset.insert_eq_of_mem h, Dict.set_eq_self hget]

/-- With agreeing indexes there is nothing to repair. -/
theorem Agree.repair_eq {app : Application} (h : Agree app) (chatId : ℤ) :
  repair app chatId = app
  := by
  rw [repair]
  split
  next => rfl
  next data hdata =>
      have hids : ∀ id ∈ data.ids.sort (· ≤ ·),
          chatId ∈ app.bot.nodeOperatorChats.chatsFor id := by
        intro id hid
        apply (h chatId id).mp
        rw [Application.subscriptions, Dict.getD, hdata, Option.getD_some]
        apply (Finset.mem_sort _).mp hid
      have hchats : (data.ids.sort (· ≤ ·)).foldl (fun chats id => chats.subscribe id chatId)
          app.bot.nodeOperatorChats = app.bot.nodeOperatorChats := by
        revert hids
        induction data.ids.sort (· ≤ ·) with
        | nil => exact fun _ => rfl
        | cons id ids ih =>
            intro hids
            rw [List.foldl_cons, subscribe_of_mem (hids id List.mem_cons_self)]
            apply ih fun id' hid' => hids id' (List.mem_cons_of_mem _ hid')
      rw [hchats]

/-- Migrating a chat that is gone changes nothing. -/
theorem Gone.migrate_eq {oldId newId : ℤ} {app : Application} (h : Gone oldId app) :
  migrate app oldId newId = app
  := by
  have hdata : migrateChatSubscriptions app oldId newId = app := by
    rw [migrateChatSubscriptions, h.chatData]
  rw [migrate, hdata, h.migrateChatId, h.agree.repair_eq]

/-! ### The first message -/

theorem bot_repair (app : Application) (chatId : ℤ) :
  (repair app chatId).bot.users = app.bot.users
    ∧ (repair app chatId).bot.groups = app.bot.groups
    ∧ (repair app chatId).bot.channels = app.bot.channels
  := by
  rw [repair]
  split <;> exact ⟨rfl, rfl, rfl⟩

theorem chatData_repair (app : Application) (chatId : ℤ) :
  (repair app chatId).chatData = app.chatData
  := by
  rw [repair]
  split <;> rfl

/-- The data of the chats after a migration: the old chat has none, and that of the chats
other than the two is the same. -/
theorem get?_migrate {app : Application} {oldId newId c : ℤ} (hc : c ≠ newId) :
  (migrate app oldId newId).chatData.get? c = if c = oldId then none else app.chatData.get? c
  := by
  rw [migrate, chatData_repair]
  change (migrateChatSubscriptions app oldId newId).chatData.get? c = _
  rw [migrateChatSubscriptions]
  split
  next hold =>
      split
      next heq => rw [heq, hold]
      next => rfl
  next oldData hold hnew => rw [Dict.get?_erase, Dict.get?_set_of_ne _ _ hc]
  next oldData newData hold hnew => rw [Dict.get?_erase, Dict.get?_set_of_ne _ _ hc]

/-- A set of chats after a migration. -/
theorem mem_values_migrateChatId {set : ChatIdSet} {oldId newId c : ℤ} (h : oldId ≠ newId) :
  c ∈ (set.migrateChatId oldId newId).values
    ↔ c ≠ oldId ∧ (c ∈ set.values ∨ c = newId ∧ oldId ∈ set.values)
  := by
  rw [ChatIdSet.migrateChatId, if_neg h, mem_migrateChat h]

/-- The chats of a node operator after a migration. -/
theorem mem_chatsFor_migrate {app : Application} (h : Agree app) {oldId newId c : ℤ}
    (hne : oldId ≠ newId) {n : String} :
  c ∈ (migrate app oldId newId).bot.nodeOperatorChats.chatsFor n
    ↔ c ≠ oldId ∧ (c ∈ app.bot.nodeOperatorChats.chatsFor n
      ∨ c = newId ∧ oldId ∈ app.bot.nodeOperatorChats.chatsFor n)
  := by
  rw [← h.migrate hne c n, migrate, subscriptions_repair, ← h c n, ← h oldId n]
  apply mem_ids_migrateChatSubscriptions hne

/-- A chat is in the same places. -/
structure Untouched (chatId : ℤ) (app app' : Application) : Prop where
  chatData : app'.chatData.get? chatId = app.chatData.get? chatId
  users : chatId ∈ app'.bot.users.values ↔ chatId ∈ app.bot.users.values
  groups : chatId ∈ app'.bot.groups.values ↔ chatId ∈ app.bot.groups.values
  channels : chatId ∈ app'.bot.channels.values ↔ chatId ∈ app.bot.channels.values
  chatsFor : ∀ n, chatId ∈ app'.bot.nodeOperatorChats.chatsFor n
    ↔ chatId ∈ app.bot.nodeOperatorChats.chatsFor n

/-- A chat is replaced by another one, which has everything that any of the two had. -/
structure Moved (oldId newId : ℤ) (app app' : Application) : Prop where
  gone : Gone oldId app'
  subscriptions : ∀ n, n ∈ (app'.subscriptions newId).ids
    ↔ n ∈ (app.subscriptions oldId).ids ∨ n ∈ (app.subscriptions newId).ids
  chatsFor : ∀ n, newId ∈ app'.bot.nodeOperatorChats.chatsFor n
    ↔ oldId ∈ app.bot.nodeOperatorChats.chatsFor n ∨ newId ∈ app.bot.nodeOperatorChats.chatsFor n
  users : newId ∈ app'.bot.users.values
    ↔ oldId ∈ app.bot.users.values ∨ newId ∈ app.bot.users.values
  groups : newId ∈ app'.bot.groups.values
    ↔ oldId ∈ app.bot.groups.values ∨ newId ∈ app.bot.groups.values
  channels : newId ∈ app'.bot.channels.values
    ↔ oldId ∈ app.bot.channels.values ∨ newId ∈ app.bot.channels.values
  untouched : ∀ c, c ≠ oldId → c ≠ newId → Untouched c app app'

/-- The sets of chats after a migration. -/
theorem bot_migrate (app : Application) (oldId newId : ℤ) :
  (migrate app oldId newId).bot.users = app.bot.users.migrateChatId oldId newId
    ∧ (migrate app oldId newId).bot.groups = app.bot.groups.migrateChatId oldId newId
    ∧ (migrate app oldId newId).bot.channels = app.bot.channels.migrateChatId oldId newId
  := by
  obtain ⟨husers, hgroups, hchannels⟩ := bot_repair
    { migrateChatSubscriptions app oldId newId with
      bot := (migrateChatSubscriptions app oldId newId).bot.migrateChatId oldId newId } newId
  rw [migrate, husers, hgroups, hchannels, bot_migrateChatSubscriptions]
  exact ⟨rfl, rfl, rfl⟩

/-- What a migration does when the indexes agree. -/
theorem Agree.moved {app : Application} (h : Agree app) {oldId newId : ℤ}
    (hne : oldId ≠ newId) :
  Moved oldId newId app (Handlers.migrate app oldId newId)
  := by
  obtain ⟨husers, hgroups, hchannels⟩ := bot_migrate app oldId newId
  have hset : ∀ set : ChatIdSet, oldId ∉ (set.migrateChatId oldId newId).values := by
    intro set
    rw [mem_values_migrateChatId hne]
    exact fun hmem => hmem.1 rfl
  have hnew : ∀ set : ChatIdSet, newId ∈ (set.migrateChatId oldId newId).values
      ↔ oldId ∈ set.values ∨ newId ∈ set.values := by
    intro set
    rw [mem_values_migrateChatId hne]
    tauto
  have hother : ∀ c, c ≠ oldId → c ≠ newId → ∀ set : ChatIdSet,
      c ∈ (set.migrateChatId oldId newId).values ↔ c ∈ set.values := by
    intro c hold hnew set
    rw [mem_values_migrateChatId hne]
    tauto
  constructor
  · constructor
    · apply h.migrate hne
    · rw [get?_migrate hne, if_pos rfl]
    · rw [husers]
      apply hset
    · rw [hgroups]
      apply hset
    · rw [hchannels]
      apply hset
  · intro n
    rw [Handlers.migrate, subscriptions_repair]
    change n ∈ ((migrateChatSubscriptions app oldId newId).subscriptions newId).ids ↔ _
    rw [mem_ids_migrateChatSubscriptions hne]
    tauto
  · intro n
    rw [mem_chatsFor_migrate h hne]
    tauto
  · rw [husers]
    apply hnew
  · rw [hgroups]
    apply hnew
  · rw [hchannels]
    apply hnew
  · intro c hold hnew
    constructor
    · rw [get?_migrate hnew, if_neg hold]
    · rw [husers]
      apply hother c hold hnew
    · rw [hgroups]
      apply hother c hold hnew
    · rw [hchannels]
      apply hother c hold hnew
    · intro n
      rw [mem_chatsFor_migrate h hne]
      tauto

/-! ### Any number of messages -/

/-- Messages about the migration of a chat that is gone change nothing. -/
theorem Gone.foldl_handle {oldId newId : ℤ} {app : Application} (h : Gone oldId app)
    (texts : Texts) {messages : List Update}
    (hmessages : ∀ message ∈ messages, message.IsMigration oldId newId) :
  messages.foldl (Handlers.handle texts) app = app
  := by
  induction messages with
  | nil => rfl
  | cons message messages ih =>
      rw [List.foldl_cons, handle_of_isMigration (hmessages message List.mem_cons_self),
        h.migrate_eq]
      apply ih fun message' hmem => hmessages message' (List.mem_cons_of_mem _ hmem)

/-- A chat that is gone stays so over messages about its migration and updates of other
chats. -/
theorem Gone.run {oldId newId : ℤ} {app : Application} (h : Gone oldId app) (texts : Texts)
    {updates : List Update}
    (hupdates : ∀ update ∈ updates,
      update.IsMigration oldId newId ∨ update.IsFromOther oldId) :
  Gone oldId (updates.foldl (Handlers.handle texts) app)
  := by
  induction updates generalizing app with
  | nil => apply h
  | cons update updates ih =>
      apply ih _ fun update' hmem => hupdates update' (List.mem_cons_of_mem _ hmem)
      rcases hupdates update List.mem_cons_self with hmigration | hother
      · rw [handle_of_isMigration hmigration, h.migrate_eq]
        apply h
      · apply h.handle texts hother

/-- Over any messages about a migration, at least one: everything is moved, the result is that
of the first message, and whatever the other chats, the new one among them, follow and unfollow
afterwards, later messages leave it as it is. -/
theorem chatMigration_idempotent (texts : Texts) {app : Application} (h : Agree app)
    {oldId newId : ℤ} (hne : oldId ≠ newId) (first : Update) (messages : List Update)
    (hmessages : ∀ message ∈ first :: messages, message.IsMigration oldId newId) :
  (first :: messages).foldl (handle texts) app = handle texts app first
    ∧ Moved oldId newId app ((first :: messages).foldl (handle texts) app)
    ∧ ∀ between later : List Update,
        (∀ update ∈ between, update.IsMigration oldId newId ∨ update.IsFromOther oldId) →
        (∀ message ∈ later, message.IsMigration oldId newId) →
        ((first :: messages) ++ between ++ later).foldl (handle texts) app
          = ((first :: messages) ++ between).foldl (handle texts) app
  := by
  have hfirst : handle texts app first = migrate app oldId newId :=
    handle_of_isMigration (hmessages first List.mem_cons_self) texts app
  have hmoved : Moved oldId newId app (handle texts app first) := by
    rw [hfirst]
    apply h.moved hne
  have hall : (first :: messages).foldl (handle texts) app = handle texts app first := by
    apply hmoved.gone.foldl_handle texts
    intro message hmem
    apply hmessages message (List.mem_cons_of_mem _ hmem)
  refine ⟨hall, ?_, ?_⟩
  · rw [hall]
    apply hmoved
  · intro between later hbetween hlater
    rw [List.foldl_append]
    apply Gone.foldl_handle _ texts hlater
    rw [List.foldl_append, hall]
    apply hmoved.gone.run texts hbetween

/-- A chat that follows a node operator migrates to one that follows another, both send the
message, and the new one unfollows before the old message comes again. -/
theorem chatMigration_idempotent_unfollowed :
  let texts : Texts := ⟨"", fun id => id, "", fun id => id⟩
  let app := [Update.followButton 1 "follow_no:7" fun _ => some 10,
    .followButton 2 "follow_no:8" fun _ => some 10].foldl (handle texts) .empty
  let messages : List Update := [.migration 1 (some 2) none, .migration 2 none (some 1)]
  Moved 1 2 app (messages.foldl (handle texts) app)
    ∧ (messages ++ [Update.unfollowButton 2 "unfollow_no:7"] ++ messages).foldl (handle texts) app
      = (messages ++ [Update.unfollowButton 2 "unfollow_no:7"]).foldl (handle texts) app
  := by
  intro texts app messages
  have hagree : Agree app := by
    apply agree_foldl_handle
    simp [Update.Proper]
  have hmessages : ∀ message ∈ messages, message.IsMigration 1 2 := by
    simp [messages, Update.IsMigration, migrationIds]
  have h := chatMigration_idempotent texts hagree (by decide : (1 : ℤ) ≠ 2) _ _ hmessages
  refine ⟨h.2.1, h.2.2 _ _ ?_ hmessages⟩
  intro update hupdate
  obtain rfl := List.mem_singleton.mp hupdate
  exact Or.inr (by decide : (2 : ℤ) ≠ 1)

end Handlers

end Sentinel
