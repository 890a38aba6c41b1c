import Sentinel.Effect
import Sentinel.Notifications
import Sentinel.Sorting
import Sentinel.Storage.BotStorage
import Mathlib.Data.Finset.Sort
import Mathlib.Data.String.Basic

/-!
# Delivering notifications to chats

The handler of notifications asks for the plan of a notification and sends its messages. What a
chat is sent depends on the plan, on whether the chat is active and on the node operators that it
follows. It depends neither on which messages fail nor on the order in which the members of a set
are visited.
-/

namespace Sentinel

/-- An order in which the members of a set are visited. -/
structure SetOrder (α : Type*) where
  toList : Finset α → List α
  nodup : ∀ s, (toList s).Nodup
  mem_toList : ∀ s a, a ∈ toList s ↔ a ∈ s

/-- The members of a set by size. -/
def SetOrder.sorted {α : Type*} [LinearOrder α] : SetOrder α where
  toList s := s.sort (· ≤ ·)
  nodup s := s.sort_nodup (· ≤ ·)
  mem_toList s _ := s.mem_sort (· ≤ ·)

/-- A list of the members of a set, each once, is the set, also where both are filtered. -/
theorem coe_filter_eq_filter_val {α : Type*} {l : List α} {s : Finset α} (hnodup : l.Nodup)
    (hmem : ∀ a, a ∈ l ↔ a ∈ s) (P : α → Prop) [DecidablePred P] :
  ((l.filter P : List α) : Multiset α) = (s.filter P).val
  := by
  apply (Multiset.Nodup.ext (Multiset.coe_nodup.mpr (hnodup.filter _)) (Finset.nodup _)).mpr
  intro a
  rw [Multiset.mem_coe, List.mem_filter, hmem, Finset.mem_val, Finset.mem_filter,
    decide_eq_true_eq]

/-- The messages that were sent, with or without success, each with its chat. -/
abbrev Attempts :=
  List (ℤ × String)

/-- The messages that were sent to a chat, in order. -/
def Attempts.received (attempts : Attempts) (chatId : ℤ) : List String :=
  (attempts.filter fun attempt => attempt.1 = chatId).map Prod.snd

/-- A program that sends messages. -/
abbrev Delivering :=
  Effect Attempts PUnit

/-- What a delivery meets: the orders in which sets are visited, and which messages fail. -/
structure Telegram where
  chatOrder : SetOrder ℤ
  operatorOrder : SetOrder String
  /-- whether the message that is sent after so many others fails -/
  fails : ℕ → ℤ → String → Bool

/-- Sets are visited by size, and no message fails. -/
def Telegram.reliable : Telegram where
  chatOrder := .sorted
  operatorOrder := .sorted
  fails _ _ _ := false

namespace TelegramNotificationHandler

variable (telegram : Telegram) (storage : BotStorage)

/-! ### Sending -/

/-- Send a message to a chat. The number of messages that did not fail. -/
def sendMessage (message : String) (chatId : ℤ) : Delivering ℕ := do
  let attempts ← get
  modify fun attempts => attempts ++ [(chatId, message)]
  return if telegram.fails attempts.length chatId message then 0 else 1

/-- Send a message to chats. -/
def sendToChats (message : String) : List ℤ → Delivering ℕ
  | [] => return 0
  | chatId :: chats => do
      let sent ← sendMessage telegram message chatId
      let rest ← sendToChats message chats
      return sent + rest

/-- Send messages to a chat. -/
def sendAll (chatId : ℤ) : List String → Delivering ℕ
  | [] => return 0
  | message :: messages => do
      let sent ← sendToChats telegram message [chatId]
      let rest ← sendAll chatId messages
      return sent + rest

/-! ### The deliveries -/

/-- Deliver a broadcast. -/
def deliverBroadcast (message : String) (operatorIds : Option (Finset String)) :
    Delivering ℕ :=
  let chats := match operatorIds with
    | none => storage.actualChatIds
    | some ids => storage.nodeOperatorChats.resolveTargets ids storage.actualChatIds
  sendToChats telegram message (telegram.chatOrder.toList chats)

/-- Deliver the message of each node operator. -/
def deliverOperatorMessages : List (String × String) → Delivering ℕ
  | [] => return 0
  | (nodeOperatorId, message) :: items => do
      let chats := storage.nodeOperatorChats.chatsFor nodeOperatorId ∩ storage.actualChatIds
      let sent ← sendToChats telegram message (telegram.chatOrder.toList chats)
      let rest ← deliverOperatorMessages items
      return sent + rest

/-- Add a node operator to the active chats of a list. -/
def addOperator (nodeOperatorId : String) (operatorIdsByChat : Dict ℤ (Finset String))
    (chats : List ℤ) : Dict ℤ (Finset String) :=
  chats.foldl (fun d chatId =>
    if chatId ∈ storage.actualChatIds then
      d.set chatId (insert nodeOperatorId (d.getD chatId ∅))
    else d) operatorIdsByChat

/-- The node operators of a plan that each active chat follows. -/
def operatorIdsByChat (operatorIds : Finset String) : Dict ℤ (Finset String) :=
  (telegram.operatorOrder.toList operatorIds).foldl (fun d nodeOperatorId =>
    addOperator storage nodeOperatorId d
      (telegram.chatOrder.toList (storage.nodeOperatorChats.chatsFor nodeOperatorId))) .empty

/-- Send each chat what is rendered for the node operators that it follows. -/
def sendRendered (render : Finset String → Option (List String)) :
    List (ℤ × Finset String) → Delivering ℕ
  | [] => return 0
  | (chatId, nodeOperatorIds) :: items =>
      match render nodeOperatorIds with
      | none => throw ⟨⟩
      | some messages => do
          let sent ← sendAll telegram chatId messages
          let rest ← sendRendered render items
          return sent + rest

/-- Deliver messages that are rendered for each chat. -/
def deliverPerChat (operatorIds : Finset String) (render : Finset String → Option (List String)) :
    Delivering ℕ :=
  sendRendered telegram render (operatorIdsByChat telegram storage operatorIds).items

/-- Deliver a notification. The number of messages that did not fail. -/
def deliver : NotificationDelivery → Delivering ℕ
  | .broadcast message operatorIds => deliverBroadcast telegram storage message operatorIds
  | .operatorMessages messages => deliverOperatorMessages telegram storage messages.items
  | .perChat operatorIds render => deliverPerChat telegram storage operatorIds render

/-! ### What is sent -/

section Sent

variable {telegram storage} {s : Attempts}

/-- Whatever fails, each of the chats is sent the message once. -/
theorem ends_sendToChats (message : String) (chats : List ℤ) :
  (sendToChats telegram message chats).Ends s
    (fun _ t => t = s ++ chats.map fun chatId => (chatId, message)) fun _ _ => False
  := by
  induction chats generalizing s with
  | nil => simp [sendToChats]
  | cons chatId chats ih =>
      simp only [sendToChats, sendMessage, Effect.ends_bind, Effect.ends_get, Effect.ends_modify,
        Effect.ends_pure]
      apply ih.mono
      · rintro _ t rfl
        simp
      · exact fun _ _ h => h

/-- A chat is sent its messages. -/
theorem ends_sendAll (chatId : ℤ) (messages : List String) :
  (sendAll telegram chatId messages).Ends s
    (fun _ t => t = s ++ messages.map fun message => (chatId, message)) fun _ _ => False
  := by
  induction messages generalizing s with
  | nil => simp [sendAll]
  | cons message messages ih =>
      simp only [sendAll, Effect.ends_bind, Effect.ends_pure]
      apply (ends_sendToChats message [chatId]).mono
      · rintro _ t rfl
        apply ih.mono
        · rintro _ t rfl
          simp
        · exact fun _ _ h => h
      · exact fun _ _ h => h

/-- The messages of node operators, each to its active followers. -/
def operatorAttempts (telegram : Telegram) (storage : BotStorage)
    (items : List (String × String)) : Attempts :=
  items.flatMap fun item =>
    (telegram.chatOrder.toList (storage.nodeOperatorChats.chatsFor item.1
      ∩ storage.actualChatIds)).map fun chatId => (chatId, item.2)

theorem ends_deliverOperatorMessages (items : List (String × String)) :
  (deliverOperatorMessages telegram storage items).Ends s
    (fun _ t => t = s ++ operatorAttempts telegram storage items) fun _ _ => False
  := by
  induction items generalizing s with
  | nil => simp [deliverOperatorMessages, operatorAttempts]
  | cons item items ih =>
      simp only [deliverOperatorMessages, Effect.ends_bind, Effect.ends_pure]
      apply (ends_sendToChats item.2 _).mono
      · rintro _ t rfl
        apply ih.mono
        · rintro _ t rfl
          simp [operatorAttempts]
        · exact fun _ _ h => h
      · exact fun _ _ h => h

/-- The messages that are rendered for chats, up to the first chat for which it raises. -/
def renderedAttempts (render : Finset String → Option (List String)) :
    List (ℤ × Finset String) → Attempts
  | [] => []
  | (chatId, nodeOperatorIds) :: items =>
      match render nodeOperatorIds with
      | none => []
      | some messages =>
          messages.map (fun message => (chatId, message)) ++ renderedAttempts render items

theorem ends_sendRendered (render : Finset String → Option (List String))
    (items : List (ℤ × Finset String)) :
  (sendRendered telegram render items).Ends s
    (fun _ t => t = s ++ renderedAttempts render items ∧ ∀ item ∈ items, (render item.2).isSome)
    fun _ t => t = s ++ renderedAttempts render items ∧ ∃ item ∈ items, render item.2 = none
  := by
  induction items generalizing s with
  | nil => simp [sendRendered, renderedAttempts]
  | cons item items ih =>
      obtain ⟨chatId, nodeOperatorIds⟩ := item
      rw [sendRendered, renderedAttempts]
      cases hrender : render nodeOperatorIds with
      | none =>
          rw [Effect.ends_throw, List.append_nil]
          exact ⟨rfl, _, List.mem_cons_self, hrender⟩
      | some messages =>
          simp only [Effect.ends_bind, Effect.ends_pure]
          apply (ends_sendAll chatId messages).mono
          · rintro _ t rfl
            apply ih.mono
            · rintro _ t ⟨rfl, hall⟩
              refine ⟨by simp, List.forall_mem_cons.mpr ⟨?_, hall⟩⟩
              rw [hrender, Option.isSome_some]
            · rintro _ t ⟨rfl, item, hitem, hnone⟩
              exact ⟨by simp, item, List.mem_cons_of_mem _ hitem, hnone⟩
          · exact fun _ _ h => h.elim

end Sent

/-! ### What a chat is sent -/

section Received

variable {telegram storage}

@[simp]
theorem received_append (attempts attempts' : Attempts) (c : ℤ) :
  (Attempts.received (attempts ++ attempts') c)
    = Attempts.received attempts c ++ Attempts.received attempts' c
  := by
  simp [Attempts.received]

/-- Of one message to different chats, each of them is sent one. -/
theorem received_map {chats : List ℤ} (hnodup : chats.Nodup) (message : String) (c : ℤ) :
  Attempts.received (chats.map fun chatId => (chatId, message)) c
    = if c ∈ chats then [message] else []
  := by
  induction chats with
  | nil => rfl
  | cons chatId chats ih =>
      obtain ⟨hnew, hnodup⟩ := List.nodup_cons.mp hnodup
      have hsplit : Attempts.received ((chatId :: chats).map fun chatId => (chatId, message)) c
          = (if chatId = c then [message] else [])
            ++ Attempts.received (chats.map fun chatId => (chatId, message)) c := by
        by_cases hc : chatId = c <;> simp [Attempts.received, hc]
      rw [hsplit, ih hnodup]
      by_cases hc : chatId = c
      · subst hc
        simp [hnew]
      · simp [hc, Ne.symm hc]

/-- All messages to one chat. -/
theorem received_map_self (chatId : ℤ) (messages : List String) (c : ℤ) :
  Attempts.received (messages.map fun message => (chatId, message)) c
    = if c = chatId then messages else []
  := by
  induction messages with
  | nil => simp [Attempts.received]
  | cons message messages ih =>
      by_cases hc : c = chatId
      · simpa [Attempts.received, hc] using ih
      · simp [Attempts.received, Ne.symm hc, hc]

/-- A chat is sent the messages of the node operators that it follows. -/
theorem received_operatorAttempts (items : List (String × String)) (c : ℤ) :
  (operatorAttempts telegram storage items).received c
    = (items.filter fun item => storage.ActiveFollower item.1 c).map Prod.snd
  := by
  induction items with
  | nil => rfl
  | cons item items ih =>
      have hmem : c ∈ telegram.chatOrder.toList (storage.nodeOperatorChats.chatsFor item.1
          ∩ storage.actualChatIds) ↔ storage.ActiveFollower item.1 c := by
        rw [telegram.chatOrder.mem_toList, Finset.mem_inter, and_comm]
        rfl
      rw [operatorAttempts, List.flatMap_cons, received_append,
        received_map (telegram.chatOrder.nodup _), ← operatorAttempts, ih, List.filter_cons]
      by_cases hfollows : storage.ActiveFollower item.1 c
      · rw [if_pos (hmem.mpr hfollows), if_pos (decide_eq_true hfollows)]
        rfl
      · rw [if_neg (mt hmem.mp hfollows), if_neg (by simpa using hfollows)]
        rfl

/-- A chat is sent what is rendered for it. -/
theorem received_renderedAttempts {render : Finset String → Option (List String)}
    {items : List (ℤ × Finset String)} (hnodup : (items.map Prod.fst).Nodup)
    (hrender : ∀ item ∈ items, (render item.2).isSome) (c : ℤ) :
  (renderedAttempts render items).received c
    = (((items.lookup c).bind render).getD [])
  := by
  induction items with
  | nil => rfl
  | cons item items ih =>
      obtain ⟨chatId, nodeOperatorIds⟩ := item
      obtain ⟨hnew, hnodup⟩ := List.nodup_cons.mp hnodup
      obtain ⟨hsome, hrender⟩ := List.forall_mem_cons.mp hrender
      obtain ⟨messages, hmessages⟩ := Option.isSome_iff_exists.mp hsome
      have hrest := ih hnodup hrender
      simp only [renderedAttempts, hmessages, received_append, received_map_self, hrest]
      rw [List.lookup_cons]
      by_cases hc : c = chatId
      · subst hc
        have hnone : items.lookup c = none := by
          apply List.lookup_eq_none_iff.mpr
          intro item hitem
          apply bne_iff_ne.mpr
          rintro rfl
          apply hnew (List.mem_map.mpr ⟨item, hitem, rfl⟩)
        simp [hnone, hmessages]
      · have hne : (c == chatId) = false := beq_false_of_ne hc
        simp [hc, hne]

/-- A chat for which nothing is rendered is sent nothing. -/
theorem received_renderedAttempts_of_notMem (render : Finset String → Option (List String))
    {items : List (ℤ × Finset String)} {c : ℤ} (h : c ∉ items.map Prod.fst) :
  (renderedAttempts render items).received c = []
  := by
  induction items with
  | nil => rfl
  | cons item items ih =>
      obtain ⟨chatId, ids⟩ := item
      rw [List.map_cons, List.mem_cons, not_or] at h
      rw [renderedAttempts]
      cases render ids with
      | none => rfl
      | some messages => simp [received_map_self, h.1, ih h.2]

/-- A chat for which rendering raises is sent nothing. -/
theorem received_renderedAttempts_of_none {render : Finset String → Option (List String)}
    {items : List (ℤ × Finset String)} (hnodup : (items.map Prod.fst).Nodup)
    {chatId : ℤ} {nodeOperatorIds : Finset String} (hitem : (chatId, nodeOperatorIds) ∈ items)
    (hrender : render nodeOperatorIds = none) :
  (renderedAttempts render items).received chatId = []
  := by
  induction items with
  | nil => cases hitem
  | cons item items ih =>
      obtain ⟨c, ids⟩ := item
      obtain ⟨hnew, hnodup⟩ := List.nodup_cons.mp hnodup
      rcases List.mem_cons.mp hitem with heq | hmem
      · obtain ⟨rfl, rfl⟩ := Prod.mk.inj heq
        rw [renderedAttempts, hrender]
        rfl
      · rw [renderedAttempts]
        cases render ids with
        | none => rfl
        | some messages =>
            have hne : chatId ≠ c := by
              rintro rfl
              exact hnew (List.mem_map.mpr ⟨_, hmem, rfl⟩)
            simp [received_map_self, hne, ih hnodup hmem]

/-! ### The node operators of each chat -/

/-- The node operators of a list that an active chat follows, none when it follows none. -/
theorem get?_addOperator (nodeOperatorId : String) (d : Dict ℤ (Finset String))
    (chats : List ℤ) (c : ℤ) :
  (addOperator storage nodeOperatorId d chats).get? c
    = if c ∈ chats ∧ c ∈ storage.actualChatIds then
        some (insert nodeOperatorId (d.getD c ∅))
      else d.get? c
  := by
  induction chats generalizing d with
  | nil => simp [addOperator]
  | cons chatId chats ih =>
      rw [addOperator, List.foldl_cons, ← addOperator, ih]
      by_cases hactual : chatId ∈ storage.actualChatIds
      · rw [if_pos hactual, Dict.getD, Dict.get?_set]
        by_cases hc : c = chatId
        · subst hc
          simp [hactual]
        · simp [hc, Dict.getD]
      · rw [if_neg hactual]
        by_cases hc : c = chatId
        · subst hc
          simp [hactual]
        · simp [hc]

/-- The node operators of a plan that a chat follows. -/
def followed (storage : BotStorage) (operatorIds : Finset String) (c : ℤ) : Finset String :=
  operatorIds.filter fun id => c ∈ storage.nodeOperatorChats.chatsFor id

theorem mem_followed {operatorIds : Finset String} {c : ℤ} {id : String} :
  id ∈ followed storage operatorIds c
    ↔ id ∈ operatorIds ∧ c ∈ storage.nodeOperatorChats.chatsFor id
  := Finset.mem_filter

theorem followed_subset (operatorIds : Finset String) (c : ℤ) :
  followed storage operatorIds c ⊆ operatorIds
  := Finset.filter_subset _ _

/-- The node operators that are kept for each chat are those of the plan that it follows, for
the active chats that follow any. -/
theorem get?_operatorIdsByChat (operatorIds : Finset String) (c : ℤ) :
  (operatorIdsByChat telegram storage operatorIds).get? c
    = if c ∈ storage.actualChatIds ∧ (followed storage operatorIds c).Nonempty then
        some (followed storage operatorIds c)
      else none
  := by
  have hlist : ∀ ids : List String,
      (ids.foldl (fun d nodeOperatorId => addOperator storage nodeOperatorId d
        (telegram.chatOrder.toList (storage.nodeOperatorChats.chatsFor nodeOperatorId)))
        Dict.empty).get? c
      = if c ∈ storage.actualChatIds ∧ (followed storage ids.toFinset c).Nonempty then
          some (followed storage ids.toFinset c)
        else none := by
    intro ids
    induction ids using List.reverseRecOn with
    | nil => simp [followed]
    | append_singleton ids id ih =>
        rw [List.foldl_append, List.foldl_cons, List.foldl_nil, get?_addOperator, Dict.getD, ih]
        simp only [telegram.chatOrder.mem_toList]
        have hunion : (ids ++ [id]).toFinset = insert id ids.toFinset := by
          ext id'
          simp
        rw [hunion, followed, followed, Finset.filter_insert]
        by_cases hfollows : c ∈ storage.nodeOperatorChats.chatsFor id
        · by_cases hactual : c ∈ storage.actualChatIds
          · simp only [hfollows, hactual, true_and, and_true, if_true, Finset.insert_nonempty]
            split
            next => rfl
            next hempty =>
                rw [Finset.not_nonempty_iff_eq_empty.mp hempty]
                rfl
          · simp [hactual]
        · simp [hfollows]
  rw [operatorIdsByChat, hlist]
  have hset : (telegram.operatorOrder.toList operatorIds).toFinset = operatorIds := by
    ext id
    rw [List.mem_toFinset, telegram.operatorOrder.mem_toList]
  rw [hset]

/-- The node operators that are kept for a chat are some of the plan. -/
theorem subset_of_mem_operatorIdsByChat {operatorIds : Finset String}
    {item : ℤ × Finset String}
    (h : item ∈ (operatorIdsByChat telegram storage operatorIds).items) :
  item.2 ⊆ operatorIds
  := by
  have hget := Dict.get?_eq_some_iff.mpr h
  rw [get?_operatorIdsByChat] at hget
  split at hget
  · rw [← Option.some.inj hget]
    apply Finset.filter_subset
  · cases hget

/-! ### The audience of a delivery -/

/-- What a delivery is to send to a chat. -/
def messagesFor (storage : BotStorage) (delivery : NotificationDelivery) (c : ℤ) :
    List String :=
  match delivery with
  | .broadcast message none => if c ∈ storage.actualChatIds then [message] else []
  | .broadcast message (some ids) =>
      if ∃ id ∈ ids, storage.ActiveFollower id c then [message] else []
  | .operatorMessages messages =>
      (messages.items.filter fun item => storage.ActiveFollower item.1 c).map Prod.snd
  | .perChat ids render =>
      if c ∈ storage.actualChatIds ∧ (followed storage ids c).Nonempty then
        (render (followed storage ids c)).getD []
      else []

/-- A chat that is not active is to be sent nothing. -/
theorem messagesFor_of_notMem {c : ℤ} (h : c ∉ storage.actualChatIds)
    (delivery : NotificationDelivery) :
  messagesFor storage delivery c = []
  := by
  have hfollower : ∀ id, ¬ storage.ActiveFollower id c := fun _ hfollower => h hfollower.1
  cases delivery with
  | broadcast message operatorIds =>
      cases operatorIds with
      | none => simp [messagesFor, h]
      | some ids => simp [messagesFor, hfollower]
  | operatorMessages messages => simp [messagesFor, hfollower]
  | perChat ids render => simp [messagesFor, h]

/-- The messages of a delivery, in the order in which they are sent. -/
def deliveryAttempts (telegram : Telegram) (storage : BotStorage) :
    NotificationDelivery → Attempts
  | .broadcast message none =>
      (telegram.chatOrder.toList storage.actualChatIds).map fun chatId => (chatId, message)
  | .broadcast message (some ids) =>
      (telegram.chatOrder.toList (storage.resolveTargetChats ids)).map
        fun chatId => (chatId, message)
  | .operatorMessages messages => operatorAttempts telegram storage messages.items
  | .perChat ids render =>
      renderedAttempts render (operatorIdsByChat telegram storage ids).items

/-- A delivery sends its messages, and it raises only where rendering them does. -/
theorem ends_deliver (delivery : NotificationDelivery) (s : Attempts) :
  (deliver telegram storage delivery).Ends s
    (fun _ t => t = s ++ deliveryAttempts telegram storage delivery)
    fun _ t => t = s ++ deliveryAttempts telegram storage delivery
      ∧ ¬ NotificationPlan.Renders ⟨delivery⟩
  := by
  cases delivery with
  | broadcast message operatorIds =>
      cases operatorIds with
      | none =>
          apply (ends_sendToChats message _).mono
          · exact fun _ _ h => h
          · exact fun _ _ h => h.elim
      | some ids =>
          apply (ends_sendToChats message _).mono
          · exact fun _ _ h => h
          · exact fun _ _ h => h.elim
  | operatorMessages messages =>
      apply (ends_deliverOperatorMessages messages.items).mono
      · exact fun _ _ h => h
      · exact fun _ _ h => h.elim
  | perChat ids render =>
      apply (ends_sendRendered render _).mono
      · exact fun _ _ h => h.1
      · rintro _ t ⟨rfl, item, hitem, hnone⟩
        use rfl
        intro hrenders
        have hsome := hrenders item.2 (subset_of_mem_operatorIdsByChat hitem)
        rw [hnone] at hsome
        cases hsome

/-- The messages of a delivery are those that each chat is to be sent. -/
theorem received_deliveryAttempts {delivery : NotificationDelivery}
    (hrenders : NotificationPlan.Renders ⟨delivery⟩) (c : ℤ) :
  (deliveryAttempts telegram storage delivery).received c = messagesFor storage delivery c
  := by
  cases delivery with
  | broadcast message operatorIds =>
      cases operatorIds with
      | none =>
          rw [deliveryAttempts, messagesFor, received_map (telegram.chatOrder.nodup _)]
          simp only [telegram.chatOrder.mem_toList]
      | some ids =>
          rw [deliveryAttempts, messagesFor, received_map (telegram.chatOrder.nodup _)]
          simp only [telegram.chatOrder.mem_toList, BotStorage.mem_resolveTargetChats]
  | operatorMessages messages => apply received_operatorAttempts
  | perChat ids render =>
      rw [deliveryAttempts, messagesFor, received_renderedAttempts
        (operatorIdsByChat telegram storage ids).nodup
        fun item hitem => hrenders item.2 (subset_of_mem_operatorIdsByChat hitem)]
      change (((operatorIdsByChat telegram storage ids).get? c).bind render).getD [] = _
      rw [get?_operatorIdsByChat]
      split <;> rfl

/-- A chat that is not active is sent nothing, also where rendering raises for another one. -/
theorem received_deliveryAttempts_of_notMem {c : ℤ} (h : c ∉ storage.actualChatIds)
    (delivery : NotificationDelivery) :
  (deliveryAttempts telegram storage delivery).received c = []
  := by
  by_cases hrenders : NotificationPlan.Renders ⟨delivery⟩
  · rw [received_deliveryAttempts hrenders, messagesFor_of_notMem h]
  · cases delivery with
    | broadcast message operatorIds => exact absurd trivial hrenders
    | operatorMessages messages => exact absurd trivial hrenders
    | perChat ids render =>
        apply received_renderedAttempts_of_notMem
        intro hmem
        obtain ⟨item, hitem, rfl⟩ := List.mem_map.mp hmem
        have hget := Dict.get?_eq_some_iff.mpr hitem
        rw [get?_operatorIdsByChat, if_neg fun hactual => h hactual.1] at hget
        cases hget

end Received

/-! ### Handling a notification -/

/-- Handle a notification. -/
def handleEventLog (engine : EventMessageEngine) (event : EventNotification) : Delivering ℕ :=
  match engine.getNotificationPlan event with
  | none => throw ⟨⟩
  | some none => return 0
  | some (some plan) => deliver telegram storage plan.delivery

/-- The messages that handling a notification sends. -/
def attempts (engine : EventMessageEngine) (event : EventNotification) : Attempts :=
  ((handleEventLog telegram storage engine event).exec []).2

/-- The state in which an effect ends. -/
theorem attempts_eq (engine : EventMessageEngine) (event : EventNotification) :
  attempts telegram storage engine event
    = match engine.getNotificationPlan event with
      | some (some plan) => deliveryAttempts telegram storage plan.delivery
      | _ => []
  := by
  rw [attempts, handleEventLog]
  rcases engine.getNotificationPlan event with _ | _ | plan
  · rfl
  · rfl
  · have h := @ends_deliver telegram storage plan.delivery []
    rw [Effect.Ends] at h
    rcases hexec : (deliver telegram storage plan.delivery).exec [] with ⟨_ | _, t⟩
    · rw [hexec] at h
      apply h.1
    · rw [hexec] at h
      apply h

section Handled

variable {telegram storage} {engine : EventMessageEngine} {event : EventNotification}
  {handler : EventNotification → Option HandlerResult}

/-- Nothing is sent where a handler has nothing to send. -/
theorem attempts_of_nothing (h : engine.IsHandler event handler)
    (hresult : handler event = some .nothing) :
  attempts telegram storage engine event = []
  := by
  rw [attempts_eq, h.getNotificationPlan_eq]
  · rw [hresult]
    rfl
  · intro result plan hevent hplan
    obtain rfl := Option.some.inj (hresult.symm.trans hevent)
    cases hplan

/-- What is sent for the plan of a handler that renders messages for each chat. -/
theorem received_of_perChat (h : engine.IsHandler event handler) {ids : Finset String}
    {render : Finset String → Option (List String)}
    (hresult : handler event = some (.plan ⟨.perChat ids render⟩))
    (hrenders : ∀ texts ⊆ ids, (render texts).isSome) (c : ℤ) :
  (attempts telegram storage engine event).received c
    = if c ∈ storage.actualChatIds ∧ (followed storage ids c).Nonempty then
        (render (followed storage ids c)).getD []
      else []
  := by
  rw [attempts_eq, h.getNotificationPlan_eq]
  · rw [hresult]
    have hplan : NotificationPlan.Renders ⟨.perChat ids render⟩ := hrenders
    apply received_deliveryAttempts hplan
  · intro result plan hevent hplan
    obtain rfl := Option.some.inj (hresult.symm.trans hevent)
    obtain rfl := Option.some.inj hplan
    apply EventMessageEngine.narrow_perChat

end Handled

/-- For every plan, storage and pattern of failures, the messages that are sent to a chat are
those that the plan has for it: a failure changes none of them, a chat that is not active is
sent none, and a broadcast to all chats about an event of a node operator is sent to the
followers of the node operator only. -/
theorem handleEventLog_delivers (engine : EventMessageEngine) (event : EventNotification) :
  (∀ fails, attempts { telegram with fails := fails } storage engine event
      = attempts telegram storage engine event)
    ∧ (∀ plan : NotificationPlan, engine.getNotificationPlan event = some (some plan) →
        plan.Renders → ∀ c, (attempts telegram storage engine event).received c
          = messagesFor storage plan.delivery c)
    ∧ ((∀ plan, engine.getNotificationPlan event ≠ some (some plan)) →
        attempts telegram storage engine event = [])
    ∧ (∀ c, c ∉ storage.actualChatIds →
        (attempts telegram storage engine event).received c = [])
    ∧ ∀ result message id, event.primaryEvent.event ∈ engine.notifiableEvents →
        engine.handlerResult event = some result →
        EventMessageEngine.planOf result = some (.broadcast message) →
        event.primaryEvent.args.get? "nodeOperatorId" = some id → id.isHashable →
        ∀ c, (attempts telegram storage engine event).received c
          = if storage.ActiveFollower id.toText c then [message] else []
  := by
  refine ⟨?_, ?_, ?_, ?_, ?_⟩
  · intro fails
    rw [attempts_eq, attempts_eq]
    rfl
  · intro plan hplan hrenders c
    rw [attempts_eq, hplan]
    apply received_deliveryAttempts hrenders
  · intro hnone
    rw [attempts_eq]
    rcases hplan : engine.getNotificationPlan event with _ | _ | plan
    · rfl
    · rfl
    · exact absurd hplan (hnone plan)
  · intro c hc
    rw [attempts_eq]
    rcases engine.getNotificationPlan event with _ | _ | plan
    · rfl
    · rfl
    · apply received_deliveryAttempts_of_notMem hc
  · intro result message id hnotifiable hresult hbroadcast hid hhashable c
    have hplan : engine.getNotificationPlan event
        = some (some (.broadcastToOperators Value.toText message {id})) := by
      rw [EventMessageEngine.getNotificationPlan, if_neg (not_not_intro hnotifiable), hresult]
      simp only [Option.bind_eq_bind, Option.bind_some, hbroadcast, EventMessageEngine.narrow,
        NotificationPlan.broadcast, hid]
      rw [if_pos hhashable]
      rfl
    rw [attempts_eq, hplan]
    change (deliveryAttempts telegram storage
      (.broadcast message (some (normaliseOperatorIds Value.toText {id})))).received c = _
    have hrenders : NotificationPlan.Renders
        ⟨.broadcast message (some (normaliseOperatorIds Value.toText {id}))⟩ := trivial
    rw [received_deliveryAttempts hrenders, messagesFor]
    simp [normaliseOperatorIds]

/-- A log of the first node operator. -/
def bondLocked : Event :=
  { Event.first 1 with args := Dict.empty.set "nodeOperatorId" (.int 0) }

def bondLockedEngine : EventMessageEngine where
  notifiableEvents := {"BondLockChanged"}
  eventHandlers := Dict.empty.set "BondLockChanged" fun _ => some (.message "Bond locked")

/-- Two chats, one of which follows the first node operator. -/
def twoChats : BotStorage :=
  { BotStorage.follower "0" with users := ⟨{1, 2}⟩ }

/-- A message about a node operator is sent to its follower, and to no other chat, although every
message fails. -/
theorem handleEventLog_delivers_bondLocked :
  let telegram : Telegram := { Telegram.reliable with fails := fun _ _ _ => true }
  let sent := attempts telegram twoChats bondLockedEngine (.fromEvent bondLocked)
  sent.received 1 = ["Bond locked"] ∧ sent.received 2 = []
  := by
  intro telegram sent
  obtain ⟨-, -, -, -, hnarrowed⟩ :=
    @handleEventLog_delivers telegram twoChats bondLockedEngine (.fromEvent bondLocked)
  have hreceived := hnarrowed (.message "Bond locked") "Bond locked" (.int 0)
    (Finset.mem_singleton_self _) rfl rfl rfl rfl
  have hfollows : twoChats.ActiveFollower "0" 1 ∧ ¬ twoChats.ActiveFollower "0" 2 := by
    decide
  constructor
  · rw [hreceived 1]
    apply if_pos hfollows.1
  · rw [hreceived 2]
    apply if_neg hfollows.2

end TelegramNotificationHandler

end Sentinel
