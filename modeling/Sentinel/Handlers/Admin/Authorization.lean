import Sentinel.Handlers.Admin.Frames

/-!
# Who may broadcast

Any users talk with the bot, in their private chats and in groups. A conversation has the state of
a chat and a user, and the session of a broadcast is the one of the user. The handlers of the
admin flow begin with the check that the user is an admin and the chat a private one. After a
restart the conversations begin anew, the sessions are those that were persisted, and the admins
are the ones of the new configuration.
-/

namespace Sentinel.Admin

open Effect

/-! ### Senders -/

/-- The chat of an update: a private one, which has the id of its user, or a group. The ids of
groups are negative. -/
inductive Place where
  | privateChat
  | group (chatId : ℤ) (negative : chatId < 0)

/-- The user and the chat of an update. The ids of users are positive. -/
structure Sender where
  userId : ℤ
  positive : 0 < userId
  place : Place

namespace Sender

/-- The id of the chat. -/
def chatId (sender : Sender) : ℤ :=
  match sender.place with
  | .privateChat => sender.userId
  | .group chatId _ => chatId

/-- An admin in the private chat. -/
def Authorized (adminIds : Finset ℤ) (sender : Sender) : Prop :=
  sender.userId ∈ adminIds ∧ sender.place = .privateChat

theorem chatId_of_private {sender : Sender} (h : sender.place = .privateChat) :
  sender.chatId = sender.userId
  := by
  rw [chatId, h]

/-- A chat with the id of a user is the private one of the user. -/
theorem place_of_chatId_pos {sender : Sender} (h : 0 < sender.chatId) :
  sender.place = .privateChat
  := by
  rw [chatId] at h
  split at h
  next hplace => apply hplace
  next chatId negative hplace => omega

end Sender

/-! ### The check -/

/-- The texts of a module for admins. -/
structure AdminTexts extends BroadcastTexts where
  adminPrivateChatRequired : String

section Check

variable (bot : Telegram) (texts : AdminTexts) (adminIds : Finset ℤ) (sender : Sender)

/-- `_notify_not_authorized`, for a click or a message. -/
def notifyNotAuthorized (isQuery : Bool) : Handler Unit := do
  if isQuery then answer bot none
  let _ ← sendMessage bot sender.chatId ⟨"Not authorized.", []⟩

/-- `_notify_private_chat_required` -/
def notifyPrivateChatRequired : Handler Unit := do
  let _ ← sendMessage bot sender.chatId ⟨texts.adminPrivateChatRequired, []⟩

/-- `admin_only` -/
def adminOnly (isQuery : Bool) (failureState : States) (handler : Handler States) :
    Handler States := do
  if sender.userId ∈ adminIds then
    match sender.place with
    | .privateChat => handler
    | .group _ _ =>
        notifyPrivateChatRequired bot texts sender
        return failureState
  else
    notifyNotAuthorized bot sender isQuery
    return failureState

/-- An admin in the private chat passes the check. -/
theorem adminOnly_of_authorized (h : sender.Authorized adminIds) (isQuery : Bool)
    (failureState : States) (handler : Handler States) :
  adminOnly bot texts adminIds sender isQuery failureState handler = handler
  := by
  rw [adminOnly, if_pos h.1, h.2]

/-- What is done instead when the check fails. -/
def refused (isQuery : Bool) (failureState : States) : Handler States := do
  if sender.userId ∈ adminIds then notifyPrivateChatRequired bot texts sender
  else notifyNotAuthorized bot sender isQuery
  return failureState

/-- Nobody else passes the check. -/
theorem adminOnly_of_not_authorized (h : ¬ sender.Authorized adminIds) (isQuery : Bool)
    (failureState : States) (handler : Handler States) :
  adminOnly bot texts adminIds sender isQuery failureState handler
    = refused bot texts adminIds sender isQuery failureState
  := by
  rw [adminOnly, refused]
  split_ifs with hadmin
  · split
    next hplace => apply absurd ⟨hadmin, hplace⟩ h
    next => rfl
  · rfl

end Check

/-! ### The handlers of each state -/

section Handlers

variable (bot : Telegram) (texts : BroadcastTexts) (chatId : ℤ)
  (adminOnly : Bool → States → Handler States → Handler States)

/-- The handlers of buttons at a state, with the patterns of their data and the check of those of
the admin flow. -/
def checkedButtonHandlers (storage : BotStorage) (messageId : ℤ) (data : String) :
    States → List ((String → Bool) × Handler States)
  | .welcome => [
      (isCallback .followToNodeOperator, elsewhere bot .followNodeOperator),
      (isCallback .unfollowFromNodeOperator, elsewhere bot .unfollowNodeOperator),
      (isCallback .followedEvents, elsewhere bot .followedEvents),
      (isCallback .admin, adminOnly true .welcome (elsewhere bot .admin))]
  | .followNodeOperator => [
      (isNumbered "follow_no:", elsewhere bot .followNodeOperator),
      (isNumbered "follow_no_page:", elsewhere bot .followNodeOperator),
      (isCallback .back, elsewhere bot .welcome)]
  | .unfollowNodeOperator => [
      (isNumbered "unfollow_no:", elsewhere bot .unfollowNodeOperator),
      (isNumbered "unfollow_no_page:", elsewhere bot .unfollowNodeOperator),
      (isCallback .back, elsewhere bot .welcome)]
  | .followedEvents => [
      (isCallback .back, elsewhere bot .welcome)]
  | .admin => [
      (isCallback .back, elsewhere bot .welcome),
      (isCallback .adminSubscriptions, adminOnly true .welcome (elsewhere bot .admin)),
      (isCallback .adminBroadcast,
        adminOnly true .welcome (broadcastMenu bot texts chatId messageId))]
  | .adminBroadcast => [
      (isCallback .back, elsewhere bot .welcome),
      (isCallback .adminBroadcastAll,
        adminOnly true .welcome (broadcastAllPrompt bot texts chatId messageId)),
      (isCallback .adminBroadcastByNo,
        adminOnly true .welcome (broadcastByNo bot texts chatId messageId))]
  | .adminBroadcastMessageAll => [
      (isCallback .back, adminOnly true .welcome (broadcastMenu bot texts chatId messageId)),
      (isConfirmation .adminBroadcastConfirmAll,
        adminOnly true .adminBroadcastMessageAll
          (broadcastAllConfirm bot texts chatId storage messageId data))]
  | .adminBroadcastSelectNo => [
      (isCallback .back, adminOnly true .welcome (broadcastMenu bot texts chatId messageId))]
  | .adminBroadcastMessageSelected => [
      (isCallback .back, adminOnly true .welcome (broadcastByNo bot texts chatId messageId)),
      (isConfirmation .adminBroadcastConfirmSelected,
        adminOnly true .adminBroadcastMessageSelected
          (broadcastSelectedConfirm bot texts chatId storage messageId data))]

/-- The handler of a button at a state: the first one whose pattern its data matches. -/
def checkedButtonHandler (storage : BotStorage) (messageId : ℤ) (data : String) (s : States) :
    Option (Handler States) :=
  ((checkedButtonHandlers bot texts chatId adminOnly storage messageId data s).find?
    fun entry => entry.1 data).map (·.2)

/-- The handler of a message at a state, a text or anything else. -/
def checkedMessageHandler (message : Option IncomingMessage) (isText : Bool) :
    States → Option (Handler States)
  | .followNodeOperator => if isText then some (elsewhere bot .followNodeOperator) else none
  | .unfollowNodeOperator => if isText then some (elsewhere bot .unfollowNodeOperator) else none
  | .adminBroadcastMessageAll =>
      some (adminOnly false .adminBroadcastMessageAll
        (broadcastAllMessage bot texts chatId message))
  | .adminBroadcastSelectNo =>
      if isText then
        some (adminOnly false .adminBroadcastSelectNo
          (broadcastEnterNoIdsMessage bot texts chatId message))
      else none
  | .adminBroadcastMessageSelected =>
      some (adminOnly false .adminBroadcastMessageSelected
        (broadcastSelectedMessage bot texts chatId message))
  | .welcome | .followedEvents | .admin | .adminBroadcast => none

/-- `build_conversation_handler`: the handler of an update, if any, with the checks. -/
def checkedConversationHandler (storage : BotStorage) (state : Option States) :
    Update → Option (Handler States)
  | .start => some (start bot chatId)
  | .command => none
  | .callbackQuery messageId data =>
      state.bind (checkedButtonHandler bot texts chatId adminOnly storage messageId data)
  | .message messageId text =>
      state.bind
        (checkedMessageHandler bot texts chatId adminOnly (some ⟨messageId, text⟩) text.isSome)
  | .editedMessage _ text =>
      state.bind (checkedMessageHandler bot texts chatId adminOnly none text.isSome)

variable {bot texts chatId adminOnly}

/-- Without the check the handlers are those of the conversation of an admin. -/
theorem checkedConversationHandler_of_passes
    (h : ∀ isQuery failureState handler, adminOnly isQuery failureState handler = handler)
    (storage : BotStorage) (state : Option States) (update : Update) :
  checkedConversationHandler bot texts chatId adminOnly storage state update
    = conversationHandler bot texts chatId storage state update
  := by
  have hmessage (message : Option IncomingMessage) (isText : Bool) (s : States) :
      checkedMessageHandler bot texts chatId adminOnly message isText s
        = messageHandler bot texts chatId message isText s := by
    cases s <;> simp only [checkedMessageHandler, messageHandler, h]
  have hbuttons (messageId : ℤ) (data : String) (s : States) :
      checkedButtonHandlers bot texts chatId adminOnly storage messageId data s
        = buttonHandlers bot texts chatId storage messageId data s := by
    cases s <;> simp only [checkedButtonHandlers, buttonHandlers, h]
  cases update with
  | start => rfl
  | command => rfl
  | callbackQuery messageId data =>
      rw [checkedConversationHandler, conversationHandler]
      congr 1
      funext s
      rw [checkedButtonHandler, buttonHandler, hbuttons]
  | message messageId text =>
      rw [checkedConversationHandler, conversationHandler]
      congr 1
      funext s
      apply hmessage
  | editedMessage messageId text =>
      rw [checkedConversationHandler, conversationHandler]
      congr 1
      funext s
      apply hmessage

end Handlers

/-! ### What users without authority reach -/

/-- A state of the admin flow. -/
def States.isAdmin : States → Bool
  | welcome | followNodeOperator | unfollowNodeOperator | followedEvents => false
  | admin | adminBroadcast | adminBroadcastMessageAll | adminBroadcastSelectNo
  | adminBroadcastMessageSelected => true

/-- What only the admin flow changes. -/
structure World.Outside (chatId : ℤ) (w₀ w : World) : Prop extends World.Frame chatId w₀ w where
  session : w.session = w₀.session
  copies : w.copies = w₀.copies

section Outsiders

variable {bot : Telegram} {texts : AdminTexts} {adminIds : Finset ℤ} {sender : Sender}
  {chatId : ℤ} {storage : BotStorage} {state : Option States} {update : Update} {w : World}
  {handler : Handler States}

/-- A handler of another flow than that of the admins. -/
def Public (chatId : ℤ) (handler : Handler States) : Prop :=
  ∀ w, Ends handler w (fun next w' => World.Outside chatId w w' ∧ next.isAdmin = false)
    fun _ w' => World.Outside chatId w w'

/-- An effect that only makes calls makes more of them. -/
theorem keeps_extends {α : Type} {x : Handler α}
    (hx : ∀ w, Ends x w (fun _ w' => w.Quiet w') fun _ w' => w.Quiet w') (w₀ : World) :
  Keeps w₀.Extends x
  := by
  have htrans {w w' : World} (h : w₀.Extends w) (h' : w.Quiet w') : w₀.Extends w' :=
    ⟨h'.session.trans h.session, h'.copies.trans h.copies, fun c => (h.ids c).trans (h'.ids c)⟩
  intro w hw
  apply (hx w).mono
  · intro _ w' hw'
    apply htrans hw hw'
  · intro _ w' hw'
    apply htrans hw hw'

/-- A handler that only makes calls, and goes on with one of some states. -/
theorem public_of_extends (hframed : Framed chatId handler)
    (h : ∀ w, Ends handler w (fun next w' => w.Extends w' ∧ next.isAdmin = false)
      fun _ w' => w.Extends w') :
  Public chatId handler
  := by
  intro w
  apply ((hframed w w (.refl chatId w)).and (h w)).mono
  · rintro next w' ⟨hframe, hextends, hnext⟩
    exact ⟨⟨hframe, hextends.session, hextends.copies⟩, hnext⟩
  · rintro e w' ⟨hframe, hextends⟩
    exact ⟨hframe, hextends.session, hextends.copies⟩

theorem public_start :
  Public chatId (start bot chatId)
  := by
  apply public_of_extends framed_start
  intro w
  have hcalls := (w.quiet_of_calls (w.calls + 1)).toExtends
  rw [start, ends_bind]
  apply ends_call
  · intro _
    rw [ends_bind, ends_get, ends_bind]
    apply ends_sendMessage.mono
    · rintro _ w' ⟨hw', -⟩
      exact ⟨⟨hw'.session, hw'.copies, hw'.ids⟩, rfl⟩
    · intro _ w' hw'
      exact ⟨hw'.session, hw'.copies, hw'.ids⟩
  · intro _
    apply hcalls
  · intro _
    apply hcalls

theorem public_elsewhere {next : States} (hnext : next.isAdmin = false) :
  Public chatId (elsewhere (bot.within chatId) next)
  := by
  apply public_of_extends framed_elsewhere
  intro w
  rw [elsewhere, ends_bind, ends_modify, ends_bind]
  apply ends_call
  · intro _
    exact ⟨⟨rfl, rfl, fun _ => subset_rfl⟩, hnext⟩
  · intro _
    exact ⟨rfl, rfl, fun _ => subset_rfl⟩
  · intro _
    exact ⟨rfl, rfl, fun _ => subset_rfl⟩

theorem public_refused (isQuery : Bool) {failureState : States}
    (hfailure : failureState.isAdmin = false) :
  Public sender.chatId (refused bot texts adminIds sender isQuery failureState)
  := by
  apply public_of_extends
  · rw [refused]
    split_ifs
    · apply Framed.bind
      · apply framed_sendMessage.bind
        intro _
        apply framed_pure
      · intro _
        apply framed_pure
    · apply Framed.bind
      · rw [notifyNotAuthorized]
        cases isQuery with
        | true =>
            apply framed_answer.bind
            intro _
            apply framed_sendMessage.bind
            intro _
            apply framed_pure
        | false =>
            apply framed_sendMessage.bind
            intro _
            apply framed_pure
      · intro _
        apply framed_pure
  · intro w
    have hanswer : Keeps w.Extends (answer bot none) := keeps_extends (fun _ => ends_answer) w
    have hsend (screen : Screen) : Keeps w.Extends (sendMessage bot sender.chatId screen) := by
      apply keeps_extends
      intro w'
      apply ends_sendMessage.mono
      · intro _ _ h
        apply h.1
      · intro _ _ h
        apply h
    have hrequired : Keeps w.Extends (notifyPrivateChatRequired bot texts sender) := by
      apply (hsend _).bind
      intro _
      apply keeps_pure
    have hnotify : Keeps w.Extends (notifyNotAuthorized bot sender isQuery) := by
      rw [notifyNotAuthorized]
      cases isQuery with
      | true =>
          apply hanswer.bind
          intro _
          apply (hsend _).bind
          intro _
          apply keeps_pure
      | false =>
          apply (hsend _).bind
          intro _
          apply keeps_pure
    have hreturn {x : Handler Unit} (hx : Keeps w.Extends x) :
        Ends (x >>= fun _ => pure failureState) w
          (fun next w' => w.Extends w' ∧ next.isAdmin = false) fun _ w' => w.Extends w' := by
      rw [ends_bind]
      apply (hx w (World.quiet_of_calls w.calls).toExtends).mono
      · intro _ w' hw'
        exact ⟨hw', hfailure⟩
      · intro _ w' hw'
        apply hw'
    rw [refused]
    split_ifs
    · apply hreturn hrequired
    · apply hreturn hnotify

/-- A user without authority reaches handlers of other flows only, from a state of those. -/
theorem public_checkedConversationHandler (hnot : ¬ sender.Authorized adminIds)
    (hstate : ∀ s, state = some s → s.isAdmin = false)
    (h : checkedConversationHandler (bot.within sender.chatId) texts.toBroadcastTexts sender.chatId
      (adminOnly (bot.within sender.chatId) texts adminIds sender) storage state update
        = some handler) :
  Public sender.chatId handler
  := by
  have hmessage {message : Option IncomingMessage} {isText : Bool} {s : States}
      (hs : s.isAdmin = false)
      (h : checkedMessageHandler (bot.within sender.chatId) texts.toBroadcastTexts sender.chatId
        (adminOnly (bot.within sender.chatId) texts adminIds sender) message isText s
          = some handler) : Public sender.chatId handler := by
    cases s with
    | followNodeOperator =>
        obtain ⟨-, ⟨⟩⟩ := Option.ite_none_right_eq_some.mp h
        apply public_elsewhere rfl
    | unfollowNodeOperator =>
        obtain ⟨-, ⟨⟩⟩ := Option.ite_none_right_eq_some.mp h
        apply public_elsewhere rfl
    | welcome | followedEvents => cases h
    | _ => cases hs
  cases update with
  | start =>
      obtain rfl := Option.some.inj h
      apply public_start
  | command => cases h
  | callbackQuery messageId data =>
      obtain ⟨s, rfl, h⟩ := Option.bind_eq_some_iff.mp h
      obtain ⟨entry, hentry, rfl⟩ := Option.map_eq_some_iff.mp h
      have hmem := List.mem_of_find?_eq_some hentry
      have hs := hstate s rfl
      cases s with
      | welcome =>
          simp only [checkedButtonHandlers, List.mem_cons, List.not_mem_nil, or_false] at hmem
          rcases hmem with rfl | rfl | rfl | rfl
          · apply public_elsewhere rfl
          · apply public_elsewhere rfl
          · apply public_elsewhere rfl
          · rw [adminOnly_of_not_authorized _ _ _ _ hnot]
            apply public_refused _ rfl
      | followNodeOperator | unfollowNodeOperator =>
          simp only [checkedButtonHandlers, List.mem_cons, List.not_mem_nil, or_false] at hmem
          rcases hmem with rfl | rfl | rfl <;>
          apply public_elsewhere rfl
      | followedEvents =>
          obtain rfl := List.mem_singleton.mp hmem
          apply public_elsewhere rfl
      | _ => cases hs
  | message messageId text =>
      obtain ⟨s, rfl, h⟩ := Option.bind_eq_some_iff.mp h
      apply hmessage (hstate s rfl) h
  | editedMessage messageId text =>
      obtain ⟨s, rfl, h⟩ := Option.bind_eq_some_iff.mp h
      apply hmessage (hstate s rfl) h

end Outsiders

/-! ### Runs -/

/-- The chats, and of each user the session and the copies that the broadcasts of the user
requested. -/
structure BotWorld where
  sessions : ℤ → BroadcastSession
  copies : ℤ → List Copy
  screens : ℤ → ℤ → Option Screen
  ids : ℤ → Finset ℤ
  calls : ℕ
  alerts : List String

namespace BotWorld

/-- What the handlers see that run for a user. -/
def of (b : BotWorld) (userId : ℤ) : World where
  session := b.sessions userId
  screens := b.screens
  ids := b.ids
  calls := b.calls
  alerts := b.alerts
  copies := b.copies userId

/-- What a handler that ran for a user leaves. -/
def put (b : BotWorld) (userId : ℤ) (w : World) : BotWorld where
  sessions := Function.update b.sessions userId w.session
  copies := Function.update b.copies userId w.copies
  screens := w.screens
  ids := w.ids
  calls := w.calls
  alerts := w.alerts

@[simp]
theorem of_put_self (b : BotWorld) (userId : ℤ) (w : World) :
  (b.put userId w).of userId = w
  := by
  rw [of, put]
  dsimp only
  rw [Function.update_self, Function.update_self]

/-- What the handlers of another user see. -/
theorem of_put_of_ne {b : BotWorld} {userId v : ℤ} (h : v ≠ userId) (w : World) :
  (b.put userId w).of v
    = { w with
        session := b.sessions v
        copies := b.copies v }
  := by
  rw [of, put]
  dsimp only
  rw [Function.update_of_ne h, Function.update_of_ne h]

end BotWorld

/-- The admins, the state of each chat and user, and the chats. -/
structure Conversations where
  adminIds : Finset ℤ
  states : ℤ → ℤ → Option States
  world : BotWorld

/-- What happens to the bot. -/
inductive BotEvent where
  /-- an update, with the storage of the bot at that time -/
  | update (sender : Sender) (storage : BotStorage) (update : Update)
  /-- the process is started again, with other admins -/
  | restarted (adminIds : Finset ℤ)

namespace Conversations

variable (bot : Telegram) (texts : AdminTexts)

/-- The bot before the first update. -/
def initial (adminIds : Finset ℤ) : Conversations where
  adminIds := adminIds
  states _ _ := none
  world :=
    { sessions := fun _ => .empty
      copies := fun _ => []
      screens := fun _ _ => none
      ids := fun _ => ∅
      calls := 0
      alerts := [] }

/-- Handle an update of any user, with the storage of the bot at that time. -/
def handleUpdate (c : Conversations) (sender : Sender) (storage : BotStorage) (update : Update) :
    Conversations :=
  let chatId := sender.chatId
  let w := Conversation.receive chatId update (c.world.of sender.userId)
  match checkedConversationHandler (bot.within chatId) texts.toBroadcastTexts chatId
      (adminOnly (bot.within chatId) texts c.adminIds sender) storage
      (c.states chatId sender.userId) update with
  | none => { c with world := c.world.put sender.userId w }
  | some handler =>
      match handler.exec w with
      | (.ok next, w') =>
          { c with
            states := Function.update c.states chatId
              (Function.update (c.states chatId) sender.userId (some next))
            world := c.world.put sender.userId w' }
      | (.error _, w') => { c with world := c.world.put sender.userId w' }

/-- One event. -/
def step (c : Conversations) : BotEvent → Conversations
  | .update sender storage update => c.handleUpdate bot texts sender storage update
  | .restarted adminIds =>
      { c with
        adminIds := adminIds
        states := fun _ _ => none }

/-- The bot after some events. -/
def run (adminIds : Finset ℤ) (events : List BotEvent) : Conversations :=
  events.foldl (step bot texts) (initial adminIds)

/-! ### The invariant -/

/-- The session of each user is safe at the state of the private chat, and nobody but admins in
their private chats is in the admin flow. -/
structure Safe (texts : AdminTexts) (c : Conversations) : Prop where
  sessions : ∀ u, 0 < u → (c.world.of u).Safe texts.toBroadcastTexts u (c.states u u)
  guarded : ∀ chatId userId s, c.states chatId userId = some s → s.isAdmin = true →
    userId ∈ c.adminIds ∧ chatId = userId

/-- A conversation goes to a state, and its handler leaves the chats. -/
def goto (c : Conversations) (sender : Sender) (state : Option States) (w : World) :
    Conversations :=
  { c with
    states := Function.update c.states sender.chatId
      (Function.update (c.states sender.chatId) sender.userId state)
    world := c.world.put sender.userId w }

section Steps

variable {bot : Telegram} {texts : AdminTexts} {c : Conversations} {sender : Sender}
  {storage : BotStorage} {update : Update} {state : Option States} {w : World}

theorem states_goto (chatId userId : ℤ) :
  (c.goto sender state w).states chatId userId
    = if chatId = sender.chatId ∧ userId = sender.userId then state else c.states chatId userId
  := by
  rw [goto]
  dsimp only
  by_cases hchat : chatId = sender.chatId
  · subst hchat
    rw [Function.update_self]
    by_cases huser : userId = sender.userId
    · subst huser
      rw [Function.update_self, if_pos ⟨rfl, rfl⟩]
    · rw [Function.update_of_ne huser, if_neg fun h => huser h.2]
  · rw [Function.update_of_ne hchat, if_neg fun h => hchat h.1]

/-- An update leads to a state and to chats of which what is known of its handler holds. -/
theorem exists_handleUpdate {P : Option States → World → Prop}
    (hnone : checkedConversationHandler (bot.within sender.chatId)
        texts.toBroadcastTexts sender.chatId
        (adminOnly (bot.within sender.chatId) texts c.adminIds sender) storage
        (c.states sender.chatId sender.userId) update = none →
      P (c.states sender.chatId sender.userId)
        (Conversation.receive sender.chatId update (c.world.of sender.userId)))
    (hsome : ∀ handler, checkedConversationHandler (bot.within sender.chatId)
        texts.toBroadcastTexts sender.chatId
        (adminOnly (bot.within sender.chatId) texts c.adminIds sender) storage
        (c.states sender.chatId sender.userId) update = some handler →
      Ends handler (Conversation.receive sender.chatId update (c.world.of sender.userId))
        (fun next w => P (some next) w) fun _ w => P (c.states sender.chatId sender.userId) w) :
  ∃ state w, P state w ∧ c.handleUpdate bot texts sender storage update = c.goto sender state w
  := by
  have hstay (w : World) : { c with world := c.world.put sender.userId w }
      = c.goto sender (c.states sender.chatId sender.userId) w := by
    rw [goto, Function.update_eq_self, Function.update_eq_self]
  rw [handleUpdate]
  split
  next hhandler =>
      exact ⟨_, _, hnone hhandler, hstay _⟩
  next handler hhandler =>
      have hends := hsome handler hhandler
      rw [Ends] at hends
      split at hends
      next next w hexec =>
          rw [hexec]
          exact ⟨some next, w, hends, rfl⟩
      next e w hexec =>
          rw [hexec]
          exact ⟨_, w, hends, hstay w⟩

/-- What the handlers of other chats do keeps a session safe. -/
theorem safe_of_frame {texts : BroadcastTexts} {chatId v : ℤ} {w' : World}
    (h : w.Safe texts v state) (hne : v ≠ chatId) (hframe : World.Frame chatId w w')
    (hsession : w'.session = w.session) (hcopies : w'.copies = w.copies) :
  w'.Safe texts v state
  := by
  have hshows (screen : Screen) (hscreen : w.Shows v screen) : w'.Shows v screen := by
    intro m hchat hm
    rw [hsession] at hchat hm
    rw [hframe.screens v hne]
    apply hscreen m hchat hm
  constructor
  · apply h.sound.of_prompts (h.sound.prompts ⟨hsession, hcopies, hframe.ids⟩)
  · rw [hsession]
    apply h.noPreview
  · rw [hsession]
    intro hstate p hp
    apply hshows _ (h.shownAll hstate p hp)
  · rw [hsession]
    intro hstate p hp
    obtain ⟨ids, hids, hselected, hscreen⟩ := h.shownSelected hstate p hp
    use ids, hids, hselected, hshows _ hscreen

/-- A safe conversation in one chat keeps those of all users safe. -/
theorem Safe.goto (hc : c.Safe texts)
    (hframe : World.Frame sender.chatId (c.world.of sender.userId) w)
    (hown : sender.place = .privateChat →
      w.Safe texts.toBroadcastTexts sender.userId state)
    (hother : sender.place ≠ .privateChat →
      w.session = c.world.sessions sender.userId ∧ w.copies = c.world.copies sender.userId)
    (hguarded : ∀ s, state = some s → s.isAdmin = true → sender.Authorized c.adminIds) :
  (c.goto sender state w).Safe texts
  := by
  constructor
  · intro v hv
    by_cases hchat : v = sender.chatId
    · -- the private chat of the sender
      have hplace : sender.place = .privateChat := by
        apply Sender.place_of_chatId_pos
        rw [← hchat]
        apply hv
      have huser : v = sender.userId := hchat.trans (Sender.chatId_of_private hplace)
      rw [states_goto, if_pos ⟨hchat, huser⟩, huser]
      change World.Safe _ _ _ ((c.world.put sender.userId w).of sender.userId)
      rw [BotWorld.of_put_self]
      apply hown hplace
    · rw [states_goto, if_neg fun h => hchat h.1]
      change World.Safe _ _ _ ((c.world.put sender.userId w).of v)
      by_cases huser : v = sender.userId
      · -- the sender, who is in a group
        subst huser
        have hplace : sender.place ≠ .privateChat := by
          intro hplace
          apply hchat (Sender.chatId_of_private hplace).symm
        obtain ⟨hsession, hcopies⟩ := hother hplace
        rw [BotWorld.of_put_self]
        apply safe_of_frame (hc.sessions sender.userId hv) hchat hframe hsession hcopies
      · rw [BotWorld.of_put_of_ne huser]
        have hframe' : World.Frame sender.chatId (c.world.of v)
            { w with
              session := c.world.sessions v
              copies := c.world.copies v } := ⟨hframe.screens, hframe.ids⟩
        apply safe_of_frame (hc.sessions v hv) hchat hframe' rfl rfl
  · intro chatId userId s hs hadmin
    rw [states_goto] at hs
    split_ifs at hs with hsame
    · obtain ⟨rfl, rfl⟩ := hsame
      have hauthorized := hguarded s hs hadmin
      use hauthorized.1, Sender.chatId_of_private hauthorized.2
    · apply hc.guarded chatId userId s hs hadmin

/-- Receiving an update keeps the frame of its chat. -/
theorem frame_receive (chatId : ℤ) (update : Update) (w : World) :
  World.Frame chatId w (Conversation.receive chatId update w)
  := by
  rw [Conversation.receive]
  split
  · apply World.Frame.refl
  · apply World.frame_addId

omit bot in
/-- A sound session is safe before a conversation. -/
theorem safe_none {texts : BroadcastTexts} {chatId : ℤ} (h : w.Sound chatId) :
  w.Safe texts chatId none
  where
    sound := h
    noPreview hstate := by
      rcases hstate with hstate | hstate <;> cases hstate
    shownAll hstate := by cases hstate
    shownSelected hstate := by cases hstate

/-- What an update of a user without authority leaves as it is. -/
structure Refused (c : Conversations) (sender : Sender) (c' : Conversations) : Prop where
  sessions : c'.world.sessions = c.world.sessions
  copies : c'.world.copies = c.world.copies
  screens : ∀ chatId ≠ sender.chatId, c'.world.screens chatId = c.world.screens chatId

/-- An update of a user without authority. -/
theorem step_of_not_authorized (bot : Telegram) (hc : c.Safe texts)
    (hnot : ¬ sender.Authorized c.adminIds) (storage : BotStorage) (update : Update) :
  (c.handleUpdate bot texts sender storage update).Safe texts
    ∧ c.Refused sender (c.handleUpdate bot texts sender storage update)
  := by
  have hpublic : ∀ s, c.states sender.chatId sender.userId = some s → s.isAdmin = false := by
    intro s hs
    rw [← Bool.not_eq_true]
    intro hadmin
    obtain ⟨hmem, hchat⟩ := hc.guarded _ _ s hs hadmin
    apply hnot
    use hmem
    apply Sender.place_of_chatId_pos
    rw [hchat]
    apply sender.positive
  have hreceive : World.Outside sender.chatId (c.world.of sender.userId)
      (Conversation.receive sender.chatId update (c.world.of sender.userId)) :=
    ⟨frame_receive _ _ _, Conversation.quiet_receive.session, Conversation.quiet_receive.copies⟩
  have houtside {w : World} (h : World.Outside sender.chatId
      (Conversation.receive sender.chatId update (c.world.of sender.userId)) w) :
      World.Outside sender.chatId (c.world.of sender.userId) w :=
    ⟨hreceive.toFrame.trans h.toFrame, h.session.trans hreceive.session,
      h.copies.trans hreceive.copies⟩
  obtain ⟨state, w, ⟨houtside, hstate⟩, hgoto⟩ : ∃ state w,
      (World.Outside sender.chatId (c.world.of sender.userId) w
        ∧ ∀ s, state = some s → s.isAdmin = false)
      ∧ c.handleUpdate bot texts sender storage update = c.goto sender state w := by
    apply exists_handleUpdate
    · intro _
      use hreceive, hpublic
    · intro handler hhandler
      apply (public_checkedConversationHandler hnot hpublic hhandler _).mono
      · rintro next w ⟨hw, hnext⟩
        use houtside hw
        rintro s ⟨⟩
        apply hnext
      · intro _ w hw
        exact ⟨houtside hw, hpublic⟩
  rw [hgoto]
  constructor
  · apply hc.goto houtside.toFrame
    · intro hplace
      have hchat := Sender.chatId_of_private hplace
      have hsafe := hc.sessions sender.userId sender.positive
      have hsound := hsafe.sound.of_prompts
        (hsafe.sound.prompts ⟨houtside.session, houtside.copies, houtside.ids⟩)
      cases state with
      | none => apply safe_none hsound
      | some s =>
          apply hsound.safe
          have hs := hstate s rfl
          cases s <;> first | rfl | cases hs
    · intro _
      exact ⟨houtside.session, houtside.copies⟩
    · intro s hs hadmin
      rw [hstate s hs] at hadmin
      cases hadmin
  · constructor
    · change Function.update c.world.sessions sender.userId w.session = c.world.sessions
      rw [houtside.session]
      apply Function.update_eq_self
    · change Function.update c.world.copies sender.userId w.copies = c.world.copies
      rw [houtside.copies]
      apply Function.update_eq_self
    · apply houtside.screens

/-- An update of an admin in the private chat. -/
theorem step_of_authorized (bot : Telegram) (hc : c.Safe texts)
    (hauthorized : sender.Authorized c.adminIds) (storage : BotStorage) (update : Update) :
  let c' := c.handleUpdate bot texts sender storage update
  c'.Safe texts
    ∧ (c.world.of sender.userId).Step (bot.within sender.userId) sender.userId storage
      (c.states sender.userId sender.userId) update (c'.world.of sender.userId)
    ∧ ∀ v ≠ sender.userId, c'.world.copies v = c.world.copies v
  := by
  have hchat := Sender.chatId_of_private hauthorized.2
  have hsafe := hc.sessions sender.userId sender.positive
  have hreceived : (Conversation.receive sender.userId update
      (c.world.of sender.userId)).Safe texts.toBroadcastTexts sender.userId
        (c.states sender.userId sender.userId) := hsafe.quiet Conversation.quiet_receive
  obtain ⟨state, w, ⟨hframe, hsafe', hstep⟩, hgoto⟩ : ∃ state w,
      (World.Frame sender.chatId (c.world.of sender.userId) w
        ∧ w.Safe texts.toBroadcastTexts sender.userId state
        ∧ (c.world.of sender.userId).Step (bot.within sender.userId) sender.userId storage
          (c.states sender.userId sender.userId) update w)
      ∧ c.handleUpdate bot texts sender storage update = c.goto sender state w := by
    apply exists_handleUpdate
    · intro hnone
      rw [hchat]
      use frame_receive _ _ _, hreceived
      left
      use Conversation.quiet_receive.copies
      rintro kind messageId data rfl hdata
      left
      constructor
      · rintro ⟨hstate, -⟩
        rw [checkedConversationHandler_of_passes
          (adminOnly_of_authorized _ _ _ _ hauthorized), hchat, hstate] at hnone
        apply Conversation.conversationHandler_ne_none hdata hnone
      · apply Conversation.quiet_receive.session
    · intro handler hhandler
      rw [hchat] at hhandler ⊢
      -- the check passes, so the handler is the one of the conversation of an admin
      rw [checkedConversationHandler_of_passes
        (adminOnly_of_authorized _ _ _ _ hauthorized)] at hhandler
      have hframed := framed_conversationHandler (ne_of_gt sender.positive) hhandler
      have hsteps := steps_conversationHandler hreceived
        (fun _ => Conversation.mem_ids_receive) hhandler
      apply ((hframed _ _ (frame_receive sender.userId update _)).and hsteps).mono
      · rintro next w ⟨hframe, hsafe', hstep⟩
        use hframe, hsafe', Conversation.step_of_receive hstep
      · rintro _ w ⟨hframe, hsafe', hstep⟩
        use hframe, hsafe', Conversation.step_of_receive hstep
  dsimp only
  rw [hgoto]
  use hc.goto hframe (fun _ => hsafe') (fun h => absurd hauthorized.2 h) fun _ _ _ => hauthorized
  constructor
  · change World.Step _ _ _ _ _ _ ((c.world.put sender.userId w).of sender.userId)
    rw [BotWorld.of_put_self]
    apply hstep
  · intro v hv
    apply Function.update_of_ne hv

end Steps

/-- A restart begins all conversations anew. -/
theorem Safe.restarted {texts : AdminTexts} {c : Conversations} (hc : c.Safe texts)
    (adminIds : Finset ℤ) :
  ({ c with
      adminIds := adminIds
      states := fun _ _ => none } : Conversations).Safe texts
  where
    sessions u hu := safe_none (hc.sessions u hu).sound
    guarded _ _ _ hs := by cases hs

theorem safe_initial (texts : AdminTexts) (adminIds : Finset ℤ) :
  (initial adminIds).Safe texts
  where
    sessions _ _ := Conversation.safe_initial
    guarded _ _ _ hs := by cases hs

/-- The sessions of all users are safe after any events. -/
theorem safe_run (bot : Telegram) (texts : AdminTexts) (adminIds : Finset ℤ)
    (events : List BotEvent) :
  (run bot texts adminIds events).Safe texts
  := by
  induction events using List.reverseRecOn with
  | nil => apply safe_initial
  | append_singleton events event ih =>
      rw [run, List.foldl_append]
      cases event with
      | update sender storage update =>
          by_cases hauthorized : sender.Authorized (run bot texts adminIds events).adminIds
          · apply (step_of_authorized bot ih hauthorized storage update).1
          · apply (step_of_not_authorized bot ih hauthorized storage update).1
      | restarted adminIds => apply ih.restarted

/-- A click of a user broadcasts a preview, and nothing of another user. -/
structure Broadcasts (texts : AdminTexts) (u : ℤ) (storage : BotStorage) (messageId : ℤ)
    (data : String) (audience : Audience) (p : ℤ) (c c' : Conversations) : Prop where
  sends : (c.world.of u).Broadcasts texts.toBroadcastTexts u storage messageId data audience p
    (c'.world.of u)
  others : ∀ v ≠ u, c'.world.copies v = c.world.copies v

/-- Of any users, only an admin in the private chat broadcasts, and only what the prompt there
shows. After any events, the next update copies nothing, or it is the click of an admin in the
private chat that confirms the preview of the prompt, which is broadcast. Such a click broadcasts
the preview once it is answered. An update of anybody else leaves all sessions and the screens of
all other chats as they are, and nobody else is ever in the admin flow. -/
theorem broadcasts_are_authorized (bot : Telegram) (texts : AdminTexts) (adminIds : Finset ℤ)
    (events : List BotEvent) (sender : Sender) (storage : BotStorage) (update : Update) :
  let u := sender.userId
  let c := run bot texts adminIds events
  let c' := c.handleUpdate bot texts sender storage update
  (c'.world.copies = c.world.copies ∨ sender.Authorized c.adminIds ∧
    ∃ messageId data audience p, update = .callbackQuery messageId data ∧
      c.Broadcasts texts u storage messageId data audience p c') ∧
  (sender.Authorized c.adminIds → ∀ (kind : BroadcastKind) messageId data p,
    update = .callbackQuery messageId data → c.states u u = some kind.state →
    (c.world.of u).Confirms u messageId data kind.callback p →
    (c.world.of u).NextSucceeds bot →
    ∃ audience : Audience, audience.kind = kind ∧
      c.Broadcasts texts u storage messageId data audience p c') ∧
  (¬ sender.Authorized c.adminIds → c.Refused sender c') ∧
  ∀ chatId userId s, c'.states chatId userId = some s → s.isAdmin = true →
    userId ∈ c'.adminIds ∧ chatId = userId
  := by
  dsimp only
  have hc := safe_run bot texts adminIds events
  by_cases hauthorized : sender.Authorized (run bot texts adminIds events).adminIds
  · obtain ⟨hsafe, hstep, hothers⟩ := step_of_authorized bot hc hauthorized storage update
    have hsession := hc.sessions sender.userId sender.positive
    obtain ⟨hcopies, hclick⟩ | ⟨kind, messageId, data, p, hupdate, hdata, hstate, hp, hcopies⟩ :=
      hstep
    · refine ⟨Or.inl ?_, ?_, fun hnot => absurd hauthorized hnot, hsafe.guarded⟩
      · funext v
        by_cases hv : v = sender.userId
        · rw [hv]
          apply hcopies
        · apply hothers v hv
      · intro _ kind messageId data p hupdate hstate hp hsucceeds
        obtain ⟨hno, -⟩ | ⟨-, hfails⟩ :=
          hclick kind messageId data hupdate (isConfirmation_of_confirms hp)
        · apply absurd ⟨hstate, p, hp⟩ hno
        · apply absurd hsucceeds hfails
    · rw [hstate] at hsession
      obtain ⟨audience, rfl, hbroadcasts⟩ := exists_broadcasts hsession hp hcopies
      refine ⟨Or.inr ⟨hauthorized, messageId, data, audience, p, hupdate, ⟨hbroadcasts, hothers⟩⟩,
        ?_, fun hnot => absurd hauthorized hnot, hsafe.guarded⟩
      intro _ kind' messageId' data' p' hupdate' _ hp' _
      obtain ⟨rfl, rfl⟩ := Update.callbackQuery.inj (hupdate.symm.trans hupdate')
      obtain ⟨rfl, rfl⟩ := eq_of_confirms hp hp'
      exact ⟨audience, rfl, hbroadcasts, hothers⟩
  · obtain ⟨hsafe, hrefused⟩ := step_of_not_authorized bot hc hauthorized storage update
    use Or.inl hrefused.copies, fun h => absurd h hauthorized, fun _ => hrefused, hsafe.guarded

/-- The texts of a module without texts. -/
def AdminTexts.blank : AdminTexts :=
  { BroadcastTexts.blank with adminPrivateChatRequired := "" }

/-- A user in a group. -/
def stranger : Sender :=
  ⟨9, by decide, .group (-5) (by decide)⟩

/-- An admin in the private chat. -/
def admin : Sender :=
  ⟨7, by decide, .privateChat⟩

/-- A stranger asks for the menu of the admins. After a restart an admin chooses to broadcast to
all, and sends a message. -/
def chooseAllAfterRestart : List BotEvent :=
  [ .update stranger (.follower "1") .start
  , .update stranger (.follower "1") (.callbackQuery 1 "5")
  , .restarted {7} ] ++ chooseAll.map fun update => .update admin update.1 update.2

/-- The click of the admin broadcasts the preview, and the same click of the stranger nothing. -/
theorem broadcasts_are_authorized_chooseAll :
  let c := run .reliable AdminTexts.blank ∅ chooseAllAfterRestart
  (∃ audience, audience.kind = .all ∧ c.Broadcasts AdminTexts.blank 7 (.follower "1") 1 "10:3"
      audience 3 (c.handleUpdate .reliable AdminTexts.blank admin (.follower "1")
        (.callbackQuery 1 "10:3")))
    ∧ c.Refused stranger (c.handleUpdate .reliable AdminTexts.blank stranger (.follower "1")
        (.callbackQuery 1 "10:3"))
  := by
  intro c
  obtain ⟨-, hconfirms, -, -⟩ := broadcasts_are_authorized .reliable AdminTexts.blank ∅
    chooseAllAfterRestart admin (.follower "1") (.callbackQuery 1 "10:3")
  obtain ⟨-, -, hrefuses, -⟩ := broadcasts_are_authorized .reliable AdminTexts.blank ∅
    chooseAllAfterRestart stranger (.follower "1") (.callbackQuery 1 "10:3")
  constructor
  · have hauthorized : admin.Authorized c.adminIds := ⟨Finset.mem_singleton_self _, rfl⟩
    have hp : (c.world.of 7).Confirms 7 1 "10:3" BroadcastKind.all.callback 3 :=
      ⟨by decide, rfl, rfl, rfl⟩
    apply hconfirms hauthorized .all 1 "10:3" 3 rfl rfl hp rfl
  · apply hrefuses
    rintro ⟨-, hplace⟩
    cases hplace

end Conversations

end Sentinel.Admin
