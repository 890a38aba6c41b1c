import Sentinel.Handlers.Conversation

/-!
# The frames of the handlers

A handler changes the messages of its own chat only: it edits no screen of another chat, and the
messages that there are stay. A broadcast copies to other chats, which adds messages there.
-/

namespace Sentinel.Admin

open Effect

/-! ### Frames -/

/-- What the handlers of a chat leave as it is: the screens of the other chats, and that there are
messages. -/
structure World.Frame (chatId : ℤ) (w₀ w : World) : Prop where
  screens : ∀ c ≠ chatId, w.screens c = w₀.screens c
  ids : ∀ c, w₀.ids c ⊆ w.ids c

/-- The bot whose handlers of other flows edit the messages of one chat only. -/
def Telegram.within (bot : Telegram) (chatId : ℤ) : Telegram where
  outcome := bot.outcome
  newId := bot.newId
  newId_notMem := bot.newId_notMem
  welcome := bot.welcome
  elsewhere n screens c := if c = chatId then bot.elsewhere n screens c else screens c

section Frames

variable {bot : Telegram} {texts : BroadcastTexts} {chatId : ℤ} {w₀ : World}

/-- A handler keeps the frame of its chat. -/
def Framed {α : Type} (chatId : ℤ) (x : Handler α) : Prop :=
  ∀ w₀ : World, Keeps (World.Frame chatId w₀) x

theorem World.Frame.refl (chatId : ℤ) (w : World) :
  World.Frame chatId w w
  := ⟨fun _ _ => rfl, fun _ => subset_rfl⟩

/-- A change of a chat keeps the frame of the chat. -/
theorem World.Frame.trans {w w' : World} (h : World.Frame chatId w₀ w)
    (h' : World.Frame chatId w w') :
  World.Frame chatId w₀ w'
  := ⟨fun c hc => (h'.screens c hc).trans (h.screens c hc), fun c => (h.ids c).trans (h'.ids c)⟩

theorem World.frame_show (messageId : ℤ) (screen : Screen) (w : World) :
  World.Frame chatId w (w.show chatId messageId screen)
  where
    screens c hc := by
      funext m
      apply if_neg
      rintro ⟨rfl, -⟩
      apply hc rfl
    ids _ := subset_rfl

theorem World.frame_addId (c messageId : ℤ) (w : World) :
  World.Frame chatId w (w.addId c messageId)
  := ⟨fun _ _ => rfl, World.ids_subset_addId c messageId⟩

/-- A call that keeps the frame when it is carried out keeps it. -/
theorem framed_call {perform : World → World}
    (h : ∀ w, World.Frame chatId w (perform w)) :
  Framed chatId (call bot perform)
  := by
  intro w₀ w hw
  have hcalls : World.Frame chatId w₀ { w with calls := w.calls + 1 } := ⟨hw.screens, hw.ids⟩
  apply ends_call
  · intro _
    apply hcalls.trans (h _)
  · intro _
    apply hcalls
  · intro _
    apply hcalls.trans (h _)

theorem framed_pure {α : Type} (a : α) :
  Framed chatId (pure a : Handler α)
  := fun _ => keeps_pure a

theorem Framed.bind {α β : Type} {x : Handler α} {f : α → Handler β} (hx : Framed chatId x)
    (hf : ∀ a, Framed chatId (f a)) :
  Framed chatId (x >>= f)
  := fun w₀ => (hx w₀).bind fun a => hf a w₀

/-- An effect that looks at the world first. -/
theorem framed_get_bind {β : Type} {f : World → Handler β} (hf : ∀ w, Framed chatId (f w)) :
  Framed chatId (get >>= f)
  := by
  intro w₀ w hw
  rw [ends_bind, ends_get]
  apply hf w w₀ w hw

theorem framed_answer {alert : Option String} :
  Framed chatId (answer bot alert)
  := by
  rw [answer]
  apply Framed.bind
  · apply framed_call
    intro w
    exact ⟨fun _ _ => rfl, fun _ => subset_rfl⟩
  · intro _
    apply framed_pure

theorem framed_deleteMessage :
  Framed chatId (deleteMessage bot)
  := by
  rw [deleteMessage]
  apply Framed.bind
  · apply framed_call
    intro w
    apply World.Frame.refl
  · intro _
    apply framed_pure

theorem framed_editMessageText {messageId : ℤ} {screen : Screen} :
  Framed chatId (editMessageText bot chatId messageId screen)
  := by
  rw [editMessageText]
  apply Framed.bind
  · apply framed_call
    apply World.frame_show
  · intro _
    apply framed_pure

theorem framed_sendMessage {screen : Screen} :
  Framed chatId (sendMessage bot chatId screen)
  := by
  rw [sendMessage]
  apply framed_get_bind
  intro w
  apply Framed.bind
  · apply framed_call
    intro w'
    apply (World.frame_show _ screen w').trans (World.frame_addId _ _ _)
  · intro _
    apply framed_pure

/-- A message may be copied to any chat. -/
theorem framed_copyMessage {c : ℤ} :
  Framed chatId (copyMessage bot c)
  := by
  rw [copyMessage]
  apply framed_get_bind
  intro w
  apply Framed.bind
  · apply framed_call
    apply World.frame_addId
  · intro _
    apply framed_pure

theorem framed_modifySession {f : BroadcastSession → BroadcastSession} :
  Framed chatId (modifySession f)
  := by
  intro w₀ w hw
  rw [modifySession, ends_modify]
  exact ⟨hw.screens, hw.ids⟩

theorem framed_ignore {x : Handler Unit} (hx : Framed chatId x) :
  Framed chatId (tryCatch x fun e => if e.isTelegramError then pure () else throw e)
  := fun w₀ => keeps_ignore (hx w₀)

theorem framed_sendBroadcastPromptMessage {screen : Screen} :
  Framed chatId (sendBroadcastPromptMessage bot chatId screen)
  := by
  rw [sendBroadcastPromptMessage]
  apply framed_sendMessage.bind
  intro _
  apply framed_modifySession

theorem framed_editBroadcastPromptMessage (hchat : chatId ≠ 0) {screen : Screen} :
  Framed chatId (editBroadcastPromptMessage bot chatId screen)
  := by
  rw [editBroadcastPromptMessage]
  apply framed_get_bind
  intro w
  dsimp only
  rw [if_neg hchat]
  dsimp only
  split
  · apply framed_sendBroadcastPromptMessage
  · split
    · apply framed_sendBroadcastPromptMessage
    · intro w₀
      apply Keeps.tryCatch
      · apply (framed_editMessageText w₀).bind
        intro _
        apply framed_modifySession
      · intro e
        split
        · apply framed_sendBroadcastPromptMessage
        · apply keeps_throw

theorem framed_deletePreviewByReference :
  Framed chatId (deletePreviewByReference bot)
  := framed_ignore framed_deleteMessage

theorem framed_deletePreviewMessage :
  Framed chatId (deletePreviewMessage bot)
  := by
  rw [deletePreviewMessage]
  apply framed_get_bind
  intro w
  apply framed_modifySession.bind
  intro _
  split
  · apply framed_deletePreviewByReference
  · apply framed_pure

theorem framed_deleteUserMessage {message : Option IncomingMessage} :
  Framed chatId (deleteUserMessage bot message)
  := by
  cases message with
  | none => apply framed_pure
  | some message => apply framed_ignore framed_deleteMessage

theorem framed_copyPreviewMessage {message : Option IncomingMessage} :
  Framed chatId (copyPreviewMessage bot chatId message)
  := by
  cases message with
  | none => apply framed_pure
  | some message =>
      intro w₀
      apply Keeps.tryCatch
      · apply (framed_copyMessage w₀).bind
        intro _
        apply keeps_pure
      · intro e
        split
        · apply keeps_pure
        · apply keeps_throw

theorem framed_consumeConfirmation {messageId : ℤ} {data : String} {callback : Callback} :
  Framed chatId (consumeConfirmation chatId messageId data callback)
  := by
  rw [consumeConfirmation]
  split
  · apply framed_pure
  · apply framed_get_bind
    intro w
    split
    · apply framed_pure
    · apply framed_modifySession.bind
      intro _
      apply framed_pure

theorem framed_broadcastCopyToChats {previewChatId previewMessageId : ℤ} {chats : List ℤ} :
  Framed chatId (broadcastCopyToChats bot previewChatId previewMessageId chats)
  := by
  induction chats with
  | nil => apply framed_pure
  | cons chat chats ih =>
      rw [broadcastCopyToChats]
      apply Framed.bind
      · intro w₀ w hw
        rw [ends_modify]
        exact ⟨hw.screens, hw.ids⟩
      · intro _
        apply Framed.bind
        · intro w₀
          apply Keeps.tryCatch
          · apply (framed_copyMessage w₀).bind
            intro _
            apply keeps_pure
          · intro e
            apply keeps_pure
        · intro sent
          apply ih.bind
          intro counts
          apply framed_pure

/-- A message of the bot is edited and stored as the prompt. -/
theorem framed_showPrompt {messageId : ℤ} {screen : Screen} {α : Type} {x : Handler α}
    (hx : Framed chatId x) :
  Framed chatId (do
    let isMessage ← editMessageText bot chatId messageId screen
    storePrompt chatId messageId isMessage
    x)
  := by
  apply framed_editMessageText.bind
  intro isMessage
  apply framed_modifySession.bind
  intro _
  apply hx

/-! ### The frames of the handlers -/

theorem framed_broadcastMenu {messageId : ℤ} :
  Framed chatId (broadcastMenu bot texts chatId messageId)
  := by
  rw [broadcastMenu]
  apply framed_answer.bind
  intro _
  apply framed_deletePreviewMessage.bind
  intro _
  apply framed_showPrompt
  apply framed_modifySession.bind
  intro _
  apply framed_pure

theorem framed_broadcastAllPrompt {messageId : ℤ} :
  Framed chatId (broadcastAllPrompt bot texts chatId messageId)
  := by
  rw [broadcastAllPrompt]
  apply framed_answer.bind
  intro _
  apply framed_deletePreviewMessage.bind
  intro _
  apply framed_showPrompt
  apply framed_pure

theorem framed_broadcastByNo {messageId : ℤ} :
  Framed chatId (broadcastByNo bot texts chatId messageId)
  := by
  rw [broadcastByNo]
  apply framed_answer.bind
  intro _
  apply framed_deletePreviewMessage.bind
  intro _
  apply framed_modifySession.bind
  intro _
  apply framed_showPrompt
  apply framed_pure

theorem framed_broadcastAllConfirm {storage : BotStorage} {messageId : ℤ} {data : String} :
  Framed chatId (broadcastAllConfirm bot texts chatId storage messageId data)
  := by
  rw [broadcastAllConfirm]
  apply framed_consumeConfirmation.bind
  intro confirmation
  split
  · apply framed_answer.bind
    intro _
    apply framed_pure
  · apply framed_answer.bind
    intro _
    dsimp only
    split
    · apply framed_deletePreviewByReference.bind
      intro _
      apply framed_showPrompt
      apply framed_pure
    · apply framed_broadcastCopyToChats.bind
      intro counts
      apply framed_deletePreviewByReference.bind
      intro _
      apply framed_showPrompt
      apply framed_pure

theorem framed_broadcastSelectedConfirm {storage : BotStorage} {messageId : ℤ} {data : String} :
  Framed chatId (broadcastSelectedConfirm bot texts chatId storage messageId data)
  := by
  rw [broadcastSelectedConfirm]
  apply framed_get_bind
  intro w
  dsimp only
  split
  · apply framed_answer.bind
    intro _
    apply framed_pure
  · apply framed_consumeConfirmation.bind
    intro confirmation
    split
    · apply framed_answer.bind
      intro _
      apply framed_pure
    · apply framed_answer.bind
      intro _
      split
      · apply framed_deletePreviewByReference.bind
        intro _
        apply framed_showPrompt
        apply framed_pure
      · apply framed_broadcastCopyToChats.bind
        intro counts
        apply framed_modifySession.bind
        intro _
        apply framed_deletePreviewByReference.bind
        intro _
        apply framed_showPrompt
        apply framed_pure

/-- A preview of a message is copied and shown at the prompt. -/
theorem framed_preview (hchat : chatId ≠ 0) {message : Option IncomingMessage} {next : States}
    {screen : ℤ → Screen} :
  Framed chatId (do
    deletePreviewMessage bot
    let previewId ← copyPreviewMessage bot chatId message
    deleteUserMessage bot message
    match previewId with
    | none =>
        editBroadcastPromptMessage bot chatId (unableToPreview texts)
        return next
    | some previewId =>
        editBroadcastPromptMessage bot chatId (screen previewId)
        modifySession (BroadcastSession.storePreview chatId previewId)
        return next)
  := by
  apply framed_deletePreviewMessage.bind
  intro _
  apply framed_copyPreviewMessage.bind
  intro previewId
  apply framed_deleteUserMessage.bind
  intro _
  split
  · apply (framed_editBroadcastPromptMessage hchat).bind
    intro _
    apply framed_pure
  · apply (framed_editBroadcastPromptMessage hchat).bind
    intro _
    apply framed_modifySession.bind
    intro _
    apply framed_pure

theorem framed_broadcastAllMessage (hchat : chatId ≠ 0) {message : Option IncomingMessage} :
  Framed chatId (broadcastAllMessage bot texts chatId message)
  := framed_preview hchat

theorem framed_broadcastSelectedMessage (hchat : chatId ≠ 0) {message : Option IncomingMessage} :
  Framed chatId (broadcastSelectedMessage bot texts chatId message)
  := by
  rw [broadcastSelectedMessage]
  apply framed_get_bind
  intro w
  dsimp only
  split
  · apply framed_deleteUserMessage.bind
    intro _
    apply (framed_editBroadcastPromptMessage hchat).bind
    intro _
    apply framed_pure
  · apply framed_preview hchat

theorem framed_broadcastEnterNoIdsMessage (hchat : chatId ≠ 0)
    {message : Option IncomingMessage} :
  Framed chatId (broadcastEnterNoIdsMessage bot texts chatId message)
  := by
  rw [broadcastEnterNoIdsMessage]
  dsimp only
  apply framed_deleteUserMessage.bind
  intro _
  split
  · apply (framed_editBroadcastPromptMessage hchat).bind
    intro _
    apply framed_pure
  · split
    · apply (framed_editBroadcastPromptMessage hchat).bind
      intro _
      apply framed_pure
    · apply framed_modifySession.bind
      intro _
      apply (framed_editBroadcastPromptMessage hchat).bind
      intro _
      apply framed_pure

theorem framed_start :
  Framed chatId (start bot chatId)
  := by
  rw [start]
  apply (framed_call fun w => .refl chatId w).bind
  intro _
  apply framed_get_bind
  intro w
  apply framed_sendMessage.bind
  intro _
  apply framed_pure

theorem framed_elsewhere {next : States} :
  Framed chatId (elsewhere (bot.within chatId) next)
  := by
  rw [elsewhere]
  apply Framed.bind
  · intro w₀ w hw
    rw [ends_modify]
    exact ⟨fun c hc => (if_neg hc).trans (hw.screens c hc), hw.ids⟩
  · intro _
    apply (framed_call fun w => .refl chatId w).bind
    intro _
    apply framed_pure

/-- The handlers of a chat keep the frame of the chat. -/
theorem framed_conversationHandler (hchat : chatId ≠ 0) {storage : BotStorage}
    {state : Option States} {update : Update} {handler : Handler States}
    (h : conversationHandler (bot.within chatId) texts chatId storage state update
      = some handler) :
  Framed chatId handler
  := by
  have hmessage {message : Option IncomingMessage} {isText : Bool} {s : States}
      (h : messageHandler (bot.within chatId) texts chatId message isText s = some handler) :
      Framed chatId handler := by
    cases s with
    | followNodeOperator | unfollowNodeOperator =>
        obtain ⟨-, ⟨⟩⟩ := Option.ite_none_right_eq_some.mp h
        apply framed_elsewhere
    | adminBroadcastMessageAll =>
        obtain rfl := Option.some.inj h
        apply framed_broadcastAllMessage hchat
    | adminBroadcastSelectNo =>
        obtain ⟨-, ⟨⟩⟩ := Option.ite_none_right_eq_some.mp h
        apply framed_broadcastEnterNoIdsMessage hchat
    | adminBroadcastMessageSelected =>
        obtain rfl := Option.some.inj h
        apply framed_broadcastSelectedMessage hchat
    | welcome | followedEvents | admin | adminBroadcast => cases h
  cases update with
  | start =>
      obtain rfl := Option.some.inj h
      apply framed_start
  | command => cases h
  | callbackQuery messageId data =>
      obtain ⟨s, rfl, h⟩ := Option.bind_eq_some_iff.mp h
      obtain ⟨entry, hentry, rfl⟩ := Option.map_eq_some_iff.mp h
      have hmem := List.mem_of_find?_eq_some hentry
      cases s <;> simp only [buttonHandlers, List.mem_cons, List.not_mem_nil, or_false] at hmem
      case welcome => rcases hmem with rfl | rfl | rfl | rfl <;> apply framed_elsewhere
      case followNodeOperator => rcases hmem with rfl | rfl | rfl <;> apply framed_elsewhere
      case unfollowNodeOperator => rcases hmem with rfl | rfl | rfl <;> apply framed_elsewhere
      case followedEvents =>
          subst hmem
          apply framed_elsewhere
      case admin =>
          rcases hmem with rfl | rfl | rfl
          · apply framed_elsewhere
          · apply framed_elsewhere
          · apply framed_broadcastMenu
      case adminBroadcast =>
          rcases hmem with rfl | rfl | rfl
          · apply framed_elsewhere
          · apply framed_broadcastAllPrompt
          · apply framed_broadcastByNo
      case adminBroadcastMessageAll =>
          rcases hmem with rfl | rfl
          · apply framed_broadcastMenu
          · apply framed_broadcastAllConfirm
      case adminBroadcastSelectNo =>
          subst hmem
          apply framed_broadcastMenu
      case adminBroadcastMessageSelected =>
          rcases hmem with rfl | rfl
          · apply framed_broadcastByNo
          · apply framed_broadcastSelectedConfirm
  | message messageId text =>
      obtain ⟨s, rfl, h⟩ := Option.bind_eq_some_iff.mp h
      apply hmessage h
  | editedMessage messageId text =>
      obtain ⟨s, rfl, h⟩ := Option.bind_eq_some_iff.mp h
      apply hmessage h

end Frames

end Sentinel.Admin
