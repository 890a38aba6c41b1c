import Sentinel.Effect
import Sentinel.Sorting
import Sentinel.Storage.BotStorage
import Sentinel.Text
import Mathlib.Data.Finset.Sort
import Mathlib.Data.String.Basic

/-!
# Broadcasts of an admin

An admin chooses whom to send a message to, sends the message to the bot, sees a preview of it
and confirms. The data of the admin holds a session: the message of the bot that shows the
prompts, the selected node operators and the preview. The handlers change the session between
calls of Telegram, each of which may fail.
-/

namespace Sentinel.Admin

open Python

/-! ### States and buttons -/

/-- The states of a conversation. -/
inductive States where
  | welcome
  | followNodeOperator
  | unfollowNodeOperator
  | followedEvents
  | admin
  | adminBroadcast
  | adminBroadcastMessageAll
  | adminBroadcastSelectNo
  | adminBroadcastMessageSelected
deriving DecidableEq

/-- The buttons of the bot. -/
inductive Callback where
  | followToNodeOperator
  | unfollowFromNodeOperator
  | followedEvents
  | back
  | admin
  | adminSubscriptions
  | adminBroadcast
  | adminBroadcastAll
  | adminBroadcastByNo
  | adminBroadcastConfirmAll
  | adminBroadcastConfirmSelected
deriving DecidableEq

/-- The data of a button. -/
def Callback.value : Callback → String
  | followToNodeOperator => "1"
  | unfollowFromNodeOperator => "2"
  | followedEvents => "3"
  | back => "4"
  | admin => "5"
  | adminSubscriptions => "6"
  | adminBroadcast => "7"
  | adminBroadcastAll => "8"
  | adminBroadcastByNo => "9"
  | adminBroadcastConfirmAll => "10"
  | adminBroadcastConfirmSelected => "11"

structure InlineKeyboardButton where
  text : String
  callbackData : String

/-- What a message of the bot shows. -/
structure Screen where
  text : String
  replyMarkup : List (List InlineKeyboardButton)

/-- The texts of a module for broadcasts. -/
structure BroadcastTexts where
  buttonBack : String
  buttonSendBroadcast : String
  adminBroadcastMenuText : String
  adminBroadcastAll : String
  adminBroadcastByNo : String
  adminBroadcastEnterMessageAll : String
  adminBroadcastEnterNoIds : String
  adminBroadcastNoIdsInvalid : String
  adminBroadcastConfirmHint : String
  adminBroadcastPreviewAll : String
  adminBroadcastPreviewSelected : String → String

/-! ### The session -/

/-- The session of a broadcast in the data of an admin. -/
structure BroadcastSession where
  promptChatId : Option ℤ
  promptMessageId : Option ℤ
  selectedIds : Option (Finset String)
  previewChatId : Option ℤ
  previewMessageId : Option ℤ
deriving DecidableEq

namespace BroadcastSession

/-- The data of an admin before the first broadcast. -/
def empty : BroadcastSession :=
  ⟨none, none, none, none, none⟩

/-- Store the chat and the id of a message, unless there is no message. -/
def storePrompt (message : Option (ℤ × ℤ)) (session : BroadcastSession) : BroadcastSession :=
  match message with
  | none => session
  | some (chatId, messageId) =>
      { session with promptChatId := some chatId, promptMessageId := some messageId }

def setSelectedIds (ids : Finset String) (session : BroadcastSession) : BroadcastSession :=
  { session with selectedIds := some ids }

def clearSelectedIds (session : BroadcastSession) : BroadcastSession :=
  { session with selectedIds := none }

def storePreview (chatId messageId : ℤ) (session : BroadcastSession) : BroadcastSession :=
  { session with previewChatId := some chatId, previewMessageId := some messageId }

def clearPreview (session : BroadcastSession) : BroadcastSession :=
  { session with previewChatId := none, previewMessageId := none }

/-- Take the preview out of the session, if it is the one that is confirmed at the prompt. -/
def consumePreview (promptChatId promptMessageId previewMessageId : ℤ)
    (session : BroadcastSession) : Option ((ℤ × ℤ) × BroadcastSession) :=
  if session.promptChatId ≠ some promptChatId ∨ session.promptMessageId ≠ some promptMessageId ∨
      session.previewMessageId ≠ some previewMessageId then none
  else
    match session.previewChatId with
    | none => none
    | some previewChatId => some ((previewChatId, previewMessageId), session.clearPreview)

end BroadcastSession

/-! ### Calls of Telegram -/

/-- What a call of Telegram raises. -/
inductive Failure where
  | badRequest
  | telegramError
  | other
deriving DecidableEq

/-- A `TelegramError`, of which `BadRequest` is one kind. -/
def Failure.isTelegramError : Failure → Bool
  | badRequest | telegramError => true
  | other => false

/-- How a call ends: it may be carried out although it fails, and an edited message may not be
returned. -/
structure Outcome where
  failure : Option Failure
  carriedOut : Bool
  returnsMessage : Bool

/-- The call is carried out. A bad request never is. -/
def Outcome.takesEffect (outcome : Outcome) : Bool :=
  match outcome.failure with
  | none => true
  | some .badRequest => false
  | some _ => outcome.carriedOut

/-- What the handlers meet, call by call: the outcome of the call, the id of a new message in a
chat with some messages, the screen of the bot at its start, and what the handlers of other flows
make of the screens. -/
structure Telegram where
  outcome : ℕ → Outcome
  newId : ℕ → Finset ℤ → ℤ
  newId_notMem : ∀ n ids, newId n ids ∉ ids
  welcome : ℕ → Screen
  elsewhere : ℕ → (ℤ → ℤ → Option Screen) → ℤ → ℤ → Option Screen

/-- A message that a broadcast copies to a chat. -/
structure Copy where
  chatId : ℤ
  fromChatId : ℤ
  messageId : ℤ

/-- The session and the chats: what each message of the bot shows, the ids of the messages of
each chat, the number of calls so far, the alerts, and the copies that broadcasts requested. -/
structure World where
  session : BroadcastSession
  screens : ℤ → ℤ → Option Screen
  ids : ℤ → Finset ℤ
  calls : ℕ
  alerts : List String
  copies : List Copy

/-- A handler of updates. -/
abbrev Handler :=
  Effect World Failure

section Calls

variable (bot : Telegram)

/-- The next call, which does something when it is carried out. -/
def call (perform : World → World) : Handler Outcome := do
  let outcome := bot.outcome (← get).calls
  modify fun w => { w with calls := w.calls + 1 }
  modify fun w => if outcome.takesEffect then perform w else w
  match outcome.failure with
  | none => return outcome
  | some e => throw e

/-- `query.answer`, with an alert or without. -/
def answer (alert : Option String) : Handler Unit := do
  let _ ← call bot fun w => { w with alerts := w.alerts ++ alert.toList }

/-- Delete a message. -/
def deleteMessage : Handler Unit := do
  let _ ← call bot id

/-- A message of the bot shows a screen. -/
def World.show (chatId messageId : ℤ) (screen : Screen) (w : World) : World :=
  { w with screens := fun c m =>
      if c = chatId ∧ m = messageId then some screen else w.screens c m }

/-- There is a message in a chat. -/
def World.addId (chatId messageId : ℤ) (w : World) : World :=
  { w with ids := fun c => if c = chatId then insert messageId (w.ids c) else w.ids c }

/-- Edit a message of the bot, and whether the message is returned. -/
def editMessageText (chatId messageId : ℤ) (screen : Screen) : Handler Bool := do
  let outcome ← call bot (World.show chatId messageId screen)
  return outcome.returnsMessage

/-- Send a message to a chat, and its id. -/
def sendMessage (chatId : ℤ) (screen : Screen) : Handler ℤ := do
  let w ← get
  let messageId := bot.newId w.calls (w.ids chatId)
  let _ ← call bot fun w => (w.show chatId messageId screen).addId chatId messageId
  return messageId

/-- Copy a message to a chat, and the id of the copy. -/
def copyMessage (chatId : ℤ) : Handler ℤ := do
  let w ← get
  let messageId := bot.newId w.calls (w.ids chatId)
  let _ ← call bot (World.addId chatId messageId)
  return messageId

/-- Change the session. -/
def modifySession (f : BroadcastSession → BroadcastSession) : Handler Unit :=
  modify fun w => { w with session := f w.session }

end Calls

/-! ### Prompts -/

/-- The keyboard with the button that leads back. -/
def backMarkup (texts : BroadcastTexts) : List (List InlineKeyboardButton) :=
  [[⟨texts.buttonBack, Callback.back.value⟩]]

/-- The data of the button that confirms a preview. -/
def confirmationData (callback : Callback) (previewMessageId : ℤ) : String :=
  callback.value ++ ":" ++ toString previewMessageId

/-- The keyboard with the button that confirms a preview. -/
def confirmationMarkup (texts : BroadcastTexts) (callback : Callback) (previewMessageId : ℤ) :
    List (List InlineKeyboardButton) :=
  [
    [⟨texts.buttonSendBroadcast, confirmationData callback previewMessageId⟩],
    [⟨texts.buttonBack, Callback.back.value⟩]]

def formatPreviewText (texts : BroadcastTexts) (header : String) : String :=
  header ++ "\n\n" ++ texts.adminBroadcastConfirmHint ++ "\n\nPreview is shown below."

/-- The node operators as they are shown. -/
def prettyIds (ids : Finset String) : String :=
  ", ".intercalate ((ids.image fun id => "#" ++ id).sort (· ≤ ·))

/-- The prompt to confirm a broadcast to all. -/
def previewAll (texts : BroadcastTexts) (previewMessageId : ℤ) : Screen where
  text := formatPreviewText texts texts.adminBroadcastPreviewAll
  replyMarkup := confirmationMarkup texts .adminBroadcastConfirmAll previewMessageId

/-- The prompt to confirm a broadcast to the followers of some node operators. -/
def previewSelected (texts : BroadcastTexts) (ids : Finset String) (previewMessageId : ℤ) :
    Screen where
  text := formatPreviewText texts (texts.adminBroadcastPreviewSelected (prettyIds ids))
  replyMarkup := confirmationMarkup texts .adminBroadcastConfirmSelected previewMessageId

/-- The preview that the data of a button confirms. -/
def confirmationPreviewMessageId (data : String) (callback : Callback) : Option ℤ :=
  if startsWith data (callback.value ++ ":") then
    let rawMessageId := removePrefix data (callback.value ++ ":")
    if isDecimal rawMessageId then int rawMessageId else none
  else none

example : confirmationPreviewMessageId "11:301" .adminBroadcastConfirmSelected = some 301 := by
  decide

/-- The node operator ids of a text. -/
def parseSelectedIds (rawInput : String) : Finset String :=
  let raw := String.ofList
    ((rawInput.toList.filter fun c => c ≠ '#').map fun c => if c = ' ' then ',' else c)
  (((split raw ',').map strip).filter fun token => token ≠ "" && isDigit token).toFinset

/-- A message of the admin. -/
structure IncomingMessage where
  messageId : ℤ
  text : Option String

section Handlers

variable (bot : Telegram) (texts : BroadcastTexts) (chatId : ℤ)

/-- Store the message of a prompt that was edited, if it was returned. -/
def storePrompt (messageId : ℤ) (isMessage : Bool) : Handler Unit :=
  modifySession
    (BroadcastSession.storePrompt (if isMessage then some (chatId, messageId) else none))

/-- Send a prompt as a new message. -/
def sendBroadcastPromptMessage (screen : Screen) : Handler Unit := do
  let messageId ← sendMessage bot chatId screen
  modifySession (BroadcastSession.storePrompt (some (chatId, messageId)))

/-- `_edit_broadcast_prompt_message` -/
def editBroadcastPromptMessage (screen : Screen) : Handler Unit := do
  let session := (← get).session
  match if chatId = 0 then session.promptChatId else some chatId with
  | none => return
  | some targetChatId =>
      match session.promptMessageId with
      | none => sendBroadcastPromptMessage bot targetChatId screen
      | some messageId =>
          if messageId = 0 then sendBroadcastPromptMessage bot targetChatId screen
          else
            try
              let isMessage ← editMessageText bot targetChatId messageId screen
              storePrompt targetChatId messageId isMessage
            catch e =>
              match e with
              | .badRequest => sendBroadcastPromptMessage bot targetChatId screen
              | e => throw e

/-- `_delete_preview_by_reference` -/
def deletePreviewByReference : Handler Unit := do
  try deleteMessage bot
  catch e => if e.isTelegramError then pure () else throw e

/-- `_delete_preview_message` -/
def deletePreviewMessage : Handler Unit := do
  let session := (← get).session
  modifySession BroadcastSession.clearPreview
  match session.previewChatId, session.previewMessageId with
  | some _, some _ => deletePreviewByReference bot
  | _, _ => return

/-- `_delete_user_message` -/
def deleteUserMessage (message : Option IncomingMessage) : Handler Unit := do
  match message with
  | none => return
  | some _ =>
      try deleteMessage bot
      catch e => if e.isTelegramError then pure () else throw e

/-- `_copy_preview_message` -/
def copyPreviewMessage (message : Option IncomingMessage) : Handler (Option ℤ) := do
  match message with
  | none => return none
  | some _ =>
      try
        let messageId ← copyMessage bot chatId
        pure (some messageId)
      catch e => if e.isTelegramError then pure none else throw e

/-- `_consume_confirmation`: the preview that a click confirms, which is taken out of the
session. -/
def consumeConfirmation (messageId : ℤ) (data : String) (callback : Callback) :
    Handler (Option (ℤ × ℤ)) := do
  match confirmationPreviewMessageId data callback with
  | none => return none
  | some previewMessageId =>
      match (← get).session.consumePreview chatId messageId previewMessageId with
      | none => return none
      | some (preview, session) =>
          modifySession fun _ => session
          return some preview

/-- `_broadcast_copy_to_chats`: the numbers of copies that were sent and that failed. -/
def broadcastCopyToChats (previewChatId previewMessageId : ℤ) : List ℤ → Handler (ℕ × ℕ)
  | [] => return (0, 0)
  | chat :: chats => do
      modify fun w => { w with copies := w.copies ++ [⟨chat, previewChatId, previewMessageId⟩] }
      let sent ←
        try
          let _ ← copyMessage bot chat
          pure true
        catch _ => pure false
      let counts ← broadcastCopyToChats previewChatId previewMessageId chats
      return if sent then (counts.1 + 1, counts.2) else (counts.1, counts.2 + 1)

/-! ### Handlers of buttons -/

/-- `broadcast_menu` -/
def broadcastMenu (messageId : ℤ) : Handler States := do
  answer bot none
  deletePreviewMessage bot
  let isMessage ← editMessageText bot chatId messageId
    { text := texts.adminBroadcastMenuText
      replyMarkup := [
        [⟨texts.adminBroadcastAll, Callback.adminBroadcastAll.value⟩],
        [⟨texts.adminBroadcastByNo, Callback.adminBroadcastByNo.value⟩],
        [⟨texts.buttonBack, Callback.back.value⟩]] }
  storePrompt chatId messageId isMessage
  modifySession BroadcastSession.clearSelectedIds
  return .adminBroadcast

/-- `broadcast_all_prompt` -/
def broadcastAllPrompt (messageId : ℤ) : Handler States := do
  answer bot none
  deletePreviewMessage bot
  let isMessage ← editMessageText bot chatId messageId
    { text := texts.adminBroadcastEnterMessageAll
      replyMarkup := backMarkup texts }
  storePrompt chatId messageId isMessage
  return .adminBroadcastMessageAll

/-- `broadcast_by_no` -/
def broadcastByNo (messageId : ℤ) : Handler States := do
  answer bot none
  deletePreviewMessage bot
  modifySession BroadcastSession.clearSelectedIds
  let isMessage ← editMessageText bot chatId messageId
    { text := texts.adminBroadcastEnterNoIds
      replyMarkup := backMarkup texts }
  storePrompt chatId messageId isMessage
  return .adminBroadcastSelectNo

/-- The alert of a click that confirms nothing. -/
def expiredText : String := "This confirmation has expired."

/-- `broadcast_all_confirm`, with the storage of the bot at that time. -/
def broadcastAllConfirm (storage : BotStorage) (messageId : ℤ) (data : String) :
    Handler States := do
  match ← consumeConfirmation chatId messageId data .adminBroadcastConfirmAll with
  | none =>
      answer bot (some expiredText)
      return .adminBroadcastMessageAll
  | some (previewChatId, previewMessageId) =>
      answer bot none
      let targets := storage.resolveTargetChats storage.nodeOperatorChats.ids
      if targets = ∅ then
        deletePreviewByReference bot
        let isMessage ← editMessageText bot chatId messageId
          { text := "No subscribers to notify."
            replyMarkup := backMarkup texts }
        storePrompt chatId messageId isMessage
        return .adminBroadcastMessageAll
      else
        let counts ←
          broadcastCopyToChats bot previewChatId previewMessageId (targets.sort (· ≤ ·))
        deletePreviewByReference bot
        let isMessage ← editMessageText bot chatId messageId
          { text := "Broadcast sent to " ++ toString counts.1 ++ " chat(s). Failures: "
              ++ toString counts.2 ++ "."
            replyMarkup := backMarkup texts }
        storePrompt chatId messageId isMessage
        return .adminBroadcastMessageAll

/-- `broadcast_selected_confirm`, with the storage of the bot at that time. -/
def broadcastSelectedConfirm (storage : BotStorage) (messageId : ℤ) (data : String) :
    Handler States := do
  let selected := (← get).session.selectedIds.getD ∅
  if selected = ∅ then
    answer bot (some expiredText)
    return .adminBroadcastMessageSelected
  else
    match ← consumeConfirmation chatId messageId data .adminBroadcastConfirmSelected with
    | none =>
        answer bot (some expiredText)
        return .adminBroadcastMessageSelected
    | some (previewChatId, previewMessageId) =>
        answer bot none
          let targets := storage.resolveTargetChats selected
        if targets = ∅ then
          deletePreviewByReference bot
          let isMessage ← editMessageText bot chatId messageId
            { text := "No active subscribers for the selected node operators."
              replyMarkup := backMarkup texts }
          storePrompt chatId messageId isMessage
          return .adminBroadcastMessageSelected
        else
          let counts ←
            broadcastCopyToChats bot previewChatId previewMessageId (targets.sort (· ≤ ·))
          modifySession BroadcastSession.clearSelectedIds
          deletePreviewByReference bot
          let isMessage ← editMessageText bot chatId messageId
            { text := "Broadcast to " ++ prettyIds selected ++ ": sent to " ++ toString counts.1
                ++ " chat(s). Failures: " ++ toString counts.2 ++ "."
              replyMarkup := backMarkup texts }
          storePrompt chatId messageId isMessage
          return .adminBroadcastMessageSelected

/-! ### Handlers of messages -/

/-- The prompt for another message when the preview of one failed. -/
def unableToPreview : Screen where
  text := "Unable to preview that message. Please try again."
  replyMarkup := backMarkup texts

/-- `broadcast_all_message`. An edited message is not read. -/
def broadcastAllMessage (message : Option IncomingMessage) : Handler States := do
  deletePreviewMessage bot
  let previewId ← copyPreviewMessage bot chatId message
  deleteUserMessage bot message
  match previewId with
  | none =>
      editBroadcastPromptMessage bot chatId (unableToPreview texts)
      return .adminBroadcastMessageAll
  | some previewId =>
      editBroadcastPromptMessage bot chatId (previewAll texts previewId)
      modifySession (BroadcastSession.storePreview chatId previewId)
      return .adminBroadcastMessageAll

/-- `broadcast_enter_no_ids_message` -/
def broadcastEnterNoIdsMessage (message : Option IncomingMessage) : Handler States := do
  let rawInput := strip ((message.bind IncomingMessage.text).getD "")
  let invalid : Screen :=
    { text := texts.adminBroadcastNoIdsInvalid ++ "\n\n" ++ texts.adminBroadcastEnterNoIds
      replyMarkup := backMarkup texts }
  deleteUserMessage bot message
  if rawInput = "" then
    editBroadcastPromptMessage bot chatId invalid
    return .adminBroadcastSelectNo
  else
    let ids := parseSelectedIds rawInput
    if ids = ∅ then
      editBroadcastPromptMessage bot chatId invalid
      return .adminBroadcastSelectNo
    else
      modifySession (BroadcastSession.setSelectedIds ids)
      editBroadcastPromptMessage bot chatId
        { text := "Node operators selected: " ++ prettyIds ids
            ++ "\n\nPlease enter the message to broadcast to these node operators:"
          replyMarkup := backMarkup texts }
      return .adminBroadcastMessageSelected

/-- `broadcast_selected_message`. An edited message is not read. -/
def broadcastSelectedMessage (message : Option IncomingMessage) : Handler States := do
  let selected := (← get).session.selectedIds.getD ∅
  if selected = ∅ then
    deleteUserMessage bot message
    editBroadcastPromptMessage bot chatId
      { text := "No node operators selected. Please provide node operator IDs first."
        replyMarkup := backMarkup texts }
    return .adminBroadcastSelectNo
  else
    deletePreviewMessage bot
    let previewId ← copyPreviewMessage bot chatId message
    deleteUserMessage bot message
    match previewId with
    | none =>
        editBroadcastPromptMessage bot chatId (unableToPreview texts)
        return .adminBroadcastMessageSelected
    | some previewId =>
        editBroadcastPromptMessage bot chatId (previewSelected texts selected previewId)
        modifySession (BroadcastSession.storePreview chatId previewId)
        return .adminBroadcastMessageSelected

end Handlers

end Sentinel.Admin
