import Sentinel.Handlers.Admin.Safety
import Mathlib.Order.Lattice.Nat

/-!
# The conversation with an admin

The state of a conversation decides which handler an update of the admin reaches, and the
handler decides the next state. A handler that raises leaves the state as it is, and what it
has changed so far stays changed.
-/

namespace Sentinel.Admin

open Python Effect

/-! ### Updates -/

/-- An update of an admin in the private chat. -/
inductive Update where
  | start
  | command
  | callbackQuery (messageId : ℤ) (data : String)
  | message (messageId : ℤ) (text : Option String)
  | editedMessage (messageId : ℤ) (text : Option String)

namespace Update

/-- The id of the message that an update is about. -/
def messageId? : Update → Option ℤ
  | start | command => none
  | callbackQuery messageId _ | message messageId _ | editedMessage messageId _ => some messageId

end Update

/-- A text without a line break at its end. -/
def dropLineBreak (text : String) : String :=
  if text.toList.getLast? = some '\n' then String.ofList text.toList.dropLast else text

/-- The data of a button matches the pattern `^value$`. -/
def isCallback (callback : Callback) (data : String) : Bool :=
  dropLineBreak data = callback.value

/-- The data of a button matches a pattern `^...\d+$`. -/
def isNumbered (start data : String) : Bool :=
  startsWith data start && isDecimal (dropLineBreak (removePrefix data start))

/-- The data of a button matches the pattern of a confirmation. -/
def isConfirmation (callback : Callback) (data : String) : Bool :=
  isNumbered (callback.value ++ ":") data

/-! ### The handlers of each state -/

section Handlers

variable (bot : Telegram) (texts : BroadcastTexts) (chatId : ℤ)

/-- `start`: reading the labels of node operators may fail before the message is sent. -/
def start : Handler States := do
  let _ ← call bot id
  let _ ← sendMessage bot chatId (bot.welcome (← get).calls)
  return .welcome

/-- A handler of another flow, which shows other screens and does not touch the session. -/
def elsewhere (next : States) : Handler States := do
  modify fun w => { w with screens := bot.elsewhere w.calls w.screens }
  let _ ← call bot id
  return next

/-- The handlers of buttons at a state, with the patterns of their data. -/
def buttonHandlers (storage : BotStorage) (messageId : ℤ) (data : String) :
    States → List ((String → Bool) × Handler States)
  | .welcome => [
      (isCallback .followToNodeOperator, elsewhere bot .followNodeOperator),
      (isCallback .unfollowFromNodeOperator, elsewhere bot .unfollowNodeOperator),
      (isCallback .followedEvents, elsewhere bot .followedEvents),
      (isCallback .admin, elsewhere bot .admin)]
  | .followNodeOperator => [
      (isNumbered "follow_no:", elsewhere bot .followNodeOperator),
      (isNumbered "follow_no_page:", elsewhere bot .followNodeOperator),
      (isCallback .back, elsewhere bot .welcome)]
  | .unfollowNodeOperator => [
      (isNumbered "unfollow_no:", elsewhere bot .unfollowNodeOperator),
      (isNumbered "unfollow_no_page:", elsewhere bot .unfollowNodeOperator),
      (isCallback .back, elsewhere bot .welcome)]
  | .followedEvents => [
      (isCallback .back, elsewhere bot .welcome)]
  | .admin => [
      (isCallback .back, elsewhere bot .welcome),
      (isCallback .adminSubscriptions, elsewhere bot .admin),
      (isCallback .adminBroadcast, broadcastMenu bot texts chatId messageId)]
  | .adminBroadcast => [
      (isCallback .back, elsewhere bot .welcome),
      (isCallback .adminBroadcastAll, broadcastAllPrompt bot texts chatId messageId),
      (isCallback .adminBroadcastByNo, broadcastByNo bot texts chatId messageId)]
  | .adminBroadcastMessageAll => [
      (isCallback .back, broadcastMenu bot texts chatId messageId),
      (isConfirmation .adminBroadcastConfirmAll,
        broadcastAllConfirm bot texts chatId storage messageId data)]
  | .adminBroadcastSelectNo => [
      (isCallback .back, broadcastMenu bot texts chatId messageId)]
  | .adminBroadcastMessageSelected => [
      (isCallback .back, broadcastByNo bot texts chatId messageId),
      (isConfirmation .adminBroadcastConfirmSelected,
        broadcastSelectedConfirm bot texts chatId storage messageId data)]

/-- The handler of a button at a state: the first one whose pattern its data matches. -/
def buttonHandler (storage : BotStorage) (messageId : ℤ) (data : String) (s : States) :
    Option (Handler States) :=
  ((buttonHandlers bot texts chatId storage messageId data s).find? fun entry => entry.1 data).map
    (·.2)

/-- The handler of a message at a state, a text or anything else. -/
def messageHandler (message : Option IncomingMessage) (isText : Bool) :
    States → Option (Handler States)
  | .followNodeOperator => if isText then some (elsewhere bot .followNodeOperator) else none
  | .unfollowNodeOperator => if isText then some (elsewhere bot .unfollowNodeOperator) else none
  | .adminBroadcastMessageAll => some (broadcastAllMessage bot texts chatId message)
  | .adminBroadcastSelectNo =>
      if isText then some (broadcastEnterNoIdsMessage bot texts chatId message) else none
  | .adminBroadcastMessageSelected => some (broadcastSelectedMessage bot texts chatId message)
  | .welcome | .followedEvents | .admin | .adminBroadcast => none

/-- `build_conversation_handler`: the handler of an update, if any. -/
def conversationHandler (storage : BotStorage) (state : Option States) :
    Update → Option (Handler States)
  | .start => some (start bot chatId)
  | .command => none
  | .callbackQuery messageId data =>
      state.bind (buttonHandler bot texts chatId storage messageId data)
  | .message messageId text =>
      state.bind (messageHandler bot texts chatId (some ⟨messageId, text⟩) text.isSome)
  | .editedMessage _ text => state.bind (messageHandler bot texts chatId none text.isSome)

end Handlers

/-! ### Runs -/

/-- The state of the conversation and the chats. -/
structure Conversation where
  state : Option States
  world : World

namespace Conversation

/-- The conversation before the first update. -/
def initial : Conversation where
  state := none
  world :=
    { session := .empty
      screens := fun _ _ => none
      ids := fun _ => ∅
      calls := 0
      alerts := []
      copies := [] }

/-- The message that an update is about is one of the chat. -/
def receive (chatId : ℤ) (update : Update) (w : World) : World :=
  match update.messageId? with
  | none => w
  | some messageId => w.addId chatId messageId

/-- Handle an update of the admin, with the storage of the bot at that time. -/
def handleUpdate (bot : Telegram) (texts : BroadcastTexts) (chatId : ℤ) (c : Conversation)
    (storage : BotStorage) (update : Update) : Conversation :=
  let w := receive chatId update c.world
  match conversationHandler bot texts chatId storage c.state update with
  | none => ⟨c.state, w⟩
  | some handler =>
      match handler.exec w with
      | (.ok next, w') => ⟨some next, w'⟩
      | (.error _, w') => ⟨c.state, w'⟩

/-- The conversation after some updates. -/
def run (bot : Telegram) (texts : BroadcastTexts) (chatId : ℤ)
    (updates : List (BotStorage × Update)) : Conversation :=
  updates.foldl (fun c update => c.handleUpdate bot texts chatId update.1 update.2) initial

end Conversation

/-! ### Kinds of broadcasts -/

/-- A broadcast to all, or to the followers of the selected node operators. -/
inductive BroadcastKind where
  | all
  | selected

namespace BroadcastKind

/-- The button that confirms a broadcast. -/
def callback : BroadcastKind → Callback
  | all => .adminBroadcastConfirmAll
  | selected => .adminBroadcastConfirmSelected

/-- The state in which a broadcast is confirmed. -/
def state : BroadcastKind → States
  | all => .adminBroadcastMessageAll
  | selected => .adminBroadcastMessageSelected

/-- The chats that a broadcast goes to. -/
def targets (storage : BotStorage) (session : BroadcastSession) : BroadcastKind → Finset ℤ
  | all => storage.resolveTargetChats storage.nodeOperatorChats.ids
  | selected => storage.resolveTargetChats (session.selectedIds.getD ∅)

end BroadcastKind

/-! ### Data of buttons -/

/-- A numbered button has its start, and something after it. -/
theorem exists_append_of_isNumbered {start data : String} (h : isNumbered start data = true) :
  ∃ rest, rest ≠ [] ∧ data.toList = start.toList ++ rest
  := by
  rw [isNumbered, Bool.and_eq_true, startsWith, List.isPrefixOf_iff_prefix] at h
  obtain ⟨⟨rest, hrest⟩, hdecimal⟩ := h
  use rest
  constructor
  · rintro rfl
    have hdata : data = start := by
      apply String.toList_injective
      rw [← hrest, List.append_nil]
    have hdrop : start.toList.drop start.length = [] := by
      rw [← String.length_toList, List.drop_length]
    rw [hdata] at hdecimal
    simp [removePrefix, startsWith, dropLineBreak, isDecimal, hdrop] at hdecimal
  · apply hrest.symm

/-- No button is both numbered and plain. -/
theorem isCallback_eq_false {start data : String} (h : isNumbered start data = true)
    (hstart : ':' ∈ start.toList) (callback : Callback) :
  isCallback callback data = false
  := by
  obtain ⟨rest, hrest, hdata⟩ := exists_append_of_isNumbered h
  have hmem : ':' ∈ (dropLineBreak data).toList := by
    rw [dropLineBreak]
    split
    · rw [hdata, String.toList_ofList, List.dropLast_append_of_ne_nil hrest]
      apply List.mem_append_left _ hstart
    · rw [hdata]
      apply List.mem_append_left _ hstart
  rw [isCallback, decide_eq_false_iff_not]
  intro heq
  rw [heq] at hmem
  cases callback <;> exact absurd hmem (by decide)

/-- A numbered button has one start only. -/
theorem isNumbered_eq_false {start start' data : String} (h : isNumbered start data = true)
    (hstart : startsWith start start' = false) (hstart' : startsWith start' start = false) :
  isNumbered start' data = false
  := by
  rw [← Bool.not_eq_true, startsWith, List.isPrefixOf_iff_prefix] at hstart hstart'
  rw [← Bool.not_eq_true]
  intro h'
  obtain ⟨rest, -, hdata⟩ := exists_append_of_isNumbered h
  obtain ⟨rest', -, hdata'⟩ := exists_append_of_isNumbered h'
  have hdata : start.toList <+: data.toList := ⟨rest, hdata.symm⟩
  have hdata' : start'.toList <+: data.toList := ⟨rest', hdata'.symm⟩
  obtain hpart | hpart := List.prefix_or_prefix_of_prefix hdata hdata'
  · apply hstart' hpart
  · apply hstart hpart

/-- A button confirms one kind of broadcast. -/
theorem kind_eq_of_isConfirmation {kind kind' : BroadcastKind} {data : String}
    (h : isConfirmation kind.callback data = true)
    (h' : isConfirmation kind'.callback data = true) :
  kind = kind'
  := by
  cases kind with
  | all =>
      cases kind' with
      | all => rfl
      | selected =>
          rw [isConfirmation, isNumbered_eq_false h (by decide) (by decide)] at h'
          contradiction
  | selected =>
      cases kind' with
      | all =>
          rw [isConfirmation, isNumbered_eq_false h (by decide) (by decide)] at h'
          contradiction
      | selected => rfl

/-- A text of decimal digits has no line break at its end. -/
theorem dropLineBreak_of_isDecimal {text : String} (h : isDecimal text = true) :
  dropLineBreak text = text
  := by
  rw [isDecimal, Bool.and_eq_true, List.all_eq_true] at h
  rw [dropLineBreak, if_neg]
  intro hlast
  have hdigit := h.2 _ (List.mem_of_getLast? hlast)
  contradiction

/-- The data of a button that confirms a preview matches the pattern of a confirmation. -/
theorem isConfirmation_of_confirms {chatId messageId p : ℤ} {callback : Callback} {data : String}
    {w : World} (h : w.Confirms chatId messageId data callback p) :
  isConfirmation callback data = true
  := by
  have hdata := h.data
  rw [confirmationPreviewMessageId] at hdata
  split at hdata
  next hstart =>
      dsimp only at hdata
      split at hdata
      next hdecimal =>
          rw [isConfirmation, isNumbered, hstart, dropLineBreak_of_isDecimal hdecimal, hdecimal]
          rfl
      next => contradiction
  next => contradiction

/-- The previews that one click confirms are of one kind, and the same. -/
theorem eq_of_confirms {chatId chatId' messageId messageId' p p' : ℤ} {kind kind' : BroadcastKind}
    {data : String} {w : World} (h : w.Confirms chatId messageId data kind.callback p)
    (h' : w.Confirms chatId' messageId' data kind'.callback p') :
  kind = kind' ∧ p = p'
  := by
  constructor
  · apply kind_eq_of_isConfirmation (isConfirmation_of_confirms h) (isConfirmation_of_confirms h')
  · apply Option.some.inj
    rw [← h.previewMessageId, h'.previewMessageId]

/-! ### One update -/

/-- What an update does: it is the click that confirms the preview, which is copied to the
targets, or it copies nothing. Then a click that looks like a confirmation but confirms no preview
leaves the session as it is, and answering a click that confirms the preview has failed. -/
def World.Step (bot : Telegram) (chatId : ℤ) (storage : BotStorage) (state : Option States)
    (update : Update) (w w' : World) : Prop :=
  (w'.copies = w.copies ∧ ∀ (kind : BroadcastKind) messageId data,
    update = .callbackQuery messageId data → isConfirmation kind.callback data = true →
    (¬ (state = some kind.state ∧ ∃ p, w.Confirms chatId messageId data kind.callback p) ∧
        w'.session = w.session ∨
      (state = some kind.state ∧ ∃ p, w.Confirms chatId messageId data kind.callback p) ∧
        ¬ w.NextSucceeds bot)) ∨
  ∃ (kind : BroadcastKind) (messageId : ℤ) (data : String) (p : ℤ),
    update = .callbackQuery messageId data ∧ isConfirmation kind.callback data = true ∧
    state = some kind.state ∧ w.Confirms chatId messageId data kind.callback p ∧
    w'.copies = w.copies ++
      ((kind.targets storage w.session).sort (· ≤ ·)).map fun chat => ⟨chat, chatId, p⟩

section Steps

variable {bot : Telegram} {texts : BroadcastTexts} {chatId messageId : ℤ} {storage : BotStorage}
  {state : Option States} {update : Update} {data : String} {w : World}
  {handler : Handler States}

/-- What a handler of an update does from a safe session. -/
def Steps (bot : Telegram) (texts : BroadcastTexts) (chatId : ℤ) (storage : BotStorage)
    (state : Option States) (update : Update) (w : World) (handler : Handler States) : Prop :=
  Ends handler w
    (fun next w' => w'.Safe texts chatId (some next) ∧ w.Step bot chatId storage state update w')
    fun _ w' => w'.Safe texts chatId state ∧ w.Step bot chatId storage state update w'

/-- A handler of another update than a confirmation. -/
theorem steps_of_handled
    (hno : ∀ (kind : BroadcastKind) messageId data, update = .callbackQuery messageId data →
      isConfirmation kind.callback data = false)
    (h : Handled texts chatId state w handler) :
  Steps bot texts chatId storage state update w handler
  := by
  have hstep (w' : World) (hw' : w'.copies = w.copies) :
      w.Step bot chatId storage state update w' := by
    left
    use hw'
    intro kind messageId data hupdate hdata
    rw [hno kind messageId data hupdate] at hdata
    contradiction
  apply h.mono
  · rintro next w' ⟨hsafe, hw'⟩
    use hsafe, hstep w' hw'
  · rintro _ w' ⟨hsafe, hw'⟩
    use hsafe, hstep w' hw'

/-- A handler of a plain button. -/
theorem steps_of_isCallback {callback : Callback} (hdata : isCallback callback data = true)
    (h : Handled texts chatId state w handler) :
  Steps bot texts chatId storage state (.callbackQuery messageId data) w handler
  := by
  apply steps_of_handled _ h
  rintro kind messageId data ⟨⟩
  rw [← Bool.not_eq_true]
  intro hconfirmation
  rw [isCallback_eq_false hconfirmation] at hdata
  · contradiction
  · cases kind <;> decide

/-- A handler of a numbered button of another flow. -/
theorem steps_of_isNumbered {start : String} (hdata : isNumbered start data = true)
    (hstart : ∀ kind : BroadcastKind, startsWith start (kind.callback.value ++ ":") = false ∧
      startsWith (kind.callback.value ++ ":") start = false)
    (h : Handled texts chatId state w handler) :
  Steps bot texts chatId storage state (.callbackQuery messageId data) w handler
  := by
  apply steps_of_handled _ h
  rintro kind messageId data ⟨⟩
  apply isNumbered_eq_false hdata (hstart kind).1 (hstart kind).2

/-- A handler of a message. -/
theorem steps_of_message (hupdate : ∀ messageId data, update ≠ .callbackQuery messageId data)
    (h : Handled texts chatId state w handler) :
  Steps bot texts chatId storage state update w handler
  := by
  apply steps_of_handled _ h
  intro kind messageId data heq
  apply absurd heq (hupdate messageId data)

/-- A handler of a confirmation. -/
theorem steps_of_confirmed (kind : BroadcastKind)
    (hdata : isConfirmation kind.callback data = true)
    (h : Ends handler w
      (fun next w' => w'.Safe texts chatId (some next) ∧
        w.Confirmed bot chatId messageId data kind.callback (kind.targets storage w.session) w')
      fun _ w' => w'.Safe texts chatId (some kind.state) ∧
        w.Confirmed bot chatId messageId data kind.callback (kind.targets storage w.session) w') :
  Steps bot texts chatId storage (some kind.state) (.callbackQuery messageId data) w handler
  := by
  have hstep (w' : World)
      (hw' : w.Confirmed bot chatId messageId data kind.callback
        (kind.targets storage w.session) w') :
      w.Step bot chatId storage (some kind.state) (.callbackQuery messageId data) w' := by
    obtain ⟨hcopies, hcase⟩ | ⟨p, hp, hcopies⟩ := hw'
    · left
      use hcopies
      rintro kind' _ _ ⟨⟩ hdata'
      obtain rfl := kind_eq_of_isConfirmation hdata hdata'
      obtain ⟨hno, hsession⟩ | ⟨hp, hfails⟩ := hcase
      · left
        constructor
        · rintro ⟨-, p, hp⟩
          apply hno p hp
        · apply hsession
      · right
        use ⟨rfl, hp⟩
    · right
      use kind, messageId, data, p, rfl, hdata, rfl, hp
  apply h.mono
  · rintro next w' ⟨hsafe, hw'⟩
    use hsafe, hstep w' hw'
  · rintro _ w' ⟨hsafe, hw'⟩
    use hsafe, hstep w' hw'

/-- A state of no broadcast. -/
def States.isElsewhere : States → Bool
  | welcome | followNodeOperator | unfollowNodeOperator | followedEvents | admin => true
  | adminBroadcast | adminBroadcastMessageAll | adminBroadcastSelectNo
  | adminBroadcastMessageSelected => false

/-- A sound session is safe in a state of no broadcast. -/
theorem World.Sound.safe (hw : w.Sound chatId) {next : States} (hnext : next.isElsewhere = true) :
  w.Safe texts chatId (some next)
  := by
  constructor
  · apply hw
  · rintro (heq | heq)
    · obtain rfl := Option.some.inj heq
      contradiction
    · obtain rfl := Option.some.inj heq
      contradiction
  · rintro ⟨⟩
    contradiction
  · rintro ⟨⟩
    contradiction

/-- `start` -/
theorem handled_start (hw : w.Safe texts chatId state) :
  Handled texts chatId state w (start bot chatId)
  := by
  have hquiet := w.quiet_of_calls (w.calls + 1)
  rw [start, Handled, ends_bind]
  apply ends_call
  · intro _
    rw [ends_bind, ends_get, ends_bind]
    apply ends_sendMessage.mono
    · rintro _ w' ⟨hw', -⟩
      rw [ends_pure]
      constructor
      · apply ((hw.quiet hquiet).quiet hw').sound.safe rfl
      · apply hw'.copies
    · intro _ w' hw'
      use (hw.quiet hquiet).quiet hw', hw'.copies
  · intro _
    exact ⟨hw.quiet hquiet, rfl⟩
  · intro _
    exact ⟨hw.quiet hquiet, rfl⟩

/-- A handler of another flow. It edits the screens, also that of the prompt. -/
theorem handled_elsewhere (hw : w.Safe texts chatId state)
    (hall : state ≠ some .adminBroadcastMessageAll)
    (hselected : state ≠ some .adminBroadcastMessageSelected) {next : States}
    (hnext : next.isElsewhere = true) :
  Handled texts chatId state w (elsewhere bot next)
  := by
  have hsound (n : ℕ) (screens : ℤ → ℤ → Option Screen) :
      World.Sound chatId { w with screens := screens, calls := n } :=
    ⟨hw.sound.promptChat, hw.sound.promptMessage, hw.sound.previewChat, hw.sound.previewMessage,
      hw.sound.copies⟩
  have hsafe (n : ℕ) (screens : ℤ → ℤ → Option Screen) :
      World.Safe texts chatId state { w with screens := screens, calls := n } :=
    ⟨hsound n screens, hw.noPreview, fun h => absurd h hall, fun h => absurd h hselected⟩
  rw [elsewhere, Handled, ends_bind, ends_modify, ends_bind]
  apply ends_call
  · intro _
    exact ⟨(hsound _ _).safe hnext, rfl⟩
  · intro _
    exact ⟨hsafe _ _, rfl⟩
  · intro _
    exact ⟨hsafe _ _, rfl⟩

/-- The handler of a button. -/
theorem steps_buttonHandler {s : States} (hw : w.Safe texts chatId (some s))
    (hm : messageId ∈ w.ids chatId)
    (h : buttonHandler bot texts chatId storage messageId data s = some handler) :
  Steps bot texts chatId storage (some s) (.callbackQuery messageId data) w handler
  := by
  obtain ⟨entry, hentry, rfl⟩ := Option.map_eq_some_iff.mp h
  have hmem := List.mem_of_find?_eq_some hentry
  have hdata := List.find?_some hentry
  cases s <;> simp only [buttonHandlers, List.mem_cons, List.not_mem_nil, or_false] at hmem
  case welcome =>
      obtain rfl | rfl | rfl | rfl := hmem <;>
      exact steps_of_isCallback hdata (handled_elsewhere hw nofun nofun rfl)
  case followNodeOperator =>
      obtain rfl | rfl | rfl := hmem
      · apply steps_of_isNumbered hdata _ (handled_elsewhere hw nofun nofun rfl)
        rintro (_ | _) <;> decide
      · apply steps_of_isNumbered hdata _ (handled_elsewhere hw nofun nofun rfl)
        rintro (_ | _) <;> decide
      · apply steps_of_isCallback hdata (handled_elsewhere hw nofun nofun rfl)
  case unfollowNodeOperator =>
      obtain rfl | rfl | rfl := hmem
      · apply steps_of_isNumbered hdata _ (handled_elsewhere hw nofun nofun rfl)
        rintro (_ | _) <;> decide
      · apply steps_of_isNumbered hdata _ (handled_elsewhere hw nofun nofun rfl)
        rintro (_ | _) <;> decide
      · apply steps_of_isCallback hdata (handled_elsewhere hw nofun nofun rfl)
  case followedEvents =>
      obtain rfl := hmem
      apply steps_of_isCallback hdata (handled_elsewhere hw nofun nofun rfl)
  case admin =>
      obtain rfl | rfl | rfl := hmem
      · apply steps_of_isCallback hdata (handled_elsewhere hw nofun nofun rfl)
      · apply steps_of_isCallback hdata (handled_elsewhere hw nofun nofun rfl)
      · apply steps_of_isCallback hdata (handled_broadcastMenu hw hm)
  case adminBroadcast =>
      obtain rfl | rfl | rfl := hmem
      · apply steps_of_isCallback hdata (handled_elsewhere hw nofun nofun rfl)
      · apply steps_of_isCallback hdata (handled_broadcastAllPrompt hw hm)
      · apply steps_of_isCallback hdata (handled_broadcastByNo hw hm)
  case adminBroadcastMessageAll =>
      obtain rfl | rfl := hmem
      · apply steps_of_isCallback hdata (handled_broadcastMenu hw hm)
      · apply steps_of_confirmed .all hdata (ends_broadcastAllConfirm hw hm)
  case adminBroadcastSelectNo =>
      obtain rfl := hmem
      apply steps_of_isCallback hdata (handled_broadcastMenu hw hm)
  case adminBroadcastMessageSelected =>
      obtain rfl | rfl := hmem
      · apply steps_of_isCallback hdata (handled_broadcastByNo hw hm)
      · apply steps_of_confirmed .selected hdata (ends_broadcastSelectedConfirm hw hm)

/-- The handler of a message. -/
theorem steps_messageHandler {s : States} (hw : w.Safe texts chatId (some s))
    {message : Option IncomingMessage} {isText : Bool}
    (hupdate : ∀ messageId data, update ≠ .callbackQuery messageId data)
    (h : messageHandler bot texts chatId message isText s = some handler) :
  Steps bot texts chatId storage (some s) update w handler
  := by
  apply steps_of_message hupdate
  cases s with
  | welcome => contradiction
  | followNodeOperator =>
      obtain ⟨-, ⟨⟩⟩ := Option.ite_none_right_eq_some.mp h
      apply handled_elsewhere hw nofun nofun rfl
  | unfollowNodeOperator =>
      obtain ⟨-, ⟨⟩⟩ := Option.ite_none_right_eq_some.mp h
      apply handled_elsewhere hw nofun nofun rfl
  | followedEvents => contradiction
  | admin => contradiction
  | adminBroadcast => contradiction
  | adminBroadcastMessageAll =>
      obtain rfl := Option.some.inj h
      apply handled_broadcastAllMessage hw
  | adminBroadcastSelectNo =>
      obtain ⟨-, ⟨⟩⟩ := Option.ite_none_right_eq_some.mp h
      apply handled_broadcastEnterNoIdsMessage hw
  | adminBroadcastMessageSelected =>
      obtain rfl := Option.some.inj h
      apply handled_broadcastSelectedMessage hw

/-- The handler of an update. -/
theorem steps_conversationHandler (hw : w.Safe texts chatId state)
    (hm : ∀ messageId, update.messageId? = some messageId → messageId ∈ w.ids chatId)
    (h : conversationHandler bot texts chatId storage state update = some handler) :
  Steps bot texts chatId storage state update w handler
  := by
  cases update with
  | start =>
      obtain rfl := Option.some.inj h
      apply steps_of_message _ (handled_start hw)
      intro _ _ heq
      contradiction
  | command => contradiction
  | callbackQuery messageId data =>
      obtain ⟨s, rfl, h⟩ := Option.bind_eq_some_iff.mp h
      apply steps_buttonHandler hw (hm messageId rfl) h
  | message messageId text =>
      obtain ⟨s, rfl, h⟩ := Option.bind_eq_some_iff.mp h
      apply steps_messageHandler hw _ h
      intro _ _ heq
      contradiction
  | editedMessage messageId text =>
      obtain ⟨s, rfl, h⟩ := Option.bind_eq_some_iff.mp h
      apply steps_messageHandler hw _ h
      intro _ _ heq
      contradiction

end Steps

/-! ### Runs -/

namespace Conversation

variable (bot : Telegram) (texts : BroadcastTexts) (chatId : ℤ)

variable {bot texts chatId}

/-- The message of an update is one of the chat. -/
theorem quiet_receive {update : Update} {w : World} :
  w.Quiet (receive chatId update w)
  := by
  rw [receive]
  split
  · apply World.quiet_of_calls w.calls
  · use (World.quiet_of_calls w.calls).toExtends.addId chatId _
    intro c m _
    rfl

theorem mem_ids_receive {update : Update} {w : World} {messageId : ℤ}
    (h : update.messageId? = some messageId) :
  messageId ∈ (receive chatId update w).ids chatId
  := by
  rw [receive, h]
  apply World.mem_ids_addId

theorem calls_receive {update : Update} {w : World} :
  (receive chatId update w).calls = w.calls
  := by
  rw [receive]
  split <;> rfl

/-- Receiving an update does not change what the step is about. -/
theorem step_of_receive {storage : BotStorage} {state : Option States} {update : Update}
    {w w' : World} (h : (receive chatId update w).Step bot chatId storage state update w') :
  w.Step bot chatId storage state update w'
  := by
  have hw : w.Quiet (receive chatId update w) := quiet_receive
  obtain ⟨hcopies, hclick⟩ | ⟨kind, messageId, data, p, hupdate, hdata, hstate, hp, hcopies⟩ := h
  · left
    use hcopies.trans hw.copies
    intro kind messageId data hupdate hdata
    obtain ⟨hno, hsession⟩ | ⟨⟨hstate, p, hp⟩, hfails⟩ := hclick kind messageId data hupdate hdata
    · left
      constructor
      · rintro ⟨hstate, p, hp⟩
        apply hno ⟨hstate, p, hp.of_session hw.session⟩
      · rw [hsession, hw.session]
    · right
      use ⟨hstate, p, hp.of_session hw.session.symm⟩
      rw [World.NextSucceeds, calls_receive] at hfails
      apply hfails
  · right
    rw [hw.copies, hw.session] at hcopies
    use kind, messageId, data, p, hupdate, hdata, hstate, hp.of_session hw.session.symm

/-- A confirmation has a handler in the state of its kind. -/
theorem conversationHandler_ne_none {storage : BotStorage} {kind : BroadcastKind}
    {messageId : ℤ} {data : String} (hdata : isConfirmation kind.callback data = true) :
  conversationHandler bot texts chatId storage (some kind.state) (.callbackQuery messageId data)
    ≠ none
  := by
  intro hnone
  have hfind := List.find?_eq_none.mp (Option.map_eq_none_iff.mp hnone)
  cases kind with
  | all =>
      apply hfind (isConfirmation .adminBroadcastConfirmAll, _) (List.mem_cons_of_mem _
        List.mem_cons_self) hdata
  | selected =>
      apply hfind (isConfirmation .adminBroadcastConfirmSelected, _) (List.mem_cons_of_mem _
        List.mem_cons_self) hdata

/-- An update keeps the session safe, and copies only a preview that it confirms. -/
theorem step_handleUpdate (bot : Telegram) {c : Conversation}
    (hc : c.world.Safe texts chatId c.state) (storage : BotStorage) (update : Update) :
  let c' := c.handleUpdate bot texts chatId storage update
  c'.world.Safe texts chatId c'.state ∧
    c.world.Step bot chatId storage c.state update c'.world
  := by
  have hw : World.Safe texts chatId c.state (receive chatId update c.world) :=
    hc.quiet quiet_receive
  dsimp only
  rw [handleUpdate]
  cases hhandler : conversationHandler bot texts chatId storage c.state update with
  | none =>
      use hw
      left
      use quiet_receive.copies
      rintro kind messageId data rfl hdata
      left
      constructor
      · rintro ⟨hstate, -⟩
        rw [hstate] at hhandler
        apply conversationHandler_ne_none hdata hhandler
      · apply quiet_receive.session
  | some handler =>
      have hsteps := steps_conversationHandler hw (fun _ => mem_ids_receive) hhandler
      rw [Steps, Ends] at hsteps
      dsimp only
      split at hsteps
      next next w' hexec =>
          rw [hexec]
          use hsteps.1, step_of_receive hsteps.2
      next e w' hexec =>
          rw [hexec]
          use hsteps.1, step_of_receive hsteps.2

/-- Before the first update there is no session. -/
theorem safe_initial :
  initial.world.Safe texts chatId initial.state
  where
    sound := ⟨nofun, nofun, nofun, nofun, nofun⟩
    noPreview _ := rfl
    shownAll := nofun
    shownSelected := nofun

/-- The session is safe after any updates. -/
theorem safe_run (updates : List (BotStorage × Update)) :
  (run bot texts chatId updates).world.Safe texts chatId (run bot texts chatId updates).state
  := by
  induction updates using List.reverseRecOn with
  | nil => apply safe_initial
  | append_singleton updates update ih =>
      rw [run, List.foldl_append]
      apply (step_handleUpdate bot ih update.1 update.2).1

end Conversation

/-! ### Confirmed broadcasts -/

/-- The prompts that ask to confirm a broadcast: of all, or of some node operators. -/
inductive Audience where
  | all
  | selected (ids : Finset String)

namespace Audience

/-- The kind of a broadcast. -/
def kind : Audience → BroadcastKind
  | all => .all
  | selected _ => .selected

/-- The prompt that asks to confirm a broadcast of a preview. -/
def prompt (texts : BroadcastTexts) (p : ℤ) : Audience → Screen
  | all => previewAll texts p
  | selected ids => previewSelected texts ids p

/-- The chats that an audience consists of. -/
def Includes (storage : BotStorage) (chat : ℤ) : Audience → Prop
  | all => ∃ id, storage.ActiveFollower id chat
  | selected ids => ∃ id ∈ ids, storage.ActiveFollower id chat

end Audience

/-- The prompt at which a preview is confirmed shows the audience that the targets are. -/
theorem exists_audience (storage : BotStorage) {texts : BroadcastTexts}
    {chatId messageId p : ℤ} {kind : BroadcastKind} {data : String} {w : World}
    (hw : w.Safe texts chatId (some kind.state))
    (hp : w.Confirms chatId messageId data kind.callback p) :
  ∃ audience : Audience, audience.kind = kind ∧
    w.screens chatId messageId = some (audience.prompt texts p) ∧
    ∀ chat, chat ∈ kind.targets storage w.session ↔ audience.Includes storage chat
  := by
  cases kind with
  | all =>
      use .all, rfl
      use hw.shownAll rfl p hp.previewMessageId messageId hp.promptChatId hp.promptMessageId
      intro chat
      apply BotStorage.mem_resolveTargetChats_ids
  | selected =>
      obtain ⟨ids, -, hselected, hshows⟩ := hw.shownSelected rfl p hp.previewMessageId
      use .selected ids, rfl
      use hshows messageId hp.promptChatId hp.promptMessageId
      intro chat
      rw [BroadcastKind.targets, hselected]
      apply BotStorage.mem_resolveTargetChats

/-- A click confirms a preview, at the prompt that shows the audience. The preview has never been
broadcast before, and each chat of the audience is sent one copy of it. -/
structure World.Broadcasts (texts : BroadcastTexts) (chatId : ℤ) (storage : BotStorage)
    (messageId : ℤ) (data : String) (audience : Audience) (p : ℤ) (w w' : World) : Prop where
  confirms : w.Confirms chatId messageId data audience.kind.callback p
  shows : w.screens chatId messageId = some (audience.prompt texts p)
  fresh : ∀ copy ∈ w.copies, copy.messageId ≠ p
  copies : ∃ chats : List ℤ, w'.copies = w.copies ++ chats.map (fun chat => ⟨chat, chatId, p⟩) ∧
    chats.Nodup ∧ ∀ chat, chat ∈ chats ↔ audience.Includes storage chat

/-- A preview that is copied to the targets is broadcast. -/
theorem exists_broadcasts {storage : BotStorage} {texts : BroadcastTexts} {chatId messageId p : ℤ}
    {kind : BroadcastKind} {data : String} {w w' : World}
    (hw : w.Safe texts chatId (some kind.state))
    (hp : w.Confirms chatId messageId data kind.callback p)
    (hcopies : w'.copies = w.copies ++
      ((kind.targets storage w.session).sort (· ≤ ·)).map fun chat => ⟨chat, chatId, p⟩) :
  ∃ audience : Audience, audience.kind = kind ∧
    w.Broadcasts texts chatId storage messageId data audience p w'
  := by
  obtain ⟨audience, rfl, hscreen, hincludes⟩ := exists_audience storage hw hp
  use audience, rfl
  constructor
  · apply hp
  · apply hscreen
  · apply (hw.sound.previewMessage p hp.previewMessageId).2
  · refine ⟨_, hcopies, Finset.sort_nodup _ _, ?_⟩
    intro chat
    rw [Finset.mem_sort]
    apply hincludes

/-- An id after those of the messages so far is a new one. -/
theorem natAbs_sup_notMem (ids : Finset ℤ) :
  (ids.sup Int.natAbs + 1 : ℤ) ∉ ids
  := by
  intro hmem
  have hle : Int.natAbs _ ≤ ids.sup Int.natAbs := Finset.le_sup hmem
  omega

/-- A bot whose calls all succeed. -/
def Telegram.reliable : Telegram where
  outcome _ := ⟨none, true, true⟩
  newId _ ids := ids.sup Int.natAbs + 1
  newId_notMem _ := natAbs_sup_notMem
  welcome _ := ⟨"", []⟩
  elsewhere _ screens := screens

/-- The texts of a module without texts. -/
def BroadcastTexts.blank : BroadcastTexts :=
  ⟨"", "", "", "", "", "", "", "", "", "", fun _ => ""⟩

/-- The admin chooses to broadcast to all, and sends a message. -/
def chooseAll : List (BotStorage × Update) :=
  [ .start, .callbackQuery 1 "5", .callbackQuery 1 "7", .callbackQuery 1 "8"
  , .message 2 (some "Hello") ].map fun update => (.follower "1", update)

end Sentinel.Admin
