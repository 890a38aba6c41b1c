import Sentinel.Handlers.Admin.Broadcast

/-!
# What the session refers to

* `World.Sound`: the session refers to messages of the chat, and the preview in it has not been
  broadcast.
* `World.Safe`: in the states in which a preview can be confirmed, the prompt shows that preview
  and the node operators it goes to.

Each handler of a broadcast keeps the session safe, at the state it leads to and, when it raises,
at the state it comes from. It copies nothing, except when it handles a confirmation.
-/

namespace Sentinel.Admin

open Effect

/-! ### Calls -/

/-- What every call leaves as it is. -/
structure World.Extends (w w' : World) : Prop where
  session : w'.session = w.session
  copies : w'.copies = w.copies
  ids : ∀ c, w.ids c ⊆ w'.ids c

/-- What a call leaves as it is that edits no message. -/
structure World.Quiet (w w' : World) : Prop extends World.Extends w w' where
  screens : ∀ c, ∀ m ∈ w.ids c, w'.screens c m = w.screens c m

section Calls

variable {bot : Telegram} {w : World}

/-- The step of the call counter. -/
theorem World.quiet_of_calls (n : ℕ) :
  w.Quiet { w with calls := n }
  := by
  constructor
  · use rfl, rfl
    intro c
    rfl
  · intro c m _
    rfl

/-- A call is carried out when it succeeds, and may be when it fails. -/
theorem ends_call {perform : World → World} {Q : Outcome → World → Prop}
    {E : Failure → World → Prop}
    (hQ : ∀ outcome, Q outcome (perform { w with calls := w.calls + 1 }))
    (hE : ∀ e, E e { w with calls := w.calls + 1 })
    (hE' : ∀ e, E e (perform { w with calls := w.calls + 1 })) :
  Ends (call bot perform) w Q E
  := by
  simp only [call, ends_bind, ends_get, ends_modify]
  obtain ⟨failure, carriedOut, returnsMessage⟩ := bot.outcome w.calls
  cases failure with
  | none => apply hQ
  | some e =>
      rw [ends_throw]
      split
      · apply hE'
      · apply hE

/-- Answering a click. -/
theorem ends_answer {alert : Option String} :
  Ends (answer bot alert) w (fun _ w' => w.Quiet w') fun _ w' => w.Quiet w'
  := by
  have hquiet (n : ℕ) : w.Quiet { w with calls := n, alerts := w.alerts ++ alert.toList } := by
    constructor
    · use rfl, rfl
      intro c
      rfl
    · intro c m _
      rfl
  rw [answer, ends_bind]
  apply ends_call
  · intro _
    apply hquiet
  · intro _
    apply World.quiet_of_calls
  · intro _
    apply hquiet

/-- The next call succeeds. -/
def World.NextSucceeds (bot : Telegram) (w : World) : Prop :=
  (bot.outcome w.calls).failure = none

/-- Answering a click raises only when its call fails. -/
theorem ends_answer_of_nextSucceeds {alert : Option String} :
  Ends (answer bot alert) w (fun _ _ => True) fun _ _ => ¬ w.NextSucceeds bot
  := by
  rw [answer, World.NextSucceeds]
  simp only [call, ends_bind, ends_get, ends_modify]
  cases (bot.outcome w.calls).failure with
  | none => trivial
  | some e => exact Option.some_ne_none e

/-- Deleting a message. -/
theorem ends_deleteMessage :
  Ends (deleteMessage bot) w (fun _ w' => w.Quiet w') fun _ w' => w.Quiet w'
  := by
  rw [deleteMessage, ends_bind]
  apply ends_call
  · intro _
    apply World.quiet_of_calls
  · intro _
    apply World.quiet_of_calls
  · intro _
    apply World.quiet_of_calls

/-- A new screen of a message. -/
theorem World.Extends.show {w' : World} (h : w.Extends w') (chatId messageId : ℤ)
    (screen : Screen) :
  w.Extends (w'.show chatId messageId screen)
  := ⟨h.session, h.copies, h.ids⟩

/-- Editing a message. -/
theorem ends_editMessageText {chatId messageId : ℤ} {screen : Screen} :
  Ends (editMessageText bot chatId messageId screen) w
    (fun _ w' => w.Extends w' ∧ w'.screens chatId messageId = some screen)
    fun _ w' => w.Extends w'
  := by
  have hshow (n : ℕ) := (World.quiet_of_calls (w := w) n).toExtends.show chatId messageId screen
  rw [editMessageText, ends_bind]
  apply ends_call
  · intro _
    use hshow _
    apply if_pos ⟨rfl, rfl⟩
  · intro _
    apply (World.quiet_of_calls _).toExtends
  · intro _
    apply hshow

/-- The messages of a chat are still there. -/
theorem World.ids_subset_addId (chatId messageId c : ℤ) :
  w.ids c ⊆ (w.addId chatId messageId).ids c
  := by
  change w.ids c ⊆ if c = chatId then insert messageId (w.ids c) else w.ids c
  split
  · apply Finset.subset_insert
  · rfl

/-- The new message is there. -/
theorem World.mem_ids_addId (chatId messageId : ℤ) :
  messageId ∈ (w.addId chatId messageId).ids chatId
  := by
  change messageId ∈ if chatId = chatId then insert messageId (w.ids chatId) else w.ids chatId
  rw [if_pos rfl]
  apply Finset.mem_insert_self

/-- A new message of a chat. -/
theorem World.Extends.addId {w' : World} (h : w.Extends w') (chatId messageId : ℤ) :
  w.Extends (w'.addId chatId messageId)
  := by
  use h.session, h.copies
  intro c
  apply (h.ids c).trans (World.ids_subset_addId chatId messageId c)

/-- Sending a message. -/
theorem ends_sendMessage {chatId : ℤ} {screen : Screen} :
  Ends (sendMessage bot chatId screen) w
    (fun messageId w' => w.Quiet w' ∧ messageId ∈ w'.ids chatId ∧
      w'.screens chatId messageId = some screen)
    fun _ w' => w.Quiet w'
  := by
  have hsend (n : ℕ) (messageId : ℤ) (h : messageId ∉ w.ids chatId) :
      w.Quiet (((World.show chatId messageId screen) { w with calls := n }).addId
        chatId messageId) := by
    use ((World.quiet_of_calls n).toExtends.show chatId messageId screen).addId chatId messageId
    intro c m hm
    apply if_neg
    rintro ⟨rfl, rfl⟩
    apply h hm
  rw [sendMessage, ends_bind, ends_get, ends_bind]
  apply ends_call
  · intro _
    rw [ends_pure]
    use hsend _ _ (bot.newId_notMem _ _), World.mem_ids_addId _ _
    apply if_pos ⟨rfl, rfl⟩
  · intro _
    apply World.quiet_of_calls
  · intro _
    apply hsend _ _ (bot.newId_notMem _ _)

/-- Copying a message. -/
theorem ends_copyMessage {chatId : ℤ} :
  Ends (copyMessage bot chatId) w
    (fun messageId w' => w.Quiet w' ∧ messageId ∉ w.ids chatId ∧ messageId ∈ w'.ids chatId)
    fun _ w' => w.Quiet w'
  := by
  have hcopy (n : ℕ) (messageId : ℤ) :
      w.Quiet (World.addId chatId messageId { w with calls := n }) := by
    use (World.quiet_of_calls n).toExtends.addId chatId messageId
    intro c m _
    rfl
  rw [copyMessage, ends_bind, ends_get, ends_bind]
  apply ends_call
  · intro _
    rw [ends_pure]
    use hcopy _ _, bot.newId_notMem _ _
    apply World.mem_ids_addId
  · intro _
    apply World.quiet_of_calls
  · intro _
    apply hcopy

end Calls

/-! ### The invariant -/

/-- The session refers to messages of the chat, and the preview in it has not been broadcast. -/
structure World.Sound (chatId : ℤ) (w : World) : Prop where
  promptChat : ∀ c, w.session.promptChatId = some c → c = chatId
  promptMessage : ∀ m, w.session.promptMessageId = some m → m ∈ w.ids chatId
  previewChat : ∀ p, w.session.previewMessageId = some p → w.session.previewChatId = some chatId
  previewMessage : ∀ p, w.session.previewMessageId = some p →
    p ∈ w.ids chatId ∧ ∀ copy ∈ w.copies, copy.messageId ≠ p
  copies : ∀ copy ∈ w.copies, copy.messageId ∈ w.ids chatId

/-- The message of the prompt shows a screen. -/
def World.Shows (chatId : ℤ) (screen : Screen) (w : World) : Prop :=
  ∀ m, w.session.promptChatId = some chatId → w.session.promptMessageId = some m →
    w.screens chatId m = some screen

/-- The session is sound. In the states in which a preview can be confirmed, the prompt shows
whom it goes to, and in the states that lead to them there is no preview. -/
structure World.Safe (texts : BroadcastTexts) (chatId : ℤ) (state : Option States) (w : World) :
    Prop where
  sound : w.Sound chatId
  noPreview : state = some .adminBroadcast ∨ state = some .adminBroadcastSelectNo →
    w.session.previewMessageId = none
  shownAll : state = some .adminBroadcastMessageAll → ∀ p,
    w.session.previewMessageId = some p → w.Shows chatId (previewAll texts p)
  shownSelected : state = some .adminBroadcastMessageSelected → ∀ p,
    w.session.previewMessageId = some p → ∃ ids, ids ≠ ∅ ∧ w.session.selectedIds = some ids ∧
      w.Shows chatId (previewSelected texts ids p)

/-- What leaves everything but the prompt as it is. -/
structure World.Prompts (chatId : ℤ) (w w' : World) : Prop where
  selectedIds : w'.session.selectedIds = w.session.selectedIds
  previewChatId : w'.session.previewChatId = w.session.previewChatId
  previewMessageId : w'.session.previewMessageId = w.session.previewMessageId
  copies : w'.copies = w.copies
  ids : ∀ c, w.ids c ⊆ w'.ids c
  promptChat : ∀ c, w'.session.promptChatId = some c → c = chatId
  promptMessage : ∀ m, w'.session.promptMessageId = some m → m ∈ w'.ids chatId

section Invariant

variable {texts : BroadcastTexts} {chatId : ℤ} {state : Option States} {w w' w'' : World}

/-- A call does not change the prompt. -/
theorem World.Sound.prompts (h : w.Sound chatId) (hw : w.Extends w') :
  w.Prompts chatId w'
  where
    selectedIds := by rw [hw.session]
    previewChatId := by rw [hw.session]
    previewMessageId := by rw [hw.session]
    copies := hw.copies
    ids := hw.ids
    promptChat := by
      rw [hw.session]
      apply h.promptChat
    promptMessage := by
      intro m hm
      rw [hw.session] at hm
      apply hw.ids chatId (h.promptMessage m hm)

/-- Prompts keep a session sound. -/
theorem World.Sound.of_prompts (h : w.Sound chatId) (hw : w.Prompts chatId w') :
  w'.Sound chatId
  where
    promptChat := hw.promptChat
    promptMessage := hw.promptMessage
    previewChat := by
      rw [hw.previewChatId, hw.previewMessageId]
      apply h.previewChat
    previewMessage := by
      intro p hp
      rw [hw.previewMessageId] at hp
      rw [hw.copies]
      use hw.ids chatId (h.previewMessage p hp).1, (h.previewMessage p hp).2
    copies := by
      rw [hw.copies]
      intro copy hcopy
      apply hw.ids chatId (h.copies copy hcopy)

/-- A call that edits no message keeps a session safe. -/
theorem World.Safe.quiet (h : w.Safe texts chatId state) (hw : w.Quiet w') :
  w'.Safe texts chatId state
  := by
  have hshows (screen : Screen) (hscreen : w.Shows chatId screen) : w'.Shows chatId screen := by
    intro m hchat hm
    rw [hw.session] at hchat hm
    rw [hw.screens chatId m (h.sound.promptMessage m hm)]
    apply hscreen m hchat hm
  constructor
  · apply h.sound.of_prompts (h.sound.prompts hw.toExtends)
  · rw [hw.session]
    apply h.noPreview
  · rw [hw.session]
    intro hstate p hp
    apply hshows _ (h.shownAll hstate p hp)
  · rw [hw.session]
    intro hstate p hp
    obtain ⟨ids, hids, hselected, hscreen⟩ := h.shownSelected hstate p hp
    use ids, hids, hselected, hshows _ hscreen

/-- A sound session from which the preview was taken, and nothing was copied meanwhile. -/
structure World.Cleared (chatId : ℤ) (selectedIds : Option (Finset String)) (w₀ w : World) :
    Prop where
  sound : w.Sound chatId
  previewMessageId : w.session.previewMessageId = none
  selectedIds : w.session.selectedIds = selectedIds
  copies : w.copies = w₀.copies
  ids : ∀ c, w₀.ids c ⊆ w.ids c

variable {selectedIds : Option (Finset String)}

/-- A session without a preview is safe at each state. -/
theorem World.Cleared.safe (h : w.Cleared chatId selectedIds w') :
  w'.Safe texts chatId state
  where
    sound := h.sound
    noPreview _ := h.previewMessageId
    shownAll _ p hp := by
      rw [h.previewMessageId] at hp
      contradiction
    shownSelected _ p hp := by
      rw [h.previewMessageId] at hp
      contradiction

/-- Prompts store no preview. -/
theorem World.Cleared.prompts (h : w.Cleared chatId selectedIds w') (hw : w'.Prompts chatId w'') :
  w.Cleared chatId selectedIds w''
  where
    sound := h.sound.of_prompts hw
    previewMessageId := hw.previewMessageId.trans h.previewMessageId
    selectedIds := hw.selectedIds.trans h.selectedIds
    copies := hw.copies.trans h.copies
    ids c := (h.ids c).trans (hw.ids c)

/-- Clearing the preview of a sound session. -/
theorem World.Sound.clearPreview (h : w.Sound chatId) :
  w.Cleared chatId w.session.selectedIds { w with session := w.session.clearPreview }
  where
    sound :=
      { promptChat := h.promptChat
        promptMessage := h.promptMessage
        previewChat := nofun
        previewMessage := nofun
        copies := h.copies }
    previewMessageId := rfl
    selectedIds := rfl
    copies := rfl
    ids _ := subset_rfl

end Invariant

/-! ### Prompts -/

/-- A property of sound sessions that prompts keep. -/
structure Stable (chatId : ℤ) (I : World → Prop) : Prop where
  sound : ∀ w, I w → w.Sound chatId
  prompts : ∀ w w', I w → w.Prompts chatId w' → I w'

/-- Having been cleared is stable. -/
theorem stable_cleared {chatId : ℤ} {selectedIds : Option (Finset String)} {w : World} :
  Stable chatId fun w' => w.Cleared chatId selectedIds w'
  where
    sound _ h := h.sound
    prompts _ _ h hw := h.prompts hw

section Prompts

variable {bot : Telegram} {texts : BroadcastTexts} {chatId : ℤ} {w : World} {I : World → Prop}
  (hI : Stable chatId I)

include hI

/-- An effect that changes what calls change keeps a stable property. -/
theorem Stable.keeps {α : Type} {x : Handler α}
    (hx : ∀ w, Ends x w (fun _ w' => w.Extends w') fun _ w' => w.Extends w') :
  Keeps I x
  := by
  intro w hw
  apply (hx w).mono
  · intro _ w' hw'
    apply hI.prompts w w' hw ((hI.sound w hw).prompts hw')
  · intro _ w' hw'
    apply hI.prompts w w' hw ((hI.sound w hw).prompts hw')

/-- An effect that changes no screen keeps a stable property. -/
theorem Stable.keeps_of_quiet {α : Type} {x : Handler α}
    (hx : ∀ w, Ends x w (fun _ w' => w.Quiet w') fun _ w' => w.Quiet w') :
  Keeps I x
  := by
  apply hI.keeps
  intro w
  apply (hx w).mono
  · intro _ _ h
    apply h.toExtends
  · intro _ _ h
    apply h.toExtends

theorem keeps_answer {alert : Option String} :
  Keeps I (answer bot alert)
  := by
  apply hI.keeps_of_quiet
  intro w
  apply ends_answer

theorem keeps_deleteMessage :
  Keeps I (deleteMessage bot)
  := by
  apply hI.keeps_of_quiet
  intro w
  apply ends_deleteMessage

theorem keeps_editMessageText {messageId : ℤ} {screen : Screen} :
  Keeps I (editMessageText bot chatId messageId screen)
  := by
  apply hI.keeps
  intro w
  apply ends_editMessageText.mono
  · intro _ _ h
    apply h.1
  · intro _ _ h
    apply h

omit hI in
/-- Failures of Telegram are ignored. -/
theorem keeps_ignore {x : Handler Unit} (hx : Keeps I x) :
  Keeps I (tryCatch x fun e => if e.isTelegramError then pure () else throw e)
  := by
  apply hx.tryCatch
  intro e
  split
  · apply keeps_pure
  · apply keeps_throw

theorem keeps_deletePreviewByReference :
  Keeps I (deletePreviewByReference bot)
  := by
  apply keeps_ignore
  apply keeps_deleteMessage hI

theorem keeps_deleteUserMessage {message : Option IncomingMessage} :
  Keeps I (deleteUserMessage bot message)
  := by
  cases message with
  | none => apply keeps_pure
  | some message =>
      apply keeps_ignore
      apply keeps_deleteMessage hI

omit hI in
/-- The prompt of a session may be any message of the chat. -/
theorem prompts_storePrompt {messageId : ℤ} (hm : messageId ∈ w.ids chatId) :
  w.Prompts chatId
    { w with session := w.session.storePrompt (some (chatId, messageId)) }
  where
    selectedIds := rfl
    previewChatId := rfl
    previewMessageId := rfl
    copies := rfl
    ids _ := subset_rfl
    promptChat _ h := (Option.some.inj h).symm
    promptMessage m h := by
      obtain rfl := Option.some.inj h
      apply hm

/-- Storing a message of the chat as the prompt. -/
theorem keeps_storePrompt {messageId : ℤ} (hm : ∀ w, I w → messageId ∈ w.ids chatId)
    {isMessage : Bool} :
  Keeps I (storePrompt chatId messageId isMessage)
  := by
  intro w hw
  cases isMessage with
  | true => apply hI.prompts w _ hw (prompts_storePrompt (hm w hw))
  | false => apply hw

/-- Sending a new prompt. -/
theorem ends_sendBroadcastPromptMessage (hw : I w) {screen : Screen} :
  Ends (sendBroadcastPromptMessage bot chatId screen) w
    (fun _ w' => I w' ∧ w'.Shows chatId screen) fun _ w' => I w'
  := by
  rw [sendBroadcastPromptMessage, ends_bind]
  apply ends_sendMessage.mono
  · rintro messageId w' ⟨hw', hmem, hscreen⟩
    have hI' := hI.prompts w w' hw ((hI.sound w hw).prompts hw'.toExtends)
    constructor
    · apply hI.prompts w' _ hI' (prompts_storePrompt hmem)
    · intro m _ hm
      obtain rfl := Option.some.inj hm
      apply hscreen
  · intro _ w' hw'
    apply hI.prompts w w' hw ((hI.sound w hw).prompts hw'.toExtends)

/-- The prompt shows what it was edited to show. -/
theorem ends_editBroadcastPromptMessage (hw : I w) {screen : Screen} :
  Ends (editBroadcastPromptMessage bot chatId screen) w
    (fun _ w' => I w' ∧ w'.Shows chatId screen) fun _ w' => I w'
  := by
  have hsound := hI.sound w hw
  rw [editBroadcastPromptMessage, ends_bind, ends_get]
  dsimp only
  cases htarget : if chatId = 0 then w.session.promptChatId else some chatId with
  | none =>
      -- without a prompt no screen has to be shown
      rw [ends_pure]
      use hw
      intro m hchat
      split at htarget
      · rw [htarget] at hchat
        contradiction
      · contradiction
  | some targetChatId =>
      obtain rfl : targetChatId = chatId := by
        split at htarget
        · apply hsound.promptChat _ htarget
        · apply (Option.some.inj htarget).symm
      cases hm : w.session.promptMessageId with
      | none => apply ends_sendBroadcastPromptMessage hI hw
      | some messageId =>
          by_cases hzero : messageId = 0
          · simp only [if_pos hzero]
            apply ends_sendBroadcastPromptMessage hI hw
          · simp only [if_neg hzero, ends_tryCatch, ends_bind]
            apply ends_editMessageText.mono
            · rintro isMessage w' ⟨hw', hscreen⟩
              have hI' := hI.prompts w w' hw (hsound.prompts hw')
              have hmem := hw'.ids _ (hsound.promptMessage _ hm)
              cases isMessage with
              | true =>
                  constructor
                  · apply hI.prompts w' _ hI' (prompts_storePrompt hmem)
                  · intro m _ hm'
                    obtain rfl := Option.some.inj hm'
                    apply hscreen
              | false =>
                  use hI'
                  intro m _ hm'
                  change w'.session.promptMessageId = some m at hm'
                  rw [hw'.session, hm] at hm'
                  obtain rfl := Option.some.inj hm'
                  apply hscreen
            · intro e w' hw'
              have hI' := hI.prompts w w' hw (hsound.prompts hw')
              cases e with
              | badRequest => apply ends_sendBroadcastPromptMessage hI hI'
              | telegramError => apply hI'
              | other => apply hI'

/-- A preview is a new message of the chat. -/
theorem ends_copyPreviewMessage (hw : I w) {message : Option IncomingMessage} :
  Ends (copyPreviewMessage bot chatId message) w
    (fun previewId w' => I w' ∧ ∀ p, previewId = some p →
      p ∈ w'.ids chatId ∧ ∀ copy ∈ w'.copies, copy.messageId ≠ p)
    fun _ w' => I w'
  := by
  have hsound := hI.sound w hw
  cases message with
  | none =>
      use hw
      nofun
  | some message =>
      simp only [copyPreviewMessage, ends_tryCatch, ends_bind]
      apply ends_copyMessage.mono
      · rintro messageId w' ⟨hw', hfresh, hmem⟩
        rw [ends_pure]
        use hI.prompts w w' hw (hsound.prompts hw'.toExtends)
        rintro p ⟨⟩
        use hmem
        rintro copy hcopy rfl
        rw [hw'.copies] at hcopy
        apply hfresh (hsound.copies copy hcopy)
      · intro e w' hw'
        have hI' := hI.prompts w w' hw (hsound.prompts hw'.toExtends)
        split
        · use hI'
          nofun
        · apply hI'

omit hI in
/-- The preview is taken out of the session before its message is deleted. -/
theorem ends_deletePreviewMessage (hw : w.Sound chatId) :
  Ends (deletePreviewMessage bot) w (fun _ w' => w.Cleared chatId w.session.selectedIds w')
    fun _ w' => w.Cleared chatId w.session.selectedIds w'
  := by
  rw [deletePreviewMessage, ends_bind, ends_get, ends_bind, modifySession, ends_modify]
  split
  · apply keeps_deletePreviewByReference stable_cleared _ hw.clearPreview
  · apply hw.clearPreview

end Prompts

/-! ### Handlers that copy nothing -/

/-- A handler keeps the session safe and copies nothing. -/
def Handled (texts : BroadcastTexts) (chatId : ℤ) (state : Option States) (w : World)
    (handler : Handler States) : Prop :=
  Ends handler w (fun next w' => w'.Safe texts chatId (some next) ∧ w'.copies = w.copies)
    fun _ w' => w'.Safe texts chatId state ∧ w'.copies = w.copies

/-- There is no preview any more, and nothing was copied meanwhile. -/
def World.Emptied (chatId : ℤ) (w w' : World) : Prop :=
  ∃ selectedIds, w.Cleared chatId selectedIds w'

section Handlers

variable {bot : Telegram} {texts : BroadcastTexts} {chatId messageId : ℤ} {w w' w'' : World}
  {state : Option States} {message : Option IncomingMessage}

/-- Having been emptied is stable. -/
theorem stable_emptied :
  Stable chatId (w.Emptied chatId)
  where
    sound := by
      rintro w' ⟨_, h⟩
      apply h.sound
    prompts := by
      rintro w' w'' ⟨selectedIds, h⟩ hw
      apply Exists.intro selectedIds (h.prompts hw)

/-- The selected node operators may change when there is no preview. -/
theorem keeps_modifySession_selectedIds {f : BroadcastSession → BroadcastSession}
    (hf : ∀ session, ∃ selectedIds, f session = { session with selectedIds := selectedIds }) :
  Keeps (w.Emptied chatId) (modifySession f)
  := by
  rintro w' ⟨_, h⟩
  obtain ⟨selectedIds, hselected⟩ := hf w'.session
  change w.Emptied chatId { w' with session := f w'.session }
  rw [hselected]
  use selectedIds
  exact
    { sound := ⟨h.sound.promptChat, h.sound.promptMessage, h.sound.previewChat,
        h.sound.previewMessage, h.sound.copies⟩
      previewMessageId := h.previewMessageId
      selectedIds := rfl
      copies := h.copies
      ids := h.ids }

/-- A handler that leaves no preview keeps the session safe. -/
theorem ends_safe_of_emptied {handler : Handler States}
    (h : Ends handler w' (fun _ w'' => w.Emptied chatId w'') fun _ w'' => w.Emptied chatId w'') :
  Ends handler w' (fun next w'' => w''.Safe texts chatId (some next) ∧ w''.copies = w.copies)
    fun _ w'' => w''.Safe texts chatId state ∧ w''.copies = w.copies
  := by
  apply h.mono
  · rintro _ w' ⟨_, hw'⟩
    use hw'.safe, hw'.copies
  · rintro _ w' ⟨_, hw'⟩
    use hw'.safe, hw'.copies

/-- A handler of a button that deletes the preview. -/
theorem handled_answer_deletePreview (hw : w.Safe texts chatId state) {handler : Handler States}
    (h : Keeps (w.Emptied chatId) handler) :
  Handled texts chatId state w (do
    answer bot none
    deletePreviewMessage bot
    handler)
  := by
  rw [Handled, ends_bind]
  apply ends_answer.mono
  · intro _ w₁ hw₁
    have hsafe := hw.quiet hw₁
    have hemptied (w' : World) (hw' : w₁.Cleared chatId w₁.session.selectedIds w') :
        w.Emptied chatId w' := by
      use w₁.session.selectedIds, hw'.sound, hw'.previewMessageId, hw'.selectedIds
      · rw [hw'.copies, hw₁.copies]
      · intro c
        apply (hw₁.ids c).trans (hw'.ids c)
    rw [ends_bind]
    apply (ends_deletePreviewMessage hsafe.sound).mono
    · intro _ w' hw'
      apply ends_safe_of_emptied (h w' (hemptied w' hw'))
    · intro _ w' hw'
      obtain ⟨_, hw''⟩ := hemptied w' hw'
      use hw''.safe, hw''.copies
  · intro _ w' hw'
    use hw.quiet hw', hw'.copies

/-- The message of a click is still one of the chat. -/
theorem mem_ids_of_emptied (hm : messageId ∈ w.ids chatId) :
  ∀ w', w.Emptied chatId w' → messageId ∈ w'.ids chatId
  := by
  rintro w' ⟨_, h⟩
  apply h.ids chatId hm

/-- Showing the next prompt stores no preview. -/
theorem keeps_showPrompt (hm : messageId ∈ w.ids chatId) {screen : Screen} {α : Type}
    {rest : Handler α} (hrest : Keeps (w.Emptied chatId) rest) :
  Keeps (w.Emptied chatId) (do
    let isMessage ← editMessageText bot chatId messageId screen
    storePrompt chatId messageId isMessage
    rest)
  := by
  apply (keeps_editMessageText stable_emptied).bind
  intro _
  apply (keeps_storePrompt stable_emptied (mem_ids_of_emptied hm)).bind
  intro _
  apply hrest

/-- `broadcast_menu` -/
theorem handled_broadcastMenu (hw : w.Safe texts chatId state) (hm : messageId ∈ w.ids chatId) :
  Handled texts chatId state w (broadcastMenu bot texts chatId messageId)
  := by
  apply handled_answer_deletePreview hw
  apply keeps_showPrompt hm
  apply (keeps_modifySession_selectedIds _).bind
  · intro _
    apply keeps_pure
  · intro session
    use none
    rfl

/-- `broadcast_all_prompt` -/
theorem handled_broadcastAllPrompt (hw : w.Safe texts chatId state)
    (hm : messageId ∈ w.ids chatId) :
  Handled texts chatId state w (broadcastAllPrompt bot texts chatId messageId)
  := by
  apply handled_answer_deletePreview hw
  apply keeps_showPrompt hm
  apply keeps_pure

/-- `broadcast_by_no` -/
theorem handled_broadcastByNo (hw : w.Safe texts chatId state) (hm : messageId ∈ w.ids chatId) :
  Handled texts chatId state w (broadcastByNo bot texts chatId messageId)
  := by
  apply handled_answer_deletePreview hw
  apply (keeps_modifySession_selectedIds _).bind
  · intro _
    apply keeps_showPrompt hm
    apply keeps_pure
  · intro session
    use none
    rfl

/-- A session without a preview has been emptied. -/
theorem World.Sound.emptied (hw : w.Sound chatId) (hpreview : w.session.previewMessageId = none) :
  w.Emptied chatId w
  := ⟨_, hw, hpreview, rfl, rfl, fun _ => subset_rfl⟩

/-- Editing the prompt stores no preview. -/
theorem keeps_editBroadcastPromptMessage {screen : Screen} :
  Keeps (w.Emptied chatId) (editBroadcastPromptMessage bot chatId screen)
  := by
  intro w' hw'
  apply (ends_editBroadcastPromptMessage stable_emptied hw').mono
  · intro _ w'' hw''
    apply hw''.1
  · intro _ w'' hw''
    apply hw''

/-- `broadcast_enter_no_ids_message` -/
theorem handled_broadcastEnterNoIdsMessage
    (hw : w.Safe texts chatId (some .adminBroadcastSelectNo)) :
  Handled texts chatId (some .adminBroadcastSelectNo) w
    (broadcastEnterNoIdsMessage bot texts chatId message)
  := by
  apply ends_safe_of_emptied
  have hkeeps : Keeps (w.Emptied chatId) (broadcastEnterNoIdsMessage bot texts chatId message) := by
    apply (keeps_deleteUserMessage stable_emptied).bind
    intro _
    split
    · apply keeps_editBroadcastPromptMessage.bind
      intro _
      apply keeps_pure
    · dsimp only
      split
      · apply keeps_editBroadcastPromptMessage.bind
        intro _
        apply keeps_pure
      · apply (keeps_modifySession_selectedIds _).bind
        · intro _
          apply keeps_editBroadcastPromptMessage.bind
          intro _
          apply keeps_pure
        · intro session
          exact ⟨_, rfl⟩
  apply hkeeps
  apply hw.sound.emptied (hw.noPreview (Or.inr rfl))

/-- A message of the chat that has not been broadcast, if there is one. -/
def World.Fresh (chatId : ℤ) (previewId : Option ℤ) (w : World) : Prop :=
  ∀ p, previewId = some p → p ∈ w.ids chatId ∧ ∀ copy ∈ w.copies, copy.messageId ≠ p

/-- Prompts broadcast nothing. -/
theorem stable_cleared_and_fresh {selectedIds : Option (Finset String)} {previewId : Option ℤ} :
  Stable chatId fun w' => w.Cleared chatId selectedIds w' ∧ w'.Fresh chatId previewId
  where
    sound _ h := h.1.sound
    prompts w' w'' h hw := by
      use h.1.prompts hw
      intro p hp
      rw [hw.copies]
      use hw.ids chatId (h.2 p hp).1, (h.2 p hp).2

/-- A fresh message may become the preview. -/
theorem World.Cleared.storePreview {selectedIds : Option (Finset String)} {p : ℤ}
    (h : w.Cleared chatId selectedIds w') (hfresh : w'.Fresh chatId (some p)) :
  World.Sound chatId { w' with session := w'.session.storePreview chatId p }
  where
    promptChat := h.sound.promptChat
    promptMessage := h.sound.promptMessage
    previewChat _ _ := rfl
    previewMessage q hq := by
      obtain rfl := Option.some.inj hq
      apply hfresh p rfl
    copies := h.sound.copies

/-- A handler that copies a message and shows a prompt to confirm the copy. -/
theorem handled_preview {next : States} {screen : ℤ → Screen} (hw : w.Sound chatId)
    (hsafe : ∀ (p : ℤ) (w' : World), w'.Sound chatId → w'.session.previewMessageId = some p →
      w'.session.selectedIds = w.session.selectedIds → w'.Shows chatId (screen p) →
      w'.Safe texts chatId (some next)) :
  Handled texts chatId state w (do
    deletePreviewMessage bot
    let previewId ← copyPreviewMessage bot chatId message
    deleteUserMessage bot message
    match previewId with
    | none =>
        editBroadcastPromptMessage bot chatId (unableToPreview texts)
        return next
    | some previewId =>
        editBroadcastPromptMessage bot chatId (screen previewId)
        modifySession (BroadcastSession.storePreview chatId previewId)
        return next)
  := by
  have hcleared (w' : World) (hw' : w.Cleared chatId w.session.selectedIds w')
      (state : Option States) : w'.Safe texts chatId state ∧ w'.copies = w.copies :=
    ⟨hw'.safe, hw'.copies⟩
  rw [Handled, ends_bind]
  apply (ends_deletePreviewMessage hw).mono
  · intro _ w₁ hw₁
    rw [ends_bind]
    apply (ends_copyPreviewMessage stable_cleared hw₁).mono
    · intro previewId w₂ hw₂
      rw [ends_bind]
      apply (keeps_deleteUserMessage stable_cleared_and_fresh w₂ hw₂).mono
      · intro _ w₃ hw₃
        cases previewId with
        | none =>
            rw [ends_bind]
            apply (ends_editBroadcastPromptMessage stable_cleared hw₃.1).mono
            · intro _ w₄ hw₄
              apply hcleared w₄ hw₄.1
            · intro _ w₄ hw₄
              apply hcleared w₄ hw₄
        | some p =>
            rw [ends_bind]
            apply (ends_editBroadcastPromptMessage stable_cleared_and_fresh hw₃).mono
            · rintro _ w₄ ⟨⟨hw₄, hfresh⟩, hshows⟩
              constructor
              · apply hsafe p _ (hw₄.storePreview hfresh) rfl hw₄.selectedIds hshows
              · apply hw₄.copies
            · intro _ w₄ hw₄
              apply hcleared w₄ hw₄.1
      · intro _ w₃ hw₃
        apply hcleared w₃ hw₃.1
    · intro _ w₂ hw₂
      apply hcleared w₂ hw₂
  · intro _ w₁ hw₁
    apply hcleared w₁ hw₁

/-- `broadcast_all_message` -/
theorem handled_broadcastAllMessage (hw : w.Safe texts chatId state) :
  Handled texts chatId state w (broadcastAllMessage bot texts chatId message)
  := by
  apply handled_preview hw.sound
  intro p w' hsound hp _ hshows
  exact
    { sound := hsound
      noPreview := nofun
      shownAll := by
        rintro - q hq
        obtain rfl := Option.some.inj (hp.symm.trans hq)
        apply hshows
      shownSelected := nofun }

/-- `broadcast_selected_message` -/
theorem handled_broadcastSelectedMessage
    (hw : w.Safe texts chatId (some .adminBroadcastMessageSelected)) :
  Handled texts chatId (some .adminBroadcastMessageSelected) w
    (broadcastSelectedMessage bot texts chatId message)
  := by
  rw [broadcastSelectedMessage, Handled, ends_bind, ends_get]
  dsimp only
  by_cases hempty : w.session.selectedIds.getD ∅ = ∅
  · rw [if_pos hempty]
    have hpreview : w.session.previewMessageId = none := by
      cases hp : w.session.previewMessageId with
      | none => rfl
      | some p =>
          obtain ⟨ids, hids, hselected, -⟩ := hw.shownSelected rfl p hp
          rw [hselected] at hempty
          apply absurd hempty hids
    apply ends_safe_of_emptied
    apply (keeps_deleteUserMessage stable_emptied).bind _ w (hw.sound.emptied hpreview)
    intro _
    apply keeps_editBroadcastPromptMessage.bind
    intro _
    apply keeps_pure
  · rw [if_neg hempty]
    apply handled_preview hw.sound
    intro p w' hsound hp hselected hshows
    exact
      { sound := hsound
        noPreview := nofun
        shownAll := nofun
        shownSelected := by
          rintro - q hq
          obtain rfl := Option.some.inj (hp.symm.trans hq)
          use w.session.selectedIds.getD ∅, hempty
          cases hids : w.session.selectedIds with
          | none =>
              rw [hids] at hempty
              contradiction
          | some ids =>
              rw [hids] at hselected hshows
              exact ⟨hselected, hshows⟩ }

/-! ### Confirmations -/

/-- A click on a message confirms the preview of the session at its prompt. -/
structure World.Confirms (chatId messageId : ℤ) (data : String) (callback : Callback) (p : ℤ)
    (w : World) : Prop where
  data : confirmationPreviewMessageId data callback = some p
  promptChatId : w.session.promptChatId = some chatId
  promptMessageId : w.session.promptMessageId = some messageId
  previewMessageId : w.session.previewMessageId = some p

/-- What a click confirms is a matter of the session. -/
theorem World.Confirms.of_session {data : String} {callback : Callback} {p : ℤ}
    (h : w.Confirms chatId messageId data callback p) (hsession : w'.session = w.session) :
  w'.Confirms chatId messageId data callback p
  where
    data := h.data
    promptChatId := by rw [hsession, h.promptChatId]
    promptMessageId := by rw [hsession, h.promptMessageId]
    previewMessageId := by rw [hsession, h.previewMessageId]

/-- What handling a confirmation does: it copies the preview that the click confirms to the
targets, or it copies nothing. Then the click confirms no preview and the session stays as it is,
or answering the click has failed. -/
def World.Confirmed (bot : Telegram) (chatId messageId : ℤ) (data : String) (callback : Callback)
    (targets : Finset ℤ) (w w' : World) : Prop :=
  (w'.copies = w.copies ∧
    ((∀ p, ¬ w.Confirms chatId messageId data callback p) ∧ w'.session = w.session ∨
      (∃ p, w.Confirms chatId messageId data callback p) ∧ ¬ w.NextSucceeds bot)) ∨
  ∃ p, w.Confirms chatId messageId data callback p ∧
    w'.copies = w.copies ++ (targets.sort (· ≤ ·)).map fun chat => ⟨chat, chatId, p⟩

variable {data : String} {callback : Callback}

/-- A preview that is consumed is the one of the session, at its prompt. -/
theorem consumePreview_eq_some {session session' : BroadcastSession} {preview : ℤ × ℤ}
    {p : ℤ} (h : session.consumePreview chatId messageId p = some (preview, session')) :
  session.promptChatId = some chatId ∧ session.promptMessageId = some messageId ∧
    session.previewMessageId = some p ∧ session.previewChatId = some preview.1 ∧
    preview.2 = p ∧ session' = session.clearPreview
  := by
  rw [BroadcastSession.consumePreview] at h
  split at h
  · contradiction
  · next hcurrent =>
      simp only [not_or, not_not] at hcurrent
      cases hchat : session.previewChatId with
      | none =>
          rw [hchat] at h
          contradiction
      | some previewChatId =>
          rw [hchat] at h
          obtain ⟨rfl, rfl⟩ := Prod.mk.inj (Option.some.inj h)
          use hcurrent.1, hcurrent.2.1, hcurrent.2.2

/-- A preview is taken out of the session only when the click confirms it. -/
theorem ends_consumeConfirmation (hw : w.Sound chatId) {Q : Option (ℤ × ℤ) → World → Prop}
    {E : Failure → World → Prop}
    (hnone : (∀ p, ¬ w.Confirms chatId messageId data callback p) → Q none w)
    (hsome : ∀ p, w.Confirms chatId messageId data callback p →
      Q (some (chatId, p)) { w with session := w.session.clearPreview }) :
  Ends (consumeConfirmation chatId messageId data callback) w Q E
  := by
  rw [consumeConfirmation]
  cases hdata : confirmationPreviewMessageId data callback with
  | none =>
      apply hnone
      intro p hp
      rw [hp.data] at hdata
      contradiction
  | some p =>
      rw [ends_bind, ends_get]
      cases hconsume : w.session.consumePreview chatId messageId p with
      | none =>
          apply hnone
          intro p' hp'
          obtain rfl := Option.some.inj (hdata.symm.trans hp'.data)
          rw [BroadcastSession.consumePreview, hp'.promptChatId, hp'.promptMessageId,
            hp'.previewMessageId, hw.previewChat p hp'.previewMessageId] at hconsume
          simp at hconsume
      | some consumed =>
          obtain ⟨⟨previewChatId, previewMessageId⟩, session⟩ := consumed
          obtain ⟨hchat, hmessage, hpreview, hpreviewChat, rfl, rfl⟩ :=
            consumePreview_eq_some hconsume
          obtain rfl := Option.some.inj ((hw.previewChat _ hpreview).symm.trans hpreviewChat)
          apply hsome _ ⟨hdata, hchat, hmessage, hpreview⟩

/-- Each chat is sent one copy of the preview, whatever fails. -/
theorem ends_broadcastCopyToChats {previewChatId p : ℤ} {chats : List ℤ} :
  Ends (broadcastCopyToChats bot previewChatId p chats) w
    (fun _ w' => w'.session = w.session ∧ (∀ c, w.ids c ⊆ w'.ids c) ∧
      w'.copies = w.copies ++ chats.map fun chat => ⟨chat, previewChatId, p⟩)
    fun _ _ => False
  := by
  induction chats generalizing w with
  | nil =>
      rw [broadcastCopyToChats, ends_pure]
      use rfl, fun _ => subset_rfl
      simp
  | cons chat chats ih =>
      have hcopied (w₁ : World) (hw₁ : World.Extends
          { w with copies := w.copies ++ [⟨chat, previewChatId, p⟩] } w₁) (sent : Bool) :
          Ends (do
            let counts ← broadcastCopyToChats bot previewChatId p chats
            return if sent then (counts.1 + 1, counts.2) else (counts.1, counts.2 + 1)) w₁
            (fun _ w' => w'.session = w.session ∧ (∀ c, w.ids c ⊆ w'.ids c) ∧
              w'.copies = w.copies ++ (chat :: chats).map fun chat => ⟨chat, previewChatId, p⟩)
            fun _ _ => False := by
        rw [ends_bind]
        apply ih.mono
        · rintro counts w' ⟨hsession, hids, hcopies⟩
          use hsession.trans hw₁.session, fun c => (hw₁.ids c).trans (hids c)
          rw [hcopies, hw₁.copies, List.append_assoc]
          rfl
        · intro _ _ h
          apply h
      rw [broadcastCopyToChats, ends_bind, ends_modify, ends_bind, ends_tryCatch, ends_bind]
      apply ends_copyMessage.mono
      · intro _ w₁ hw₁
        apply hcopied w₁ hw₁.1.toExtends
      · intro _ w₁ hw₁
        apply hcopied w₁ hw₁.toExtends

/-- A session without a preview stays sound when messages are copied. -/
theorem World.Sound.of_copies (h : w.Sound chatId) (hsession : w'.session = w.session)
    (hids : ∀ c, w.ids c ⊆ w'.ids c) (hcopies : ∀ copy ∈ w'.copies, copy.messageId ∈ w'.ids chatId)
    (hpreview : w'.session.previewMessageId = none) :
  w'.Sound chatId
  where
    promptChat := by
      rw [hsession]
      apply h.promptChat
    promptMessage m hm := by
      rw [hsession] at hm
      apply hids chatId (h.promptMessage m hm)
    previewChat p hp := by
      rw [hpreview] at hp
      contradiction
    previewMessage p hp := by
      rw [hpreview] at hp
      contradiction
    copies := hcopies

/-- What a handler does once a click has confirmed the preview: it copies the preview to the
targets, and what it does before and after keeps a session without a preview. -/
theorem ends_confirmed {p : ℤ} {targets : Finset ℤ} {handler : Handler States}
    {handler' : ℕ × ℕ → Handler States} (hw : w.Sound chatId)
    (hp : w.Confirms chatId messageId data callback p)
    (h : ∀ w₀ : World, w.ids chatId ⊆ w₀.ids chatId → Keeps (w₀.Emptied chatId) handler)
    (h' : ∀ (w₀ : World) (counts : ℕ × ℕ), w.ids chatId ⊆ w₀.ids chatId →
      Keeps (w₀.Emptied chatId) (handler' counts)) :
  Ends (do
      answer bot none
      if targets = ∅ then handler
      else
        let counts ← broadcastCopyToChats bot chatId p (targets.sort (· ≤ ·))
        handler' counts)
    { w with session := w.session.clearPreview }
    (fun next w' => w'.Safe texts chatId (some next) ∧
      w.Confirmed bot chatId messageId data callback targets w')
    fun _ w' => w'.Safe texts chatId state ∧
      w.Confirmed bot chatId messageId data callback targets w'
  := by
  have hnobody (htargets : targets = ∅) (w' : World) (hw' : w.Emptied chatId w')
      (state : Option States) :
      w'.Safe texts chatId state ∧ w.Confirmed bot chatId messageId data callback targets w' := by
    obtain ⟨_, hw'⟩ := hw'
    use hw'.safe
    right
    use p, hp
    simp [htargets, hw'.copies]
  have hemptied : w.Emptied chatId { w with session := w.session.clearPreview } :=
    ⟨_, hw.clearPreview⟩
  rw [ends_bind]
  apply ((keeps_answer stable_emptied _ hemptied).and ends_answer_of_nextSucceeds).mono
  · rintro _ w₁ ⟨hw₁, -⟩
    split
    next htargets =>
        apply (h w subset_rfl w₁ hw₁).mono
        · intro next w' hw'
          apply hnobody htargets w' hw'
        · intro _ w' hw'
          apply hnobody htargets w' hw'
    next =>
        rw [ends_bind]
        apply ends_broadcastCopyToChats.mono
        · rintro counts w₂ ⟨hsession, hids, hcopies⟩
          obtain ⟨_, hw₁⟩ := hw₁
          rw [hw₁.copies] at hcopies
          have hsubset := (hw₁.ids chatId).trans (hids chatId)
          have hempty : w₂.session.previewMessageId = none := by
            rw [hsession]
            apply hw₁.previewMessageId
          have hsound : w₂.Sound chatId := by
            apply hw₁.sound.of_copies hsession hids _ hempty
            intro copy hcopy
            rw [hcopies, List.mem_append] at hcopy
            obtain hold | hnew := hcopy
            · apply hsubset (hw.copies copy hold)
            · obtain ⟨chat, -, rfl⟩ := List.mem_map.mp hnew
              apply hsubset (hw.previewMessage p hp.previewMessageId).1
          have hcopied (w' : World) (hw' : w₂.Emptied chatId w') (state : Option States) :
              w'.Safe texts chatId state ∧
                w.Confirmed bot chatId messageId data callback targets w' := by
            obtain ⟨_, hw'⟩ := hw'
            use hw'.safe
            right
            use p, hp
            rw [hw'.copies, hcopies]
          apply (h' w₂ counts hsubset w₂ (hsound.emptied hempty)).mono
          · intro next w' hw'
            apply hcopied w' hw'
          · intro _ w' hw'
            apply hcopied w' hw'
        · intro _ _ h
          contradiction
  · rintro _ w' ⟨⟨_, hw'⟩, hfails⟩
    use hw'.safe
    left
    use hw'.copies
    right
    use ⟨p, hp⟩
    apply hfails

/-- A confirmation that is refused changes nothing. -/
theorem ends_expired (hw : w.Safe texts chatId state) {next : States} {targets : Finset ℤ}
    (hstate : state = some next) (hno : ∀ p, ¬ w.Confirms chatId messageId data callback p) :
  Ends (do
      answer bot (some expiredText)
      return next) w
    (fun next w' => w'.Safe texts chatId (some next) ∧
      w.Confirmed bot chatId messageId data callback targets w')
    fun _ w' => w'.Safe texts chatId state ∧
      w.Confirmed bot chatId messageId data callback targets w'
  := by
  rw [ends_bind]
  apply ends_answer.mono
  · intro _ w' hw'
    rw [ends_pure, ← hstate]
    use hw.quiet hw', Or.inl ⟨hw'.copies, Or.inl ⟨hno, hw'.session⟩⟩
  · intro _ w' hw'
    use hw.quiet hw', Or.inl ⟨hw'.copies, Or.inl ⟨hno, hw'.session⟩⟩

/-- Showing the result of a broadcast stores no preview. -/
theorem keeps_showResult (hm : messageId ∈ w.ids chatId) {screen : Screen} {next : States} :
  Keeps (w.Emptied chatId) (do
    deletePreviewByReference bot
    let isMessage ← editMessageText bot chatId messageId screen
    storePrompt chatId messageId isMessage
    return next)
  := by
  apply (keeps_deletePreviewByReference stable_emptied).bind
  intro _
  apply keeps_showPrompt hm
  apply keeps_pure

/-- `broadcast_all_confirm` -/
theorem ends_broadcastAllConfirm {storage : BotStorage}
    (hw : w.Safe texts chatId (some .adminBroadcastMessageAll)) (hm : messageId ∈ w.ids chatId) :
  Ends (broadcastAllConfirm bot texts chatId storage messageId data) w
    (fun next w' => w'.Safe texts chatId (some next) ∧
      w.Confirmed bot chatId messageId data .adminBroadcastConfirmAll
        (storage.resolveTargetChats storage.nodeOperatorChats.ids) w')
    fun _ w' => w'.Safe texts chatId (some .adminBroadcastMessageAll) ∧
      w.Confirmed bot chatId messageId data .adminBroadcastConfirmAll
        (storage.resolveTargetChats storage.nodeOperatorChats.ids) w'
  := by
  rw [broadcastAllConfirm, ends_bind]
  apply ends_consumeConfirmation hw.sound
  · apply ends_expired hw rfl
  · intro p hp
    apply ends_confirmed hw.sound hp
    · intro w₀ hsubset
      apply keeps_showResult (hsubset hm)
    · intro w₀ counts hsubset
      apply keeps_showResult (hsubset hm)

/-- `broadcast_selected_confirm` -/
theorem ends_broadcastSelectedConfirm {storage : BotStorage}
    (hw : w.Safe texts chatId (some .adminBroadcastMessageSelected))
    (hm : messageId ∈ w.ids chatId) :
  Ends (broadcastSelectedConfirm bot texts chatId storage messageId data) w
    (fun next w' => w'.Safe texts chatId (some next) ∧
      w.Confirmed bot chatId messageId data .adminBroadcastConfirmSelected
        (storage.resolveTargetChats (w.session.selectedIds.getD ∅)) w')
    fun _ w' => w'.Safe texts chatId (some .adminBroadcastMessageSelected) ∧
      w.Confirmed bot chatId messageId data .adminBroadcastConfirmSelected
        (storage.resolveTargetChats (w.session.selectedIds.getD ∅)) w'
  := by
  rw [broadcastSelectedConfirm, ends_bind, ends_get]
  dsimp only
  split
  next hempty =>
      apply ends_expired hw rfl
      intro p hp
      obtain ⟨ids, hids, hselected, -⟩ := hw.shownSelected rfl p hp.previewMessageId
      rw [hselected] at hempty
      apply hids hempty
  next =>
      rw [ends_bind]
      apply ends_consumeConfirmation hw.sound
      · apply ends_expired hw rfl
      · intro p hp
        apply ends_confirmed hw.sound hp
        · intro w₀ hsubset
          apply keeps_showResult (hsubset hm)
        · intro w₀ counts hsubset
          apply (keeps_modifySession_selectedIds _).bind
          · intro _
            apply keeps_showResult (hsubset hm)
          · intro session
            use none
            rfl

end Handlers

end Sentinel.Admin
