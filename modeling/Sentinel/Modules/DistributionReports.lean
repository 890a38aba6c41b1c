import Sentinel.Modules.Distribution

/-!
# Who gets which message about a report

For every log, amount of rewards and storage, each chat gets the messages that it is due, unless
a number of the log cannot be read where the handler reads it: then the handler raises, and
chats that are due a message get none.
-/

namespace Sentinel.DistributionModule

open Python DistributionLog TelegramNotificationHandler

variable {m : DistributionModule} {engine : EventMessageEngine} {event : EventNotification}
  {rewards : ℤ} {telegram : Telegram} {storage : BotStorage}

/-- A notification is a report with an amount of rewards that the handler of a module gets. -/
structure Handles (m : DistributionModule) (engine : EventMessageEngine)
    (event : EventNotification) (rewards : ℤ) : Prop where
  name : event.primaryEvent.event = "DistributionLogUpdated"
  notifiable : event.primaryEvent.event ∈ engine.notifiableEvents
  handler : engine.eventHandlers.get? "DistributionLogUpdated" = some m.distributionLogUpdated
  args : event.primaryEvent.args.get? "nodeOperatorId" = none
  rewards : distributionReportRewards event = some rewards

/-- The log of a report, `none` where it cannot be fetched or read. -/
def log (m : DistributionModule) (event : EventNotification) : Option Log :=
  (m.fetchLog event).bind readLog

/-- Each chat gets the messages that it is due. -/
def DeliversDue (m : DistributionModule) (engine : EventMessageEngine)
    (event : EventNotification) (rewards : ℤ) : Prop :=
  ∀ telegram storage c,
    ((((attempts telegram storage engine event).received c).map some : List (Option String)) :
      Multiset (Option String)) = m.due event rewards storage (m.log event) c

/-! ### The plan for a report -/

/-- The plan for a report is that of the handler. -/
theorem Handles.getNotificationPlan_eq (h : Handles m engine event rewards) :
  engine.getNotificationPlan event
    = (m.distributionLogUpdated event).map EventMessageEngine.planOf
  := by
  have hhandler : engine.IsHandler event m.distributionLogUpdated := by
    use h.notifiable
    rw [h.name, h.handler]
  apply hhandler.getNotificationPlan_eq
  intro result plan _ _
  rw [EventMessageEngine.narrow, h.args]
  cases plan.delivery with
  | broadcast message operatorIds => cases operatorIds <;> rfl
  | operatorMessages => rfl
  | perChat => rfl

/-- The handler of a report, from what the log says. -/
theorem Handles.distributionLogUpdated_eq (h : Handles m engine event rewards) :
  m.distributionLogUpdated event
    = match m.log event with
      | none =>
          if rewards > 0 then some (.plan (.broadcast (m.fallbackMessage event)))
          else some .nothing
      | some log =>
          (m.operatorMessages event (decide (rewards > 0)) (summarise log).strikesPerOperator).bind
            fun messages =>
              if rewards > 0 then
                if messages.items = [] then
                  if log.operatorIds.Nonempty then
                    some (.plan (.broadcastToOperators id (m.fallbackMessage event)
                      log.operatorIds))
                  else some (.plan (.broadcast (m.fallbackMessage event)))
                else
                  (NotificationPlan.perChat id log.operatorIds (m.render event messages)).map .plan
              else if messages.items = [] then some .nothing
              else (NotificationPlan.perOperator messages).map .plan
  := by
  have hparse : (m.fetchLog event).bind parseDistributionLog = (m.log event).map summarise := by
    rw [log]
    cases m.fetchLog event with
    | none => rfl
    | some payload => apply parseDistributionLog_eq
  rw [distributionLogUpdated, h.rewards]
  simp only [Option.bind_eq_bind, Option.bind_some]
  rw [hparse]
  cases m.log event with
  | none => by_cases hrewards : rewards > 0 <;> simp [hrewards]
  | some log =>
      simp only [Option.map_some, (get?_summarise log "").1]
      by_cases hrewards : rewards > 0 <;> simp [hrewards]

/-! ### What is sent -/

/-- Nothing is sent where the handler raises or has nothing to send. -/
theorem Handles.attempts_eq_nil (h : Handles m engine event rewards)
    (hresult : m.distributionLogUpdated event = none
      ∨ m.distributionLogUpdated event = some .nothing) :
  attempts telegram storage engine event = []
  := by
  rw [attempts_eq, h.getNotificationPlan_eq]
  rcases hresult with hresult | hresult <;> rw [hresult] <;> rfl

/-- What is sent is what the plan of the handler has for each chat. -/
theorem Handles.received_of_plan (h : Handles m engine event rewards) {plan : NotificationPlan}
    (hresult : m.distributionLogUpdated event = some (.plan plan)) (hrenders : plan.Renders)
    (c : ℤ) :
  (attempts telegram storage engine event).received c = messagesFor storage plan.delivery c
  := by
  rw [attempts_eq, h.getNotificationPlan_eq, hresult]
  apply received_deliveryAttempts hrenders

/-- A report whose log cannot be read. -/
theorem Handles.received_of_log_eq_none (h : Handles m engine event rewards)
    (hlog : m.log event = none) (c : ℤ) :
  (attempts telegram storage engine event).received c
    = if rewards > 0 ∧ c ∈ storage.actualChatIds then [m.fallbackMessage event] else []
  := by
  have hresult := h.distributionLogUpdated_eq
  rw [hlog] at hresult
  by_cases hrewards : rewards > 0
  · simp only [hrewards, if_true] at hresult
    rw [h.received_of_plan hresult trivial]
    simp [messagesFor, NotificationPlan.broadcast, hrewards]
  · simp only [hrewards, if_false] at hresult
    rw [h.attempts_eq_nil (.inr hresult)]
    simp [Attempts.received, hrewards]

/-- A report where making a message raises. -/
theorem Handles.attempts_of_operatorMessages_eq_none (h : Handles m engine event rewards)
    {log : Log} (hlog : m.log event = some log)
    (hnone : m.operatorMessages event (decide (rewards > 0)) (summarise log).strikesPerOperator
      = none) :
  attempts telegram storage engine event = []
  := by
  have hresult := h.distributionLogUpdated_eq
  rw [hlog] at hresult
  simp only [hnone, Option.bind_none] at hresult
  apply h.attempts_eq_nil (.inl hresult)

section Messages

variable {log : Log} {messages : Dict String String}

/-- A report without rewards: the messages about strikes only. -/
theorem Handles.received_of_not_rewards (h : Handles m engine event rewards)
    (hlog : m.log event = some log)
    (hmessages : m.operatorMessages event (decide (rewards > 0))
      (summarise log).strikesPerOperator = some messages)
    (hrewards : ¬ rewards > 0) (c : ℤ) :
  (attempts telegram storage engine event).received c
    = (messages.items.filter fun item => storage.ActiveFollower item.1 c).map Prod.snd
  := by
  have hresult := h.distributionLogUpdated_eq
  rw [hlog] at hresult
  simp only [hmessages, Option.bind_some] at hresult
  rw [if_neg hrewards] at hresult
  by_cases hempty : messages.items = []
  · rw [if_pos hempty] at hresult
    rw [h.attempts_eq_nil (.inr hresult), hempty]
    rfl
  · rw [if_neg hempty, NotificationPlan.perOperator, if_neg hempty, Option.map_some] at hresult
    rw [h.received_of_plan hresult trivial]
    rfl

/-- A report with rewards and no strikes. -/
theorem Handles.received_of_not_flagged (h : Handles m engine event rewards)
    (hlog : m.log event = some log)
    (hmessages : m.operatorMessages event (decide (rewards > 0))
      (summarise log).strikesPerOperator = some messages)
    (hrewards : rewards > 0) (hflagged : log.flaggedIds = ∅) (c : ℤ) :
  (attempts telegram storage engine event).received c
    = if log.operatorIds = ∅ ∧ c ∈ storage.actualChatIds
          ∨ ∃ id ∈ log.operatorIds, storage.ActiveFollower id c then
        [m.fallbackMessage event]
      else []
  := by
  have hresult := h.distributionLogUpdated_eq
  rw [hlog] at hresult
  have hempty := (operatorMessages_eq_nil_iff hmessages).mpr hflagged
  simp only [hmessages, Option.bind_some] at hresult
  rw [if_pos hrewards, if_pos hempty] at hresult
  by_cases hids : log.operatorIds.Nonempty
  · rw [if_pos hids] at hresult
    rw [h.received_of_plan hresult trivial]
    simp [messagesFor, NotificationPlan.broadcastToOperators, normaliseOperatorIds,
      hids.ne_empty]
  · rw [if_neg hids] at hresult
    rw [h.received_of_plan hresult trivial]
    simp [messagesFor, NotificationPlan.broadcast, Finset.not_nonempty_iff_eq_empty.mp hids]

/-- The plan for a report with rewards and strikes. -/
theorem Handles.result_of_flagged (h : Handles m engine event rewards)
    (hlog : m.log event = some log)
    (hmessages : m.operatorMessages event (decide (rewards > 0))
      (summarise log).strikesPerOperator = some messages)
    (hrewards : rewards > 0) (hflagged : log.flaggedIds.Nonempty) :
  m.distributionLogUpdated event
    = some (.plan ⟨.perChat log.operatorIds (m.render event messages)⟩)
  := by
  have hresult := h.distributionLogUpdated_eq
  rw [hlog] at hresult
  have hne : messages.items ≠ [] := by
    rw [ne_eq, operatorMessages_eq_nil_iff hmessages]
    apply hflagged.ne_empty
  obtain ⟨id, hid⟩ := hflagged
  have hids : log.operatorIds ≠ ∅ :=
    Finset.ne_empty_of_mem (Log.mem_operatorIds_of_flagged (Log.mem_flaggedIds.mp hid))
  simp only [hmessages, Option.bind_some] at hresult
  rw [if_pos hrewards, if_neg hne] at hresult
  rw [hresult, NotificationPlan.perChat]
  simp [normaliseOperatorIds, hids]

end Messages

/-! ### The numbers can be read -/

/-- The messages about strikes, with and without rewards, are those that a chat is due. -/
theorem map_received_eq_dueStrikes {log : Log} {messages : Dict String String}
    (hmessages : m.operatorMessages event (decide (rewards > 0))
      (summarise log).strikesPerOperator = some messages) (c : ℤ) :
  (((((messages.items.filter fun item => storage.ActiveFollower item.1 c).map Prod.snd).map
      some : List (Option String))) : Multiset (Option String))
    = m.dueStrikes event rewards storage log c
  := by
  rw [List.map_map]
  exact map_filter_operatorMessages hmessages fun id => storage.ActiveFollower id c

/-- A chat that follows none of the node operators of a log is due no message about strikes. -/
theorem dueStrikes_eq_zero {log : Log} {c : ℤ}
    (h : ∀ id ∈ log.flaggedIds, ¬ storage.ActiveFollower id c) :
  m.dueStrikes event rewards storage log c = 0
  := by
  rw [dueStrikes, Finset.filter_eq_empty_iff.mpr fun id hid => h id hid]
  rfl

/-- What is rendered for a chat is what it is due. -/
theorem render_eq_due {log : Log} {messages : Dict String String}
    (hmessages : m.operatorMessages event (decide (rewards > 0))
      (summarise log).strikesPerOperator = some messages)
    (hrewards : rewards > 0) (hflagged : log.flaggedIds.Nonempty) {c : ℤ}
    (hrender : (m.render event messages (followed storage log.operatorIds c)).isSome) :
  (((messagesFor storage (.perChat log.operatorIds (m.render event messages)) c).map some :
      List (Option String)) : Multiset (Option String))
    = m.due event rewards storage (some log) c
  := by
  obtain ⟨rendered, hrendered⟩ := Option.isSome_iff_exists.mp hrender
  have hids : log.operatorIds ≠ ∅ := by
    obtain ⟨id, hid⟩ := hflagged
    exact Finset.ne_empty_of_mem (Log.mem_operatorIds_of_flagged (Log.mem_flaggedIds.mp hid))
  rw [messagesFor, due]
  by_cases hchat : c ∈ storage.actualChatIds ∧ (followed storage log.operatorIds c).Nonempty
  · rw [if_pos hchat, hrendered, Option.getD_some, render_eq hmessages hrendered]
    obtain ⟨hactual, id, hid⟩ := hchat
    have hid' := mem_followed.mp hid
    split
    next hsome =>
        have hdue : ¬ DueRewards rewards storage log c := by
          rintro ⟨-, ⟨hempty, -⟩ | ⟨-, hnone⟩⟩
          · exact hids hempty
          · obtain ⟨id', hid', hflagged'⟩ := hsome
            exact hnone id' hflagged' ⟨hactual, (mem_followed.mp hid').2⟩
        have hset : (followed storage log.operatorIds c).filter (· ∈ log.flaggedIds)
            = log.flaggedIds.filter fun id => storage.ActiveFollower id c := by
          ext id'
          rw [Finset.mem_filter, Finset.mem_filter, mem_followed]
          constructor
          · exact fun h => ⟨h.2, hactual, h.1.2⟩
          · intro h
            have hmem := Log.mem_operatorIds_of_flagged (Log.mem_flaggedIds.mp h.1)
            exact ⟨⟨hmem, h.2.2⟩, h.1⟩
        rw [if_neg hdue, add_zero, hset]
        rfl
    next hnone =>
        have hfollows : ∀ id' ∈ log.flaggedIds, ¬ storage.ActiveFollower id' c := by
          intro id' hflagged' hfollower
          apply hnone
          have hmem := Log.mem_operatorIds_of_flagged (Log.mem_flaggedIds.mp hflagged')
          exact ⟨id', mem_followed.mpr ⟨hmem, hfollower.2⟩, hflagged'⟩
        have hdue : DueRewards rewards storage log c :=
          ⟨hrewards, .inr ⟨⟨id, hid'.1, hactual, hid'.2⟩, hfollows⟩⟩
        rw [if_pos hdue, dueStrikes_eq_zero hfollows, zero_add]
  · have hfollows : ∀ id ∈ log.operatorIds, ¬ storage.ActiveFollower id c := by
      intro id hid hfollower
      exact hchat ⟨hfollower.1, id, mem_followed.mpr ⟨hid, hfollower.2⟩⟩
    have hdue : ¬ DueRewards rewards storage log c := by
      rintro ⟨-, ⟨hempty, -⟩ | ⟨⟨id, hid, hfollower⟩, -⟩⟩
      · exact hids hempty
      · exact hfollows id hid hfollower
    rw [if_neg hchat, if_neg hdue, add_zero, dueStrikes_eq_zero]
    · rfl
    · intro id hid
      apply hfollows id (Log.mem_operatorIds_of_flagged (Log.mem_flaggedIds.mp hid))

/-- When the numbers can be read, each chat gets the messages that it is due. -/
theorem Handles.deliversDue (h : Handles m engine event rewards)
    (hreadable : ∀ log, m.log event = some log → m.Readable rewards log) :
  DeliversDue m engine event rewards
  := by
  intro telegram storage c
  cases hlog : m.log event with
  | none =>
      rw [h.received_of_log_eq_none hlog, due]
      split <;> rfl
  | some log =>
      have hlogReadable := hreadable log hlog
      have hall := (@forall_messageFor_iff m event (decide (rewards > 0)) log).mpr
        ⟨hlogReadable.validators, hlogReadable.labels⟩
      cases hmessages : m.operatorMessages event (decide (rewards > 0))
          (summarise log).strikesPerOperator with
      | none =>
          obtain ⟨id, hid, hnone⟩ := (operatorMessages_eq_none_iff _ _).mp hmessages
          exact absurd hnone (hall id hid)
      | some messages =>
          by_cases hrewards : rewards > 0
          · by_cases hflagged : log.flaggedIds.Nonempty
            · have hisSome : ∀ ids ⊆ log.operatorIds,
                  (m.render event messages ids).isSome := by
                intro ids hids
                rw [Option.isSome_iff_ne_none, ne_eq, render_eq_none_iff]
                rintro ⟨id, hid, hnone⟩
                have hsome := hlogReadable.operators hrewards hflagged id (hids hid)
                rw [hnone] at hsome
                cases hsome
              rw [h.received_of_plan (h.result_of_flagged hlog hmessages hrewards hflagged) hisSome]
              apply render_eq_due hmessages hrewards hflagged
              apply hisSome _ (Finset.filter_subset _ _)
            · have hempty := Finset.not_nonempty_iff_eq_empty.mp hflagged
              have hzero : m.dueStrikes event rewards storage log c = 0 := by
                apply dueStrikes_eq_zero
                simp [hempty]
              rw [h.received_of_not_flagged hlog hmessages hrewards hempty, due, hzero, zero_add]
              have hdue : DueRewards rewards storage log c
                  ↔ log.operatorIds = ∅ ∧ c ∈ storage.actualChatIds
                    ∨ ∃ id ∈ log.operatorIds, storage.ActiveFollower id c := by
                simp [DueRewards, hrewards, hempty]
              simp only [hdue]
              split <;> rfl
          · have hdue : ¬ DueRewards rewards storage log c := fun hdue => hrewards hdue.1
            rw [h.received_of_not_rewards hlog hmessages hrewards,
              map_received_eq_dueStrikes hmessages, due, if_neg hdue, add_zero]

/-! ### A number cannot be read -/

/-- The follower of a node operator of a log with rewards, or with strikes, is due a message. -/
theorem exists_mem_due_follower {log : Log} {id : String} (hid : id ∈ log.operatorIds)
    (h : rewards > 0 ∨ id ∈ log.flaggedIds) :
  ∃ message, message ∈ m.due event rewards (.follower id) (some log) 1
  := by
  by_cases hflagged : id ∈ log.flaggedIds
  · use m.messageFor event (decide (rewards > 0)) log id
    apply Multiset.mem_add.mpr (.inl _)
    apply Multiset.mem_map_of_mem
    apply Finset.mem_filter.mpr ⟨hflagged, BotStorage.activeFollower_follower.mpr ⟨rfl, rfl⟩⟩
  · have hdue : DueRewards rewards (.follower id) log 1 := by
      refine ⟨h.resolve_right hflagged, .inr ⟨⟨id, hid, ?_⟩, ?_⟩⟩
      · exact BotStorage.activeFollower_follower.mpr ⟨rfl, rfl⟩
      · intro id' hid' hfollower
        obtain ⟨-, rfl⟩ := BotStorage.activeFollower_follower.mp hfollower
        exact hflagged hid'
    use some (m.fallbackMessage event)
    apply Multiset.mem_add.mpr (.inr _)
    rw [if_pos hdue]
    apply Multiset.mem_singleton_self

/-- A chat that is due a message and gets none. -/
theorem not_deliversDue {log : Log} (hlog : m.log event = some log) {id : String}
    (hid : id ∈ log.operatorIds) (h : rewards > 0 ∨ id ∈ log.flaggedIds)
    (hreceived : (attempts .reliable (.follower id) engine event).received 1 = []) :
  ¬ DeliversDue m engine event rewards
  := by
  intro hdelivers
  obtain ⟨message, hmessage⟩ := @exists_mem_due_follower m event rewards log id hid h
  have hdue := hdelivers .reliable (.follower id) 1
  rw [hreceived, hlog] at hdue
  rw [← hdue] at hmessage
  exact Multiset.notMem_zero _ hmessage

/-- Where a message about strikes cannot be made, nobody gets any. -/
theorem Handles.messageFor_ne_none (h : Handles m engine event rewards)
    (hdelivers : DeliversDue m engine event rewards) {log : Log}
    (hlog : m.log event = some log) :
  ∀ id ∈ log.flaggedIds, m.messageFor event (decide (rewards > 0)) log id ≠ none
  := by
  intro id hid hnone
  have hmessages := (operatorMessages_eq_none_iff (m := m) _ _).mpr ⟨id, hid, hnone⟩
  have hmem := Log.mem_operatorIds_of_flagged (Log.mem_flaggedIds.mp hid)
  apply not_deliversDue hlog hmem (.inr hid) _ hdelivers
  rw [h.attempts_of_operatorMessages_eq_none hlog hmessages]
  rfl

/-- Where the number of a node operator cannot be read, its followers get nothing. -/
theorem Handles.received_follower (h : Handles m engine event rewards) {log : Log}
    (hlog : m.log event = some log) {messages : Dict String String}
    (hmessages : m.operatorMessages event (decide (rewards > 0))
      (summarise log).strikesPerOperator = some messages)
    (hrewards : rewards > 0) (hflagged : log.flaggedIds.Nonempty) {id : String}
    (hid : id ∈ log.operatorIds) (hnone : int id = none) :
  (attempts .reliable (.follower id) engine event).received 1 = []
  := by
  have hresult := h.result_of_flagged hlog hmessages hrewards hflagged
  rw [attempts_eq, h.getNotificationPlan_eq, hresult]
  have hfollows : (BotStorage.follower id).ActiveFollower id 1 :=
    BotStorage.activeFollower_follower.mpr ⟨rfl, rfl⟩
  have hmem : id ∈ followed (.follower id) log.operatorIds 1 :=
    Finset.mem_filter.mpr ⟨hid, hfollows.2⟩
  have hget := @get?_operatorIdsByChat .reliable (.follower id) log.operatorIds 1
  rw [if_pos ⟨hfollows.1, id, hmem⟩] at hget
  apply received_renderedAttempts_of_none (Dict.nodup _) (Dict.get?_eq_some_iff.mp hget)
  apply render_eq_none_iff.mpr ⟨id, hmem, hnone⟩

/-- A log is the same in any of its shapes. -/
theorem readLog_shapes (frames : List LogValue) (items : List (String × LogValue)) :
  readLog (.dict (("frames", .list frames) :: items)) = readLog (.list frames)
    ∧ (items.lookup "frames" = none → readLog (.dict items) = readLog (.list [.dict items]))
  := by
  obtain ⟨hlist, hframes, hframe⟩ := distributionLogEntries_shapes frames items
  constructor
  · rw [readLog, readLog, hlist, hframes]
  · intro hnone
    rw [readLog, readLog, hframe hnone]
    rfl

/-- A log is the same in any of its three shapes. For every log, every amount of rewards and
every storage, each chat gets exactly the messages that it is due, if and only if the numbers of
the log can be read. -/
theorem distributionLogUpdated_deliversDue_iff (h : Handles m engine event rewards) :
  (∀ frames items, readLog (.dict (("frames", .list frames) :: items)) = readLog (.list frames)
      ∧ (items.lookup "frames" = none → readLog (.dict items) = readLog (.list [.dict items])))
    ∧ (DeliversDue m engine event rewards
      ↔ ∀ log, m.log event = some log → m.Readable rewards log)
  := by
  apply And.intro readLog_shapes
  constructor
  · intro hdelivers log hlog
    have hall := h.messageFor_ne_none hdelivers hlog
    obtain ⟨hvalidators, hlabels⟩ := forall_messageFor_iff.mp hall
    refine ⟨hvalidators, hlabels, ?_⟩
    intro hrewards hflagged id hid
    by_contra hnone
    rw [Option.not_isSome_iff_eq_none] at hnone
    cases hmessages : m.operatorMessages event (decide (rewards > 0))
        (summarise log).strikesPerOperator with
    | none =>
        obtain ⟨id', hid', hnone'⟩ := (operatorMessages_eq_none_iff _ _).mp hmessages
        exact hall id' hid' hnone'
    | some messages =>
        apply not_deliversDue hlog hid (.inl hrewards) _ hdelivers
        apply h.received_follower hlog hmessages hrewards hflagged hid hnone
  · exact h.deliversDue

/-! ### Reports with one validator -/

/-- A report with some shares. -/
def report (shares : ℤ) : EventNotification where
  sourceEvents :=
    [ { Event.first 1 with
        event := "ModuleFeeDistributed"
        args := Dict.empty.set "shares" (.int shares) },
      { Event.first 1 with
        event := "DistributionLogUpdated"
        args := Dict.empty.set "logCid" (.str "cid") } ]
  nonempty := List.cons_ne_nil _ _

/-- The log of a validator with a strike. -/
def strikeLog (validatorId : String) : LogValue :=
  .dict [("operators", .dict [("1", .dict [("validators",
    .dict [(validatorId, .dict [("strikes", .int 1)])])])])]

/-- A module that fetches the log of a validator with a strike. -/
def strikeModule (validatorId : String) : DistributionModule where
  baseMessage := "Rewards"
  strikesMessage operatorId _ _ := "Strikes " ++ operatorId
  footer _ := ""
  fetchDistributionLog _ := some (strikeLog validatorId)
  operatorLabel := .id
  operatorOrder := .sorted

/-- The engine of the module. -/
def strikeEngine (validatorId : String) : EventMessageEngine where
  notifiableEvents := {"DistributionLogUpdated"}
  eventHandlers :=
    Dict.empty.set "DistributionLogUpdated" (strikeModule validatorId).distributionLogUpdated

theorem handles_strikeModule (validatorId : String) (shares : ℤ) :
  (strikeModule validatorId).Handles (strikeEngine validatorId) (report shares) shares
  where
  name := rfl
  notifiable := Finset.mem_singleton_self _
  handler := Dict.get?_set_self _ _ _
  args := rfl
  rewards := rfl

theorem log_strikeModule (validatorId : String) (shares : ℤ) :
  (strikeModule validatorId).log (report shares) = some [("1", [(validatorId, 1)])]
  := by
  have hdecimal : isDecimal "1" = true := by decide
  have hfetch : (strikeModule validatorId).fetchLog (report shares)
      = some (strikeLog validatorId) := by
    simp [fetchLog, report, EventNotification.primaryEvent, isTruthy, strikeModule]
  rw [log, hfetch, Option.bind_some]
  simp [readLog, strikeLog, distributionLogEntries, readEntry, readOperator, LogValue.objectAt,
    LogValue.isTruthy, strikesOf, LogValue.toInt, List.lookup_cons, hdecimal]

/-- A log with a numbered validator. -/
theorem distributionLogUpdated_deliversDue_iff_numbered :
  DeliversDue (strikeModule "17") (strikeEngine "17") (report 5) 5
  := by
  apply (distributionLogUpdated_deliversDue_iff (handles_strikeModule "17" 5)).2.mpr
  intro log hlog
  obtain rfl := Option.some.inj ((log_strikeModule "17" 5).symm.trans hlog)
  constructor
  · intro id hid validator hvalidator _
    obtain ⟨operator, hoperator, hvalidator⟩ := List.mem_flatMap.mp hvalidator
    obtain rfl := List.mem_singleton.mp (List.mem_filter.mp hoperator).1
    obtain rfl := List.mem_singleton.mp (List.mem_filter.mp hvalidator).1
    decide
  · nofun
  · intro _ _ id hid
    obtain rfl : id = "1" := by simpa [Log.operatorIds] using hid
    decide

/-- A validator whose id is a superscript: its node operator has a strike, and its follower gets
no message. -/
theorem not_deliversDue_superscript :
  ¬ DeliversDue (strikeModule "²") (strikeEngine "²") (report 0) 0
  := by
  intro hdelivers
  have hall := (handles_strikeModule "²" 0).messageFor_ne_none hdelivers (log_strikeModule "²" 0)
  apply hall "1"
  · apply Log.mem_flaggedIds.mpr
    decide
  · decide

end Sentinel.DistributionModule
