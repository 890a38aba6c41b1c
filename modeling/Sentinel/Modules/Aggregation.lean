import Sentinel.Models
import Mathlib.Data.Finset.Sort
import Mathlib.Data.String.Basic

/-!
# Aggregation windows and aggregators

An `AggregationWindow` collects the events of one group and one key over a range of blocks.
An `EventAggregator` says to which group and key an event belongs, opens a window for it, and
turns the events of a window into notifications.
-/

namespace Sentinel

/-! ### Groups, keys and windows -/

/-- A group of aggregated events, with the number of blocks of its windows. -/
structure AggregationGroup where
  name : String
  windowBlocks : ℕ
  positive : 1 ≤ windowBlocks
deriving DecidableEq

/-- What the events of a window have in common. -/
structure AggregationKey where
  kind : String
  value : String
deriving DecidableEq

/-- The key of the windows that take every event of their group. -/
def AggregationKey.globalKey : AggregationKey where
  kind := "global"
  value := "all"

/-- The events of a group and a key in a range of blocks. -/
structure AggregationWindow where
  group : String
  aggregationKey : AggregationKey
  startBlock : ℕ
  endBlock : ℕ
  eventNames : Finset String
  events : List Event
deriving DecidableEq

namespace AggregationWindow

/-- A block is in the range of the window. -/
def Contains (window : AggregationWindow) (block : ℕ) : Prop :=
  window.startBlock ≤ block ∧ block ≤ window.endBlock

instance (window : AggregationWindow) (block : ℕ) : Decidable (window.Contains block) :=
  inferInstanceAs (Decidable (_ ∧ _))

/-- The window has an event of a log identity. -/
def Has (window : AggregationWindow) (identity : String × String × ℕ) : Prop :=
  ∃ e ∈ window.events, e.logIdentity = identity

/-- The window with one more event, unless it has the log of the event already. -/
def withEvent (window : AggregationWindow) (e : Event) : AggregationWindow :=
  if window.events.any fun stored => stored.logIdentity = e.logIdentity then window
  else { window with events := window.events ++ [e] }

@[simp]
theorem group_withEvent (window : AggregationWindow) (e : Event) :
  (window.withEvent e).group = window.group
  := by
  rw [withEvent]
  split <;> rfl

@[simp]
theorem aggregationKey_withEvent (window : AggregationWindow) (e : Event) :
  (window.withEvent e).aggregationKey = window.aggregationKey
  := by
  rw [withEvent]
  split <;> rfl

@[simp]
theorem startBlock_withEvent (window : AggregationWindow) (e : Event) :
  (window.withEvent e).startBlock = window.startBlock
  := by
  rw [withEvent]
  split <;> rfl

@[simp]
theorem endBlock_withEvent (window : AggregationWindow) (e : Event) :
  (window.withEvent e).endBlock = window.endBlock
  := by
  rw [withEvent]
  split <;> rfl

/-- The window has the log of the event it is given. -/
theorem has_withEvent_self (window : AggregationWindow) (e : Event) :
  (window.withEvent e).Has e.logIdentity
  := by
  rw [withEvent]
  split
  next hany =>
      obtain ⟨stored, hmem, hid⟩ := List.any_eq_true.mp hany
      use stored, hmem, of_decide_eq_true hid
  next =>
      use e
      simp

/-- The window keeps the events it has. -/
theorem mem_withEvent {window : AggregationWindow} {e e' : Event} (h : e' ∈ window.events) :
  e' ∈ (window.withEvent e).events
  := by
  rw [withEvent]
  split
  · apply h
  · apply List.mem_append_left _ h

/-- An event of the window is one it had or the one it is given. -/
theorem of_mem_withEvent {window : AggregationWindow} {e e' : Event}
    (h : e' ∈ (window.withEvent e).events) :
  e' ∈ window.events ∨ e' = e
  := by
  rw [withEvent] at h
  split at h
  · apply Or.inl h
  · simpa using h

/-- The log identities of a window stay distinct. -/
theorem nodup_withEvent {window : AggregationWindow} (e : Event)
    (h : (window.events.map Event.logIdentity).Nodup) :
  ((window.withEvent e).events.map Event.logIdentity).Nodup
  := by
  rw [withEvent]
  split
  next => apply h
  next hnone =>
      rw [List.map_append, List.map_singleton, List.nodup_append]
      use h, List.nodup_singleton _
      intro identity hmem identity' hsingle heq
      obtain ⟨stored, hstored, rfl⟩ := List.mem_map.mp hmem
      apply hnone
      apply List.any_eq_true.mpr
      use stored, hstored
      rw [decide_eq_true_eq, heq, List.mem_singleton.mp hsingle]

/-- A window that is given an event has it. -/
theorem withEvent_events_ne_nil (window : AggregationWindow) (e : Event) :
  (window.withEvent e).events ≠ []
  := by
  obtain ⟨stored, hmem, -⟩ := window.has_withEvent_self e
  apply List.ne_nil_of_mem hmem

end AggregationWindow

/-! ### Grouping events -/

/-- The members of a list by a key, the members of a key in their order in the list, `none`
where the key of a member raises. -/
def groupBy {κ : Type*} [DecidableEq κ] {α : Type*} (key : α → Option κ) (l : List α) :
    Option (Dict κ (List α)) :=
  l.foldlM (fun d a => (key a).map fun k => d.set k (d.getD k [] ++ [a])) .empty

/-- `EventNotification(events)`, `none` where it raises. -/
def EventNotification.ofEvents (events : List Event) : Option EventNotification :=
  if h : events ≠ [] then some ⟨events, h⟩ else none

/-! ### Aggregators -/

/-- The aggregator classes. -/
inductive AggregatorClass where
  /-- `NodeOperatorEventAggregator` -/
  | nodeOperator
  /-- `GlobalEventAggregator` -/
  | global
  /-- `DistributionReportAggregator` -/
  | distributionReport
  /-- `OperatorGroupChangeAggregator` -/
  | operatorGroupChange
deriving DecidableEq

/-- An aggregator of a class. -/
structure EventAggregator where
  aggregatorClass : AggregatorClass
  group : AggregationGroup
  eventNames : Finset String
deriving DecidableEq

namespace EventAggregator

/-- The key of an event, `none` where it raises. -/
def aggregationKey (aggregator : EventAggregator) (e : Event) : Option AggregationKey :=
  match aggregator.aggregatorClass with
  | .nodeOperator => (e.args.get? "nodeOperatorId").map fun id => ⟨"node_operator", id.toText⟩
  | .global | .distributionReport | .operatorGroupChange => some .globalKey

/-- The last block of the window that an event opens. -/
def endBlock (aggregator : EventAggregator) (e : Event) : ℕ :=
  match aggregator.aggregatorClass with
  | .distributionReport => e.block
  | .nodeOperator | .global | .operatorGroupChange =>
      e.block + aggregator.group.windowBlocks - 1

/-- The window that an event opens, `none` where it raises. -/
def windowFor (aggregator : EventAggregator) (e : Event) : Option AggregationWindow :=
  (aggregator.aggregationKey e).map fun key =>
    { group := aggregator.group.name
      aggregationKey := key
      startBlock := e.block
      endBlock := aggregator.endBlock e
      eventNames := aggregator.eventNames
      events := [] }

/-- The events of the aggregator in chain order. -/
def relevant (aggregator : EventAggregator) (events : List Event) : List Event :=
  sortBy Event.chainPosition (events.filter fun e => e.event ∈ aggregator.eventNames)

/-- One notification for each event name and node operator. -/
def aggregateByOperator (aggregator : EventAggregator) (events : List Event) :
    Option (List EventNotification) := do
  let eventsByKey ← groupBy
    (fun e => (e.args.get? "nodeOperatorId").bind fun id => id.toInt.map fun n => (e.event, n))
    (aggregator.relevant events)
  let ordered := sortBy (fun item => toLex item.1) eventsByKey.items
  ordered.mapM fun item => EventNotification.ofEvents item.2

/-- One notification for all events. -/
def aggregateAll (aggregator : EventAggregator) (events : List Event) :
    Option (List EventNotification) :=
  let sourceEvents := aggregator.relevant events
  if sourceEvents = [] then some []
  else (EventNotification.ofEvents sourceEvents).map fun notification => [notification]

/-- One notification for a complete report of one transaction. A report that is not is logged
with its first block, which raises when there is no event. -/
def aggregateReport (aggregator : EventAggregator) (events : List Event) :
    Option (List EventNotification) :=
  let sourceEvents := aggregator.relevant events
  let receivedEventNames := (sourceEvents.map Event.event).toFinset
  let missingEventNames := aggregator.eventNames \ receivedEventNames
  let transactionHashes := (sourceEvents.map fun e => e.tx.to0xHex).toFinset
  if missingEventNames.Nonempty then sourceEvents.head?.map fun _ => []
  else if transactionHashes.card ≠ 1 then sourceEvents.head?.map fun _ => []
  else (EventNotification.ofEvents sourceEvents).map fun notification => [notification]

def operatorGroupCreated : String := "OperatorGroupCreated"
def operatorGroupUpdated : String := "OperatorGroupUpdated"
def operatorGroupCleared : String := "OperatorGroupCleared"

/-- The last event of a list that carries the data of a group. -/
def lastGroupInfoEvent (events : List Event) : Option Event :=
  events.reverse.find? fun e => e.event = operatorGroupCreated ∨ e.event = operatorGroupUpdated

def containsEvent (events : List Event) (eventName : String) : Bool :=
  events.any fun e => e.event = eventName

/-- The notification of the events of one group, if there is one, `none` where it raises. -/
def notificationForGroup (groupEvents : List Event) : Option (Option EventNotification) := do
  let lastEvent ← groupEvents.getLast?
  if lastEvent.event = operatorGroupCleared then
    (EventNotification.ofEvents groupEvents).map some
  else
    match lastGroupInfoEvent groupEvents with
    | none => some none
    | some finalGroupEvent =>
        let eventName :=
          if containsEvent groupEvents operatorGroupCleared then operatorGroupUpdated
          else if containsEvent groupEvents operatorGroupCreated then operatorGroupCreated
          else operatorGroupUpdated
        if finalGroupEvent.event = eventName then
          (EventNotification.ofEvents groupEvents).map some
        else
          (EventNotification.ofEvents
            (groupEvents ++ [{ finalGroupEvent with event := eventName }])).map some

/-- One notification for each operator group. -/
def aggregateByGroup (aggregator : EventAggregator) (events : List Event) :
    Option (List EventNotification) := do
  let eventsByGroupId ← groupBy (fun e => (e.args.get? "groupId").bind Value.toInt)
    (aggregator.relevant events)
  let notifications ← eventsByGroupId.values.mapM notificationForGroup
  return sortBy (fun notification => notification.primaryEvent.chainPosition)
    (notifications.filterMap id)

/-- The notifications about the events of a window, `none` where aggregating raises. -/
def aggregate (aggregator : EventAggregator) (events : List Event) :
    Option (List EventNotification) :=
  match aggregator.aggregatorClass with
  | .nodeOperator => aggregator.aggregateByOperator events
  | .global => aggregator.aggregateAll events
  | .distributionReport => aggregator.aggregateReport events
  | .operatorGroupChange => aggregator.aggregateByGroup events

/-! ### The window that an event opens -/

/-- The window that an event opens is empty, of the group of the aggregator and of the key of
the event, and begins at the block of the event. -/
theorem windowFor_eq_some {aggregator : EventAggregator} {e : Event}
    {window : AggregationWindow} (h : aggregator.windowFor e = some window) :
  window.group = aggregator.group.name ∧ aggregator.aggregationKey e = some window.aggregationKey
    ∧ window.startBlock = e.block ∧ window.Contains e.block ∧ window.events = []
  := by
  obtain ⟨key, hkey, rfl⟩ := Option.map_eq_some_iff.mp h
  have hend : e.block ≤ aggregator.endBlock e := by
    have hpositive := aggregator.group.positive
    rw [endBlock]
    split <;> omega
  use rfl, hkey, rfl, ⟨le_refl _, hend⟩

end EventAggregator

end Sentinel
