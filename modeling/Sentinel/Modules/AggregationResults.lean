import Sentinel.Modules.Aggregation

/-!
# What the aggregators return

The notifications about the events of node operators partition them: one notification for
each event name and operator. The changes of the operator groups collapse to one notification
for each group. Neither depends on the order in which the events arrived.
-/

namespace Sentinel

/-! ### Groups of a list -/

section GroupBy

variable {κ α : Type*} [DecidableEq κ] {key : α → Option κ}

/-- The last member of a list is grouped last. -/
theorem groupBy_concat (key : α → Option κ) (l : List α) (a : α) :
  groupBy key (l ++ [a])
    = (groupBy key l).bind fun d => (key a).map fun k => d.set k (d.getD k [] ++ [a])
  := by
  simp only [groupBy, List.foldlM_append, List.foldlM_cons, List.foldlM_nil, bind_pure]
  rfl

/-- Grouping raises when a member has no key. -/
theorem groupBy_eq_none_iff {l : List α} :
  groupBy key l = none ↔ ∃ a ∈ l, key a = none
  := by
  induction l using List.reverseRecOn with
  | nil => simp [groupBy]
  | append_singleton l a ih =>
      rw [groupBy_concat]
      cases hl : groupBy key l with
      | none =>
          obtain ⟨b, hb, hkey⟩ := ih.mp hl
          apply iff_of_true rfl
          use b, List.mem_append_left _ hb
      | some d =>
          have hnone : ¬ ∃ b ∈ l, key b = none := by
            rw [← ih, hl]
            nofun
          simp only [Option.bind_some, Option.map_eq_none_iff, List.mem_append,
            List.mem_singleton, or_and_right, exists_or, hnone, false_or, exists_eq_left]

/-- The group of a key are the members of the key, in their order in the list. -/
theorem getD_groupBy {l : List α} {d : Dict κ (List α)} (h : groupBy key l = some d) (k : κ) :
  d.getD k [] = l.filter fun a => key a = some k
  := by
  induction l using List.reverseRecOn generalizing d with
  | nil =>
      obtain rfl := Option.some.inj h
      rfl
  | append_singleton l a ih =>
      rw [groupBy_concat, Option.bind_eq_some_iff] at h
      obtain ⟨d', hd', h⟩ := h
      obtain ⟨k', hkey, rfl⟩ := Option.map_eq_some_iff.mp h
      rw [List.filter_append, Dict.getD, Dict.get?_set]
      split
      next heq =>
          subst heq
          simp [hkey, ih hd']
      next hne =>
          have hne' : key a ≠ some k := by
            rw [hkey]
            simpa using Ne.symm hne
          simpa [hne', Dict.getD] using ih hd'

/-- No group is empty. -/
theorem ne_nil_of_mem_groupBy {l : List α} {d : Dict κ (List α)} (h : groupBy key l = some d)
    {k : κ} {group : List α} (hmem : (k, group) ∈ d.items) :
  group ≠ []
  := by
  induction l using List.reverseRecOn generalizing d with
  | nil =>
      obtain rfl := Option.some.inj h
      cases hmem
  | append_singleton l a ih =>
      rw [groupBy_concat, Option.bind_eq_some_iff] at h
      obtain ⟨d', hd', h⟩ := h
      obtain ⟨k', -, rfl⟩ := Option.map_eq_some_iff.mp h
      obtain ⟨-, rfl⟩ | ⟨-, hmem⟩ := Dict.mem_items_set_iff.mp hmem
      · simp
      · apply ih hd' hmem

/-- The items of a grouping are the members of each key that occurs. -/
theorem mem_items_groupBy {l : List α} {d : Dict κ (List α)} (h : groupBy key l = some d)
    {k : κ} {group : List α} :
  (k, group) ∈ d.items ↔ group = l.filter (fun a => key a = some k) ∧ group ≠ []
  := by
  rw [← getD_groupBy h k, Dict.getD]
  constructor
  · intro hmem
    use by rw [Dict.get?_eq_some_iff.mpr hmem, Option.getD_some]
    apply ne_nil_of_mem_groupBy h hmem
  · rintro ⟨rfl, hne⟩
    apply Dict.get?_eq_some_iff.mp
    cases hget : d.get? k with
    | none =>
        rw [hget] at hne
        cases hne rfl
    | some group => rfl

/-- Adding a member to the one list of a family that is its own. -/
theorem flatMap_cons_perm {ks : List κ} (hks : ks.Nodup) {k : κ} (hk : k ∈ ks) (a : α)
    (f : κ → List α) :
  (ks.flatMap fun k' => if k' = k then a :: f k' else f k').Perm (a :: ks.flatMap f)
  := by
  induction ks with
  | nil => cases hk
  | cons k' ks ih =>
      obtain ⟨hnew, hks⟩ := List.nodup_cons.mp hks
      rw [List.flatMap_cons, List.flatMap_cons]
      obtain rfl | hk := List.mem_cons.mp hk
      · have hrest : (ks.flatMap fun k' => if k' = k then a :: f k' else f k') = ks.flatMap f := by
          apply List.flatMap_congr
          intro k' hk'
          apply if_neg
          rintro rfl
          apply hnew hk'
        rw [if_pos rfl, hrest]
        rfl
      · have hne : k' ≠ k := by
          rintro rfl
          apply hnew hk
        rw [if_neg hne]
        apply ((ih hks hk).append_left (f k')).trans
        apply List.perm_middle

/-- The members of the keys of a list make up the list. -/
theorem flatMap_filter_perm {ks : List κ} (hks : ks.Nodup) {l : List α}
    (hl : ∀ a ∈ l, ∃ k ∈ ks, key a = some k) :
  (ks.flatMap fun k => l.filter fun a => key a = some k).Perm l
  := by
  induction l with
  | nil => simp
  | cons a l ih =>
      rw [List.forall_mem_cons] at hl
      obtain ⟨⟨k, hk, hkey⟩, hl⟩ := hl
      have hcons : (fun k' => (a :: l).filter fun b => key b = some k') = fun k' =>
          if k' = k then a :: l.filter (fun b => key b = some k')
          else l.filter fun b => key b = some k' := by
        funext k'
        rw [List.filter_cons, hkey]
        by_cases heq : k' = k
        · simp [heq]
        · simp [heq, Ne.symm heq]
      rw [hcons]
      apply (flatMap_cons_perm hks hk a _).trans
      apply (ih hl).cons

/-- The groups of a list make up the list. -/
theorem flatMap_groupBy_perm {l : List α} {d : Dict κ (List α)} (h : groupBy key l = some d) :
  (d.items.flatMap Prod.snd).Perm l
  := by
  have hitems : d.items.flatMap Prod.snd
      = d.keys.flatMap fun k => l.filter fun a => key a = some k := by
    rw [Dict.keys, List.flatMap_map]
    apply List.flatMap_congr
    rintro ⟨k, group⟩ hmem
    apply ((mem_items_groupBy h).mp hmem).1
  rw [hitems]
  apply flatMap_filter_perm d.nodup
  intro a ha
  cases hkey : key a with
  | none =>
      have hnone := groupBy_eq_none_iff.mpr ⟨a, ha, hkey⟩
      cases h.symm.trans hnone
  | some k =>
      use k
      constructor
      · apply List.mem_map.mpr
        use (k, l.filter fun b => key b = some k)
        constructor
        · apply (mem_items_groupBy h).mpr
          use rfl
          apply List.ne_nil_of_mem (a := a)
          simpa [ha] using hkey
        · rfl
      · rfl

end GroupBy

/-! ### Notifications about groups of events -/

/-- Nonempty lists of events are turned into notifications. -/
theorem mapM_ofEvents {β : Type*} {events : β → List Event} {l : List β}
    (h : ∀ b ∈ l, events b ≠ []) :
  ∃ notifications, l.mapM (fun b => EventNotification.ofEvents (events b)) = some notifications ∧
    notifications.map EventNotification.sourceEvents = l.map events
  := by
  induction l with
  | nil =>
      use []
      constructor <;> rfl
  | cons b l ih =>
      rw [List.forall_mem_cons] at h
      obtain ⟨notifications, hnotifications, hevents⟩ := ih h.2
      exists ⟨events b, h.1⟩ :: notifications
      constructor
      · rw [List.mapM_cons, hnotifications, EventNotification.ofEvents, dif_pos h.1]
        rfl
      · rw [List.map_cons, List.map_cons, hevents]

/-- The primary event is a source event. -/
theorem EventNotification.primaryEvent_mem (n : EventNotification) :
  n.primaryEvent ∈ n.sourceEvents
  := List.getLast_mem n.nonempty

/-- The primary event is the latest one of source events in chain order. -/
theorem EventNotification.le_primaryEvent {n : EventNotification}
    (h : n.sourceEvents.Pairwise fun e e' => e.chainPosition < e'.chainPosition) {e : Event}
    (he : e ∈ n.sourceEvents) :
  e.chainPosition ≤ n.primaryEvent.chainPosition
  := by
  have hsplit := List.dropLast_append_getLast n.nonempty
  rw [← hsplit] at h he
  obtain he | he := List.mem_append.mp he
  · apply le_of_lt
    apply (List.pairwise_append.mp h).2.2 e he _ (List.mem_singleton_self _)
  · rw [List.mem_singleton.mp he]
    rfl

namespace EventAggregator

/-- The relevant events of events that arrived in another order. -/
theorem relevant_eq_of_perm (aggregator : EventAggregator) {events events' : List Event}
    (hpos : (events.map Event.chainPosition).Nodup) (hperm : events'.Perm events) :
  aggregator.relevant events' = aggregator.relevant events
  := by
  apply sortBy_eq_of_perm
  · apply List.Nodup.sublist (List.filter_sublist.map _) hpos
  · apply hperm.filter

theorem mem_relevant {aggregator : EventAggregator} {events : List Event} {e : Event} :
  e ∈ aggregator.relevant events ↔ e ∈ events ∧ e.event ∈ aggregator.eventNames
  := by
  rw [relevant, mem_sortBy, List.mem_filter, decide_eq_true_eq]

/-- The relevant events are in chain order. -/
theorem pairwise_relevant (aggregator : EventAggregator) {events : List Event}
    (hpos : (events.map Event.chainPosition).Nodup) :
  (aggregator.relevant events).Pairwise fun e e' => e.chainPosition < e'.chainPosition
  := by
  apply pairwise_lt_sortBy
  apply List.Nodup.sublist (List.filter_sublist.map _) hpos

/-- The event name and the node operator of an event, `none` where reading them raises. -/
def operatorKey (e : Event) : Option (String × ℤ) :=
  (e.args.get? "nodeOperatorId").bind fun id => id.toInt.map fun n => (e.event, n)

/-- Notifications that partition the events by their name and node operator. -/
structure PartitionsByOperator (eventNames : Finset String) (events : List Event)
    (notifications : List EventNotification) : Prop where
  /-- every event with one of the names is a source event once -/
  perm : (notifications.flatMap EventNotification.sourceEvents).Perm
    (events.filter fun e => e.event ∈ eventNames)
  /-- a notification has all events of one name and operator -/
  group : ∀ n ∈ notifications, ∃ key, ∀ e, e ∈ n.sourceEvents ↔
    e ∈ events ∧ e.event ∈ eventNames ∧ operatorKey e = some key
  chainOrder : ∀ n ∈ notifications,
    n.sourceEvents.Pairwise fun e e' => e.chainPosition < e'.chainPosition
  primary : ∀ n ∈ notifications, n.primaryEvent ∈ n.sourceEvents ∧
    ∀ e ∈ n.sourceEvents, e.chainPosition ≤ n.primaryEvent.chainPosition
  /-- the notifications are in the order of their names and operators -/
  ordered : notifications.Pairwise fun n n' => ∃ key key',
    operatorKey n.primaryEvent = some key ∧ operatorKey n'.primaryEvent = some key' ∧
      toLex key < toLex key'

/-- What grouping by name and operator returns. -/
theorem partitionsByOperator_of_groupBy {aggregator : EventAggregator} {events : List Event}
    (hpos : (events.map Event.chainPosition).Nodup) {d : Dict (String × ℤ) (List Event)}
    (hd : groupBy operatorKey (aggregator.relevant events) = some d)
    {notifications : List EventNotification}
    (hnotifications : notifications.map EventNotification.sourceEvents
      = (sortBy (fun item => toLex item.1) d.items).map Prod.snd) :
  PartitionsByOperator aggregator.eventNames events notifications
  := by
  have hgroup : ∀ n ∈ notifications, ∃ key,
      n.sourceEvents = (aggregator.relevant events).filter fun e => operatorKey e = some key := by
    intro n hn
    have hmem : n.sourceEvents ∈ (sortBy (fun item => toLex item.1) d.items).map Prod.snd := by
      rw [← hnotifications]
      apply List.mem_map_of_mem hn
    obtain ⟨⟨key, group⟩, hitem, hgroup⟩ := List.mem_map.mp hmem
    use key
    rw [← hgroup]
    apply ((mem_items_groupBy hd).mp (mem_sortBy.mp hitem)).1
  have horder : ∀ n ∈ notifications,
      n.sourceEvents.Pairwise fun e e' => e.chainPosition < e'.chainPosition := by
    intro n hn
    obtain ⟨key, hkey⟩ := hgroup n hn
    rw [hkey]
    apply (aggregator.pairwise_relevant hpos).filter
  constructor
  case perm =>
    rw [List.flatMap_def, hnotifications, ← List.flatMap_def]
    apply ((sortBy_perm _ _).flatMap_right _).trans
    apply (flatMap_groupBy_perm hd).trans
    apply sortBy_perm
  case group =>
    intro n hn
    obtain ⟨key, hkey⟩ := hgroup n hn
    use key
    intro e
    rw [hkey, List.mem_filter, mem_relevant, decide_eq_true_eq, and_assoc]
  case chainOrder => apply horder
  case primary =>
    intro n hn
    use n.primaryEvent_mem
    intro e he
    apply EventNotification.le_primaryEvent (horder n hn) he
  case ordered =>
    have hsorted : (sortBy (fun item => toLex item.1) d.items).Pairwise
        fun item item' => toLex item.1 < toLex item'.1 := by
      apply pairwise_lt_sortBy
      apply List.Nodup.of_map ofLex
      rw [List.map_map]
      apply d.nodup
    have hlists : (notifications.map EventNotification.sourceEvents).Pairwise fun l l' =>
        ∀ e ∈ l, ∀ e' ∈ l', ∃ key key',
          operatorKey e = some key ∧ operatorKey e' = some key' ∧ toLex key < toLex key' := by
      rw [hnotifications, List.pairwise_map]
      apply hsorted.imp_of_mem
      rintro ⟨key, group⟩ ⟨key', group'⟩ hitem hitem' hlt e he e' he'
      rw [((mem_items_groupBy hd).mp (mem_sortBy.mp hitem)).1] at he
      rw [((mem_items_groupBy hd).mp (mem_sortBy.mp hitem')).1] at he'
      use key, key'
      use of_decide_eq_true (List.mem_filter.mp he).2
      use of_decide_eq_true (List.mem_filter.mp he').2
    apply (List.pairwise_map.mp hlists).imp
    intro n n' hall
    apply hall _ n.primaryEvent_mem _ n'.primaryEvent_mem

/-- Aggregating by operator groups the relevant events, sorts the groups and turns each into a
notification, which never raises. -/
theorem aggregateByOperator_eq (aggregator : EventAggregator) (events : List Event) :
  (groupBy operatorKey (aggregator.relevant events) = none ∧
    aggregator.aggregateByOperator events = none) ∨
  ∃ d notifications, groupBy operatorKey (aggregator.relevant events) = some d ∧
    aggregator.aggregateByOperator events = some notifications ∧
    notifications.map EventNotification.sourceEvents
      = (sortBy (fun item => toLex item.1) d.items).map Prod.snd
  := by
  cases hd : groupBy operatorKey (aggregator.relevant events) with
  | none =>
      left
      use rfl
      change (groupBy operatorKey (aggregator.relevant events)).bind _ = none
      rw [hd]
      rfl
  | some d =>
      right
      have hne : ∀ item ∈ sortBy (fun item => toLex item.1) d.items, item.2 ≠ [] := by
        intro item hitem
        apply ne_nil_of_mem_groupBy hd (mem_sortBy.mp hitem)
      obtain ⟨notifications, hmap, hevents⟩ := mapM_ofEvents hne
      use d, notifications, rfl
      constructor
      · change (groupBy operatorKey (aggregator.relevant events)).bind _ = some notifications
        rw [hd]
        apply hmap
      · apply hevents

/-- `NodeOperatorEventAggregator(group, event_names)`. -/
def nodeOperatorEventAggregator (group : AggregationGroup) (eventNames : Finset String) :
    EventAggregator where
  aggregatorClass := .nodeOperator
  group := group
  eventNames := eventNames

/-- The events of node operators are partitioned into one notification for each event name and
operator, whatever their order of arrival; it raises only when an event has no operator. -/
theorem nodeOperator_aggregate_partitions (group : AggregationGroup)
    (eventNames : Finset String) (events : List Event)
    (hpos : (events.map Event.chainPosition).Nodup) :
  ((nodeOperatorEventAggregator group eventNames).aggregate events = none ↔
    ∃ e ∈ events, e.event ∈ eventNames ∧ operatorKey e = none) ∧
  (∀ notifications,
    (nodeOperatorEventAggregator group eventNames).aggregate events = some notifications →
    PartitionsByOperator eventNames events notifications) ∧
  ∀ events', events'.Perm events →
    (nodeOperatorEventAggregator group eventNames).aggregate events'
      = (nodeOperatorEventAggregator group eventNames).aggregate events
  := by
  let aggregator := nodeOperatorEventAggregator group eventNames
  refine ⟨?raises, ?partitions, ?perm⟩
  case raises =>
    have hnone : groupBy operatorKey (aggregator.relevant events) = none ↔
        ∃ e ∈ events, e.event ∈ eventNames ∧ operatorKey e = none := by
      simp only [groupBy_eq_none_iff, mem_relevant, and_assoc, aggregator,
        nodeOperatorEventAggregator]
    rw [← hnone]
    obtain ⟨hd, hnotifications⟩ | ⟨d, notifications, hd, hnotifications, -⟩ :=
      aggregator.aggregateByOperator_eq events
    · apply iff_of_true hnotifications hd
    · apply iff_of_false
      · rw [show (nodeOperatorEventAggregator group eventNames).aggregate events
          = some notifications from hnotifications]
        nofun
      · rw [hd]
        nofun
  case partitions =>
    intro notifications hsome
    obtain ⟨-, hnone⟩ | ⟨d, notifications', hd, hnotifications, hevents⟩ :=
      aggregator.aggregateByOperator_eq events
    · cases hsome.symm.trans hnone
    · obtain rfl := Option.some.inj (hsome.symm.trans hnotifications)
      apply partitionsByOperator_of_groupBy hpos hd hevents
  case perm =>
    intro events' hperm
    change aggregator.aggregateByOperator events' = aggregator.aggregateByOperator events
    simp only [aggregateByOperator, aggregator.relevant_eq_of_perm hpos hperm]

/-- An event of the witness: the keys of a node operator were counted. -/
def keysCountChanged (operatorId : ℤ) (block : ℕ) : Event :=
  { Event.first block with
    event := "TotalSigningKeysCountChanged"
    args := Dict.empty.set "nodeOperatorId" (.int operatorId) }

theorem nodeOperator_aggregate_partitions_two :
  let aggregator := nodeOperatorEventAggregator ⟨"total_signing_key_counts", 1, le_rfl⟩
    {"TotalSigningKeysCountChanged"}
  let events := [keysCountChanged 2 8, keysCountChanged 1 9, keysCountChanged 2 7]
  (aggregator.aggregate events = none ↔
    ∃ e ∈ events, e.event ∈ aggregator.eventNames ∧ operatorKey e = none) ∧
  (∀ notifications, aggregator.aggregate events = some notifications →
    PartitionsByOperator aggregator.eventNames events notifications) ∧
  ∀ events', events'.Perm events → aggregator.aggregate events' = aggregator.aggregate events
  := nodeOperator_aggregate_partitions _ _ _ (by decide)

/-! ### Notifications for each operator group -/

/-- `OperatorGroupChangeAggregator()`. -/
def operatorGroupChangeAggregator : EventAggregator where
  aggregatorClass := .operatorGroupChange
  group := ⟨"operator_group_changes", 1, le_refl 1⟩
  eventNames := {operatorGroupCreated, operatorGroupUpdated, operatorGroupCleared}

/-- The operator group of an event, `none` where reading it raises. -/
def groupKey (e : Event) : Option ℤ :=
  (e.args.get? "groupId").bind Value.toInt

/-- A notification that reports the changes of a group, the last of which is `last`. -/
structure CollapsesTo (groupEvents : List Event) (last : Event) (n : EventNotification) :
    Prop where
  getLast : groupEvents.getLast? = some last
  /-- the events of the group, with at most one copy of the last one under another name -/
  sources : n.sourceEvents = groupEvents ∨
    ∃ name ≠ last.event, n.sourceEvents = groupEvents ++ [{ last with event := name }]
  primary : n.primaryEvent = { last with event := n.primaryEvent.event }
  cleared : n.primaryEvent.event = operatorGroupCleared ↔ last.event = operatorGroupCleared
  created : n.primaryEvent.event = operatorGroupCreated →
    (∃ e ∈ groupEvents, e.event = operatorGroupCreated) ∧
    ∀ e ∈ groupEvents, e.event ≠ operatorGroupCleared
  /-- a group that was cleared and established again is reported as updated -/
  updated : (∃ e ∈ groupEvents, e.event = operatorGroupCleared) →
    last.event ≠ operatorGroupCleared → n.primaryEvent.event = operatorGroupUpdated

/-- The last event of a group that is not cleared carries its data. -/
theorem lastGroupInfoEvent_eq_getLast {groupEvents : List Event} {last : Event}
    (hlast : groupEvents.getLast? = some last)
    (hname : last.event = operatorGroupCreated ∨ last.event = operatorGroupUpdated) :
  lastGroupInfoEvent groupEvents = some last
  := by
  obtain ⟨rest, rfl⟩ := List.getLast?_eq_some_iff.mp hlast
  rw [lastGroupInfoEvent, List.reverse_append]
  apply List.find?_cons_of_pos
  simpa using hname

theorem containsEvent_iff {events : List Event} {eventName : String} :
  containsEvent events eventName = true ↔ ∃ e ∈ events, e.event = eventName
  := by
  simp only [containsEvent, List.any_eq_true, decide_eq_true_eq]

theorem operatorGroup_names :
  operatorGroupCreated ≠ operatorGroupUpdated ∧ operatorGroupCreated ≠ operatorGroupCleared ∧
    operatorGroupUpdated ≠ operatorGroupCleared
  := by
  decide

/-- A notification about the events of a group alone. -/
theorem collapsesTo_group {groupEvents : List Event} {last : Event}
    (hlast : groupEvents.getLast? = some last) (hne : groupEvents ≠ [])
    (hcreated : last.event = operatorGroupCreated →
      ∀ e ∈ groupEvents, e.event ≠ operatorGroupCleared)
    (hupdated : (∃ e ∈ groupEvents, e.event = operatorGroupCleared) →
      last.event ≠ operatorGroupCleared → last.event = operatorGroupUpdated) :
  CollapsesTo groupEvents last ⟨groupEvents, hne⟩
  := by
  have hprimary : EventNotification.primaryEvent ⟨groupEvents, hne⟩ = last :=
    List.getLast_of_getLast?_eq_some hlast
  constructor
  case getLast => apply hlast
  case sources => apply Or.inl rfl
  case primary => rw [hprimary]
  case cleared => rw [hprimary]
  case created =>
    intro hname
    rw [hprimary] at hname
    use ⟨last, List.mem_of_getLast? hlast, hname⟩
    apply hcreated hname
  case updated => rwa [hprimary]

/-- A notification with a copy of the last event under another name. -/
theorem collapsesTo_copy {groupEvents : List Event} {last : Event}
    (hlast : groupEvents.getLast? = some last) {name : String} (hname : name ≠ last.event)
    (hlive : last.event ≠ operatorGroupCleared) (hnotCleared : name ≠ operatorGroupCleared)
    (hcreated : name = operatorGroupCreated →
      (∃ e ∈ groupEvents, e.event = operatorGroupCreated) ∧
      ∀ e ∈ groupEvents, e.event ≠ operatorGroupCleared)
    (hupdated : (∃ e ∈ groupEvents, e.event = operatorGroupCleared) →
      name = operatorGroupUpdated) :
  CollapsesTo groupEvents last
    ⟨groupEvents ++ [{ last with event := name }], List.append_ne_nil_of_right_ne_nil _ (by simp)⟩
  := by
  have hprimary : EventNotification.primaryEvent
      ⟨groupEvents ++ [{ last with event := name }],
        List.append_ne_nil_of_right_ne_nil _ (by simp)⟩ = { last with event := name } :=
    List.getLast_concat
  constructor
  case getLast => apply hlast
  case sources =>
    right
    use name, hname
  case primary => rw [hprimary]
  case cleared =>
    rw [hprimary]
    apply iff_of_false hnotCleared hlive
  case created => rwa [hprimary]
  case updated =>
    rw [hprimary]
    intro hcleared _
    apply hupdated hcleared

/-- The name under which a group that is not cleared at the end is reported. -/
def reportedName (groupEvents : List Event) : String :=
  if containsEvent groupEvents operatorGroupCleared then operatorGroupUpdated
  else if containsEvent groupEvents operatorGroupCreated then operatorGroupCreated
  else operatorGroupUpdated

theorem reportedName_ne_cleared (groupEvents : List Event) :
  reportedName groupEvents ≠ operatorGroupCleared
  := by
  rw [reportedName]
  split
  · decide
  · split <;> decide

/-- A group is reported as created only when it was created and never cleared. -/
theorem of_reportedName_eq_created {groupEvents : List Event}
    (h : reportedName groupEvents = operatorGroupCreated) :
  (∃ e ∈ groupEvents, e.event = operatorGroupCreated) ∧
    ∀ e ∈ groupEvents, e.event ≠ operatorGroupCleared
  := by
  rw [reportedName] at h
  split at h
  next => cases operatorGroup_names.1 h.symm
  next hcleared =>
      split at h
      next hcreated =>
          use containsEvent_iff.mp hcreated
          intro e he hname
          apply hcleared
          apply containsEvent_iff.mpr ⟨e, he, hname⟩
      next => cases operatorGroup_names.1 h.symm

/-- A group that was cleared is reported as updated. -/
theorem reportedName_of_cleared {groupEvents : List Event}
    (h : ∃ e ∈ groupEvents, e.event = operatorGroupCleared) :
  reportedName groupEvents = operatorGroupUpdated
  := by
  rw [reportedName, if_pos (containsEvent_iff.mpr h)]

/-- The changes of a group are reported by one notification. -/
theorem notificationForGroup_collapses {groupEvents : List Event} (hne : groupEvents ≠ [])
    (hnames : ∀ e ∈ groupEvents, e.event ∈ operatorGroupChangeAggregator.eventNames) :
  ∃ n last, notificationForGroup groupEvents = some (some n) ∧ CollapsesTo groupEvents last n
  := by
  have hlast := List.getLast?_eq_some_getLast hne
  have hmem := List.getLast_mem hne
  generalize groupEvents.getLast hne = last at hlast hmem
  have hof : EventNotification.ofEvents groupEvents = some ⟨groupEvents, hne⟩ := dif_pos hne
  by_cases hcleared : last.event = operatorGroupCleared
  · exists ⟨groupEvents, hne⟩, last
    constructor
    · simp [notificationForGroup, hlast, hcleared, hof]
    · apply collapsesTo_group hlast hne
      · intro hname
        cases operatorGroup_names.2.1 (hname.symm.trans hcleared)
      · intro _ hlive
        cases hlive hcleared
  · have hname : last.event = operatorGroupCreated ∨ last.event = operatorGroupUpdated := by
      have hlastName := hnames last hmem
      simpa [operatorGroupChangeAggregator, hcleared] using hlastName
    have hinfo := lastGroupInfoEvent_eq_getLast hlast hname
    by_cases heq : last.event = reportedName groupEvents
    · exists ⟨groupEvents, hne⟩, last
      constructor
      · have heq' := heq
        rw [reportedName] at heq'
        simp [notificationForGroup, hlast, hinfo, ← heq', hof]
      · apply collapsesTo_group hlast hne
        · intro hcreated
          apply (of_reportedName_eq_created (heq.symm.trans hcreated)).2
        · intro hsome _
          apply heq.trans (reportedName_of_cleared hsome)
    · have hcopy : groupEvents ++ [{ last with event := reportedName groupEvents }] ≠ [] := by
        simp
      exists ⟨_, hcopy⟩, last
      constructor
      · rw [reportedName] at heq
        simp [notificationForGroup, hlast, hcleared, hinfo, heq, EventNotification.ofEvents,
          reportedName]
      · apply collapsesTo_copy hlast (Ne.symm heq) hcleared (reportedName_ne_cleared groupEvents)
        · apply of_reportedName_eq_created
        · apply reportedName_of_cleared

/-- Each group is reported by one notification. -/
theorem mapM_notificationForGroup {items : List (ℤ × List Event)}
    (h : ∀ item ∈ items, item.2 ≠ [] ∧
      ∀ e ∈ item.2, e.event ∈ operatorGroupChangeAggregator.eventNames) :
  ∃ notifications, (items.map Prod.snd).mapM notificationForGroup
      = some (notifications.map some) ∧
    items.Forall₂ (fun item n => ∃ last, CollapsesTo item.2 last n) notifications
  := by
  induction items with
  | nil =>
      use []
      constructor
      · rfl
      · constructor
  | cons item items ih =>
      rw [List.forall_mem_cons] at h
      obtain ⟨notifications, hnotifications, hall⟩ := ih h.2
      obtain ⟨n, last, hn, hcollapses⟩ := notificationForGroup_collapses h.1.1 h.1.2
      use n :: notifications
      constructor
      · rw [List.map_cons, List.mapM_cons, hn, hnotifications]
        rfl
      · apply List.Forall₂.cons ⟨last, hcollapses⟩ hall

/-- The primary event of a notification about a group is of the group and at the position of
the last event. -/
theorem CollapsesTo.primary_eq {groupEvents : List Event} {last : Event} {n : EventNotification}
    (h : CollapsesTo groupEvents last n) :
  groupKey n.primaryEvent = groupKey last ∧
    n.primaryEvent.chainPosition = last.chainPosition
  := by
  rw [h.primary]
  constructor <;> rfl

/-- Notifications that report the changes of each group once. -/
structure CollapsesGroups (events : List Event) (notifications : List EventNotification) :
    Prop where
  /-- a notification reports all events of one group, in chain order -/
  group : ∀ n ∈ notifications, ∃ id groupEvents last, CollapsesTo groupEvents last n ∧
    (∀ e, e ∈ groupEvents ↔ e ∈ events ∧
      e.event ∈ operatorGroupChangeAggregator.eventNames ∧ groupKey e = some id) ∧
    groupEvents.Pairwise fun e e' => e.chainPosition < e'.chainPosition
  /-- every group that occurs is reported -/
  occurs : ∀ id, (∃ n ∈ notifications, groupKey n.primaryEvent = some id) ↔
    ∃ e ∈ events, e.event ∈ operatorGroupChangeAggregator.eventNames ∧ groupKey e = some id
  /-- no group is reported twice -/
  nodup : (notifications.map fun n => groupKey n.primaryEvent).Nodup
  ordered : notifications.Pairwise fun n n' =>
    n.primaryEvent.chainPosition < n'.primaryEvent.chainPosition

/-- A notification about a group of a grouping reports the last event of the group. -/
theorem last_of_collapsesTo {events : List Event} {d : Dict ℤ (List Event)}
    (hd : groupBy groupKey (operatorGroupChangeAggregator.relevant events) = some d)
    {item : ℤ × List Event} (hitem : item ∈ d.items) {last : Event} {n : EventNotification}
    (h : CollapsesTo item.2 last n) :
  last ∈ operatorGroupChangeAggregator.relevant events ∧ groupKey n.primaryEvent = some item.1
  := by
  have hlast := List.mem_of_getLast? h.getLast
  rw [((mem_items_groupBy hd).mp hitem).1, List.mem_filter, decide_eq_true_eq] at hlast
  use hlast.1
  rw [h.primary_eq.1, hlast.2]

/-- The groups that the notifications report are those of the grouping. -/
theorem map_groupKey_of_forall₂ {events : List Event} {d : Dict ℤ (List Event)}
    (hd : groupBy groupKey (operatorGroupChangeAggregator.relevant events) = some d)
    {notifications : List EventNotification}
    (hall : d.items.Forall₂ (fun item n => item ∈ d.items ∧ ∃ last, CollapsesTo item.2 last n)
      notifications) :
  notifications.map (fun n => groupKey n.primaryEvent) = d.keys.map some
  := by
  have hkeys : d.items.Forall₂ (fun item n => some item.1 = groupKey n.primaryEvent)
      notifications := by
    apply hall.imp
    rintro item n ⟨hitem, last, hcollapses⟩
    rw [(last_of_collapsesTo hd hitem hcollapses).2]
  rw [Dict.keys, List.map_map]
  symm
  rw [← List.forall₂_eq_eq_eq, List.forall₂_map_left_iff, List.forall₂_map_right_iff]
  apply hkeys

/-- What aggregating by group returns. -/
theorem collapsesGroups_of_groupBy {events : List Event}
    (hpos : (events.map Event.chainPosition).Nodup) {d : Dict ℤ (List Event)}
    (hd : groupBy groupKey (operatorGroupChangeAggregator.relevant events) = some d)
    {notifications : List EventNotification}
    (hall : d.items.Forall₂ (fun item n => item ∈ d.items ∧ ∃ last, CollapsesTo item.2 last n)
      notifications) :
  CollapsesGroups events
    (sortBy (fun notification => notification.primaryEvent.chainPosition) notifications)
  := by
  have hkeys := map_groupKey_of_forall₂ hd hall
  have hitem : ∀ n ∈ notifications, ∃ item ∈ d.items, ∃ last, CollapsesTo item.2 last n := by
    intro n hn
    obtain ⟨i, hi, rfl⟩ := List.getElem_of_mem hn
    have hi' : i < d.items.length := by
      rwa [hall.length_eq]
    use d.items.get ⟨i, hi'⟩
    apply hall.get hi' hi
  have hnodup : (notifications.map fun n => groupKey n.primaryEvent).Nodup := by
    rw [hkeys]
    apply d.nodup.map (Option.some_injective ℤ)
  have hrelevant := operatorGroupChangeAggregator.pairwise_relevant hpos
  constructor
  case group =>
    intro n hn
    obtain ⟨⟨id, group⟩, hmem, last, hcollapses⟩ := hitem n (mem_sortBy.mp hn)
    have hgroup := ((mem_items_groupBy hd).mp hmem).1
    use id, group, last, hcollapses
    constructor
    · intro e
      rw [hgroup, List.mem_filter, mem_relevant, decide_eq_true_eq, and_assoc]
    · rw [hgroup]
      apply hrelevant.filter
  case occurs =>
    intro id
    calc (∃ n ∈ sortBy (fun n => n.primaryEvent.chainPosition) notifications,
          groupKey n.primaryEvent = some id)
        ↔ some id ∈ notifications.map fun n => groupKey n.primaryEvent := by
          simp only [mem_sortBy, List.mem_map]
      _ ↔ ∃ group, (id, group) ∈ d.items := by
          rw [hkeys, List.mem_map_of_injective (Option.some_injective ℤ), Dict.keys]
          simp
      _ ↔ ∃ e ∈ operatorGroupChangeAggregator.relevant events, groupKey e = some id := by
          simp only [mem_items_groupBy hd, exists_eq_left, ne_eq, List.filter_eq_nil_iff,
            decide_eq_true_eq, not_forall, not_not, exists_prop]
      _ ↔ _ := by
          simp only [mem_relevant, and_assoc]
  case nodup => apply ((sortBy_perm _ notifications).map _).nodup_iff.mpr hnodup
  case ordered =>
    apply pairwise_lt_sortBy
    apply List.pairwise_map.mpr
    apply (List.pairwise_map.mp hnodup).imp_of_mem
    intro n n' hn hn' hne hposition
    apply hne
    obtain ⟨item, hmem, last, hcollapses⟩ := hitem n hn
    obtain ⟨item', hmem', last', hcollapses'⟩ := hitem n' hn'
    have hlast : last = last' := by
      apply List.inj_on_of_nodup_map hpos
      · apply (mem_relevant.mp (last_of_collapsesTo hd hmem hcollapses).1).1
      · apply (mem_relevant.mp (last_of_collapsesTo hd hmem' hcollapses').1).1
      · rw [← hcollapses.primary_eq.2, hposition, hcollapses'.primary_eq.2]
    rw [hcollapses.primary_eq.1, hcollapses'.primary_eq.1, hlast]

/-- Aggregating by group groups the relevant events, reports each group and sorts the reports,
which never raises. -/
theorem aggregateByGroup_eq (events : List Event) :
  (groupBy groupKey (operatorGroupChangeAggregator.relevant events) = none ∧
    operatorGroupChangeAggregator.aggregate events = none) ∨
  ∃ d notifications,
    groupBy groupKey (operatorGroupChangeAggregator.relevant events) = some d ∧
    operatorGroupChangeAggregator.aggregate events
      = some (sortBy (fun notification => notification.primaryEvent.chainPosition)
          notifications) ∧
    d.items.Forall₂ (fun item n => item ∈ d.items ∧ ∃ last, CollapsesTo item.2 last n)
      notifications
  := by
  change (_ ∧ operatorGroupChangeAggregator.aggregateByGroup events = none) ∨
    ∃ d notifications, _ ∧ operatorGroupChangeAggregator.aggregateByGroup events = _ ∧ _
  cases hd : groupBy groupKey (operatorGroupChangeAggregator.relevant events) with
  | none =>
      left
      use rfl
      change (groupBy groupKey (operatorGroupChangeAggregator.relevant events)).bind _ = none
      rw [hd]
      rfl
  | some d =>
      right
      have hitems : ∀ item ∈ d.items, item.2 ≠ [] ∧
          ∀ e ∈ item.2, e.event ∈ operatorGroupChangeAggregator.eventNames := by
        intro item hitem
        use ne_nil_of_mem_groupBy hd hitem
        intro e he
        rw [((mem_items_groupBy hd).mp hitem).1, List.mem_filter, mem_relevant] at he
        apply he.1.2
      obtain ⟨notifications, hmap, hall⟩ := mapM_notificationForGroup hitems
      use d, notifications, rfl
      constructor
      · change (groupBy groupKey (operatorGroupChangeAggregator.relevant events)).bind _ = _
        rw [hd]
        change ((d.items.map Prod.snd).mapM notificationForGroup).bind _ = _
        rw [hmap]
        simp
      · rw [List.forall₂_and_left]
        use fun item hitem => hitem

/-- The changes of operator groups collapse to one notification for each group, whatever their
order of arrival; it raises only when an event has no group. -/
theorem operatorGroupChange_aggregate_collapses (events : List Event)
    (hpos : (events.map Event.chainPosition).Nodup) :
  (operatorGroupChangeAggregator.aggregate events = none ↔
    ∃ e ∈ events, e.event ∈ operatorGroupChangeAggregator.eventNames ∧ groupKey e = none) ∧
  (∀ notifications, operatorGroupChangeAggregator.aggregate events = some notifications →
    CollapsesGroups events notifications) ∧
  ∀ events', events'.Perm events →
    operatorGroupChangeAggregator.aggregate events'
      = operatorGroupChangeAggregator.aggregate events
  := by
  refine ⟨?raises, ?collapses, ?perm⟩
  case raises =>
    have hnone : groupBy groupKey (operatorGroupChangeAggregator.relevant events) = none ↔
        ∃ e ∈ events, e.event ∈ operatorGroupChangeAggregator.eventNames ∧
          groupKey e = none := by
      simp only [groupBy_eq_none_iff, mem_relevant, and_assoc]
    rw [← hnone]
    obtain ⟨hd, hnotifications⟩ | ⟨d, notifications, hd, hnotifications, -⟩ :=
      aggregateByGroup_eq events
    · apply iff_of_true hnotifications hd
    · rw [hd, hnotifications]
      simp
  case collapses =>
    intro notifications hsome
    obtain ⟨-, hnone⟩ | ⟨d, notifications', hd, hnotifications, hall⟩ :=
      aggregateByGroup_eq events
    · cases hsome.symm.trans hnone
    · obtain rfl := Option.some.inj (hsome.symm.trans hnotifications)
      apply collapsesGroups_of_groupBy hpos hd hall
  case perm =>
    intro events' hperm
    change operatorGroupChangeAggregator.aggregateByGroup events'
      = operatorGroupChangeAggregator.aggregateByGroup events
    simp only [aggregateByGroup, operatorGroupChangeAggregator.relevant_eq_of_perm hpos hperm]

/-- An event of the witness: a group was changed. -/
def groupChanged (eventName : String) (id : ℤ) (block : ℕ) : Event :=
  { Event.first block with
    event := eventName
    args := Dict.empty.set "groupId" (.int id) }

theorem operatorGroupChange_aggregate_collapses_cleared :
  let events := [groupChanged operatorGroupCreated 1 9, groupChanged operatorGroupUpdated 2 8,
    groupChanged operatorGroupCleared 1 7]
  (operatorGroupChangeAggregator.aggregate events = none ↔
    ∃ e ∈ events, e.event ∈ operatorGroupChangeAggregator.eventNames ∧ groupKey e = none) ∧
  (∀ notifications, operatorGroupChangeAggregator.aggregate events = some notifications →
    CollapsesGroups events notifications) ∧
  ∀ events', events'.Perm events →
    operatorGroupChangeAggregator.aggregate events'
      = operatorGroupChangeAggregator.aggregate events
  := operatorGroupChange_aggregate_collapses _ (by decide)

end EventAggregator

end Sentinel
