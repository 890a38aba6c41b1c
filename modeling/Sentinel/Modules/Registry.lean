import Sentinel.Services.AggregationInvariant
import Sentinel.Services.Digest
import Sentinel.Storage.RuntimeIdentity

/-!
# The registered events of a module

A module registers a handler for each event it follows. A handler may have its events
aggregated in windows of a group, or collected in a digest, but not both. From the
registered handlers come the aggregators and the digests of the module: every event name
goes to one aggregator, to one digest, or to neither.
-/

namespace Sentinel

/-! ### Handlers -/

/-- A registered handler, with the group its events are aggregated in or the digest that
collects them. -/
structure EventHandler where
  event : String
  aggregationGroup : Option AggregationGroup
  digestName : Option String
  exclusive : aggregationGroup = none ∨ digestName = none

namespace EventHandler

/-- A handler whose events are sent at once. -/
def plain (event : String) : EventHandler where
  event := event
  aggregationGroup := none
  digestName := none
  exclusive := Or.inl rfl

/-- A handler whose events are aggregated. -/
def aggregated (event : String) (group : AggregationGroup) : EventHandler where
  event := event
  aggregationGroup := some group
  digestName := none
  exclusive := Or.inr rfl

/-- A handler whose events are collected in a digest. -/
def digested (event : String) (digestName : String) : EventHandler where
  event := event
  aggregationGroup := none
  digestName := some digestName
  exclusive := Or.inl rfl

end EventHandler

/-- The handlers by the names of their events. -/
structure Registry where
  handlers : Dict String EventHandler
  named : ∀ item ∈ handlers.items, item.2.event = item.1

namespace Registry

/-- The registry after handlers are registered one after the other. A name that is
registered again gets the last handler. -/
def ofList (handlers : List EventHandler) : Registry where
  handlers := .collect EventHandler.event handlers
  named := fun _ hmem => (Dict.mem_of_mem_collect hmem).2

/-- The handler of a registered name is the only one with the name. -/
theorem eq_of_event_eq (registry : Registry) {handler handler' : EventHandler}
    (h : handler ∈ registry.handlers.values) (h' : handler' ∈ registry.handlers.values)
    (hevent : handler.event = handler'.event) :
  handler = handler'
  := by
  obtain ⟨⟨name, handler⟩, hitem, rfl⟩ := List.mem_map.mp h
  obtain ⟨⟨name', handler'⟩, hitem', rfl⟩ := List.mem_map.mp h'
  apply Dict.eq_of_mem hitem
  have hname := registry.named _ hitem
  have hname' := registry.named _ hitem'
  simp only at hname hname' hevent
  rw [← hname, hevent, hname']
  apply hitem'

/-- A registered handler is one of the handlers that were registered. -/
theorem mem_of_mem_ofList {handlers : List EventHandler} {handler : EventHandler}
    (h : handler ∈ (ofList handlers).handlers.values) :
  handler ∈ handlers
  := Dict.mem_of_mem_values_collect h

end Registry

/-! ### Aggregators -/

/-- The names of the aggregated events by their groups. -/
def eventNamesByGroup (handlers : List EventHandler) : Dict AggregationGroup (Finset String) :=
  handlers.foldl
    (fun d handler => match handler.aggregationGroup with
      | none => d
      | some group => d.set group (insert handler.event (d.getD group ∅)))
    .empty

/-- One aggregator for the names of each group. -/
def nodeOperatorAggregatorsFromEventHandlers (registry : Registry) : List EventAggregator :=
  (eventNamesByGroup registry.handlers.values).items.map fun item =>
    { aggregatorClass := .nodeOperator
      group := item.1
      eventNames := item.2 }

/-- One more handler adds its name to its group. -/
theorem eventNamesByGroup_concat (handlers : List EventHandler) (handler : EventHandler) :
  eventNamesByGroup (handlers ++ [handler]) = match handler.aggregationGroup with
    | none => eventNamesByGroup handlers
    | some group => (eventNamesByGroup handlers).set group
        (insert handler.event ((eventNamesByGroup handlers).getD group ∅))
  := by
  rw [eventNamesByGroup, List.foldl_append]
  rfl

/-- A name is in a group when its handler has the group. -/
theorem mem_getD_eventNamesByGroup {handlers : List EventHandler} {group : AggregationGroup}
    {name : String} :
  name ∈ (eventNamesByGroup handlers).getD group ∅
    ↔ ∃ handler ∈ handlers, handler.aggregationGroup = some group ∧ handler.event = name
  := by
  induction handlers using List.reverseRecOn with
  | nil => simp [eventNamesByGroup]
  | append_singleton handlers handler ih =>
      have hmem : (∃ handler' ∈ handlers ++ [handler],
            handler'.aggregationGroup = some group ∧ handler'.event = name)
          ↔ name ∈ (eventNamesByGroup handlers).getD group ∅
            ∨ handler.aggregationGroup = some group ∧ handler.event = name := by
        simp [ih, or_and_right, exists_or]
      rw [hmem, eventNamesByGroup_concat]
      cases hgroup : handler.aggregationGroup with
      | none => simp
      | some group' =>
          rw [Dict.getD, Dict.get?_set]
          by_cases heq : group = group'
          · subst heq
            simp [eq_comm, or_comm]
          · simp [heq, Ne.symm heq, Dict.getD]

/-- Every group has a name. -/
theorem nonempty_of_mem_eventNamesByGroup {handlers : List EventHandler}
    {group : AggregationGroup} {names : Finset String}
    (h : (group, names) ∈ (eventNamesByGroup handlers).items) :
  names.Nonempty
  := by
  induction handlers using List.reverseRecOn with
  | nil => cases h
  | append_singleton handlers handler ih =>
      rw [eventNamesByGroup_concat] at h
      cases hgroup : handler.aggregationGroup with
      | none =>
          rw [hgroup] at h
          apply ih h
      | some group' =>
          rw [hgroup] at h
          rcases Dict.mem_items_set_iff.mp h with ⟨-, rfl⟩ | ⟨-, hmem⟩
          · apply Finset.insert_nonempty
          · apply ih hmem

/-- An aggregator of the handlers takes the names of the handlers of its group. -/
theorem mem_nodeOperatorAggregators {registry : Registry} {aggregator : EventAggregator}
    (h : aggregator ∈ nodeOperatorAggregatorsFromEventHandlers registry) {name : String} :
  name ∈ aggregator.eventNames ↔ ∃ handler ∈ registry.handlers.values,
    handler.aggregationGroup = some aggregator.group ∧ handler.event = name
  := by
  obtain ⟨⟨group, names⟩, hitem, rfl⟩ := List.mem_map.mp h
  rw [← mem_getD_eventNamesByGroup, Dict.getD, Dict.get?_eq_some_iff.mpr hitem]
  rfl

/-- The aggregators of the handlers are of the class of node operators. -/
theorem class_of_mem_nodeOperatorAggregators {registry : Registry}
    {aggregator : EventAggregator}
    (h : aggregator ∈ nodeOperatorAggregatorsFromEventHandlers registry) :
  aggregator.aggregatorClass = .nodeOperator
  := by
  obtain ⟨item, -, rfl⟩ := List.mem_map.mp h
  rfl

/-- A handler with a group has an aggregator of the group. -/
theorem exists_mem_nodeOperatorAggregators {registry : Registry} {handler : EventHandler}
    (hmem : handler ∈ registry.handlers.values) {group : AggregationGroup}
    (hgroup : handler.aggregationGroup = some group) :
  ∃ aggregator ∈ nodeOperatorAggregatorsFromEventHandlers registry,
    aggregator.group = group ∧ handler.event ∈ aggregator.eventNames
  := by
  have hname : handler.event ∈ (eventNamesByGroup registry.handlers.values).getD group ∅ :=
    mem_getD_eventNamesByGroup.mpr ⟨handler, hmem, hgroup, rfl⟩
  cases hnames : (eventNamesByGroup registry.handlers.values).get? group with
  | none => simp [Dict.getD, hnames] at hname
  | some names =>
      use ⟨.nodeOperator, group, names⟩
      constructor
      · apply List.mem_map.mpr
        use (group, names), Dict.get?_eq_some_iff.mp hnames
      · use rfl
        simpa [Dict.getD, hnames] using hname

/-- The groups of the aggregators are distinct. -/
theorem nodup_group_nodeOperatorAggregators (registry : Registry) :
  ((nodeOperatorAggregatorsFromEventHandlers registry).map EventAggregator.group).Nodup
  := by
  rw [nodeOperatorAggregatorsFromEventHandlers, List.map_map]
  apply (eventNamesByGroup registry.handlers.values).nodup

/-- Two aggregators that take a name are one aggregator. -/
theorem eq_of_mem_eventNames {registry : Registry} {aggregator aggregator' : EventAggregator}
    (h : aggregator ∈ nodeOperatorAggregatorsFromEventHandlers registry)
    (h' : aggregator' ∈ nodeOperatorAggregatorsFromEventHandlers registry) {name : String}
    (hname : name ∈ aggregator.eventNames) (hname' : name ∈ aggregator'.eventNames) :
  aggregator = aggregator'
  := by
  obtain ⟨handler, hmem, hgroup, hevent⟩ := (mem_nodeOperatorAggregators h).mp hname
  obtain ⟨handler', hmem', hgroup', hevent'⟩ := (mem_nodeOperatorAggregators h').mp hname'
  apply List.inj_on_of_nodup_map (nodup_group_nodeOperatorAggregators registry) h h'
  obtain rfl := registry.eq_of_event_eq hmem hmem' (hevent.trans hevent'.symm)
  rw [hgroup] at hgroup'
  apply Option.some.inj hgroup'

/-- No name goes to two aggregators. -/
theorem disjoint_nodeOperatorAggregators (registry : Registry) :
  (nodeOperatorAggregatorsFromEventHandlers registry).Pairwise
    fun aggregator aggregator' => Disjoint aggregator.eventNames aggregator'.eventNames
  := by
  have hgroups : (nodeOperatorAggregatorsFromEventHandlers registry).Pairwise
      fun aggregator aggregator' => aggregator.group ≠ aggregator'.group :=
    List.pairwise_map.mp (nodup_group_nodeOperatorAggregators registry)
  apply hgroups.imp_of_mem
  intro aggregator aggregator' h h' hne
  apply Finset.disjoint_left.mpr
  intro name hname hname'
  apply hne
  rw [eq_of_mem_eventNames h h' hname hname']

/-! ### Digests -/

/-- The event names by the digests that collect them, `none` where a digest is assigned to
several events, which raises. -/
def eventNameByDigest (handlers : List EventHandler) : Option (Dict String String) :=
  handlers.foldlM
    (fun d handler => match handler.digestName with
      | none => some d
      | some name => if d.get? name = none then some (d.set name handler.event) else none)
    .empty

/-- The digests of the handlers. -/
def buildDigests (registry : Registry) : Option (Dict String Digest) :=
  (eventNameByDigest registry.handlers.values).map fun d =>
    .collect Digest.name (d.items.map fun item => { name := item.1, eventName := item.2 })

/-- No two handlers of a list are of one digest. -/
def DistinctDigests (handlers : List EventHandler) : Prop :=
  (handlers.filterMap EventHandler.digestName).Nodup

/-- One more handler adds its name at its digest. -/
theorem eventNameByDigest_concat (handlers : List EventHandler) (handler : EventHandler) :
  eventNameByDigest (handlers ++ [handler])
    = (eventNameByDigest handlers).bind fun d => match handler.digestName with
        | none => some d
        | some name => if d.get? name = none then some (d.set name handler.event) else none
  := by
  rw [eventNameByDigest, List.foldlM_append]
  simp only [List.foldlM_cons, List.foldlM_nil, bind_pure]
  rfl

/-- A digest has the event of its handler. -/
theorem get?_eventNameByDigest {handlers : List EventHandler} {d : Dict String String}
    (h : eventNameByDigest handlers = some d) {name event : String} :
  d.get? name = some event
    ↔ ∃ handler ∈ handlers, handler.digestName = some name ∧ handler.event = event
  := by
  induction handlers using List.reverseRecOn generalizing d with
  | nil =>
      obtain rfl := Option.some.inj h
      simp
  | append_singleton handlers handler ih =>
      rw [eventNameByDigest_concat] at h
      obtain ⟨d', hd', h⟩ := Option.bind_eq_some_iff.mp h
      have hmem : (∃ handler' ∈ handlers ++ [handler],
            handler'.digestName = some name ∧ handler'.event = event)
          ↔ d'.get? name = some event
            ∨ handler.digestName = some name ∧ handler.event = event := by
        simp [ih hd', or_and_right, exists_or]
      rw [hmem]
      cases hname : handler.digestName with
      | none =>
          rw [hname] at h
          obtain rfl := Option.some.inj h
          simp
      | some name' =>
          simp only [hname] at h
          split at h
          next hnew =>
              obtain rfl := Option.some.inj h
              rw [Dict.get?_set]
              by_cases heq : name = name'
              · subst heq
                simp [hnew]
              · simp [heq, Ne.symm heq]
          next => cases h

/-- The digests are built when no two handlers are of one digest. -/
theorem isSome_eventNameByDigest_iff {handlers : List EventHandler} :
  (eventNameByDigest handlers).isSome ↔ DistinctDigests handlers
  := by
  induction handlers using List.reverseRecOn with
  | nil => simp [eventNameByDigest, DistinctDigests]
  | append_singleton handlers handler ih =>
      rw [DistinctDigests, List.filterMap_append, List.nodup_append, ← DistinctDigests, ← ih,
        eventNameByDigest_concat]
      cases hd : eventNameByDigest handlers with
      | none => simp
      | some d =>
          cases hname : handler.digestName with
          | none => simp [hname]
          | some name =>
              have hnew : d.get? name = none
                  ↔ ∀ handler' ∈ handlers, handler'.digestName ≠ some name := by
                rw [Option.eq_none_iff_forall_ne_some]
                constructor
                · intro hnone handler' hmem hname'
                  apply hnone handler'.event
                  apply (get?_eventNameByDigest hd).mpr ⟨handler', hmem, hname', rfl⟩
                · intro hnone event hevent
                  obtain ⟨handler', hmem, hname', -⟩ := (get?_eventNameByDigest hd).mp hevent
                  apply hnone handler' hmem hname'
              by_cases hget : d.get? name = none
              · have hnone := hnew.mp hget
                simp only [hname, hget, Option.bind_some, if_true, Option.isSome_some, true_and,
                  List.filterMap_cons, List.filterMap_nil, List.mem_singleton]
                simp only [true_iff, List.mem_filterMap]
                use List.nodup_singleton name
                rintro name' ⟨handler', hmem, hname'⟩ _ rfl rfl
                apply hnone handler' hmem hname'
              · obtain ⟨handler', hmem, hname'⟩ :
                    ∃ handler' ∈ handlers, handler'.digestName = some name := by
                  by_contra hnone
                  apply hget (hnew.mpr fun handler' hmem hname' => hnone ⟨handler', hmem, hname'⟩)
                simp only [hname, hget, Option.bind_some, if_false, Option.isSome_none,
                  Bool.false_eq_true, false_iff, List.filterMap_cons, List.filterMap_nil]
                rintro ⟨-, -, hdisjoint⟩
                apply hdisjoint name _ name (List.mem_singleton_self name) rfl
                apply List.mem_filterMap.mpr ⟨handler', hmem, hname'⟩

/-- A digest is one of a handler. -/
theorem mem_buildDigests {registry : Registry} {digests : Dict String Digest}
    (h : buildDigests registry = some digests) {digest : Digest} :
  digest ∈ digests.values ↔ ∃ handler ∈ registry.handlers.values,
    handler.digestName = some digest.name ∧ handler.event = digest.eventName
  := by
  obtain ⟨d, hd, rfl⟩ := Option.map_eq_some_iff.mp h
  have hnodup : ((d.items.map fun item => Digest.mk item.1 item.2).map Digest.name).Nodup := by
    rw [List.map_map]
    apply d.nodup
  rw [Dict.values_collect_of_nodup hnodup, ← get?_eventNameByDigest hd, Dict.get?_eq_some_iff,
    List.mem_map]
  constructor
  · rintro ⟨⟨name, event⟩, hitem, rfl⟩
    apply hitem
  · intro hitem
    use (digest.name, digest.eventName), hitem

/-- The event of a digest is aggregated by no aggregator of the handlers. -/
theorem eventName_notMem_of_mem_buildDigests {registry : Registry}
    {digests : Dict String Digest} (h : buildDigests registry = some digests) {digest : Digest}
    (hdigest : digest ∈ digests.values) {aggregator : EventAggregator}
    (haggregator : aggregator ∈ nodeOperatorAggregatorsFromEventHandlers registry) :
  digest.eventName ∉ aggregator.eventNames
  := by
  intro hname
  obtain ⟨handler, hmem, hdigestName, hevent⟩ := (mem_buildDigests h).mp hdigest
  obtain ⟨handler', hmem', hgroup, hevent'⟩ := (mem_nodeOperatorAggregators haggregator).mp hname
  obtain rfl := registry.eq_of_event_eq hmem hmem' (hevent.trans hevent'.symm)
  rcases handler.exclusive with hnone | hnone
  · rw [hgroup] at hnone
    cases hnone
  · rw [hdigestName] at hnone
    cases hnone

/-- Two digests of a registry collect different events. -/
theorem eq_of_eventName_eq {registry : Registry} {digests : Dict String Digest}
    (h : buildDigests registry = some digests) {digest digest' : Digest}
    (hmem : digest ∈ digests.values) (hmem' : digest' ∈ digests.values)
    (hevent : digest.eventName = digest'.eventName) :
  digest = digest'
  := by
  obtain ⟨handler, hhandler, hname, hevent₁⟩ := (mem_buildDigests h).mp hmem
  obtain ⟨handler', hhandler', hname', hevent₂⟩ := (mem_buildDigests h).mp hmem'
  obtain rfl := registry.eq_of_event_eq hhandler hhandler'
    (hevent₁.trans (hevent.trans hevent₂.symm))
  rw [hname] at hname'
  cases digest
  cases digest'
  cases hevent
  cases hname'
  rfl

/-! ### Where the events of a module go -/

/-- The aggregators and the digests of a registry divide the registered events among them: an
event goes to the one aggregator of its group, to the one digest that it is assigned to, or to
neither, and nothing else goes to them. -/
structure Divided (registry : Registry) : Prop where
  /-- an event goes to one aggregator, which is of its group, or it is not aggregated -/
  aggregated : ∀ handler ∈ registry.handlers.values, ∀ group,
    handler.aggregationGroup = some group
      ↔ ∃! aggregator, aggregator ∈ nodeOperatorAggregatorsFromEventHandlers registry
          ∧ handler.event ∈ aggregator.eventNames ∧ aggregator.group = group
  /-- an aggregator takes some events, which are registered -/
  registered : ∀ aggregator ∈ nodeOperatorAggregatorsFromEventHandlers registry,
    aggregator.eventNames.Nonempty ∧ ∀ name ∈ aggregator.eventNames,
      ∃ handler ∈ registry.handlers.values, handler.event = name
  /-- the aggregators have groups of their own, and events of their own -/
  groups : ((nodeOperatorAggregatorsFromEventHandlers registry).map EventAggregator.group).Nodup
  disjoint : (nodeOperatorAggregatorsFromEventHandlers registry).Pairwise
    fun aggregator aggregator' => Disjoint aggregator.eventNames aggregator'.eventNames
  /-- the digests are built when no two handlers are assigned to one -/
  built : (buildDigests registry).isSome ↔ DistinctDigests registry.handlers.values
  /-- an event goes to one digest, the one that it is assigned to, or it is not collected -/
  digested : ∀ digests, buildDigests registry = some digests →
    ∀ handler ∈ registry.handlers.values, ∀ name, handler.digestName = some name
      ↔ ∃! digest, digest ∈ digests.values ∧ digest.eventName = handler.event
          ∧ digest.name = name
  /-- a digest collects a registered event, which is not aggregated -/
  collected : ∀ digests, buildDigests registry = some digests → ∀ digest ∈ digests.values,
    (∃ handler ∈ registry.handlers.values, handler.event = digest.eventName)
      ∧ ∀ aggregator ∈ nodeOperatorAggregatorsFromEventHandlers registry,
          digest.eventName ∉ aggregator.eventNames

/-- Every registry divides its events. -/
theorem divided_of_registry (registry : Registry) :
  Divided registry
  where
  aggregated := by
    intro handler hmem group
    constructor
    · intro hgroup
      obtain ⟨aggregator, haggregator, hof, hname⟩ :=
        exists_mem_nodeOperatorAggregators hmem hgroup
      use aggregator, ⟨haggregator, hname, hof⟩
      rintro aggregator' ⟨haggregator', hname', -⟩
      apply eq_of_mem_eventNames haggregator' haggregator hname' hname
    · rintro ⟨aggregator, ⟨haggregator, hname, rfl⟩, -⟩
      obtain ⟨handler', hmem', hgroup, hevent⟩ :=
        (mem_nodeOperatorAggregators haggregator).mp hname
      rw [registry.eq_of_event_eq hmem hmem' hevent.symm]
      apply hgroup
  registered := by
    intro aggregator h
    constructor
    · obtain ⟨⟨group, names⟩, hitem, rfl⟩ := List.mem_map.mp h
      apply nonempty_of_mem_eventNamesByGroup hitem
    · intro name hname
      obtain ⟨handler, hmem, -, hevent⟩ := (mem_nodeOperatorAggregators h).mp hname
      use handler
  groups := nodup_group_nodeOperatorAggregators registry
  disjoint := disjoint_nodeOperatorAggregators registry
  built := by
    rw [buildDigests, Option.isSome_map, isSome_eventNameByDigest_iff]
  digested := by
    intro digests hdigests handler hmem name
    constructor
    · intro hname
      have hdigest : ⟨name, handler.event⟩ ∈ digests.values :=
        (mem_buildDigests hdigests).mpr ⟨handler, hmem, hname, rfl⟩
      use ⟨name, handler.event⟩, ⟨hdigest, rfl, rfl⟩
      rintro digest ⟨hdigest', hevent, -⟩
      apply eq_of_eventName_eq hdigests hdigest' hdigest hevent
    · rintro ⟨digest, ⟨hdigest, hevent, rfl⟩, -⟩
      obtain ⟨handler', hmem', hname, hevent'⟩ := (mem_buildDigests hdigests).mp hdigest
      rw [registry.eq_of_event_eq hmem hmem' (hevent.symm.trans hevent'.symm)]
      apply hname
  collected := by
    intro digests hdigests digest hdigest
    constructor
    · obtain ⟨handler, hmem, -, hevent⟩ := (mem_buildDigests hdigests).mp hdigest
      use handler
    · intro aggregator haggregator
      apply eventName_notMem_of_mem_buildDigests hdigests hdigest haggregator

end Sentinel
