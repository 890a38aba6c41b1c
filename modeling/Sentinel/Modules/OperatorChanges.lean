import Sentinel.Modules.AggregationResults
import Sentinel.Modules.OperatorIds
import Sentinel.Tiles

/-!
# Changes of many node operators

The digest of deposited keys and the notification of effective weights tell of many node
operators at once. Both group the source events by node operator, and compare where a number was
before the first event of the operator with where it is after the last one. Each chat gets the
changes of the node operators that it follows.
-/

namespace Sentinel

open Python TelegramNotificationHandler

/-- A change of a number of a node operator. -/
structure OperatorChange where
  label : String
  before : ℤ
  after : ℤ
deriving DecidableEq

/-- What the handlers work with: the contract at a block, the labels of node operators, the
texts, and the order in which sets are visited. -/
structure OperatorChangesModule where
  totalDepositedKeys : ℤ → ℤ → ℤ
  digestOperatorLabel : ℤ → ℤ → String
  nodeOperatorLabel : ℤ → ℤ → String
  depositedSigningKeysMessage : List OperatorChange → String
  effectiveWeightMessage : List OperatorChange → String
  blockRangeFooter : EventNotification → String
  operatorOrder : SetOrder String

/-- An argument of an event that is a number, `none` where it raises. -/
def Event.intArg (name : String) (e : Event) : Option ℤ :=
  (e.args.get? name).bind Value.toInt

/-- The node operator of an event, `none` where it raises. -/
def Event.operatorId (e : Event) : Option ℤ :=
  e.intArg "nodeOperatorId"

namespace OperatorChangesModule

/-! ### The handlers -/

/-- How the first and the last event of a node operator make its change, which may be none at
all, and is `none` where it raises. -/
abbrev Compare :=
  ℤ → Event → Event → Option (Option OperatorChange)

/-- The change of the deposited keys. The event has the count after it, so the count before is
that of the block before the first event. -/
def compareDeposited (m : OperatorChangesModule) : Compare := fun id first last =>
  (last.intArg "depositedKeysCount").map fun count => some
    { label := m.digestOperatorLabel id last.block
      before := m.totalDepositedKeys id ((first.block : ℤ) - 1)
      after := count }

/-- The change of the effective weight, if it is one. -/
def compareWeights (m : OperatorChangesModule) (block : ℤ) : Compare := fun id first last => do
  let oldWeight ← first.intArg "oldWeight"
  let newWeight ← last.intArg "newWeight"
  if oldWeight = newWeight then some none
  else some (some
    { label := m.nodeOperatorLabel id block
      before := oldWeight
      after := newWeight })

/-- The change that the events of a node operator make, `none` where it raises. -/
def compareEvents (compare : Compare) (id : ℤ) (operatorEvents : List Event) :
    Option (Option OperatorChange) :=
  match operatorEvents.head?, operatorEvents.getLast? with
  | some first, some last => compare id first last
  | _, _ => none

/-- The entries of the node operators, `none` where it raises. -/
def entriesByOperator (compare : Compare) (sourceEvents : List Event) :
    Option (Dict String OperatorChange) := do
  let eventsByOperator ← groupBy Event.operatorId sourceEvents
  let entries ← (sortBy Prod.fst eventsByOperator.items).mapM fun item =>
    (compareEvents compare item.1 item.2).map fun entry => (item.1, entry)
  let changes := entries.filterMap fun entry =>
    entry.2.map fun change => (toString entry.1, change)
  return changes.foldl (fun d change => d.set change.1 change.2) .empty

/-- Ids by their numbers, `none` where one is no number. -/
def sortIds (m : OperatorChangesModule) (nodeOperatorIds : Finset String) :
    Option (List String) :=
  ((m.operatorOrder.toList nodeOperatorIds).mapM fun text => (int text).map fun id =>
    (id, text)).map fun ids => (sortBy Prod.fst ids).map Prod.snd

/-- The messages of the digest of deposited keys for a chat, `none` where it raises. -/
def renderDeposited (m : OperatorChangesModule) (event : EventNotification)
    (entriesByOperator : Dict String OperatorChange) (nodeOperatorIds : Finset String) :
    Option (List String) := do
  let ids ← m.sortIds nodeOperatorIds
  let entries ← ids.mapM entriesByOperator.get?
  return [m.depositedSigningKeysMessage entries ++ m.blockRangeFooter event]

/-- The messages about effective weights for a chat, `none` where it raises. -/
def renderWeights (m : OperatorChangesModule) (event : EventNotification)
    (entriesByOperator : Dict String OperatorChange) (nodeOperatorIds : Finset String) :
    Option (List String) := do
  let ids ← m.sortIds nodeOperatorIds
  let entries := ids.filterMap entriesByOperator.get?
  if entries = [] then return []
  else return [m.effectiveWeightMessage entries ++ m.blockRangeFooter event]

/-- The handler of the digest of deposited keys, `none` where it raises. -/
def depositedSigningKeysCountChanged (m : OperatorChangesModule) (event : EventNotification) :
    Option HandlerResult := do
  let entries ← entriesByOperator m.compareDeposited event.sourceEvents
  (NotificationPlan.perChat id entries.keys.toFinset (m.renderDeposited event entries)).map .plan

/-- The handler of effective weights, `none` where it raises. -/
def nodeOperatorEffectiveWeightChanged (m : OperatorChangesModule) (event : EventNotification) :
    Option HandlerResult := do
  let entries ← entriesByOperator (m.compareWeights event.primaryEvent.block) event.sourceEvents
  if entries.items = [] then some .nothing
  else
    (NotificationPlan.perChat id entries.keys.toFinset (m.renderWeights event entries)).map .plan

/-! ### The change of a node operator -/

/-- The events of a node operator. -/
def operatorEventsOf (sourceEvents : List Event) (id : ℤ) : List Event :=
  sourceEvents.filter fun e => e.operatorId = some id

/-- The change of a node operator, if it has one. -/
def changeOf (compare : Compare) (sourceEvents : List Event) (id : ℤ) : Option OperatorChange :=
  (compareEvents compare id (operatorEventsOf sourceEvents id)).join

/-- The node operators that have a change. -/
def changedOperators (compare : Compare) (sourceEvents : List Event) : Finset ℤ :=
  (sourceEvents.filterMap Event.operatorId).toFinset.filter fun id =>
    (changeOf compare sourceEvents id).isSome

/-- The source events can be read: each is of a node operator of the contract, and the changes of
the node operators can be made. -/
structure Comparable (compare : Compare) (sourceEvents : List Event) : Prop where
  operatorId : ∀ e ∈ sourceEvents, ∃ id, e.operatorId = some id ∧ IsUint256 id
  compare : ∀ id first last, first ∈ sourceEvents → last ∈ sourceEvents →
    compare id first last ≠ none

section Entries

variable {compare : Compare} {sourceEvents : List Event}

/-- The changes are those of the operators that have one. -/
theorem mem_changedOperators {id : ℤ} :
  id ∈ changedOperators compare sourceEvents ↔ (changeOf compare sourceEvents id).isSome
  := by
  rw [changedOperators, Finset.mem_filter, List.mem_toFinset, List.mem_filterMap]
  apply and_iff_right_of_imp
  intro hsome
  cases hevents : operatorEventsOf sourceEvents id with
  | nil => simp [changeOf, hevents, compareEvents] at hsome
  | cons e events =>
      have hmem : e ∈ operatorEventsOf sourceEvents id := by
        rw [hevents]
        apply List.mem_cons_self
      obtain ⟨hmem, hid⟩ := List.mem_filter.mp hmem
      use e, hmem
      simpa using hid

theorem isUint256_of_mem_changedOperators (hread : Comparable compare sourceEvents) {id : ℤ}
    (h : id ∈ changedOperators compare sourceEvents) :
  IsUint256 id
  := by
  rw [changedOperators, Finset.mem_filter, List.mem_toFinset, List.mem_filterMap] at h
  obtain ⟨⟨e, hmem, hid⟩, -⟩ := h
  obtain ⟨id', hid', huint⟩ := hread.operatorId e hmem
  rw [hid] at hid'
  cases hid'
  apply huint

/-- The change of the events of a node operator can be made. -/
theorem compareEvents_ne_none (hread : Comparable compare sourceEvents) {id : ℤ}
    (h : operatorEventsOf sourceEvents id ≠ []) :
  compareEvents compare id (operatorEventsOf sourceEvents id) ≠ none
  := by
  have hmem : ∀ e ∈ operatorEventsOf sourceEvents id, e ∈ sourceEvents := by
    intro e he
    apply List.mem_of_mem_filter he
  rw [compareEvents, List.head?_eq_some_head h, List.getLast?_eq_some_getLast h]
  apply hread.compare _ _ _ (hmem _ (List.head_mem h)) (hmem _ (List.getLast_mem h))

/-- Different node operators have different texts. -/
theorem eq_of_toString_eq (hread : Comparable compare sourceEvents) {id id' : ℤ}
    (h : id ∈ changedOperators compare sourceEvents)
    (h' : id' ∈ changedOperators compare sourceEvents) (heq : toString id = toString id') :
  id = id'
  := by
  have hint := (isUint256_of_mem_changedOperators hread h).int_toString
  rw [heq, (isUint256_of_mem_changedOperators hread h').int_toString] at hint
  apply (Option.some.inj hint).symm

/-- The item of a node operator that has a change. -/
def itemOf (compare : Compare) (sourceEvents : List Event) (id : ℤ) :
    Option (String × OperatorChange) :=
  (changeOf compare sourceEvents id).map fun change => (toString id, change)

/-- The node operators of the groups, by their numbers. -/
theorem filter_keys_eq_sort {d : Dict ℤ (List Event)}
    (h : groupBy Event.operatorId sourceEvents = some d) :
  ((sortBy Prod.fst d.items).map Prod.fst).filter
      (fun id => (changeOf compare sourceEvents id).isSome)
    = (changedOperators compare sourceEvents).sort (· ≤ ·)
  := by
  have hlt : ((sortBy Prod.fst d.items).map Prod.fst).Pairwise (· < ·) := by
    rw [List.pairwise_map]
    apply pairwise_lt_sortBy d.nodup
  have hfilter := hlt.filter fun id => (changeOf compare sourceEvents id).isSome
  rw [eq_comm, ← (List.toFinset_sort (· ≤ ·) hfilter.nodup).mpr (hfilter.imp le_of_lt)]
  congr 1
  ext id
  rw [mem_changedOperators, List.mem_toFinset, List.mem_filter]
  apply (and_iff_right_of_imp _).symm
  intro hsome
  have hne : operatorEventsOf sourceEvents id ≠ [] := by
    intro hnil
    simp [changeOf, hnil, compareEvents] at hsome
  rw [List.mem_map]
  use (id, operatorEventsOf sourceEvents id)
  rw [mem_sortBy, mem_items_groupBy h]
  exact ⟨⟨rfl, hne⟩, rfl⟩

/-- The entries are those of the node operators that have a change, by their numbers. -/
theorem exists_entriesByOperator (hread : Comparable compare sourceEvents) :
  ∃ d, entriesByOperator compare sourceEvents = some d
    ∧ d.items = ((changedOperators compare sourceEvents).sort (· ≤ ·)).filterMap
        (itemOf compare sourceEvents)
  := by
  obtain ⟨groups, hgroups⟩ : ∃ d, groupBy Event.operatorId sourceEvents = some d := by
    apply Option.ne_none_iff_exists'.mp
    rw [ne_eq, groupBy_eq_none_iff]
    rintro ⟨e, hmem, hnone⟩
    obtain ⟨id, hid, -⟩ := hread.operatorId e hmem
    rw [hnone] at hid
    cases hid
  have hitem : ∀ item ∈ sortBy Prod.fst groups.items,
      item.2 = operatorEventsOf sourceEvents item.1 ∧ item.2 ≠ [] := by
    rintro ⟨id, group⟩ hmem
    apply (mem_items_groupBy hgroups).mp (mem_sortBy.mp hmem)
  have hentries : (sortBy Prod.fst groups.items).mapM (fun item =>
      (compareEvents compare item.1 item.2).map fun entry => (item.1, entry))
      = some ((sortBy Prod.fst groups.items).map fun item =>
          (item.1, changeOf compare sourceEvents item.1)) := by
    rw [Loops.mapM_eq_some_iff, List.map_map]
    apply List.map_congr_left
    intro item hmem
    obtain ⟨hevents, hne⟩ := hitem item hmem
    rw [hevents] at hne ⊢
    obtain ⟨entry, hentry⟩ := Option.ne_none_iff_exists'.mp (compareEvents_ne_none hread hne)
    rw [Function.comp_apply, changeOf, hentry]
    rfl
  have hchanges : ((sortBy Prod.fst groups.items).map fun item =>
        (item.1, changeOf compare sourceEvents item.1)).filterMap
        (fun entry => entry.2.map fun change => (toString entry.1, change))
      = ((changedOperators compare sourceEvents).sort (· ≤ ·)).filterMap
        (itemOf compare sourceEvents) := by
    rw [← filter_keys_eq_sort hgroups, List.filterMap_filter, List.filterMap_map,
      List.filterMap_map]
    apply List.filterMap_congr
    intro item _
    simp only [Function.comp_apply, itemOf]
    cases changeOf compare sourceEvents item.1 <;> rfl
  rw [entriesByOperator, hgroups]
  simp only [Option.bind_eq_bind, Option.bind_some, hentries]
  refine ⟨_, rfl, ?_⟩
  rw [hchanges]
  apply Dict.items_set_pairs
  rw [List.Nodup, List.pairwise_map, List.pairwise_filterMap]
  apply (Finset.sort_nodup _ _).imp_of_mem
  intro id id' hmem hmem' hne item hitem item' hitem' heq
  obtain ⟨change, -, rfl⟩ := Option.map_eq_some_iff.mp hitem
  obtain ⟨change', -, rfl⟩ := Option.map_eq_some_iff.mp hitem'
  rw [Finset.mem_sort] at hmem hmem'
  apply hne (eq_of_toString_eq hread hmem hmem' heq)

variable {d : Dict String OperatorChange}

/-- The texts of the entries. -/
theorem keys_toFinset_eq
    (h : d.items = ((changedOperators compare sourceEvents).sort (· ≤ ·)).filterMap
      (itemOf compare sourceEvents)) :
  d.keys.toFinset = (changedOperators compare sourceEvents).image toString
  := by
  ext text
  rw [List.mem_toFinset, Dict.keys, h, Finset.mem_image, List.mem_map]
  constructor
  · rintro ⟨item, hitem, rfl⟩
    obtain ⟨id, hmem, hid⟩ := List.mem_filterMap.mp hitem
    obtain ⟨change, -, rfl⟩ := Option.map_eq_some_iff.mp hid
    use id, (Finset.mem_sort _).mp hmem
  · rintro ⟨id, hmem, rfl⟩
    obtain ⟨change, hchange⟩ := Option.isSome_iff_exists.mp (mem_changedOperators.mp hmem)
    use (toString id, change)
    rw [List.mem_filterMap]
    use ⟨id, (Finset.mem_sort _).mpr hmem, by rw [itemOf, hchange]; rfl⟩

/-- The entry at the text of a node operator that has a change. -/
theorem get?_entries
    (h : d.items = ((changedOperators compare sourceEvents).sort (· ≤ ·)).filterMap
      (itemOf compare sourceEvents)) {id : ℤ}
    (hmem : id ∈ changedOperators compare sourceEvents) :
  d.get? (toString id) = changeOf compare sourceEvents id
  := by
  obtain ⟨change, hchange⟩ := Option.isSome_iff_exists.mp (mem_changedOperators.mp hmem)
  rw [hchange, Dict.get?_eq_some_iff, h, List.mem_filterMap]
  use id, (Finset.mem_sort _).mpr hmem
  rw [itemOf, hchange]
  rfl

end Entries

/-! ### What a chat gets -/

section Received

variable {m : OperatorChangesModule} {compare : Compare} {event : EventNotification}
  {ids : Finset ℤ}

/-- Some of the texts of node operators, by their numbers. -/
theorem sortIds_eq (hids : ∀ id ∈ ids, IsUint256 id) {texts : Finset String}
    (htexts : texts ⊆ ids.image toString) :
  m.sortIds texts
    = some (((ids.filter fun id => toString id ∈ texts).sort (· ≤ ·)).map toString)
  := by
  set shown := (ids.filter fun id => toString id ∈ texts).sort (· ≤ ·) with hshown
  have htext : ∀ text ∈ texts, ∃ id ∈ ids, toString id = text := by
    intro text hmem
    apply Finset.mem_image.mp (htexts hmem)
  obtain ⟨pairs, hpairs⟩ : ∃ pairs, (m.operatorOrder.toList texts).mapM (fun text =>
      (int text).map fun id => (id, text)) = some pairs := by
    apply Option.ne_none_iff_exists'.mp
    rw [ne_eq, Loops.mapM_eq_none_iff]
    rintro ⟨text, hmem, hnone⟩
    obtain ⟨id, hid, rfl⟩ := htext text ((m.operatorOrder.mem_toList _ _).mp hmem)
    rw [(hids id hid).int_toString] at hnone
    cases hnone
  have hsnd := Loops.map_snd_of_mapM hpairs
  have hmap := Loops.mapM_eq_some_iff.mp hpairs
  have hmem : ∀ pair, pair ∈ pairs ↔ pair ∈ shown.map fun id => (id, toString id) := by
    intro pair
    have hsome : pair ∈ pairs ↔ some pair ∈ pairs.map some := by simp
    rw [hsome, ← hmap, List.mem_map, List.mem_map]
    constructor
    · rintro ⟨text, hmem, hpair⟩
      have hmem' := (m.operatorOrder.mem_toList _ _).mp hmem
      obtain ⟨id, hid, rfl⟩ := htext text hmem'
      rw [(hids id hid).int_toString] at hpair
      use id, (Finset.mem_sort _).mpr (Finset.mem_filter.mpr ⟨hid, hmem'⟩)
      apply Option.some.inj hpair
    · rintro ⟨id, hid, rfl⟩
      obtain ⟨hid, hmem⟩ := Finset.mem_filter.mp ((Finset.mem_sort _).mp hid)
      use toString id, (m.operatorOrder.mem_toList _ _).mpr hmem
      rw [(hids id hid).int_toString]
      rfl
  have hlt : (shown.map fun id => (id, toString id)).Pairwise fun a b => a.1 < b.1 := by
    rw [List.pairwise_map]
    apply Finset.sortedLT_sort _ |>.pairwise
  have hnodup : pairs.Nodup := by
    apply List.Nodup.of_map Prod.snd
    rw [hsnd]
    apply m.operatorOrder.nodup
  have hperm : pairs.Perm (shown.map fun id => (id, toString id)) := by
    apply (List.perm_ext_iff_of_nodup hnodup _).mpr hmem
    apply hlt.imp
    intro a b hlt heq
    rw [heq] at hlt
    apply lt_irrefl _ hlt
  have hsorted : sortBy Prod.fst pairs = shown.map fun id => (id, toString id) := by
    rw [sortBy_eq_of_perm _ hperm]
    · apply OrderedBy.sortBy_eq (hlt.imp le_of_lt)
    · apply List.Pairwise.map _ _ hlt
      intro a b hlt
      apply ne_of_lt hlt
  rw [sortIds, hpairs, Option.map_some, hsorted, List.map_map]
  rfl

/-- The changes of the node operators of a notification that are followed, by their numbers. -/
def changesFor (compare : Compare) (event : EventNotification) (follows : ℤ → Prop)
    [DecidablePred follows] : List OperatorChange :=
  (((changedOperators compare event.sourceEvents).filter follows).sort (· ≤ ·)).filterMap
    (changeOf compare event.sourceEvents)

/-- A followed node operator that has a change is told of. -/
theorem changesFor_eq_nil_iff {follows : ℤ → Prop} [DecidablePred follows] :
  changesFor compare event follows = []
    ↔ ∀ id ∈ changedOperators compare event.sourceEvents, ¬ follows id
  := by
  rw [changesFor, List.filterMap_eq_nil_iff]
  constructor
  · intro hnone id hmem hfollows
    have hid := hnone id ((Finset.mem_sort _).mpr (Finset.mem_filter.mpr ⟨hmem, hfollows⟩))
    rw [mem_changedOperators, hid] at hmem
    cases hmem
  · intro hnot id hmem
    obtain ⟨hmem, hfollows⟩ := Finset.mem_filter.mp ((Finset.mem_sort _).mp hmem)
    cases hnot id hmem hfollows

theorem changesFor_congr {follows follows' : ℤ → Prop} [DecidablePred follows]
    [DecidablePred follows']
    (h : ∀ id ∈ changedOperators compare event.sourceEvents, (follows id ↔ follows' id)) :
  changesFor compare event follows = changesFor compare event follows'
  := by
  rw [changesFor, changesFor, Finset.filter_congr h]

/-- The entries at the texts of node operators. -/
theorem map_get?_entries {d : Dict String OperatorChange}
    (h : d.items = ((changedOperators compare event.sourceEvents).sort (· ≤ ·)).filterMap
      (itemOf compare event.sourceEvents)) (follows : ℤ → Prop) [DecidablePred follows] :
  ((((changedOperators compare event.sourceEvents).filter follows).sort (· ≤ ·)).map
      toString).map d.get?
    = (changesFor compare event follows).map some
  := by
  have hget : ∀ id ∈ ((changedOperators compare event.sourceEvents).filter follows).sort (· ≤ ·),
      d.get? (toString id) = changeOf compare event.sourceEvents id
        ∧ (changeOf compare event.sourceEvents id).isSome := by
    intro id hmem
    have hmem' := (Finset.mem_filter.mp ((Finset.mem_sort _).mp hmem)).1
    use get?_entries h hmem', mem_changedOperators.mp hmem'
  rw [changesFor]
  generalize ((changedOperators compare event.sourceEvents).filter follows).sort (· ≤ ·) = ids
    at hget ⊢
  induction ids with
  | nil => rfl
  | cons id ids ih =>
      obtain ⟨hid, hsome⟩ := hget id List.mem_cons_self
      obtain ⟨change, hchange⟩ := Option.isSome_iff_exists.mp hsome
      rw [List.filterMap_cons, hchange, List.map_cons, List.map_cons, List.map_cons,
        ← ih fun id hmem => hget id (List.mem_cons_of_mem _ hmem), hid, hchange]

/-- Rendering for some of the texts of the entries. -/
theorem renderDeposited_eq {d : Dict String OperatorChange}
    (hread : Comparable compare event.sourceEvents)
    (h : d.items = ((changedOperators compare event.sourceEvents).sort (· ≤ ·)).filterMap
      (itemOf compare event.sourceEvents)) {texts : Finset String}
    (htexts : texts ⊆ (changedOperators compare event.sourceEvents).image toString) :
  m.renderDeposited event d texts
    = some [m.depositedSigningKeysMessage
        (changesFor compare event fun id => toString id ∈ texts) ++ m.blockRangeFooter event]
  := by
  have hmap := Loops.mapM_eq_some_iff.mpr (map_get?_entries h fun id => toString id ∈ texts)
  rw [renderDeposited, sortIds_eq (fun id => isUint256_of_mem_changedOperators hread) htexts]
  simp only [Option.bind_eq_bind, Option.bind_some, hmap]
  rfl

theorem renderWeights_eq {d : Dict String OperatorChange}
    (hread : Comparable compare event.sourceEvents)
    (h : d.items = ((changedOperators compare event.sourceEvents).sort (· ≤ ·)).filterMap
      (itemOf compare event.sourceEvents)) {texts : Finset String}
    (htexts : texts ⊆ (changedOperators compare event.sourceEvents).image toString) :
  m.renderWeights event d texts
    = some (if changesFor compare event (fun id => toString id ∈ texts) = [] then []
      else [m.effectiveWeightMessage (changesFor compare event fun id => toString id ∈ texts)
        ++ m.blockRangeFooter event])
  := by
  have hmap := Loops.filterMap_of_map (map_get?_entries h fun id => toString id ∈ texts)
  rw [renderWeights, sortIds_eq (fun id => isUint256_of_mem_changedOperators hread) htexts]
  simp only [Option.bind_eq_bind, Option.bind_some, hmap]
  split <;> rfl

/-- What an active chat gets from a handler whose plan renders the changes that it follows. -/
theorem received_of_changes (message : List OperatorChange → String)
    (render : Finset String → Option (List String))
    {handler : EventNotification → Option HandlerResult}
    {engine : EventMessageEngine} (hhandler : engine.IsHandler event handler)
    (hresult : handler event
      = if changedOperators compare event.sourceEvents = ∅ then some .nothing
        else some (.plan ⟨.perChat ((changedOperators compare event.sourceEvents).image toString)
          render⟩))
    (hsome : ∀ texts ⊆ (changedOperators compare event.sourceEvents).image toString,
      (render texts).isSome)
    (hrender : ∀ texts ⊆ (changedOperators compare event.sourceEvents).image toString,
      changesFor compare event (fun id => toString id ∈ texts) ≠ [] →
      render texts = some [message (changesFor compare event fun id => toString id ∈ texts)])
    (telegram : Telegram) (storage : BotStorage) (c : ℤ) :
  (attempts telegram storage engine event).received c
    = if changesFor compare event (fun id => storage.ActiveFollower (toString id) c) = [] then []
      else [message (changesFor compare event fun id => storage.ActiveFollower (toString id) c)]
  := by
  have hnil := @changesFor_eq_nil_iff compare event
    (fun id => storage.ActiveFollower (toString id) c) _
  by_cases hempty : changedOperators compare event.sourceEvents = ∅
  · rw [if_pos hempty] at hresult
    rw [attempts_of_nothing hhandler hresult, if_pos]
    · rfl
    · rw [hnil, hempty]
      simp
  · rw [if_neg hempty] at hresult
    rw [received_of_perChat hhandler hresult hsome]
    split
    next hchat =>
        obtain ⟨hactual, text, htext⟩ := hchat
        have hfollows : ∀ id ∈ changedOperators compare event.sourceEvents,
            (toString id ∈ followed storage
                ((changedOperators compare event.sourceEvents).image toString) c
              ↔ storage.ActiveFollower (toString id) c) := by
          intro id hmem
          rw [mem_followed, and_iff_right (Finset.mem_image_of_mem _ hmem),
            BotStorage.ActiveFollower, and_iff_right hactual]
        have hne : changesFor compare event
            (fun id => storage.ActiveFollower (toString id) c) ≠ [] := by
          rw [ne_eq, hnil]
          intro hnot
          obtain ⟨himage, -⟩ := mem_followed.mp htext
          obtain ⟨id, hmem, rfl⟩ := Finset.mem_image.mp himage
          apply hnot id hmem ((hfollows id hmem).mp htext)
        have hcongr := changesFor_congr hfollows
        rw [if_neg hne, hrender _ (followed_subset _ _)]
        · rw [hcongr]
          rfl
        · rw [hcongr]
          apply hne
    next hchat =>
        rw [if_pos]
        rw [hnil]
        intro id hmem hfollows
        apply hchat
        use hfollows.1, toString id
        rw [mem_followed]
        use Finset.mem_image_of_mem _ hmem, hfollows.2

/-- The plan for the followers of the node operators that have a change. -/
theorem perChat_eq {d : Dict String OperatorChange} {render : Finset String → Option (List String)}
    (h : d.items = ((changedOperators compare event.sourceEvents).sort (· ≤ ·)).filterMap
      (itemOf compare event.sourceEvents))
    (hne : changedOperators compare event.sourceEvents ≠ ∅) :
  NotificationPlan.perChat id d.keys.toFinset render
    = some ⟨.perChat ((changedOperators compare event.sourceEvents).image toString) render⟩
  := by
  rw [NotificationPlan.perChat, normaliseOperatorIds, Finset.image_id, keys_toFinset_eq h,
    if_neg]
  rw [Finset.image_eq_empty]
  apply hne

/-- Every node operator of a digest of deposited keys has a change. -/
theorem changedOperators_deposited_ne_empty
    (hread : Comparable m.compareDeposited event.sourceEvents) :
  changedOperators m.compareDeposited event.sourceEvents ≠ ∅
  := by
  obtain ⟨e, hmem⟩ := List.exists_mem_of_ne_nil _ event.nonempty
  obtain ⟨id, hid, -⟩ := hread.operatorId e hmem
  have hevents : operatorEventsOf event.sourceEvents id ≠ [] := by
    apply List.ne_nil_of_mem (a := e)
    rw [operatorEventsOf, List.mem_filter]
    use hmem
    simpa using hid
  apply Finset.ne_empty_of_mem (a := id)
  rw [mem_changedOperators, changeOf]
  have hsome := compareEvents_ne_none hread hevents
  rw [compareEvents, List.head?_eq_some_head hevents,
    List.getLast?_eq_some_getLast hevents] at hsome ⊢
  simp only [compareDeposited] at hsome ⊢
  cases hcount : ((operatorEventsOf event.sourceEvents id).getLast hevents).intArg
      "depositedKeysCount" with
  | none => simp [hcount] at hsome
  | some count => rfl

/-- What an active chat gets of a digest of deposited keys. -/
theorem received_depositedSigningKeys (hread : Comparable m.compareDeposited event.sourceEvents)
    {engine : EventMessageEngine}
    (hhandler : engine.IsHandler event m.depositedSigningKeysCountChanged)
    (telegram : Telegram) (storage : BotStorage) (c : ℤ) :
  (attempts telegram storage engine event).received c
    = if changesFor m.compareDeposited event
          (fun id => storage.ActiveFollower (toString id) c) = [] then []
      else [m.depositedSigningKeysMessage (changesFor m.compareDeposited event
        fun id => storage.ActiveFollower (toString id) c) ++ m.blockRangeFooter event]
  := by
  obtain ⟨d, hd, hitems⟩ := exists_entriesByOperator hread
  have hne := changedOperators_deposited_ne_empty hread
  have hrender := fun texts htexts => @renderDeposited_eq m _ _ d hread hitems texts htexts
  apply received_of_changes
    (fun changes => m.depositedSigningKeysMessage changes ++ m.blockRangeFooter event)
    (m.renderDeposited event d) hhandler
  · rw [if_neg hne, depositedSigningKeysCountChanged, hd]
    simp only [Option.bind_eq_bind, Option.bind_some, perChat_eq hitems hne]
    rfl
  · intro texts htexts
    rw [hrender texts htexts]
    rfl
  · intro texts htexts _
    apply hrender texts htexts

/-- What an active chat gets of a notification of effective weights. -/
theorem received_weightChanges
    (hread : Comparable (m.compareWeights event.primaryEvent.block) event.sourceEvents)
    {engine : EventMessageEngine}
    (hhandler : engine.IsHandler event m.nodeOperatorEffectiveWeightChanged)
    (telegram : Telegram) (storage : BotStorage) (c : ℤ) :
  (attempts telegram storage engine event).received c
    = if changesFor (m.compareWeights event.primaryEvent.block) event
          (fun id => storage.ActiveFollower (toString id) c) = [] then []
      else [m.effectiveWeightMessage (changesFor (m.compareWeights event.primaryEvent.block) event
        fun id => storage.ActiveFollower (toString id) c) ++ m.blockRangeFooter event]
  := by
  obtain ⟨d, hd, hitems⟩ := exists_entriesByOperator hread
  have hrender := fun texts htexts => @renderWeights_eq m _ _ d hread hitems texts htexts
  apply received_of_changes
    (fun changes => m.effectiveWeightMessage changes ++ m.blockRangeFooter event)
    (m.renderWeights event d) hhandler
  · have hempty : d.items = []
        ↔ changedOperators (m.compareWeights event.primaryEvent.block) event.sourceEvents = ∅ := by
      have hkeys := keys_toFinset_eq hitems
      rw [← Finset.image_eq_empty (f := toString), ← hkeys, List.toFinset_eq_empty_iff, Dict.keys,
        List.map_eq_nil_iff]
    rw [nodeOperatorEffectiveWeightChanged, hd]
    simp only [Option.bind_eq_bind, Option.bind_some, hempty]
    split
    next => rfl
    next hne =>
        rw [perChat_eq hitems hne]
        rfl
  · intro texts htexts
    rw [hrender texts htexts]
    rfl
  · intro texts htexts hne
    rw [hrender texts htexts, if_neg hne]

/-! ### The net changes of weights -/

/-- The weights that an event of a node operator is from and to. -/
def weightsOf (e : Event) : Option ℤ × Option ℤ :=
  (e.intArg "oldWeight", e.intArg "newWeight")

/-- The events of each node operator lead from a weight to another one without a gap. -/
structure WeightHistory (sourceEvents : List Event) (before after : ℤ → ℤ) : Prop where
  operatorId : ∀ e ∈ sourceEvents, ∃ id, e.operatorId = some id ∧ IsUint256 id
  tiles : ∀ id, ∃ changes : List (ℤ × ℤ),
    (operatorEventsOf sourceEvents id).map weightsOf
        = changes.map (fun change => (some change.1, some change.2))
      ∧ Tiles (before id) changes (after id)

variable {before after : ℤ → ℤ}

/-- The weights of an event are numbers. -/
theorem WeightHistory.exists_weightsOf {sourceEvents : List Event}
    (h : WeightHistory sourceEvents before after) {e : Event} (hmem : e ∈ sourceEvents) :
  ∃ oldWeight newWeight : ℤ, weightsOf e = (some oldWeight, some newWeight)
  := by
  obtain ⟨id, hid, -⟩ := h.operatorId e hmem
  obtain ⟨changes, hchanges, -⟩ := h.tiles id
  have hweights : weightsOf e ∈ (operatorEventsOf sourceEvents id).map weightsOf := by
    apply List.mem_map_of_mem
    apply List.mem_filter.mpr ⟨hmem, decide_eq_true hid⟩
  rw [hchanges, List.mem_map] at hweights
  obtain ⟨change, -, hchange⟩ := hweights
  use change.1, change.2, hchange.symm

theorem WeightHistory.readable {sourceEvents : List Event}
    (h : WeightHistory sourceEvents before after) (block : ℤ) :
  Comparable (m.compareWeights block) sourceEvents
  where
  operatorId := h.operatorId
  compare := by
    intro id first last hfirst hlast
    obtain ⟨oldWeight, _, hold⟩ := h.exists_weightsOf hfirst
    obtain ⟨_, newWeight, hnew⟩ := h.exists_weightsOf hlast
    have hold' : first.intArg "oldWeight" = some oldWeight := congrArg Prod.fst hold
    have hnew' : last.intArg "newWeight" = some newWeight := congrArg Prod.snd hnew
    simp only [compareWeights, hold', hnew', Option.bind_eq_bind, Option.bind_some]
    split <;> simp

/-- The change of a node operator is the one from before its events to after them. -/
theorem WeightHistory.changeOf_eq {sourceEvents : List Event}
    (h : WeightHistory sourceEvents before after) (block id : ℤ) :
  changeOf (m.compareWeights block) sourceEvents id
    = if before id = after id then none
      else some ⟨m.nodeOperatorLabel id block, before id, after id⟩
  := by
  obtain ⟨changes, hchanges, htiles⟩ := h.tiles id
  cases hevents : operatorEventsOf sourceEvents id with
  | nil =>
      rw [hevents] at hchanges
      obtain rfl : changes = [] := by simpa using hchanges.symm
      have heq : before id = after id := htiles
      rw [changeOf, hevents, if_pos heq]
      rfl
  | cons first rest =>
      have hne := List.cons_ne_nil first rest
      rw [hevents] at hchanges
      have hchangesne : changes ≠ [] := by
        rintro rfl
        cases hchanges
      have hfirst := congrArg List.head? hchanges
      have hlast := congrArg List.getLast? hchanges
      rw [List.head?_map, List.head?_map, List.head?_cons, List.head?_eq_some_head hchangesne]
        at hfirst
      rw [List.getLast?_map, List.getLast?_map, List.getLast?_eq_some_getLast hne,
        List.getLast?_eq_some_getLast hchangesne] at hlast
      have hold : first.intArg "oldWeight" = some (before id) := by
        rw [← htiles.head hchangesne]
        apply congrArg Prod.fst (Option.some.inj hfirst)
      have hnew : ((first :: rest).getLast hne).intArg "newWeight" = some (after id) := by
        rw [← htiles.getLast hchangesne]
        apply congrArg Prod.snd (Option.some.inj hlast)
      rw [changeOf, hevents, compareEvents, List.head?_cons, List.getLast?_eq_some_getLast hne]
      simp only [compareWeights, hold, hnew, Option.bind_eq_bind, Option.bind_some]
      split <;> rfl

/-- The node operators of some events whose weights are other ones than before, that are
followed. -/
def toldOperators (sourceEvents : List Event) (before after : ℤ → ℤ) (follows : ℤ → Prop)
    [DecidablePred follows] : Finset ℤ :=
  (sourceEvents.filterMap Event.operatorId).toFinset.filter fun id =>
    before id ≠ after id ∧ follows id

/-- However often the weight of a node operator changes in a notification, each chat gets one
message with the net changes of exactly the node operators that it follows and whose weight is
another one after the events than before them, each once and by their numbers. A chat that
follows none of them gets none. -/
theorem received_effectiveWeights (h : WeightHistory event.sourceEvents before after)
    {engine : EventMessageEngine}
    (hhandler : engine.IsHandler event m.nodeOperatorEffectiveWeightChanged)
    (telegram : Telegram) (storage : BotStorage) (c : ℤ) :
  (attempts telegram storage engine event).received c
    = if toldOperators event.sourceEvents before after
          (fun id => storage.ActiveFollower (toString id) c) = ∅ then []
      else [m.effectiveWeightMessage (((toldOperators event.sourceEvents before after
            fun id => storage.ActiveFollower (toString id) c).sort (· ≤ ·)).map fun id =>
          ⟨m.nodeOperatorLabel id event.primaryEvent.block, before id, after id⟩)
        ++ m.blockRangeFooter event]
  := by
  have hread : Comparable (m.compareWeights event.primaryEvent.block) event.sourceEvents :=
    h.readable _
  have hchange := h.changeOf_eq (m := m) event.primaryEvent.block
  have htold : (changedOperators (m.compareWeights event.primaryEvent.block)
        event.sourceEvents).filter (fun id => storage.ActiveFollower (toString id) c)
      = toldOperators event.sourceEvents before after
        fun id => storage.ActiveFollower (toString id) c := by
    rw [changedOperators, toldOperators, Finset.filter_filter]
    apply Finset.filter_congr
    intro id _
    rw [hchange]
    split <;> simp_all
  have hchanges : changesFor (m.compareWeights event.primaryEvent.block) event
        (fun id => storage.ActiveFollower (toString id) c)
      = ((toldOperators event.sourceEvents before after
          fun id => storage.ActiveFollower (toString id) c).sort (· ≤ ·)).map fun id =>
        ⟨m.nodeOperatorLabel id event.primaryEvent.block, before id, after id⟩ := by
    rw [changesFor, htold]
    apply Loops.filterMap_of_map
    rw [List.map_map]
    apply List.map_congr_left
    intro id hmem
    rw [Finset.mem_sort, toldOperators, Finset.mem_filter] at hmem
    rw [hchange, if_neg hmem.2.1]
    rfl
  rw [received_weightChanges hread hhandler, hchanges]
  apply if_congr _ rfl rfl
  rw [List.map_eq_nil_iff, ← List.length_eq_zero_iff, Finset.length_sort, Finset.card_eq_zero]

end Received

/-! ### Two changes of one weight -/

/-- A module whose message has the weights of the first change. -/
def weightsModule : OperatorChangesModule where
  totalDepositedKeys _ _ := 0
  digestOperatorLabel id _ := toString id
  nodeOperatorLabel id _ := toString id
  depositedSigningKeysMessage _ := ""
  effectiveWeightMessage changes := String.join (changes.map fun change =>
    change.label ++ ": " ++ toString change.before ++ " to " ++ toString change.after)
  blockRangeFooter _ := ""
  operatorOrder := .sorted

def weightsEngine : EventMessageEngine where
  notifiableEvents := {"NodeOperatorEffectiveWeightChanged"}
  eventHandlers := Dict.empty.set "NodeOperatorEffectiveWeightChanged"
    weightsModule.nodeOperatorEffectiveWeightChanged

/-- A change of the weight of the first node operator. -/
def weightChanged (block : ℕ) (oldWeight newWeight : ℤ) : Event :=
  { Event.first block with
    event := "NodeOperatorEffectiveWeightChanged"
    args := ((Dict.empty.set "nodeOperatorId" (.int 0)).set "oldWeight" (.int oldWeight)).set
      "newWeight" (.int newWeight) }

/-- The notification of two changes. -/
def twoChanges : EventNotification where
  sourceEvents := [weightChanged 1 10 20, weightChanged 2 20 30]
  nonempty := List.cons_ne_nil _ _

theorem received_effectiveWeights_twoChanges :
  (attempts .reliable (.follower "0") weightsEngine twoChanges).received 1 = ["0: 10 to 30"]
  := by
  let before : ℤ → ℤ := fun id => if id = 0 then 10 else 0
  let after : ℤ → ℤ := fun id => if id = 0 then 30 else 0
  have hhistory : WeightHistory twoChanges.sourceEvents before after := by
    constructor
    · intro e hmem
      have hid : e.operatorId = some 0 := by
        rcases List.mem_cons.mp hmem with rfl | hmem
        · rfl
        · rw [List.mem_singleton.mp hmem]
          rfl
      exact ⟨0, hid, by decide⟩
    · intro id
      by_cases hid : id = 0
      · subst hid
        exact ⟨[(10, 20), (20, 30)], rfl, rfl, rfl, rfl⟩
      · use []
        have hnone : operatorEventsOf twoChanges.sourceEvents id = [] := by
          have hfirst : (weightChanged 1 10 20).operatorId = some 0 := rfl
          have hsecond : (weightChanged 2 20 30).operatorId = some 0 := rfl
          simp [operatorEventsOf, twoChanges, hfirst, hsecond, Ne.symm hid]
        rw [hnone]
        simp [Tiles, before, after, hid]
  have hhandler : weightsEngine.IsHandler twoChanges
      weightsModule.nodeOperatorEffectiveWeightChanged :=
    ⟨Finset.mem_singleton_self _, rfl⟩
  have htold : toldOperators twoChanges.sourceEvents before after
      (fun id => (BotStorage.follower "0").ActiveFollower (toString id) 1) = {0} := by
    ext id
    rw [toldOperators, Finset.mem_filter, BotStorage.activeFollower_follower,
      Finset.mem_singleton, List.mem_toFinset, List.mem_filterMap]
    constructor
    · rintro ⟨-, hne, -⟩
      by_contra hid
      simp [before, after, hid] at hne
    · rintro rfl
      exact ⟨⟨weightChanged 1 10 20, List.mem_cons_self, rfl⟩, by decide, rfl, rfl⟩
  rw [received_effectiveWeights hhistory hhandler, htold, Finset.sort_singleton,
    if_neg (Finset.singleton_ne_empty _)]
  decide

end OperatorChangesModule

end Sentinel
