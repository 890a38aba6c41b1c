import Sentinel.Modules.AggregationResults
import Sentinel.Modules.OperatorIds

/-!
# Weights of bond curves

The events of a window that set weights of bond curves make one notification. Each chat gets the
curves of the node operators that it follows, each curve once, with the weight that was set last
and the node operators on it.
-/

namespace Sentinel

open Python TelegramNotificationHandler

/-- What the handler of the weights of bond curves works with: the contracts at a block, the
labels of node operators, the texts, and the order in which sets are visited. -/
structure BondCurveModule where
  getNodeOperatorsCount : ℤ → ℕ
  getBondCurveId : ℤ → ℤ → ℤ
  nodeOperatorsCount_le : ∀ block, getNodeOperatorsCount block ≤ 2 ^ 256
  nodeOperatorLabel : ℤ → ℤ → String
  /-- the curves, each with its weight and the labels of its node operators -/
  bondCurveWeightSetMessage : List (ℤ × ℤ × List String) → String
  blockRangeFooter : EventNotification → String
  operatorOrder : SetOrder String

namespace BondCurveModule

/-! ### The handler -/

/-- The curve of an event, `none` where it raises. -/
def curveId (e : Event) : Option ℤ :=
  (e.args.get? "curveId").bind Value.toInt

/-- The weight of an event, `none` where it raises. -/
def weight (e : Event) : Option ℤ :=
  (e.args.get? "weight").bind Value.toInt

/-- The last event of each curve, `none` where it raises. -/
def eventsByCurveId (sourceEvents : List Event) : Option (Dict ℤ Event) :=
  sourceEvents.foldlM (fun d e => (curveId e).map fun id => d.set id e) .empty

/-- The node operators on a curve. -/
def nodeOperatorIdsForBondCurve (m : BondCurveModule) (curveId : ℤ) (block : ℤ) : Finset ℤ :=
  ((List.range (m.getNodeOperatorsCount block)).map Int.ofNat).toFinset.filter fun id =>
    m.getBondCurveId id block = curveId

/-- The node operators of each curve that has any, and those of all these curves. -/
def operatorIdsByCurve (m : BondCurveModule) (curveIds : List ℤ) (block : ℤ) :
    Dict ℤ (Finset ℤ) × Finset ℤ :=
  curveIds.foldl (fun found curveId =>
    let operatorIds := m.nodeOperatorIdsForBondCurve curveId block
    if operatorIds = ∅ then found
    else (found.1.set curveId operatorIds, found.2 ∪ operatorIds)) (.empty, ∅)

/-- The labels of node operators. -/
def operatorLabels (m : BondCurveModule) (operatorIds : Finset ℤ) (block : ℤ) :
    Dict ℤ String :=
  (operatorIds.sort (· ≤ ·)).foldl (fun labels id =>
    labels.set id (m.nodeOperatorLabel id block)) .empty

/-- A curve for a chat, if the chat follows a node operator on it, `none` where it raises. -/
def renderCurve (operatorIdsByCurve : Dict ℤ (Finset ℤ)) (labels : Dict ℤ String)
    (chatOperatorIds : Finset ℤ) (curve : ℤ × Event) :
    Option (Option (ℤ × ℤ × List String)) :=
  let matching := ((operatorIdsByCurve.getD curve.1 ∅) ∩ chatOperatorIds).sort (· ≤ ·)
  if matching = [] then some none
  else do
    let weight ← weight curve.2
    let labels ← matching.mapM labels.get?
    return some (curve.1, weight, labels)

/-- The messages for a chat, `none` where it raises. -/
def render (m : BondCurveModule) (event : EventNotification) (eventsByCurveId : Dict ℤ Event)
    (operatorIdsByCurve : Dict ℤ (Finset ℤ)) (labels : Dict ℤ String)
    (nodeOperatorIds : Finset String) : Option (List String) := do
  let chatOperatorIds ← (m.operatorOrder.toList nodeOperatorIds).mapM int
  let curves ← eventsByCurveId.items.mapM
    (renderCurve operatorIdsByCurve labels chatOperatorIds.toFinset)
  let entries := curves.filterMap id
  if entries = [] then return []
  else return [m.bondCurveWeightSetMessage entries ++ m.blockRangeFooter event]

variable {m : BondCurveModule} {block : ℤ}

/-! ### The last event of a curve -/

/-- The last event of a curve. -/
def lastEvent (sourceEvents : List Event) (curve : ℤ) : Option Event :=
  sourceEvents.reverse.find? fun e => curveId e = some curve

/-- The last event of a curve is one of the events. -/
theorem mem_lastEvent {sourceEvents : List Event} {curve : ℤ} {e : Event}
    (h : lastEvent sourceEvents curve = some e) :
  e ∈ sourceEvents ∧ curveId e = some curve
  := by
  apply And.intro (List.mem_reverse.mp (List.mem_of_find?_eq_some h))
  have hcurve := List.find?_some h
  exact of_decide_eq_true hcurve

/-- A curve has a last event when it has an event. -/
theorem lastEvent_ne_none_iff {sourceEvents : List Event} {curve : ℤ} :
  lastEvent sourceEvents curve ≠ none ↔ ∃ e ∈ sourceEvents, curveId e = some curve
  := by
  rw [lastEvent, ne_eq, List.find?_eq_none]
  simp

/-- A node operator of the module. -/
def IsOperator (m : BondCurveModule) (block : ℤ) (id : ℤ) : Prop :=
  0 ≤ id ∧ id < m.getNodeOperatorsCount block

theorem IsOperator.isUint256 {id : ℤ} (h : m.IsOperator block id) :
  IsUint256 id
  := by
  apply And.intro h.1
  have hcount := m.nodeOperatorsCount_le block
  have hlt := h.2
  have hcast : (m.getNodeOperatorsCount block : ℤ) ≤ 2 ^ 256 := by exact_mod_cast hcount
  exact lt_of_lt_of_le hlt hcast

/-- The node operators on a curve are those whose curve it is. -/
theorem mem_nodeOperatorIdsForBondCurve {curve id : ℤ} :
  id ∈ m.nodeOperatorIdsForBondCurve curve block
    ↔ m.IsOperator block id ∧ m.getBondCurveId id block = curve
  := by
  rw [nodeOperatorIdsForBondCurve, Finset.mem_filter, List.mem_toFinset, List.mem_map]
  apply and_congr_left
  intro
  constructor
  · rintro ⟨k, hk, rfl⟩
    exact ⟨Int.natCast_nonneg k, Int.ofNat_lt.mpr (List.mem_range.mp hk)⟩
  · rintro ⟨hnonneg, hlt⟩
    obtain ⟨k, rfl⟩ := Int.eq_ofNat_of_zero_le hnonneg
    exact ⟨k, List.mem_range.mpr (by exact_mod_cast hlt), rfl⟩

/-- Each curve has its node operators, and a curve that does not occur has none. -/
theorem operatorIdsByCurve_eq (curves : List ℤ) :
  (∀ curve, ((m.operatorIdsByCurve curves block).1.getD curve ∅)
      = if curve ∈ curves then m.nodeOperatorIdsForBondCurve curve block else ∅)
    ∧ ∀ id, id ∈ (m.operatorIdsByCurve curves block).2
      ↔ m.IsOperator block id ∧ m.getBondCurveId id block ∈ curves
  := by
  induction curves using List.reverseRecOn with
  | nil => exact ⟨fun curve => rfl, fun id => iff_of_false (Finset.notMem_empty id) nofun⟩
  | append_singleton curves curve ih =>
      obtain ⟨hget, hall⟩ := ih
      rw [operatorIdsByCurve, List.foldl_append, List.foldl_cons, List.foldl_nil,
        ← operatorIdsByCurve]
      have hmem := @mem_nodeOperatorIdsForBondCurve m block curve
      by_cases hempty : m.nodeOperatorIdsForBondCurve curve block = ∅
      · simp only [hempty, if_true]
        constructor
        · intro curve'
          rw [hget]
          by_cases hcurve : curve' = curve
          · simp [hcurve, hempty]
          · simp [hcurve]
        · intro id
          have hnot : ¬ (m.IsOperator block id ∧ m.getBondCurveId id block = curve) := by
            rw [← hmem, hempty]
            apply Finset.notMem_empty
          rw [hall, List.mem_append, List.mem_singleton]
          tauto
      · simp only [hempty, if_false]
        constructor
        · intro curve'
          rw [Dict.getD, Dict.get?_set]
          by_cases hcurve : curve' = curve
          · simp [hcurve]
          · have hrest := hget curve'
            rw [Dict.getD] at hrest
            simp [hcurve, hrest]
        · intro id
          rw [Finset.mem_union, hall, hmem, List.mem_append, List.mem_singleton]
          tauto

/-- Each node operator has its label. -/
theorem get?_operatorLabels {ids : Finset ℤ} {id : ℤ} (h : id ∈ ids) :
  (m.operatorLabels ids block).get? id = some (m.nodeOperatorLabel id block)
  := by
  have hpairs : m.operatorLabels ids block
      = ((ids.sort (· ≤ ·)).map fun id => (id, m.nodeOperatorLabel id block)).foldl
          (fun labels pair => labels.set pair.1 pair.2) .empty := by
    rw [List.foldl_map]
    rfl
  rw [hpairs, Dict.get?_eq_some_iff, Dict.items_set_pairs]
  · exact List.mem_map.mpr ⟨id, (Finset.mem_sort _).mpr h, rfl⟩
  · rw [List.map_map]
    exact (List.map_id (ids.sort (· ≤ ·))).symm ▸ ids.sort_nodup (· ≤ ·)

/-! ### What is rendered for a chat -/

/-- A curve in a message, with its weight and the node operators on it. -/
structure WeightEntry where
  curveId : ℤ
  weight : ℤ
  nodeOperatorIds : List ℤ

/-- What a message shows of a curve. -/
def shown (m : BondCurveModule) (block : ℤ) (entry : WeightEntry) : ℤ × ℤ × List String :=
  (entry.curveId, entry.weight,
    entry.nodeOperatorIds.map fun id => m.nodeOperatorLabel id block)

/-- The curve of an event, if some of the node operators of a set are on it. -/
def entryOf (m : BondCurveModule) (block : ℤ) (chatOperatorIds : Finset ℤ) (curve : ℤ × Event) :
    Option WeightEntry :=
  let matching := m.nodeOperatorIdsForBondCurve curve.1 block ∩ chatOperatorIds
  if matching = ∅ then none
  else (weight curve.2).map fun weight => ⟨curve.1, weight, matching.sort (· ≤ ·)⟩

theorem entryOf_eq_some_iff {chatOperatorIds : Finset ℤ} {curve : ℤ × Event}
    {entry : WeightEntry} :
  m.entryOf block chatOperatorIds curve = some entry
    ↔ m.nodeOperatorIdsForBondCurve curve.1 block ∩ chatOperatorIds ≠ ∅
      ∧ ∃ w, weight curve.2 = some w ∧ entry = ⟨curve.1, w,
          (m.nodeOperatorIdsForBondCurve curve.1 block ∩ chatOperatorIds).sort (· ≤ ·)⟩
  := by
  rw [entryOf]
  split
  next hempty => exact iff_of_false nofun fun h => h.1 hempty
  next hne =>
      rw [Option.map_eq_some_iff]
      constructor
      · rintro ⟨w, hweight, rfl⟩
        exact ⟨hne, w, hweight, rfl⟩
      · rintro ⟨-, w, hweight, rfl⟩
        exact ⟨w, hweight, rfl⟩

/-- What is rendered for a curve. -/
theorem renderCurve_eq {operators : Dict ℤ (Finset ℤ)} {labels : Dict ℤ String}
    {chatOperatorIds : Finset ℤ} {curve : ℤ × Event}
    (hoperators : operators.getD curve.1 ∅ = m.nodeOperatorIdsForBondCurve curve.1 block)
    (hlabels : ∀ id ∈ chatOperatorIds, labels.get? id = some (m.nodeOperatorLabel id block))
    (hweight : weight curve.2 ≠ none) :
  renderCurve operators labels chatOperatorIds curve
    = some ((m.entryOf block chatOperatorIds curve).map (m.shown block))
  := by
  obtain ⟨value, hvalue⟩ := Option.ne_none_iff_exists'.mp hweight
  rw [renderCurve, entryOf, hoperators, hvalue]
  by_cases hempty : m.nodeOperatorIdsForBondCurve curve.1 block ∩ chatOperatorIds = ∅
  · simp [hempty]
  · have hsort : (m.nodeOperatorIdsForBondCurve curve.1 block ∩ chatOperatorIds).sort (· ≤ ·)
        ≠ [] := by
      rw [ne_eq, ← List.length_eq_zero_iff, Finset.length_sort, Finset.card_eq_zero]
      exact hempty
    have hmapM : ((m.nodeOperatorIdsForBondCurve curve.1 block ∩ chatOperatorIds).sort
          (· ≤ ·)).mapM labels.get?
        = some (((m.nodeOperatorIdsForBondCurve curve.1 block ∩ chatOperatorIds).sort
            (· ≤ ·)).map fun id => m.nodeOperatorLabel id block) := by
      rw [Loops.mapM_eq_some_iff, List.map_map]
      apply List.map_congr_left
      intro id hid
      exact hlabels id (Finset.mem_inter.mp ((Finset.mem_sort _).mp hid)).2
    simp only [hsort, hempty, if_false, hmapM, Option.bind_eq_bind, Option.bind_some]
    rfl

/-- The curves of a message join the events, the curves of the node operators and the node
operators of a chat. -/
structure IsJoin (m : BondCurveModule) (block : ℤ) (sourceEvents : List Event)
    (follows : ℤ → Prop) (entries : List WeightEntry) : Prop where
  nodup_curveId : (entries.map WeightEntry.curveId).Nodup
  nodup_nodeOperatorIds : (entries.flatMap WeightEntry.nodeOperatorIds).Nodup
  nonempty : ∀ entry ∈ entries, entry.nodeOperatorIds ≠ []
  mem_iff : ∀ curve w id,
    (∃ entry ∈ entries, entry.curveId = curve ∧ entry.weight = w ∧ id ∈ entry.nodeOperatorIds)
      ↔ m.IsOperator block id ∧ follows id ∧ m.getBondCurveId id block = curve
        ∧ ∃ e, lastEvent sourceEvents curve = some e ∧ weight e = some w

/-- The node operators of an entry are those of the set that are on its curve. -/
theorem mem_nodeOperatorIds_entryOf {chatOperatorIds : Finset ℤ} {curve : ℤ × Event}
    {entry : WeightEntry} (h : m.entryOf block chatOperatorIds curve = some entry) {id : ℤ} :
  id ∈ entry.nodeOperatorIds
    ↔ m.IsOperator block id ∧ m.getBondCurveId id block = curve.1 ∧ id ∈ chatOperatorIds
  := by
  obtain ⟨-, w, -, rfl⟩ := entryOf_eq_some_iff.mp h
  rw [Finset.mem_sort, Finset.mem_inter, mem_nodeOperatorIdsForBondCurve, and_assoc]

/-- The entries of the last events join them with the node operators. -/
theorem isJoin_entries {sourceEvents : List Event} {d : Dict ℤ Event}
    (hget : ∀ curve, d.get? curve = lastEvent sourceEvents curve) (chatOperatorIds : Finset ℤ) :
  IsJoin m block sourceEvents (· ∈ chatOperatorIds)
    (d.items.filterMap (m.entryOf block chatOperatorIds))
  := by
  have hitems : d.items.Pairwise fun item item' => item.1 ≠ item'.1 := List.pairwise_map.mp d.nodup
  constructor
  · rw [List.Nodup, List.pairwise_map]
    apply hitems.filterMap
    intro curve curve' hne entry hentry entry' hentry'
    obtain ⟨-, w, -, rfl⟩ := entryOf_eq_some_iff.mp hentry
    obtain ⟨-, w', -, rfl⟩ := entryOf_eq_some_iff.mp hentry'
    exact hne
  · rw [List.nodup_flatMap]
    constructor
    · intro entry hmem
      obtain ⟨curve, -, hentry⟩ := List.mem_filterMap.mp hmem
      obtain ⟨-, w, -, rfl⟩ := entryOf_eq_some_iff.mp hentry
      exact Finset.sort_nodup (m.nodeOperatorIdsForBondCurve curve.1 block ∩ chatOperatorIds)
        (· ≤ ·)
    · apply hitems.filterMap
      intro curve curve' hne entry hentry entry' hentry' id hid hid'
      have hcurve := ((mem_nodeOperatorIds_entryOf hentry).mp hid).2.1
      have hcurve' := ((mem_nodeOperatorIds_entryOf hentry').mp hid').2.1
      exact hne (hcurve.symm.trans hcurve')
  · intro entry hmem
    obtain ⟨curve, -, hentry⟩ := List.mem_filterMap.mp hmem
    obtain ⟨hne, w, -, rfl⟩ := entryOf_eq_some_iff.mp hentry
    rw [ne_eq, ← List.length_eq_zero_iff, Finset.length_sort, Finset.card_eq_zero]
    exact hne
  · intro curve w id
    constructor
    · rintro ⟨entry, hmem, rfl, rfl, hid⟩
      obtain ⟨item, hitem, hentry⟩ := List.mem_filterMap.mp hmem
      obtain ⟨hoperator, hcurve, hchat⟩ := (mem_nodeOperatorIds_entryOf hentry).mp hid
      obtain ⟨-, w, hweight, rfl⟩ := entryOf_eq_some_iff.mp hentry
      refine ⟨hoperator, hchat, hcurve, item.2, ?_, hweight⟩
      rw [← hget]
      exact Dict.get?_eq_some_iff.mpr hitem
    · rintro ⟨hoperator, hchat, hcurve, e, hlast, hweight⟩
      rw [← hget] at hlast
      have hmatching : id ∈ m.nodeOperatorIdsForBondCurve curve block ∩ chatOperatorIds :=
        Finset.mem_inter.mpr ⟨mem_nodeOperatorIdsForBondCurve.mpr ⟨hoperator, hcurve⟩, hchat⟩
      have hentry := (@entryOf_eq_some_iff m block chatOperatorIds (curve, e) _).mpr
        ⟨Finset.ne_empty_of_mem hmatching, w, hweight, rfl⟩
      exact ⟨_, List.mem_filterMap.mpr ⟨(curve, e), Dict.get?_eq_some_iff.mp hlast, hentry⟩,
        rfl, rfl, (Finset.mem_sort _).mpr hmatching⟩

/-- The message about some curves. -/
def message (m : BondCurveModule) (event : EventNotification) (entries : List WeightEntry) :
    String :=
  m.bondCurveWeightSetMessage (entries.map (m.shown event.primaryEvent.block))
    ++ m.blockRangeFooter event

/-! ### The plan for a notification -/

/-- A node operator on a curve of some events. -/
def Affected (m : BondCurveModule) (block : ℤ) (sourceEvents : List Event) (id : ℤ) : Prop :=
  m.IsOperator block id ∧ ∃ e ∈ sourceEvents, curveId e = some (m.getBondCurveId id block)

/-- The curves and the weights of some events can be read. -/
def Readable (sourceEvents : List Event) : Prop :=
  ∀ e ∈ sourceEvents, curveId e ≠ none ∧ weight e ≠ none

variable {event : EventNotification} {d : Dict ℤ Event}

/-- The node operators of the curves are those that are affected. -/
theorem mem_operatorIdsByCurve (hget : ∀ curve, d.get? curve = lastEvent event.sourceEvents curve)
    {id : ℤ} :
  id ∈ (m.operatorIdsByCurve d.keys block).2 ↔ m.Affected block event.sourceEvents id
  := by
  have hkeys : ∀ curve, curve ∈ d.keys ↔ ∃ e ∈ event.sourceEvents, curveId e = some curve := by
    intro curve
    rw [Dict.mem_keys_iff, hget, lastEvent_ne_none_iff]
  rw [(operatorIdsByCurve_eq d.keys).2, hkeys, Affected]

/-- Only which of the affected node operators are followed counts. -/
theorem IsJoin.congr {sourceEvents : List Event} {follows follows' : ℤ → Prop}
    {entries : List WeightEntry} (h : IsJoin m block sourceEvents follows entries)
    (hfollows : ∀ id, m.Affected block sourceEvents id → (follows id ↔ follows' id)) :
  IsJoin m block sourceEvents follows' entries
  := by
  refine ⟨h.nodup_curveId, h.nodup_nodeOperatorIds, h.nonempty, ?_⟩
  intro curve w id
  rw [h.mem_iff]
  apply and_congr_right
  intro hoperator
  apply and_congr_left
  rintro ⟨rfl, e, hlast, -⟩
  apply hfollows
  apply And.intro hoperator (lastEvent_ne_none_iff.mp _)
  rw [hlast]
  nofun

/-- What is rendered for node operators that are affected, from their texts. -/
theorem render_eq (hread : Readable event.sourceEvents)
    (hget : ∀ curve, d.get? curve = lastEvent event.sourceEvents curve) {texts : Finset String}
    (htexts : texts ⊆ (m.operatorIdsByCurve d.keys event.primaryEvent.block).2.image toString) :
  ∃ entries, IsJoin m event.primaryEvent.block event.sourceEvents
      (fun id => toString id ∈ texts) entries
    ∧ m.render event d (m.operatorIdsByCurve d.keys event.primaryEvent.block).1
        (m.operatorLabels (m.operatorIdsByCurve d.keys event.primaryEvent.block).2
          event.primaryEvent.block) texts
      = some (if entries = [] then [] else [m.message event entries])
  := by
  have hmem := fun id => @mem_operatorIdsByCurve m event.primaryEvent.block event d hget id
  obtain ⟨ids, hids, -, hread'⟩ := exists_mapM_int m.operatorOrder
    (fun id hid => ((hmem id).mp hid).1.isUint256) htexts
  have hchat : ∀ id, id ∈ ids.toFinset
      ↔ m.Affected event.primaryEvent.block event.sourceEvents id ∧ toString id ∈ texts := by
    intro id
    rw [List.mem_toFinset, hread', hmem]
  have hcurves : d.items.mapM (renderCurve (m.operatorIdsByCurve d.keys
        event.primaryEvent.block).1 (m.operatorLabels (m.operatorIdsByCurve d.keys
        event.primaryEvent.block).2 event.primaryEvent.block) ids.toFinset)
      = some (d.items.map fun curve => (m.entryOf event.primaryEvent.block ids.toFinset curve).map
          (m.shown event.primaryEvent.block)) := by
    rw [Loops.mapM_eq_some_iff, List.map_map]
    apply List.map_congr_left
    intro curve hcurve
    apply renderCurve_eq
    · have hkey : curve.1 ∈ d.keys := List.mem_map_of_mem hcurve
      rw [(operatorIdsByCurve_eq d.keys).1, if_pos hkey]
    · intro id hid
      exact get?_operatorLabels ((hmem id).mpr ((hchat id).mp hid).1)
    · have hlast := Dict.get?_eq_some_iff.mpr hcurve
      rw [hget] at hlast
      exact (hread _ (mem_lastEvent hlast).1).2
  have hjoin := (@isJoin_entries m event.primaryEvent.block _ d hget ids.toFinset).congr
    fun id haffected => (hchat id).trans (and_iff_right haffected)
  refine ⟨_, hjoin, ?_⟩
  rw [render, hids]
  simp only [Option.bind_eq_bind, Option.bind_some, hcurves, List.filterMap_map]
  have hentries : d.items.filterMap (id ∘ fun curve =>
        (m.entryOf event.primaryEvent.block ids.toFinset curve).map
          (m.shown event.primaryEvent.block))
      = (d.items.filterMap (m.entryOf event.primaryEvent.block ids.toFinset)).map
          (m.shown event.primaryEvent.block) := by
    rw [List.map_filterMap]
    rfl
  rw [hentries]
  simp only [List.map_eq_nil_iff]
  split <;> rfl

end BondCurveModule

end Sentinel
