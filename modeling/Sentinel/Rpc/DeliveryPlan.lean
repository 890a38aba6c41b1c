import Sentinel.Rpc.Delivery

/-!
# The deliveries of a range of blocks

The batches of a range of blocks are contiguous. Passing the events of each batch and then its
last block to the consumers passes on every event of the range once, in chain order, and no
block before the events up to it.
-/

namespace Sentinel

namespace Backfill

variable {τ ι δ κ : Type} [DecidableEq τ] (b : Backfill τ ι δ κ)

/-- An item is passed to each of its consumers. -/
def passed (live : Bool) (item : SubscriptionItem) : List (Delivery κ) :=
  (ReplayCall.consumersOf b item).map fun k => ⟨k, item, live⟩

/-- The events of a batch in chain order. -/
def batchEvents (batch : ℕ × ℕ) : List Event :=
  sortBy Event.chainPosition (b.eventsIn batch.1 batch.2)

/-- The events of a batch are passed to the event consumers, its last block then to the block
consumers. -/
def batchDeliveries (batch : ℕ × ℕ) : List (Delivery κ) :=
  (b.batchEvents batch).flatMap (fun e => b.passed false (.event e))
    ++ b.passed false (.block ⟨batch.2⟩)

/-- The batches of a range of blocks. -/
def batches (startBlock endBlock : ℕ) : List (ℕ × ℕ) :=
  (steps startBlock (endBlock + 1) b.batchSize).map fun batchStart =>
    (batchStart, min (batchStart + b.batchSize - 1) endBlock)

omit [DecidableEq τ] in
/-- The first batch of a range that is not empty. -/
theorem batches_of_le {startBlock endBlock : ℕ} (h : startBlock ≤ endBlock) :
  b.batches startBlock endBlock
    = (startBlock, min (startBlock + b.batchSize - 1) endBlock)
      :: b.batches (startBlock + b.batchSize) endBlock
  := by
  have hsize := b.batchSize_pos
  rw [batches, steps, dif_pos (by omega), List.map_cons]
  rfl

omit [DecidableEq τ] in
/-- An empty range has no batch. -/
theorem batches_of_lt {startBlock endBlock : ℕ} (h : endBlock < startBlock) :
  b.batches startBlock endBlock = []
  := by
  rw [batches, steps, dif_neg (by omega)]
  rfl

/-! ### Contiguous batches -/

/-- The batches follow each other from a block on. -/
def Contiguous : ℕ → List (ℕ × ℕ) → Prop
  | _, [] => True
  | startBlock, batch :: l =>
      batch.1 = startBlock ∧ batch.1 ≤ batch.2 ∧ Contiguous (batch.2 + 1) l

theorem Contiguous.of_isPrefix {startBlock : ℕ} {l l' : List (ℕ × ℕ)} (h : l <+: l')
    (hl' : Contiguous startBlock l') :
  Contiguous startBlock l
  := by
  induction l generalizing startBlock l' with
  | nil => trivial
  | cons batch l ih =>
      obtain ⟨rest, rfl⟩ := h
      obtain ⟨hfirst, hle, hrest⟩ := hl'
      use hfirst, hle
      apply ih (List.prefix_append l rest) hrest

/-- Every batch is after the block from which on the batches follow each other. -/
theorem Contiguous.le_fst {startBlock : ℕ} {l : List (ℕ × ℕ)} (h : Contiguous startBlock l)
    {batch : ℕ × ℕ} (hmem : batch ∈ l) :
  startBlock ≤ batch.1 ∧ batch.1 ≤ batch.2
  := by
  induction l generalizing startBlock with
  | nil => cases hmem
  | cons batch' l ih =>
      obtain ⟨hfirst, hle, hrest⟩ := h
      obtain rfl | hmem := List.mem_cons.mp hmem
      · use hfirst.ge, hle
      · have := ih hrest hmem
        omega

omit [DecidableEq τ] in
/-- The first batch of a range that is not empty is followed by the batches of the blocks after
it. -/
theorem exists_batches_eq_cons {startBlock endBlock : ℕ} (h : startBlock ≤ endBlock) :
  ∃ last, startBlock ≤ last ∧ last ≤ endBlock ∧ last < startBlock + b.batchSize ∧
    b.batches startBlock endBlock = (startBlock, last) :: b.batches (last + 1) endBlock
  := by
  have hsize := b.batchSize_pos
  use min (startBlock + b.batchSize - 1) endBlock
  refine ⟨by omega, by omega, by omega, ?_⟩
  rw [b.batches_of_le h]
  by_cases hlast : startBlock + b.batchSize ≤ endBlock
  · rw [show min (startBlock + b.batchSize - 1) endBlock + 1 = startBlock + b.batchSize by omega]
  · -- this batch is the last one
    have hnext : endBlock < startBlock + b.batchSize := by omega
    rw [b.batches_of_lt hnext, b.batches_of_lt (by omega)]

omit [DecidableEq τ] in
/-- Induction on the batches of a range. -/
theorem batches_induction {motive : ℕ → List (ℕ × ℕ) → Prop} (endBlock : ℕ)
    (hnil : ∀ startBlock, endBlock < startBlock → motive startBlock [])
    (hcons : ∀ startBlock last l, startBlock ≤ last → last ≤ endBlock →
      last < startBlock + b.batchSize → l = b.batches (last + 1) endBlock →
      motive (last + 1) l → motive startBlock ((startBlock, last) :: l))
    (startBlock : ℕ) :
  motive startBlock (b.batches startBlock endBlock)
  := by
  induction hn : endBlock + 1 - startBlock using Nat.strong_induction_on
    generalizing startBlock with
  | _ n ih =>
      by_cases hle : startBlock ≤ endBlock
      · obtain ⟨last, hstart, hend, hsize, heq⟩ := b.exists_batches_eq_cons hle
        rw [heq]
        apply hcons startBlock last _ hstart hend hsize rfl
        apply ih (endBlock + 1 - (last + 1)) (by omega) (last + 1) rfl
      · rw [b.batches_of_lt (by omega)]
        apply hnil startBlock (by omega)

omit [DecidableEq τ] in
/-- The batches of a range are contiguous. -/
theorem contiguous_batches (startBlock endBlock : ℕ) :
  Contiguous startBlock (b.batches startBlock endBlock)
  := by
  apply b.batches_induction (motive := fun startBlock l => Contiguous startBlock l) endBlock
  · intro _ _
    trivial
  · intro startBlock last l hle _ _ _ ih
    use rfl, hle

omit [DecidableEq τ] in
/-- The batches of a range are within the range and of at most the batch size. -/
theorem mem_batches {startBlock endBlock : ℕ} :
  ∀ batch ∈ b.batches startBlock endBlock,
    batch.2 ≤ endBlock ∧ batch.2 < batch.1 + b.batchSize
  := by
  apply b.batches_induction (motive := fun _ l => ∀ batch ∈ l,
    batch.2 ≤ endBlock ∧ batch.2 < batch.1 + b.batchSize) endBlock
  · nofun
  · intro startBlock last l _ hend hsize _ ih
    rw [List.forall_mem_cons]
    use ⟨hend, hsize⟩

omit [DecidableEq τ] in
/-- The last batch of a range ends where the range ends. -/
theorem getLast?_batches {startBlock endBlock : ℕ} (h : startBlock ≤ endBlock) :
  (b.batches startBlock endBlock).getLast?.map Prod.snd = some endBlock
  := by
  revert h
  apply b.batches_induction (motive := fun startBlock l => startBlock ≤ endBlock →
    l.getLast?.map Prod.snd = some endBlock) endBlock
  · intro startBlock hlt hle
    omega
  · intro startBlock last l _ hend _ hl ih _
    by_cases hlast : last + 1 ≤ endBlock
    · obtain ⟨last', -, -, -, heq⟩ := b.exists_batches_eq_cons hlast
      rw [hl, heq] at ih ⊢
      rw [List.getLast?_cons_cons]
      apply ih hlast
    · rw [hl, b.batches_of_lt (by omega)]
      simp
      omega

/-! ### The events of a range -/

theorem mem_batchEvents {batch : ℕ × ℕ} {e : Event} :
  e ∈ b.batchEvents batch ↔ e ∈ b.events ∧ batch.1 ≤ e.block ∧ e.block ≤ batch.2
  := by
  rw [batchEvents, mem_sortBy, eventsIn, List.mem_filter, decide_eq_true_eq]

/-- The events of a range are those up to a block and those after it. -/
theorem eventsIn_perm {startBlock last endBlock : ℕ} (hle : startBlock ≤ last)
    (hend : last ≤ endBlock) :
  (b.eventsIn startBlock last ++ b.eventsIn (last + 1) endBlock).Perm
    (b.eventsIn startBlock endBlock)
  := by
  apply List.Perm.trans _ (List.filter_append_perm (fun e => decide (e.block ≤ last)) _)
  rw [eventsIn, eventsIn, eventsIn, List.filter_filter, List.filter_filter]
  apply List.Perm.of_eq
  congr 1 <;>
  · apply List.filter_congr
    intro e _
    apply Bool.eq_iff_iff.mpr
    simp only [decide_eq_true_eq, Bool.and_eq_true, Bool.not_eq_true',
      decide_eq_false_iff_not]
    omega

/-- The batches of a range have the events of the range. -/
theorem flatMap_batchEvents_perm (startBlock endBlock : ℕ) :
  ((b.batches startBlock endBlock).flatMap b.batchEvents).Perm (b.eventsIn startBlock endBlock)
  := by
  apply b.batches_induction (motive := fun startBlock l =>
    (l.flatMap b.batchEvents).Perm (b.eventsIn startBlock endBlock)) endBlock
  · intro startBlock hlt
    rw [eventsIn, List.filter_eq_nil_iff.mpr]
    · apply List.Perm.nil
    · intro e _
      rw [decide_eq_true_eq]
      omega
  · intro startBlock last l hle hend _ _ ih
    rw [List.flatMap_cons]
    apply List.Perm.trans _ (b.eventsIn_perm hle hend)
    apply (sortBy_perm _ _).append ih

/-- An event of an earlier block is earlier on the chain. -/
theorem chainPosition_lt {e e' : Event} (h : e.block < e'.block) :
  e.chainPosition < e'.chainPosition
  := by
  rw [Event.chainPosition, Event.chainPosition, Prod.Lex.toLex_lt_toLex]
  left
  apply h

/-- The events of contiguous batches are in chain order. -/
theorem orderedBy_flatMap_batchEvents {startBlock : ℕ} {l : List (ℕ × ℕ)}
    (h : Contiguous startBlock l) :
  OrderedBy Event.chainPosition (l.flatMap b.batchEvents)
  := by
  induction l generalizing startBlock with
  | nil => apply List.Pairwise.nil
  | cons batch l ih =>
      obtain ⟨-, -, hrest⟩ := h
      rw [List.flatMap_cons]
      apply List.pairwise_append.mpr
      use orderedBy_sortBy _ _, ih hrest
      intro e he e' he'
      obtain ⟨batch', hbatch', he'⟩ := List.mem_flatMap.mp he'
      have hlater := hrest.le_fst hbatch'
      have hblock := (b.mem_batchEvents.mp he).2
      have hblock' := (b.mem_batchEvents.mp he').2
      apply (chainPosition_lt (by omega)).le

/-! ### What the consumers are passed -/

/-- The events that a consumer is passed. -/
def handedTo [DecidableEq κ] (k : κ) (deliveries : List (Delivery κ)) : List Event :=
  deliveries.filterMap fun d =>
    match d.item with
    | .event e => if d.consumer = k then some e else none
    | .block _ => none

/-- The blocks that a consumer is passed. -/
def markersTo [DecidableEq κ] (k : κ) (deliveries : List (Delivery κ)) : List ℕ :=
  deliveries.filterMap fun d =>
    match d.item with
    | .event _ => none
    | .block block => if d.consumer = k then some block.number else none

omit [DecidableEq τ] in
theorem mem_passed {live : Bool} {item : SubscriptionItem} {d : Delivery κ} :
  d ∈ b.passed live item ↔ d.consumer ∈ ReplayCall.consumersOf b item ∧ d.item = item ∧
    d.live = live
  := by
  rw [passed, List.mem_map]
  constructor
  · rintro ⟨k, hk, rfl⟩
    use hk, rfl
  · rintro ⟨hk, rfl, rfl⟩
    use d.consumer, hk

/-- Of a list without repetition, the one member that a consumer is. -/
theorem filterMap_consumer [DecidableEq κ] {α : Type} {l : List κ} (h : l.Nodup) (k : κ) (a : α) :
  (l.filterMap fun k' => if k' = k then some a else none) = if k ∈ l then [a] else []
  := by
  induction l with
  | nil => rfl
  | cons k' l ih =>
      obtain ⟨hnew, hl⟩ := List.nodup_cons.mp h
      by_cases heq : k' = k
      · subst heq
        simp [ih hl, hnew]
      · simp [heq, ih hl, Ne.symm heq]

section Handed

variable [DecidableEq κ]

omit [DecidableEq τ] in
theorem handedTo_passed_event (k : κ) (live : Bool) (e : Event) :
  handedTo k (b.passed live (.event e)) = if k ∈ b.eventConsumers then [e] else []
  := by
  rw [handedTo, passed, List.filterMap_map]
  apply filterMap_consumer b.nodup_eventConsumers

omit [DecidableEq τ] in
theorem handedTo_passed_block (k : κ) (live : Bool) (block : Block) :
  handedTo k (b.passed live (.block block)) = []
  := by
  rw [handedTo, passed, List.filterMap_map]
  simp

omit [DecidableEq τ] in
theorem markersTo_passed_block (k : κ) (live : Bool) (block : Block) :
  markersTo k (b.passed live (.block block))
    = if k ∈ b.blockConsumers then [block.number] else []
  := by
  rw [markersTo, passed, List.filterMap_map]
  apply filterMap_consumer b.nodup_blockConsumers

omit [DecidableEq τ] in
theorem markersTo_passed_event (k : κ) (live : Bool) (e : Event) :
  markersTo k (b.passed live (.event e)) = []
  := by
  rw [markersTo, passed, List.filterMap_map]
  simp

/-- An event consumer is passed the events of a batch, another consumer is passed no event. -/
theorem handedTo_batchDeliveries (k : κ) (batch : ℕ × ℕ) :
  handedTo k (b.batchDeliveries batch) = if k ∈ b.eventConsumers then b.batchEvents batch else []
  := by
  have hevents : handedTo k ((b.batchEvents batch).flatMap fun e => b.passed false (.event e))
      = if k ∈ b.eventConsumers then b.batchEvents batch else [] := by
    rw [handedTo, List.filterMap_flatMap]
    change ((b.batchEvents batch).flatMap fun e => handedTo k (b.passed false (.event e))) = _
    simp only [handedTo_passed_event]
    split
    · apply List.flatMap_singleton'
    · simp
  have hblock := b.handedTo_passed_block k false ⟨batch.2⟩
  rw [handedTo] at hevents hblock ⊢
  rw [batchDeliveries, List.filterMap_append, hevents, hblock, List.append_nil]

/-- A block consumer is passed the last block of a batch, another consumer is passed no block. -/
theorem markersTo_batchDeliveries (k : κ) (batch : ℕ × ℕ) :
  markersTo k (b.batchDeliveries batch) = if k ∈ b.blockConsumers then [batch.2] else []
  := by
  have hevents : markersTo k ((b.batchEvents batch).flatMap fun e => b.passed false (.event e))
      = [] := by
    rw [markersTo, List.filterMap_flatMap]
    change ((b.batchEvents batch).flatMap fun e => markersTo k (b.passed false (.event e))) = _
    simp only [markersTo_passed_event]
    simp
  have hblock := b.markersTo_passed_block k false ⟨batch.2⟩
  rw [markersTo] at hevents hblock ⊢
  rw [batchDeliveries, List.filterMap_append, hevents, hblock, List.nil_append]

/-- An event consumer is passed the events of the batches, another consumer is passed no
event. -/
theorem handedTo_batches (k : κ) (l : List (ℕ × ℕ)) :
  handedTo k (l.flatMap b.batchDeliveries)
    = if k ∈ b.eventConsumers then l.flatMap b.batchEvents else []
  := by
  rw [handedTo, List.filterMap_flatMap]
  change (l.flatMap fun batch => handedTo k (b.batchDeliveries batch)) = _
  simp only [handedTo_batchDeliveries]
  split
  · rfl
  · simp

/-- A block consumer is passed the last blocks of the batches. -/
theorem markersTo_batches {k : κ} (hk : k ∈ b.blockConsumers) (l : List (ℕ × ℕ)) :
  markersTo k (l.flatMap b.batchDeliveries) = l.map Prod.snd
  := by
  rw [markersTo, List.filterMap_flatMap]
  change (l.flatMap fun batch => markersTo k (b.batchDeliveries batch)) = _
  simp only [markersTo_batchDeliveries, if_pos hk]
  apply (List.map_eq_flatMap).symm

end Handed

/-- What precedes an occurrence of something that is not in the first part of a list. -/
theorem exists_of_append_eq_append {α : Type} {before after l l' : List α} {a : α} (ha : a ∉ l)
    (h : before ++ a :: after = l ++ l') :
  ∃ before', before = l ++ before' ∧ before' ++ a :: after = l'
  := by
  obtain ⟨rest, hl, hafter⟩ | ⟨rest, hbefore, hl'⟩ := List.append_eq_append_iff.mp h
  · cases rest with
    | nil =>
        rw [List.append_nil] at hl
        use []
        rw [hl, List.append_nil]
        use rfl, hafter
    | cons a' rest =>
        obtain rfl := (List.cons.inj hafter).1
        apply absurd _ ha
        simp [hl]
  · use rest, hbefore, hl'.symm

/-- What comes before a block that is passed to a consumer: the events up to the block were
passed to every event consumer. -/
theorem events_before_marker {startBlock : ℕ} {l : List (ℕ × ℕ)} (hl : Contiguous startBlock l)
    {before after : List (Delivery κ)} {d : Delivery κ} {block : Block}
    (hd : d.item = .block block) (h : before ++ d :: after = l.flatMap b.batchDeliveries) :
  (∃ batch ∈ l, batch.2 = block.number) ∧
    ∀ e ∈ b.events, startBlock ≤ e.block → e.block ≤ block.number →
      ∀ d ∈ b.passed false (.event e), d ∈ before
  := by
  induction l generalizing startBlock before with
  | nil => simp at h
  | cons batch l ih =>
      obtain ⟨hfirst, hle, hrest⟩ := hl
      rw [List.flatMap_cons, batchDeliveries, List.append_assoc] at h
      -- the events of the batch come first, and the block is none of them
      have hnone : d ∉ (b.batchEvents batch).flatMap fun e => b.passed false (.event e) := by
        rw [List.mem_flatMap]
        rintro ⟨e, -, hmem⟩
        cases hd.symm.trans (b.mem_passed.mp hmem).2.1
      have hbatch : ∀ e ∈ b.events, startBlock ≤ e.block → e.block ≤ batch.2 →
          ∀ d ∈ b.passed false (.event e),
            d ∈ (b.batchEvents batch).flatMap fun e => b.passed false (.event e) := by
        intro e he hstart hlast d hmem
        apply List.mem_flatMap.mpr
        use e, b.mem_batchEvents.mpr ⟨he, hfirst.le.trans hstart, hlast⟩
      obtain ⟨before', rfl, hblock⟩ := exists_of_append_eq_append hnone h
      by_cases hnumber : batch.2 = block.number
      · constructor
        · use batch, List.mem_cons_self
        · intro e he hstart hlast d hmem
          apply List.mem_append_left
          apply hbatch e he hstart (hlast.trans hnumber.ge) d hmem
      · have hother : d ∉ b.passed false (.block ⟨batch.2⟩) := by
          intro hmem
          obtain rfl := SubscriptionItem.block.inj (hd.symm.trans (b.mem_passed.mp hmem).2.1)
          apply hnumber rfl
        obtain ⟨before, rfl, hlater⟩ := exists_of_append_eq_append hother hblock
        obtain ⟨⟨batch', hbatch', hlast'⟩, hevents⟩ := ih hrest hlater
        constructor
        · use batch', List.mem_cons_of_mem _ hbatch'
        · intro e he hstart hlast d hmem
          by_cases hnow : e.block ≤ batch.2
          · apply List.mem_append_left
            apply hbatch e he hstart hnow d hmem
          · apply List.mem_append_right
            apply List.mem_append_right
            apply hevents e he (by omega) hlast d hmem

/-! ### Chain order -/

/-- An item of an earlier block is earlier. -/
theorem sortKey_lt {item item' : SubscriptionItem} (h : item.blockNumber < item'.blockNumber) :
  item.sortKey < item'.sortKey
  := by
  cases item <;> cases item' <;>
  · simp only [SubscriptionItem.sortKey, Prod.Lex.toLex_lt_toLex]
    left
    apply h

/-- Events in chain order are in the order of the items. -/
theorem sortKey_event_le {e e' : Event} (h : e.chainPosition ≤ e'.chainPosition) :
  (SubscriptionItem.event e).sortKey ≤ (SubscriptionItem.event e').sortKey
  := by
  simp only [Event.chainPosition, SubscriptionItem.sortKey, Prod.Lex.toLex_le_toLex, lt_irrefl,
    true_and, false_or] at h ⊢
  apply h

/-- An event up to a block is before the completion of the block. -/
theorem sortKey_event_le_block {e : Event} {block : Block} (h : e.block ≤ block.number) :
  (SubscriptionItem.event e).sortKey ≤ (SubscriptionItem.block block).sortKey
  := by
  simp only [SubscriptionItem.sortKey, Prod.Lex.toLex_le_toLex]
  omega

omit [DecidableEq τ] in
/-- Passing ordered items to their consumers. -/
theorem orderedBy_flatMap_passed {live : Bool} {items : List SubscriptionItem}
    (h : OrderedBy SubscriptionItem.sortKey items) :
  OrderedBy (fun d => d.item.sortKey) (items.flatMap (b.passed live))
  := by
  apply List.pairwise_flatMap.mpr
  constructor
  · intro item _
    apply List.pairwise_of_forall_mem_list
    intro d hd d' hd'
    beta_reduce
    rw [(b.mem_passed.mp hd).2.1, (b.mem_passed.mp hd').2.1]
  · apply h.imp
    intro item item' hle d hd d' hd'
    beta_reduce
    rw [(b.mem_passed.mp hd).2.1, (b.mem_passed.mp hd').2.1]
    apply hle

/-- What is passed on of a batch is of a block of the batch. -/
theorem block_of_mem_batchDeliveries {batch : ℕ × ℕ} (hle : batch.1 ≤ batch.2)
    {d : Delivery κ} (h : d ∈ b.batchDeliveries batch) :
  batch.1 ≤ d.item.blockNumber ∧ d.item.blockNumber ≤ batch.2
  := by
  rw [batchDeliveries, List.mem_append, List.mem_flatMap] at h
  obtain ⟨e, he, hmem⟩ | hmem := h
  · rw [(b.mem_passed.mp hmem).2.1]
    apply (b.mem_batchEvents.mp he).2
  · rw [(b.mem_passed.mp hmem).2.1]
    use hle
    apply le_refl

/-- What is passed on of a batch is in chain order. -/
theorem orderedBy_batch (batch : ℕ × ℕ) :
  OrderedBy (fun d => d.item.sortKey) (b.batchDeliveries batch)
  := by
  have hitems : b.batchDeliveries batch
      = ((b.batchEvents batch).map SubscriptionItem.event
          ++ [SubscriptionItem.block ⟨batch.2⟩]).flatMap (b.passed false) := by
    rw [batchDeliveries, List.flatMap_append, List.flatMap_map, List.flatMap_singleton]
  rw [hitems]
  apply b.orderedBy_flatMap_passed
  apply List.pairwise_append.mpr
  refine ⟨?_, List.pairwise_singleton _ _, ?_⟩
  · apply List.pairwise_map.mpr
    apply (orderedBy_sortBy _ _).imp
    apply sortKey_event_le
  · intro item hitem block hblock
    obtain ⟨e, he, rfl⟩ := List.mem_map.mp hitem
    rw [List.mem_singleton.mp hblock]
    apply sortKey_event_le_block (b.mem_batchEvents.mp he).2.2

/-- What is passed on of contiguous batches is in chain order. -/
theorem orderedBy_batchDeliveries {startBlock : ℕ} {l : List (ℕ × ℕ)}
    (h : Contiguous startBlock l) :
  OrderedBy (fun d => d.item.sortKey) (l.flatMap b.batchDeliveries)
  := by
  induction l generalizing startBlock with
  | nil => apply List.Pairwise.nil
  | cons batch l ih =>
      obtain ⟨-, hle, hrest⟩ := h
      rw [List.flatMap_cons]
      apply List.pairwise_append.mpr
      use b.orderedBy_batch batch, ih hrest
      intro d hd d' hd'
      obtain ⟨batch', hbatch', hd'⟩ := List.mem_flatMap.mp hd'
      obtain ⟨hfirst', hle'⟩ := hrest.le_fst hbatch'
      have hblock := b.block_of_mem_batchDeliveries hle hd
      have hblock' := b.block_of_mem_batchDeliveries hle' hd'
      apply (sortKey_lt (by omega)).le

end Backfill

end Sentinel
