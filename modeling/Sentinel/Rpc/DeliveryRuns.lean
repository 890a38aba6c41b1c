import Sentinel.Rpc.DeliveryOrder

/-!
# Runs of a replay

However a call of `replay_blocks` is interrupted, the blocks that the block consumers were passed
were completed before. A call that returns without a shutdown has passed on the events of the
range and then every live item of a later block once.
-/

namespace Sentinel

namespace ReplayCall

open Transition

variable {τ ι δ κ : Type} [DecidableEq τ] {b : Backfill τ ι δ κ} {c : ReplayCall κ}

/-- Every state of a call on a range whose end is given keeps the account. -/
theorem accounts_of_reaches {s : Subscription} {startBlock endBlock : ℕ} (hend : 1 ≤ endBlock)
    {suppressLiveEventsUntil : Option ℕ}
    (hc : Reaches (step b) (fun _ _ => True)
      (start κ s startBlock endBlock suppressLiveEventsUntil) c) :
  c.OwnsBuffer ∧ c.Accounts b startBlock endBlock
  := by
  apply hc.invariant (I := fun c => c.OwnsBuffer ∧ c.Accounts b startBlock endBlock)
  · rintro c action c' ⟨hown, haccounts⟩ _ hstep
    have hmoves := moves_of_step hstep
    use ownsBuffer_of_moves hmoves hown
    apply accounts_of_moves hend hmoves hown haccounts
  · use ownsBuffer_start _ _ _ _
    apply accounts_start

/-! ### Interrupted replays -/

/-- What was passed on of the replayed blocks. -/
def replayed (c : ReplayCall κ) : List (Delivery κ) :=
  c.deliveries.filter fun d => !d.live

/-- What is passed on of a batch was not received live. -/
theorem live_of_mem_batchDeliveries {batch : ℕ × ℕ} {d : Delivery κ}
    (h : d ∈ b.batchDeliveries batch) :
  d.live = false
  := by
  rw [Backfill.batchDeliveries, List.mem_append, List.mem_flatMap] at h
  obtain ⟨e, -, hmem⟩ | hmem := h
  · apply (b.mem_passed.mp hmem).2.2
  · apply (b.mem_passed.mp hmem).2.2

/-- What was passed on of the replayed blocks is a part from the start of what is passed on of
the requested batches. -/
theorem Accounts.replayed_prefix {startBlock endBlock : ℕ} (h : c.Accounts b startBlock endBlock) :
  c.replayed <+: c.fetched.flatMap b.batchDeliveries
  := by
  obtain ⟨todo, passes, hdelivered, -⟩ := h.deliveries
  use todo.filter fun d => !d.live
  rw [replayed, ← List.filter_append, hdelivered, List.filter_append]
  have hreplayed : (c.fetched.flatMap b.batchDeliveries).filter (fun d => !d.live)
      = c.fetched.flatMap b.batchDeliveries := by
    apply List.filter_eq_self.mpr
    intro d hd
    obtain ⟨batch, -, hd⟩ := List.mem_flatMap.mp hd
    simp [live_of_mem_batchDeliveries hd]
  have hlive : (passes.flatMap (b.passed true)).filter (fun d => !d.live) = [] := by
    apply List.filter_eq_nil_iff.mpr
    intro d hd
    obtain ⟨item, -, hd⟩ := List.mem_flatMap.mp hd
    simp [(b.mem_passed.mp hd).2.2]
  rw [hreplayed, hlive, List.append_nil]

/-- The batches requested so far are the first ones of the range. -/
theorem Accounts.fetched_prefix {startBlock endBlock : ℕ} (h : c.Accounts b startBlock endBlock) :
  c.fetched <+: b.batches startBlock endBlock
  := by
  obtain ⟨todo, hbatches, -⟩ := h.batches
  use todo

/-- What a backfill of a range of blocks has done with some batches of it. -/
structure BackfillsPart [DecidableEq κ] (b : Backfill τ ι δ κ) (startBlock endBlock : ℕ)
    (fetched : List (ℕ × ℕ)) (replayed : List (Delivery κ)) : Prop where
  /-- the batches follow each other from the start of the range on -/
  contiguous : Backfill.Contiguous startBlock fetched
  inRange : ∀ batch ∈ fetched, batch.2 ≤ endBlock ∧ batch.2 < batch.1 + b.batchSize
  /-- a block is passed on only after every event up to it, and is the last one of a batch -/
  marked : ∀ before d after block, replayed = before ++ d :: after → d.item = .block block →
    (∃ batch ∈ fetched, batch.2 = block.number) ∧
    ∀ e ∈ b.events, startBlock ≤ e.block → e.block ≤ block.number →
      ∀ k ∈ b.eventConsumers, ⟨k, .event e, false⟩ ∈ before
  /-- a consumer is passed the first ones of the events of the range in chain order, each once -/
  handed : ∀ k, ∃ rest, OrderedBy Event.chainPosition (Backfill.handedTo k replayed ++ rest) ∧
    (Backfill.handedTo k replayed ++ rest).Perm (b.eventsIn startBlock endBlock)

/-- The events that a consumer was passed are the first ones of the events of the range. -/
theorem Accounts.handedTo_prefix [DecidableEq κ] {startBlock endBlock : ℕ}
    (h : c.Accounts b startBlock endBlock) (k : κ) :
  Backfill.handedTo k c.replayed
    <+: (b.batches startBlock endBlock).flatMap b.batchEvents
  := by
  have hfetched : c.fetched.flatMap b.batchEvents
      <+: (b.batches startBlock endBlock).flatMap b.batchEvents := by
    obtain ⟨todo, htodo⟩ := h.fetched_prefix
    use todo.flatMap b.batchEvents
    rw [← htodo, List.flatMap_append]
  have hreplayed : Backfill.handedTo k c.replayed
      <+: Backfill.handedTo k (c.fetched.flatMap b.batchDeliveries) :=
    h.replayed_prefix.filterMap _
  rw [b.handedTo_batches] at hreplayed
  split at hreplayed
  · apply hreplayed.trans hfetched
  · rw [List.prefix_nil.mp hreplayed]
    apply List.nil_prefix

/-- What was passed on by a call that keeps the account. -/
theorem Accounts.backfillsPart [DecidableEq κ] {startBlock endBlock : ℕ}
    (h : c.Accounts b startBlock endBlock) :
  BackfillsPart b startBlock endBlock c.fetched c.replayed
  := by
  have hcontiguous := (b.contiguous_batches startBlock endBlock).of_isPrefix h.fetched_prefix
  constructor
  case contiguous => apply hcontiguous
  case inRange =>
    intro batch hbatch
    apply b.mem_batches batch (h.fetched_prefix.subset hbatch)
  case marked =>
    intro before d after block hreplayed hd
    obtain ⟨rest, hrest⟩ := h.replayed_prefix
    rw [hreplayed, List.append_assoc, List.cons_append] at hrest
    obtain ⟨hbatch, hevents⟩ := b.events_before_marker hcontiguous hd hrest
    use hbatch
    intro e he hstart hlast k hk
    apply hevents e he hstart hlast
    apply b.mem_passed.mpr
    use hk
  case handed =>
    intro k
    obtain ⟨rest, hrest⟩ := h.handedTo_prefix k
    use rest
    rw [hrest]
    use b.orderedBy_flatMap_batchEvents (b.contiguous_batches startBlock endBlock)
    apply b.flatMap_batchEvents_perm

/-- When `_replay_blocks` returns without a shutdown it has passed on all batches. -/
theorem Accounts.replayed_of_finish {startBlock endBlock : ℕ}
    (h : c.Accounts b startBlock endBlock) (hpoint : c.point = .finish)
    (hstop : c.subscription.shutdownEvent = false) :
  c.fetched = b.batches startBlock endBlock ∧
    c.replayed = (b.batches startBlock endBlock).flatMap b.batchDeliveries
  := by
  have htrack : c.OnTrack := onTrack_of_running hstop (by rw [hpoint]; rfl)
  obtain ⟨todo, hbatches, hahead⟩ := h.batches
  have hfetched : c.fetched = b.batches startBlock endBlock := by
    rw [← hbatches, hahead htrack, ahead, hpoint, List.append_nil]
  obtain ⟨todo', passes, hdelivered, hpending⟩ := h.deliveries
  obtain ⟨hpend, hreplaying, -⟩ := hpending htrack
  use hfetched
  rw [hpend, pending, hpoint, hreplaying (by rw [hpoint]; rfl), List.append_nil,
    List.flatMap_nil, List.append_nil] at hdelivered
  rw [replayed, hdelivered, ← hfetched]
  apply List.filter_eq_self.mpr
  intro d hd
  obtain ⟨batch, -, hd⟩ := List.mem_flatMap.mp hd
  simp [live_of_mem_batchDeliveries hd]

/-- A backfill that is interrupted at any await claims no block whose events were not passed to
every consumer, and passes on no event twice. One that returns without a shutdown has passed on
every event of the range in chain order and the last block. -/
theorem replayBlocks_backfills [DecidableEq κ] (b : Backfill τ ι δ κ) (s : Subscription)
    (startBlock endBlock : ℕ) (suppressLiveEventsUntil : Option ℕ) (hstart : 1 ≤ startBlock)
    (hrange : startBlock ≤ endBlock) (c : ReplayCall κ)
    (hc : Reaches (step b) (fun _ _ => True)
      (start κ s startBlock endBlock suppressLiveEventsUntil) c) :
  BackfillsPart b startBlock endBlock c.fetched c.replayed ∧
  (c.point = .finish → c.subscription.shutdownEvent = false →
    c.fetched.getLast?.map Prod.snd = some endBlock ∧
    (∀ k ∈ b.blockConsumers, (Backfill.markersTo k c.replayed).getLast? = some endBlock) ∧
    ∀ k ∈ b.eventConsumers,
      OrderedBy Event.chainPosition (Backfill.handedTo k c.replayed) ∧
      (Backfill.handedTo k c.replayed).Perm (b.eventsIn startBlock endBlock))
  := by
  have haccounts := (accounts_of_reaches (by omega) hc).2
  use haccounts.backfillsPart
  intro hpoint hstop
  obtain ⟨hfetched, hreplayed⟩ := haccounts.replayed_of_finish hpoint hstop
  have hlast := b.getLast?_batches hrange
  refine ⟨?_, ?_, ?_⟩
  · rw [hfetched, hlast]
  · intro k hk
    rw [hreplayed, b.markersTo_batches hk, List.getLast?_map, hlast]
  · intro k hk
    rw [hreplayed, b.handedTo_batches, if_pos hk]
    use b.orderedBy_flatMap_batchEvents (b.contiguous_batches startBlock endBlock)
    apply b.flatMap_batchEvents_perm

/-- A live log arrives while the only block of a range is replayed. -/
theorem replayBlocks_backfills_one :
  ∃ c : ReplayCall ℕ, BackfillsPart Backfill.empty 1 1 c.fetched c.replayed ∧
    (Backfill.markersTo 0 c.replayed).getLast? = some 1
  := by
  obtain ⟨c, hc, hpoint, hstop⟩ := exists_reaches_of_execute (step Backfill.empty)
    (fun _ _ => True) (start ℕ (Subscription.new none) 1 1 (some 1))
    [.connected true, .proceed, .log (Event.first 2), Backfill.answering, .proceed, .proceed,
      .proceed, .proceed, .proceed]
    (fun c => (match c.point with | .finish => true | _ => false) = true ∧
      c.subscription.shutdownEvent = false)
    (by decide +kernel)
  have hfinish : c.point = .finish := by
    cases h : c.point <;> simp only [h, reduceCtorEq] at hpoint ⊢
  have h := replayBlocks_backfills Backfill.empty (Subscription.new none) 1 1 (some 1) le_rfl
    le_rfl c hc
  exists c, h.1
  apply (h.2 hfinish hstop).2.1 0 (List.mem_singleton_self 0)

/-! ### Completed replays -/

/-- No step changes which live items are suppressed. -/
theorem ignores_of_moves {c' : ReplayCall κ} (h : Moves b c c') :
  c'.subscription.ignores = c.subscription.ignores
  := by
  cases h with
  | receive item _ =>
      obtain ⟨buffer, hrest⟩ := c.subscription.emitSubscriptionItem_fst item
      rw [receive, hrest]
      rfl
  | raise fault _ =>
      rw [raise]
      split <;> rfl
  | _ => rfl

/-- The threshold of a call that suppresses live items up to its last block. -/
theorem ignores_start {s : Subscription} {startBlock endBlock : ℕ}
    (hthreshold : ∀ threshold, s.ignoreSubscriptionEventsUntilBlock = some threshold →
      threshold ≤ endBlock) (number : ℕ) :
  (start κ s startBlock endBlock (some endBlock)).subscription.ignores number
    = decide (number ≤ endBlock)
  := by
  have hmax : max (s.ignoreSubscriptionEventsUntilBlock.getD 0) endBlock = endBlock := by
    apply max_eq_right
    cases h : s.ignoreSubscriptionEventsUntilBlock with
    | none => apply Nat.zero_le
    | some threshold => apply hthreshold threshold h
  change decide (number ≤ max (s.ignoreSubscriptionEventsUntilBlock.getD 0) endBlock) = _
  rw [hmax]

/-- The items that are not suppressed are those of the blocks after the range. -/
theorem kept_of_reaches {s : Subscription} {startBlock endBlock : ℕ}
    (hthreshold : ∀ threshold, s.ignoreSubscriptionEventsUntilBlock = some threshold →
      threshold ≤ endBlock)
    (hc : Reaches (step b) (fun _ _ => True) (start κ s startBlock endBlock (some endBlock)) c) :
  c.kept = c.arrived.filter fun item => endBlock < item.blockNumber
  := by
  have hignores : c.subscription.ignores
      = (start κ s startBlock endBlock (some endBlock)).subscription.ignores := by
    apply hc.invariant (I := fun c => c.subscription.ignores
      = (start κ s startBlock endBlock (some endBlock)).subscription.ignores)
    · intro c action c' h _ hstep
      rw [ignores_of_moves (moves_of_step hstep), h]
    · rfl
  rw [kept, hignores]
  apply List.filter_congr
  intro item _
  rw [ignores_start hthreshold, ← decide_not]
  simp only [not_le]

/-- A call that has returned without a shutdown has passed on all batches and then all live items
that were not suppressed. -/
theorem Accounts.deliveries_of_returned {startBlock endBlock : ℕ}
    (h : c.Accounts b startBlock endBlock) (hreturned : c.point = .returned)
    (hrestored : c.Restored) (hstop : c.subscription.shutdownEvent = false)
    (harrived : OrderedBy SubscriptionItem.sortKey c.arrived) :
  c.deliveries = (b.batches startBlock endBlock).flatMap b.batchDeliveries
    ++ c.kept.flatMap (b.passed true)
  := by
  have htrack : c.OnTrack := by
    use hstop
    rw [hreturned]
    nofun
  obtain ⟨todo, hbatches, hahead⟩ := h.batches
  rw [hahead htrack, ahead, hreturned, List.append_nil] at hbatches
  obtain ⟨todo', passes, hdelivered, hpending⟩ := h.deliveries
  obtain ⟨hpend, -, hkept⟩ := hpending htrack
  have hempty : c.ownBuffered = [] := by
    rw [ownBuffered, hrestored.1]
    rfl
  rw [hpend, pending, hreturned, List.append_nil] at hdelivered
  rw [hdelivered, hbatches, ← hkept harrived, hempty, List.append_nil]

/-- The batches of a range and then ordered items of later blocks are passed on in chain
order. -/
theorem orderedBy_deliveries (startBlock : ℕ) {endBlock : ℕ} {items : List SubscriptionItem}
    (hitems : OrderedBy SubscriptionItem.sortKey items)
    (hlater : ∀ item ∈ items, endBlock < item.blockNumber) :
  OrderedBy (fun d => d.item.sortKey)
    ((b.batches startBlock endBlock).flatMap b.batchDeliveries ++ items.flatMap (b.passed true))
  := by
  have hcontiguous := b.contiguous_batches startBlock endBlock
  apply List.pairwise_append.mpr
  use b.orderedBy_batchDeliveries hcontiguous, b.orderedBy_flatMap_passed hitems
  intro d hd d' hd'
  obtain ⟨batch, hbatch, hd⟩ := List.mem_flatMap.mp hd
  obtain ⟨item, hitem, hd'⟩ := List.mem_flatMap.mp hd'
  have hblock := b.block_of_mem_batchDeliveries (hcontiguous.le_fst hbatch).2 hd
  have hlast := (b.mem_batches batch hbatch).1
  have hitem' := hlater item hitem
  rw [← (b.mem_passed.mp hd').2.1] at hitem'
  apply (Backfill.sortKey_lt (by omega)).le

/-- A completed replay passes on the events and the last blocks of the batches of the range, and
then every live item of a later block once, in the order in which they arrived; no event is
passed on after a block that it belongs to, and the buffer is off. -/
theorem replayBlocks_delivers (b : Backfill τ ι δ κ) (s : Subscription)
    (startBlock endBlock : ℕ) (hend : 1 ≤ endBlock)
    (hbuffer : s.bufferedSubscriptionItems = none)
    (hthreshold : ∀ threshold, s.ignoreSubscriptionEventsUntilBlock = some threshold →
      threshold ≤ endBlock) (c : ReplayCall κ)
    (hc : Reaches (step b) (fun _ _ => True) (start κ s startBlock endBlock (some endBlock)) c)
    (hreturned : c.point = .returned) (hstop : c.subscription.shutdownEvent = false)
    (harrived : OrderedBy SubscriptionItem.sortKey c.arrived) :
  c.deliveries = (b.batches startBlock endBlock).flatMap b.batchDeliveries
    ++ (c.arrived.filter fun item => endBlock < item.blockNumber).flatMap (b.passed true) ∧
  (∀ before d after block, c.deliveries = before ++ d :: after → d.item = .block block →
    ∀ d' ∈ after, ∀ e, d'.item = .event e → block.number < e.block) ∧
  c.subscription.bufferedSubscriptionItems = none
  := by
  have hrestored : c.Restored := by
    apply hc.invariant (I := fun c => c.point = .returned → c.Restored) _ nofun hreturned
    intro c action c' h _ hstep
    apply restored_of_returned (moves_of_step hstep) h
  have hprevious : c.previousBuffer = none := by
    apply hc.invariant (I := fun c => c.previousBuffer = none) _ hbuffer
    intro c action c' h _ hstep
    rw [previousBuffer_of_moves (moves_of_step hstep), h]
  have hdeliveries := (accounts_of_reaches hend hc).2.deliveries_of_returned hreturned hrestored
    hstop harrived
  rw [kept_of_reaches hthreshold hc] at hdeliveries
  refine ⟨hdeliveries, ?_, hrestored.2.trans hprevious⟩
  intro before d after block heq hd d' hd' e he
  have hordered : OrderedBy (fun d => d.item.sortKey) c.deliveries := by
    rw [hdeliveries]
    apply orderedBy_deliveries
    · apply harrived.sublist List.filter_sublist
    · intro item hitem
      apply of_decide_eq_true (List.mem_filter.mp hitem).2
  rw [heq] at hordered
  have hle := (List.pairwise_cons.mp (List.pairwise_append.mp hordered).2.1).1 d' hd'
  beta_reduce at hle
  rw [hd, he] at hle
  apply SubscriptionItem.lt_blockNumber_of_sortKey_le hle

/-- A live log arrives while the only block of a range is replayed, and the completion of its
block while the log is flushed. -/
theorem replayBlocks_delivers_two :
  ∃ c : ReplayCall ℕ, c.arrived.length = 2 ∧
    c.deliveries = (Backfill.empty.batches 1 1).flatMap Backfill.empty.batchDeliveries
      ++ (c.arrived.filter fun item => 1 < item.blockNumber).flatMap
          (Backfill.empty.passed true) ∧
    (∀ before d after block, c.deliveries = before ++ d :: after → d.item = .block block →
      ∀ d' ∈ after, ∀ e, d'.item = .event e → block.number < e.block) ∧
    c.subscription.bufferedSubscriptionItems = none
  := by
  obtain ⟨c, hc, hpoint, hstop, harrived, hlength⟩ := exists_reaches_of_execute
    (step Backfill.empty) (fun _ _ => True) (start ℕ (Subscription.new none) 1 1 (some 1))
    [.connected true, .proceed, .log (Event.first 2), Backfill.answering, .proceed, .proceed,
      .proceed, .proceed, .proceed, .proceed, .proceed, .proceed, .proceed, .head 3, .proceed,
      .proceed, .proceed, .proceed, .proceed, .proceed, .proceed, .proceed, .proceed, .proceed]
    (fun c => (match c.point with | .returned => true | _ => false) = true ∧
      c.subscription.shutdownEvent = false ∧
      (c.arrived.Pairwise fun item item' => item.sortKey ≤ item'.sortKey) ∧
      c.arrived.length = 2)
    (by decide +kernel)
  have hreturned : c.point = .returned := by
    cases h : c.point <;> simp only [h, reduceCtorEq] at hpoint ⊢
  use c, hlength
  apply replayBlocks_delivers Backfill.empty (Subscription.new none) 1 1 le_rfl rfl nofun c hc
    hreturned hstop harrived

end ReplayCall

end Sentinel
