import Sentinel.Rpc.DeliveryBuffer
import Sentinel.Rpc.DeliveryPlan

/-!
# What a replay delivers

`ReplayCall.Accounts` is the account of a call: what was passed to the consumers and what the
call is about to pass to them make up the batches that were requested, followed by the live
items of the passes of the flush. It is kept by every move until the call is stopped by a
shutdown or an exception; after that nothing is passed to a consumer any more.
-/

namespace Sentinel

namespace ReplayCall

open Transition

variable {τ ι δ κ : Type} [DecidableEq τ] (b : Backfill τ ι δ κ) (c : ReplayCall κ)

/-- What is passed to the consumers after an item was emitted, before the next batch is
requested or the buffer is looked at again. -/
def pendingAfter : Rest → List (Delivery κ)
  | .events batchStart events =>
      (events.flatMap fun e => b.passed false (.event e))
        ++ b.passed false (.block ⟨c.batchEnd b batchStart⟩)
  | .marked _ => []
  | .flush items => items.flatMap (b.passed true)

/-- What the call is about to pass to the consumers. -/
def pending : List (Delivery κ) :=
  match c.point with
  | .fetch batchStart => b.batchDeliveries (batchStart, c.batchEnd b batchStart)
  | .events batchStart events | .pause batchStart events =>
      c.pendingAfter b (.events batchStart events)
  | .emit item consumers rest | .handle item consumers rest =>
      consumers.map (fun k => ⟨k, item, rest.live⟩) ++ c.pendingAfter b rest
  | .flushItems items => c.pendingAfter b (.flush items)
  | _ => []

/-- The batches that are requested after an item was emitted. -/
def aheadAfter : Rest → List (ℕ × ℕ)
  | .events batchStart _ | .marked batchStart =>
      b.batches (batchStart + b.batchSize) c.endBlock
  | .flush _ => []

/-- The batches that the call is about to request. -/
def ahead : List (ℕ × ℕ) :=
  match c.point with
  | .connect | .blockNumber => b.batches c.startBlock c.endBlock
  | .batch batchStart => b.batches batchStart c.endBlock
  | .fetch batchStart | .events batchStart _ | .pause batchStart _ =>
      b.batches (batchStart + b.batchSize) c.endBlock
  | .emit _ _ rest | .handle _ _ rest => c.aheadAfter b rest
  | _ => []

/-- The live items in the buffer of the call. -/
def ownBuffered : List SubscriptionItem :=
  if c.ownBuffer then c.buffered else []

/-- The live items received so far that are not suppressed. -/
def kept : List SubscriptionItem :=
  c.arrived.filter fun item => !c.subscription.ignores item.blockNumber

/-- The call is stopped neither by a shutdown nor by an exception. -/
def OnTrack : Prop :=
  c.subscription.shutdownEvent = false ∧ ∀ fault, c.point ≠ .raised fault

/-- The account of a call on a range of blocks. -/
structure Accounts (startBlock endBlock : ℕ) : Prop where
  startBlock_eq : c.startBlock = startBlock
  endBlock_eq : c.endBlock = endBlock
  knowsEnd : c.point ≠ .blockNumber
  /-- the batches requested so far, and those still to be requested -/
  batches : ∃ todo, c.fetched ++ todo = b.batches startBlock endBlock ∧
    (c.OnTrack → todo = c.ahead b)
  /-- what was passed to the consumers, and what is still to be passed to them -/
  deliveries : ∃ todo passes, c.deliveries ++ todo
      = c.fetched.flatMap b.batchDeliveries ++ passes.flatMap (b.passed true) ∧
    (c.OnTrack → todo = c.pending b ∧ (c.point.replaying = true → passes = []) ∧
      (OrderedBy SubscriptionItem.sortKey c.arrived → passes ++ c.ownBuffered = c.kept))

variable {b c}

theorem accounts_start (s : Subscription) (startBlock endBlock : ℕ)
    (suppressLiveEventsUntil : Option ℕ) :
  (start κ s startBlock endBlock suppressLiveEventsUntil).Accounts b startBlock endBlock
  := by
  constructor
  case startBlock_eq => rfl
  case endBlock_eq => rfl
  case knowsEnd => nofun
  case batches =>
    use b.batches startBlock endBlock
    use List.nil_append _
    intro _
    rfl
  case deliveries =>
    use [], []
    use rfl
    intro _
    use rfl, fun _ => rfl
    intro _
    rfl

/-- A move that passes nothing to a consumer keeps the account when it takes the call off its
track. -/
theorem Accounts.of_stopped {startBlock endBlock : ℕ} (h : c.Accounts b startBlock endBlock)
    {c' : ReplayCall κ} (hstopped : ¬ c'.OnTrack) (hstart : c'.startBlock = c.startBlock)
    (hend : c'.endBlock = c.endBlock) (hfetched : c'.fetched = c.fetched)
    (hdeliveries : c'.deliveries = c.deliveries) (hknows : c'.point ≠ .blockNumber) :
  c'.Accounts b startBlock endBlock
  := by
  obtain ⟨todo, hbatches, -⟩ := h.batches
  obtain ⟨todo', passes, hdelivered, -⟩ := h.deliveries
  constructor
  case startBlock_eq => rw [hstart, h.startBlock_eq]
  case endBlock_eq => rw [hend, h.endBlock_eq]
  case knowsEnd => apply hknows
  case batches =>
    use todo
    rw [hfetched]
    use hbatches
    intro htrack
    cases hstopped htrack
  case deliveries =>
    use todo', passes
    rw [hfetched, hdeliveries]
    use hdelivered
    intro htrack
    cases hstopped htrack

/-- A move to another point keeps the account when the call is about to do there what it was
about to do. -/
theorem Accounts.goto {startBlock endBlock : ℕ} (h : c.Accounts b startBlock endBlock)
    {point : CallPoint κ} (hknows : point ≠ .blockNumber)
    (hcontinues : c.OnTrack → (c.goto point).ahead b = c.ahead b ∧
      (c.goto point).pending b = c.pending b ∧
      (point.replaying = true → c.point.replaying = true))
    (hrunning : c.point.ended = false) :
  (c.goto point).Accounts b startBlock endBlock
  := by
  have htrack : (c.goto point).OnTrack → c.OnTrack := by
    intro htrack
    use htrack.1
    intro fault hpoint
    rw [hpoint] at hrunning
    cases hrunning
  obtain ⟨todo, hbatches, hahead⟩ := h.batches
  obtain ⟨todo', passes, hdelivered, hpending⟩ := h.deliveries
  constructor
  case startBlock_eq => apply h.startBlock_eq
  case endBlock_eq => apply h.endBlock_eq
  case knowsEnd => apply hknows
  case batches =>
    use todo
    use hbatches
    intro hgo
    rw [hahead (htrack hgo), (hcontinues (htrack hgo)).1]
  case deliveries =>
    use todo', passes
    use hdelivered
    intro hgo
    obtain ⟨hpend, hreplaying, hkept⟩ := hpending (htrack hgo)
    obtain ⟨-, hpend', hreplaying'⟩ := hcontinues (htrack hgo)
    use hpend.trans hpend'.symm, fun hpoint => hreplaying (hreplaying' hpoint)
    apply hkept

/-- A call goes on from a point to one where it is about to do the same. -/
theorem Accounts.goOn {startBlock endBlock : ℕ} (h : c.Accounts b startBlock endBlock)
    {point point' : CallPoint κ} (hpoint : c.point = point) (hrunning : point.ended = false)
    (hahead : (c.goto point').ahead b = (c.goto point).ahead b)
    (hpending : (c.goto point').pending b = (c.goto point).pending b)
    (hreplaying : point'.replaying = true → point.replaying = true)
    (hknows : point' ≠ .blockNumber) :
  (c.goto point').Accounts b startBlock endBlock
  := by
  subst hpoint
  apply h.goto hknows _ hrunning
  intro _
  use hahead, hpending, hreplaying

/-- The buffer of the call after a live item is the one before it, with the item unless it is
suppressed. -/
theorem ownBuffered_receive (hown : c.OwnsBuffer) (hawaits : c.point.awaits = true)
    (hstop : c.subscription.shutdownEvent = false) (item : SubscriptionItem) :
  (c.receive item (c.subscription.emitSubscriptionItem item).1).ownBuffered
    = c.ownBuffered
      ++ [item].filter fun item => !c.subscription.ignores item.blockNumber
  := by
  obtain ⟨hbuffer, hsome⟩ := hown (not_ended_of_awaits hawaits)
  obtain ⟨items, hitems⟩ := Option.ne_none_iff_exists'.mp hsome
  simp only [ownBuffered, buffered, receive, hbuffer, if_true, hitems, Option.getD_some]
  obtain ⟨hdrop, heq⟩ | ⟨-, hkeep, items', hbuffer', heq⟩ | ⟨-, -, hnone, -⟩ :=
    c.subscription.emitSubscriptionItem_cases item
  · have hignores : c.subscription.ignores item.blockNumber = true := by
      simpa [hstop] using hdrop
    simp [heq, hitems, hignores]
  · obtain rfl := Option.some.inj (hitems.symm.trans hbuffer')
    simp [heq, hkeep]
  · cases hitems.symm.trans hnone

/-- A live item is buffered, unless it is suppressed. -/
theorem Accounts.receive {startBlock endBlock : ℕ} (h : c.Accounts b startBlock endBlock)
    (hown : c.OwnsBuffer) (hawaits : c.point.awaits = true) (item : SubscriptionItem) :
  (c.receive item (c.subscription.emitSubscriptionItem item).1).Accounts b startBlock endBlock
  := by
  obtain ⟨todo, hbatches, hahead⟩ := h.batches
  obtain ⟨todo', passes, hdelivered, hpending⟩ := h.deliveries
  obtain ⟨buffer, hrest⟩ := c.subscription.emitSubscriptionItem_fst item
  have hignores : (c.subscription.emitSubscriptionItem item).1.ignores
      = c.subscription.ignores := by
    rw [hrest]
    rfl
  have htrack : (c.receive item (c.subscription.emitSubscriptionItem item).1).OnTrack →
      c.OnTrack := by
    rintro ⟨hstop, hpoint⟩
    use by simpa [ReplayCall.receive, hrest] using hstop
    apply hpoint
  constructor
  case startBlock_eq => apply h.startBlock_eq
  case endBlock_eq => apply h.endBlock_eq
  case knowsEnd => apply h.knowsEnd
  case batches =>
    use todo, hbatches
    intro hgo
    apply hahead (htrack hgo)
  case deliveries =>
    use todo', passes, hdelivered
    intro hgo
    obtain ⟨hpend, hreplaying, hkept⟩ := hpending (htrack hgo)
    use hpend, hreplaying
    intro hordered
    have hbefore := hkept (hordered.sublist (List.sublist_append_left _ _))
    rw [ownBuffered_receive hown hawaits (htrack hgo).1, ← List.append_assoc, hbefore]
    simp only [kept, ReplayCall.receive, hignores, List.filter_append]

/-- A call that is not shut down is on its track where it has not ended. -/
theorem onTrack_of_running (hstop : c.subscription.shutdownEvent = false)
    (hrunning : c.point.ended = false) :
  c.OnTrack
  := by
  use hstop
  intro fault hpoint
  rw [hpoint] at hrunning
  cases hrunning

/-- The next batch is requested. -/
theorem Accounts.fetch {startBlock endBlock batchStart : ℕ}
    (h : c.Accounts b startBlock endBlock) (hpoint : c.point = .batch batchStart)
    (hend : batchStart ≤ c.endBlock) (hstop : c.subscription.shutdownEvent = false) :
  Accounts b { c with
    fetched := c.fetched ++ [(batchStart, c.batchEnd b batchStart)]
    point := .fetch batchStart } startBlock endBlock
  := by
  have htrack : c.OnTrack := onTrack_of_running hstop (by rw [hpoint]; rfl)
  obtain ⟨todo, hbatches, hahead⟩ := h.batches
  obtain ⟨todo', passes, hdelivered, hpending⟩ := h.deliveries
  have hnext : todo = (batchStart, c.batchEnd b batchStart)
      :: b.batches (batchStart + b.batchSize) c.endBlock := by
    rw [hahead htrack, ahead, hpoint]
    apply b.batches_of_le hend
  obtain ⟨hpend, hreplaying, hkept⟩ := hpending htrack
  obtain rfl : passes = [] := hreplaying (by rw [hpoint]; rfl)
  obtain rfl : todo' = [] := by
    rw [hpend, pending, hpoint]
  constructor
  case startBlock_eq => apply h.startBlock_eq
  case endBlock_eq => apply h.endBlock_eq
  case knowsEnd => nofun
  case batches =>
    use b.batches (batchStart + b.batchSize) c.endBlock
    constructor
    · rw [← hbatches, hnext, List.append_assoc]
      rfl
    · intro _
      rfl
  case deliveries =>
    use b.batchDeliveries (batchStart, c.batchEnd b batchStart), []
    constructor
    · simpa using hdelivered
    · intro _
      use rfl, fun _ => rfl
      apply hkept

/-- An item is passed to a consumer. -/
theorem Accounts.deliver {startBlock endBlock : ℕ} (h : c.Accounts b startBlock endBlock)
    {item : SubscriptionItem} {k : κ} {consumers : List κ} {rest : Rest}
    (hpoint : c.point = .emit item (k :: consumers) rest)
    (hstop : c.subscription.shutdownEvent = false) :
  Accounts b { c with
    deliveries := c.deliveries ++ [⟨k, item, rest.live⟩]
    point := .handle item consumers rest } startBlock endBlock
  := by
  have htrack : c.OnTrack := onTrack_of_running hstop (by rw [hpoint]; rfl)
  obtain ⟨todo, hbatches, hahead⟩ := h.batches
  obtain ⟨todo', passes, hdelivered, hpending⟩ := h.deliveries
  obtain ⟨hpend, hreplaying, hkept⟩ := hpending htrack
  constructor
  case startBlock_eq => apply h.startBlock_eq
  case endBlock_eq => apply h.endBlock_eq
  case knowsEnd => nofun
  case batches =>
    use todo, hbatches
    intro _
    rw [hahead htrack, ahead, hpoint]
    rfl
  case deliveries =>
    use consumers.map (fun k => ⟨k, item, rest.live⟩) ++ c.pendingAfter b rest, passes
    constructor
    · rw [hpend, pending, hpoint] at hdelivered
      rw [← hdelivered, List.append_assoc]
      rfl
    · intro _
      use rfl
      rw [hpoint] at hreplaying
      use hreplaying
      apply hkept

/-- A pass of the flush takes the buffered items in chain order. -/
theorem Accounts.pass {startBlock endBlock : ℕ} (h : c.Accounts b startBlock endBlock)
    (hown : c.OwnsBuffer) (hpoint : c.point = .flush)
    (hstop : c.subscription.shutdownEvent = false) :
  Accounts b { c with
    subscription := { c.subscription with bufferedSubscriptionItems := some [] }
    point := .flushItems (sortBy SubscriptionItem.sortKey c.buffered) } startBlock endBlock
  := by
  have hrunning : c.point.ended = false := by
    rw [hpoint]
    rfl
  obtain ⟨todo, hbatches, hahead⟩ := h.batches
  obtain ⟨todo', passes, hdelivered, hpending⟩ := h.deliveries
  obtain ⟨hpend, -, hkept⟩ := hpending (onTrack_of_running hstop hrunning)
  obtain rfl : todo' = [] := by
    rw [hpend, pending, hpoint]
  have hbuffered : c.ownBuffered = c.buffered := by
    rw [ownBuffered, if_pos (hown hrunning).1]
  constructor
  case startBlock_eq => apply h.startBlock_eq
  case endBlock_eq => apply h.endBlock_eq
  case knowsEnd => nofun
  case batches =>
    use todo, hbatches
    intro _
    rw [hahead (onTrack_of_running hstop hrunning), ahead, hpoint]
    rfl
  case deliveries =>
    use (sortBy SubscriptionItem.sortKey c.buffered).flatMap (b.passed true)
    use passes ++ sortBy SubscriptionItem.sortKey c.buffered
    constructor
    · rw [List.append_nil] at hdelivered
      rw [hdelivered, List.flatMap_append, List.append_assoc]
    · intro _
      use rfl, nofun
      intro hordered
      have hbefore : passes ++ c.buffered = c.kept := by
        rw [← hbuffered]
        apply hkept hordered
      -- the buffered items are the last ones received, which came in chain order
      have hsuffix : c.buffered.Sublist c.kept := by
        rw [← hbefore]
        apply List.sublist_append_right
      have hsorted : OrderedBy SubscriptionItem.sortKey c.buffered :=
        OrderedBy.sublist (OrderedBy.sublist hordered List.filter_sublist) hsuffix
      change _ ++ (if c.ownBuffer then [] else []) = c.kept
      rw [hsorted.sortBy_eq, ite_self, List.append_nil, hbefore]

/-- An exception takes the call off its track. -/
theorem Accounts.raise {startBlock endBlock : ℕ} (h : c.Accounts b startBlock endBlock)
    (fault : Fault) :
  (c.raise fault).Accounts b startBlock endBlock
  := by
  rw [ReplayCall.raise]
  split
  · have hstopped : ¬ (c.goto (.raised fault)).OnTrack := fun hgo => hgo.2 fault rfl
    apply h.of_stopped hstopped rfl rfl rfl rfl
    rintro ⟨⟩
  · have hstopped : ¬ (c.restore (.raised fault)).OnTrack := fun hgo => hgo.2 fault rfl
    apply h.of_stopped hstopped rfl rfl rfl rfl
    rintro ⟨⟩

/-- The flush ends with nothing in the buffer of the call. -/
theorem Accounts.flushed {startBlock endBlock : ℕ} (h : c.Accounts b startBlock endBlock)
    (hown : c.OwnsBuffer) (hpoint : c.point = .flush) (hempty : c.buffered = []) :
  (c.restore .returned).Accounts b startBlock endBlock
  := by
  have hrunning : c.point.ended = false := by
    rw [hpoint]
    rfl
  have htrack : (c.restore .returned).OnTrack → c.OnTrack := by
    intro hgo
    apply onTrack_of_running (c := c) hgo.1 hrunning
  have hbuffered : c.ownBuffered = [] := by
    rw [ownBuffered, if_pos (hown hrunning).1, hempty]
  obtain ⟨todo, hbatches, hahead⟩ := h.batches
  obtain ⟨todo', passes, hdelivered, hpending⟩ := h.deliveries
  constructor
  case startBlock_eq => apply h.startBlock_eq
  case endBlock_eq => apply h.endBlock_eq
  case knowsEnd => nofun
  case batches =>
    use todo, hbatches
    intro hgo
    rw [hahead (htrack hgo), ahead, hpoint]
    rfl
  case deliveries =>
    use todo', passes, hdelivered
    intro hgo
    obtain ⟨hpend, -, hkept⟩ := hpending (htrack hgo)
    rw [pending, hpoint] at hpend
    use hpend, nofun
    intro hordered
    rw [hbuffered] at hkept
    apply hkept hordered

/-- A shutdown keeps the call from passing anything on. -/
theorem not_onTrack_of_shutdown (hstop : c.subscription.shutdownEvent = true) :
  ¬ c.OnTrack
  := by
  rintro ⟨hgo, -⟩
  cases hstop.symm.trans hgo

/-- The call goes on with what is to be done after an item was emitted. -/
theorem Accounts.emitted {startBlock endBlock : ℕ} (h : c.Accounts b startBlock endBlock)
    {item : SubscriptionItem} {rest : Rest} (hpoint : c.point = .emit item [] rest)
    (hstop : c.subscription.shutdownEvent = false) :
  (c.goto (c.resume b rest)).Accounts b startBlock endBlock
  := by
  cases rest with
  | events batchStart events =>
      rw [resume, if_neg (by simp [hstop])]
      exact h.goOn hpoint rfl rfl rfl (fun _ => rfl) (by simp)
  | marked batchStart => exact h.goOn hpoint rfl rfl rfl (fun _ => rfl) (by simp [resume])
  | flush items =>
      exact h.goOn hpoint rfl rfl rfl (by simp [resume, CallPoint.replaying]) (by simp [resume])

/-- Every move keeps the account. -/
theorem accounts_of_moves {startBlock endBlock : ℕ} (hend : 1 ≤ endBlock) {c' : ReplayCall κ}
    (hmoves : Moves b c c') (hown : c.OwnsBuffer) (h : c.Accounts b startBlock endBlock) :
  c'.Accounts b startBlock endBlock
  := by
  have hstopped : ∀ point, c.subscription.shutdownEvent = true → ¬ (c.goto point).OnTrack :=
    fun point hstop => not_onTrack_of_shutdown hstop
  cases hmoves with
  | receive item hawaits => apply h.receive hown hawaits
  | ignore => apply h
  | shutdown hawaits =>
      have hstopped := not_onTrack_of_shutdown
        (c := { c with subscription := c.subscription.requestShutdown }) rfl
      apply h.of_stopped hstopped rfl rfl rfl rfl h.knowsEnd
  | raise fault hawaits => apply h.raise
  | knowEnd hpoint _ =>
      exact h.goOn hpoint rfl rfl rfl (fun _ => rfl) nofun
  | askEnd hpoint hzero =>
      have := h.endBlock_eq
      omega
  | getEnd n hpoint => cases h.knowsEnd hpoint
  | stop hpoint hstop => apply h.of_stopped (hstopped .finish hstop) rfl rfl rfl rfl (by nofun)
  | rangeDone batchStart hpoint hlast =>
      exact h.goOn hpoint rfl (b.batches_of_lt hlast).symm rfl (fun _ => rfl) nofun
  | fetch batchStart hpoint hlast hstop => apply h.fetch hpoint hlast hstop
  | fetched batchStart hpoint =>
      exact h.goOn hpoint rfl rfl rfl (fun _ => rfl) nofun
  | emitBlock batchStart hpoint hstop =>
      exact h.goOn hpoint rfl rfl (List.append_nil _) (fun _ => rfl) nofun
  | emitEvent batchStart e events hpoint =>
      refine h.goOn hpoint rfl rfl ?_ (fun _ => rfl) nofun
      simp only [pending, ReplayCall.goto, pendingAfter, List.flatMap_cons, List.append_assoc,
        Rest.live]
      rfl
  | skip item consumers rest hpoint hstop =>
      apply h.of_stopped (hstopped (c.resume b rest) hstop) rfl rfl rfl rfl
      apply resume_ne_blockNumber
  | emitted item rest hpoint hstop => apply h.emitted hpoint hstop
  | deliver item k consumers rest hpoint hstop => apply h.deliver hpoint hstop
  | handled item consumers rest hpoint =>
      exact h.goOn hpoint rfl rfl rfl (fun hlive => hlive) nofun
  | paused batchStart events hpoint =>
      exact h.goOn hpoint rfl rfl rfl (fun _ => rfl) nofun
  | beginFlush hpoint hstop =>
      exact h.goOn hpoint rfl rfl rfl nofun nofun
  | interrupted hpoint hstop =>
      have hstopped := not_onTrack_of_shutdown (c := c.restore .returned) hstop
      apply h.of_stopped hstopped rfl rfl rfl rfl (by nofun)
  | flushed hpoint hempty => apply h.flushed hown hpoint hempty
  | pass hpoint hstop => apply h.pass hown hpoint hstop
  | passDone hpoint =>
      exact h.goOn hpoint rfl rfl rfl nofun nofun
  | emitBuffered item items hpoint hstop =>
      exact h.goOn hpoint rfl rfl rfl nofun nofun

end ReplayCall

end Sentinel
