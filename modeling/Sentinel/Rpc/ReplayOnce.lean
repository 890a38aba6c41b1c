import Sentinel.Rpc.ReplayCoverage

/-!
# No log twice

A log can reach `handle_event` live, in a replay, and in the flush of the buffer. The logs
that were handled and those that a replay or the buffer still holds are `Outstanding`: they
have no duplicates, and a log above the suppression threshold is among them only if the node
delivered it. A replay keeps this as long as no log it will fetch is among them.
-/

namespace Sentinel

/-- The logs of a block range have no duplicates. -/
theorem Chain.nodup_logsBetween (chain : Chain) (startBlock endBlock : ℕ) :
  (chain.logsBetween startBlock endBlock).Nodup
  := by
  rw [logsBetween, List.nodup_flatMap]
  constructor
  · intro number _
    apply chain.nodup number
  · apply List.Pairwise.imp _ List.nodup_range'
    intro number number' hne e he he'
    apply hne
    rw [← chain.block_eq number e he, ← chain.block_eq number' e he']

/-- The event of an item, if it is one. -/
def SubscriptionItem.event? : SubscriptionItem → Option Event
  | event e => some e
  | block _ => none

/-- The events among items. -/
def eventsOf (items : List SubscriptionItem) : List Event :=
  items.filterMap SubscriptionItem.event?

/-- The logs that were handled and those in a queue are logs of the chain without duplicates,
and the node delivered those above the suppression threshold. -/
structure Outstanding (chain : Chain) (threshold : Option ℕ) (delivered : List Event)
    (l : Ledger) (queue : List Event) : Prop where
  nodup : (l.handled ++ queue).Nodup
  mem_chain : ∀ e ∈ l.handled ++ queue, e ∈ chain
  delivered : ∀ e ∈ l.handled ++ queue, (∀ n ∈ threshold, n < e.block) → e ∈ delivered

namespace Outstanding

variable {chain : Chain} {threshold : Option ℕ} {delivered : List Event} {l l' : Ledger}
  {queue queue' : List Event} {e : Event}

/-- The queue is reordered, and the handled logs stay. -/
theorem of_perm (h : Outstanding chain threshold delivered l queue)
    (hperm : (l.handled ++ queue).Perm (l'.handled ++ queue')) :
  Outstanding chain threshold delivered l' queue'
  where
  nodup := hperm.nodup h.nodup
  mem_chain e he := h.mem_chain e (hperm.mem_iff.mpr he)
  delivered e he := h.delivered e (hperm.mem_iff.mpr he)

/-- The first log of the queue is handled. -/
theorem handleEvent (h : Outstanding chain threshold delivered l (e :: queue)) :
  Outstanding chain threshold delivered (l.handleEvent e) queue
  := by
  apply h.of_perm
  rw [Ledger.handled_handleEvent, List.append_assoc]
  rfl

/-- A log is delivered that is suppressed. -/
theorem deliver (h : Outstanding chain threshold delivered l queue) (e : Event) :
  Outstanding chain threshold (e :: delivered) l queue
  := { h with delivered := fun e' he' hlt => List.mem_cons_of_mem e (h.delivered e' he' hlt) }

/-- A log that was not delivered before is delivered, and appended to the queue. -/
theorem push (h : Outstanding chain threshold delivered l queue) (hchain : e ∈ chain)
    (hlt : ∀ n ∈ threshold, n < e.block) (hnew : e ∉ delivered) :
  Outstanding chain threshold (e :: delivered) l (queue ++ [e])
  := by
  have hnot : e ∉ l.handled ++ queue := fun hmem => hnew (h.delivered e hmem hlt)
  have hmem : ∀ e', e' ∈ l.handled ++ (queue ++ [e]) → e' ∈ l.handled ++ queue ∨ e' = e := by
    intro e' he'
    rw [← List.append_assoc, List.mem_append, List.mem_singleton] at he'
    apply he'
  constructor
  · rw [← List.append_assoc]
    apply List.Nodup.append h.nodup (List.nodup_singleton e)
    intro e' he' heq
    obtain rfl := List.mem_singleton.mp heq
    apply hnot he'
  · intro e' he'
    obtain hold | rfl := hmem e' he'
    · apply h.mem_chain e' hold
    · apply hchain
  · intro e' he' hlt'
    obtain hold | rfl := hmem e' he'
    · apply List.mem_cons_of_mem e (h.delivered e' hold hlt')
    · apply List.mem_cons_self

/-- Logs that are not above the threshold, and that are not among those before, are put at
the front of the queue. -/
theorem fetch {n : ℕ} {es : List Event} (h : Outstanding chain (some n) delivered l queue)
    (hnodup : es.Nodup) (hchain : ∀ e ∈ es, e ∈ chain) (hle : ∀ e ∈ es, e.block ≤ n)
    (hnew : ∀ e ∈ es, e ∉ l.handled ++ queue) :
  Outstanding chain (some n) delivered l (es ++ queue)
  := by
  have hperm : (es ++ (l.handled ++ queue)).Perm (l.handled ++ (es ++ queue)) := by
    rw [← List.append_assoc, ← List.append_assoc]
    apply List.Perm.append_right
    apply List.perm_append_comm
  constructor
  · apply hperm.nodup
    apply List.Nodup.append hnodup h.nodup
    intro e he
    apply hnew e he
  · intro e he
    obtain hmem | hmem := List.mem_append.mp (hperm.mem_iff.mpr he)
    · apply hchain e hmem
    · apply h.mem_chain e hmem
  · intro e he hlt
    obtain hmem | hmem := List.mem_append.mp (hperm.mem_iff.mpr he)
    · have hgt := hlt n rfl
      have hle' := hle e hmem
      omega
    · apply h.delivered e hmem hlt

end Outstanding

namespace Replay

variable {chain : Chain} {batchSize : ℕ} {delivered : List Event} {s s' : Subscription}
  {l l' : Ledger} {r : Replay}

/-- The events a replay is about to pass to `handle_event`. -/
def queue (r : Replay) : List Event :=
  match r.point with
  | .emit _ events => events
  | .flush items | .flushBlock _ items => eventsOf items
  | _ => []

/-- The first block a replay has not fetched. -/
def next (batchSize : ℕ) (r : Replay) : ℕ :=
  match r.point with
  | .connected | .endBlock => r.startBlock
  | .fetch batchStart => batchStart
  | .emit batchStart _ | .mark batchStart => batchStart + batchSize
  | .flush _ | .flushBlock _ _ => r.endBlock + 1

/-- A replay of a subscription that suppresses what the replay fetches, buffers the rest, and
holds no log that it has yet to fetch. -/
structure Once (chain : Chain) (batchSize : ℕ) (delivered : List Event) (s : Subscription)
    (l : Ledger) (r : Replay) : Prop where
  suppresses : s.ignoreSubscriptionEventsUntilBlock = some r.endBlock
  endBlock : 0 < r.endBlock
  point : r.point ≠ .endBlock
  previousBuffer : r.previousBuffer = none
  buffered : ∃ items, s.bufferedSubscriptionItems = some items
    ∧ ∀ e ∈ eventsOf items, r.endBlock < e.block
  outstanding : Outstanding chain (some r.endBlock) delivered l
    (r.queue ++ eventsOf (s.bufferedSubscriptionItems.getD []))
  start_le : r.startBlock ≤ r.next batchSize ∨ r.endBlock < r.next batchSize
  lt_next : ∀ e ∈ l.handled ++ r.queue, r.startBlock ≤ e.block → e.block ≤ r.endBlock →
    e.block < r.next batchSize

/-- A replay that goes on holds no log twice, and one that has returned leaves an open
subscription that has handled no log twice. -/
def OnceAfter (chain : Chain) (batchSize : ℕ) (delivered : List Event)
    (result : ReplayResult) : Prop :=
  match result.2.2 with
  | .running r => r.Once chain batchSize delivered result.1 result.2.1
  | .returned => result.1.bufferedSubscriptionItems = none
      ∧ Outstanding chain result.1.ignoreSubscriptionEventsUntilBlock delivered result.2.1 []
  | .raised _ => False

theorem once_emitBuffered {items : List SubscriptionItem} {item : SubscriptionItem}
    (h : (r.atPoint (.flush (item :: items))).Once chain batchSize delivered s l) :
  OnceAfter chain batchSize delivered (r.emitBuffered s l items item)
  := by
  have hlt : ∀ {n m : ℕ}, n ≤ m → n < m + 1 := Nat.lt_succ_of_le
  cases item with
  | event e =>
      exact { h with
        point := nofun
        outstanding := h.outstanding.handleEvent
        lt_next := fun e' _ _ hle => hlt hle }
  | block b =>
      exact { h with
        point := nofun
        lt_next := fun e' _ _ hle => hlt hle }

theorem once_flushItems {items : List SubscriptionItem} (hs : s.shutdownEvent = false)
    (h : (r.atPoint (.flush items)).Once chain batchSize delivered s l) :
  OnceAfter chain batchSize delivered (r.flushItems s l items)
  := by
  obtain ⟨buffer, hbuffer, hgt⟩ := h.buffered
  have houtstanding := h.outstanding
  simp only [flushItems, hs, Bool.false_eq_true, if_false]
  cases items with
  | cons item items => apply once_emitBuffered h
  | nil =>
      simp only [flushBuffer, hbuffer, Option.getD_some]
      rw [hbuffer, Option.getD_some] at houtstanding
      split
      · rename_i hempty
        obtain rfl := List.isEmpty_iff.mp hempty
        use h.previousBuffer
        simp only [restoreBuffer]
        rw [h.suppresses]
        apply houtstanding
      · split
        · rename_i hempty _ hsort
          rw [sortBy_eq_nil_iff.mp hsort] at hempty
          cases hempty rfl
        · rename_i item items hsort
          apply once_emitBuffered
          have hperm := sortBy_perm SubscriptionItem.sortKey buffer
          rw [hsort] at hperm
          exact { h with
            point := by simp
            buffered := ⟨[], rfl, by simp [eventsOf]⟩
            outstanding := by
              apply houtstanding.of_perm
              apply List.Perm.append_left
              simp only [Option.getD_some, eventsOf, List.filterMap_nil, List.append_nil]
              apply (hperm.symm.filterMap SubscriptionItem.event?)
            lt_next := fun e' _ _ hle => Nat.lt_succ_of_le hle }

theorem once_fetchBatch {batchStart : ℕ} (hs : s.shutdownEvent = false)
    (h : (r.atPoint (.fetch batchStart)).Once chain batchSize delivered s l) :
  OnceAfter chain batchSize delivered (r.fetchBatch batchSize s l batchStart)
  := by
  simp only [fetchBatch]
  split
  · apply once_flushItems hs
    exact { h with
      point := by simp
      start_le := Or.inr (Nat.lt_succ_self _)
      lt_next := fun e' _ _ hle => Nat.lt_succ_of_le hle }
  · exact { h with
      outstanding := by
        apply h.outstanding.of_perm
        apply List.Perm.refl }

theorem once_emitEvents {batchStart : ℕ} {events : List Event} (hs : s.shutdownEvent = false)
    (h : (r.atPoint (.emit batchStart events)).Once chain batchSize delivered s l) :
  OnceAfter chain batchSize delivered (r.emitEvents s l batchStart events)
  := by
  simp only [emitEvents, hs, Bool.false_eq_true, if_false]
  cases events with
  | nil => exact { h with point := by simp }
  | cons e events =>
      exact { h with
        point := by simp
        outstanding := h.outstanding.handleEvent
        lt_next := by
          intro e' he'
          apply h.lt_next e'
          simp only [await, Ledger.handled_handleEvent, List.append_assoc] at he'
          exact he' }

/-- The logs of the next batch were not handled, and are not in the buffer. -/
theorem once_fetched {batchStart : ℕ} {events : List Event} (hbatchSize : 0 < batchSize)
    (hr : r.point = .fetch batchStart) (h : r.Once chain batchSize delivered s l)
    (hevents : events.Perm (chain.logsBetween batchStart (r.batchEnd batchSize batchStart))) :
  (r.atPoint (.emit batchStart events)).Once chain batchSize delivered s l
  := by
  obtain ⟨buffer, hbuffer, hgt⟩ := h.buffered
  have hqueue : r.queue = [] := by
    rw [queue, hr]
  have hnext : r.next batchSize = batchStart := by
    rw [next, hr]
  have houtstanding := h.outstanding
  have hlt := h.lt_next
  have hstart := h.start_le
  rw [hbuffer, Option.getD_some, hqueue, List.nil_append] at houtstanding
  rw [hqueue, List.append_nil, hnext] at hlt
  rw [hnext] at hstart
  have hmem : ∀ e ∈ events, e ∈ chain ∧ batchStart ≤ e.block ∧ e.block ≤ r.endBlock
      ∧ e.block < batchStart + batchSize := by
    intro e he
    obtain ⟨hchain, hle, hle'⟩ := Chain.mem_logsBetween.mp (hevents.mem_iff.mp he)
    rw [batchEnd, le_min_iff] at hle'
    refine ⟨hchain, hle, hle'.2, ?_⟩
    omega
  have hnew : ∀ e ∈ events, e ∉ l.handled ++ eventsOf buffer := by
    intro e he hold
    obtain ⟨-, hle, hle', -⟩ := hmem e he
    obtain hhandled | hbuffered := List.mem_append.mp hold
    · have hlt' := hlt e hhandled (by omega) hle'
      omega
    · have hgt' := hgt e hbuffered
      omega
  exact { h with
    point := nofun
    outstanding := by
      rw [hbuffer, Option.getD_some]
      apply houtstanding.fetch _ _ _ hnew
      · apply hevents.symm.nodup (chain.nodup_logsBetween _ _)
      · intro e he
        apply (hmem e he).1
      · intro e he
        apply (hmem e he).2.2.1
    start_le := hstart.imp (Nat.le_add_right_of_le) (Nat.lt_add_right _)
    lt_next := by
      intro e he hstart' hle
      obtain hhandled | hqueued := List.mem_append.mp he
      · apply Nat.lt_add_right _ (hlt e hhandled hstart' hle)
      · apply (hmem e hqueued).2.2.2 }

/-- A step of a replay passes no log to `handle_event` that was passed before. -/
theorem once_step {answer : Answer} {result : ReplayResult} (hbatchSize : 0 < batchSize)
    (hs : s.shutdownEvent = false) (h : r.Once chain batchSize delivered s l)
    (hanswer : r.AnswerOk chain batchSize answer) (hraises : ∀ fault, answer ≠ .raises fault)
    (hstep : r.step batchSize s l answer = some result) :
  OnceAfter chain batchSize delivered result
  := by
  have hatPoint : ∀ {point}, r.point = point → r.atPoint point = r := by
    rintro _ rfl
    rfl
  cases steps_of_step hstep with
  | connected hpoint =>
      have hend : r.endBlock ≠ 0 := Nat.ne_of_gt h.endBlock
      simp only [hs, Bool.false_eq_true, if_false, hend]
      apply once_fetchBatch hs
      have houtstanding := h.outstanding
      have hlt := h.lt_next
      simp only [queue, next, hpoint] at houtstanding hlt
      exact { h with
        point := by simp
        outstanding := houtstanding
        start_le := Or.inl (le_refl _)
        lt_next := hlt }
  | endBlock n hpoint => cases h.point hpoint
  | fetched es hpoint =>
      apply once_emitEvents hs
      apply once_fetched hbatchSize hpoint h
      simpa only [AnswerOk, hpoint] using hanswer
  | stopped hpoint hstop => cases hstop.symm.trans hs
  | emitted hpoint =>
      apply once_emitEvents hs
      rw [hatPoint hpoint]
      apply h
  | marked hpoint =>
      apply once_fetchBatch hs
      have houtstanding := h.outstanding
      have hstart := h.start_le
      have hlt := h.lt_next
      simp only [queue, next, hpoint] at houtstanding hstart hlt
      exact { h with
        point := by simp
        outstanding := houtstanding.of_perm (List.Perm.refl _)
        start_le := hstart
        lt_next := hlt }
  | flushed hpoint =>
      apply once_flushItems hs
      rw [hatPoint hpoint]
      apply h
  | flushedBlock hpoint =>
      apply once_flushItems hs
      have houtstanding := h.outstanding
      simp only [queue, hpoint] at houtstanding
      exact { h with
        point := by simp
        outstanding := houtstanding.of_perm (List.Perm.refl _)
        start_le := Or.inr (Nat.lt_succ_self _)
        lt_next := fun e' _ _ hle => Nat.lt_succ_of_le hle }
  | raisedInFlush fault | raised fault => cases hraises fault rfl

/-! ### Start and live items -/

/-- A replay starts on a subscription that suppresses nothing and has no buffer, when no log
it will fetch was handled. -/
theorem once_replayBlocks {startBlock head : ℕ}
    (hthreshold : s.ignoreSubscriptionEventsUntilBlock = none)
    (hbuffer : s.bufferedSubscriptionItems = none)
    (h : Outstanding chain s.ignoreSubscriptionEventsUntilBlock delivered l [])
    (hhead : 0 < head) (hunseen : ∀ e ∈ l.handled, startBlock ≤ e.block → head < e.block)
    (hreplay : s.replayBlocks startBlock head (some head) = (s', r)) :
  r.Once chain batchSize delivered s' l
  := by
  cases hreplay
  rw [hthreshold] at h
  exact {
    suppresses := by simp [hthreshold]
    endBlock := hhead
    point := nofun
    previousBuffer := hbuffer
    buffered := ⟨[], rfl, nofun⟩
    outstanding := { h with delivered := fun e he _ => h.delivered e he nofun }
    start_le := Or.inl (le_refl _)
    lt_next := by
      intro e he hstart hle
      have hhandled : e ∈ l.handled := (List.mem_append.mp he).resolve_right nofun
      have hlt := hunseen e hhandled hstart
      simp only at hle
      omega }

/-- A live log is suppressed, or appended to the buffer. -/
theorem Once.emitEvent {e : Event} {handedOn : Option SubscriptionItem}
    (h : r.Once chain batchSize delivered s l) (hchain : e ∈ chain) (hnew : e ∉ delivered)
    (hemit : s.emitSubscriptionEvent e = (s', handedOn)) :
  handedOn = none ∧ r.Once chain batchSize (e :: delivered) s' l
  := by
  obtain ⟨buffer, hbuffer, hgt⟩ := h.buffered
  obtain ⟨-, heq⟩ | ⟨-, hignores, items, hitems, heq⟩ | ⟨-, -, hnone, -⟩ :=
    s.emitSubscriptionItem_cases (.event e)
  · rw [Subscription.emitSubscriptionEvent, heq] at hemit
    cases hemit
    use rfl
    exact { h with outstanding := h.outstanding.deliver e }
  · rw [Subscription.emitSubscriptionEvent, heq] at hemit
    cases hemit
    obtain rfl : buffer = items := Option.some.inj (hbuffer.symm.trans hitems)
    have hlt : r.endBlock < e.block := by
      by_contra hle
      have htrue := Subscription.ignores_iff.mpr ⟨r.endBlock, h.suppresses, Nat.le_of_not_lt hle⟩
      cases hignores.symm.trans htrue
    have hevents : eventsOf (buffer ++ [SubscriptionItem.event e]) = eventsOf buffer ++ [e] := by
      simp [eventsOf, SubscriptionItem.event?]
    use rfl
    exact { h with
      buffered := by
        refine ⟨buffer ++ [SubscriptionItem.event e], rfl, ?_⟩
        rw [hevents]
        intro e' he'
        obtain hold | hself := List.mem_append.mp he'
        · apply hgt e' hold
        · rw [List.mem_singleton.mp hself]
          apply hlt
      outstanding := by
        have houtstanding := h.outstanding
        rw [hbuffer, Option.getD_some] at houtstanding
        rw [Option.getD_some, hevents, ← List.append_assoc]
        apply houtstanding.push hchain _ hnew
        rintro _ ⟨⟩
        apply hlt }
  · cases hbuffer.symm.trans hnone

/-- A live block is suppressed, or appended to the buffer. -/
theorem Once.emitBlock {head : ℕ} {handedOn : Option SubscriptionItem}
    (h : r.Once chain batchSize delivered s l)
    (hemit : s.handleNewHeadSubscription head = (s', handedOn)) :
  handedOn = none ∧ r.Once chain batchSize delivered s' l
  := by
  obtain ⟨buffer, hbuffer, hgt⟩ := h.buffered
  simp only [Subscription.handleNewHeadSubscription] at hemit
  split at hemit
  · cases hemit
    use rfl
  obtain ⟨-, heq⟩ | ⟨-, -, items, hitems, heq⟩ | ⟨-, -, hnone, -⟩ :=
    s.emitSubscriptionItem_cases (.block ⟨head - 1⟩)
  · rw [Subscription.emitSubscriptionBlock, heq] at hemit
    cases hemit
    use rfl
  · rw [Subscription.emitSubscriptionBlock, heq] at hemit
    cases hemit
    obtain rfl : buffer = items := Option.some.inj (hbuffer.symm.trans hitems)
    have hevents : eventsOf (buffer ++ [SubscriptionItem.block ⟨head - 1⟩]) = eventsOf buffer := by
      simp [eventsOf, SubscriptionItem.event?]
    use rfl
    exact { h with
      buffered := by
        refine ⟨buffer ++ [SubscriptionItem.block ⟨head - 1⟩], rfl, ?_⟩
        rw [hevents]
        apply hgt
      outstanding := by
        have houtstanding := h.outstanding
        rw [hbuffer, Option.getD_some] at houtstanding
        rw [Option.getD_some, hevents]
        apply houtstanding }
  · cases hbuffer.symm.trans hnone

end Replay

/-- Without a buffer a live log is suppressed, or handed on for the first time. -/
theorem Outstanding.emitEvent {chain : Chain} {delivered : List Event} {s s' : Subscription}
    {l l' : Ledger} {e : Event} {handedOn : Option SubscriptionItem}
    (h : Outstanding chain s.ignoreSubscriptionEventsUntilBlock delivered l [])
    (hchain : e ∈ chain) (hnew : e ∉ delivered)
    (hemit : s.emitSubscriptionEvent e = (s', handedOn)) (hnone : handedOn = none → l' = l)
    (hsome : handedOn = some (.event e) → l' = l.handleEvent e) :
  Outstanding chain s.ignoreSubscriptionEventsUntilBlock (e :: delivered) l' []
  := by
  obtain ⟨-, heq⟩ | ⟨-, -, items, -, heq⟩ | ⟨-, hignores, -, heq⟩ :=
    s.emitSubscriptionItem_cases (.event e)
  all_goals
    rw [Subscription.emitSubscriptionEvent, heq] at hemit
    cases hemit
  · rw [hnone rfl]
    apply h.deliver e
  · rw [hnone rfl]
    apply h.deliver e
  · rw [hsome rfl]
    apply Outstanding.handleEvent
    apply h.push hchain _ hnew
    intro n hn
    by_contra hle
    have htrue := Subscription.ignores_iff.mpr ⟨n, hn, Nat.le_of_not_lt hle⟩
    cases hignores.symm.trans htrue

end Sentinel
