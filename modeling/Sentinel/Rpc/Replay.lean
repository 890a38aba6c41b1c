import Sentinel.Rpc.Subscription

/-!
# Replaying blocks

`Subscription.replay_blocks` as a machine: a `Replay` is a call that is in progress, its
`ReplayPoint` is what the call awaits, and `Replay.step` is what the call does from one
await to the next one. While the call runs, live items are buffered; when the last batch is
done the buffer is flushed, in chain order, until it stays empty.
-/

namespace Sentinel

/-- The persisted block, the events passed to `ModuleRuntime.handle_event` so far, and the
block ranges whose logs replays requested so far. -/
structure Ledger where
  block : ℕ
  handled : List Event
  fetched : List (ℕ × ℕ)

namespace Ledger

/-- An event is passed to `handle_event`. -/
def handleEvent (l : Ledger) (e : Event) : Ledger :=
  { l with handled := l.handled ++ [e] }

/-- `ModuleRuntime._advance_block`. -/
def advanceBlock (l : Ledger) (number : ℕ) : Ledger :=
  { l with block := max l.block number }

/-- The logs of a block range are requested. -/
def fetchLogs (l : Ledger) (batchStart batchEnd : ℕ) : Ledger :=
  { l with fetched := l.fetched ++ [(batchStart, batchEnd)] }

@[simp]
theorem block_handleEvent (l : Ledger) (e : Event) :
  (l.handleEvent e).block = l.block
  := rfl

@[simp]
theorem handled_handleEvent (l : Ledger) (e : Event) :
  (l.handleEvent e).handled = l.handled ++ [e]
  := rfl

@[simp]
theorem fetched_handleEvent (l : Ledger) (e : Event) :
  (l.handleEvent e).fetched = l.fetched
  := rfl

@[simp]
theorem block_advanceBlock (l : Ledger) (number : ℕ) :
  (l.advanceBlock number).block = max l.block number
  := rfl

@[simp]
theorem handled_advanceBlock (l : Ledger) (number : ℕ) :
  (l.advanceBlock number).handled = l.handled
  := rfl

@[simp]
theorem fetched_advanceBlock (l : Ledger) (number : ℕ) :
  (l.advanceBlock number).fetched = l.fetched
  := rfl

@[simp]
theorem block_fetchLogs (l : Ledger) (batchStart batchEnd : ℕ) :
  (l.fetchLogs batchStart batchEnd).block = l.block
  := rfl

@[simp]
theorem handled_fetchLogs (l : Ledger) (batchStart batchEnd : ℕ) :
  (l.fetchLogs batchStart batchEnd).handled = l.handled
  := rfl

@[simp]
theorem fetched_fetchLogs (l : Ledger) (batchStart batchEnd : ℕ) :
  (l.fetchLogs batchStart batchEnd).fetched = l.fetched ++ [(batchStart, batchEnd)]
  := rfl

/-- A ledger is at or after another one when its block is not lower and events were only
added to those passed to `handle_event`. -/
instance : Preorder Ledger where
  le l l' := l.block ≤ l'.block ∧ l.handled <+: l'.handled
  le_refl l := ⟨le_refl l.block, List.prefix_refl l.handled⟩
  le_trans _ _ _ h h' := ⟨le_trans h.1 h'.1, h.2.trans h'.2⟩

theorem mem_handled_of_le {l l' : Ledger} (h : l ≤ l') {e : Event} (he : e ∈ l.handled) :
  e ∈ l'.handled
  := h.2.subset he

theorem le_handleEvent (l : Ledger) (e : Event) :
  l ≤ l.handleEvent e
  := ⟨le_refl l.block, List.prefix_append l.handled [e]⟩

theorem le_advanceBlock (l : Ledger) (number : ℕ) :
  l ≤ l.advanceBlock number
  := ⟨le_max_left l.block number, List.prefix_refl l.handled⟩

theorem le_fetchLogs (l : Ledger) (batchStart batchEnd : ℕ) :
  l ≤ l.fetchLogs batchStart batchEnd
  := ⟨le_refl l.block, List.prefix_refl l.handled⟩

end Ledger

/-- An exception: an `RpcAvailabilityError`, or another one. -/
inductive Fault where
  | unavailable
  | other
deriving DecidableEq

/-- What a replay awaits. -/
inductive ReplayPoint where
  /-- the provider of the log reader -/
  | connected
  /-- `get_block_number`, for a replay without an end block -/
  | endBlock
  /-- `fetch_events` -/
  | fetch (batchStart : ℕ)
  /-- `handle_event`, with the events of the batch still to be emitted -/
  | emit (batchStart : ℕ) (events : List Event)
  /-- `handle_block` for the last block of the batch -/
  | mark (batchStart : ℕ)
  /-- `handle_event` for a buffered event, with the items still to be flushed -/
  | flush (items : List SubscriptionItem)
  /-- `handle_block` for a buffered block, with the items still to be flushed -/
  | flushBlock (number : ℕ) (items : List SubscriptionItem)

/-- A call of `replay_blocks` in progress. The end block is `0` when none was given. -/
structure Replay where
  startBlock : ℕ
  endBlock : ℕ
  previousBuffer : Option (List SubscriptionItem)
  point : ReplayPoint

/-- How an await of a replay ends. -/
inductive Answer where
  | proceed
  | blockNumber (n : ℕ)
  | events (es : List Event)
  | raises (fault : Fault)

/-- What became of a replay. -/
inductive Outcome where
  | running (r : Replay)
  | returned
  | raised (fault : Fault)

/-- The subscription, the ledger and the replay after a step. -/
abbrev ReplayResult := Subscription × Ledger × Outcome

namespace Subscription

/-- The start of `replay_blocks`, up to its first await. -/
def replayBlocks (s : Subscription) (startBlock endBlock : ℕ)
    (suppressLiveEventsUntil : Option ℕ) : Subscription × Replay :=
  let threshold := match suppressLiveEventsUntil with
    | none => s.ignoreSubscriptionEventsUntilBlock
    | some n => some (max (s.ignoreSubscriptionEventsUntilBlock.getD 0) n)
  ({ s with
      ignoreSubscriptionEventsUntilBlock := threshold
      bufferedSubscriptionItems := some [] },
    { startBlock := startBlock
      endBlock := endBlock
      previousBuffer := s.bufferedSubscriptionItems
      point := .connected })

end Subscription

namespace Replay

variable (batchSize : ℕ) (s : Subscription) (l : Ledger) (r : Replay)

/-- The last block of a batch. -/
def batchEnd (batchStart : ℕ) : ℕ :=
  min (batchStart + batchSize - 1) r.endBlock

/-- The replay awaits something else. -/
def await (point : ReplayPoint) : ReplayResult :=
  (s, l, .running { r with point := point })

/-- Put back the buffer from before the call. -/
def restoreBuffer : Subscription :=
  { s with bufferedSubscriptionItems := r.previousBuffer }

/-- Hand on a buffered item. -/
def emitBuffered (items : List SubscriptionItem) : SubscriptionItem → ReplayResult
  | .event e => r.await s (l.handleEvent e) (.flush items)
  | .block b => r.await s l (.flushBlock b.number items)

/-- `_flush_buffered_subscription_items` from the check of the buffer on. -/
def flushBuffer : ReplayResult :=
  let bufferedItems := s.bufferedSubscriptionItems.getD []
  if bufferedItems.isEmpty then (r.restoreBuffer s, l, .returned)
  else match sortBy SubscriptionItem.sortKey bufferedItems with
    | [] => (r.restoreBuffer s, l, .returned)
    | item :: items => r.emitBuffered { s with bufferedSubscriptionItems := some [] } l items item

/-- Go on with the flush, unless a shutdown was requested: with the next item, or with the
items buffered meanwhile. -/
def flushItems (items : List SubscriptionItem) : ReplayResult :=
  if s.shutdownEvent then (r.restoreBuffer s, l, .returned)
  else match items with
    | [] => r.flushBuffer s l
    | item :: items => r.emitBuffered s l items item

/-- `_replay_blocks` has returned: flush the buffer unless a shutdown was requested. -/
def complete : ReplayResult :=
  r.flushItems s l []

/-- Fetch the batch that starts at a block, if it is in the range. -/
def fetchBatch (batchStart : ℕ) : ReplayResult :=
  if s.shutdownEvent || r.endBlock < batchStart then r.complete s l
  else r.await s (l.fetchLogs batchStart (r.batchEnd batchSize batchStart)) (.fetch batchStart)

/-- Go on with the events of a batch, and complete its last block after them. -/
def emitEvents (batchStart : ℕ) (events : List Event) : ReplayResult :=
  if s.shutdownEvent then r.complete s l
  else match events with
    | [] => r.await s l (.mark batchStart)
    | e :: events => r.await s (l.handleEvent e) (.emit batchStart events)

/-- What the replay does when its await ends, up to the next one. -/
def step (answer : Answer) : Option ReplayResult :=
  match r.point, answer with
  | .connected, .proceed =>
      some (
        if s.shutdownEvent then r.complete s l
        else if r.endBlock = 0 then r.await s l .endBlock
        else r.fetchBatch batchSize s l r.startBlock)
  | .endBlock, .blockNumber n =>
      some (fetchBatch batchSize s l { r with endBlock := n } r.startBlock)
  | .fetch batchStart, .events es => some (r.emitEvents s l batchStart es)
  | .fetch _, .proceed =>
      -- the stop event of the log reader ends the request
      if s.shutdownEvent then some (r.complete s l) else none
  | .emit batchStart es, .proceed => some (r.emitEvents s l batchStart es)
  | .mark batchStart, .proceed =>
      some (r.fetchBatch batchSize s (l.advanceBlock (r.batchEnd batchSize batchStart))
        (batchStart + batchSize))
  | .flush items, .proceed => some (r.flushItems s l items)
  | .flushBlock number items, .proceed => some (r.flushItems s (l.advanceBlock number) items)
  -- an error during the flush leaves the buffer as it is
  | .flush _, .raises fault => some (s, l, .raised fault)
  | .flushBlock _ _, .raises fault => some (s, l, .raised fault)
  | _, .raises fault => some (r.restoreBuffer s, l, .raised fault)
  | _, _ => none

/-- The end of an await that `mark_progress` follows: the last block of a batch is done. -/
def marksProgress (answer : Answer) : Bool :=
  match r.point, answer with
  | .mark _, .proceed => true
  | _, _ => false

/-! ### What a step of a replay changes -/

/-- A replay changes nothing of its subscription but the buffer, and its ledger only grows. -/
def Extends (s : Subscription) (l : Ledger) (result : ReplayResult) : Prop :=
  (∃ buffer, result.1 = { s with bufferedSubscriptionItems := buffer }) ∧ l ≤ result.2.1

variable {batchSize s l r}

theorem extends_await {l' : Ledger} (h : l ≤ l') (point : ReplayPoint) :
  Extends s l (r.await s l' point)
  := ⟨⟨s.bufferedSubscriptionItems, rfl⟩, h⟩

theorem extends_restoreBuffer (outcome : Outcome) :
  Extends s l (r.restoreBuffer s, l, outcome)
  := ⟨⟨r.previousBuffer, rfl⟩, le_refl l⟩

theorem Extends.of_le {l' : Ledger} {result : ReplayResult} (h : Extends s l' result)
    (hle : l ≤ l') :
  Extends s l result
  := ⟨h.1, le_trans hle h.2⟩

theorem extends_emitBuffered (buffer : Option (List SubscriptionItem))
    (items : List SubscriptionItem) (item : SubscriptionItem) :
  Extends s l (r.emitBuffered { s with bufferedSubscriptionItems := buffer } l items item)
  := by
  cases item with
  | event e => apply And.intro ⟨buffer, rfl⟩ (l.le_handleEvent e)
  | block b => apply And.intro ⟨buffer, rfl⟩ (le_refl l)

theorem extends_flushItems (items : List SubscriptionItem) :
  Extends s l (r.flushItems s l items)
  := by
  simp only [flushItems, flushBuffer]
  split
  · apply extends_restoreBuffer
  · split
    · split
      · apply extends_restoreBuffer
      · split
        · apply extends_restoreBuffer
        · apply extends_emitBuffered
    · apply extends_emitBuffered s.bufferedSubscriptionItems

theorem extends_fetchBatch (batchStart : ℕ) :
  Extends s l (r.fetchBatch batchSize s l batchStart)
  := by
  simp only [fetchBatch]
  split
  · apply extends_flushItems
  · apply extends_await (l.le_fetchLogs _ _)

theorem extends_emitEvents (batchStart : ℕ) (events : List Event) :
  Extends s l (r.emitEvents s l batchStart events)
  := by
  simp only [emitEvents]
  split
  · apply extends_flushItems
  · split
    · apply extends_await (le_refl l)
    · apply extends_await (l.le_handleEvent _)

variable (batchSize s l r) in
/-- What the end of an await leads to, with where the replay was. -/
inductive Steps : Answer → ReplayResult → Prop where
  | connected (hpoint : r.point = .connected) :
      Steps .proceed
        (if s.shutdownEvent then r.complete s l
          else if r.endBlock = 0 then r.await s l .endBlock
          else r.fetchBatch batchSize s l r.startBlock)
  | endBlock (n : ℕ) (hpoint : r.point = .endBlock) :
      Steps (.blockNumber n) (fetchBatch batchSize s l { r with endBlock := n } r.startBlock)
  | fetched {batchStart : ℕ} (es : List Event) (hpoint : r.point = .fetch batchStart) :
      Steps (.events es) (r.emitEvents s l batchStart es)
  | stopped {batchStart : ℕ} (hpoint : r.point = .fetch batchStart)
      (hstop : s.shutdownEvent = true) : Steps .proceed (r.complete s l)
  | emitted {batchStart : ℕ} {es : List Event} (hpoint : r.point = .emit batchStart es) :
      Steps .proceed (r.emitEvents s l batchStart es)
  | marked {batchStart : ℕ} (hpoint : r.point = .mark batchStart) :
      Steps .proceed (r.fetchBatch batchSize s
        (l.advanceBlock (r.batchEnd batchSize batchStart)) (batchStart + batchSize))
  | flushed {items : List SubscriptionItem} (hpoint : r.point = .flush items) :
      Steps .proceed (r.flushItems s l items)
  | flushedBlock {number : ℕ} {items : List SubscriptionItem}
      (hpoint : r.point = .flushBlock number items) :
      Steps .proceed (r.flushItems s (l.advanceBlock number) items)
  | raisedInFlush (fault : Fault)
      (hpoint : ∃ items, r.point = .flush items ∨ ∃ number, r.point = .flushBlock number items) :
      Steps (.raises fault) (s, l, .raised fault)
  | raised (fault : Fault) : Steps (.raises fault) (r.restoreBuffer s, l, .raised fault)

/-- Every step of a replay is one of these. -/
theorem steps_of_step {answer : Answer} {result : ReplayResult}
    (h : r.step batchSize s l answer = some result) :
  Steps batchSize s l r answer result
  := by
  simp only [step] at h
  split at h
  next hpoint =>
      obtain rfl := Option.some.inj h
      apply Steps.connected hpoint
  next n hpoint =>
      obtain rfl := Option.some.inj h
      apply Steps.endBlock n hpoint
  next batchStart es hpoint =>
      obtain rfl := Option.some.inj h
      apply Steps.fetched es hpoint
  next batchStart hpoint =>
      obtain ⟨hstop, h⟩ := Option.ite_none_right_eq_some.mp h
      obtain rfl := Option.some.inj h
      apply Steps.stopped hpoint hstop
  next batchStart es hpoint =>
      obtain rfl := Option.some.inj h
      apply Steps.emitted hpoint
  next batchStart hpoint =>
      obtain rfl := Option.some.inj h
      apply Steps.marked hpoint
  next items hpoint =>
      obtain rfl := Option.some.inj h
      apply Steps.flushed hpoint
  next number items hpoint =>
      obtain rfl := Option.some.inj h
      apply Steps.flushedBlock hpoint
  next items fault hpoint =>
      obtain rfl := Option.some.inj h
      apply Steps.raisedInFlush fault ⟨items, Or.inl hpoint⟩
  next number items fault hpoint =>
      obtain rfl := Option.some.inj h
      apply Steps.raisedInFlush fault ⟨items, Or.inr ⟨number, hpoint⟩⟩
  next fault _ _ =>
      obtain rfl := Option.some.inj h
      apply Steps.raised fault
  next => cases h

theorem extends_step {answer : Answer} {result : ReplayResult}
    (h : r.step batchSize s l answer = some result) :
  Extends s l result
  := by
  cases steps_of_step h with
  | connected hpoint =>
      split
      · apply extends_flushItems
      · split
        · apply extends_await (le_refl l)
        · apply extends_fetchBatch
  | endBlock n hpoint => apply extends_fetchBatch
  | fetched es hpoint => apply extends_emitEvents
  | stopped hpoint hstop => apply extends_flushItems
  | emitted hpoint => apply extends_emitEvents
  | marked hpoint => apply (extends_fetchBatch _).of_le (l.le_advanceBlock _)
  | flushed hpoint => apply extends_flushItems
  | flushedBlock hpoint => apply (extends_flushItems _).of_le (l.le_advanceBlock _)
  | raisedInFlush fault hpoint =>
      apply And.intro ⟨s.bufferedSubscriptionItems, rfl⟩ (le_refl l)
  | raised fault => apply extends_restoreBuffer

/-- A step of a replay changes nothing of its subscription but the buffer. -/
theorem subscription_eq_of_step {answer : Answer} {s' : Subscription} {l' : Ledger}
    {outcome : Outcome} (h : r.step batchSize s l answer = some (s', l', outcome)) :
  ∃ buffer, s' = { s with bufferedSubscriptionItems := buffer }
  := (extends_step h).1

/-- A step of a replay never takes the persisted block back and forgets no event. -/
theorem le_of_step {answer : Answer} {s' : Subscription} {l' : Ledger} {outcome : Outcome}
    (h : r.step batchSize s l answer = some (s', l', outcome)) :
  l ≤ l'
  := (extends_step h).2

end Replay

end Sentinel
