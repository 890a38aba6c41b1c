import Sentinel.Rpc.EventLogs
import Sentinel.Rpc.Replay
import Sentinel.Transition

/-!
# Delivery to consumers

A call of `replay_blocks` on a subscription with any number of consumers, statement by
statement: a `CallPoint` is where the call is, in `replay_blocks`, `_replay_blocks`, the loops
over the consumers of an item, or the flush of the buffer. Live items and the shutdown come in
while the call awaits something, and only then. A `Delivery` is a call of `handle_event` or
`handle_block` of one consumer.
-/

namespace Sentinel

/-- Decoding a log: the block of the event is the block of the log. -/
structure EventDecoder (τ ι δ : Type) where
  decodeEvent : EventAbi ι → LogReceipt τ δ → Event
  block_decodeEvent : ∀ eventAbi log, (decodeEvent eventAbi log).block = log.blockNumber

/-- What does not change during a call: the reader and what it reads, and the consumers. -/
structure Backfill (τ ι δ κ : Type) where
  reader : Web3EventLogReader τ ι
  chain : ChainLogs τ δ
  decoder : EventDecoder τ ι δ
  batchSize : ℕ
  batchSize_pos : 1 ≤ batchSize
  eventConsumers : List κ
  blockConsumers : List κ
  nodup_eventConsumers : eventConsumers.Nodup
  nodup_blockConsumers : blockConsumers.Nodup

namespace Backfill

variable {τ ι δ κ : Type} [DecidableEq τ] (b : Backfill τ ι δ κ)

/-- The events that the sources hand on of the logs of the chain. -/
def events : List Event :=
  match buildSubscriptions b.reader.abiByTopics b.reader.eventSources with
  | .ok subscriptions => subscriptions.flatMap fun s =>
      b.chain.logs.filterMap (s.handed b.decoder.decodeEvent b.reader.abiByTopics)
  | .error _ => []

/-- The events of a range of blocks. -/
def eventsIn (startBlock endBlock : ℕ) : List Event :=
  b.events.filter fun e => startBlock ≤ e.block ∧ e.block ≤ endBlock

omit [DecidableEq τ] in
/-- The events of the logs of a range are the events of the range. -/
theorem filterMap_range {f : LogReceipt τ δ → Option Event}
    (hf : ∀ log e, f log = some e → e.block = log.blockNumber) (startBlock endBlock : ℕ) :
  (b.chain.range startBlock endBlock).filterMap f
    = (b.chain.logs.filterMap f).filter fun e => startBlock ≤ e.block ∧ e.block ≤ endBlock
  := by
  rw [ChainLogs.range]
  induction b.chain.logs with
  | nil => rfl
  | cons log logs ih =>
      cases hlog : f log with
      | none =>
          rw [List.filterMap_cons_none hlog, ← ih, List.filter_cons]
          split
          · rw [List.filterMap_cons_none hlog]
          · rfl
      | some e =>
          rw [List.filterMap_cons_some hlog, List.filter_cons, List.filter_cons, ← ih,
            hf log e hlog]
          split
          · rw [List.filterMap_cons_some hlog]
          · rfl

/-- The event that a subscription hands on of a log is of the block of the log. -/
theorem block_of_handed (s : LogsSubscription τ) {log : LogReceipt τ δ} {e : Event}
    (h : s.handed b.decoder.decodeEvent b.reader.abiByTopics log = some e) :
  e.block = log.blockNumber
  := by
  rw [LogsSubscription.handed] at h
  split at h
  · obtain ⟨h, -⟩ := Option.filter_eq_some_iff.mp h
    obtain ⟨eventAbi, -, rfl⟩ := Option.map_eq_some_iff.mp h
    apply b.decoder.block_decodeEvent
  · cases h

/-- The reader returns the events of a range in chain order. -/
theorem fetchEvents_eq {env : Environment} {state : ReaderState} {startBlock endBlock : ℕ}
    {events : List Event}
    (h : b.reader.fetchEvents b.decoder.decodeEvent b.chain env startBlock endBlock state
      = .ok (some events)) :
  events = sortBy Event.chainPosition (b.eventsIn startBlock endBlock)
  := by
  have hspec := b.reader.fetchEvents_spec b.decoder.decodeEvent b.chain env startBlock endBlock
    state
  rw [h] at hspec
  obtain ⟨subscriptions, handed, hbuilt, hhanded, rfl⟩ := hspec
  have hhand : (fun s : LogsSubscription τ => s.handAll b.decoder.decodeEvent
        b.reader.abiByTopics (b.chain.range startBlock endBlock))
      = fun s => pure ((b.chain.range startBlock endBlock).filterMap
          (s.handed b.decoder.decodeEvent b.reader.abiByTopics)) := by
    funext s
    apply s.handAll_eq_ok
    · apply Web3EventLogReader.topics_ne_nil_of_mem_range
    · intro log hlog
      apply b.chain.not_removed log (List.mem_of_mem_filter hlog)
  rw [hhand, List.mapM_pure] at hhanded
  obtain rfl := Except.ok.inj hhanded
  rw [eventsIn, events, hbuilt, ← List.flatMap_def]
  congr 1
  simp only [List.filter_flatMap]
  apply List.flatMap_congr
  intro s _
  apply b.filterMap_range
  intro log e
  apply b.block_of_handed

end Backfill

/-- An item passed to a consumer. -/
structure Delivery (κ : Type) where
  consumer : κ
  item : SubscriptionItem
  /-- the item was received live and buffered -/
  live : Bool

/-- Where the call goes on when an item was emitted. -/
inductive Rest where
  /-- with the rest of the events of a batch -/
  | events (batchStart : ℕ) (events : List Event)
  /-- with the batch after the one whose last block was emitted -/
  | marked (batchStart : ℕ)
  /-- with the rest of the buffered items -/
  | flush (items : List SubscriptionItem)

/-- The emitted item was buffered. -/
def Rest.live : Rest → Bool
  | events _ _ | marked _ => false
  | flush _ => true

/-- Where a call of `replay_blocks` is. -/
inductive CallPoint (κ : Type) where
  /-- awaits `connected_w3` -/
  | connect
  /-- awaits `get_block_number` -/
  | blockNumber
  /-- at the head of the loop over the batches -/
  | batch (batchStart : ℕ)
  /-- awaits `fetch_events` -/
  | fetch (batchStart : ℕ)
  /-- at the head of the loop over the events of a batch -/
  | events (batchStart : ℕ) (events : List Event)
  /-- in `_emit_event` or `_emit_block`, at the head of the loop over the consumers -/
  | emit (item : SubscriptionItem) (consumers : List κ) (rest : Rest)
  /-- awaits a consumer -/
  | handle (item : SubscriptionItem) (consumers : List κ) (rest : Rest)
  /-- awaits `asyncio.sleep(0)` -/
  | pause (batchStart : ℕ) (events : List Event)
  /-- `_replay_blocks` has returned -/
  | finish
  /-- at the head of the `while` loop of the flush -/
  | flush
  /-- at the head of the loop over the sorted items -/
  | flushItems (items : List SubscriptionItem)
  | returned
  | raised (fault : Fault)

namespace CallPoint

variable {κ : Type}

/-- The call awaits something. -/
def awaits : CallPoint κ → Bool
  | connect | blockNumber | fetch _ | handle _ _ _ | pause _ _ => true
  | _ => false

/-- The call awaits a consumer of a buffered item. -/
def flushing : CallPoint κ → Bool
  | handle _ _ rest => rest.live
  | _ => false

/-- The call is in `_replay_blocks`, or it has just returned. -/
def replaying : CallPoint κ → Bool
  | emit _ _ rest | handle _ _ rest => !rest.live
  | flush | flushItems _ | returned | raised _ => false
  | _ => true

/-- The call has ended. -/
def ended : CallPoint κ → Bool
  | returned | raised _ => true
  | _ => false

end CallPoint

/-- A call of `replay_blocks`. The end block is `0` when none was given. -/
structure ReplayCall (κ : Type) where
  subscription : Subscription
  previousBuffer : Option (List SubscriptionItem)
  /-- the buffer of the subscription is the one that the call put there -/
  ownBuffer : Bool
  startBlock : ℕ
  endBlock : ℕ
  point : CallPoint κ
  deliveries : List (Delivery κ)
  /-- the live items received so far -/
  arrived : List SubscriptionItem
  /-- the batches requested so far -/
  fetched : List (ℕ × ℕ)

/-- What happens next. -/
inductive CallAction where
  /-- a live log is received -/
  | log (e : Event)
  /-- a new head is received -/
  | head (number : ℕ)
  | shutdown
  /-- the call goes on -/
  | proceed
  /-- `connected_w3` returns a provider, or `None` -/
  | connected (w3 : Bool)
  | blockNumber (n : ℕ)
  /-- `fetch_events` ends -/
  | fetched (env : Environment) (state : ReaderState)
  /-- an exception is raised where the call awaits, a cancellation among them -/
  | raises (fault : Fault)

/-- The exception with which a reader is interrupted. -/
def Interrupt.fault : Interrupt → Fault
  | rpcError _ => .unavailable
  | stopped | runtimeError _ | indexError => .other

namespace ReplayCall

variable {τ ι δ κ : Type} [DecidableEq τ] (b : Backfill τ ι δ κ) (c : ReplayCall κ)

/-- The start of `replay_blocks`, up to its first await. -/
def start (κ : Type) (s : Subscription) (startBlock endBlock : ℕ)
    (suppressLiveEventsUntil : Option ℕ) : ReplayCall κ where
  subscription := (s.replayBlocks startBlock endBlock suppressLiveEventsUntil).1
  previousBuffer := s.bufferedSubscriptionItems
  ownBuffer := true
  startBlock := startBlock
  endBlock := endBlock
  point := .connect
  deliveries := []
  arrived := []
  fetched := []

/-- The call goes to another point. -/
def goto (point : CallPoint κ) : ReplayCall κ :=
  { c with point := point }

/-- The buffer from before the call is put back, and the call goes to another point. -/
def restore (point : CallPoint κ) : ReplayCall κ :=
  { c with
    subscription := { c.subscription with bufferedSubscriptionItems := c.previousBuffer }
    ownBuffer := false
    point := point }

/-- The buffered live items. -/
def buffered : List SubscriptionItem :=
  c.subscription.bufferedSubscriptionItems.getD []

/-- The last block of a batch. -/
def batchEnd (batchStart : ℕ) : ℕ :=
  min (batchStart + b.batchSize - 1) c.endBlock

/-- The consumers of an item. -/
def consumersOf : SubscriptionItem → List κ
  | .event _ => b.eventConsumers
  | .block _ => b.blockConsumers

/-- Where `_emit_event` and `_emit_block` return to. -/
def resume : Rest → CallPoint κ
  | .events batchStart events =>
      if c.subscription.shutdownEvent then .finish else .pause batchStart events
  | .marked batchStart => .batch (batchStart + b.batchSize)
  | .flush items => .flushItems items

/-- Emit an item to its consumers. -/
def emit (item : SubscriptionItem) (rest : Rest) : ReplayCall κ :=
  c.goto (.emit item (consumersOf b item) rest)

/-- An exception leaves the call. Out of the flush it leaves the buffer of the call in place. -/
def raise (fault : Fault) : ReplayCall κ :=
  if c.point.flushing then c.goto (.raised fault) else c.restore (.raised fault)

/-- What the call does when it goes on. -/
def proceed : Option (ReplayCall κ) :=
  match c.point with
  | .batch batchStart =>
      -- a stopped reader returns `None` at once
      if c.subscription.shutdownEvent || c.endBlock < batchStart then some (c.goto .finish)
      else
        some { c with
          fetched := c.fetched ++ [(batchStart, c.batchEnd b batchStart)]
          point := .fetch batchStart }
  | .events batchStart [] =>
      if c.subscription.shutdownEvent then some (c.goto .finish)
      else some (c.emit b (.block ⟨c.batchEnd b batchStart⟩) (.marked batchStart))
  | .events batchStart (e :: events) =>
      some (c.emit b (.event e) (.events batchStart events))
  | .emit item consumers rest =>
      if c.subscription.shutdownEvent then some (c.goto (c.resume b rest))
      else match consumers with
        | [] => some (c.goto (c.resume b rest))
        | k :: consumers =>
            some { c with
              deliveries := c.deliveries ++ [⟨k, item, rest.live⟩]
              point := .handle item consumers rest }
  | .handle item consumers rest => some (c.goto (.emit item consumers rest))
  | .pause batchStart events => some (c.goto (.events batchStart events))
  | .finish =>
      if c.subscription.shutdownEvent then some (c.restore .returned) else some (c.goto .flush)
  | .flush =>
      if c.buffered.isEmpty || c.subscription.shutdownEvent then some (c.restore .returned)
      else
        some { c with
          subscription := { c.subscription with bufferedSubscriptionItems := some [] }
          point := .flushItems (sortBy SubscriptionItem.sortKey c.buffered) }
  | .flushItems [] => some (c.goto .flush)
  | .flushItems (item :: items) =>
      if c.subscription.shutdownEvent then some (c.restore .returned)
      else some (c.emit b item (.flush items))
  | _ => none

/-- How the call goes on when the reader, the provider or the node answers. -/
def answer : CallAction → Option (ReplayCall κ)
  | .connected w3 =>
      match c.point with
      | .connect =>
          if w3 then
            some (c.goto (if c.endBlock = 0 then .blockNumber else .batch c.startBlock))
          else if c.subscription.shutdownEvent then some (c.goto .finish)
          else none
      | _ => none
  | .blockNumber n =>
      match c.point with
      | .blockNumber => some { c with endBlock := n, point := .batch c.startBlock }
      | _ => none
  | .fetched env state =>
      match c.point with
      | .fetch batchStart =>
          match b.reader.fetchEvents b.decoder.decodeEvent b.chain env batchStart
              (c.batchEnd b batchStart) state with
          | .ok (some events) => some (c.goto (.events batchStart events))
          | .ok none => if c.subscription.shutdownEvent then some (c.goto .finish) else none
          | .error e => some (c.raise e.fault)
      | _ => none
  | _ => none

/-- A live item is received. -/
def receive (item : SubscriptionItem) (s : Subscription) : ReplayCall κ :=
  { c with subscription := s, arrived := c.arrived ++ [item] }

/-- What happens to a call. -/
def step : CallAction → Option (ReplayCall κ)
  | .log e =>
      if c.point.awaits then some (c.receive (.event e) (c.subscription.emitSubscriptionEvent e).1)
      else none
  | .head number =>
      if c.point.awaits then
        if number = 0 then some c
        else
          some (c.receive (.block ⟨number - 1⟩) (c.subscription.handleNewHeadSubscription number).1)
      else none
  | .shutdown =>
      if c.point.awaits then some { c with subscription := c.subscription.requestShutdown }
      else none
  | .raises fault => if c.point.awaits then some (c.raise fault) else none
  | .proceed => c.proceed b
  | action => c.answer b action

/-! ### What a step changes -/

/-- The moves of a call, with what the call has found out when it makes them. -/
inductive Moves : ReplayCall κ → Prop where
  | receive (item : SubscriptionItem) (hawaits : c.point.awaits = true) :
      Moves (c.receive item (c.subscription.emitSubscriptionItem item).1)
  | ignore : Moves c
  | shutdown (hawaits : c.point.awaits = true) :
      Moves { c with subscription := c.subscription.requestShutdown }
  | raise (fault : Fault) (hawaits : c.point.awaits = true) : Moves (c.raise fault)
  | knowEnd (hpoint : c.point = .connect) (hend : c.endBlock ≠ 0) :
      Moves (c.goto (.batch c.startBlock))
  | askEnd (hpoint : c.point = .connect) (hend : c.endBlock = 0) :
      Moves (c.goto .blockNumber)
  | getEnd (n : ℕ) (hpoint : c.point = .blockNumber) :
      Moves { c with endBlock := n, point := .batch c.startBlock }
  | stop (hpoint : c.point = .connect ∨
        (∃ batchStart, c.point = .batch batchStart ∨ c.point = .fetch batchStart ∨
          c.point = .events batchStart []))
      (hstop : c.subscription.shutdownEvent = true) : Moves (c.goto .finish)
  | rangeDone (batchStart : ℕ) (hpoint : c.point = .batch batchStart)
      (hend : c.endBlock < batchStart) : Moves (c.goto .finish)
  | fetch (batchStart : ℕ) (hpoint : c.point = .batch batchStart)
      (hend : batchStart ≤ c.endBlock) (hstop : c.subscription.shutdownEvent = false) :
      Moves { c with
        fetched := c.fetched ++ [(batchStart, c.batchEnd b batchStart)]
        point := .fetch batchStart }
  | fetched (batchStart : ℕ) (hpoint : c.point = .fetch batchStart) :
      Moves (c.goto (.events batchStart
        (sortBy Event.chainPosition (b.eventsIn batchStart (c.batchEnd b batchStart)))))
  | emitBlock (batchStart : ℕ) (hpoint : c.point = .events batchStart [])
      (hstop : c.subscription.shutdownEvent = false) :
      Moves (c.emit b (.block ⟨c.batchEnd b batchStart⟩) (.marked batchStart))
  | emitEvent (batchStart : ℕ) (e : Event) (events : List Event)
      (hpoint : c.point = .events batchStart (e :: events)) :
      Moves (c.emit b (.event e) (.events batchStart events))
  | skip (item : SubscriptionItem) (consumers : List κ) (rest : Rest)
      (hpoint : c.point = .emit item consumers rest)
      (hstop : c.subscription.shutdownEvent = true) : Moves (c.goto (c.resume b rest))
  | emitted (item : SubscriptionItem) (rest : Rest) (hpoint : c.point = .emit item [] rest)
      (hstop : c.subscription.shutdownEvent = false) : Moves (c.goto (c.resume b rest))
  | deliver (item : SubscriptionItem) (k : κ) (consumers : List κ) (rest : Rest)
      (hpoint : c.point = .emit item (k :: consumers) rest)
      (hstop : c.subscription.shutdownEvent = false) :
      Moves { c with
        deliveries := c.deliveries ++ [⟨k, item, rest.live⟩]
        point := .handle item consumers rest }
  | handled (item : SubscriptionItem) (consumers : List κ) (rest : Rest)
      (hpoint : c.point = .handle item consumers rest) :
      Moves (c.goto (.emit item consumers rest))
  | paused (batchStart : ℕ) (events : List Event) (hpoint : c.point = .pause batchStart events) :
      Moves (c.goto (.events batchStart events))
  | beginFlush (hpoint : c.point = .finish) (hstop : c.subscription.shutdownEvent = false) :
      Moves (c.goto .flush)
  | interrupted (hpoint : c.point = .finish ∨ c.point = .flush ∨
        ∃ item items, c.point = .flushItems (item :: items))
      (hstop : c.subscription.shutdownEvent = true) : Moves (c.restore .returned)
  | flushed (hpoint : c.point = .flush) (hempty : c.buffered = []) :
      Moves (c.restore .returned)
  | pass (hpoint : c.point = .flush) (hstop : c.subscription.shutdownEvent = false) :
      Moves { c with
        subscription := { c.subscription with bufferedSubscriptionItems := some [] }
        point := .flushItems (sortBy SubscriptionItem.sortKey c.buffered) }
  | passDone (hpoint : c.point = .flushItems []) : Moves (c.goto .flush)
  | emitBuffered (item : SubscriptionItem) (items : List SubscriptionItem)
      (hpoint : c.point = .flushItems (item :: items))
      (hstop : c.subscription.shutdownEvent = false) : Moves (c.emit b item (.flush items))

variable {b c}

theorem moves_of_proceed {c' : ReplayCall κ} (h : c.proceed b = some c') :
  Moves b c c'
  := by
  rw [proceed] at h
  split at h
  case h_1 batchStart hpoint =>
    split at h
    next hstop =>
        obtain rfl := Option.some.inj h
        by_cases hend : c.endBlock < batchStart
        · apply Moves.rangeDone batchStart hpoint hend
        · apply Moves.stop
          · right
            use batchStart
            left
            apply hpoint
          · simpa [hend] using hstop
    next hgo =>
        obtain rfl := Option.some.inj h
        simp only [Bool.or_eq_true, decide_eq_true_eq, not_or, not_lt, Bool.not_eq_true] at hgo
        apply Moves.fetch batchStart hpoint hgo.2 hgo.1
  case h_2 batchStart hpoint =>
    split at h
    next hstop =>
        obtain rfl := Option.some.inj h
        apply Moves.stop _ hstop
        right
        use batchStart
        right
        right
        apply hpoint
    next hgo =>
        obtain rfl := Option.some.inj h
        apply Moves.emitBlock batchStart hpoint (by simpa using hgo)
  case h_3 batchStart e events hpoint =>
    obtain rfl := Option.some.inj h
    apply Moves.emitEvent batchStart e events hpoint
  case h_4 item consumers rest hpoint =>
    split at h
    next hstop =>
        obtain rfl := Option.some.inj h
        apply Moves.skip item consumers rest hpoint hstop
    next hgo =>
        have hstop : c.subscription.shutdownEvent = false := by simpa using hgo
        cases consumers with
        | nil =>
            obtain rfl := Option.some.inj h
            apply Moves.emitted item rest hpoint hstop
        | cons k consumers =>
            obtain rfl := Option.some.inj h
            apply Moves.deliver item k consumers rest hpoint hstop
  case h_5 item consumers rest hpoint =>
    obtain rfl := Option.some.inj h
    apply Moves.handled item consumers rest hpoint
  case h_6 batchStart events hpoint =>
    obtain rfl := Option.some.inj h
    apply Moves.paused batchStart events hpoint
  case h_7 hpoint =>
    split at h
    next hstop =>
        obtain rfl := Option.some.inj h
        apply Moves.interrupted (Or.inl hpoint) hstop
    next hgo =>
        obtain rfl := Option.some.inj h
        apply Moves.beginFlush hpoint (by simpa using hgo)
  case h_8 hpoint =>
    split at h
    next hend =>
        obtain rfl := Option.some.inj h
        by_cases hstop : c.subscription.shutdownEvent = true
        · apply Moves.interrupted (Or.inr (Or.inl hpoint)) hstop
        · apply Moves.flushed hpoint
          simpa [hstop] using hend
    next hgo =>
        obtain rfl := Option.some.inj h
        simp only [Bool.or_eq_true, not_or, Bool.not_eq_true] at hgo
        apply Moves.pass hpoint hgo.2
  case h_9 hpoint =>
    obtain rfl := Option.some.inj h
    apply Moves.passDone hpoint
  case h_10 item items hpoint =>
    split at h
    next hstop =>
        obtain rfl := Option.some.inj h
        apply Moves.interrupted _ hstop
        right
        right
        use item, items
    next hgo =>
        obtain rfl := Option.some.inj h
        apply Moves.emitBuffered item items hpoint (by simpa using hgo)
  case h_11 => cases h

theorem moves_of_answer (action : CallAction) {c' : ReplayCall κ}
    (h : c.answer b action = some c') :
  Moves b c c'
  := by
  cases action with
  | connected w3 =>
      simp only [answer] at h
      split at h
      next hpoint =>
          split at h
          next =>
              obtain rfl := Option.some.inj h
              split
              next hend => apply Moves.askEnd hpoint hend
              next hend => apply Moves.knowEnd hpoint hend
          next =>
              split at h
              next hstop =>
                  obtain rfl := Option.some.inj h
                  apply Moves.stop (Or.inl hpoint) hstop
              next => cases h
      next => cases h
  | blockNumber n =>
      simp only [answer] at h
      split at h
      next hpoint =>
          obtain rfl := Option.some.inj h
          apply Moves.getEnd n hpoint
      next => cases h
  | fetched env state =>
      simp only [answer] at h
      split at h
      next batchStart hpoint =>
          split at h
          next events hfetch =>
              obtain rfl := Option.some.inj h
              rw [b.fetchEvents_eq hfetch]
              apply Moves.fetched batchStart hpoint
          next =>
              split at h
              next hstop =>
                  obtain rfl := Option.some.inj h
                  apply Moves.stop _ hstop
                  right
                  use batchStart
                  right
                  left
                  apply hpoint
              next => cases h
          next e _ =>
              obtain rfl := Option.some.inj h
              apply Moves.raise
              rw [hpoint]
              rfl
      next => cases h
  | log e => cases h
  | head number => cases h
  | shutdown => cases h
  | proceed => cases h
  | raises fault => cases h

/-- Every step is one of the moves. -/
theorem moves_of_step {action : CallAction} {c' : ReplayCall κ} (h : c.step b action = some c') :
  Moves b c c'
  := by
  cases action with
  | log e =>
      simp only [step] at h
      split at h
      next hawaits =>
          obtain rfl := Option.some.inj h
          apply Moves.receive (.event e) hawaits
      next => cases h
  | head number =>
      simp only [step] at h
      split at h
      next hawaits =>
          split at h
          next =>
              obtain rfl := Option.some.inj h
              apply Moves.ignore
          next hnumber =>
              obtain rfl := Option.some.inj h
              rw [Subscription.handleNewHeadSubscription, if_neg hnumber]
              apply Moves.receive (.block ⟨number - 1⟩) hawaits
      next => cases h
  | shutdown =>
      simp only [step] at h
      split at h
      next hawaits =>
          obtain rfl := Option.some.inj h
          apply Moves.shutdown hawaits
      next => cases h
  | raises fault =>
      simp only [step] at h
      split at h
      next hawaits =>
          obtain rfl := Option.some.inj h
          apply Moves.raise fault hawaits
      next => cases h
  | proceed => apply moves_of_proceed h
  | connected w3 => apply moves_of_answer (.connected w3) h
  | blockNumber n => apply moves_of_answer (.blockNumber n) h
  | fetched env state => apply moves_of_answer (.fetched env state) h

/-- A call that awaits something goes on. -/
theorem not_ended_of_awaits {point : CallPoint κ} (h : point.awaits = true) :
  point.ended = false
  := by
  cases point <;> first | rfl | cases h

omit [DecidableEq τ] in
/-- The call goes on after an item was emitted. -/
@[simp]
theorem ended_resume (rest : Rest) :
  (c.resume b rest).ended = false
  := by
  cases rest with
  | events batchStart events =>
      rw [resume]
      split <;> rfl
  | marked batchStart => rfl
  | flush items => rfl

omit [DecidableEq τ] in
theorem resume_ne_blockNumber (rest : Rest) :
  c.resume b rest ≠ .blockNumber
  := by
  cases rest with
  | events batchStart events =>
      rw [resume]
      split <;> nofun
  | marked batchStart => nofun
  | flush items => nofun

/-- A call that has ended makes no move. -/
theorem Moves.running {c' : ReplayCall κ} (h : Moves b c c') :
  c' = c ∨ c.point.ended = false
  := by
  cases h with
  | receive item hawaits => apply Or.inr (not_ended_of_awaits hawaits)
  | ignore => apply Or.inl rfl
  | shutdown hawaits => apply Or.inr (not_ended_of_awaits hawaits)
  | raise fault hawaits => apply Or.inr (not_ended_of_awaits hawaits)
  | stop hpoint =>
      right
      obtain hpoint | ⟨batchStart, hpoint | hpoint | hpoint⟩ := hpoint <;> rw [hpoint] <;> rfl
  | interrupted hpoint =>
      right
      obtain hpoint | hpoint | ⟨item, items, hpoint⟩ := hpoint <;> rw [hpoint] <;> rfl
  | knowEnd hpoint | askEnd hpoint | getEnd n hpoint | rangeDone batchStart hpoint
  | fetch batchStart hpoint | fetched batchStart hpoint | emitBlock batchStart hpoint
  | emitEvent batchStart e events hpoint | skip item consumers rest hpoint
  | emitted item rest hpoint | deliver item k consumers rest hpoint
  | handled item consumers rest hpoint | paused batchStart events hpoint | beginFlush hpoint
  | flushed hpoint | pass hpoint | passDone hpoint | emitBuffered item items hpoint =>
      right
      rw [hpoint]
      rfl

end ReplayCall

/-! ### A backfill of an empty chain -/

namespace Backfill

/-- A reader of no event sources. -/
def emptyReader : Web3EventLogReader ℕ Unit where
  eventSources := []
  abiByTopics := .empty
  requestIntervalSeconds := none
  blockBatchSize := some 1
  blockBatchSize_pos := by decide

/-- A backfill of an empty chain for one consumer. -/
def empty : Backfill ℕ Unit Unit ℕ where
  reader := emptyReader
  chain := ⟨[], List.Pairwise.nil, nofun, nofun⟩
  decoder := ⟨fun _ log => Event.first log.blockNumber, fun _ _ => rfl⟩
  batchSize := 1
  batchSize_pos := Nat.one_pos
  eventConsumers := [0]
  blockConsumers := [0]
  nodup_eventConsumers := List.nodup_singleton 0
  nodup_blockConsumers := List.nodup_singleton 0

/-- The reader is not stopped and the provider answers. -/
def answering : CallAction :=
  .fetched ⟨fun _ => false, fun _ => true, fun _ => none, fun _ => 0⟩ ⟨0, none⟩

end Backfill

end Sentinel
