import Sentinel.Models

/-!
# Live subscriptions

A `Subscription` receives the logs and the new heads of its node. A live item is dropped
after a shutdown request or at or below the suppression threshold, appended to the buffer
while a replay runs, and handed to the module runtime otherwise. A new head `n` completes
block `n - 1`.
-/

namespace Sentinel

/-- What a subscription hands on: an event, or a block all of whose logs were delivered. -/
inductive SubscriptionItem where
  | event (e : Event)
  | block (b : Block)

namespace SubscriptionItem

/-- The block number of an item. -/
def blockNumber : SubscriptionItem → ℕ
  | event e => e.block
  | block b => b.number

/-- `_subscription_item_sort_key`: the events of a block by their position in it, before the
completion of the block. -/
def sortKey : SubscriptionItem → ℕ ×ₗ ℕ ×ₗ ℕ ×ₗ ℕ
  | event e => toLex (e.block, toLex (0, toLex (e.transactionIndex, e.logIndex)))
  | block b => toLex (b.number, toLex (1, toLex (0, 0)))

/-- An event that is not before the completion of a block is in a later block. -/
theorem lt_blockNumber_of_sortKey_le {e : Event} {b : Block}
    (h : (block b).sortKey ≤ (event e).sortKey) :
  b.number < e.block
  := by
  simp only [sortKey, Prod.Lex.toLex_le_toLex] at h
  omega

end SubscriptionItem

/-- The task that runs `Subscription.subscribe`. -/
inductive Listener where
  /-- not started -/
  | idle
  /-- awaiting the provider or the subscription request -/
  | connecting
  /-- receiving messages -/
  | listening
  /-- awaiting `handle_block` for a live block -/
  | handling (number : ℕ)
  /-- ended by an `RpcAvailabilityError` -/
  | raised
  /-- ended without an error -/
  | returned
  /-- cancelled by the supervisor -/
  | cancelled
deriving DecidableEq

namespace Listener

/-- The task has ended. -/
def done : Listener → Bool
  | raised | returned | cancelled => true
  | _ => false

/-- Cancel the task, unless it has ended. -/
def cancel (l : Listener) : Listener :=
  if l.done then l else cancelled

/-- A cancelled task handles no block. -/
theorem cancel_ne_handling (l : Listener) (number : ℕ) :
  l.cancel ≠ handling number
  := by
  cases l <;> nofun

end Listener

structure Subscription where
  shutdownEvent : Bool
  subscriptionsStarted : Bool
  ignoreSubscriptionEventsUntilBlock : Option ℕ
  bufferedSubscriptionItems : Option (List SubscriptionItem)
  listener : Listener

namespace Subscription

/-- A new subscription with the given suppression threshold. -/
def new (ignoreSubscriptionEventsUntilBlock : Option ℕ) : Subscription where
  shutdownEvent := false
  subscriptionsStarted := false
  ignoreSubscriptionEventsUntilBlock := ignoreSubscriptionEventsUntilBlock
  bufferedSubscriptionItems := none
  listener := .idle

def requestShutdown (s : Subscription) : Subscription :=
  { s with shutdownEvent := true }

/-- Items at or below the suppression threshold are ignored. -/
def ignores (s : Subscription) (number : ℕ) : Bool :=
  s.ignoreSubscriptionEventsUntilBlock.any fun threshold => number ≤ threshold

theorem ignores_iff {s : Subscription} {number : ℕ} :
  s.ignores number = true
    ↔ ∃ threshold, s.ignoreSubscriptionEventsUntilBlock = some threshold ∧ number ≤ threshold
  := by
  simp [ignores, Option.any_eq_true]

/-- A live item is dropped, buffered, or handed on: the new subscription, and the item when
it is handed on. -/
def emitSubscriptionItem (s : Subscription) (item : SubscriptionItem) :
    Subscription × Option SubscriptionItem :=
  if s.shutdownEvent || s.ignores item.blockNumber then (s, none)
  else match s.bufferedSubscriptionItems with
    | some items => ({ s with bufferedSubscriptionItems := some (items ++ [item]) }, none)
    | none => (s, some item)

/-- `_emit_subscription_event`. -/
def emitSubscriptionEvent (s : Subscription) (e : Event) :
    Subscription × Option SubscriptionItem :=
  s.emitSubscriptionItem (.event e)

/-- `_emit_subscription_block`. -/
def emitSubscriptionBlock (s : Subscription) (b : Block) :
    Subscription × Option SubscriptionItem :=
  s.emitSubscriptionItem (.block b)

/-- `_handle_new_head_subscription`: a new head completes the block before it. -/
def handleNewHeadSubscription (s : Subscription) (head : ℕ) :
    Subscription × Option SubscriptionItem :=
  if head = 0 then (s, none) else s.emitSubscriptionBlock ⟨head - 1⟩

/-- The three regimes of a live item: it is dropped, it is buffered, or it is handed on. -/
theorem emitSubscriptionItem_cases (s : Subscription) (item : SubscriptionItem) :
  ((s.shutdownEvent = true ∨ s.ignores item.blockNumber = true)
      ∧ s.emitSubscriptionItem item = (s, none))
    ∨ (s.shutdownEvent = false ∧ s.ignores item.blockNumber = false
      ∧ ∃ items, s.bufferedSubscriptionItems = some items
        ∧ s.emitSubscriptionItem item
          = ({ s with bufferedSubscriptionItems := some (items ++ [item]) }, none))
    ∨ (s.shutdownEvent = false ∧ s.ignores item.blockNumber = false
      ∧ s.bufferedSubscriptionItems = none
      ∧ s.emitSubscriptionItem item = (s, some item))
  := by
  by_cases hdrop : s.shutdownEvent = true ∨ s.ignores item.blockNumber = true
  · left
    use hdrop
    simp only [emitSubscriptionItem, Bool.or_eq_true, hdrop, if_true]
  · right
    have hdrop' := hdrop
    simp only [not_or, Bool.not_eq_true] at hdrop'
    cases hbuffer : s.bufferedSubscriptionItems with
    | some items =>
        left
        use hdrop'.1, hdrop'.2, items, rfl
        simp only [emitSubscriptionItem, Bool.or_eq_true, hdrop, if_false, hbuffer]
    | none =>
        right
        use hdrop'.1, hdrop'.2, rfl
        simp only [emitSubscriptionItem, Bool.or_eq_true, hdrop, if_false, hbuffer]

/-- A live item changes nothing of a subscription but its buffer. -/
theorem emitSubscriptionItem_fst (s : Subscription) (item : SubscriptionItem) :
  ∃ buffer, (s.emitSubscriptionItem item).1 = { s with bufferedSubscriptionItems := buffer }
  := by
  obtain ⟨-, heq⟩ | ⟨-, -, items, -, heq⟩ | ⟨-, -, -, heq⟩ := s.emitSubscriptionItem_cases item
  · use s.bufferedSubscriptionItems
    rw [heq]
  · use some (items ++ [item])
    rw [heq]
  · use s.bufferedSubscriptionItems
    rw [heq]

theorem handleNewHeadSubscription_fst (s : Subscription) (head : ℕ) :
  ∃ buffer, (s.handleNewHeadSubscription head).1
    = { s with bufferedSubscriptionItems := buffer }
  := by
  simp only [handleNewHeadSubscription]
  split
  · use s.bufferedSubscriptionItems
  · apply emitSubscriptionItem_fst

/-- Without a buffer a live item does not change a subscription. -/
theorem emitSubscriptionItem_fst_of_unbuffered {s : Subscription}
    (h : s.bufferedSubscriptionItems = none) (item : SubscriptionItem) :
  (s.emitSubscriptionItem item).1 = s
  := by
  obtain ⟨-, heq⟩ | ⟨-, -, items, hbuffer, -⟩ | ⟨-, -, -, heq⟩ :=
    s.emitSubscriptionItem_cases item
  · rw [heq]
  · cases h.symm.trans hbuffer
  · rw [heq]

theorem handleNewHeadSubscription_fst_of_unbuffered {s : Subscription}
    (h : s.bufferedSubscriptionItems = none) (head : ℕ) :
  (s.handleNewHeadSubscription head).1 = s
  := by
  simp only [handleNewHeadSubscription]
  split
  · rfl
  · apply emitSubscriptionItem_fst_of_unbuffered h

/-- Without a buffer and a threshold a subscription hands on every log, unless it is shut
down. -/
theorem emitSubscriptionEvent_snd_of_open {s : Subscription} {e : Event}
    (hs : s.shutdownEvent = false) (hthreshold : s.ignoreSubscriptionEventsUntilBlock = none)
    (hbuffer : s.bufferedSubscriptionItems = none) :
  (s.emitSubscriptionEvent e).2 = some (.event e)
  := by
  simp [emitSubscriptionEvent, emitSubscriptionItem, ignores, hs, hthreshold, hbuffer]

/-- A subscription that is shut down hands on no block. -/
theorem handleNewHeadSubscription_snd {s : Subscription} (h : s.shutdownEvent = true)
    (head : ℕ) :
  (s.handleNewHeadSubscription head).2 = none
  := by
  simp only [handleNewHeadSubscription, emitSubscriptionBlock, emitSubscriptionItem, h,
    Bool.true_or, if_true]
  split <;> rfl

end Subscription

end Sentinel
