import Sentinel.Rpc.Replay

/-!
# What a replay covers

The matching logs of a chain reach `handle_event` by two ways: the live feed of a
subscription, and the replays. `Covered` says that every log up to a block was passed to
`handle_event`. A `Regime` is where a subscription is with its replay, and `Stage` is what
the regime promises of the feed: which delivered logs were handled, and which are still in
the buffer. The lemmas below say what a live item and a step of a replay do to it.
-/

namespace Sentinel

/-- The matching logs of each block of a chain. A log is identified by its address, its
transaction and its index. -/
structure Chain where
  logs : ℕ → List Event
  block_eq : ∀ number, ∀ e ∈ logs number, e.block = number
  nodup : ∀ number, (logs number).Nodup
  identity : ∀ e e', e ∈ logs e.block → e' ∈ logs e'.block →
    e.logIdentity = e'.logIdentity → e = e'

namespace Chain

instance : Membership Event Chain where
  mem chain e := e ∈ chain.logs e.block

theorem mem_def {chain : Chain} {e : Event} :
  e ∈ chain ↔ e ∈ chain.logs e.block
  := Iff.rfl

instance (chain : Chain) (e : Event) : Decidable (e ∈ chain) :=
  inferInstanceAs (Decidable (e ∈ chain.logs e.block))

/-- The matching logs of a block range. -/
def logsBetween (chain : Chain) (startBlock endBlock : ℕ) : List Event :=
  (List.range' startBlock (endBlock + 1 - startBlock)).flatMap chain.logs

/-- The logs of a block range are the logs of the chain in its blocks. -/
theorem mem_logsBetween {chain : Chain} {startBlock endBlock : ℕ} {e : Event} :
  e ∈ chain.logsBetween startBlock endBlock
    ↔ e ∈ chain ∧ startBlock ≤ e.block ∧ e.block ≤ endBlock
  := by
  simp only [logsBetween, List.mem_flatMap, List.mem_range'_1, mem_def]
  constructor
  · rintro ⟨number, hrange, he⟩
    obtain rfl := chain.block_eq number e he
    refine ⟨he, hrange.1, ?_⟩
    omega
  · rintro ⟨he, hstart, hend⟩
    refine ⟨e.block, ?_, he⟩
    omega

end Chain

/-! ### Coverage -/

/-- Every log of the chain after block `base` and up to block `number` was passed to
`handle_event`. -/
def Covered (chain : Chain) (base : ℕ) (l : Ledger) (number : ℕ) : Prop :=
  ∀ e ∈ chain, base < e.block → e.block ≤ number → e ∈ l.handled

namespace Covered

variable {chain : Chain} {base number number' : ℕ} {l l' : Ledger}

theorem mono (h : Covered chain base l number) (hnumber : number' ≤ number) :
  Covered chain base l number'
  := by
  intro e he hbase hle
  apply h e he hbase (le_trans hle hnumber)

theorem of_le (h : Covered chain base l number) (hl : l ≤ l') :
  Covered chain base l' number
  := by
  intro e he hbase hle
  apply Ledger.mem_handled_of_le hl (h e he hbase hle)

/-- No log is after block `base` and up to it. -/
theorem of_le_base (h : number ≤ base) :
  Covered chain base l number
  := by
  intro e he hbase hle
  omega

theorem advanceBlock (h : Covered chain base l l.block) (hnumber : Covered chain base l number) :
  Covered chain base (l.advanceBlock number) (l.advanceBlock number).block
  := by
  intro e he hbase hle
  rw [Ledger.block_advanceBlock, le_max_iff] at hle
  obtain hle | hle := hle
  · apply h e he hbase hle
  · apply hnumber e he hbase hle

end Covered

namespace Replay

/-- What a replay in progress has covered so far: the blocks before the one it goes on with,
and in the middle of a batch all but the events still to be emitted. The end block is asked
for when none was given. -/
def Claims (chain : Chain) (base batchSize : ℕ) (l : Ledger) (r : Replay) : Prop :=
  match r.point with
  | .connected => Covered chain base l (r.startBlock - 1)
  | .endBlock => Covered chain base l (r.startBlock - 1) ∧ r.endBlock = 0
  | .fetch batchStart => Covered chain base l (batchStart - 1)
  | .emit batchStart events => ∀ e ∈ chain, base < e.block →
      e.block ≤ r.batchEnd batchSize batchStart → e ∈ l.handled ∨ e ∈ events
  | .mark batchStart => Covered chain base l (r.batchEnd batchSize batchStart)
  | .flush _ => True
  | .flushBlock number _ => Covered chain base l number

theorem Claims.of_le {chain : Chain} {base batchSize : ℕ} {l l' : Ledger} {r : Replay}
    (h : r.Claims chain base batchSize l) (hl : l ≤ l') :
  r.Claims chain base batchSize l'
  := by
  unfold Claims at h ⊢
  split at h
  · apply Covered.of_le h hl
  · apply And.intro (h.1.of_le hl) h.2
  · apply Covered.of_le h hl
  · intro e he hbase hle
    obtain hhandled | hmem := h e he hbase hle
    · apply Or.inl (Ledger.mem_handled_of_le hl hhandled)
    · apply Or.inr hmem
  · apply Covered.of_le h hl
  · trivial
  · apply Covered.of_le h hl

/-- The items of a buffer that are still to be flushed. -/
def flushing (r : Replay) : List SubscriptionItem :=
  match r.point with
  | .flush items | .flushBlock _ items => items
  | _ => []

/-- The replay flushes the buffer. -/
def isFlushing (r : Replay) : Bool :=
  match r.point with
  | .flush _ | .flushBlock _ _ => true
  | _ => false

end Replay

/-! ### Regimes -/

/-- Where a subscription is with its replay: a replay is owed, its head is read since the
given height of the chain, it is in progress, or no replay is owed. -/
inductive Regime where
  | owed
  | reading (asked : ℕ)
  | replaying (r : Replay)
  | live

/-- The live side of a subscription: its suppression threshold and its buffer, the height
of the chain when the node activated it, and the logs the node has delivered. -/
structure Feed where
  threshold : Option ℕ
  buffer : Option (List SubscriptionItem)
  since : Option ℕ
  delivered : List Event

/-- The live side of a subscription that the node activated at height `since`. -/
def Subscription.feed (s : Subscription) (since : Option ℕ) (delivered : List Event) : Feed where
  threshold := s.ignoreSubscriptionEventsUntilBlock
  buffer := s.bufferedSubscriptionItems
  since := since
  delivered := delivered

/-- Live items are handed on, and every delivered log after block `number` was: the
subscription was active by then and suppresses nothing after it. -/
structure Feed.Open (f : Feed) (l : Ledger) (number : ℕ) : Prop where
  buffer : f.buffer = none
  since : ∃ since ≤ number, f.since = some since
  threshold : ∀ threshold, f.threshold = some threshold → threshold ≤ number
  delivered : ∀ e ∈ f.delivered, number < e.block → e ∈ l.handled

/-- The delivered logs after block `number` were handled or are in one of the two lists of
items, the items being flushed and the buffer, and each block in one of them comes with the
logs after block `number` up to it. -/
structure Queued (chain : Chain) (delivered : List Event) (l : Ledger) (number : ℕ)
    (items buffer : List SubscriptionItem) : Prop where
  of_delivered : ∀ e ∈ delivered, number < e.block →
    e ∈ l.handled ∨ .event e ∈ items ∨ .event e ∈ buffer
  of_item : ∀ b : Block, .block b ∈ items → ∀ e ∈ chain, number < e.block →
    e.block ≤ b.number → e ∈ l.handled ∨ .event e ∈ items
  of_buffered : ∀ b : Block, .block b ∈ buffer → ∀ e ∈ chain, number < e.block →
    e.block ≤ b.number → e ∈ l.handled ∨ .event e ∈ items ∨ .event e ∈ buffer
  ordered : OrderedBy SubscriptionItem.sortKey items

/-- The feed of a subscription whose replay is in progress: it suppresses what the replay
covers and buffers the rest. -/
structure Replaying (chain : Chain) (base : ℕ) (f : Feed) (l : Ledger) (r : Replay)
    (number : ℕ) (buffer : List SubscriptionItem) : Prop where
  suppresses : f.threshold = some number
  buffers : f.buffer = some buffer
  since : ∃ since ≤ number, f.since = some since
  endBlock : number ≤ r.endBlock
  previousBuffer : r.previousBuffer = none
  queued : Queued chain f.delivered l number r.flushing buffer
  covered : r.isFlushing = true → Covered chain base l number

/-- What a regime promises of the feed. -/
def Stage (chain : Chain) (base : ℕ) (f : Feed) (l : Ledger) : Regime → Prop
  | .owed => f.buffer = none
  | .reading asked => f.Open l asked
  | .replaying r => ∃ number buffer, Replaying chain base f l r number buffer
  | .live => ∃ number, f.Open l number ∧ Covered chain base l number

variable {chain : Chain} {base batchSize : ℕ} {f : Feed} {l l' : Ledger}

/-! ### The ledger grows -/

theorem Feed.Open.of_le {number : ℕ} (h : f.Open l number) (hl : l ≤ l') :
  f.Open l' number
  := { h with delivered := fun e he hlt => Ledger.mem_handled_of_le hl (h.delivered e he hlt) }

theorem Queued.of_le {delivered : List Event} {number : ℕ} {items buffer : List SubscriptionItem}
    (h : Queued chain delivered l number items buffer) (hl : l ≤ l') :
  Queued chain delivered l' number items buffer
  where
  of_delivered e he hlt :=
    (h.of_delivered e he hlt).imp_left (Ledger.mem_handled_of_le hl)
  of_item b hb e he hlt hle :=
    (h.of_item b hb e he hlt hle).imp_left (Ledger.mem_handled_of_le hl)
  of_buffered b hb e he hlt hle :=
    (h.of_buffered b hb e he hlt hle).imp_left (Ledger.mem_handled_of_le hl)
  ordered := h.ordered

/-- A stage is kept while the ledger grows. -/
theorem Stage.of_le {regime : Regime} (h : Stage chain base f l regime) (hl : l ≤ l') :
  Stage chain base f l' regime
  := by
  cases regime with
  | owed => apply h
  | reading asked => apply Feed.Open.of_le h hl
  | replaying r =>
      obtain ⟨number, buffer, hr⟩ := h
      exact ⟨number, buffer, { hr with
        queued := hr.queued.of_le hl
        covered := fun hflushing => (hr.covered hflushing).of_le hl }⟩
  | live =>
      obtain ⟨number, hopen, hcovered⟩ := h
      use number, hopen.of_le hl, hcovered.of_le hl

/-! ### Live items -/

/-- The feed of a subscription after its node delivered another log. -/
def Feed.deliver (f : Feed) (e : Event) : Feed :=
  { f with delivered := e :: f.delivered }

/-- An open feed stays open when a log is delivered that is suppressed or handed on. -/
theorem Feed.Open.deliver {number : ℕ} {e : Event} (h : f.Open l number) (hl : l ≤ l')
    (he : number < e.block → e ∈ l'.handled) :
  (f.deliver e).Open l' number
  := { h with
    delivered := by
      intro e' he' hlt
      obtain rfl | hmem := List.mem_cons.mp he'
      · apply he hlt
      · apply Ledger.mem_handled_of_le hl (h.delivered e' hmem hlt) }

/-- A delivered log is appended to the buffer. -/
theorem Queued.pushEvent {delivered : List Event} {number : ℕ}
    {items buffer : List SubscriptionItem} {e : Event}
    (h : Queued chain delivered l number items buffer) :
  Queued chain (e :: delivered) l number items (buffer ++ [.event e])
  where
  of_delivered e' he' hlt := by
    obtain rfl | hmem := List.mem_cons.mp he'
    · apply Or.inr (Or.inr _)
      simp
    · apply (h.of_delivered e' hmem hlt).imp_right (Or.imp_right _)
      apply List.mem_append_left
  of_item := h.of_item
  of_buffered b hb e' he' hlt hle := by
    have hb' : .block b ∈ buffer := by simpa using hb
    apply (h.of_buffered b hb' e' he' hlt hle).imp_right (Or.imp_right _)
    apply List.mem_append_left
  ordered := h.ordered

/-- A block all of whose logs were delivered is appended to the buffer. -/
theorem Queued.pushBlock {delivered : List Event} {number : ℕ}
    {items buffer : List SubscriptionItem} {b : Block}
    (h : Queued chain delivered l number items buffer)
    (hb : ∀ e ∈ chain, number < e.block → e.block ≤ b.number → e ∈ delivered) :
  Queued chain delivered l number items (buffer ++ [.block b])
  where
  of_delivered e he hlt := by
    apply (h.of_delivered e he hlt).imp_right (Or.imp_right _)
    apply List.mem_append_left
  of_item := h.of_item
  of_buffered b' hb' e he hlt hle := by
    have hqueued : e ∈ l.handled ∨ .event e ∈ items ∨ .event e ∈ buffer := by
      rw [List.mem_append, List.mem_singleton, SubscriptionItem.block.injEq] at hb'
      obtain hb' | rfl := hb'
      · apply h.of_buffered b' hb' e he hlt hle
      · apply h.of_delivered e (hb e he hlt hle) hlt
    apply hqueued.imp_right (Or.imp_right _)
    apply List.mem_append_left
  ordered := h.ordered

/-- What becomes of a live log in each regime: the feed keeps its promise for the logs
delivered so far, this one included. -/
theorem Stage.emitEvent {s s' : Subscription} {since : Option ℕ} {delivered : List Event}
    {regime : Regime} {e : Event} {handedOn : Option SubscriptionItem}
    (h : Stage chain base (s.feed since delivered) l regime) (hs : s.shutdownEvent = false)
    (hemit : s.emitSubscriptionEvent e = (s', handedOn)) (hl : l ≤ l')
    (hhandled : handedOn = some (.event e) → e ∈ l'.handled) :
  Stage chain base (s'.feed since (e :: delivered)) l' regime
  := by
  replace h := h.of_le hl
  obtain ⟨hdrop, heq⟩ | ⟨-, hignores, items, hbuffer, heq⟩ | ⟨-, hignores, hbuffer, heq⟩ :=
    s.emitSubscriptionItem_cases (.event e)
  · rw [Subscription.emitSubscriptionEvent, heq] at hemit
    cases hemit
    have hignores : s.ignores e.block = true := hdrop.resolve_left (by simp [hs])
    obtain ⟨threshold, hthreshold, hle⟩ := Subscription.ignores_iff.mp hignores
    -- a suppressed log is not after the block up to which the feed answers for
    have hnot : ∀ {number}, threshold ≤ number → number < e.block → e ∈ l'.handled := by
      intro number hle' hlt
      omega
    cases regime with
    | owed => apply h
    | reading asked => apply Feed.Open.deliver h (le_refl _) (hnot (h.threshold _ hthreshold))
    | replaying r =>
        obtain ⟨number, buffer, hr⟩ := h
        obtain rfl : threshold = number := Option.some.inj (hthreshold.symm.trans hr.suppresses)
        refine ⟨threshold, buffer, { hr with queued := { hr.queued with of_delivered := ?_ } }⟩
        intro e' he' hlt
        obtain rfl | hmem := List.mem_cons.mp he'
        · apply Or.inl (hnot (le_refl _) hlt)
        · apply hr.queued.of_delivered e' hmem hlt
    | live =>
        obtain ⟨number, hopen, hcovered⟩ := h
        use number, hopen.deliver (le_refl _) (hnot (hopen.threshold _ hthreshold)), hcovered
  · rw [Subscription.emitSubscriptionEvent, heq] at hemit
    cases hemit
    have hsome : ∀ {Q : Prop}, s.bufferedSubscriptionItems = none → Q := by
      intro Q hnone
      rw [hbuffer] at hnone
      cases hnone
    cases regime with
    | owed => apply hsome h
    | reading asked => apply hsome h.buffer
    | replaying r =>
        obtain ⟨number, buffer, hr⟩ := h
        obtain rfl : items = buffer := Option.some.inj (hbuffer.symm.trans hr.buffers)
        refine ⟨number, items ++ [SubscriptionItem.event e], ?_⟩
        exact { hr with
          buffers := rfl
          queued := hr.queued.pushEvent }
    | live =>
        obtain ⟨number, hopen, -⟩ := h
        apply hsome hopen.buffer
  · rw [Subscription.emitSubscriptionEvent, heq] at hemit
    cases hemit
    cases regime with
    | owed => apply h
    | reading asked => apply Feed.Open.deliver h (le_refl _) (fun _ => hhandled rfl)
    | replaying r =>
        obtain ⟨number, buffer, hr⟩ := h
        cases hbuffer.symm.trans hr.buffers
    | live =>
        obtain ⟨number, hopen, hcovered⟩ := h
        use number, hopen.deliver (le_refl _) (fun _ => hhandled rfl), hcovered

/-- What becomes of a live block all of whose logs were delivered: in a live regime it is
handed on with all its logs handled, and in the others it is dropped or buffered. -/
theorem Stage.emitBlock {s s' : Subscription} {since : Option ℕ} {delivered : List Event}
    {regime : Regime} {b : Block} {handedOn : Option SubscriptionItem}
    (h : Stage chain base (s.feed since delivered) l regime)
    (hemit : s.emitSubscriptionBlock b = (s', handedOn))
    (hcomplete : ∀ a, since = some a → ∀ e ∈ chain, a < e.block → e.block ≤ b.number →
      e ∈ delivered)
    (hlive : handedOn.isSome = true → regime = .live) :
  Stage chain base (s'.feed since delivered) l regime
    ∧ (handedOn.isSome = true → Covered chain base l b.number)
  := by
  obtain ⟨-, heq⟩ | ⟨-, -, items, hbuffer, heq⟩ | ⟨-, -, hbuffer, heq⟩ :=
    s.emitSubscriptionItem_cases (.block b)
  · rw [Subscription.emitSubscriptionBlock, heq] at hemit
    cases hemit
    apply And.intro h (by simp)
  · rw [Subscription.emitSubscriptionBlock, heq] at hemit
    cases hemit
    have hsome : ∀ {Q : Prop}, s.bufferedSubscriptionItems = none → Q := by
      intro Q hnone
      rw [hbuffer] at hnone
      cases hnone
    refine ⟨?_, by simp⟩
    cases regime with
    | owed => apply hsome h
    | reading asked => apply hsome h.buffer
    | replaying r =>
        obtain ⟨number, buffer, hr⟩ := h
        obtain rfl : items = buffer := Option.some.inj (hbuffer.symm.trans hr.buffers)
        obtain ⟨a, ha, hsince⟩ := hr.since
        have hdelivered : ∀ e ∈ chain, number < e.block → e.block ≤ b.number →
            e ∈ delivered := fun e he hlt => hcomplete a hsince e he (by omega)
        refine ⟨number, items ++ [SubscriptionItem.block b], ?_⟩
        exact { hr with
          buffers := rfl
          queued := hr.queued.pushBlock hdelivered }
    | live =>
        obtain ⟨number, hopen, -⟩ := h
        apply hsome hopen.buffer
  · rw [Subscription.emitSubscriptionBlock, heq] at hemit
    cases hemit
    apply And.intro h
    intro hhanded
    obtain rfl := hlive hhanded
    obtain ⟨number, hopen, hcovered⟩ := h
    obtain ⟨a, ha, hsince⟩ := hopen.since
    intro e he hbase hle
    obtain hle' | hlt := Nat.lt_or_ge number e.block
    · apply hopen.delivered e (hcomplete a hsince e he (by omega) hle) hle'
    · apply hcovered e he hbase hlt

end Sentinel
