import Sentinel.Rpc.Coverage

/-!
# The steps of a replay keep the coverage

One step of a replay keeps what the replay claims to have covered, what its regime promises
of the feed, and that the persisted block is covered: this is `Replay.sound_step`. The
promise of the regime is needed, and kept, only as long as the subscription is not shut
down.
-/

namespace Sentinel

variable {chain : Chain} {base batchSize : ℕ} {f : Feed} {s : Subscription} {l : Ledger}
  {r : Replay} {since : Option ℕ} {delivered : List Event}

/-- The regime of a subscription whose replay came to an outcome. -/
def Outcome.regime : Outcome → Regime
  | .running r => .replaying r
  | .returned => .live
  | .raised _ => .owed

/-- The persisted block is covered, a running replay covers what it claims, and unless the
subscription is shut down its feed is what the regime of the outcome promises. -/
structure ReplaySound (chain : Chain) (base batchSize : ℕ) (since : Option ℕ)
    (delivered : List Event) (result : ReplayResult) : Prop where
  block : Covered chain base result.2.1 result.2.1.block
  claims : ∀ r, result.2.2 = .running r → r.Claims chain base batchSize result.2.1
  stage : result.1.shutdownEvent = false →
    Stage chain base (result.1.feed since delivered) result.2.1 result.2.2.regime

/-! ### Start -/

/-- A replay that starts on an open feed up to a head that is not behind it suppresses and
buffers what it has to. -/
theorem Stage.replayBlocks {asked startBlock head : ℕ} {s' : Subscription}
    (h : Stage chain base (s.feed since delivered) l (.reading asked)) (hhead : asked ≤ head)
    (hreplay : s.replayBlocks startBlock head (some head) = (s', r)) :
  Stage chain base (s'.feed since delivered) l (.replaying r)
  := by
  cases hreplay
  have hthreshold : max (s.ignoreSubscriptionEventsUntilBlock.getD 0) head = head := by
    apply max_eq_right
    cases hs : s.ignoreSubscriptionEventsUntilBlock with
    | none => apply Nat.zero_le
    | some threshold => apply le_trans (h.threshold threshold hs) hhead
  obtain ⟨a, ha, hsince⟩ := h.since
  refine ⟨head, [], ?_⟩
  exact {
    suppresses := congrArg some hthreshold
    buffers := rfl
    since := ⟨a, le_trans ha hhead, hsince⟩
    endBlock := le_refl head
    previousBuffer := h.buffer
    queued :=
      { of_delivered := fun e he hlt => Or.inl (h.delivered e he (lt_of_le_of_lt hhead hlt))
        of_item := nofun
        of_buffered := nofun
        ordered := List.Pairwise.nil }
    covered := nofun }

/-- A replay that starts claims the blocks before its start. -/
theorem Replay.claims_replayBlocks {startBlock head : ℕ} {s' : Subscription}
    (h : Covered chain base l (startBlock - 1))
    (hreplay : s.replayBlocks startBlock head (some head) = (s', r)) :
  r.Claims chain base batchSize l
  := by
  cases hreplay
  apply h

/-! ### Queues -/

/-- The buffer is taken to be flushed, in chain order. -/
theorem Queued.sort {number : ℕ} {buffer : List SubscriptionItem}
    (h : Queued chain delivered l number [] buffer) :
  Queued chain delivered l number (sortBy SubscriptionItem.sortKey buffer) []
  where
  of_delivered e he hlt := by
    rw [mem_sortBy]
    apply (h.of_delivered e he hlt).imp_right
    rintro (hmem | hmem)
    · cases hmem
    · apply Or.inl hmem
  of_item b hb e he hlt hle := by
    rw [mem_sortBy] at hb ⊢
    apply (h.of_buffered b hb e he hlt hle).imp_right
    rintro (hmem | hmem)
    · cases hmem
    · apply hmem
  of_buffered := nofun
  ordered := orderedBy_sortBy _ _

/-- An event leaves the items when it is handed on. -/
theorem Queued.popEvent {number : ℕ} {items buffer : List SubscriptionItem} {e : Event}
    (h : Queued chain delivered l number (.event e :: items) buffer) :
  Queued chain delivered (l.handleEvent e) number items buffer
  := by
  have hpop : ∀ e', e' ∈ l.handled ∨ .event e' ∈ .event e :: items →
      e' ∈ (l.handleEvent e).handled ∨ .event e' ∈ items := by
    rintro e' (hhandled | hmem)
    · apply Or.inl
      simp [hhandled]
    · obtain heq | hmem := List.mem_cons.mp hmem
      · apply Or.inl
        simp [SubscriptionItem.event.inj heq]
      · apply Or.inr hmem
  constructor
  · intro e' he' hlt
    rw [← or_assoc]
    apply Or.imp_left (hpop e')
    rw [or_assoc]
    apply h.of_delivered e' he' hlt
  · intro b hb e' he' hlt hle
    apply hpop
    apply h.of_item b (List.mem_cons_of_mem _ hb) e' he' hlt hle
  · intro b hb e' he' hlt hle
    rw [← or_assoc]
    apply Or.imp_left (hpop e')
    rw [or_assoc]
    apply h.of_buffered b hb e' he' hlt hle
  · apply h.ordered.tail

/-- A block leaves the items: the logs up to it were handled before, because they are
flushed before it. -/
theorem Queued.popBlock {number : ℕ} {items buffer : List SubscriptionItem} {b : Block}
    (h : Queued chain delivered l number (.block b :: items) buffer) :
  Queued chain delivered l number items buffer
    ∧ ∀ e ∈ chain, number < e.block → e.block ≤ b.number → e ∈ l.handled
  := by
  have hevent : ∀ e : Event, .event e ∈ .block b :: items → .event e ∈ items := by
    intro e hmem
    simpa using hmem
  constructor
  · constructor
    · intro e he hlt
      apply (h.of_delivered e he hlt).imp_right (Or.imp_left (hevent e))
    · intro b' hb' e he hlt hle
      apply (h.of_item b' (List.mem_cons_of_mem _ hb') e he hlt hle).imp_right (hevent e)
    · intro b' hb' e he hlt hle
      apply (h.of_buffered b' hb' e he hlt hle).imp_right (Or.imp_left (hevent e))
    · apply h.ordered.tail
  · intro e he hlt hle
    obtain hhandled | hmem := h.of_item b List.mem_cons_self e he hlt hle
    · apply hhandled
    · have hkey := h.ordered.head_le (hevent e hmem)
      have hlt' := SubscriptionItem.lt_blockNumber_of_sortKey_le hkey
      omega

namespace Replay

/-! ### Flushing -/

/-- The replay at another point. -/
def atPoint (r : Replay) (point : ReplayPoint) : Replay :=
  { r with point := point }

@[simp]
theorem atPoint_point {point : ReplayPoint} : (r.atPoint point).point = point
  := rfl

theorem sound_emitBuffered {number : ℕ} {buffer items : List SubscriptionItem}
    {item : SubscriptionItem} (hblock : Covered chain base l l.block)
    (h : Replaying chain base (s.feed since delivered) l (r.atPoint (.flush (item :: items)))
      number buffer) :
  ReplaySound chain base batchSize since delivered (r.emitBuffered s l items item)
  := by
  have hcovered : Covered chain base l number := h.covered rfl
  cases item with
  | event e =>
      have hle := l.le_handleEvent e
      constructor
      · apply hblock.of_le hle
      · rintro _ ⟨⟩
        trivial
      · rintro -
        exact ⟨number, buffer, { h with
          queued := h.queued.popEvent
          covered := fun _ => hcovered.of_le hle }⟩
  | block b =>
      obtain ⟨hqueued, hhandled⟩ := h.queued.popBlock
      constructor
      · apply hblock
      · rintro _ ⟨⟩ e he hbase hle
        obtain hlt | hle' := Nat.lt_or_ge number e.block
        · apply hhandled e he hlt hle
        · apply hcovered e he hbase hle'
      · rintro -
        exact ⟨number, buffer, { h with
          queued := hqueued
          covered := fun _ => hcovered }⟩

/-- When nothing is left to flush, the feed is live. -/
theorem stage_restoreBuffer {number : ℕ}
    (h : Replaying chain base (s.feed since delivered) l (r.atPoint (.flush [])) number []) :
  Stage chain base ((r.restoreBuffer s).feed since delivered) l .live
  := by
  use number
  constructor
  · exact {
      buffer := h.previousBuffer
      since := h.since
      threshold := by
        intro threshold hthreshold
        apply le_of_eq (Option.some.inj (hthreshold.symm.trans h.suppresses))
      delivered := by
        intro e he hlt
        obtain hhandled | hmem | hmem := h.queued.of_delivered e he hlt
        · apply hhandled
        · cases hmem
        · cases hmem }
  · apply h.covered rfl

/-- Going on with the flush keeps the coverage: the next item is handed on, or the buffer is
flushed in its turn, or it stayed empty. -/
theorem sound_flushItems {items : List SubscriptionItem} (hblock : Covered chain base l l.block)
    (h : s.shutdownEvent = false →
      Stage chain base (s.feed since delivered) l (.replaying (r.atPoint (.flush items)))) :
  ReplaySound chain base batchSize since delivered (r.flushItems s l items)
  := by
  simp only [flushItems]
  split
  · rename_i hs
    refine ⟨hblock, by simp, ?_⟩
    intro hs'
    cases hs.symm.trans hs'
  rename_i hs
  obtain ⟨number, buffer, hr⟩ := h (by simpa using hs)
  have hbuffer : s.bufferedSubscriptionItems = some buffer := hr.buffers
  split
  · simp only [flushBuffer, hbuffer, Option.getD_some]
    split
    · rename_i hempty
      obtain rfl : buffer = [] := by simpa using hempty
      refine ⟨hblock, by simp, fun _ => stage_restoreBuffer hr⟩
    · rename_i hempty
      split
      · rename_i hsorted
        rw [sortBy_eq_nil_iff] at hsorted
        simp [hsorted] at hempty
      · rename_i item items hsorted
        have hqueued := hr.queued.sort
        rw [hsorted] at hqueued
        refine sound_emitBuffered hblock (?_ : Replaying chain base _ l _ number [])
        exact { hr with
          buffers := rfl
          queued := hqueued
          covered := fun _ => hr.covered rfl }
  · apply sound_emitBuffered hblock hr

/-! ### Batches -/

/-- A replay that is not flushing keeps the promise of its regime between its awaits. -/
theorem stage_atPoint {t : ReplayPoint}
    (h : Stage chain base f l (.replaying r)) (hr : r.isFlushing = false)
    (hpoint : (r.atPoint t).isFlushing = false) :
  Stage chain base f l (.replaying (r.atPoint t))
  := by
  obtain ⟨number, buffer, hreplaying⟩ := h
  have hflushing : ∀ r : Replay, r.isFlushing = false → r.flushing = [] := by
    intro r hr
    simp only [isFlushing, flushing] at hr ⊢
    split <;> simp_all
  refine ⟨number, buffer, { hreplaying with queued := ?_, covered := ?_ }⟩
  · rw [hflushing _ hpoint, ← hflushing r hr]
    apply hreplaying.queued
  · rw [hpoint]
    nofun

/-- A replay that has covered its range may flush. -/
theorem stage_flush (h : Stage chain base f l (.replaying r)) (hr : r.isFlushing = false)
    (hcovered : Covered chain base l r.endBlock) :
  Stage chain base f l (.replaying (r.atPoint (.flush [])))
  := by
  obtain ⟨number, buffer, hreplaying⟩ := stage_atPoint (t := .connected) h hr rfl
  exact ⟨number, buffer, { hreplaying with
    covered := fun _ => hcovered.mono hreplaying.endBlock }⟩

/-- A replay keeps the promise of its regime while it flushes. -/
theorem stage_atFlush {items : List SubscriptionItem}
    (h : Stage chain base f l (.replaying r)) (hr : r.isFlushing = true)
    (hitems : r.flushing = items) :
  Stage chain base f l (.replaying (r.atPoint (.flush items)))
  := by
  obtain ⟨number, buffer, hreplaying⟩ := h
  have hqueued := hreplaying.queued
  rw [hitems] at hqueued
  exact ⟨number, buffer, { hreplaying with
    queued := hqueued
    covered := fun _ => hreplaying.covered hr }⟩

/-- The end of the batches keeps the coverage when the range is covered. -/
theorem sound_complete (hblock : Covered chain base l l.block)
    (h : s.shutdownEvent = false → Stage chain base (s.feed since delivered) l (.replaying r)
      ∧ Covered chain base l r.endBlock) (hr : r.isFlushing = false) :
  ReplaySound chain base batchSize since delivered (r.complete s l)
  := by
  apply sound_flushItems hblock
  intro hs
  apply stage_flush (h hs).1 hr (h hs).2

/-- Going on with a batch keeps the coverage when the blocks before it are covered. -/
theorem sound_fetchBatch {batchStart : ℕ} (hblock : Covered chain base l l.block)
    (h : s.shutdownEvent = false → Stage chain base (s.feed since delivered) l (.replaying r))
    (hr : r.isFlushing = false)
    (hcovered : Covered chain base l (min (batchStart - 1) r.endBlock)) :
  ReplaySound chain base batchSize since delivered (r.fetchBatch batchSize s l batchStart)
  := by
  simp only [fetchBatch]
  split
  · rename_i hend
    apply sound_complete hblock _ hr
    intro hs
    have hlt : r.endBlock < batchStart := by simpa [hs] using hend
    apply And.intro (h hs) (hcovered.mono _)
    omega
  · rename_i hend
    have hle : batchStart ≤ r.endBlock := by
      simp only [Bool.or_eq_true, decide_eq_true_eq, not_or, Nat.not_lt] at hend
      apply hend.2
    have hl := l.le_fetchLogs batchStart (r.batchEnd batchSize batchStart)
    constructor
    · apply hblock.of_le hl
    · rintro _ ⟨⟩
      apply Covered.of_le (hcovered.mono _) hl
      omega
    · intro hs
      apply stage_atPoint ((h hs).of_le hl) hr rfl

/-- Going on with the events of a batch keeps the coverage when these are all that is left of
the batch. -/
theorem sound_emitEvents {batchStart : ℕ} {events : List Event}
    (hblock : Covered chain base l l.block)
    (h : s.shutdownEvent = false → Stage chain base (s.feed since delivered) l (.replaying r))
    (hr : r.isFlushing = false)
    (hevents : ∀ e ∈ chain, base < e.block → e.block ≤ r.batchEnd batchSize batchStart →
      e ∈ l.handled ∨ e ∈ events) :
  ReplaySound chain base batchSize since delivered (r.emitEvents s l batchStart events)
  := by
  simp only [emitEvents]
  split
  · rename_i hs
    apply sound_complete hblock _ hr
    intro hs'
    cases hs.symm.trans hs'
  · rename_i hs
    have hs' : s.shutdownEvent = false := by simpa using hs
    cases events with
    | nil =>
        refine ⟨hblock, ?_, fun _ => stage_atPoint (h hs') hr rfl⟩
        rintro _ ⟨⟩ e he hbase hle
        apply (hevents e he hbase hle).resolve_right
        apply List.not_mem_nil
    | cons e events =>
        have hl := l.le_handleEvent e
        refine ⟨hblock.of_le hl, ?_, fun _ => stage_atPoint ((h hs').of_le hl) hr rfl⟩
        rintro _ ⟨⟩ e' he' hbase hle
        obtain hhandled | hmem := hevents e' he' hbase hle
        · apply Or.inl (Ledger.mem_handled_of_le hl hhandled)
        · obtain rfl | hmem := List.mem_cons.mp hmem
          · left
            apply List.mem_append_right _ (List.mem_singleton_self e')
          · apply Or.inr hmem

/-- An error before the flush puts the buffer back. -/
theorem sound_raised {fault : Fault} (hblock : Covered chain base l l.block)
    (h : s.shutdownEvent = false → Stage chain base (s.feed since delivered) l (.replaying r)) :
  ReplaySound chain base batchSize since delivered (r.restoreBuffer s, l, .raised fault)
  := by
  refine ⟨hblock, nofun, ?_⟩
  intro hs
  obtain ⟨number, buffer, hreplaying⟩ := h hs
  apply hreplaying.previousBuffer

/-! ### Steps -/

/-- The node answers a replay as documented: a request for the logs of a range returns the
logs of the range in some order, and only requests to the node are unavailable. -/
def AnswerOk (chain : Chain) (batchSize : ℕ) (r : Replay) (answer : Answer) : Prop :=
  match r.point, answer with
  | .fetch batchStart, .events es =>
      es.Perm (chain.logsBetween batchStart (r.batchEnd batchSize batchStart))
  | .connected, .raises .unavailable | .endBlock, .raises .unavailable
  | .fetch _, .raises .unavailable => True
  | _, .raises _ => False
  | _, _ => True

/-- A step of a replay keeps the coverage. -/
theorem sound_step {answer : Answer} {result : ReplayResult}
    (hblock : Covered chain base l l.block) (hclaims : r.Claims chain base batchSize l)
    (h : s.shutdownEvent = false → Stage chain base (s.feed since delivered) l (.replaying r))
    (hanswer : r.AnswerOk chain batchSize answer)
    (hstep : r.step batchSize s l answer = some result) :
  ReplaySound chain base batchSize since delivered result
  := by
  cases steps_of_step hstep with
  | connected hpoint =>
      have hr : r.isFlushing = false := by simp [isFlushing, hpoint]
      have hcovered : Covered chain base l (r.startBlock - 1) := by
        simpa only [Claims, hpoint] using hclaims
      split
      next hs =>
          apply sound_complete hblock _ hr
          intro hs'
          cases hs.symm.trans hs'
      next =>
          split
          next hend =>
              refine ⟨hblock, ?_, fun hs => stage_atPoint (h hs) hr rfl⟩
              rintro _ ⟨⟩
              apply And.intro hcovered hend
          next => apply sound_fetchBatch hblock h hr (hcovered.mono (min_le_left _ _))
  | endBlock n hpoint =>
      have hr : ({ r with endBlock := n } : Replay).isFlushing = false := by
        simp [isFlushing, hpoint]
      obtain ⟨hcovered, hend⟩ : Covered chain base l (r.startBlock - 1) ∧ r.endBlock = 0 := by
        simpa only [Claims, hpoint] using hclaims
      apply sound_fetchBatch hblock _ hr (hcovered.mono (min_le_left _ _))
      intro hs
      obtain ⟨number, buffer, hreplaying⟩ := h hs
      refine ⟨number, buffer, { hreplaying with endBlock := ?_ }⟩
      have hle := hreplaying.endBlock
      show number ≤ n
      omega
  | @fetched batchStart es hpoint =>
      have hr : r.isFlushing = false := by simp [isFlushing, hpoint]
      have hcovered : Covered chain base l (batchStart - 1) := by
        simpa only [Claims, hpoint] using hclaims
      apply sound_emitEvents hblock h hr
      intro e he hbase hle
      obtain hlt | hge := Nat.lt_or_ge e.block batchStart
      · apply Or.inl (hcovered e he hbase (by omega))
      · have hes : es.Perm (chain.logsBetween batchStart
            (r.batchEnd batchSize batchStart)) := by
          simpa only [AnswerOk, hpoint] using hanswer
        rw [hes.mem_iff, Chain.mem_logsBetween]
        apply Or.inr ⟨he, hge, hle⟩
  | stopped hpoint hstop =>
      apply sound_complete hblock _ (by simp [isFlushing, hpoint])
      intro hs
      cases hstop.symm.trans hs
  | emitted hpoint =>
      apply sound_emitEvents hblock h (by simp [isFlushing, hpoint])
      simpa only [Claims, hpoint] using hclaims
  | @marked batchStart hpoint =>
      have hcovered : Covered chain base l (r.batchEnd batchSize batchStart) := by
        simpa only [Claims, hpoint] using hclaims
      have hl := l.le_advanceBlock (r.batchEnd batchSize batchStart)
      apply sound_fetchBatch (hblock.advanceBlock hcovered) (fun hs => (h hs).of_le hl)
        (by simp [isFlushing, hpoint])
      apply hcovered.of_le hl
  | flushed hpoint =>
      apply sound_flushItems hblock
      intro hs
      apply stage_atFlush (h hs) <;> simp [isFlushing, flushing, hpoint]
  | @flushedBlock number items hpoint =>
      have hl := l.le_advanceBlock number
      have hcovered : Covered chain base l number := by
        simpa only [Claims, hpoint] using hclaims
      apply sound_flushItems (hblock.advanceBlock hcovered)
      intro hs
      apply stage_atFlush ((h hs).of_le hl) <;> simp [isFlushing, flushing, hpoint]
  | raisedInFlush fault hpoint =>
      -- a consumer raises no error
      obtain ⟨items, hpoint | ⟨number, hpoint⟩⟩ := hpoint <;> simp [AnswerOk, hpoint] at hanswer
  | raised fault => apply sound_raised hblock h

end Replay

end Sentinel
