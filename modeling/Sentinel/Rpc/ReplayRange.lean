import Sentinel.Rpc.Replay

/-!
# The blocks a replay requests

A replay that starts after a block requests only logs after that block.
-/

namespace Sentinel

/-- Every requested range of blocks is after block `base`. -/
def Ledger.FetchedAfter (base : ℕ) (l : Ledger) : Prop :=
  ∀ range ∈ l.fetched, base < range.1

namespace Replay

variable {base batchSize : ℕ} {s : Subscription} {l l' : Ledger} {r : Replay}

/-- The replay started after block `base`, and so does its batch. -/
def After (base : ℕ) (r : Replay) : Prop :=
  base < r.startBlock ∧ match r.point with
    | .fetch batchStart | .emit batchStart _ | .mark batchStart => base < batchStart
    | _ => True

/-- What was requested is after block `base`, and so is what a running replay goes on with. -/
def RangeAfter (base : ℕ) (result : ReplayResult) : Prop :=
  result.2.1.FetchedAfter base ∧ ∀ r, result.2.2 = .running r → r.After base

theorem rangeAfter_flushItems (hr : base < r.startBlock) (hl : l.FetchedAfter base)
    (items : List SubscriptionItem) :
  RangeAfter base (r.flushItems s l items)
  := by
  have hemit : ∀ (s : Subscription) items item,
      RangeAfter base (r.emitBuffered s l items item) := by
    intro s items item
    cases item with
    | event e =>
        use hl
        rintro _ ⟨⟩
        use hr
    | block b =>
        use hl
        rintro _ ⟨⟩
        use hr
  simp only [flushItems, flushBuffer]
  split
  · use hl, by simp
  · split
    · split
      · use hl, by simp
      · split
        · use hl, by simp
        · apply hemit
    · apply hemit

theorem rangeAfter_fetchBatch {batchStart : ℕ} (hr : base < r.startBlock)
    (hl : l.FetchedAfter base) (hbatch : base < batchStart) :
  RangeAfter base (r.fetchBatch batchSize s l batchStart)
  := by
  simp only [fetchBatch]
  split
  · apply rangeAfter_flushItems hr hl
  · constructor
    · intro range hrange
      obtain hrange | hrange := List.mem_append.mp hrange
      · apply hl range hrange
      · obtain rfl := List.mem_singleton.mp hrange
        apply hbatch
    · rintro _ ⟨⟩
      use hr, hbatch

theorem rangeAfter_emitEvents {batchStart : ℕ} {events : List Event} (hr : base < r.startBlock)
    (hl : l.FetchedAfter base) (hbatch : base < batchStart) :
  RangeAfter base (r.emitEvents s l batchStart events)
  := by
  simp only [emitEvents]
  split
  · apply rangeAfter_flushItems hr hl
  · split
    · use hl
      rintro _ ⟨⟩
      use hr, hbatch
    · use hl
      rintro _ ⟨⟩
      use hr, hbatch

/-- A step of a replay that started after block `base` requests logs after it. -/
theorem rangeAfter_step {answer : Answer} {result : ReplayResult} (hr : r.After base)
    (hl : l.FetchedAfter base) (h : r.step batchSize s l answer = some result) :
  RangeAfter base result
  := by
  obtain ⟨hstart, hpoint⟩ := hr
  have hreturns : ∀ (s : Subscription) outcome, (∀ r, outcome ≠ .running r) →
      RangeAfter base (s, l, outcome) := by
    intro s outcome houtcome
    use hl
    intro r hrunning
    cases houtcome r hrunning
  cases steps_of_step h with
  | connected hpoint =>
      split
      · apply rangeAfter_flushItems hstart hl
      · split
        · use hl
          rintro _ ⟨⟩
          use hstart
        · apply rangeAfter_fetchBatch hstart hl hstart
  | endBlock n hpoint => apply rangeAfter_fetchBatch (by exact hstart) hl hstart
  | fetched es hfetch =>
      rw [hfetch] at hpoint
      apply rangeAfter_emitEvents hstart hl hpoint
  | stopped hpoint hstop => apply rangeAfter_flushItems hstart hl
  | emitted hemit =>
      rw [hemit] at hpoint
      apply rangeAfter_emitEvents hstart hl hpoint
  | marked hmark =>
      rw [hmark] at hpoint
      apply rangeAfter_fetchBatch hstart (by exact hl) (Nat.lt_add_right _ hpoint)
  | flushed hpoint => apply rangeAfter_flushItems hstart hl
  | flushedBlock hpoint => apply rangeAfter_flushItems hstart (by exact hl)
  | raisedInFlush fault hpoint => exact hreturns _ _ nofun
  | raised fault => exact hreturns _ _ nofun

end Replay

end Sentinel
