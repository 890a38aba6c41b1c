import Sentinel.Rpc.Delivery

/-!
# The buffer after a replay

A call of `replay_blocks` puts the buffer of the subscription back however it ends, unless an
exception is raised where it awaits a consumer of a buffered item. Then the buffer of the call
stays in place, and later live items are collected in it.
-/

namespace Sentinel

namespace ReplayCall

open Transition

variable {τ ι δ κ : Type} [DecidableEq τ] {b : Backfill τ ι δ κ} {c : ReplayCall κ}

/-- The buffer is the one from before the call. -/
def Restored (c : ReplayCall κ) : Prop :=
  c.ownBuffer = false ∧ c.subscription.bufferedSubscriptionItems = c.previousBuffer

/-- An exception is raised where the call awaits a consumer of a buffered item. -/
def raisesInFlush (c : ReplayCall κ) : CallAction → Bool
  | .raises _ => c.point.flushing
  | _ => false

/-- While the call runs its own buffer is in place. -/
def OwnsBuffer (c : ReplayCall κ) : Prop :=
  c.point.ended = false → c.ownBuffer = true ∧ c.subscription.bufferedSubscriptionItems ≠ none

theorem ownsBuffer_start (s : Subscription) (startBlock endBlock : ℕ)
    (suppressLiveEventsUntil : Option ℕ) :
  (start κ s startBlock endBlock suppressLiveEventsUntil).OwnsBuffer
  := by
  intro _
  constructor
  · rfl
  · nofun

/-- A live item leaves a buffer in place. -/
theorem emitSubscriptionItem_buffer_ne_none {s : Subscription}
    (h : s.bufferedSubscriptionItems ≠ none) (item : SubscriptionItem) :
  (s.emitSubscriptionItem item).1.bufferedSubscriptionItems ≠ none
  := by
  obtain ⟨-, heq⟩ | ⟨-, -, items, -, heq⟩ | ⟨-, -, -, heq⟩ := s.emitSubscriptionItem_cases item
  · rwa [heq]
  · rw [heq]
    nofun
  · rwa [heq]

/-- A call keeps its own buffer in place while it runs. -/
theorem ownsBuffer_of_moves {c' : ReplayCall κ} (h : Moves b c c') (hc : c.OwnsBuffer) :
  c'.OwnsBuffer
  := by
  obtain rfl | hrunning := h.running
  · apply hc
  · obtain ⟨hown, hbuffer⟩ := hc hrunning
    intro hrunning'
    cases h with
    | receive item _ => use hown, emitSubscriptionItem_buffer_ne_none hbuffer item
    | raise fault _ =>
        rw [raise] at hrunning'
        split at hrunning' <;> cases hrunning'
    | interrupted => cases hrunning'
    | flushed => cases hrunning'
    | pass =>
        use hown
        nofun
    | _ => apply And.intro hown hbuffer

/-- Where a call awaits a consumer of a buffered item, only an exception ends it. -/
theorem not_ended_of_flushing {action : CallAction} {c' : ReplayCall κ}
    (hflushing : c.point.flushing = true) (hok : c.raisesInFlush action = false)
    (h : c.step b action = some c') :
  c'.point.ended = false
  := by
  obtain ⟨item, consumers, rest, hpoint⟩ :
      ∃ item consumers rest, c.point = .handle item consumers rest := by
    cases hpoint : c.point with
    | handle item consumers rest => use item, consumers, rest
    | _ =>
        rw [hpoint] at hflushing
        cases hflushing
  have hrunning : c.point.ended = false := by
    rw [hpoint]
    rfl
  cases action with
  | raises fault => cases hflushing.symm.trans hok
  | log e =>
      simp only [step, hpoint] at h
      obtain rfl := Option.some.inj h
      apply hrunning
  | head number =>
      simp only [step, hpoint, CallPoint.awaits, if_true] at h
      split at h
      · obtain rfl := Option.some.inj h
        apply hrunning
      · obtain rfl := Option.some.inj h
        apply hrunning
  | shutdown =>
      simp only [step, hpoint, CallPoint.awaits, if_true] at h
      obtain rfl := Option.some.inj h
      rfl
  | proceed =>
      simp only [step, proceed, hpoint] at h
      obtain rfl := Option.some.inj h
      rfl
  | connected w3 => simp [step, answer, hpoint] at h
  | blockNumber n => simp [step, answer, hpoint] at h
  | fetched env state => simp [step, answer, hpoint] at h

/-- A call that ends puts back the buffer, unless an exception is raised in the flush. -/
theorem restored_of_step {action : CallAction} {c' : ReplayCall κ}
    (hok : c.raisesInFlush action = false) (h : c.step b action = some c')
    (hc : c.point.ended = true → c.Restored) (hended : c'.point.ended = true) :
  c'.Restored
  := by
  have hmoves := moves_of_step h
  obtain rfl | hrunning := hmoves.running
  · apply hc hended
  · cases hmoves with
    | raise fault _ =>
        by_cases hflushing : c.point.flushing = true
        · cases hended.symm.trans (not_ended_of_flushing hflushing hok h)
        · rw [raise, if_neg hflushing]
          apply And.intro rfl rfl
    | interrupted => apply And.intro rfl rfl
    | flushed => apply And.intro rfl rfl
    | ignore => apply hc hended
    | receive => cases hrunning.symm.trans hended
    | shutdown => cases hrunning.symm.trans hended
    | skip => simp [goto] at hended
    | emitted => simp [goto] at hended
    | _ => cases hended

/-- A call that has returned has put back the buffer. -/
theorem restored_of_returned {c' : ReplayCall κ} (h : Moves b c c')
    (hc : c.point = .returned → c.Restored) (hreturned : c'.point = .returned) :
  c'.Restored
  := by
  obtain rfl | hrunning := h.running
  · apply hc hreturned
  · cases h with
    | interrupted => apply And.intro rfl rfl
    | flushed => apply And.intro rfl rfl
    | ignore => apply hc hreturned
    | receive =>
        rw [show c.point = .returned from hreturned] at hrunning
        cases hrunning
    | shutdown =>
        rw [show c.point = .returned from hreturned] at hrunning
        cases hrunning
    | raise fault _ =>
        rw [raise] at hreturned
        split at hreturned <;> cases hreturned
    | skip item consumers rest _ _ =>
        have hended := c.ended_resume (b := b) rest
        rw [show c.resume b rest = .returned from hreturned] at hended
        cases hended
    | emitted item rest _ _ =>
        have hended := c.ended_resume (b := b) rest
        rw [show c.resume b rest = .returned from hreturned] at hended
        cases hended
    | _ => cases hreturned

/-- The buffer to put back stays the same. -/
theorem previousBuffer_of_moves {c' : ReplayCall κ} (h : Moves b c c') :
  c'.previousBuffer = c.previousBuffer
  := by
  cases h with
  | raise fault _ =>
      rw [raise]
      split <;> rfl
  | _ => rfl

/-- A call puts back the buffer however it ends, unless an exception is raised where it awaits a
consumer of a buffered item; and then it does not. -/
theorem replayBlocks_restores_iff (b : Backfill τ ι δ κ) (s : Subscription)
    (startBlock endBlock : ℕ) (suppressLiveEventsUntil : Option ℕ) :
  (∀ c, Reaches (step b) (fun c action => c.raisesInFlush action = false)
      (start κ s startBlock endBlock suppressLiveEventsUntil) c →
    c.point.ended = true → c.Restored) ∧
  ∀ c action c', Reaches (step b) (fun _ _ => True)
      (start κ s startBlock endBlock suppressLiveEventsUntil) c →
    c.raisesInFlush action = true → c.step b action = some c' →
    c'.point.ended = true ∧ ¬ c'.Restored
  := by
  constructor
  · intro c hc
    apply hc.invariant (I := fun c => c.point.ended = true → c.Restored)
    · intro c action c' hended hok hstep
      apply restored_of_step hok hstep hended
    · nofun
  · intro c action c' hc hraises hstep
    have hown : c.OwnsBuffer := by
      apply hc.invariant
      · intro c action c' hown _ hstep
        apply ownsBuffer_of_moves (moves_of_step hstep) hown
      · apply ownsBuffer_start
    cases action with
    | raises fault =>
        simp only [step] at hstep
        split at hstep
        next hawaits =>
            obtain rfl := Option.some.inj hstep
            have hflushing : c.point.flushing = true := hraises
            rw [raise, if_pos hflushing]
            use rfl
            rintro ⟨hrestored, -⟩
            cases hrestored.symm.trans (hown (not_ended_of_awaits hawaits)).1
        next => cases hstep
    | _ => cases hraises

/-- A consumer raises on a live log that was buffered during a replay of block 1: the call ends,
and the subscription that was not buffering before goes on to buffer live logs. -/
theorem replayBlocks_keeps_buffering :
  ∃ c, Reaches (step Backfill.empty) (fun _ _ => True)
      (start ℕ (Subscription.new none) 1 1 (some 1)) c ∧
    c.point.ended = true ∧ c.previousBuffer.isNone = true ∧
    c.subscription.bufferedSubscriptionItems.isSome = true ∧
    c.subscription.shutdownEvent = false ∧
    ((c.subscription.emitSubscriptionEvent (Event.first 3)).1.bufferedSubscriptionItems.getD
      []).length = 1
  := by
  apply exists_reaches_of_execute _ _ _ [.log (Event.first 2), .connected true, .proceed,
    Backfill.answering, .proceed, .proceed, .proceed, .proceed, .proceed, .proceed, .proceed,
    .proceed, .proceed, .raises .other]
  decide +kernel

end ReplayCall

end Sentinel
