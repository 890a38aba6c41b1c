import Sentinel.Transition
import Sentinel.Supervisor.Control

/-!
# Who replays on a subscription

`catch_up_from` replays on the runtime that is current when it starts, the supervisor on the
replacement it installed. As long as `catch_up_from` starts when no reconnect replay is
pending, the two never replay on the same subscription.
-/

namespace Sentinel.Process

open Transition

variable {cfg : RunConfig} {p p' : Process}

/-- `catch_up_from` starts when no reconnect replay is pending. -/
def CatchUpStartsClear (cfg : RunConfig) (p : Process) : Action → Prop
  | .startupWakes => cfg.blockFrom = 0 ∨ p.pendingReplayStartBlock = none
  | _ => True

instance (p : Process) (a : Action) : Decidable (p.CatchUpStartsClear cfg a) := by
  induction a using Action.casesOn with
  | startupWakes => unfold CatchUpStartsClear; infer_instance
  | _ => exact isTrue trivial

/-- No reconnect replay is pending while `catch_up_from` is on the current runtime. -/
def CatchUpExclusive (p : Process) : Prop :=
  p.startup.catchUpRuntime = some p.moduleRuntime → p.pendingReplayStartBlock = none

/-- A replacement takes the current runtime away from `catch_up_from`, and every other step
keeps what is pending or clears it. -/
theorem catchUpExclusive_of_step {a : Action} (hp : p.WellFormed) (hx : p.CatchUpExclusive)
    (hok : p.CatchUpStartsClear cfg a) (h : p.step cfg a = some p') :
  p'.CatchUpExclusive
  := by
  intro hcurrent
  obtain ⟨hruntime, hpending⟩ | ⟨-, hpending⟩ | ⟨rfl, hruntime⟩ := pending_of_step h
  · rw [hpending]
    rw [hruntime] at hcurrent
    obtain hsame | hnone | ⟨rfl, hblock, -⟩ := catchUpRuntime_of_step h
    · apply hx
      rw [← hsame, hcurrent]
    · rw [hnone] at hcurrent
      cases hcurrent
    · obtain hzero | hclear := hok
      · cases hblock hzero
      · apply hclear
  · apply hpending
  · obtain ⟨block, -, rfl⟩ := aborted_cases h
    have hle : p.moduleRuntime + 1 ≤ p.moduleRuntime := hp.catchUpRuntime_le _ hcurrent
    cases Nat.not_succ_le_self _ hle

/-- In a run where `catch_up_from` starts when no reconnect replay is pending, processes are
well formed and `catch_up_from` is exclusive. -/
theorem catchUpExclusive_of_reaches {now : ℤ}
    (h : Reaches (step cfg) (CatchUpStartsClear cfg) (initial cfg now) p) :
  p.WellFormed ∧ p.CatchUpExclusive
  := by
  apply h.invariant (I := fun p => p.WellFormed ∧ p.CatchUpExclusive)
  · rintro p a p' ⟨hp, hx⟩ hok hstep
    apply And.intro (hp.of_step hstep) (catchUpExclusive_of_step hp hx hok hstep)
  · apply And.intro (wellFormed_initial cfg now) nofun

/-- In a run where `catch_up_from` starts when no reconnect replay is pending, no
subscription has two replays in progress. -/
theorem replaysInProgress_nodup {now : ℤ}
    (h : Reaches (step cfg) (CatchUpStartsClear cfg) (initial cfg now) p) :
  p.replaysInProgress.Nodup
  := by
  obtain ⟨hp, hx⟩ := catchUpExclusive_of_reaches h
  cases hstartup : p.startup with
  | replaying runtime block r =>
      cases hsupervisor : p.supervisor with
      | replaying r' =>
          have hpending : p.pendingReplayStartBlock.isSome = true :=
            hp.pending_of_owesReplay (by rw [hsupervisor]; rfl)
          have hne : runtime ≠ p.moduleRuntime := by
            rintro rfl
            have hnone := hx (by rw [hstartup]; rfl)
            rw [hnone] at hpending
            cases hpending
          simp [replaysInProgress, hstartup, hsupervisor, hne]
      | _ => simp [replaysInProgress, hstartup, hsupervisor]
  | _ =>
      cases hsupervisor : p.supervisor <;> simp [replaysInProgress, hstartup, hsupervisor]

/-- A startup from checkpoint `5` that loses its first runtime while it catches up: the
replacement replays, and so did `catch_up_from`, on different subscriptions. -/
theorem replaysInProgress_nodup_fromCheckpoint :
  ∃ p : Process, p.replaysInProgress.Nodup ∧ p.replaysInProgress = [0, 1]
  := by
  obtain ⟨p, hreach, hreplays⟩ := exists_reaches_of_execute (step (.fromCheckpoint 5))
    (CatchUpStartsClear (.fromCheckpoint 5)) (initial (.fromCheckpoint 5) 0)
    [.resumed, .subscribed 0, .startupWakes, .catchUpHead (some 7), .listenerEnded 0 true,
      .supervisorWakes, .aborted, .resumed, .subscribed 1, .supervisorWakes,
      .supervisorHead (some 8)]
    (fun p => p.replaysInProgress = [0, 1]) rfl
  use p, replaysInProgress_nodup hreach, hreplays

/-- A startup from checkpoint `5` whose first runtime is replaced after its subscription
started and before `catch_up_from` does: `catch_up_from` and the supervisor both replay on
the replacement. -/
theorem exists_replaysInProgress_duplicate :
  ∃ p, Reaches (step (.fromCheckpoint 5)) (fun _ _ => True) (initial (.fromCheckpoint 5) 0) p
    ∧ p.replaysInProgress = [1, 1]
  := by
  apply exists_reaches_of_execute (step (.fromCheckpoint 5)) (fun _ _ => True)
    (initial (.fromCheckpoint 5) 0)
    [.resumed, .subscribed 0, .listenerEnded 0 true, .supervisorWakes, .aborted, .resumed,
      .subscribed 1, .startupWakes, .supervisorWakes, .supervisorHead (some 7),
      .catchUpHead (some 7)]
  rfl

end Sentinel.Process
