import Sentinel.Transition
import Sentinel.Supervisor.Control

/-!
# Readiness

The startup sequence and the supervisor both mark the catch-up complete when their own replay
is done. The process hides no replay it owes as long as each of them does so only when the
other one owes none.
-/

namespace Sentinel

/-- The startup sequence replays. -/
def StartupTask.isReplaying : StartupTask → Bool
  | replaying _ _ _ => true
  | _ => false

/-- Startup is complete. -/
def StartupTask.isFinished : StartupTask → Bool
  | finished => true
  | _ => false

/-- The supervisor replaces the runtime. -/
def SupervisorTask.isAborting : SupervisorTask → Bool
  | aborting _ => true
  | _ => false

namespace Process

open Transition

variable {cfg : RunConfig} {p p' : Process}

/-- The step ends `catch_up_from`, which marks the catch-up complete. -/
def endsCatchUp (cfg : RunConfig) (p : Process) (a : Action) : Bool :=
  match a with
  | .startupWakes | .catchUpHead _ | .catchUpReplay _ | .catchUpSlept =>
      (p.step cfg a).any fun p' => p'.startup.isFinished
  | _ => false

/-- The step ends the pending replay, which marks the catch-up complete. -/
def endsPendingReplay (cfg : RunConfig) (p : Process) (a : Action) : Bool :=
  match a with
  | .supervisorReplay _ => (p.step cfg a).any fun p' => p'.pendingReplayStartBlock.isNone
  | _ => false

/-- `catch_up_from` ends only when no reconnect replay is pending or about to be, and the
pending replay ends only when `catch_up_from` neither replays nor is on the current
runtime. -/
def CompletesAlone (cfg : RunConfig) (p : Process) (a : Action) : Prop :=
  (p.endsCatchUp cfg a = true →
      p.pendingReplayStartBlock = none ∧ p.supervisor.isAborting = false)
    ∧ (p.endsPendingReplay cfg a = true →
      p.startup.isReplaying = false ∧ p.startup.catchUpRuntime ≠ some p.moduleRuntime)

instance (p : Process) (a : Action) : Decidable (p.CompletesAlone cfg a) := by
  unfold CompletesAlone
  infer_instance

/-- No replay is in progress, pending or about to be. -/
structure OwesNothing (p : Process) : Prop where
  pending : p.pendingReplayStartBlock = none
  aborting : p.supervisor.isAborting = false
  replaying : p.startup.isReplaying = false
  current : p.startup.catchUpRuntime ≠ some p.moduleRuntime

/-- As long as the catch-up is not marked active, no replay is owed. -/
def CatchUpShown (p : Process) : Prop :=
  p.health.catchupActive = false → p.OwesNothing

/-! ### Steps -/

/-- The catch-up is marked active before a runtime is replaced. -/
theorem catchUpShown_restartOrExit (hp : p.CatchUpShown) :
  p.restartOrExit.CatchUpShown
  := by
  intro hactive
  obtain ⟨-, heq⟩ | ⟨-, heq⟩ := p.restartOrExit_cases
  · rw [heq] at hactive ⊢
    exact { hp hactive with aborting := rfl }
  · rw [heq] at hactive
    cases hactive

/-- `catch_up_from` may return when the supervisor owes nothing. -/
theorem owesNothing_catchUpReturned (hpending : p.pendingReplayStartBlock = none)
    (haborting : p.supervisor.isAborting = false) :
  p.catchUpReturned.OwesNothing
  where
  pending := hpending
  aborting := haborting
  replaying := rfl
  current := nofun

/-- The loop of `catch_up_from` may end when the supervisor owes nothing, and goes on only
while the catch-up is marked active. -/
theorem catchUpShown_catchUpLoop {runtime replayStartBlock : ℕ}
    (hactive : p.moduleRuntime = runtime → p.health.catchupActive = true)
    (hends : (p.catchUpLoop runtime replayStartBlock).startup = .finished →
      p.pendingReplayStartBlock = none ∧ p.supervisor.isAborting = false) :
  (p.catchUpLoop runtime replayStartBlock).CatchUpShown
  := by
  intro hinactive
  obtain ⟨-, heq⟩ | ⟨-, hruntime, heq⟩ := p.catchUpLoop_cases runtime replayStartBlock
  · rw [heq] at hends ⊢
    obtain ⟨hpending, haborting⟩ := hends rfl
    apply owesNothing_catchUpReturned hpending haborting
  · rw [heq] at hinactive
    cases hinactive.symm.trans (hactive hruntime)

theorem catchUpShown_catchUpUnavailable {runtime replayStartBlock : ℕ}
    (hactive : p.moduleRuntime = runtime → p.health.catchupActive = true)
    (hends : (p.catchUpUnavailable runtime replayStartBlock).startup = .finished →
      p.pendingReplayStartBlock = none ∧ p.supervisor.isAborting = false) :
  (p.catchUpUnavailable runtime replayStartBlock).CatchUpShown
  := by
  intro hinactive
  obtain ⟨-, heq⟩ | ⟨-, hruntime, heq⟩ := p.catchUpUnavailable_cases runtime replayStartBlock
  · rw [heq] at hends ⊢
    obtain ⟨hpending, haborting⟩ := hends rfl
    apply owesNothing_catchUpReturned hpending haborting
  · rw [heq] at hinactive
    cases hinactive.symm.trans (hactive hruntime)

/-- The catch-up is marked active while `catch_up_from` is on the current runtime. -/
theorem active_of_catchUpRuntime (hp : p.CatchUpShown)
    (h : p.startup.catchUpRuntime = some p.moduleRuntime) :
  p.health.catchupActive = true
  := by
  cases hactive : p.health.catchupActive with
  | true => rfl
  | false => cases (hp hactive).current h

/-- The catch-up is marked active while `catch_up_from` replays. -/
theorem active_of_isReplaying (hp : p.CatchUpShown) (h : p.startup.isReplaying = true) :
  p.health.catchupActive = true
  := by
  cases hactive : p.health.catchupActive with
  | true => rfl
  | false => cases h.symm.trans (hp hactive).replaying

/-- Progress leaves the catch-up mark as it is. -/
@[simp]
theorem catchupActive_replayStepped (p : Process) (i : ℕ) (s : Subscription) (l : Ledger)
    (progress : Bool) :
  (p.replayStepped i s l progress).health.catchupActive = p.health.catchupActive
  := by
  cases progress <;> rfl

/-- The supervisor replays. -/
theorem catchUpShown_of_supervisorReplay {answer : Answer} (hp : p.CatchUpShown)
    (hok : p.CompletesAlone cfg (.supervisorReplay answer))
    (h : p.step cfg (.supervisorReplay answer) = some p') :
  p'.CatchUpShown
  := by
  have hendsPending := hok.2
  obtain ⟨r, s, l, outcome, -, -, q, hq, hstepped⟩ := supervisorReplay_cases h
  have hshown : q.CatchUpShown := by
    rw [hq]
    intro hactive
    rw [catchupActive_replayStepped] at hactive
    exact { hp hactive with }
  obtain ⟨r', -, rfl⟩ | ⟨-, rfl⟩ | ⟨-, rfl⟩ := hstepped
  · exact fun hactive => { hshown hactive with aborting := rfl }
  · rintro -
    obtain ⟨hreplaying, hcurrent⟩ := hendsPending (by simp [endsPendingReplay, h])
    rw [hq]
    exact ⟨rfl, rfl, hreplaying, hcurrent⟩
  · apply catchUpShown_restartOrExit
    exact fun hactive => { hshown hactive with }

/-- The startup sequence goes on. -/
theorem catchUpShown_of_startupWakes (hp : p.CatchUpShown)
    (hok : p.CompletesAlone cfg .startupWakes) (h : p.step cfg .startupWakes = some p') :
  p'.CatchUpShown
  := by
  have hends := hok.1
  obtain ⟨runtime, -, -, ⟨-, rfl⟩ | ⟨-, rfl⟩⟩ := startupWakes_cases h
  · exact fun hactive => { hp hactive with replaying := rfl, current := nofun }
  · apply catchUpShown_catchUpLoop
    · rintro -
      rfl
    · intro hfinished
      apply hends
      simp [endsCatchUp, h, hfinished, StartupTask.isFinished]

/-- `catch_up_from` reads the head. -/
theorem catchUpShown_of_catchUpHead {head : Option ℕ} (hp : p.CatchUpShown)
    (hok : p.CompletesAlone cfg (.catchUpHead head))
    (h : p.step cfg (.catchUpHead head) = some p') :
  p'.CatchUpShown
  := by
  have hends := hok.1
  obtain ⟨runtime, block, hstartup, hstepped⟩ := catchUpHead_cases h
  have hactive : p.moduleRuntime = runtime → p.health.catchupActive = true := by
    rintro rfl
    apply active_of_catchUpRuntime hp
    rw [hstartup]
    rfl
  obtain ⟨-, rfl⟩ | ⟨-, rfl⟩ | ⟨hruntime, catchupHead, s, r, -, -, rfl⟩ := hstepped
  · apply catchUpShown_catchUpUnavailable hactive
    intro hfinished
    apply hends
    simp [endsCatchUp, h, hfinished, StartupTask.isFinished]
  · rintro -
    obtain ⟨hpending, haborting⟩ := hends (by simp [endsCatchUp, h, catchUpReturned,
      StartupTask.isFinished])
    apply owesNothing_catchUpReturned hpending haborting
  · intro hinactive
    cases hinactive.symm.trans (hactive hruntime)

/-- `catch_up_from` replays. -/
theorem catchUpShown_of_catchUpReplay {answer : Answer} (hp : p.CatchUpShown)
    (hok : p.CompletesAlone cfg (.catchUpReplay answer))
    (h : p.step cfg (.catchUpReplay answer) = some p') :
  p'.CatchUpShown
  := by
  have hends := hok.1
  obtain ⟨runtime, block, r, s, l, outcome, hstartup, -, q, hq, hstepped⟩ :=
    catchUpReplay_cases h
  have hactive : q.health.catchupActive = true := by
    rw [hq, catchupActive_replayStepped]
    apply active_of_isReplaying hp
    rw [hstartup]
    rfl
  have hsupervisor : q.pendingReplayStartBlock = p.pendingReplayStartBlock
      ∧ q.supervisor = p.supervisor := by
    rw [hq]
    apply And.intro rfl rfl
  obtain ⟨r', -, rfl⟩ | ⟨-, rfl⟩ | ⟨-, rfl⟩ := hstepped
  · intro hinactive
    cases hinactive.symm.trans hactive
  · rintro -
    obtain ⟨hpending, haborting⟩ := hends (by simp [endsCatchUp, h, catchUpReturned,
      StartupTask.isFinished])
    rw [← hsupervisor.1] at hpending
    rw [← hsupervisor.2] at haborting
    apply owesNothing_catchUpReturned hpending haborting
  · apply catchUpShown_catchUpUnavailable (fun _ => hactive)
    intro hfinished
    rw [hsupervisor.1, hsupervisor.2]
    apply hends
    simp [endsCatchUp, h, hfinished, StartupTask.isFinished]

/-- `catch_up_from` goes on after its delay. -/
theorem catchUpShown_of_catchUpSlept (hp : p.CatchUpShown)
    (hok : p.CompletesAlone cfg .catchUpSlept) (h : p.step cfg .catchUpSlept = some p') :
  p'.CatchUpShown
  := by
  have hends := hok.1
  obtain ⟨runtime, block, hstartup, rfl⟩ := catchUpSlept_cases h
  apply catchUpShown_catchUpLoop
  · rintro rfl
    apply active_of_catchUpRuntime hp
    rw [hstartup]
    rfl
  · intro hfinished
    apply hends
    simp [endsCatchUp, h, hfinished, StartupTask.isFinished]

/-- A step after which each task marks the catch-up complete only when the other one owes
nothing keeps the catch-up shown. -/
theorem catchUpShown_of_step {a : Action} (hp : p.CatchUpShown)
    (hok : p.CompletesAlone cfg a) (h : p.step cfg a = some p') :
  p'.CatchUpShown
  := by
  by_cases ha : a.background = true
  · have hsame := sameControl_of_background h ha
    intro hactive
    rw [hsame.catchupActive] at hactive
    obtain ⟨hpending, haborting, hreplaying, hcurrent⟩ := hp hactive
    constructor
    · rw [hsame.pendingReplayStartBlock, hpending]
    · rw [hsame.supervisor, haborting]
    · rw [hsame.startup, hreplaying]
    · rw [hsame.startup, hsame.moduleRuntime]
      apply hcurrent
  cases a with
  | resumed =>
      intro hactive
      obtain ⟨-, listener, -, ⟨-, rfl⟩ | ⟨-, rfl⟩⟩ := resumed_cases h <;>
        exact { hp hactive with aborting := rfl }
  | supervisorWakes =>
      obtain ⟨-, rfl | ⟨-, rfl⟩ | ⟨-, -, rfl⟩⟩ := supervisorWakes_cases h
      · exact fun hactive => { hp hactive with aborting := rfl }
      · apply catchUpShown_restartOrExit hp
      · exact fun hactive => { hp hactive with aborting := rfl }
  | supervisorHead head =>
      obtain ⟨-, block, -, ⟨-, rfl⟩ | ⟨catchupHead, s, r, -, -, rfl⟩⟩ := supervisorHead_cases h
      · apply catchUpShown_restartOrExit hp
      · exact fun hactive => { hp hactive with aborting := rfl }
  | supervisorReplay answer => apply catchUpShown_of_supervisorReplay hp hok h
  | aborted =>
      obtain ⟨block, hsupervisor, rfl⟩ := aborted_cases h
      intro hactive
      have haborting := (hp hactive).aborting
      rw [hsupervisor] at haborting
      cases haborting
  | stopped =>
      obtain ⟨-, rfl⟩ := stopped_cases h
      intro hactive
      have haborting : (if p.shutdownRequested then SupervisorTask.exited
          else .resuming).isAborting = false := by
        split <;> rfl
      exact { hp hactive with aborting := haborting }
  | startupWakes => apply catchUpShown_of_startupWakes hp hok h
  | initialHead head =>
      obtain ⟨-, rfl⟩ := initialHead_cases h
      exact fun hactive => { hp hactive with replaying := rfl, current := nofun }
  | persisted =>
      obtain ⟨-, rfl⟩ := persisted_cases h
      exact fun hactive => { hp hactive with replaying := rfl, current := nofun }
  | catchUpHead head => apply catchUpShown_of_catchUpHead hp hok h
  | catchUpReplay answer => apply catchUpShown_of_catchUpReplay hp hok h
  | catchUpSlept => apply catchUpShown_of_catchUpSlept hp hok h
  | requestShutdown =>
      cases h
      exact fun hactive => { hp hactive with }
  | _ => cases ha rfl

/-! ### Runs -/

/-- In a run whose tasks mark the catch-up complete only when the other one owes nothing, a
ready process has no pending replay and no replay in progress. -/
theorem pending_eq_none_of_ready {now : ℤ}
    (h : Reaches (step cfg) (CompletesAlone cfg) (initial cfg now) p)
    (hready : p.ready = true) :
  p.pendingReplayStartBlock = none ∧ p.replaysInProgress = []
  := by
  have hinv : p.WellFormed ∧ p.CatchUpShown := by
    apply h.invariant (I := fun p => p.WellFormed ∧ p.CatchUpShown)
    · rintro p a p' ⟨hp, hshown⟩ hok hstep
      apply And.intro (hp.of_step hstep) (catchUpShown_of_step hshown hok hstep)
    · apply And.intro (wellFormed_initial cfg now)
      exact fun _ => ⟨rfl, rfl, rfl, nofun⟩
  obtain ⟨hp, hshown⟩ := hinv
  obtain ⟨hpending, -, hreplaying, -⟩ := hshown (HealthState.of_ready hready).2
  apply And.intro hpending
  have hsupervisor : p.supervisor.owesReplay = false := by
    cases howes : p.supervisor.owesReplay with
    | false => rfl
    | true =>
        have hsome := hp.pending_of_owesReplay howes
        rw [hpending] at hsome
        cases hsome
  cases hstartup : p.startup with
  | replaying runtime block r =>
      rw [hstartup] at hreplaying
      cases hreplaying
  | _ =>
      cases hsup : p.supervisor with
      | replaying r =>
          rw [hsup] at hsupervisor
          cases hsupervisor
      | _ => simp [replaysInProgress, hstartup, hsup]

/-- A startup from checkpoint `5` whose catch-up reaches head `7` without a reconnect ends
ready. -/
theorem ready_fromCheckpoint :
  ∃ p : Process, p.ready = true ∧ p.pendingReplayStartBlock = none ∧ p.replaysInProgress = []
  := by
  obtain ⟨p, hreach, hready⟩ := exists_reaches_of_execute (step (.fromCheckpoint 5))
    (CompletesAlone (.fromCheckpoint 5)) (initial (.fromCheckpoint 5) 0)
    [.resumed, .subscribed 0, .startupWakes, .catchUpHead (some 7), .catchUpReplay .proceed,
      .catchUpReplay (.events []), .catchUpReplay .proceed]
    (fun p => p.ready = true) rfl
  exact ⟨p, hready, pending_eq_none_of_ready hreach hready⟩

/-- A startup from checkpoint `5` whose runtime is replaced while `catch_up_from` reads the
head: `catch_up_from` returns, the startup sequence marks the catch-up complete, and the
process is ready while the replacement owes the replay from block `6`. -/
theorem exists_ready_pending :
  ∃ p, Reaches (step (.fromCheckpoint 5)) (fun _ _ => True) (initial (.fromCheckpoint 5) 0) p
    ∧ p.ready = true ∧ p.pendingReplayStartBlock = some 6
  := by
  apply exists_reaches_of_execute (step (.fromCheckpoint 5)) (fun _ _ => True)
    (initial (.fromCheckpoint 5) 0)
    [.resumed, .subscribed 0, .startupWakes, .listenerEnded 0 true, .supervisorWakes, .aborted,
      .resumed, .subscribed 1, .catchUpHead (some 7)]
  rfl

end Process

end Sentinel
