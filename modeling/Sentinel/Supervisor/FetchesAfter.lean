import Sentinel.Rpc.ReplayRange
import Sentinel.Supervisor.Soundness

/-!
# The blocks a process requests

Replays start after the persisted block, so that a process whose persisted block is at or
after block `base`, and whose `catch_up_from` starts after it, requests only logs after it.
-/

namespace Sentinel.Process

variable {base : ℕ} {cfg : RunConfig} {p p' : Process}

/-- What a process requested, and what its replays start from, is after block `base`. -/
structure FetchesAfter (base : ℕ) (p : Process) : Prop where
  fetched : p.ledger.FetchedAfter base
  block : base ≤ p.ledger.block
  pending : ∀ block ∈ p.pendingReplayStartBlock, base < block
  aborting : ∀ block, p.supervisor = .aborting block → base < block
  supervisor : ∀ r, p.supervisor = .replaying r → r.After base
  catchUp : ∀ block ∈ p.startup.replayStartBlock, base < block
  startup : ∀ runtime block r, p.startup = .replaying runtime block r → r.After base

namespace FetchesAfter

/-- The tasks stay where they are, and nothing is requested. -/
theorem of_sameControl (hp : p.FetchesAfter base) (h : p.SameControl p')
    (hfetched : p'.ledger.fetched = p.ledger.fetched) (hblock : p.ledger.block ≤ p'.ledger.block) :
  p'.FetchesAfter base
  where
  fetched := by
    rw [Ledger.FetchedAfter, hfetched]
    apply hp.fetched
  block := le_trans hp.block hblock
  pending := by
    rw [h.pendingReplayStartBlock]
    apply hp.pending
  aborting := by
    rw [h.supervisor]
    apply hp.aborting
  supervisor := by
    rw [h.supervisor]
    apply hp.supervisor
  catchUp := by
    rw [h.startup]
    apply hp.catchUp
  startup := by
    rw [h.startup]
    apply hp.startup

/-- The supervisor goes where it is not in a replay, and starts no replacement. -/
theorem of_supervisor (hp : p.FetchesAfter base) {supervisor : SupervisorTask}
    (haborting : ∀ block, supervisor ≠ .aborting block)
    (hreplaying : ∀ r, supervisor ≠ .replaying r) :
  { p with supervisor := supervisor }.FetchesAfter base
  := { hp with
    aborting := fun block h => absurd h (haborting block)
    supervisor := fun r h => absurd h (hreplaying r) }

theorem restartOrExit (hp : p.FetchesAfter base) :
  p.restartOrExit.FetchesAfter base
  := by
  obtain ⟨-, heq⟩ | ⟨-, heq⟩ := p.restartOrExit_cases
  · rw [heq]
    exact { hp with
      aborting := nofun
      supervisor := nofun }
  · rw [heq]
    exact { hp with
      aborting := by
        rintro _ ⟨⟩
        apply lt_max_of_lt_left (Nat.lt_succ_of_le hp.block)
      supervisor := nofun }

theorem catchUpReturned (hp : p.FetchesAfter base) :
  p.catchUpReturned.FetchesAfter base
  := { hp with
    catchUp := nofun
    startup := nofun }

theorem catchUpLoop (hp : p.FetchesAfter base) (runtime : ℕ) {replayStartBlock : ℕ}
    (h : base < replayStartBlock) :
  (p.catchUpLoop runtime replayStartBlock).FetchesAfter base
  := by
  obtain ⟨-, heq⟩ | ⟨-, -, heq⟩ := p.catchUpLoop_cases runtime replayStartBlock
  · rw [heq]
    apply hp.catchUpReturned
  · rw [heq]
    exact { hp with
      catchUp := by
        rintro _ ⟨⟩
        apply h
      startup := nofun }

theorem catchUpUnavailable (hp : p.FetchesAfter base) (runtime : ℕ) {replayStartBlock : ℕ}
    (h : base < replayStartBlock) :
  (p.catchUpUnavailable runtime replayStartBlock).FetchesAfter base
  := by
  obtain ⟨-, heq⟩ | ⟨-, -, heq⟩ := p.catchUpUnavailable_cases runtime replayStartBlock
  · rw [heq]
    apply hp.catchUpReturned
  · rw [heq]
    exact { hp with
      catchUp := by
        rintro _ ⟨⟩
        apply lt_max_of_lt_left h
      startup := nofun }

/-- A replay that started after block `base` took a step. -/
theorem replayStepped (hp : p.FetchesAfter base) {r : Replay} {i : ℕ} {answer : Answer}
    {s : Subscription} {l : Ledger} {outcome : Outcome} (progress : Bool) (hr : r.After base)
    (h : r.step cfg.blockBatchSize (p.subscriptions i) p.ledger answer = some (s, l, outcome)) :
  (p.replayStepped i s l progress).FetchesAfter base
  := { hp with
    fetched := (Replay.rangeAfter_step hr hp.fetched h).1
    block := le_trans hp.block (Replay.le_of_step h).1 }

/-- Background steps request nothing. -/
theorem of_background {a : Action} (hp : p.FetchesAfter base) (ha : a.background = true)
    (h : p.step cfg a = some p') :
  p'.FetchesAfter base
  := by
  have hc := sameControl_of_background h ha
  cases a with
  | tick elapsed =>
      cases h
      exact hp.of_sameControl hc rfl (le_refl _)
  | subscribed i =>
      obtain ⟨-, rfl⟩ := subscribed_cases h
      exact hp.of_sameControl hc rfl (le_refl _)
  | listenerEnded i unavailable =>
      obtain ⟨-, listener, health, -, -, rfl⟩ := listenerEnded_cases h
      exact hp.of_sameControl hc rfl (le_refl _)
  | liveLog i e =>
      obtain ⟨-, s, handedOn, -, ⟨-, rfl⟩ | ⟨-, rfl⟩⟩ := liveLog_cases h <;>
      · exact hp.of_sameControl hc rfl (le_refl _)
  | liveHead i head =>
      obtain ⟨-, s, handedOn, health, -, -, ⟨-, rfl⟩ | ⟨-, -, rfl⟩⟩ := liveHead_cases h <;>
      · exact hp.of_sameControl hc rfl (le_refl _)
  | liveBlockDone i =>
      obtain ⟨number, -, rfl⟩ := liveBlockDone_cases h
      exact hp.of_sameControl hc rfl (le_max_left _ _)
  | waitUntilSubscribed =>
      cases h
      exact hp.of_sameControl hc rfl (le_refl _)
  | waiterDone runtime =>
      obtain ⟨-, -, rfl⟩ := waiterDone_cases h
      exact hp.of_sameControl hc rfl (le_refl _)
  | _ => cases ha

/-- The supervisor reads the head. -/
theorem of_supervisorHead {head : Option ℕ} (hp : p.FetchesAfter base)
    (h : p.step cfg (.supervisorHead head) = some p') :
  p'.FetchesAfter base
  := by
  obtain ⟨-, block, hpending, ⟨-, rfl⟩ | ⟨catchupHead, s, r, -, hreplay, rfl⟩⟩ :=
    supervisorHead_cases h
  · apply hp.restartOrExit
  · cases hreplay
    exact { hp with
      aborting := nofun
      supervisor := by
        rintro _ ⟨⟩
        use hp.pending block hpending }

/-- The supervisor replays. -/
theorem of_supervisorReplay {answer : Answer} (hp : p.FetchesAfter base)
    (h : p.step cfg (.supervisorReplay answer) = some p') :
  p'.FetchesAfter base
  := by
  obtain ⟨r, s, l, outcome, hsupervisor, hstep, q, rfl,
    ⟨r', rfl, rfl⟩ | ⟨-, rfl⟩ | ⟨-, rfl⟩⟩ := supervisorReplay_cases h
  all_goals
    have hr := hp.supervisor r hsupervisor
    have hp' := hp.replayStepped (r.marksProgress answer) hr hstep
  · exact { hp' with
      aborting := nofun
      supervisor := by
        rintro _ ⟨⟩
        apply (Replay.rangeAfter_step hr hp.fetched hstep).2 _ rfl }
  · exact { hp' with
      pending := nofun
      aborting := nofun
      supervisor := nofun }
  · apply restartOrExit
    exact { hp' with }

/-- The replacement is installed. -/
theorem of_aborted (hp : p.FetchesAfter base) (h : p.step cfg .aborted = some p') :
  p'.FetchesAfter base
  := by
  obtain ⟨block, hsupervisor, rfl⟩ := aborted_cases h
  exact { hp with
    pending := by
      rintro _ ⟨⟩
      apply hp.aborting block hsupervisor
    aborting := by
      intro block'
      simp only
      split <;> exact nofun
    supervisor := by
      intro r
      simp only
      split <;> exact nofun }

/-- The subscription is stopped. -/
theorem of_stopped (hp : p.FetchesAfter base) (h : p.step cfg .stopped = some p') :
  p'.FetchesAfter base
  := by
  obtain ⟨-, rfl⟩ := stopped_cases h
  exact { hp with
    aborting := by
      intro block'
      simp only
      split <;> exact nofun
    supervisor := by
      intro r
      simp only
      split <;> exact nofun }

/-- The startup sequence goes on. -/
theorem of_startupWakes (hp : p.FetchesAfter base) (hstarts : p.StartsAfter base cfg)
    (h : p.step cfg .startupWakes = some p') :
  p'.FetchesAfter base
  := by
  obtain ⟨runtime, hstartup, -, ⟨hblock, -⟩ | ⟨-, rfl⟩⟩ := startupWakes_cases h
  · have hwaiting := hstarts.waiting runtime hstartup
    omega
  · apply catchUpLoop
    · exact { hp with }
    · rw [hstarts.waiting runtime hstartup]
      apply Nat.lt_succ_self

/-- `catch_up_from` reads the head. -/
theorem of_catchUpHead {head : Option ℕ} (hp : p.FetchesAfter base)
    (h : p.step cfg (.catchUpHead head) = some p') :
  p'.FetchesAfter base
  := by
  obtain ⟨runtime, block, hstartup, hcases⟩ := catchUpHead_cases h
  have hblock : base < block := by
    apply hp.catchUp
    rw [hstartup]
    rfl
  obtain ⟨-, rfl⟩ | ⟨-, rfl⟩ | ⟨-, catchupHead, s, r, -, hreplay, rfl⟩ := hcases
  · apply hp.catchUpUnavailable runtime hblock
  · apply hp.catchUpReturned
  · cases hreplay
    exact { hp with
      catchUp := by
        rintro _ ⟨⟩
        apply hblock
      startup := by
        rintro _ _ _ ⟨⟩
        use hblock }

/-- `catch_up_from` replays. -/
theorem of_catchUpReplay {answer : Answer} (hp : p.FetchesAfter base)
    (h : p.step cfg (.catchUpReplay answer) = some p') :
  p'.FetchesAfter base
  := by
  obtain ⟨runtime, block, r, s, l, outcome, hstartup, hstep, q, rfl, hcases⟩ :=
    catchUpReplay_cases h
  have hblock : base < block := by
    apply hp.catchUp
    rw [hstartup]
    rfl
  have hr := hp.startup runtime block r hstartup
  have hp' := hp.replayStepped (r.marksProgress answer) hr hstep
  obtain ⟨r', rfl, rfl⟩ | ⟨-, rfl⟩ | ⟨-, rfl⟩ := hcases
  · exact { hp' with
      catchUp := by
        rintro _ ⟨⟩
        apply hblock
      startup := by
        rintro _ _ _ ⟨⟩
        apply (Replay.rangeAfter_step hr hp.fetched hstep).2 _ rfl }
  · apply hp'.catchUpReturned
  · apply hp'.catchUpUnavailable runtime hblock

/-- Every step keeps it when startup does not start from the head. -/
theorem of_step {a : Action} (hp : p.FetchesAfter base) (hstarts : p.StartsAfter base cfg)
    (h : p.step cfg a = some p') :
  p'.FetchesAfter base
  := by
  by_cases ha : a.background = true
  · apply hp.of_background ha h
  cases a with
  | resumed =>
      obtain ⟨-, listener, -, ⟨-, rfl⟩ | ⟨-, rfl⟩⟩ := resumed_cases h <;>
      · exact { hp with
          aborting := nofun
          supervisor := nofun }
  | supervisorWakes =>
      obtain ⟨-, rfl | ⟨-, rfl⟩ | ⟨-, -, rfl⟩⟩ := supervisorWakes_cases h
      · exact hp.of_supervisor nofun nofun
      · apply hp.restartOrExit
      · exact hp.of_supervisor nofun nofun
  | supervisorHead head => apply hp.of_supervisorHead h
  | supervisorReplay answer => apply hp.of_supervisorReplay h
  | aborted => apply hp.of_aborted h
  | stopped => apply hp.of_stopped h
  | startupWakes => apply hp.of_startupWakes hstarts h
  | initialHead head =>
      obtain ⟨hstartup, -⟩ := initialHead_cases h
      cases hstarts.ne_readingInitialHead hstartup
  | persisted =>
      obtain ⟨-, rfl⟩ := persisted_cases h
      exact { hp with
        catchUp := nofun
        startup := nofun }
  | catchUpHead head => apply hp.of_catchUpHead h
  | catchUpReplay answer => apply hp.of_catchUpReplay h
  | catchUpSlept =>
      obtain ⟨runtime, block, hstartup, rfl⟩ := catchUpSlept_cases h
      apply hp.catchUpLoop
      apply hp.catchUp
      rw [hstartup]
      rfl
  | requestShutdown =>
      cases h
      exact { hp with }
  | _ => cases ha rfl

end FetchesAfter

end Sentinel.Process
