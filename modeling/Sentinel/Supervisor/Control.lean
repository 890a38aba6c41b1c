import Sentinel.Supervisor.Inversion

/-!
# The control state of a process

A background step, that of a listener or a waiter, leaves the startup sequence and the
supervisor task where they are (`SameControl`). `WellFormed` is what every run keeps of the
two tasks: replaced and aborted subscriptions are shut down, `catch_up_from` is on a runtime
that was installed, and the supervisor is on its way to a replay only when one is pending.
-/

namespace Sentinel.Process

variable {cfg : RunConfig} {p p' : Process}

/-! ### Background steps -/

/-- Both tasks are where they were, no subscription was shut down or replaced, and those
that had started have. -/
structure SameControl (p p' : Process) : Prop where
  shutdownRequested : p'.shutdownRequested = p.shutdownRequested
  catchupUntilBlock : p'.catchupUntilBlock = p.catchupUntilBlock
  pendingReplayStartBlock : p'.pendingReplayStartBlock = p.pendingReplayStartBlock
  moduleRuntime : p'.moduleRuntime = p.moduleRuntime
  supervisor : p'.supervisor = p.supervisor
  startup : p'.startup = p.startup
  initialCheckpoint : p'.initialCheckpoint = p.initialCheckpoint
  catchupActive : p'.health.catchupActive = p.health.catchupActive
  shutdownEvent : ∀ i, (p'.subscriptions i).shutdownEvent = (p.subscriptions i).shutdownEvent
  started : ∀ i, (p.subscriptions i).subscriptionsStarted = true →
    (p'.subscriptions i).subscriptionsStarted = true

/-- Replacing a subscription by one that is shut down like it shuts down no other one. -/
theorem shutdownEvent_update {subscriptions : ℕ → Subscription} {i : ℕ} {s : Subscription}
    (hs : s.shutdownEvent = (subscriptions i).shutdownEvent) (j : ℕ) :
  (Function.update subscriptions i s j).shutdownEvent = (subscriptions j).shutdownEvent
  := by
  by_cases hj : j = i
  · subst hj
    simpa using hs
  · rw [Function.update_of_ne hj]

/-- Replacing a subscription by one that is shut down if it was keeps the shut down ones. -/
theorem shutdown_update {subscriptions : ℕ → Subscription} {i : ℕ} {s : Subscription}
    (hs : (subscriptions i).shutdownEvent = true → s.shutdownEvent = true) (j : ℕ)
    (hj : (subscriptions j).shutdownEvent = true) :
  (Function.update subscriptions i s j).shutdownEvent = true
  := by
  by_cases heq : j = i
  · subst heq
    simpa using hs hj
  · rwa [Function.update_of_ne heq]

/-- Replacing a subscription by one that has started if it had keeps the started ones. -/
theorem started_update {subscriptions : ℕ → Subscription} {i : ℕ} {s : Subscription}
    (hs : (subscriptions i).subscriptionsStarted = true → s.subscriptionsStarted = true) (j : ℕ)
    (hj : (subscriptions j).subscriptionsStarted = true) :
  (Function.update subscriptions i s j).subscriptionsStarted = true
  := by
  by_cases heq : j = i
  · subst heq
    simpa using hs hj
  · rwa [Function.update_of_ne heq]

/-- A background step leaves both tasks where they are. -/
theorem sameControl_of_background {a : Action} (h : p.step cfg a = some p')
    (ha : a.background = true) :
  p.SameControl p'
  := by
  cases a with
  | tick elapsed =>
      cases h
      exact SameControl.mk rfl rfl rfl rfl rfl rfl rfl rfl (fun _ => rfl) (fun _ => id)
  | subscribed i =>
      obtain ⟨-, rfl⟩ := subscribed_cases h
      exact SameControl.mk rfl rfl rfl rfl rfl rfl rfl rfl (shutdownEvent_update rfl)
        (started_update fun _ => rfl)
  | listenerEnded i unavailable =>
      obtain ⟨-, listener, health, -, hhealth, rfl⟩ := listenerEnded_cases h
      have hcatchup : health.catchupActive = p.health.catchupActive := by
        obtain rfl | rfl := hhealth <;> rfl
      exact SameControl.mk rfl rfl rfl rfl rfl rfl rfl hcatchup (shutdownEvent_update rfl)
        (started_update id)
  | liveLog i e =>
      obtain ⟨-, s, handedOn, hemit, hstep⟩ := liveLog_cases h
      obtain ⟨buffer, hs⟩ := (p.subscriptions i).emitSubscriptionItem_fst (.event e)
      obtain rfl : s = { p.subscriptions i with bufferedSubscriptionItems := buffer } := by
        rw [← hs, ← Subscription.emitSubscriptionEvent, hemit]
      obtain ⟨-, rfl⟩ | ⟨-, rfl⟩ := hstep <;>
        exact SameControl.mk rfl rfl rfl rfl rfl rfl rfl rfl (shutdownEvent_update rfl)
          (started_update id)
  | liveHead i head =>
      obtain ⟨-, s, handedOn, health, hemit, hhealth, hstep⟩ := liveHead_cases h
      obtain ⟨buffer, hs⟩ := (p.subscriptions i).handleNewHeadSubscription_fst head
      obtain rfl : s = { p.subscriptions i with bufferedSubscriptionItems := buffer } := by
        rw [← hs, hemit]
      have hcatchup : health.catchupActive = p.health.catchupActive := by
        obtain rfl | rfl := hhealth <;> rfl
      obtain ⟨-, rfl⟩ | ⟨-, -, rfl⟩ := hstep <;>
        exact SameControl.mk rfl rfl rfl rfl rfl rfl rfl hcatchup (shutdownEvent_update rfl)
          (started_update id)
  | liveBlockDone i =>
      obtain ⟨number, -, rfl⟩ := liveBlockDone_cases h
      exact SameControl.mk rfl rfl rfl rfl rfl rfl rfl rfl (shutdownEvent_update rfl)
        (started_update id)
  | waitUntilSubscribed =>
      cases h
      exact SameControl.mk rfl rfl rfl rfl rfl rfl rfl rfl (fun _ => rfl) (fun _ => id)
  | waiterDone runtime =>
      obtain ⟨-, -, rfl⟩ := waiterDone_cases h
      exact SameControl.mk rfl rfl rfl rfl rfl rfl rfl rfl (fun _ => rfl) (fun _ => id)
  | _ => cases ha

/-! ### Well-formed processes -/

structure WellFormed (p : Process) : Prop where
  catchUpRuntime_le : ∀ runtime, p.startup.catchUpRuntime = some runtime →
    runtime ≤ p.moduleRuntime
  pending_of_owesReplay : p.supervisor.owesReplay = true →
    p.pendingReplayStartBlock.isSome = true
  shutdown_of_lt : ∀ i < p.moduleRuntime, (p.subscriptions i).shutdownEvent = true
  shutdown_of_aborting : ∀ block, p.supervisor = .aborting block →
    (p.subscriptions p.moduleRuntime).shutdownEvent = true

theorem wellFormed_initial (cfg : RunConfig) (now : ℤ) :
  (initial cfg now).WellFormed
  where
  catchUpRuntime_le := nofun
  pending_of_owesReplay := nofun
  shutdown_of_lt := nofun
  shutdown_of_aborting := nofun

namespace WellFormed

/-- Background steps keep a process well formed. -/
theorem of_sameControl (hp : p.WellFormed) (h : p.SameControl p') :
  p'.WellFormed
  := by
  constructor
  · rw [h.startup, h.moduleRuntime]
    apply hp.catchUpRuntime_le
  · rw [h.supervisor, h.pendingReplayStartBlock]
    apply hp.pending_of_owesReplay
  · intro i
    rw [h.moduleRuntime, h.shutdownEvent]
    apply hp.shutdown_of_lt
  · rw [h.supervisor, h.moduleRuntime, h.shutdownEvent]
    apply hp.shutdown_of_aborting

/-- The supervisor may go anywhere but to a replay or to an abort. -/
theorem of_supervisor (hp : p.WellFormed) {supervisor : SupervisorTask}
    (howes : supervisor.owesReplay = false) (haborting : ∀ block, supervisor ≠ .aborting block) :
  { p with supervisor := supervisor }.WellFormed
  where
  catchUpRuntime_le := hp.catchUpRuntime_le
  pending_of_owesReplay h := absurd h (by simp [howes])
  shutdown_of_lt := hp.shutdown_of_lt
  shutdown_of_aborting block h := absurd h (haborting block)

/-- The startup sequence may go anywhere on a runtime that was installed. -/
theorem of_startup (hp : p.WellFormed) {startup : StartupTask}
    (hstartup : ∀ runtime, startup.catchUpRuntime = some runtime → runtime ≤ p.moduleRuntime) :
  { p with startup := startup }.WellFormed
  := { hp with catchUpRuntime_le := hstartup }

theorem resubscribe (hp : p.WellFormed) :
  p.resubscribe.WellFormed
  := by
  apply hp.of_supervisor <;> split <;> simp [SupervisorTask.owesReplay]

theorem restartOrExit (hp : p.WellFormed) :
  p.restartOrExit.WellFormed
  := by
  obtain ⟨-, heq⟩ | ⟨-, heq⟩ := p.restartOrExit_cases
  · rw [heq]
    exact { hp with
      pending_of_owesReplay := nofun
      shutdown_of_lt := fun i hi => shutdown_update (by exact id) i (hp.shutdown_of_lt i hi)
      shutdown_of_aborting := nofun }
  · rw [heq]
    exact { hp with
      pending_of_owesReplay := nofun
      shutdown_of_lt := fun i hi =>
        shutdown_update (by exact fun _ => rfl) i (hp.shutdown_of_lt i hi)
      shutdown_of_aborting := fun _ _ => by
        simp [beginRestart, markHealth, setSubscription, Subscription.requestShutdown] }

theorem catchUpReturned (hp : p.WellFormed) :
  p.catchUpReturned.WellFormed
  := { hp with catchUpRuntime_le := nofun }

theorem catchUpLoop (hp : p.WellFormed) (runtime replayStartBlock : ℕ) :
  (p.catchUpLoop runtime replayStartBlock).WellFormed
  := by
  obtain ⟨-, heq⟩ | ⟨-, hruntime, heq⟩ := p.catchUpLoop_cases runtime replayStartBlock
  · rw [heq]
    apply hp.catchUpReturned
  · rw [heq]
    apply hp.of_startup
    rintro _ ⟨⟩
    apply le_of_eq hruntime.symm

theorem catchUpUnavailable (hp : p.WellFormed) (runtime replayStartBlock : ℕ) :
  (p.catchUpUnavailable runtime replayStartBlock).WellFormed
  := by
  obtain ⟨-, heq⟩ | ⟨-, hruntime, heq⟩ := p.catchUpUnavailable_cases runtime replayStartBlock
  · rw [heq]
    apply hp.catchUpReturned
  · rw [heq]
    apply hp.of_startup
    rintro _ ⟨⟩
    apply le_of_eq hruntime.symm

theorem replayStepped (hp : p.WellFormed) {r : Replay} {i : ℕ} {answer : Answer}
    {s : Subscription} {l : Ledger} {outcome : Outcome} (progress : Bool)
    (h : r.step cfg.blockBatchSize (p.subscriptions i) p.ledger answer = some (s, l, outcome)) :
  (p.replayStepped i s l progress).WellFormed
  := by
  obtain ⟨buffer, rfl⟩ := Replay.subscription_eq_of_step h
  exact { hp with
    shutdown_of_lt := fun j hj => shutdown_update (by exact id) j (hp.shutdown_of_lt j hj)
    shutdown_of_aborting := fun block hblock =>
      shutdown_update (by exact id) p.moduleRuntime (hp.shutdown_of_aborting block hblock) }

/-- The listener is started. -/
theorem of_resumed (hp : p.WellFormed) (h : p.step cfg .resumed = some p') :
  p'.WellFormed
  := by
  obtain ⟨-, listener, -, ⟨hpending, rfl⟩ | ⟨-, rfl⟩⟩ := resumed_cases h
  · exact { hp with
      pending_of_owesReplay := fun _ => hpending
      shutdown_of_lt := fun i hi => shutdown_update (by exact id) i (hp.shutdown_of_lt i hi)
      shutdown_of_aborting := by simp }
  · exact { hp with
      pending_of_owesReplay := by simp [SupervisorTask.owesReplay]
      shutdown_of_lt := fun i hi => shutdown_update (by exact id) i (hp.shutdown_of_lt i hi)
      shutdown_of_aborting := by simp }

/-- The supervisor wakes up. -/
theorem of_supervisorWakes (hp : p.WellFormed) (h : p.step cfg .supervisorWakes = some p') :
  p'.WellFormed
  := by
  obtain ⟨-, rfl | ⟨-, rfl⟩ | ⟨hsupervisor, -, rfl⟩⟩ := supervisorWakes_cases h
  · exact { hp with
      pending_of_owesReplay := by simp [SupervisorTask.owesReplay]
      shutdown_of_aborting := by simp }
  · apply hp.restartOrExit
  · exact { hp with
      pending_of_owesReplay := fun _ => hp.pending_of_owesReplay (by rw [hsupervisor]; rfl)
      shutdown_of_aborting := by simp }

/-- The supervisor reads the head. -/
theorem of_supervisorHead {head : Option ℕ} (hp : p.WellFormed)
    (h : p.step cfg (.supervisorHead head) = some p') :
  p'.WellFormed
  := by
  obtain ⟨-, block, hpending, ⟨-, rfl⟩ | ⟨catchupHead, s, r, -, hreplay, rfl⟩⟩ :=
    supervisorHead_cases h
  · apply hp.restartOrExit
  · cases hreplay
    exact { hp with
      pending_of_owesReplay := fun _ => Option.isSome_of_mem hpending
      shutdown_of_lt := fun i hi => shutdown_update (by exact id) i (hp.shutdown_of_lt i hi)
      shutdown_of_aborting := by simp }

/-- The supervisor replays. -/
theorem of_supervisorReplay {answer : Answer} (hp : p.WellFormed)
    (h : p.step cfg (.supervisorReplay answer) = some p') :
  p'.WellFormed
  := by
  obtain ⟨r, s, l, outcome, hsupervisor, hstep, q, rfl,
    ⟨r', -, rfl⟩ | ⟨-, rfl⟩ | ⟨-, rfl⟩⟩ := supervisorReplay_cases h
  · exact { hp.replayStepped (r.marksProgress answer) hstep with
      pending_of_owesReplay := fun _ => hp.pending_of_owesReplay (by rw [hsupervisor]; rfl)
      shutdown_of_aborting := by simp }
  · exact { hp.replayStepped (r.marksProgress answer) hstep with
      pending_of_owesReplay := by simp [SupervisorTask.owesReplay]
      shutdown_of_aborting := by simp }
  · apply restartOrExit
    exact { hp.replayStepped (r.marksProgress answer) hstep with }

/-- The replacement is installed. -/
theorem of_aborted (hp : p.WellFormed) (h : p.step cfg .aborted = some p') :
  p'.WellFormed
  := by
  obtain ⟨block, hsupervisor, rfl⟩ := aborted_cases h
  have hlt : ∀ i ≤ p.moduleRuntime, (p.subscriptions i).shutdownEvent = true := by
    intro i hi
    obtain hi | rfl := Nat.lt_or_eq_of_le hi
    · apply hp.shutdown_of_lt i hi
    · apply hp.shutdown_of_aborting block hsupervisor
  exact { hp with
    catchUpRuntime_le := fun runtime h => Nat.le_succ_of_le (hp.catchUpRuntime_le runtime h)
    pending_of_owesReplay := fun _ => rfl
    shutdown_of_lt := by
      intro i hi
      have hi' : i ≤ p.moduleRuntime := Nat.le_of_lt_succ hi
      simp only [markHealth, setSubscription, cancelListener]
      rw [Function.update_of_ne (Nat.ne_of_lt hi)]
      apply shutdown_update (by exact id) i (hlt i hi')
    shutdown_of_aborting := by
      intro block'
      split <;> simp }

/-- `catch_up_from` reads the head. -/
theorem of_catchUpHead {head : Option ℕ} (hp : p.WellFormed)
    (h : p.step cfg (.catchUpHead head) = some p') :
  p'.WellFormed
  := by
  obtain ⟨runtime, block, -, ⟨-, rfl⟩ | ⟨-, rfl⟩ |
    ⟨hruntime, catchupHead, s, r, -, hreplay, rfl⟩⟩ := catchUpHead_cases h
  · apply hp.catchUpUnavailable
  · apply hp.catchUpReturned
  · cases hreplay
    exact { hp with
      catchUpRuntime_le := by
        rintro _ ⟨⟩
        apply le_of_eq hruntime.symm
      shutdown_of_lt := fun i hi => shutdown_update (by exact id) i (hp.shutdown_of_lt i hi)
      shutdown_of_aborting := fun block hblock =>
        shutdown_update (by exact id) p.moduleRuntime (hp.shutdown_of_aborting block hblock) }

/-- `catch_up_from` replays. -/
theorem of_catchUpReplay {answer : Answer} (hp : p.WellFormed)
    (h : p.step cfg (.catchUpReplay answer) = some p') :
  p'.WellFormed
  := by
  obtain ⟨runtime, block, r, s, l, outcome, hstartup, hstep, q, rfl,
    ⟨r', -, rfl⟩ | ⟨-, rfl⟩ | ⟨-, rfl⟩⟩ := catchUpReplay_cases h
  · exact { hp.replayStepped (r.marksProgress answer) hstep with
      catchUpRuntime_le := by
        rintro _ ⟨⟩
        apply hp.catchUpRuntime_le
        rw [hstartup]
        rfl }
  · apply catchUpReturned (hp.replayStepped (r.marksProgress answer) hstep)
  · apply catchUpUnavailable (hp.replayStepped (r.marksProgress answer) hstep)

/-- A shutdown is requested. -/
theorem of_requestShutdown (hp : p.WellFormed) (h : p.step cfg .requestShutdown = some p') :
  p'.WellFormed
  := by
  cases h
  exact { hp with
    shutdown_of_lt := fun i hi =>
      shutdown_update (by exact fun _ => rfl) i (hp.shutdown_of_lt i hi)
    shutdown_of_aborting := fun block hblock =>
      shutdown_update (by exact fun _ => rfl) p.moduleRuntime
        (hp.shutdown_of_aborting block hblock) }

/-- Every step keeps a process well formed. -/
theorem of_step {a : Action} (hp : p.WellFormed) (h : p.step cfg a = some p') :
  p'.WellFormed
  := by
  by_cases ha : a.background = true
  · apply hp.of_sameControl (sameControl_of_background h ha)
  cases a with
  | resumed => apply hp.of_resumed h
  | supervisorWakes => apply hp.of_supervisorWakes h
  | supervisorHead head => apply hp.of_supervisorHead h
  | supervisorReplay answer => apply hp.of_supervisorReplay h
  | aborted => apply hp.of_aborted h
  | stopped =>
      obtain ⟨-, rfl⟩ := stopped_cases h
      apply resubscribe
      exact { hp with }
  | startupWakes =>
      obtain ⟨runtime, hstartup, -, ⟨-, rfl⟩ | ⟨-, rfl⟩⟩ := startupWakes_cases h
      · exact { hp with catchUpRuntime_le := by simp [StartupTask.catchUpRuntime] }
      · apply catchUpLoop
        exact { hp with }
  | initialHead head =>
      obtain ⟨-, rfl⟩ := initialHead_cases h
      exact { hp with catchUpRuntime_le := by simp [StartupTask.catchUpRuntime] }
  | persisted =>
      obtain ⟨-, rfl⟩ := persisted_cases h
      exact { hp with catchUpRuntime_le := by simp [StartupTask.catchUpRuntime] }
  | catchUpHead head => apply hp.of_catchUpHead h
  | catchUpReplay answer => apply hp.of_catchUpReplay h
  | catchUpSlept =>
      obtain ⟨runtime, block, -, rfl⟩ := catchUpSlept_cases h
      apply hp.catchUpLoop
  | requestShutdown => apply hp.of_requestShutdown h
  | _ => cases ha rfl

end WellFormed

/-! ### What a step does to the tasks -/

@[simp]
theorem startup_restartOrExit (p : Process) :
  p.restartOrExit.startup = p.startup
  := by
  obtain ⟨-, heq⟩ | ⟨-, heq⟩ := p.restartOrExit_cases
  · rw [heq]
    rfl
  · rw [heq]
    rfl

@[simp]
theorem pendingReplayStartBlock_restartOrExit (p : Process) :
  p.restartOrExit.pendingReplayStartBlock = p.pendingReplayStartBlock
  := by
  obtain ⟨-, heq⟩ | ⟨-, heq⟩ := p.restartOrExit_cases
  · rw [heq]
    rfl
  · rw [heq]
    rfl

@[simp]
theorem moduleRuntime_restartOrExit (p : Process) :
  p.restartOrExit.moduleRuntime = p.moduleRuntime
  := by
  obtain ⟨-, heq⟩ | ⟨-, heq⟩ := p.restartOrExit_cases
  · rw [heq]
    rfl
  · rw [heq]
    rfl

@[simp]
theorem pendingReplayStartBlock_catchUpLoop (p : Process) (runtime replayStartBlock : ℕ) :
  (p.catchUpLoop runtime replayStartBlock).pendingReplayStartBlock = p.pendingReplayStartBlock
  := by
  simp only [catchUpLoop]
  split <;> rfl

@[simp]
theorem moduleRuntime_catchUpLoop (p : Process) (runtime replayStartBlock : ℕ) :
  (p.catchUpLoop runtime replayStartBlock).moduleRuntime = p.moduleRuntime
  := by
  simp only [catchUpLoop]
  split <;> rfl

@[simp]
theorem pendingReplayStartBlock_catchUpUnavailable (p : Process)
    (runtime replayStartBlock : ℕ) :
  (p.catchUpUnavailable runtime replayStartBlock).pendingReplayStartBlock
    = p.pendingReplayStartBlock
  := by
  simp only [catchUpUnavailable]
  split <;> rfl

@[simp]
theorem moduleRuntime_catchUpUnavailable (p : Process) (runtime replayStartBlock : ℕ) :
  (p.catchUpUnavailable runtime replayStartBlock).moduleRuntime = p.moduleRuntime
  := by
  simp only [catchUpUnavailable]
  split <;> rfl

/-- Where `catch_up_from` is after its loop: on the runtime it was on, or nowhere. -/
theorem catchUpRuntime_catchUpLoop (p : Process) (runtime replayStartBlock : ℕ) :
  (p.catchUpLoop runtime replayStartBlock).startup.catchUpRuntime = none
    ∨ (p.moduleRuntime = runtime
      ∧ (p.catchUpLoop runtime replayStartBlock).startup.catchUpRuntime = some runtime)
  := by
  obtain ⟨-, heq⟩ | ⟨-, hruntime, heq⟩ := p.catchUpLoop_cases runtime replayStartBlock
  · rw [heq]
    apply Or.inl rfl
  · rw [heq]
    apply Or.inr ⟨hruntime, rfl⟩

theorem catchUpRuntime_catchUpUnavailable (p : Process) (runtime replayStartBlock : ℕ) :
  (p.catchUpUnavailable runtime replayStartBlock).startup.catchUpRuntime = none
    ∨ (p.catchUpUnavailable runtime replayStartBlock).startup.catchUpRuntime = some runtime
  := by
  obtain ⟨-, heq⟩ | ⟨-, hruntime, heq⟩ := p.catchUpUnavailable_cases runtime replayStartBlock
  · rw [heq]
    apply Or.inl rfl
  · rw [heq]
    apply Or.inr rfl

/-- After a step, `catch_up_from` is where it was, has returned, or has begun on the current
runtime. -/
theorem catchUpRuntime_of_step {a : Action} (h : p.step cfg a = some p') :
  p'.startup.catchUpRuntime = p.startup.catchUpRuntime
    ∨ p'.startup.catchUpRuntime = none
    ∨ (a = .startupWakes ∧ cfg.blockFrom ≠ 0
      ∧ p'.startup.catchUpRuntime = some p.moduleRuntime)
  := by
  by_cases ha : a.background = true
  · rw [(sameControl_of_background h ha).startup]
    apply Or.inl rfl
  cases a with
  | resumed =>
      obtain ⟨-, listener, -, ⟨-, rfl⟩ | ⟨-, rfl⟩⟩ := resumed_cases h <;> apply Or.inl rfl
  | supervisorWakes =>
      left
      obtain ⟨-, rfl | ⟨-, rfl⟩ | ⟨-, -, rfl⟩⟩ := supervisorWakes_cases h
      · rfl
      · rw [startup_restartOrExit]
      · rfl
  | supervisorHead head =>
      left
      obtain ⟨-, block, -, ⟨-, rfl⟩ | ⟨catchupHead, s, r, -, -, rfl⟩⟩ := supervisorHead_cases h
      · rw [startup_restartOrExit]
      · rfl
  | supervisorReplay answer =>
      left
      obtain ⟨r, s, l, outcome, -, -, q, rfl, ⟨r', -, rfl⟩ | ⟨-, rfl⟩ | ⟨-, rfl⟩⟩ :=
        supervisorReplay_cases h
      · rfl
      · rfl
      · rw [startup_restartOrExit]
        rfl
  | aborted =>
      obtain ⟨block, -, rfl⟩ := aborted_cases h
      apply Or.inl rfl
  | stopped =>
      obtain ⟨-, rfl⟩ := stopped_cases h
      apply Or.inl rfl
  | startupWakes =>
      right
      obtain ⟨runtime, hstartup, -, ⟨-, rfl⟩ | ⟨hblock, rfl⟩⟩ := startupWakes_cases h
      · apply Or.inl rfl
      · obtain hnone | ⟨-, hsome⟩ := catchUpRuntime_catchUpLoop _ p.moduleRuntime cfg.blockFrom
        · apply Or.inl hnone
        · apply Or.inr ⟨rfl, hblock, hsome⟩
  | initialHead head =>
      obtain ⟨-, rfl⟩ := initialHead_cases h
      apply Or.inr (Or.inl rfl)
  | persisted =>
      obtain ⟨-, rfl⟩ := persisted_cases h
      apply Or.inr (Or.inl rfl)
  | catchUpHead head =>
      obtain ⟨runtime, block, hstartup, ⟨-, rfl⟩ | ⟨-, rfl⟩ |
        ⟨-, catchupHead, s, r, -, -, rfl⟩⟩ := catchUpHead_cases h
      · rw [hstartup]
        obtain hnone | hsome := p.catchUpRuntime_catchUpUnavailable runtime block
        · apply Or.inr (Or.inl hnone)
        · apply Or.inl hsome
      · apply Or.inr (Or.inl rfl)
      · rw [hstartup]
        apply Or.inl rfl
  | catchUpReplay answer =>
      obtain ⟨runtime, block, r, s, l, outcome, hstartup, -, q, -,
        ⟨r', -, rfl⟩ | ⟨-, rfl⟩ | ⟨-, rfl⟩⟩ := catchUpReplay_cases h
      · rw [hstartup]
        apply Or.inl rfl
      · apply Or.inr (Or.inl rfl)
      · rw [hstartup]
        obtain hnone | hsome := q.catchUpRuntime_catchUpUnavailable runtime block
        · apply Or.inr (Or.inl hnone)
        · apply Or.inl hsome
  | catchUpSlept =>
      obtain ⟨runtime, block, hstartup, rfl⟩ := catchUpSlept_cases h
      rw [hstartup]
      obtain hnone | ⟨-, hsome⟩ := p.catchUpRuntime_catchUpLoop runtime block
      · apply Or.inr (Or.inl hnone)
      · apply Or.inl hsome
  | requestShutdown =>
      cases h
      apply Or.inl rfl
  | _ => cases ha rfl

/-- A step keeps the current runtime and the pending replay, except that the end of a
pending replay clears it, and that a replacement comes with a pending replay. -/
theorem pending_of_step {a : Action} (h : p.step cfg a = some p') :
  (p'.moduleRuntime = p.moduleRuntime
      ∧ p'.pendingReplayStartBlock = p.pendingReplayStartBlock)
    ∨ (p'.moduleRuntime = p.moduleRuntime ∧ p'.pendingReplayStartBlock = none)
    ∨ (a = .aborted ∧ p'.moduleRuntime = p.moduleRuntime + 1)
  := by
  by_cases ha : a.background = true
  · have hsame := sameControl_of_background h ha
    apply Or.inl ⟨hsame.moduleRuntime, hsame.pendingReplayStartBlock⟩
  cases a with
  | resumed =>
      obtain ⟨-, listener, -, ⟨-, rfl⟩ | ⟨-, rfl⟩⟩ := resumed_cases h <;>
        apply Or.inl ⟨rfl, rfl⟩
  | supervisorWakes =>
      left
      obtain ⟨-, rfl | ⟨-, rfl⟩ | ⟨-, -, rfl⟩⟩ := supervisorWakes_cases h
      · apply And.intro rfl rfl
      · simp
      · apply And.intro rfl rfl
  | supervisorHead head =>
      left
      obtain ⟨-, block, -, ⟨-, rfl⟩ | ⟨catchupHead, s, r, -, -, rfl⟩⟩ := supervisorHead_cases h
      · simp
      · apply And.intro rfl rfl
  | supervisorReplay answer =>
      obtain ⟨r, s, l, outcome, -, -, q, rfl, ⟨r', -, rfl⟩ | ⟨-, rfl⟩ | ⟨-, rfl⟩⟩ :=
        supervisorReplay_cases h
      · apply Or.inl ⟨rfl, rfl⟩
      · apply Or.inr (Or.inl ⟨rfl, rfl⟩)
      · left
        simp [replayStepped, setSubscription]
  | aborted =>
      obtain ⟨block, -, rfl⟩ := aborted_cases h
      apply Or.inr (Or.inr ⟨rfl, rfl⟩)
  | stopped =>
      obtain ⟨-, rfl⟩ := stopped_cases h
      apply Or.inl ⟨rfl, rfl⟩
  | startupWakes =>
      left
      obtain ⟨runtime, -, -, ⟨-, rfl⟩ | ⟨-, rfl⟩⟩ := startupWakes_cases h
      · apply And.intro rfl rfl
      · simp [markHealth]
  | initialHead head =>
      obtain ⟨-, rfl⟩ := initialHead_cases h
      apply Or.inl ⟨rfl, rfl⟩
  | persisted =>
      obtain ⟨-, rfl⟩ := persisted_cases h
      apply Or.inl ⟨rfl, rfl⟩
  | catchUpHead head =>
      left
      obtain ⟨runtime, block, -, ⟨-, rfl⟩ | ⟨-, rfl⟩ | ⟨-, catchupHead, s, r, -, -, rfl⟩⟩ :=
        catchUpHead_cases h
      · simp
      · apply And.intro rfl rfl
      · apply And.intro rfl rfl
  | catchUpReplay answer =>
      left
      obtain ⟨runtime, block, r, s, l, outcome, -, -, q, rfl,
        ⟨r', -, rfl⟩ | ⟨-, rfl⟩ | ⟨-, rfl⟩⟩ := catchUpReplay_cases h
      · apply And.intro rfl rfl
      · apply And.intro rfl rfl
      · simp [replayStepped, setSubscription]
  | catchUpSlept =>
      left
      obtain ⟨runtime, block, -, rfl⟩ := catchUpSlept_cases h
      simp
  | requestShutdown =>
      cases h
      apply Or.inl ⟨rfl, rfl⟩
  | _ => cases ha rfl

end Sentinel.Process
