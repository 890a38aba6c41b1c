import Sentinel.Supervisor.Step

/-!
# What a step does

For each step of a process, the conditions under which it happens and the process after it.
-/

namespace Sentinel.Process

variable {cfg : RunConfig} {p p' : Process}

/-! ### Listeners -/

theorem subscribed_cases {i : ℕ} (h : p.subscribed i = some p') :
  (p.subscriptions i).listener = .connecting
    ∧ p' = (p.setSubscription i
        { p.subscriptions i with subscriptionsStarted := true, listener := .listening }).markHealth
          (.markSubscriptionActive p.now)
  := by
  simp only [subscribed] at h
  split at h
  · rename_i hlistener
    use hlistener
    cases h
    rfl
  · cases h

theorem listenerEnded_cases {i : ℕ} {unavailable : Bool}
    (h : p.listenerEnded i unavailable = some p') :
  ((p.subscriptions i).listener = .connecting ∨ (p.subscriptions i).listener = .listening)
    ∧ ∃ listener health, (listener = Listener.returned ∨ listener = Listener.raised)
      ∧ (health = p.health ∨ health = p.health.markSubscriptionInactive)
      ∧ p' = { p.setSubscription i { p.subscriptions i with listener := listener } with
          health := health }
  := by
  have hended : ∀ q, (if unavailable || !(p.subscriptions i).shutdownEvent then
        (p.setSubscription i { p.subscriptions i with
          listener := if (p.subscriptions i).shutdownEvent then .returned else .raised }).markHealth
            .markSubscriptionInactive
      else p.setSubscription i { p.subscriptions i with
          listener := if (p.subscriptions i).shutdownEvent then .returned else .raised }) = q →
      ∃ listener health, (listener = Listener.returned ∨ listener = Listener.raised)
        ∧ (health = p.health ∨ health = p.health.markSubscriptionInactive)
        ∧ q = { p.setSubscription i { p.subscriptions i with listener := listener } with
            health := health } := by
    rintro q rfl
    use if (p.subscriptions i).shutdownEvent then .returned else .raised
    use if unavailable || !(p.subscriptions i).shutdownEvent then
      p.health.markSubscriptionInactive else p.health
    refine ⟨?_, ?_, ?_⟩
    · split <;> simp
    · split <;> simp
    · split <;> rfl
  simp only [listenerEnded] at h
  split at h
  · rename_i hlistener
    constructor
    · apply Or.inl hlistener
    · apply hended
      split at h
      · cases h
        rfl
      · cases h
  · rename_i hlistener
    constructor
    · apply Or.inr hlistener
    · apply hended
      cases h
      rfl
  · cases h

/-- A live log is not handed on, or it is passed to `handle_event`. -/
theorem liveLog_cases {i : ℕ} {e : Event} (h : p.liveLog i e = some p') :
  (p.subscriptions i).listener = .listening
    ∧ ∃ s handedOn, (p.subscriptions i).emitSubscriptionEvent e = (s, handedOn)
      ∧ ((handedOn = none
          ∧ p' = (p.setSubscription i s).markHealth (.markProgress p.now))
        ∨ (handedOn = some (.event e)
          ∧ p' = { (p.setSubscription i s).markHealth (.markProgress p.now) with
              ledger := p.ledger.handleEvent e }))
  := by
  simp only [liveLog] at h
  split at h
  · rename_i hlistener
    use hlistener
    obtain ⟨-, heq⟩ | ⟨-, -, items, -, heq⟩ | ⟨-, -, -, heq⟩ :=
      (p.subscriptions i).emitSubscriptionItem_cases (.event e)
    all_goals
      simp only [Subscription.emitSubscriptionEvent, heq, Option.some.injEq] at h ⊢
      refine ⟨_, _, rfl, ?_⟩
      subst h
      simp [setSubscription, markHealth]
  · cases h

/-- A new head completes no block, its block is not handed on, or it is passed to
`handle_block`. -/
theorem liveHead_cases {i head : ℕ} (h : p.liveHead i head = some p') :
  (p.subscriptions i).listener = .listening
    ∧ ∃ s handedOn health, (p.subscriptions i).handleNewHeadSubscription head = (s, handedOn)
      ∧ (health = p.health ∨ health = p.health.markProgress p.now)
      ∧ ((handedOn = none ∧ p' = { p.setSubscription i s with health := health })
        ∨ (handedOn = some (.block ⟨head - 1⟩) ∧ 0 < head
          ∧ p' = { p.setSubscription i { s with listener := .handling (head - 1) } with
              health := health }))
  := by
  simp only [liveHead] at h
  split at h
  · rename_i hlistener
    use hlistener
    by_cases hhead : head = 0
    · simp only [Subscription.handleNewHeadSubscription, hhead, if_true, Option.some.injEq] at h ⊢
      refine ⟨_, _, _, rfl, Or.inl rfl, Or.inl ⟨rfl, ?_⟩⟩
      subst h
      rfl
    · have hpos : 0 < head := Nat.pos_of_ne_zero hhead
      obtain ⟨-, heq⟩ | ⟨-, -, items, -, heq⟩ | ⟨-, -, -, heq⟩ :=
        (p.subscriptions i).emitSubscriptionItem_cases (.block ⟨head - 1⟩)
      all_goals
        simp only [Subscription.handleNewHeadSubscription, Subscription.emitSubscriptionBlock,
          hhead, if_false, heq, Option.some.injEq] at h ⊢
        refine ⟨_, _, p.health.markProgress p.now, rfl, Or.inr rfl, ?_⟩
        subst h
        simp [setSubscription, markHealth, hpos]
  · cases h

theorem liveBlockDone_cases {i : ℕ} (h : p.liveBlockDone i = some p') :
  ∃ number, (p.subscriptions i).listener = .handling number
    ∧ p' = { p.setSubscription i { p.subscriptions i with listener := .listening } with
        ledger := p.ledger.advanceBlock number }
  := by
  simp only [liveBlockDone] at h
  split at h
  · rename_i number hlistener
    use number, hlistener
    cases h
    rfl
  · cases h

/-! ### The supervisor task -/

/-- An `RpcAvailabilityError` ends the supervisor after a shutdown request, and starts the
replacement of the runtime otherwise. -/
theorem restartOrExit_cases (p : Process) :
  (p.shutdownRequested = true ∧ p.restartOrExit = p.exitSupervisor)
    ∨ (p.shutdownRequested = false ∧ p.restartOrExit = p.beginRestart)
  := by
  cases h : p.shutdownRequested with
  | true => simp [restartOrExit, h]
  | false => simp [restartOrExit, h]

theorem resumed_cases (h : p.resumed = some p') :
  p.supervisor = .resuming
    ∧ ∃ listener, ((p.rawSubscription.shutdownEvent = true ∧ listener = Listener.returned)
        ∨ listener = Listener.connecting)
      ∧ ((p.pendingReplayStartBlock.isSome = true
          ∧ p' = { p.setSubscription p.moduleRuntime
                { p.rawSubscription with listener := listener } with
              moduleRuntimeRestarted := false
              supervisor := .waitingSubscribed })
        ∨ (p.pendingReplayStartBlock = none
          ∧ p' = { p.setSubscription p.moduleRuntime
                { p.rawSubscription with listener := listener } with
              moduleRuntimeRestarted := false
              supervisor := .listening }))
  := by
  simp only [resumed] at h
  split at h
  · rename_i hsupervisor
    use hsupervisor
    use if p.rawSubscription.shutdownEvent then .returned else .connecting
    constructor
    · split
      · rename_i hshutdown
        apply Or.inl ⟨hshutdown, rfl⟩
      · apply Or.inr rfl
    · cases hpending : p.pendingReplayStartBlock with
      | none =>
          right
          simp only [hpending, Option.isSome_none, Option.some.injEq] at h
          subst h
          simp
      | some block =>
          left
          simp only [hpending, Option.isSome_some, Option.some.injEq] at h
          subst h
          simp
  · cases h

theorem supervisorWakes_cases (h : p.supervisorWakes = some p') :
  (p.supervisor = .waitingSubscribed ∨ p.supervisor = .listening)
    ∧ (p' = { p with supervisor := .stopping }
      ∨ (p.rawSubscription.listener.done = true ∧ p' = p.restartOrExit)
      ∨ (p.supervisor = .waitingSubscribed
        ∧ p.rawSubscription.subscriptionsStarted = true
        ∧ p' = { p with supervisor := .readingHead }))
  := by
  simp only [supervisorWakes] at h
  split at h
  · rename_i hsupervisor
    use Or.inl hsupervisor
    split at h
    · apply Or.inl
      cases h
      rfl
    · split at h
      · rename_i hdone
        apply Or.inr (Or.inl ⟨hdone, (Option.some.inj h).symm⟩)
      · split at h
        · rename_i hstarted
          apply Or.inr (Or.inr ⟨hsupervisor, hstarted, (Option.some.inj h).symm⟩)
        · cases h
  · rename_i hsupervisor
    use Or.inr hsupervisor
    split at h
    · apply Or.inl
      cases h
      rfl
    · split at h
      · rename_i hdone
        apply Or.inr (Or.inl ⟨hdone, (Option.some.inj h).symm⟩)
      · cases h
  · cases h

theorem supervisorHead_cases {head : Option ℕ} (h : p.supervisorHead head = some p') :
  p.supervisor = .readingHead
    ∧ ∃ replayStartBlock, p.pendingReplayStartBlock = some replayStartBlock
      ∧ ((head = none ∧ p' = p.restartOrExit)
        ∨ ∃ catchupHead s r, head = some catchupHead
          ∧ p.rawSubscription.replayBlocks replayStartBlock catchupHead (some catchupHead) = (s, r)
          ∧ p' = { p.setSubscription p.moduleRuntime s with
              catchupUntilBlock := some catchupHead
              supervisor := .replaying r })
  := by
  simp only [supervisorHead] at h
  split at h
  · rename_i replayStartBlock catchupHead hsupervisor hpending
    use hsupervisor, replayStartBlock, hpending
    apply Or.inr ⟨catchupHead, _, _, rfl, rfl, (Option.some.inj h).symm⟩
  · rename_i replayStartBlock hsupervisor hpending
    use hsupervisor, replayStartBlock, hpending
    apply Or.inl ⟨rfl, (Option.some.inj h).symm⟩
  · cases h

/-- The pending replay goes on, is done, or is unavailable. -/
theorem supervisorReplay_cases {answer : Answer} (h : p.supervisorReplay cfg answer = some p') :
  ∃ r s l outcome, p.supervisor = .replaying r
    ∧ r.step cfg.blockBatchSize p.rawSubscription p.ledger answer = some (s, l, outcome)
    ∧ ∃ q, q = p.replayStepped p.moduleRuntime s l (r.marksProgress answer)
      ∧ ((∃ r', outcome = .running r' ∧ p' = { q with supervisor := .replaying r' })
        ∨ (outcome = .returned
          ∧ p' = { q.markHealth (.markCatchupComplete p.now) with
              catchupUntilBlock := none
              pendingReplayStartBlock := none
              supervisor := .listening })
        ∨ (outcome = .raised .unavailable
          ∧ p' = { q with catchupUntilBlock := none }.restartOrExit))
  := by
  simp only [supervisorReplay] at h
  split at h
  · rename_i r hsupervisor
    split at h
    · cases h
    · rename_i s l outcome hstep
      refine ⟨r, s, l, outcome, hsupervisor, hstep, _, rfl, ?_⟩
      cases outcome with
      | running r' =>
          apply Or.inl ⟨r', rfl, (Option.some.inj h).symm⟩
      | returned =>
          apply Or.inr (Or.inl ⟨rfl, (Option.some.inj h).symm⟩)
      | raised fault =>
          cases fault with
          | unavailable =>
              apply Or.inr (Or.inr ⟨rfl, (Option.some.inj h).symm⟩)
          | other => cases h
  · cases h

theorem aborted_cases (h : p.aborted = some p') :
  ∃ replayStartBlock, p.supervisor = .aborting replayStartBlock
    ∧ p' = { ((p.cancelListener p.moduleRuntime).setSubscription (p.moduleRuntime + 1)
          (.new p.catchupUntilBlock)).markHealth .markSubscriptionInactive with
        pendingReplayStartBlock := some replayStartBlock
        moduleRuntime := p.moduleRuntime + 1
        supervisor := if p.shutdownRequested then .exited else .resuming }
  := by
  simp only [aborted] at h
  split at h
  · rename_i replayStartBlock hsupervisor
    use replayStartBlock, hsupervisor
    cases h
    rfl
  · cases h

theorem stopped_cases (h : p.stopped = some p') :
  p.supervisor = .stopping
    ∧ p' = { p.markHealth .markSubscriptionInactive with
        supervisor := if p.shutdownRequested then .exited else .resuming }
  := by
  simp only [stopped] at h
  split at h
  · rename_i hsupervisor
    use hsupervisor
    split at h
    · cases h
      rfl
    · cases h
  · cases h

/-! ### The startup sequence -/

/-- The loop of `catch_up_from` ends after a shutdown request or when the runtime was
replaced, and reads the head otherwise. -/
theorem catchUpLoop_cases (p : Process) (runtime replayStartBlock : ℕ) :
  ((p.shutdownRequested = true ∨ p.moduleRuntime ≠ runtime)
      ∧ p.catchUpLoop runtime replayStartBlock = p.catchUpReturned)
    ∨ (p.shutdownRequested = false ∧ p.moduleRuntime = runtime
      ∧ p.catchUpLoop runtime replayStartBlock
        = { p with startup := .readingHead runtime replayStartBlock })
  := by
  simp only [catchUpLoop, Bool.or_eq_true, bne_iff_ne, ne_eq]
  split
  · rename_i h
    apply Or.inl ⟨h, rfl⟩
  · rename_i h
    simp only [not_or, Bool.not_eq_true, not_not] at h
    apply Or.inr ⟨h.1, h.2, rfl⟩

/-- An `RpcAvailabilityError` ends `catch_up_from` after a shutdown request or when the
runtime was replaced, and is followed by a retry otherwise. -/
theorem catchUpUnavailable_cases (p : Process) (runtime replayStartBlock : ℕ) :
  ((p.shutdownRequested = true ∨ p.moduleRuntime ≠ runtime)
      ∧ p.catchUpUnavailable runtime replayStartBlock = p.catchUpReturned)
    ∨ (p.shutdownRequested = false ∧ p.moduleRuntime = runtime
      ∧ p.catchUpUnavailable runtime replayStartBlock
        = { p with startup := .sleeping runtime (max replayStartBlock (p.ledger.block + 1)) })
  := by
  simp only [catchUpUnavailable, Bool.or_eq_true, bne_iff_ne, ne_eq]
  split
  · rename_i h
    apply Or.inl ⟨h, rfl⟩
  · rename_i h
    simp only [not_or, Bool.not_eq_true, not_not] at h
    apply Or.inr ⟨h.1, h.2, rfl⟩

theorem startupWakes_cases (h : p.startupWakes cfg = some p') :
  ∃ runtime, p.startup = .waiting runtime
    ∧ (p.subscriptions runtime).subscriptionsStarted = true
    ∧ ((cfg.blockFrom = 0 ∧ p' = { p with startup := .readingInitialHead })
      ∨ (cfg.blockFrom ≠ 0
        ∧ p' = ((p.markHealth (.markStartupComplete p.now)).markHealth
            .markCatchupStarted).catchUpLoop p.moduleRuntime cfg.blockFrom))
  := by
  simp only [startupWakes] at h
  split at h
  · cases h
  · rename_i runtime hstartup _
    use runtime, hstartup
    split at h
    · rename_i hstarted
      use hstarted
      split at h
      · rename_i hblock
        apply Or.inl ⟨hblock, (Option.some.inj h).symm⟩
      · rename_i hblock
        apply Or.inr ⟨hblock, (Option.some.inj h).symm⟩
    · cases h
  · cases h

theorem initialHead_cases {head : ℕ} (h : p.initialHead head = some p') :
  p.startup = .readingInitialHead
    ∧ p' = { p with
        ledger := { p.ledger with block := head - 1 }
        initialCheckpoint := some (head - 1)
        startup := .persisting }
  := by
  simp only [initialHead] at h
  split at h
  · rename_i hstartup
    use hstartup
    cases h
    rfl
  · cases h

theorem persisted_cases (h : p.persisted = some p') :
  p.startup = .persisting
    ∧ p' = { p.markHealth (.markStartupComplete p.now) with startup := .finished }
  := by
  simp only [persisted] at h
  split at h
  · rename_i hstartup
    use hstartup
    cases h
    rfl
  · cases h

theorem catchUpHead_cases {head : Option ℕ} (h : p.catchUpHead head = some p') :
  ∃ runtime replayStartBlock, p.startup = .readingHead runtime replayStartBlock
    ∧ ((head = none ∧ p' = p.catchUpUnavailable runtime replayStartBlock)
      ∨ (p.moduleRuntime ≠ runtime ∧ p' = p.catchUpReturned)
      ∨ (p.moduleRuntime = runtime ∧ ∃ catchupHead s r, head = some catchupHead
        ∧ (p.subscriptions runtime).replayBlocks replayStartBlock catchupHead (some catchupHead)
          = (s, r)
        ∧ p' = { p.setSubscription runtime s with
            catchupUntilBlock := some catchupHead
            startup := .replaying runtime replayStartBlock r }))
  := by
  simp only [catchUpHead] at h
  split at h
  · rename_i runtime replayStartBlock catchupHead hstartup
    use runtime, replayStartBlock, hstartup
    split at h
    · rename_i hruntime
      apply Or.inr (Or.inl ⟨by simpa using hruntime, (Option.some.inj h).symm⟩)
    · rename_i hruntime
      have heq : p.moduleRuntime = runtime := by simpa using hruntime
      apply Or.inr (Or.inr ⟨heq, catchupHead, _, _, rfl, rfl, (Option.some.inj h).symm⟩)
  · rename_i runtime replayStartBlock hstartup
    use runtime, replayStartBlock, hstartup
    apply Or.inl ⟨rfl, (Option.some.inj h).symm⟩
  · cases h

/-- The replay of `catch_up_from` goes on, is done, or is unavailable. -/
theorem catchUpReplay_cases {answer : Answer} (h : p.catchUpReplay cfg answer = some p') :
  ∃ runtime replayStartBlock r s l outcome,
    p.startup = .replaying runtime replayStartBlock r
    ∧ r.step cfg.blockBatchSize (p.subscriptions runtime) p.ledger answer = some (s, l, outcome)
    ∧ ∃ q, q = p.replayStepped runtime s l (r.marksProgress answer)
      ∧ ((∃ r', outcome = .running r'
          ∧ p' = { q with startup := .replaying runtime replayStartBlock r' })
        ∨ (outcome = .returned ∧ p' = q.catchUpReturned)
        ∨ (outcome = .raised .unavailable
          ∧ p' = q.catchUpUnavailable runtime replayStartBlock))
  := by
  simp only [catchUpReplay] at h
  split at h
  · rename_i runtime replayStartBlock r hstartup
    split at h
    · cases h
    · rename_i s l outcome hstep
      refine ⟨runtime, replayStartBlock, r, s, l, outcome, hstartup, hstep, _, rfl, ?_⟩
      cases outcome with
      | running r' =>
          apply Or.inl ⟨r', rfl, (Option.some.inj h).symm⟩
      | returned =>
          apply Or.inr (Or.inl ⟨rfl, (Option.some.inj h).symm⟩)
      | raised fault =>
          cases fault with
          | unavailable =>
              apply Or.inr (Or.inr ⟨rfl, (Option.some.inj h).symm⟩)
          | other => cases h
  · cases h

theorem catchUpSlept_cases (h : p.catchUpSlept = some p') :
  ∃ runtime replayStartBlock, p.startup = .sleeping runtime replayStartBlock
    ∧ p' = p.catchUpLoop runtime replayStartBlock
  := by
  simp only [catchUpSlept] at h
  split at h
  · rename_i runtime replayStartBlock hstartup
    use runtime, replayStartBlock, hstartup
    cases h
    rfl
  · cases h

theorem waiterDone_cases {runtime : ℕ} (h : p.waiterDone runtime = some p') :
  runtime ∈ p.waiters ∧ (p.subscriptions runtime).subscriptionsStarted = true
    ∧ p' = { p with waiters := p.waiters.erase runtime }
  := by
  simp only [waiterDone] at h
  split at h
  · rename_i hdone
    use hdone.1, hdone.2
    cases h
    rfl
  · cases h

end Sentinel.Process
