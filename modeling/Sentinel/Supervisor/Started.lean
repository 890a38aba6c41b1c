import Sentinel.Supervisor.Ownership

/-!
# Tasks on started subscriptions

A task reads the head for a replay, and replays, only on a current runtime whose
subscription has started. After a shutdown request the current subscription is shut down,
or the supervisor has exited with a replacement that it never started.
-/

namespace Sentinel

/-- The supervisor reads the head for the replay of pending blocks, or replays them. -/
def SupervisorTask.onSubscribed : SupervisorTask → Bool
  | readingHead | replaying _ => true
  | _ => false

namespace Process

variable {cfg : RunConfig} {p p' : Process}

/-- A task is past the start of the current subscription: nothing is pending on a
replacement, the supervisor replays, or `catch_up_from` does. -/
def UsesSubscription (p : Process) : Prop :=
  (p.pendingReplayStartBlock = none ∧ 0 < p.moduleRuntime)
    ∨ p.supervisor.onSubscribed = true
    ∨ p.startup.catchUpRuntime = some p.moduleRuntime

/-- What both tasks rely on about the current subscription. -/
structure OnStarted (p : Process) : Prop where
  pos_of_pending : p.pendingReplayStartBlock.isSome = true → 0 < p.moduleRuntime
  waiting : ∀ runtime, p.startup = .waiting runtime → runtime = 0
  started : p.UsesSubscription →
    (p.subscriptions p.moduleRuntime).subscriptionsStarted = true
  shutdown : p.shutdownRequested = true →
    (p.subscriptions p.moduleRuntime).shutdownEvent = true
      ∨ (p.pendingReplayStartBlock.isSome = true ∧ p.supervisor = .exited)

theorem onStarted_initial (cfg : RunConfig) (now : ℤ) :
  (initial cfg now).OnStarted
  where
  pos_of_pending := nofun
  waiting runtime h := (StartupTask.waiting.inj h).symm
  started := by
    rintro (⟨-, hlt⟩ | hsupervisor | hstartup)
    · cases hlt
    · cases hsupervisor
    · cases hstartup
  shutdown := nofun

namespace OnStarted

theorem of_sameControl (hp : p.OnStarted) (h : p.SameControl p') :
  p'.OnStarted
  := by
  constructor
  · rw [h.pendingReplayStartBlock, h.moduleRuntime]
    apply hp.pos_of_pending
  · rw [h.startup]
    apply hp.waiting
  · intro huses
    rw [UsesSubscription, h.pendingReplayStartBlock, h.moduleRuntime, h.supervisor,
      h.startup] at huses
    rw [h.moduleRuntime]
    apply h.started _ (hp.started huses)
  · rw [h.shutdownRequested, h.moduleRuntime, h.shutdownEvent, h.pendingReplayStartBlock,
      h.supervisor]
    apply hp.shutdown

/-- The supervisor goes where it does not use the subscription, and has not exited
before. -/
theorem of_supervisor (hp : p.OnStarted) {t : SupervisorTask}
    (huses : t.onSubscribed = false) (hexited : p.supervisor ≠ .exited) :
  { p with supervisor := t }.OnStarted
  where
  pos_of_pending := hp.pos_of_pending
  waiting := hp.waiting
  started := by
    rintro (hpending | hsupervisor | hstartup)
    · apply hp.started (Or.inl hpending)
    · cases huses.symm.trans hsupervisor
    · apply hp.started (Or.inr (Or.inr hstartup))
  shutdown hshutdown := Or.inl ((hp.shutdown hshutdown).resolve_right fun h => hexited h.2)

/-- The current subscription is replaced by one that has started and is shut down if it was,
while the supervisor is not on it. -/
theorem of_subscription (hp : p.OnStarted) {i : ℕ} {s : Subscription}
    (hstarted : (p.subscriptions i).subscriptionsStarted = true → s.subscriptionsStarted = true)
    (hshutdown : (p.subscriptions i).shutdownEvent = true → s.shutdownEvent = true) :
  (p.setSubscription i s).OnStarted
  where
  pos_of_pending := hp.pos_of_pending
  waiting := hp.waiting
  started huses := started_update hstarted p.moduleRuntime (hp.started huses)
  shutdown h := (hp.shutdown h).imp_left (shutdown_update hshutdown p.moduleRuntime)

theorem restartOrExit (hp : p.OnStarted) (hexited : p.supervisor ≠ .exited) :
  p.restartOrExit.OnStarted
  := by
  obtain ⟨-, heq⟩ | ⟨-, heq⟩ := p.restartOrExit_cases
  · rw [heq]
    apply of_supervisor (hp.of_subscription (by exact id) (by exact id)) rfl hexited
  · rw [heq]
    have hp' := of_subscription (s := p.rawSubscription.requestShutdown) (i := p.moduleRuntime)
      hp (by exact id) (fun _ => rfl)
    exact { hp'.of_supervisor rfl hexited with }

/-- The startup sequence goes where it is not on the current runtime. -/
theorem of_startup (hp : p.OnStarted) {t : StartupTask}
    (hcatchUp : t.catchUpRuntime = some p.moduleRuntime →
      (p.subscriptions p.moduleRuntime).subscriptionsStarted = true)
    (hwaiting : ∀ runtime, t ≠ .waiting runtime) :
  { p with startup := t }.OnStarted
  where
  pos_of_pending := hp.pos_of_pending
  waiting runtime h := absurd h (hwaiting runtime)
  started := by
    rintro (hpending | hsupervisor | hstartup)
    · apply hp.started (Or.inl hpending)
    · apply hp.started (Or.inr (Or.inl hsupervisor))
    · apply hcatchUp hstartup
  shutdown := hp.shutdown

theorem catchUpReturned (hp : p.OnStarted) :
  p.catchUpReturned.OnStarted
  := by
  have hp' := hp.of_startup (t := .finished) nofun nofun
  exact { hp' with }

theorem catchUpLoop (hp : p.OnStarted) {runtime : ℕ} (replayStartBlock : ℕ)
    (hstarted : p.moduleRuntime = runtime →
      (p.subscriptions p.moduleRuntime).subscriptionsStarted = true) :
  (p.catchUpLoop runtime replayStartBlock).OnStarted
  := by
  obtain ⟨-, heq⟩ | ⟨-, hruntime, heq⟩ := p.catchUpLoop_cases runtime replayStartBlock
  · rw [heq]
    apply hp.catchUpReturned
  · rw [heq]
    exact hp.of_startup (fun _ => hstarted hruntime) nofun

theorem catchUpUnavailable (hp : p.OnStarted) {runtime : ℕ} (replayStartBlock : ℕ)
    (hstarted : p.moduleRuntime = runtime →
      (p.subscriptions p.moduleRuntime).subscriptionsStarted = true) :
  (p.catchUpUnavailable runtime replayStartBlock).OnStarted
  := by
  obtain ⟨-, heq⟩ | ⟨-, hruntime, heq⟩ := p.catchUpUnavailable_cases runtime replayStartBlock
  · rw [heq]
    apply hp.catchUpReturned
  · rw [heq]
    exact hp.of_startup (fun _ => hstarted hruntime) nofun

theorem replayStepped (hp : p.OnStarted) {r : Replay} {i : ℕ} {answer : Answer}
    {s : Subscription} {l : Ledger} {outcome : Outcome} (progress : Bool)
    (h : r.step cfg.blockBatchSize (p.subscriptions i) p.ledger answer = some (s, l, outcome)) :
  (p.replayStepped i s l progress).OnStarted
  := by
  obtain ⟨buffer, rfl⟩ := Replay.subscription_eq_of_step h
  have hp' := hp.of_subscription (i := i) (s := { p.subscriptions i with
    bufferedSubscriptionItems := buffer }) (by exact id) (by exact id)
  exact { hp' with }

/-- The listener is started. -/
theorem of_resumed (hp : p.OnStarted) (h : p.step cfg .resumed = some p') :
  p'.OnStarted
  := by
  obtain ⟨hsupervisor, listener, -, ⟨hpending, rfl⟩ | ⟨-, rfl⟩⟩ := resumed_cases h
  all_goals
    have hp' := hp.of_subscription (i := p.moduleRuntime) (s := { p.rawSubscription with
      listener := listener }) (by exact id) (by exact id)
  · have hp'' := hp'.of_supervisor (t := .waitingSubscribed) rfl
      (by simp [setSubscription, hsupervisor])
    exact { hp'' with }
  · have hp'' := hp'.of_supervisor (t := .listening) rfl
      (by simp [setSubscription, hsupervisor])
    exact { hp'' with }

/-- The supervisor wakes up. -/
theorem of_supervisorWakes (hp : p.OnStarted) (h : p.step cfg .supervisorWakes = some p') :
  p'.OnStarted
  := by
  obtain ⟨hsupervisor, rfl | ⟨-, rfl⟩ | ⟨-, hstarted, rfl⟩⟩ := supervisorWakes_cases h
  all_goals
    have hexited : p.supervisor ≠ .exited := by
      obtain hsup | hsup := hsupervisor <;> simp [hsup]
  · apply hp.of_supervisor rfl hexited
  · apply hp.restartOrExit hexited
  · exact { hp with
      started := fun _ => hstarted
      shutdown := fun hshutdown =>
        Or.inl ((hp.shutdown hshutdown).resolve_right fun h => hexited h.2) }

/-- The supervisor reads the head. -/
theorem of_supervisorHead {head : Option ℕ} (hp : p.OnStarted)
    (h : p.step cfg (.supervisorHead head) = some p') :
  p'.OnStarted
  := by
  obtain ⟨hsupervisor, block, hpending, ⟨-, rfl⟩ | ⟨catchupHead, s, r, -, hreplay, rfl⟩⟩ :=
    supervisorHead_cases h
  · apply hp.restartOrExit
    simp [hsupervisor]
  · cases hreplay
    exact { hp with
      started := fun _ => started_update (by exact id) p.moduleRuntime
        (hp.started (Or.inr (Or.inl (by rw [hsupervisor]; rfl))))
      shutdown := fun hshutdown => by
        apply Or.inl (shutdown_update (by exact id) p.moduleRuntime _)
        apply (hp.shutdown hshutdown).resolve_right
        simp [hsupervisor] }

/-- The supervisor replays. -/
theorem of_supervisorReplay {answer : Answer} (hp : p.OnStarted)
    (h : p.step cfg (.supervisorReplay answer) = some p') :
  p'.OnStarted
  := by
  obtain ⟨r, s, l, outcome, hsupervisor, hstep, q, rfl,
    ⟨r', -, rfl⟩ | ⟨-, rfl⟩ | ⟨-, rfl⟩⟩ := supervisorReplay_cases h
  all_goals
    have hp' := hp.replayStepped (r.marksProgress answer) hstep
    have hsupervisor' : (p.replayStepped p.moduleRuntime s l
        (r.marksProgress answer)).supervisor = .replaying r := hsupervisor
    have hstarted := hp'.started (Or.inr (Or.inl (by rw [hsupervisor']; rfl)))
    have hshutdown := fun hshutdown => (hp'.shutdown hshutdown).resolve_right
      (by simp [hsupervisor'])
  · exact { hp' with
      started := fun _ => hstarted
      shutdown := fun h => Or.inl (hshutdown h) }
  · exact { hp' with
      pos_of_pending := by simp
      started := fun _ => hstarted
      shutdown := fun h => Or.inl (hshutdown h) }
  · apply restartOrExit
    · exact { hp' with }
    · simp [hsupervisor']

/-- The replacement is installed. -/
theorem of_aborted (hp : p.OnStarted) (hwf : p.WellFormed) (h : p.step cfg .aborted = some p') :
  p'.OnStarted
  := by
  obtain ⟨block, hsupervisor, rfl⟩ := aborted_cases h
  exact {
    pos_of_pending := fun _ => Nat.succ_pos _
    waiting := hp.waiting
    started := by
      rintro (⟨hpending, -⟩ | huses | hstartup)
      · cases hpending
      · simp only at huses
        split at huses <;> cases huses
      · cases Nat.not_succ_le_self _ (hwf.catchUpRuntime_le _ hstartup)
    shutdown := by
      intro hshutdown
      apply Or.inr ⟨rfl, if_pos hshutdown⟩ }

/-- The startup sequence goes on. -/
theorem of_startupWakes (hp : p.OnStarted) (hok : p.CatchUpStartsClear cfg .startupWakes)
    (h : p.step cfg .startupWakes = some p') :
  p'.OnStarted
  := by
  obtain ⟨runtime, hstartup, hstarted, ⟨-, rfl⟩ | ⟨hblock, rfl⟩⟩ := startupWakes_cases h
  · exact hp.of_startup (by simp [StartupTask.catchUpRuntime]) (by simp)
  · apply catchUpLoop
    · exact { hp with }
    · -- the awaited subscription is that of the first runtime
      intro _
      obtain rfl := hp.waiting runtime hstartup
      obtain hzero | hpos := Nat.eq_zero_or_pos p.moduleRuntime
      · simp only [markHealth, hzero]
        apply hstarted
      · apply hp.started (Or.inl ⟨hok.resolve_left hblock, hpos⟩)

/-- `catch_up_from` reads the head. -/
theorem of_catchUpHead {head : Option ℕ} (hp : p.OnStarted)
    (h : p.step cfg (.catchUpHead head) = some p') :
  p'.OnStarted
  := by
  obtain ⟨runtime, block, hstartup, ⟨-, rfl⟩ | ⟨-, rfl⟩ |
    ⟨hruntime, catchupHead, s, r, -, hreplay, rfl⟩⟩ := catchUpHead_cases h
  · apply hp.catchUpUnavailable
    rintro rfl
    apply hp.started (Or.inr (Or.inr (by rw [hstartup]; rfl)))
  · apply hp.catchUpReturned
  · subst hruntime
    obtain ⟨hs, -⟩ := Prod.mk.inj hreplay
    have hp' := hp.of_subscription (i := p.moduleRuntime) (s := s) (by rw [← hs]; exact id)
      (by rw [← hs]; exact id)
    have hstarted :=
      hp'.started (Or.inr (Or.inr (congrArg StartupTask.catchUpRuntime hstartup)))
    have hp'' := hp'.of_startup (t := .replaying p.moduleRuntime block r)
      (fun _ => hstarted) (by simp)
    exact { hp'' with }

/-- `catch_up_from` replays. -/
theorem of_catchUpReplay {answer : Answer} (hp : p.OnStarted)
    (h : p.step cfg (.catchUpReplay answer) = some p') :
  p'.OnStarted
  := by
  obtain ⟨runtime, block, r, s, l, outcome, hstartup, hstep, q, rfl,
    ⟨r', -, rfl⟩ | ⟨-, rfl⟩ | ⟨-, rfl⟩⟩ := catchUpReplay_cases h
  all_goals
    have hp' := hp.replayStepped (r.marksProgress answer) hstep
    have hstarted : p.moduleRuntime = runtime →
        ((p.replayStepped runtime s l (r.marksProgress answer)).subscriptions
          p.moduleRuntime).subscriptionsStarted = true := by
      rintro rfl
      have hstartup' : (p.replayStepped p.moduleRuntime s l
        (r.marksProgress answer)).startup = .replaying p.moduleRuntime block r := hstartup
      apply hp'.started (Or.inr (Or.inr (by rw [hstartup']; rfl)))
  · have hp'' := hp'.of_startup (t := .replaying runtime block r')
      (fun hcurrent => hstarted (Option.some.inj hcurrent).symm) (by simp)
    exact { hp'' with }
  · apply hp'.catchUpReturned
  · apply hp'.catchUpUnavailable block hstarted

/-- A shutdown is requested. -/
theorem of_requestShutdown (hp : p.OnStarted) (h : p.step cfg .requestShutdown = some p') :
  p'.OnStarted
  := by
  cases h
  have hp' := of_subscription (s := p.rawSubscription.requestShutdown) (i := p.moduleRuntime)
    hp (by exact id) (fun _ => rfl)
  have hself : (p.requestShutdown.subscriptions p.moduleRuntime).shutdownEvent = true := by
    simp [requestShutdown, setSubscription, Subscription.requestShutdown]
  exact { hp' with shutdown := fun _ => Or.inl hself }

/-- A step keeps it in a run where `catch_up_from` starts when no reconnect replay is
pending. -/
theorem of_step {a : Action} (hp : p.OnStarted) (hwf : p.WellFormed)
    (hok : p.CatchUpStartsClear cfg a) (h : p.step cfg a = some p') :
  p'.OnStarted
  := by
  by_cases ha : a.background = true
  · apply hp.of_sameControl (sameControl_of_background h ha)
  cases a with
  | resumed => apply hp.of_resumed h
  | supervisorWakes => apply hp.of_supervisorWakes h
  | supervisorHead head => apply hp.of_supervisorHead h
  | supervisorReplay answer => apply hp.of_supervisorReplay h
  | aborted => apply hp.of_aborted hwf h
  | stopped =>
      obtain ⟨hsupervisor, rfl⟩ := stopped_cases h
      have hp' : (p.markHealth .markSubscriptionInactive).OnStarted := { hp with }
      apply hp'.of_supervisor
      · split <;> rfl
      · simp [markHealth, hsupervisor]
  | startupWakes => apply hp.of_startupWakes hok h
  | initialHead head =>
      obtain ⟨-, rfl⟩ := initialHead_cases h
      have hp' := hp.of_startup (t := .persisting) (by simp [StartupTask.catchUpRuntime])
        (by simp)
      exact { hp' with }
  | persisted =>
      obtain ⟨-, rfl⟩ := persisted_cases h
      have hp' := hp.of_startup (t := .finished) (by simp [StartupTask.catchUpRuntime])
        (by simp)
      exact { hp' with }
  | catchUpHead head => apply hp.of_catchUpHead h
  | catchUpReplay answer => apply hp.of_catchUpReplay h
  | catchUpSlept =>
      obtain ⟨runtime, block, hstartup, rfl⟩ := catchUpSlept_cases h
      apply hp.catchUpLoop
      rintro rfl
      apply hp.started (Or.inr (Or.inr (by rw [hstartup]; rfl)))
  | requestShutdown => apply hp.of_requestShutdown h
  | _ => cases ha rfl

end OnStarted

end Process

end Sentinel
