import Sentinel.Supervisor.Regimes

/-!
# Every step keeps the promises

The steps of the supervisor task and of the startup sequence: what a replay promises is
passed on from one await to the next one, and from the task that owes a replay to the one
that does it.
-/

namespace Sentinel

open Transition

variable {chain : Chain} {base : ℕ} {cfg : RunConfig}

namespace World

variable {w w' : World} {node : Node} {p p' : Process}

/-! ### The supervisor task -/

theorem regime_of_pending (h : p.pendingReplayStartBlock.isSome = true) :
  regime cfg ⟨node, p⟩ = p.supervisor.regime node.askedBySupervisor
  := if_pos h

theorem regime_of_clear (h : p.pendingReplayStartBlock = none) :
  regime cfg ⟨node, p⟩ = p.startup.regime cfg.blockFrom p.moduleRuntime node.askedByStartup
  := by
  simp [regime, h]

/-- The supervisor goes on where it still owes the replay of what is pending. -/
theorem staged_supervisor {supervisor : SupervisorTask} {asked : ℕ}
    (hw : Staged chain base cfg ⟨node, p⟩)
    (howed : p.supervisor.regime node.askedBySupervisor = .owed)
    (howed' : supervisor.regime asked = .owed) :
  Staged chain base cfg
    ⟨{ node with askedBySupervisor := asked }, { p with supervisor := supervisor }⟩
  := by
  apply hw.of_same
  · rfl
  · rfl
  · simp only [regime, howed, howed']
  · apply le_refl

/-- The listener of a subscription changes. -/
theorem staged_listener (hw : Staged chain base cfg ⟨node, p⟩) (i : ℕ) (listener : Listener) :
  Staged chain base cfg
    ⟨node, p.setSubscription i { p.subscriptions i with listener := listener }⟩
  := by
  apply hw.of_same
  · apply Process.shutdownEvent_update
    rfl
  · simp only [currentFeed, Process.setSubscription]
    apply feed_update <;> rfl
  · rfl
  · apply le_refl

/-- Where an `RpcAvailabilityError` leaves the supervisor, the current subscription is shut
down. -/
theorem staged_restartOrExit (hp : p.OnStarted) (hexited : p.supervisor ≠ .exited) :
  Staged chain base cfg ⟨node, p.restartOrExit⟩
  := by
  apply staged_of_shutdown
  obtain ⟨hrequested, heq⟩ | ⟨-, heq⟩ := p.restartOrExit_cases
  · have hshutdown := (hp.shutdown hrequested).resolve_right fun h => hexited h.2
    simp only [heq]
    apply Process.shutdown_update (by exact id) p.moduleRuntime hshutdown
  · simp [heq, Process.beginRestart, Process.setSubscription, Process.markHealth,
      Subscription.requestShutdown]

namespace Sound

theorem kept_of_resumed (hw : Sound chain base cfg ⟨node, p⟩) (h : p.resumed = some p') :
  Kept chain base cfg ⟨node, p'⟩
  := by
  obtain ⟨hsupervisor, listener, hlistener, hcases⟩ := Process.resumed_cases h
  have hclaimed := hw.claimed.setSubscription (i := p.moduleRuntime)
    (s := { p.rawSubscription with listener := listener })
    (by rintro number rfl; simp at hlistener)
  have hstaged := staged_listener hw.staged p.moduleRuntime listener
  have howed : p.supervisor.regime node.askedBySupervisor = .owed := by
    rw [hsupervisor]
    rfl
  obtain ⟨-, rfl⟩ | ⟨-, rfl⟩ := hcases
  · constructor
    · have hclaimed' := hclaimed.of_supervisor (t := .waitingSubscribed) nofun nofun
      exact { hclaimed' with }
    · apply staged_supervisor hstaged howed rfl
  · constructor
    · have hclaimed' := hclaimed.of_supervisor (t := .listening) nofun nofun
      exact { hclaimed' with }
    · apply staged_supervisor hstaged howed rfl

theorem kept_of_stopped (hw : Sound chain base cfg ⟨node, p⟩) (h : p.stopped = some p') :
  Kept chain base cfg ⟨node, p'⟩
  := by
  obtain ⟨hsupervisor, rfl⟩ := Process.stopped_cases h
  have howed : p.supervisor.regime node.askedBySupervisor = .owed := by
    rw [hsupervisor]
    rfl
  constructor
  · have hclaimed := hw.claimed.of_supervisor
      (t := if p.shutdownRequested then .exited else .resuming)
      (by split <;> exact nofun) (by split <;> exact nofun)
    exact { hclaimed with }
  · apply staged_supervisor hw.staged howed
    split <;> rfl

/-- A subscription that was activated and has no buffer is open for every log above the
height of the chain. -/
theorem open_of_height (hw : Sound chain base cfg ⟨node, p⟩)
    (hbuffer : (currentFeed ⟨node, p⟩).buffer = none)
    (hstarted : (p.subscriptions p.moduleRuntime).subscriptionsStarted = true) :
  (currentFeed ⟨node, p⟩).Open p.ledger node.height
  := by
  have hsubscription := hw.timely.process.subscription p.moduleRuntime
  obtain ⟨since, hsince⟩ := Option.isSome_iff_exists.mp (hsubscription.started hstarted)
  exact {
    buffer := hbuffer
    since := ⟨since, hw.timely.since p.moduleRuntime since hsince, hsince⟩
    threshold := hsubscription.threshold
    delivered := by
      intro e he hlt
      have hle := hw.timely.delivered p.moduleRuntime e he
      cases Nat.lt_irrefl _ (Nat.lt_of_lt_of_le hlt hle) }

theorem kept_of_supervisorWakes (hw : Sound chain base cfg ⟨node, p⟩)
    (h : p.supervisorWakes = some p') :
  Kept chain base cfg ⟨node.after .supervisorWakes, p'⟩
  := by
  obtain ⟨hsupervisor, hcases⟩ := Process.supervisorWakes_cases h
  have howed : p.supervisor.regime node.askedBySupervisor = .owed := by
    obtain hsupervisor | hsupervisor := hsupervisor <;> rw [hsupervisor] <;> rfl
  obtain rfl | ⟨-, rfl⟩ | ⟨hwaiting, hstarted, rfl⟩ := hcases
  · constructor
    · exact hw.claimed.of_supervisor nofun nofun
    · apply staged_supervisor hw.staged howed rfl
  · constructor
    · apply hw.claimed.restartOrExit
    · apply staged_restartOrExit hw.onStarted
      obtain hsupervisor | hsupervisor := hsupervisor <;> simp [hsupervisor]
  · constructor
    · exact hw.claimed.of_supervisor nofun nofun
    · intro hs
      have hpending := hw.wellFormed.pending_of_owesReplay (by rw [hwaiting]; rfl)
      have hstage := hw.staged hs
      rw [regime_of_pending hpending, howed] at hstage
      rw [regime_of_pending (by exact hpending)]
      apply hw.open_of_height hstage hstarted

theorem kept_of_supervisorHead {head : Option ℕ} (hw : Sound chain base cfg ⟨node, p⟩)
    (hfresh : HeadsFresh ⟨node, p⟩ (.act (.supervisorHead head)))
    (h : p.supervisorHead head = some p') :
  Kept chain base cfg ⟨node, p'⟩
  := by
  obtain ⟨hsupervisor, block, hpending, ⟨-, rfl⟩ | ⟨catchupHead, s, r, rfl, hreplay, rfl⟩⟩ :=
    Process.supervisorHead_cases h
  · constructor
    · apply hw.claimed.restartOrExit
    · apply staged_restartOrExit hw.onStarted
      simp [hsupervisor]
  · have hs : s.listener = (p.subscriptions p.moduleRuntime).listener
        ∧ s.shutdownEvent = (p.subscriptions p.moduleRuntime).shutdownEvent := by
      cases hreplay
      apply And.intro rfl rfl
    constructor
    · have hclaimed := hw.claimed.of_listener hs.1
      exact { hclaimed with
        aborting := nofun
        supervisor := by
          rintro _ ⟨⟩
          apply Replay.claims_replayBlocks (hw.claimed.pending block hpending) hreplay }
    · intro hshutdown
      simp only [Process.setSubscription, Function.update_self, hs.2] at hshutdown
      have hstage := hw.staged hshutdown
      have hsome : p.pendingReplayStartBlock.isSome = true := Option.isSome_of_mem hpending
      rw [regime_of_pending hsome, hsupervisor] at hstage
      rw [regime_of_pending (by exact hsome)]
      simp only [currentFeed, Process.setSubscription, Function.update_self]
      apply Stage.replayBlocks hstage hfresh hreplay

/-- The current subscription is in the regime that its replay ended in. -/
theorem staged_of_replaySound {s : Subscription} {l : Ledger} {outcome : Outcome} {q : Process}
    (h : ReplaySound chain base cfg.blockBatchSize (node.since p.moduleRuntime)
      (node.delivered p.moduleRuntime) (s, l, outcome))
    (hruntime : q.moduleRuntime = p.moduleRuntime)
    (hsub : q.subscriptions = Function.update p.subscriptions p.moduleRuntime s)
    (hledger : q.ledger = l) (hregime : regime cfg ⟨node, q⟩ = outcome.regime) :
  Staged chain base cfg ⟨node, q⟩
  := by
  intro hs
  simp only [currentFeed, hruntime, hsub, hledger, Function.update_self] at hs ⊢
  rw [hregime]
  apply h.stage hs

/-- The supervisor is in the replay of what is pending, on a replacement that is not the
first runtime and that `catch_up_from` is not on. -/
theorem startup_regime_of_pending (hw : Sound chain base cfg ⟨node, p⟩)
    (hpending : p.pendingReplayStartBlock.isSome = true) (asked : ℕ) :
  p.startup.regime cfg.blockFrom p.moduleRuntime asked = .live
  := by
  have hpos : p.moduleRuntime ≠ 0 := Nat.ne_of_gt (hw.onStarted.pos_of_pending hpending)
  have hne : p.startup.catchUpRuntime ≠ some p.moduleRuntime := by
    intro hcurrent
    have hnone : p.pendingReplayStartBlock = none := hw.exclusive hcurrent
    rw [hnone] at hpending
    cases hpending
  cases hstartup : p.startup <;> rw [hstartup] at hne <;>
    simp_all [StartupTask.regime, StartupTask.catchUpRuntime]

theorem kept_of_supervisorReplay {answer : Answer} (hw : Sound chain base cfg ⟨node, p⟩)
    (hok : Honest chain cfg ⟨node, p⟩ (.act (.supervisorReplay answer)))
    (h : p.supervisorReplay cfg answer = some p') :
  Kept chain base cfg ⟨node, p'⟩
  := by
  obtain ⟨r, s, l, outcome, hsupervisor, hstep, q, rfl, hcases⟩ :=
    Process.supervisorReplay_cases h
  have hanswer : r.AnswerOk chain cfg.blockBatchSize answer := by
    simp only [Honest, hsupervisor] at hok
    apply hok.answerOk
  have hpending : p.pendingReplayStartBlock.isSome = true :=
    hw.wellFormed.pending_of_owesReplay (by rw [hsupervisor]; rfl)
  have hreplaying : p.rawSubscription.shutdownEvent = false →
      Stage chain base (p.rawSubscription.feed (node.since p.moduleRuntime)
        (node.delivered p.moduleRuntime)) p.ledger (.replaying r) := by
    intro hs
    have hstage := hw.staged hs
    rw [regime_of_pending hpending, hsupervisor] at hstage
    apply hstage
  have hsound := Replay.sound_step hw.claimed.block (hw.claimed.supervisor r hsupervisor)
    hreplaying hanswer hstep
  have hclaimed := hw.claimed.replayStepped (r.marksProgress answer) hstep hsound.block
  obtain ⟨r', rfl, rfl⟩ | ⟨rfl, rfl⟩ | ⟨-, rfl⟩ := hcases
  · constructor
    · exact { hclaimed with
        aborting := by simp
        supervisor := by
          rintro _ ⟨⟩
          apply hsound.claims _ rfl }
    · refine staged_of_replaySound hsound rfl rfl rfl ?_
      apply regime_of_pending (by exact hpending)
  · constructor
    · exact { hclaimed with
        pending := by simp
        aborting := by simp
        supervisor := by simp }
    · refine staged_of_replaySound hsound rfl rfl rfl ?_
      rw [regime_of_clear rfl]
      apply hw.startup_regime_of_pending hpending
  · constructor
    · apply Process.Claimed.restartOrExit
      exact { hclaimed with }
    · apply staged_restartOrExit
      · have honStarted := hw.onStarted.replayStepped (r.marksProgress answer) hstep
        exact { honStarted with }
      · simp [Process.replayStepped, Process.setSubscription, hsupervisor]

/-- The replacement owes the replay of what is pending, and has no buffer. -/
theorem kept_of_aborted (hw : Sound chain base cfg ⟨node, p⟩) (h : p.aborted = some p') :
  Kept chain base cfg ⟨node, p'⟩
  := by
  obtain ⟨block, hsupervisor, rfl⟩ := Process.aborted_cases h
  have hclaimed := hw.claimed.cancelListener p.moduleRuntime
  have hclaimed' := hclaimed.setSubscription (i := p.moduleRuntime + 1)
    (s := .new p.catchupUntilBlock) nofun
  constructor
  · exact { hclaimed' with
      pending := by
        rintro _ ⟨⟩
        apply hw.claimed.aborting block hsupervisor
      aborting := by
        intro block'
        simp only
        split <;> exact nofun
      supervisor := by
        intro r
        simp only
        split <;> exact nofun }
  · intro _
    have howed : ∀ requested : Bool, SupervisorTask.regime node.askedBySupervisor
        (if requested then .exited else .resuming) = .owed := by
      intro requested
      cases requested <;> rfl
    rw [regime_of_pending (by exact rfl)]
    simp only [howed]
    simp [currentFeed, Stage, Subscription.feed, Process.setSubscription, Process.markHealth,
      Subscription.new]

/-! ### The startup sequence -/

/-- `catch_up_from` is not on the current runtime. -/
theorem regime_of_ne {startup : StartupTask} {runtime blockFrom moduleRuntime : ℕ}
    (hruntime : startup.catchUpRuntime = some runtime) (hne : moduleRuntime ≠ runtime)
    (asked : ℕ) :
  startup.regime blockFrom moduleRuntime asked = .live
  := by
  cases startup <;> simp_all [StartupTask.regime, StartupTask.catchUpRuntime, eq_comm]

/-- `catch_up_from` returns after a shutdown request, or when its runtime was replaced. -/
theorem staged_catchUpReturned {runtime asked : ℕ} (hw : Sound chain base cfg ⟨node, p⟩)
    (hruntime : p.startup.catchUpRuntime = some runtime)
    (h : p.shutdownRequested = true ∨ p.moduleRuntime ≠ runtime) :
  Staged chain base cfg ⟨{ node with askedByStartup := asked }, p.catchUpReturned⟩
  := by
  cases hpending : p.pendingReplayStartBlock with
  | some block =>
      have hsome : p.pendingReplayStartBlock.isSome = true := Option.isSome_of_mem hpending
      refine hw.staged.of_same rfl rfl ?_ (le_refl _)
      rw [regime_of_pending (by exact hsome), regime_of_pending hsome]
      rfl
  | none =>
      obtain hrequested | hne := h
      · apply staged_of_shutdown
        apply (hw.onStarted.shutdown hrequested).resolve_right
        simp [hpending]
      · refine hw.staged.of_same rfl rfl ?_ (le_refl _)
        rw [regime_of_clear (by exact hpending), regime_of_clear hpending,
          regime_of_ne hruntime hne]
        rfl

/-- The loop of `catch_up_from` goes on. -/
theorem kept_catchUpLoop {runtime block : ℕ} (hw : Sound chain base cfg ⟨node, p⟩)
    (hstartup : p.startup = .sleeping runtime block) :
  Kept chain base cfg ⟨{ node with askedByStartup := node.height }, p.catchUpLoop runtime block⟩
  := by
  have hcurrent : p.startup.catchUpRuntime = some runtime := by
    rw [hstartup]
    rfl
  constructor
  · apply hw.claimed.catchUpLoop
    apply hw.claimed.catchUp
    rw [hstartup]
    rfl
  · obtain ⟨hreturns, heq⟩ | ⟨-, rfl, heq⟩ := p.catchUpLoop_cases runtime block
    · rw [heq]
      apply hw.staged_catchUpReturned hcurrent hreturns
    · rw [heq]
      intro hs
      have hclear : p.pendingReplayStartBlock = none := hw.exclusive hcurrent
      have hstage := hw.staged hs
      rw [regime_of_clear hclear, hstartup, StartupTask.regime, if_pos rfl] at hstage
      rw [regime_of_clear (by exact hclear), StartupTask.regime, if_pos rfl]
      apply hw.open_of_height hstage
      apply hw.onStarted.started (Or.inr (Or.inr hcurrent))

theorem kept_of_startupWakes (hw : Sound chain base cfg ⟨node, p⟩)
    (hclear : p.CatchUpStartsClear cfg .startupWakes) (h : p.startupWakes cfg = some p') :
  Kept chain base cfg ⟨node.after .startupWakes, p'⟩
  := by
  obtain ⟨runtime, hstartup, hstarted, ⟨hblock, -⟩ | ⟨hblock, rfl⟩⟩ := Process.startupWakes_cases h
  · have hblock' := hw.startsAfter.waiting runtime hstartup
    omega
  have hnone : p.pendingReplayStartBlock = none := hclear.resolve_left hblock
  constructor
  · apply Process.Claimed.catchUpLoop
    · exact { hw.claimed with }
    · apply Covered.of_le_base
      rw [hw.startsAfter.waiting runtime hstartup]
      apply le_refl
  · obtain ⟨hreturns, heq⟩ | ⟨-, -, heq⟩ := Process.catchUpLoop_cases
      ((p.markHealth (.markStartupComplete p.now)).markHealth .markCatchupStarted)
      p.moduleRuntime cfg.blockFrom
    · rw [heq]
      apply staged_of_shutdown
      have hrequested : p.shutdownRequested = true := hreturns.resolve_right fun h => h rfl
      apply (hw.onStarted.shutdown hrequested).resolve_right
      simp [hnone]
    · rw [heq]
      intro hs
      have hstage := hw.staged hs
      rw [regime_of_clear hnone, hstartup] at hstage
      rw [regime_of_clear (by exact hnone), StartupTask.regime, if_pos (by rfl)]
      have hbuffer : (currentFeed ⟨node, p⟩).buffer = none := by
        simp only [StartupTask.regime] at hstage
        split at hstage
        · apply hstage
        · obtain ⟨number, hopen, -⟩ := hstage
          apply hopen.buffer
      apply hw.open_of_height hbuffer
      obtain hzero | hpos := Nat.eq_zero_or_pos p.moduleRuntime
      · obtain rfl := hw.onStarted.waiting runtime hstartup
        rw [hzero]
        apply hstarted
      · apply hw.onStarted.started (Or.inl ⟨hnone, hpos⟩)

theorem kept_of_persisted (hw : Sound chain base cfg ⟨node, p⟩) (h : p.persisted = some p') :
  Kept chain base cfg ⟨node, p'⟩
  := by
  obtain ⟨hstartup, rfl⟩ := Process.persisted_cases h
  constructor
  · have hclaimed := hw.claimed.of_startup (t := .finished) nofun nofun
    exact { hclaimed with }
  · refine hw.staged.of_same rfl rfl ?_ (le_refl _)
    simp only [regime, hstartup]
    rfl

/-- An `RpcAvailabilityError` reaches `catch_up_from` while it reads the head. -/
theorem kept_catchUpUnavailable {runtime block : ℕ} (hw : Sound chain base cfg ⟨node, p⟩)
    (hstartup : p.startup = .readingHead runtime block) :
  Kept chain base cfg ⟨node, p.catchUpUnavailable runtime block⟩
  := by
  have hcurrent : p.startup.catchUpRuntime = some runtime := by
    rw [hstartup]
    rfl
  constructor
  · apply hw.claimed.catchUpUnavailable
    apply hw.claimed.catchUp
    rw [hstartup]
    rfl
  · obtain ⟨hreturns, heq⟩ | ⟨-, rfl, heq⟩ := p.catchUpUnavailable_cases runtime block
    · rw [heq]
      apply hw.staged_catchUpReturned hcurrent hreturns
    · rw [heq]
      intro hs
      have hclear : p.pendingReplayStartBlock = none := hw.exclusive hcurrent
      have hstage := hw.staged hs
      rw [regime_of_clear hclear, hstartup, StartupTask.regime, if_pos rfl] at hstage
      rw [regime_of_clear (by exact hclear), StartupTask.regime, if_pos rfl]
      apply Feed.Open.buffer hstage

theorem kept_of_catchUpHead {head : Option ℕ} (hw : Sound chain base cfg ⟨node, p⟩)
    (hfresh : HeadsFresh ⟨node, p⟩ (.act (.catchUpHead head)))
    (h : p.catchUpHead head = some p') :
  Kept chain base cfg ⟨node, p'⟩
  := by
  obtain ⟨runtime, block, hstartup, ⟨-, rfl⟩ | ⟨hne, rfl⟩ |
    ⟨rfl, catchupHead, s, r, rfl, hreplay, rfl⟩⟩ := Process.catchUpHead_cases h
  all_goals
    have hcurrent := congrArg StartupTask.catchUpRuntime hstartup
  · apply hw.kept_catchUpUnavailable hstartup
  · constructor
    · apply hw.claimed.catchUpReturned
    · apply hw.staged_catchUpReturned hcurrent (Or.inr hne)
  · have hs : s.listener = (p.subscriptions p.moduleRuntime).listener
        ∧ s.shutdownEvent = (p.subscriptions p.moduleRuntime).shutdownEvent := by
      cases hreplay
      apply And.intro rfl rfl
    have hcovered : Covered chain base p.ledger (block - 1) := by
      apply hw.claimed.catchUp
      rw [hstartup]
      rfl
    constructor
    · have hclaimed := hw.claimed.of_listener hs.1
      exact { hclaimed with
        catchUp := by
          rintro _ ⟨⟩
          apply hcovered
        startup := by
          rintro _ _ _ ⟨⟩
          apply Replay.claims_replayBlocks hcovered hreplay }
    · intro hshutdown
      simp only [Process.setSubscription, Function.update_self, hs.2] at hshutdown
      have hclear : p.pendingReplayStartBlock = none := hw.exclusive hcurrent
      have hstage := hw.staged hshutdown
      rw [regime_of_clear hclear, hstartup, StartupTask.regime, if_pos rfl] at hstage
      rw [regime_of_clear (by exact hclear), StartupTask.regime, if_pos (by rfl)]
      simp only [currentFeed, Process.setSubscription, Function.update_self]
      apply Stage.replayBlocks hstage hfresh hreplay

/-- A replay on a runtime that was replaced leaves the current subscription alone. -/
theorem staged_of_replaced {runtime : ℕ} {s : Subscription} {q : Process}
    (hw : Sound chain base cfg ⟨node, p⟩)
    (hcurrent : p.startup.catchUpRuntime = some runtime) (hne : p.moduleRuntime ≠ runtime)
    (hruntime : q.moduleRuntime = p.moduleRuntime)
    (hsub : q.subscriptions = Function.update p.subscriptions runtime s)
    (hpending : q.pendingReplayStartBlock = p.pendingReplayStartBlock)
    (hsupervisor : q.supervisor = p.supervisor) (hl : p.ledger ≤ q.ledger)
    (hlive : q.startup.regime cfg.blockFrom p.moduleRuntime node.askedByStartup = .live) :
  Staged chain base cfg ⟨node, q⟩
  := by
  apply hw.staged.of_same
  · simp only [hruntime, hsub, Function.update_of_ne hne]
  · simp only [currentFeed, hruntime, hsub, Function.update_of_ne hne]
  · simp only [regime, hpending, hsupervisor, hruntime, hlive, regime_of_ne hcurrent hne]
  · apply hl

/-- `catch_up_from` replays on the current runtime, or on one that was replaced and is shut
down. -/
theorem stage_of_catchUp {runtime block : ℕ} {r : Replay} (hw : Sound chain base cfg ⟨node, p⟩)
    (hstartup : p.startup = .replaying runtime block r)
    (hs : (p.subscriptions runtime).shutdownEvent = false) :
  Stage chain base ((p.subscriptions runtime).feed (node.since runtime) (node.delivered runtime))
    p.ledger (.replaying r)
  := by
  have hcurrent : p.startup.catchUpRuntime = some runtime :=
    congrArg StartupTask.catchUpRuntime hstartup
  obtain hlt | rfl := Nat.lt_or_eq_of_le (hw.wellFormed.catchUpRuntime_le runtime hcurrent)
  · cases hs.symm.trans (hw.wellFormed.shutdown_of_lt runtime hlt)
  · have hstage := hw.staged hs
    rw [regime_of_clear (hw.exclusive hcurrent), hstartup, StartupTask.regime, if_pos rfl]
      at hstage
    apply hstage

theorem kept_of_catchUpReplay {answer : Answer} (hw : Sound chain base cfg ⟨node, p⟩)
    (hok : Honest chain cfg ⟨node, p⟩ (.act (.catchUpReplay answer)))
    (h : p.catchUpReplay cfg answer = some p') :
  Kept chain base cfg ⟨node, p'⟩
  := by
  obtain ⟨runtime, block, r, s, l, outcome, hstartup, hstep, q, hq, hcases⟩ :=
    Process.catchUpReplay_cases h
  have hcurrent : p.startup.catchUpRuntime = some runtime :=
    congrArg StartupTask.catchUpRuntime hstartup
  have hanswer : r.AnswerOk chain cfg.blockBatchSize answer := by
    simp only [Honest, hstartup] at hok
    apply hok.answerOk
  have hl := Replay.le_of_step hstep
  have hsound := Replay.sound_step hw.claimed.block
    (hw.claimed.startup runtime block r hstartup) (hw.stage_of_catchUp hstartup) hanswer hstep
  have hclaimed : q.Claimed chain base cfg := by
    rw [hq]
    apply hw.claimed.replayStepped (r.marksProgress answer) hstep hsound.block
  have honStarted : q.OnStarted := by
    rw [hq]
    apply hw.onStarted.replayStepped (r.marksProgress answer) hstep
  have hcovered : Covered chain base q.ledger (block - 1) := by
    rw [hq]
    apply (hw.claimed.catchUp block (by rw [hstartup]; rfl)).of_le hl
  -- the current subscription is in the regime of the outcome, or was not the one replayed on
  have hstaged : ∀ startup : StartupTask,
      (p.moduleRuntime = runtime →
        startup.regime cfg.blockFrom runtime node.askedByStartup = outcome.regime) →
      (p.moduleRuntime ≠ runtime →
        startup.regime cfg.blockFrom p.moduleRuntime node.askedByStartup = .live) →
      Staged chain base cfg ⟨node, { q with startup := startup }⟩ := by
    intro startup hsame hother
    rw [hq]
    by_cases hne : p.moduleRuntime = runtime
    · subst hne
      refine staged_of_replaySound hsound rfl rfl rfl ?_
      rw [regime_of_clear (by exact hw.exclusive hcurrent)]
      apply hsame rfl
    · exact hw.staged_of_replaced hcurrent hne rfl rfl rfl rfl hl (hother hne)
  obtain ⟨r', rfl, rfl⟩ | ⟨rfl, rfl⟩ | ⟨rfl, rfl⟩ := hcases
  · constructor
    · exact { hclaimed with
        catchUp := by
          rintro _ ⟨⟩
          apply hcovered
        startup := by
          rintro _ _ _ ⟨⟩
          rw [hq]
          apply hsound.claims _ rfl }
    · apply hstaged
      · rintro -
        rw [StartupTask.regime, if_pos rfl]
        rfl
      · intro hne
        apply regime_of_ne rfl hne
  · constructor
    · apply hclaimed.catchUpReturned
    · have hfinished := hstaged .finished (fun _ => rfl) (fun _ => rfl)
      exact hfinished
  · constructor
    · apply hclaimed.catchUpUnavailable runtime hcovered
    · obtain ⟨hreturns, heq⟩ | ⟨-, hruntime, heq⟩ := q.catchUpUnavailable_cases runtime block
      · rw [heq]
        by_cases hne : p.moduleRuntime = runtime
        · apply staged_of_shutdown
          have hq' : q.moduleRuntime = runtime := by rw [hq]; exact hne
          have hclear : q.pendingReplayStartBlock = none := by
            rw [hq]
            apply hw.exclusive
            rw [hcurrent, hne]
          have hrequested : q.shutdownRequested = true :=
            hreturns.resolve_right fun h => h hq'
          apply (honStarted.shutdown hrequested).resolve_right
          simp [hclear]
        · have hfinished := hstaged .finished (fun h => absurd h hne) (fun _ => rfl)
          exact hfinished
      · rw [heq]
        have hne : p.moduleRuntime = runtime := by rw [← hruntime, hq]; rfl
        apply hstaged
        · rintro -
          rw [StartupTask.regime, if_pos rfl]
          rfl
        · intro h
          cases h hne

/-! ### Every step -/

/-- After a shutdown request the current subscription promises nothing. -/
theorem kept_of_requestShutdown (hw : Sound chain base cfg ⟨node, p⟩) :
  Kept chain base cfg ⟨node, p.requestShutdown⟩
  := by
  constructor
  · have hclaimed := hw.claimed.of_listener (i := p.moduleRuntime)
      (s := p.rawSubscription.requestShutdown) rfl
    exact { hclaimed with }
  · apply staged_of_shutdown
    simp [Process.requestShutdown, Process.setSubscription, Subscription.requestShutdown]

theorem kept_of_step {a : Action} (hw : Sound chain base cfg ⟨node, p⟩)
    (hok : Honest chain cfg ⟨node, p⟩ (.act a)) (hfresh : HeadsFresh ⟨node, p⟩ (.act a))
    (hlive : BlocksAfterReplay cfg ⟨node, p⟩ (.act a)) (hclear : p.CatchUpStartsClear cfg a)
    (h : p.step cfg a = some p') :
  Kept chain base cfg ⟨node.after a, p'⟩
  := by
  cases a with
  | resumed => apply hw.kept_of_resumed h
  | supervisorWakes => apply hw.kept_of_supervisorWakes h
  | supervisorHead head => apply hw.kept_of_supervisorHead hfresh h
  | supervisorReplay answer => apply hw.kept_of_supervisorReplay hok h
  | aborted => apply hw.kept_of_aborted h
  | stopped => apply hw.kept_of_stopped h
  | startupWakes => apply hw.kept_of_startupWakes hclear h
  | initialHead head =>
      obtain ⟨hstartup, -⟩ := Process.initialHead_cases h
      cases hw.startsAfter.ne_readingInitialHead hstartup
  | persisted => apply hw.kept_of_persisted h
  | catchUpHead head => apply hw.kept_of_catchUpHead hfresh h
  | catchUpReplay answer => apply hw.kept_of_catchUpReplay hok h
  | catchUpSlept =>
      obtain ⟨runtime, block, hstartup, rfl⟩ := Process.catchUpSlept_cases h
      apply hw.kept_catchUpLoop hstartup
  | requestShutdown =>
      cases h
      apply hw.kept_of_requestShutdown
  | _ => apply hw.kept_of_background rfl hok hlive h

/-- The chain grows. -/
theorem mined (hw : Sound chain base cfg w) :
  Sound chain base cfg { w with node := { w.node with height := w.node.height + 1 } }
  := { hw with timely := hw.timely.mined }

/-- A subscription is activated: the current one has no replay in progress, nor does it read
the head for one. -/
theorem activated {i : ℕ} (hw : Sound chain base cfg w) (hsince : w.node.since i = none) :
  Sound chain base cfg { w with node :=
    { w.node with since := Function.update w.node.since i (some w.node.height) } }
  := by
  refine { hw with timely := hw.timely.activated i, staged := ?_ }
  intro hs
  by_cases hi : w.process.moduleRuntime = i
  · subst hi
    have hstage := hw.staged hs
    change Stage chain base _ w.process.ledger (w.regime cfg)
    have hnone : w.currentFeed.since = none := hsince
    cases hregime : w.regime cfg with
    | owed =>
        rw [hregime] at hstage
        apply hstage
    | reading asked =>
        rw [hregime] at hstage
        obtain ⟨since, -, hsome⟩ := Feed.Open.since hstage
        cases hnone.symm.trans hsome
    | replaying r =>
        rw [hregime] at hstage
        obtain ⟨number, buffer, hreplaying⟩ := hstage
        obtain ⟨since, -, hsome⟩ := hreplaying.since
        cases hnone.symm.trans hsome
    | live =>
        rw [hregime] at hstage
        obtain ⟨number, hopen, -⟩ := hstage
        obtain ⟨since, -, hsome⟩ := hopen.since
        cases hnone.symm.trans hsome
  · simp only [currentFeed, Function.update_of_ne hi]
    apply hw.staged hs

/-- Every move keeps a world sound. -/
theorem of_step {m : Move} (hw : Sound chain base cfg w) (hok : w.Honest chain cfg m)
    (hfresh : w.HeadsFresh m) (hlive : w.BlocksAfterReplay cfg m)
    (hclear : w.CatchUpStartsClear cfg m) (h : w.step cfg m = some w') :
  Sound chain base cfg w'
  := by
  have htimely := hw.timely.of_step hok h
  obtain ⟨-, rfl⟩ | ⟨i, -, hsince, -, rfl⟩ | ⟨a, p', rfl, hstep, rfl⟩ := step_cases h
  · apply hw.mined
  · apply hw.activated hsince
  · have hkept : Kept chain base cfg ⟨w.node.after a, p'⟩ :=
      kept_of_step hw hok hfresh hlive hclear hstep
    exact {
      timely := htimely
      wellFormed := hw.wellFormed.of_step hstep
      exclusive := Process.catchUpExclusive_of_step hw.wellFormed hw.exclusive hclear hstep
      onStarted := hw.onStarted.of_step hw.wellFormed hclear hstep
      startsAfter := hw.startsAfter.of_step hstep
      claimed := hkept.1
      staged := hkept.2 }

end Sound

end World

end Sentinel
