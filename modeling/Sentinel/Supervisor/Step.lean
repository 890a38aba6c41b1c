import Sentinel.Supervisor.State

/-!
# The steps of a process

Each step is what one task does from one await to the next one, given how the await ended:
the startup sequence of `_run`, the task of `ModuleRuntimeSupervisor.subscribe`, and the
listeners of the subscriptions. Consumers return, and an error other than an
`RpcAvailabilityError` ends the process, so that no step follows it.
-/

namespace Sentinel

/-- What can happen next in a process. -/
inductive Action where
  /-- time passes -/
  | tick (elapsed : ℕ)
  /-- `resume_pending_aggregations` returns -/
  | resumed
  /-- the subscription of a runtime is established -/
  | subscribed (runtime : ℕ)
  /-- the listener of a runtime ends, with an `RpcAvailabilityError` or without one -/
  | listenerEnded (runtime : ℕ) (unavailable : Bool)
  /-- a matching log arrives -/
  | liveLog (runtime : ℕ) (e : Event)
  /-- a new head arrives -/
  | liveHead (runtime head : ℕ)
  /-- `handle_block` returns for a live block -/
  | liveBlockDone (runtime : ℕ)
  /-- `wait_until_subscribed` is called -/
  | waitUntilSubscribed
  /-- a `wait_until_subscribed` call returns -/
  | waiterDone (runtime : ℕ)
  /-- the supervisor task wakes up -/
  | supervisorWakes
  /-- `get_block_number` returns to the supervisor task, or is unavailable -/
  | supervisorHead (head : Option ℕ)
  /-- the await of the pending replay ends -/
  | supervisorReplay (answer : Answer)
  /-- `abort` of the failed subscription returns -/
  | aborted
  /-- `stop` of the subscription returns -/
  | stopped
  /-- `_wait_for_subscription_start` returns -/
  | startupWakes
  /-- `get_block_number` returns to `establish_initial_checkpoint` -/
  | initialHead (head : ℕ)
  /-- the initial checkpoint is persisted -/
  | persisted
  /-- `get_block_number` returns to `catch_up_from`, or is unavailable -/
  | catchUpHead (head : Option ℕ)
  /-- the await of the replay of `catch_up_from` ends -/
  | catchUpReplay (answer : Answer)
  /-- the delay of `catch_up_from` is over -/
  | catchUpSlept
  /-- a shutdown is requested -/
  | requestShutdown

namespace Action

/-- Neither the startup sequence nor the supervisor task moves. -/
def background : Action → Bool
  | tick _ | subscribed _ | listenerEnded _ _ | liveLog _ _ | liveHead _ _ | liveBlockDone _
  | waitUntilSubscribed | waiterDone _ => true
  | _ => false

end Action

namespace Process

/-! ### Listeners -/

/-- `Subscription.subscribe` after the subscription request. -/
def subscribed (p : Process) (i : ℕ) : Option Process :=
  let s := p.subscriptions i
  match s.listener with
  | .connecting =>
      some ((p.setSubscription i
        { s with subscriptionsStarted := true, listener := .listening }).markHealth
          (.markSubscriptionActive p.now))
  | _ => none

/-- `Subscription.subscribe` at its end. -/
def listenerEnded (p : Process) (i : ℕ) (unavailable : Bool) : Option Process :=
  let s := p.subscriptions i
  let ended : Process :=
    p.setSubscription i { s with listener := if s.shutdownEvent then .returned else .raised }
  let inactive : Process :=
    if unavailable || !s.shutdownEvent then ended.markHealth .markSubscriptionInactive else ended
  match s.listener with
  | .connecting => if unavailable then some inactive else none
  | .listening => some inactive
  | _ => none

/-- `_handle_event_log_subscription` for a matching log. -/
def liveLog (p : Process) (i : ℕ) (e : Event) : Option Process :=
  match (p.subscriptions i).listener with
  | .listening =>
      let (s, handedOn) := (p.subscriptions i).emitSubscriptionEvent e
      let p' := (p.setSubscription i s).markHealth (.markProgress p.now)
      match handedOn with
      | some (.event e) => some { p' with ledger := p'.ledger.handleEvent e }
      | _ => some p'
  | _ => none

/-- `_handle_new_head_subscription`. -/
def liveHead (p : Process) (i head : ℕ) : Option Process :=
  match (p.subscriptions i).listener with
  | .listening =>
      let (s, handedOn) := (p.subscriptions i).handleNewHeadSubscription head
      let p' := if head = 0 then p else p.markHealth (.markProgress p.now)
      match handedOn with
      | some (.block b) => some (p'.setSubscription i { s with listener := .handling b.number })
      | _ => some (p'.setSubscription i s)
  | _ => none

/-- `ModuleRuntime.handle_block` after the aggregations, for a live block. -/
def liveBlockDone (p : Process) (i : ℕ) : Option Process :=
  let s := p.subscriptions i
  match s.listener with
  | .handling number =>
      some { p.setSubscription i { s with listener := .listening } with
        ledger := p.ledger.advanceBlock number }
  | _ => none

/-- Cancel the listener of a runtime, unless it has ended. -/
def cancelListener (p : Process) (i : ℕ) : Process :=
  let s := p.subscriptions i
  p.setSubscription i { s with listener := s.listener.cancel }

/-- A replay on the subscription of a runtime went on to its next await. -/
def replayStepped (p : Process) (i : ℕ) (s : Subscription) (ledger : Ledger)
    (progress : Bool) : Process :=
  { p.setSubscription i s with
    ledger := ledger
    health := if progress then p.health.markProgress p.now else p.health }

/-! ### The supervisor task -/

/-- `subscribe` goes on with its loop. -/
def resubscribe (p : Process) : Process :=
  { p with supervisor := if p.shutdownRequested then .exited else .resuming }

/-- `_subscribe_until_restarted_or_stopped` returns `False`. -/
def exitSupervisor (p : Process) : Process :=
  { p.cancelListener p.moduleRuntime with supervisor := .exited }

/-- `_restart_after_rpc_disconnect`, up to the await of `abort`. -/
def beginRestart (p : Process) : Process :=
  { (p.setSubscription p.moduleRuntime p.rawSubscription.requestShutdown).markHealth
      .markCatchupStarted with
    supervisor := .aborting (max (p.ledger.block + 1) 1) }

/-- An `RpcAvailabilityError` reaches the supervisor: it exits after a shutdown request, and
replaces the runtime otherwise. -/
def restartOrExit (p : Process) : Process :=
  if p.shutdownRequested then p.exitSupervisor else p.beginRestart

/-- `_subscribe_until_restarted_or_stopped` after `resume_pending_aggregations`: the
listener is started. -/
def resumed (p : Process) : Option Process :=
  match p.supervisor with
  | .resuming =>
      let s := p.rawSubscription
      let listener := if s.shutdownEvent then Listener.returned else .connecting
      some { p.setSubscription p.moduleRuntime { s with listener := listener } with
        moduleRuntimeRestarted := false
        supervisor := if p.pendingReplayStartBlock.isSome then .waitingSubscribed else .listening }
  | _ => none

/-- `_subscribe_until_restarted_or_stopped` after one of its waits. -/
def supervisorWakes (p : Process) : Option Process :=
  match p.supervisor with
  | .waitingSubscribed =>
      if p.moduleRuntimeRestarted then some { p with supervisor := .stopping }
      else if p.rawSubscription.listener.done then some p.restartOrExit
      else if p.rawSubscription.subscriptionsStarted then
        some { p with supervisor := .readingHead }
      else none
  | .listening =>
      if p.moduleRuntimeRestarted then some { p with supervisor := .stopping }
      else if p.rawSubscription.listener.done then some p.restartOrExit
      else none
  | _ => none

/-- `_replay_pending_blocks_after_restart` after the head was read. -/
def supervisorHead (p : Process) (head : Option ℕ) : Option Process :=
  match p.supervisor, p.pendingReplayStartBlock, head with
  | .readingHead, some replayStartBlock, some catchupHead =>
      let (s, r) := p.rawSubscription.replayBlocks replayStartBlock catchupHead (some catchupHead)
      some { p.setSubscription p.moduleRuntime s with
        catchupUntilBlock := some catchupHead
        supervisor := .replaying r }
  | .readingHead, some _, none => some p.restartOrExit
  | _, _, _ => none

/-- `_replay_pending_blocks_after_restart` while the replay is in progress. -/
def supervisorReplay (cfg : RunConfig) (p : Process) (answer : Answer) : Option Process :=
  match p.supervisor with
  | .replaying r =>
      match r.step cfg.blockBatchSize p.rawSubscription p.ledger answer with
      | none => none
      | some (s, ledger, outcome) =>
          let p' := p.replayStepped p.moduleRuntime s ledger (r.marksProgress answer)
          match outcome with
          | .running r => some { p' with supervisor := .replaying r }
          | .returned =>
              some { p'.markHealth (.markCatchupComplete p.now) with
                catchupUntilBlock := none
                pendingReplayStartBlock := none
                supervisor := .listening }
          | .raised .unavailable => some { p' with catchupUntilBlock := none }.restartOrExit
          | .raised .other => none
  | _ => none

/-- `_restart_after_rpc_disconnect` after `abort`: the replacement is installed. -/
def aborted (p : Process) : Option Process :=
  match p.supervisor with
  | .aborting replayStartBlock =>
      let cancelled := p.cancelListener p.moduleRuntime
      let replacement := p.moduleRuntime + 1
      some { (cancelled.setSubscription replacement (.new p.catchupUntilBlock)).markHealth
          .markSubscriptionInactive with
        pendingReplayStartBlock := some replayStartBlock
        moduleRuntime := replacement }.resubscribe
  | _ => none

/-- `_subscribe_until_restarted_or_stopped` after `stop` and the end of the listener. -/
def stopped (p : Process) : Option Process :=
  match p.supervisor with
  | .stopping =>
      if p.rawSubscription.listener.done then
        some (p.markHealth .markSubscriptionInactive).resubscribe
      else none
  | _ => none

/-! ### The startup sequence -/

/-- `catch_up_from` returns, and `_run` marks the catch-up complete. -/
def catchUpReturned (p : Process) : Process :=
  { p.markHealth (.markCatchupComplete p.now) with
    catchupUntilBlock := none
    startup := .finished }

/-- The head of the loop of `catch_up_from`. -/
def catchUpLoop (p : Process) (runtime replayStartBlock : ℕ) : Process :=
  if p.shutdownRequested || p.moduleRuntime != runtime then p.catchUpReturned
  else { p with startup := .readingHead runtime replayStartBlock }

/-- An `RpcAvailabilityError` reaches `catch_up_from`. -/
def catchUpUnavailable (p : Process) (runtime replayStartBlock : ℕ) : Process :=
  if p.shutdownRequested || p.moduleRuntime != runtime then p.catchUpReturned
  else { p with startup := .sleeping runtime (max replayStartBlock (p.ledger.block + 1)) }

/-- `_run` after `_wait_for_subscription_start`. -/
def startupWakes (cfg : RunConfig) (p : Process) : Option Process :=
  match p.startup, p.supervisor with
  | .waiting _, .exited => none
  | .waiting runtime, _ =>
      if (p.subscriptions runtime).subscriptionsStarted then
        if cfg.blockFrom = 0 then some { p with startup := .readingInitialHead }
        else
          let started := (p.markHealth (.markStartupComplete p.now)).markHealth .markCatchupStarted
          some (started.catchUpLoop p.moduleRuntime cfg.blockFrom)
      else none
  | _, _ => none

/-- `establish_initial_checkpoint` after the head was read. -/
def initialHead (p : Process) (head : ℕ) : Option Process :=
  match p.startup with
  | .readingInitialHead =>
      some { p with
        ledger := { p.ledger with block := head - 1 }
        initialCheckpoint := some (head - 1)
        startup := .persisting }
  | _ => none

/-- `_run` after the initial checkpoint was persisted. -/
def persisted (p : Process) : Option Process :=
  match p.startup with
  | .persisting =>
      some { p.markHealth (.markStartupComplete p.now) with startup := .finished }
  | _ => none

/-- `catch_up_from` after the head was read. -/
def catchUpHead (p : Process) (head : Option ℕ) : Option Process :=
  match p.startup, head with
  | .readingHead runtime replayStartBlock, some catchupHead =>
      if p.moduleRuntime != runtime then some p.catchUpReturned
      else
        let (s, r) :=
          (p.subscriptions runtime).replayBlocks replayStartBlock catchupHead (some catchupHead)
        some { p.setSubscription runtime s with
          catchupUntilBlock := some catchupHead
          startup := .replaying runtime replayStartBlock r }
  | .readingHead runtime replayStartBlock, none =>
      some (p.catchUpUnavailable runtime replayStartBlock)
  | _, _ => none

/-- `catch_up_from` while the replay is in progress. -/
def catchUpReplay (cfg : RunConfig) (p : Process) (answer : Answer) : Option Process :=
  match p.startup with
  | .replaying runtime replayStartBlock r =>
      match r.step cfg.blockBatchSize (p.subscriptions runtime) p.ledger answer with
      | none => none
      | some (s, ledger, outcome) =>
          let p' := p.replayStepped runtime s ledger (r.marksProgress answer)
          match outcome with
          | .running r => some { p' with startup := .replaying runtime replayStartBlock r }
          | .returned => some p'.catchUpReturned
          | .raised .unavailable => some (p'.catchUpUnavailable runtime replayStartBlock)
          | .raised .other => none
  | _ => none

/-- `catch_up_from` after its delay. -/
def catchUpSlept (p : Process) : Option Process :=
  match p.startup with
  | .sleeping runtime replayStartBlock => some (p.catchUpLoop runtime replayStartBlock)
  | _ => none

/-- `ModuleRuntimeSupervisor.request_shutdown`. -/
def requestShutdown (p : Process) : Process :=
  { p.setSubscription p.moduleRuntime p.rawSubscription.requestShutdown with
    shutdownRequested := true
    moduleRuntimeRestarted := true }

/-! ### Waiters -/

/-- `wait_until_subscribed` awaits the subscription that is current when it is called. -/
def waitUntilSubscribed (p : Process) : Process :=
  { p with waiters := p.waiters ++ [p.moduleRuntime] }

/-- A `wait_until_subscribed` call returns when the subscription it awaits has started. -/
def waiterDone (p : Process) (runtime : ℕ) : Option Process :=
  if runtime ∈ p.waiters ∧ (p.subscriptions runtime).subscriptionsStarted = true then
    some { p with waiters := p.waiters.erase runtime }
  else none

/-- The process after an action, `none` when the action cannot happen. -/
def step (cfg : RunConfig) (p : Process) : Action → Option Process
  | .tick elapsed => some { p with now := p.now + elapsed }
  | .resumed => p.resumed
  | .subscribed i => p.subscribed i
  | .listenerEnded i unavailable => p.listenerEnded i unavailable
  | .liveLog i e => p.liveLog i e
  | .liveHead i head => p.liveHead i head
  | .liveBlockDone i => p.liveBlockDone i
  | .waitUntilSubscribed => some p.waitUntilSubscribed
  | .waiterDone runtime => p.waiterDone runtime
  | .supervisorWakes => p.supervisorWakes
  | .supervisorHead head => p.supervisorHead head
  | .supervisorReplay answer => p.supervisorReplay cfg answer
  | .aborted => p.aborted
  | .stopped => p.stopped
  | .startupWakes => p.startupWakes cfg
  | .initialHead head => p.initialHead head
  | .persisted => p.persisted
  | .catchUpHead head => p.catchUpHead head
  | .catchUpReplay answer => p.catchUpReplay cfg answer
  | .catchUpSlept => p.catchUpSlept
  | .requestShutdown => some p.requestShutdown

end Process

end Sentinel
