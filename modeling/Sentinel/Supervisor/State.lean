import Sentinel.Health
import Sentinel.Rpc.Replay
import Mathlib.Logic.Function.Basic

/-!
# The state of a process

A process runs the startup sequence of `_run` next to the supervisor task, which owns the
current module runtime and replaces it when its subscription fails. `Process` is what both
tasks share, together with the place where each of them awaits. Module runtimes are numbered
in the order in which they are installed, and stand for their subscriptions.
-/

namespace Sentinel

/-- `_resolve_backfill_start_block`: where catch-up starts, `0` to start from the head. -/
def resolveBackfillStartBlock (configuredBlock persistedBlock : Option ℕ) : ℕ :=
  match configuredBlock, persistedBlock with
  | some block, _ => block
  | none, none => 0
  | none, some checkpoint => if checkpoint > 0 then checkpoint + 1 else 0

/-- What a process is started with. -/
structure RunConfig where
  configuredBlock : Option ℕ
  persistedBlock : Option ℕ
  blockBatchSize : ℕ
  blockBatchSize_pos : 0 < blockBatchSize

/-- The resolved backfill start block. -/
def RunConfig.blockFrom (cfg : RunConfig) : ℕ :=
  resolveBackfillStartBlock cfg.configuredBlock cfg.persistedBlock

/-- A process started on fresh storage. -/
def RunConfig.freshStorage : RunConfig :=
  { configuredBlock := none, persistedBlock := none, blockBatchSize := 10,
    blockBatchSize_pos := by decide }

/-- A process started from a persisted checkpoint. -/
def RunConfig.fromCheckpoint (checkpoint : ℕ) : RunConfig :=
  { configuredBlock := none, persistedBlock := some checkpoint, blockBatchSize := 10,
    blockBatchSize_pos := by decide }

/-- Where the task of `ModuleRuntimeSupervisor.subscribe` awaits. -/
inductive SupervisorTask where
  /-- `resume_pending_aggregations` -/
  | resuming
  /-- the end of the listener, a restart, or the subscription, to replay pending blocks -/
  | waitingSubscribed
  /-- `get_block_number`, for the replay of pending blocks -/
  | readingHead
  /-- the replay of pending blocks -/
  | replaying (r : Replay)
  /-- the end of the listener, or a restart -/
  | listening
  /-- `abort` of the failed subscription, with the block to replay from -/
  | aborting (replayStartBlock : ℕ)
  /-- `stop` of the subscription and the end of its listener -/
  | stopping
  /-- nothing: `subscribe` has returned -/
  | exited

/-- Where the startup sequence awaits. -/
inductive StartupTask where
  /-- `_wait_for_subscription_start` -/
  | waiting (runtime : ℕ)
  /-- `get_block_number` in `establish_initial_checkpoint` -/
  | readingInitialHead
  /-- the persistence of the initial checkpoint -/
  | persisting
  /-- `get_block_number` in `catch_up_from` -/
  | readingHead (runtime replayStartBlock : ℕ)
  /-- `replay_blocks` in `catch_up_from` -/
  | replaying (runtime replayStartBlock : ℕ) (r : Replay)
  /-- the delay before `catch_up_from` retries -/
  | sleeping (runtime replayStartBlock : ℕ)
  /-- the supervisor task: startup is complete -/
  | finished

namespace SupervisorTask

/-- The task is on its way to the replay of pending blocks, or in it. -/
def owesReplay : SupervisorTask → Bool
  | waitingSubscribed | readingHead | replaying _ => true
  | _ => false

end SupervisorTask

namespace StartupTask

/-- The runtime that `catch_up_from` catches up, while it does. -/
def catchUpRuntime : StartupTask → Option ℕ
  | readingHead runtime _ | replaying runtime _ _ | sleeping runtime _ => some runtime
  | _ => none

end StartupTask

structure Process where
  ledger : Ledger
  health : HealthState
  now : ℤ
  shutdownRequested : Bool
  moduleRuntimeRestarted : Bool
  catchupUntilBlock : Option ℕ
  pendingReplayStartBlock : Option ℕ
  moduleRuntime : ℕ
  subscriptions : ℕ → Subscription
  supervisor : SupervisorTask
  startup : StartupTask
  /-- the runtimes whose subscription a `wait_until_subscribed` call awaits -/
  waiters : List ℕ
  /-- what `establish_initial_checkpoint` stored -/
  initialCheckpoint : Option ℕ

namespace Process

/-- The process right after the supervisor task was created. -/
def initial (cfg : RunConfig) (now : ℤ) : Process where
  ledger := { block := cfg.persistedBlock.getD 0, handled := [], fetched := [] }
  health := (HealthState.initial now).markPollingStarted now
  now := now
  shutdownRequested := false
  moduleRuntimeRestarted := false
  catchupUntilBlock := none
  pendingReplayStartBlock := none
  moduleRuntime := 0
  subscriptions := fun _ => .new none
  supervisor := .resuming
  startup := .waiting 0
  waiters := []
  initialCheckpoint := none

variable (p : Process)

/-- The subscription of the current module runtime. -/
def rawSubscription : Subscription :=
  p.subscriptions p.moduleRuntime

/-- Replace the subscription of a runtime. -/
def setSubscription (i : ℕ) (s : Subscription) : Process :=
  { p with subscriptions := Function.update p.subscriptions i s }

/-- Update the health state. -/
def markHealth (mark : HealthState → HealthState) : Process :=
  { p with health := mark p.health }

/-- Whether the process answers that it is ready. -/
def ready : Bool :=
  (p.health.snapshot p.now).ready

/-- The runtimes whose subscription has a `replay_blocks` call in progress, once for each
call. -/
def replaysInProgress : List ℕ :=
  (match p.startup with
    | .replaying runtime _ _ => [runtime]
    | _ => [])
  ++ (match p.supervisor with
    | .replaying _ => [p.moduleRuntime]
    | _ => [])

/-- The runtimes whose subscription a `wait_until_subscribed` call awaits, that of
`_wait_for_subscription_start` included. -/
def blockedWaiters : List ℕ :=
  (match p.startup with
    | .waiting runtime => [runtime]
    | _ => [])
  ++ p.waiters

end Process

end Sentinel
