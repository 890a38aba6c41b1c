import Sentinel.Rpc.ReplayCoverage
import Sentinel.Supervisor.Ownership

/-!
# A process and its chain

A `World` is a process next to the node of a chain: the height of the chain, the height at
which the node activated each subscription, and the logs it has delivered to each of them.
Once a subscription is active the node delivers the logs of a block before the head after
it, and it answers a request for logs with the logs of the chain.
-/

namespace Sentinel

open Transition

structure Node where
  height : ℕ
  /-- the height at which the subscription of a runtime was activated -/
  since : ℕ → Option ℕ
  /-- the logs delivered to the subscription of a runtime -/
  delivered : ℕ → List Event
  /-- the height when the startup sequence asked for the head -/
  askedByStartup : ℕ
  /-- the height when the supervisor task asked for the head -/
  askedBySupervisor : ℕ

structure World where
  node : Node
  process : Process

/-- What can happen next in a world. -/
inductive Move where
  /-- a block is added to the chain -/
  | mined
  /-- the node activates the subscription of a runtime -/
  | activated (runtime : ℕ)
  /-- the process takes a step -/
  | act (a : Action)

/-! ### The node -/

namespace Node

/-- The node before the process asks for anything. -/
def initial (height : ℕ) : Node where
  height := height
  since := fun _ => none
  delivered := fun _ => []
  askedByStartup := 0
  askedBySupervisor := 0

/-- What the node remembers of a step of the process. -/
def after (node : Node) : Action → Node
  | .liveLog i e =>
      { node with delivered := Function.update node.delivered i (e :: node.delivered i) }
  | .startupWakes | .catchUpSlept => { node with askedByStartup := node.height }
  | .supervisorWakes => { node with askedBySupervisor := node.height }
  | _ => node

/-- The node has delivered to a runtime all logs after the activation of its subscription
and before the given block. -/
def DeliveredBefore (node : Node) (chain : Chain) (i number : ℕ) : Prop :=
  ∀ since ∈ node.since i, ∀ e ∈ chain.logsBetween (since + 1) (number - 1), e ∈ node.delivered i

instance (node : Node) (chain : Chain) (i number : ℕ) :
    Decidable (node.DeliveredBefore chain i number) := by
  unfold DeliveredBefore
  infer_instance

end Node

@[simp]
theorem Node.height_after (node : Node) (a : Action) :
  (node.after a).height = node.height
  := by
  cases a <;> rfl

@[simp]
theorem Node.since_after (node : Node) (a : Action) :
  (node.after a).since = node.since
  := by
  cases a <;> rfl

/-! ### A chain with one log -/

/-- The chain whose only matching log is the given one. -/
def Chain.single (e : Event) : Chain where
  logs number := if number = e.block then [e] else []
  block_eq number e' he' := by
    split at he'
    · simp_all
    · cases he'
  nodup number := by
    split <;> simp
  identity e' e'' he' he'' _ := by
    split at he' <;> split at he'' <;> simp_all

/-! ### Answers -/

/-- The node has no block above its height, and answers a replay as its chain says. -/
def AnswerHonest (chain : Chain) (batchSize : ℕ) (height : ℕ) (r : Replay)
    (answer : Answer) : Prop :=
  match answer with
  | .blockNumber n => n ≤ height
  | _ => r.AnswerOk chain batchSize answer

instance (chain : Chain) (batchSize : ℕ) (r : Replay) (answer : Answer) :
    Decidable (r.AnswerOk chain batchSize answer) := by
  unfold Replay.AnswerOk
  split <;> infer_instance

instance (chain : Chain) (batchSize height : ℕ) (r : Replay) (answer : Answer) :
    Decidable (AnswerHonest chain batchSize height r answer) := by
  unfold AnswerHonest
  split <;> infer_instance

theorem AnswerHonest.answerOk {chain : Chain} {batchSize height : ℕ} {r : Replay}
    {answer : Answer} (h : AnswerHonest chain batchSize height r answer) :
  r.AnswerOk chain batchSize answer
  := by
  cases answer with
  | blockNumber n => cases hpoint : r.point <;> simp [Replay.AnswerOk, hpoint]
  | _ => apply h

namespace World

/-- The world when the supervisor task was created, at some height of the chain. -/
def initial (cfg : RunConfig) (now : ℤ) (height : ℕ) : World where
  node := .initial height
  process := .initial cfg now

/-- The world after a move, `none` when the move cannot happen. -/
def step (cfg : RunConfig) (w : World) : Move → Option World
  | .mined => some { w with node := { w.node with height := w.node.height + 1 } }
  | .activated i =>
      match w.node.since i, (w.process.subscriptions i).listener with
      | none, .connecting =>
          some { w with node :=
            { w.node with since := Function.update w.node.since i (some w.node.height) } }
      | _, _ => none
  | .act a => (w.process.step cfg a).map fun process => ⟨w.node.after a, process⟩

/-- The node keeps to its chain: a subscription request returns after the activation, a log
is delivered once, a head only after the logs before it, and the answers are those of the
chain. -/
def Honest (chain : Chain) (cfg : RunConfig) (w : World) : Move → Prop
  | .act (.subscribed i) => (w.node.since i).isSome = true
  | .act (.liveLog i e) => e ∈ chain ∧ e.block ≤ w.node.height ∧ e ∉ w.node.delivered i
  | .act (.liveHead i head) => head ≤ w.node.height ∧ w.node.DeliveredBefore chain i head
  | .act (.supervisorHead (some head)) => head ≤ w.node.height
  | .act (.initialHead head) => head ≤ w.node.height
  | .act (.catchUpHead (some head)) => head ≤ w.node.height
  | .act (.supervisorReplay answer) =>
      match w.process.supervisor with
      | .replaying r => AnswerHonest chain cfg.blockBatchSize w.node.height r answer
      | _ => False
  | .act (.catchUpReplay answer) =>
      match w.process.startup with
      | .replaying _ _ r => AnswerHonest chain cfg.blockBatchSize w.node.height r answer
      | _ => False
  | _ => True

instance (chain : Chain) (cfg : RunConfig) (w : World) (m : Move) :
    Decidable (w.Honest chain cfg m) := by
  unfold Honest
  split
  all_goals first
    | infer_instance
    | (split <;> infer_instance)

/-- A move mines a block, activates a subscription whose request is under way, or is a step
of the process. -/
theorem step_cases {cfg : RunConfig} {w w' : World} {m : Move} (h : w.step cfg m = some w') :
  (m = .mined ∧ w' = { w with node := { w.node with height := w.node.height + 1 } })
    ∨ (∃ i, m = .activated i ∧ w.node.since i = none
      ∧ (w.process.subscriptions i).listener = .connecting
      ∧ w' = { w with node :=
          { w.node with since := Function.update w.node.since i (some w.node.height) } })
    ∨ (∃ a process, m = .act a ∧ w.process.step cfg a = some process
      ∧ w' = ⟨w.node.after a, process⟩)
  := by
  cases m with
  | mined =>
      left
      use rfl, (Option.some.inj h).symm
  | activated i =>
      right
      left
      simp only [step] at h
      split at h
      · rename_i hsince hlistener
        use i, rfl, hsince, hlistener, (Option.some.inj h).symm
      · cases h
  | act a =>
      right
      right
      obtain ⟨process, hprocess, rfl⟩ := Option.map_eq_some_iff.mp h
      use a, process, rfl, hprocess

/-- Every log after block `base` and up to the persisted block was passed to
`handle_event`. -/
def CheckpointCovered (chain : Chain) (base : ℕ) (w : World) : Prop :=
  ∀ e ∈ chain, base < e.block → e.block ≤ w.process.ledger.block → e ∈ w.process.ledger.handled

end World

/-! ### Regimes -/

/-- Where the replay of pending blocks is. -/
def SupervisorTask.regime (asked : ℕ) : SupervisorTask → Regime
  | readingHead => .reading asked
  | replaying r => .replaying r
  | _ => .owed

/-- Where the replay of `catch_up_from` on the current runtime is. -/
def StartupTask.regime (blockFrom moduleRuntime asked : ℕ) : StartupTask → Regime
  | waiting _ => if blockFrom ≠ 0 ∧ moduleRuntime = 0 then .owed else .live
  | readingHead runtime _ => if runtime = moduleRuntime then .reading asked else .live
  | replaying runtime _ r => if runtime = moduleRuntime then .replaying r else .live
  | sleeping runtime _ => if runtime = moduleRuntime then .owed else .live
  | _ => .live

/-- Where the current runtime is with its replay: that of the pending blocks, if blocks are
pending, and that of `catch_up_from` otherwise. -/
def World.regime (cfg : RunConfig) (w : World) : Regime :=
  if w.process.pendingReplayStartBlock.isSome then
    w.process.supervisor.regime w.node.askedBySupervisor
  else
    w.process.startup.regime cfg.blockFrom w.process.moduleRuntime w.node.askedByStartup

/-- No replay of the current runtime is owed or in progress. -/
def Regime.isLive : Regime → Bool
  | live => true
  | _ => false

theorem Regime.eq_live {regime : Regime} (h : regime.isLive = true) :
  regime = .live
  := by
  cases regime with
  | live => rfl
  | _ => cases h

end Sentinel
