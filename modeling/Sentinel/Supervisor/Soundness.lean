import Sentinel.Supervisor.Started
import Sentinel.Supervisor.Timely

/-!
# What a process has covered

`Claimed` says of each number a process holds that the logs before it were handled: the
persisted block, the block a listener handles, the blocks replays start from. `Staged` says
of the current subscription what its regime promises. Every move of an honest node keeps
both, in a run where live blocks are handed on only when no replay is owed.
-/

namespace Sentinel

variable {chain : Chain} {base : ℕ} {cfg : RunConfig}

/-- The block from which `catch_up_from` replays. -/
def StartupTask.replayStartBlock : StartupTask → Option ℕ
  | readingHead _ block | replaying _ block _ | sleeping _ block => some block
  | _ => none

/-! ### Claims -/

namespace Process

variable {p p' : Process}

/-- The logs before each number the process holds were handled. -/
structure Claimed (chain : Chain) (base : ℕ) (cfg : RunConfig) (p : Process) : Prop where
  block : Covered chain base p.ledger p.ledger.block
  handling : ∀ i number, (p.subscriptions i).listener = .handling number →
    Covered chain base p.ledger number
  pending : ∀ block ∈ p.pendingReplayStartBlock, Covered chain base p.ledger (block - 1)
  aborting : ∀ block, p.supervisor = .aborting block → Covered chain base p.ledger (block - 1)
  supervisor : ∀ r, p.supervisor = .replaying r → r.Claims chain base cfg.blockBatchSize p.ledger
  catchUp : ∀ block ∈ p.startup.replayStartBlock, Covered chain base p.ledger (block - 1)
  startup : ∀ runtime block r, p.startup = .replaying runtime block r →
    r.Claims chain base cfg.blockBatchSize p.ledger

/-- Startup does not start from the head, and `catch_up_from` starts after block `base`. -/
structure StartsAfter (base : ℕ) (cfg : RunConfig) (p : Process) : Prop where
  waiting : ∀ runtime, p.startup = .waiting runtime → cfg.blockFrom = base + 1
  ne_readingInitialHead : p.startup ≠ .readingInitialHead

namespace StartsAfter

/-- The startup sequence is where it was. -/
theorem of_eq (hp : p.StartsAfter base cfg) (h : p'.startup = p.startup) :
  p'.StartsAfter base cfg
  where
  waiting := by
    rw [h]
    apply hp.waiting
  ne_readingInitialHead := by
    rw [h]
    apply hp.ne_readingInitialHead

theorem catchUpLoop (p : Process) (runtime replayStartBlock : ℕ) :
  (p.catchUpLoop runtime replayStartBlock).StartsAfter base cfg
  := by
  obtain ⟨-, heq⟩ | ⟨-, -, heq⟩ := p.catchUpLoop_cases runtime replayStartBlock <;>
  · rw [heq]
    exact ⟨nofun, nofun⟩

theorem catchUpUnavailable (p : Process) (runtime replayStartBlock : ℕ) :
  (p.catchUpUnavailable runtime replayStartBlock).StartsAfter base cfg
  := by
  obtain ⟨-, heq⟩ | ⟨-, -, heq⟩ := p.catchUpUnavailable_cases runtime replayStartBlock <;>
  · rw [heq]
    exact ⟨nofun, nofun⟩

theorem of_step {a : Action} (hp : p.StartsAfter base cfg) (h : p.step cfg a = some p') :
  p'.StartsAfter base cfg
  := by
  by_cases ha : a.background = true
  · exact hp.of_eq (sameControl_of_background h ha).startup
  cases a with
  | resumed =>
      obtain ⟨-, listener, -, ⟨-, rfl⟩ | ⟨-, rfl⟩⟩ := resumed_cases h <;>
      · exact hp.of_eq rfl
  | supervisorWakes =>
      obtain ⟨-, rfl | ⟨-, rfl⟩ | ⟨-, -, rfl⟩⟩ := supervisorWakes_cases h
      · exact hp.of_eq rfl
      · exact hp.of_eq (startup_restartOrExit p)
      · exact hp.of_eq rfl
  | supervisorHead head =>
      obtain ⟨-, block, -, ⟨-, rfl⟩ | ⟨catchupHead, s, r, -, -, rfl⟩⟩ := supervisorHead_cases h
      · exact hp.of_eq (startup_restartOrExit p)
      · exact hp.of_eq rfl
  | supervisorReplay answer =>
      obtain ⟨r, s, l, outcome, -, -, q, rfl, ⟨r', -, rfl⟩ | ⟨-, rfl⟩ | ⟨-, rfl⟩⟩ :=
        supervisorReplay_cases h
      · exact hp.of_eq rfl
      · exact hp.of_eq rfl
      · exact hp.of_eq (startup_restartOrExit _)
  | aborted =>
      obtain ⟨block, -, rfl⟩ := aborted_cases h
      exact hp.of_eq rfl
  | stopped =>
      obtain ⟨-, rfl⟩ := stopped_cases h
      exact hp.of_eq rfl
  | startupWakes =>
      obtain ⟨runtime, hstartup, -, ⟨hblock, -⟩ | ⟨-, rfl⟩⟩ := startupWakes_cases h
      · have hwaiting := hp.waiting runtime hstartup
        omega
      · apply catchUpLoop
  | initialHead head =>
      obtain ⟨hstartup, -⟩ := initialHead_cases h
      cases hp.ne_readingInitialHead hstartup
  | persisted =>
      obtain ⟨-, rfl⟩ := persisted_cases h
      exact ⟨nofun, nofun⟩
  | catchUpHead head =>
      obtain ⟨runtime, block, -, ⟨-, rfl⟩ | ⟨-, rfl⟩ | ⟨-, catchupHead, s, r, -, -, rfl⟩⟩ :=
        catchUpHead_cases h
      · apply catchUpUnavailable
      · exact ⟨nofun, nofun⟩
      · exact ⟨nofun, nofun⟩
  | catchUpReplay answer =>
      obtain ⟨runtime, block, r, s, l, outcome, -, -, q, rfl,
        ⟨r', -, rfl⟩ | ⟨-, rfl⟩ | ⟨-, rfl⟩⟩ := catchUpReplay_cases h
      · exact ⟨nofun, nofun⟩
      · exact ⟨nofun, nofun⟩
      · apply catchUpUnavailable
  | catchUpSlept =>
      obtain ⟨runtime, block, -, rfl⟩ := catchUpSlept_cases h
      apply catchUpLoop
  | requestShutdown =>
      cases h
      exact hp.of_eq rfl
  | _ => cases ha rfl

end StartsAfter

theorem claimed_initial {now : ℤ} (hbase : cfg.persistedBlock.getD 0 ≤ base) :
  (initial cfg now).Claimed chain base cfg
  where
  block := Covered.of_le_base hbase
  handling := nofun
  pending := nofun
  aborting := nofun
  supervisor := nofun
  catchUp := nofun
  startup := nofun

/-- No listener but those of a process handles a block after one of them was replaced. -/
theorem handling_update {subscriptions : ℕ → Subscription} {i : ℕ} {s : Subscription}
    {P : ℕ → Prop}
    (h : ∀ i number, (subscriptions i).listener = .handling number → P number)
    (hs : ∀ number, s.listener = .handling number → P number) (j number : ℕ)
    (hj : (Function.update subscriptions i s j).listener = .handling number) :
  P number
  := by
  by_cases heq : j = i
  · subst heq
    rw [Function.update_self] at hj
    apply hs number hj
  · rw [Function.update_of_ne heq] at hj
    apply h j number hj

namespace Claimed

/-- The tasks stay where they are while the ledger grows. -/
theorem of_sameControl (hp : p.Claimed chain base cfg) (h : p.SameControl p')
    (hl : p.ledger ≤ p'.ledger) (hblock : Covered chain base p'.ledger p'.ledger.block)
    (hhandling : ∀ i number, (p'.subscriptions i).listener = .handling number →
      Covered chain base p'.ledger number) :
  p'.Claimed chain base cfg
  where
  block := hblock
  handling := hhandling
  pending := by
    rw [h.pendingReplayStartBlock]
    intro block hpending
    apply (hp.pending block hpending).of_le hl
  aborting := by
    rw [h.supervisor]
    intro block hsupervisor
    apply (hp.aborting block hsupervisor).of_le hl
  supervisor := by
    rw [h.supervisor]
    intro r hsupervisor
    apply (hp.supervisor r hsupervisor).of_le hl
  catchUp := by
    rw [h.startup]
    intro block hstartup
    apply (hp.catchUp block hstartup).of_le hl
  startup := by
    rw [h.startup]
    intro runtime block r hstartup
    apply (hp.startup runtime block r hstartup).of_le hl

theorem setSubscription (hp : p.Claimed chain base cfg) {i : ℕ} {s : Subscription}
    (hs : ∀ number, s.listener = .handling number → Covered chain base p.ledger number) :
  (p.setSubscription i s).Claimed chain base cfg
  := { hp with handling := handling_update hp.handling hs }

/-- A subscription is replaced by one with the same listener. -/
theorem of_listener (hp : p.Claimed chain base cfg) {i : ℕ} {s : Subscription}
    (hs : s.listener = (p.subscriptions i).listener) :
  (p.setSubscription i s).Claimed chain base cfg
  := by
  apply hp.setSubscription
  intro number hnumber
  apply hp.handling i number (hs ▸ hnumber)

/-- The supervisor goes where it is not in a replay, and starts no replacement. -/
theorem of_supervisor (hp : p.Claimed chain base cfg) {t : SupervisorTask}
    (haborting : ∀ block, t ≠ .aborting block)
    (hreplaying : ∀ r, t ≠ .replaying r) :
  { p with supervisor := t }.Claimed chain base cfg
  := { hp with
    aborting := fun block h => absurd h (haborting block)
    supervisor := fun r h => absurd h (hreplaying r) }

theorem cancelListener (hp : p.Claimed chain base cfg) (i : ℕ) :
  (p.cancelListener i).Claimed chain base cfg
  := by
  apply hp.setSubscription
  intro number h
  apply absurd h (Listener.cancel_ne_handling _ number)

theorem restartOrExit (hp : p.Claimed chain base cfg) :
  p.restartOrExit.Claimed chain base cfg
  := by
  obtain ⟨-, heq⟩ | ⟨-, heq⟩ := p.restartOrExit_cases
  · rw [heq]
    have hp' := hp.cancelListener p.moduleRuntime
    exact hp'.of_supervisor nofun nofun
  · rw [heq]
    have hp' := hp.of_listener (i := p.moduleRuntime) (s := p.rawSubscription.requestShutdown) rfl
    exact { hp' with
      aborting := by
        rintro _ ⟨⟩
        apply hp.block.mono
        omega
      supervisor := nofun }

/-- The startup sequence goes where it replays from a block before which logs were
handled. -/
theorem of_startup (hp : p.Claimed chain base cfg) {t : StartupTask}
    (hcatchUp : ∀ block ∈ t.replayStartBlock, Covered chain base p.ledger (block - 1))
    (hstartup : ∀ runtime block r, t ≠ .replaying runtime block r) :
  { p with startup := t }.Claimed chain base cfg
  := { hp with
    catchUp := hcatchUp
    startup := fun runtime block r h => absurd h (hstartup runtime block r) }

theorem catchUpReturned (hp : p.Claimed chain base cfg) :
  p.catchUpReturned.Claimed chain base cfg
  := by
  have hp' := hp.of_startup (t := .finished) nofun nofun
  exact { hp' with }

theorem catchUpLoop (hp : p.Claimed chain base cfg) (runtime : ℕ) {replayStartBlock : ℕ}
    (h : Covered chain base p.ledger (replayStartBlock - 1)) :
  (p.catchUpLoop runtime replayStartBlock).Claimed chain base cfg
  := by
  obtain ⟨-, heq⟩ | ⟨-, -, heq⟩ := p.catchUpLoop_cases runtime replayStartBlock
  · rw [heq]
    apply hp.catchUpReturned
  · rw [heq]
    refine hp.of_startup ?_ nofun
    rintro _ ⟨⟩
    apply h

/-- A retry starts after the block of the last attempt or after the persisted block. -/
theorem catchUpUnavailable (hp : p.Claimed chain base cfg) (runtime : ℕ)
    {replayStartBlock : ℕ} (h : Covered chain base p.ledger (replayStartBlock - 1)) :
  (p.catchUpUnavailable runtime replayStartBlock).Claimed chain base cfg
  := by
  obtain ⟨-, heq⟩ | ⟨-, -, heq⟩ := p.catchUpUnavailable_cases runtime replayStartBlock
  · rw [heq]
    apply hp.catchUpReturned
  · rw [heq]
    refine hp.of_startup ?_ nofun
    rintro _ ⟨⟩
    obtain hle | hle := Nat.le_total replayStartBlock (p.ledger.block + 1)
    · rw [Nat.max_eq_right hle]
      apply hp.block
    · rw [Nat.max_eq_left hle]
      apply h

/-- A replay took a step. -/
theorem replayStepped (hp : p.Claimed chain base cfg) {r : Replay} {i : ℕ} {answer : Answer}
    {s : Subscription} {l : Ledger} {outcome : Outcome} (progress : Bool)
    (h : r.step cfg.blockBatchSize (p.subscriptions i) p.ledger answer = some (s, l, outcome))
    (hblock : Covered chain base l l.block) :
  (p.replayStepped i s l progress).Claimed chain base cfg
  := by
  have hl := Replay.le_of_step h
  obtain ⟨buffer, rfl⟩ := Replay.subscription_eq_of_step h
  have hp' := hp.of_listener (i := i) (s := { p.subscriptions i with
    bufferedSubscriptionItems := buffer }) rfl
  exact {
    block := hblock
    handling := fun j number hj => (hp'.handling j number hj).of_le hl
    pending := fun block hpending => (hp.pending block hpending).of_le hl
    aborting := fun block hsupervisor => (hp.aborting block hsupervisor).of_le hl
    supervisor := fun r hsupervisor => (hp.supervisor r hsupervisor).of_le hl
    catchUp := fun block hstartup => (hp.catchUp block hstartup).of_le hl
    startup := fun runtime block r hstartup => (hp.startup runtime block r hstartup).of_le hl }

end Claimed

end Process

end Sentinel
