import Sentinel.Transition
import Sentinel.Supervisor.Inversion

/-!
# The persisted block

`_advance_block` never takes the persisted block back, and neither does any step of a
process other than the one that stores the initial checkpoint: it writes the block before
the head it read, whatever the persisted block is by then.
-/

namespace Sentinel.Process

open Transition

variable {cfg : RunConfig} {p p' : Process}

@[simp]
theorem ledger_restartOrExit (p : Process) :
  p.restartOrExit.ledger = p.ledger
  := by
  obtain ⟨-, heq⟩ | ⟨-, heq⟩ := p.restartOrExit_cases
  · rw [heq]
    rfl
  · rw [heq]
    rfl

@[simp]
theorem ledger_catchUpLoop (p : Process) (runtime replayStartBlock : ℕ) :
  (p.catchUpLoop runtime replayStartBlock).ledger = p.ledger
  := by
  obtain ⟨-, heq⟩ | ⟨-, -, heq⟩ := p.catchUpLoop_cases runtime replayStartBlock
  · rw [heq]
    rfl
  · rw [heq]

@[simp]
theorem ledger_catchUpUnavailable (p : Process) (runtime replayStartBlock : ℕ) :
  (p.catchUpUnavailable runtime replayStartBlock).ledger = p.ledger
  := by
  obtain ⟨-, heq⟩ | ⟨-, -, heq⟩ := p.catchUpUnavailable_cases runtime replayStartBlock
  · rw [heq]
    rfl
  · rw [heq]

/-- A step other than that of the initial checkpoint only adds to the ledger. -/
theorem ledger_le_of_step {a : Action} (h : p.step cfg a = some p')
    (ha : ∀ head, a ≠ .initialHead head) :
  p.ledger ≤ p'.ledger
  := by
  cases a with
  | tick elapsed =>
      cases h
      apply le_refl
  | resumed =>
      obtain ⟨-, listener, -, ⟨-, rfl⟩ | ⟨-, rfl⟩⟩ := resumed_cases h <;> apply le_refl
  | subscribed i =>
      obtain ⟨-, rfl⟩ := subscribed_cases h
      apply le_refl
  | listenerEnded i unavailable =>
      obtain ⟨-, listener, health, -, -, rfl⟩ := listenerEnded_cases h
      apply le_refl
  | liveLog i e =>
      obtain ⟨-, s, handedOn, -, ⟨-, rfl⟩ | ⟨-, rfl⟩⟩ := liveLog_cases h
      · apply le_refl
      · apply p.ledger.le_handleEvent
  | liveHead i head =>
      obtain ⟨-, s, handedOn, health, -, -, ⟨-, rfl⟩ | ⟨-, -, rfl⟩⟩ := liveHead_cases h <;>
        apply le_refl
  | liveBlockDone i =>
      obtain ⟨number, -, rfl⟩ := liveBlockDone_cases h
      apply p.ledger.le_advanceBlock
  | waitUntilSubscribed =>
      cases h
      apply le_refl
  | waiterDone runtime =>
      obtain ⟨-, -, rfl⟩ := waiterDone_cases h
      apply le_refl
  | supervisorWakes =>
      obtain ⟨-, rfl | ⟨-, rfl⟩ | ⟨-, -, rfl⟩⟩ := supervisorWakes_cases h
      · apply le_refl
      · rw [ledger_restartOrExit]
      · apply le_refl
  | supervisorHead head =>
      obtain ⟨-, block, -, ⟨-, rfl⟩ | ⟨catchupHead, s, r, -, -, rfl⟩⟩ := supervisorHead_cases h
      · rw [ledger_restartOrExit]
      · apply le_refl
  | supervisorReplay answer =>
      obtain ⟨r, s, l, outcome, -, hstep, q, rfl, ⟨r', -, rfl⟩ | ⟨-, rfl⟩ | ⟨-, rfl⟩⟩ :=
        supervisorReplay_cases h
      · apply Replay.le_of_step hstep
      · apply Replay.le_of_step hstep
      · rw [ledger_restartOrExit]
        apply Replay.le_of_step hstep
  | aborted =>
      obtain ⟨block, -, rfl⟩ := aborted_cases h
      apply le_refl
  | stopped =>
      obtain ⟨-, rfl⟩ := stopped_cases h
      apply le_refl
  | startupWakes =>
      obtain ⟨runtime, -, -, ⟨-, rfl⟩ | ⟨-, rfl⟩⟩ := startupWakes_cases h
      · apply le_refl
      · rw [ledger_catchUpLoop]
        apply le_refl
  | initialHead head => cases ha head rfl
  | persisted =>
      obtain ⟨-, rfl⟩ := persisted_cases h
      apply le_refl
  | catchUpHead head =>
      obtain ⟨runtime, block, -, ⟨-, rfl⟩ | ⟨-, rfl⟩ | ⟨-, catchupHead, s, r, -, -, rfl⟩⟩ :=
        catchUpHead_cases h
      · rw [ledger_catchUpUnavailable]
      · apply le_refl
      · apply le_refl
  | catchUpReplay answer =>
      obtain ⟨runtime, block, r, s, l, outcome, -, hstep, q, rfl,
        ⟨r', -, rfl⟩ | ⟨-, rfl⟩ | ⟨-, rfl⟩⟩ := catchUpReplay_cases h
      · apply Replay.le_of_step hstep
      · apply Replay.le_of_step hstep
      · rw [ledger_catchUpUnavailable]
        apply Replay.le_of_step hstep
  | catchUpSlept =>
      obtain ⟨runtime, block, -, rfl⟩ := catchUpSlept_cases h
      rw [ledger_catchUpLoop]
  | requestShutdown =>
      cases h
      apply le_refl

/-- The checkpoint below a head read by `establish_initial_checkpoint` is not below the
persisted block. -/
def HeadNotBehind (p : Process) : Action → Prop
  | .initialHead head => p.ledger.block ≤ head - 1
  | _ => True

instance (p : Process) (a : Action) : Decidable (p.HeadNotBehind a) := by
  induction a using Action.casesOn with
  | initialHead head => exact inferInstanceAs (Decidable (p.ledger.block ≤ head - 1))
  | _ => exact isTrue trivial

/-- A step keeps or raises the persisted block, except that of an initial checkpoint below
the persisted block, which lowers it. -/
theorem block_le_iff_of_step {a : Action} (h : p.step cfg a = some p') :
  p.ledger.block ≤ p'.ledger.block ↔ p.HeadNotBehind a
  := by
  cases a with
  | initialHead head =>
      obtain ⟨-, rfl⟩ := initialHead_cases h
      rfl
  | _ =>
      simp only [HeadNotBehind, iff_true]
      apply (ledger_le_of_step h _).1
      rintro head ⟨⟩

/-- A run whose initial checkpoints are not below the persisted block never takes the
persisted block back. -/
theorem block_le_of_reaches (h : Reaches (step cfg) HeadNotBehind p p') :
  p.ledger.block ≤ p'.ledger.block
  := by
  apply h.monotone (f := fun p => p.ledger.block)
  intro p a p' hok hstep
  apply (block_le_iff_of_step hstep).mpr hok

/-- On fresh storage the checkpoint below head `6` raises the persisted block to `5`. -/
theorem block_le_of_reaches_freshStorage :
  ∃ p : Process, (initial .freshStorage 0).ledger.block ≤ p.ledger.block ∧ p.ledger.block = 5
  := by
  obtain ⟨p, hreach, hblock⟩ := exists_reaches_of_execute (step .freshStorage) HeadNotBehind
    (initial .freshStorage 0) [.resumed, .subscribed 0, .startupWakes, .initialHead 6]
    (fun p => p.ledger.block = 5) rfl
  use p, block_le_of_reaches hreach, hblock

/-- On fresh storage, a live head `10` that arrives while `establish_initial_checkpoint`
awaits the head raises the persisted block to `9`, and the answer `6` takes it back to
`5`. -/
theorem exists_block_lt_of_initialHead :
  ∃ p, Reaches (step .freshStorage) (fun _ _ => True) (initial .freshStorage 0) p
    ∧ p.ledger.block = 9
    ∧ ∃ p' ∈ p.step .freshStorage (.initialHead 6), p'.ledger.block = 5
  := by
  apply exists_reaches_of_execute (step .freshStorage) (fun _ _ => True)
    (initial .freshStorage 0)
    [.resumed, .subscribed 0, .startupWakes, .liveHead 0 10, .liveBlockDone 0]
  rfl

end Sentinel.Process
