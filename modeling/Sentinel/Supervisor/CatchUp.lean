import Sentinel.Supervisor.Sound

/-!
# The checkpoint after catch-up and reconnects

A process that catches up from the block after its persisted checkpoint passes every log up
to the persisted block to `handle_event`, in a run where live blocks are handed on only when
no replay is owed, where `catch_up_from` starts when no reconnect replay is pending, and where
the heads read for replays are not stale.
-/

namespace Sentinel

open Transition

namespace World

variable {chain : Chain} {cfg : RunConfig} {w : World}

/-- The node is honest, and replays are started and finished in order: live blocks wait for
the replay the current runtime owes, `catch_up_from` for the pending one, and the heads are
fresh. -/
def ReplaysInOrder (chain : Chain) (cfg : RunConfig) (w : World) (m : Move) : Prop :=
  w.Honest chain cfg m ∧ w.HeadsFresh m ∧ w.BlocksAfterReplay cfg m ∧ w.CatchUpStartsClear cfg m

instance (m : Move) : Decidable (w.ReplaysInOrder chain cfg m) := by
  unfold ReplaysInOrder
  infer_instance

/-- A process that starts from a persisted checkpoint is sound. -/
theorem sound_initial {now : ℤ} {height checkpoint : ℕ}
    (hpersisted : cfg.persistedBlock = some checkpoint) (hblock : cfg.blockFrom = checkpoint + 1) :
  Sound chain checkpoint cfg (initial cfg now height)
  where
  timely := timely_initial cfg now height
  wellFormed := Process.wellFormed_initial cfg now
  exclusive := nofun
  onStarted := Process.onStarted_initial cfg now
  startsAfter := ⟨fun _ _ => hblock, nofun⟩
  claimed := Process.claimed_initial (by rw [hpersisted]; apply le_refl)
  staged := by
    intro _
    have howed : (initial cfg now height).regime cfg = .owed := by
      simp [regime, initial, Process.initial, StartupTask.regime, hblock]
    rw [howed]
    rfl

/-- In a run whose replays are in order, every log after the persisted checkpoint the process
started from and up to the persisted block was passed to `handle_event`. -/
theorem checkpointCovered_of_reaches {now : ℤ} {height checkpoint : ℕ}
    (hpersisted : cfg.persistedBlock = some checkpoint) (hblock : cfg.blockFrom = checkpoint + 1)
    (h : Reaches (step cfg) (ReplaysInOrder chain cfg) (initial cfg now height) w) :
  w.CheckpointCovered chain checkpoint
  := by
  have hw : Sound chain checkpoint cfg w := by
    apply h.invariant (I := Sound chain checkpoint cfg)
    · rintro w m w' hw ⟨hok, hfresh, hlive, hclear⟩ hstep
      apply hw.of_step hok hfresh hlive hclear hstep
    · apply sound_initial hpersisted hblock
  apply hw.claimed.block

/-- A startup from checkpoint `5` on a chain with a log in block `6`: the first batch is
unavailable, the retry succeeds, and the next live head moves the persisted block on. -/
theorem checkpointCovered_fromCheckpoint :
  ∃ w : World, w.CheckpointCovered (.single (.first 6)) 5
    ∧ w.process.ledger.block = 9 ∧ w.process.ledger.handled = [.first 6]
  := by
  obtain ⟨w, hreach, hledger⟩ := exists_reaches_of_execute (step (.fromCheckpoint 5))
    (ReplaysInOrder (.single (.first 6)) (.fromCheckpoint 5)) (initial (.fromCheckpoint 5) 0 8)
    [.act .resumed, .activated 0, .act (.subscribed 0), .act .startupWakes,
      .act (.catchUpHead (some 8)), .act (.catchUpReplay .proceed),
      .act (.catchUpReplay (.raises .unavailable)), .act .catchUpSlept,
      .act (.catchUpHead (some 8)), .act (.catchUpReplay .proceed),
      .act (.catchUpReplay (.events [.first 6])), .act (.catchUpReplay .proceed),
      .act (.catchUpReplay .proceed), .mined, .mined, .act (.liveHead 0 10),
      .act (.liveBlockDone 0)]
    (fun w => w.process.ledger.block = 9 ∧ w.process.ledger.handled = [.first 6]) rfl
  exact ⟨w, checkpointCovered_of_reaches rfl rfl hreach, hledger⟩

/-- A startup from checkpoint `5` on a chain with a log in block `6`: a live head is handled
before `catch_up_from` starts, and moves the persisted block past the log. -/
theorem exists_not_checkpointCovered :
  ∃ w : World, Reaches (step (.fromCheckpoint 5))
      (Honest (.single (.first 6)) (.fromCheckpoint 5)) (initial (.fromCheckpoint 5) 0 7) w
    ∧ ¬ w.CheckpointCovered (.single (.first 6)) 5
  := by
  obtain ⟨w, hreach, hblock, hhandled⟩ := exists_reaches_of_execute (step (.fromCheckpoint 5))
    (Honest (.single (.first 6)) (.fromCheckpoint 5)) (initial (.fromCheckpoint 5) 0 7)
    [.act .resumed, .activated 0, .act (.subscribed 0), .mined, .act (.liveHead 0 8),
      .act (.liveBlockDone 0)]
    (fun w => w.process.ledger.block = 7 ∧ w.process.ledger.handled = []) rfl
  use w, hreach
  intro hcovered
  have hmem : Event.first 6 ∈ w.process.ledger.handled := by
    apply hcovered _ (by decide) (by decide)
    rw [hblock]
    decide
  rw [hhandled] at hmem
  cases hmem

end World

end Sentinel
