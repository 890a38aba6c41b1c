import Sentinel.Storage.DigestStore
import Sentinel.Transition
import Mathlib

/-!
# The scheduled digest job

The job that flushes the digest of the deposited signing keys once a day. A process schedules
it when it starts, and queues a recovery run when the last boundary has not been completed. Runs
of the job may overlap: they wait for a lock that lives as long as the process. The marker of the
last completed boundary is persisted and outlives the process.

A point in time is the number of microseconds since a midnight in UTC, and the clock may show
any at each reading.
-/

namespace Sentinel

open Transition

/-! ### Boundaries -/

/-- The number of microseconds of a day. -/
def day : ℤ := 86400000000

/-- A time of the day in UTC, in microseconds. -/
structure DayTime where
  micros : ℤ
  nonneg : 0 ≤ micros
  lt_day : micros < day

/-- The last boundary that is not after `now`. -/
def latestScheduledFor (now : ℤ) (scheduledTime : DayTime) : ℤ :=
  let candidate := now / day * day + scheduledTime.micros
  if candidate > now then candidate - day else candidate

/-- The boundary is not after `now`, and the next one is. -/
theorem latestScheduledFor_bounds (now : ℤ) (scheduledTime : DayTime) :
  latestScheduledFor now scheduledTime ≤ now
    ∧ now < latestScheduledFor now scheduledTime + day
  := by
  have hnonneg := scheduledTime.nonneg
  have hlt := scheduledTime.lt_day
  unfold latestScheduledFor day
  unfold day at hlt
  dsimp only
  split_ifs <;> omega

/-! ### The store of the completed boundaries -/

/-- The completion markers of the scheduled jobs. -/
structure ScheduledJobStore where
  records : Dict String ℤ

namespace ScheduledJobStore

/-- The last completed boundary of a job. -/
def completedFor (store : ScheduledJobStore) (jobName : String) : Option ℤ :=
  store.records.get? jobName

/-- Record a completed boundary of a job. -/
def markCompleted (store : ScheduledJobStore) (jobName : String) (scheduledFor : ℤ) :
    ScheduledJobStore where
  records := store.records.set jobName scheduledFor

@[simp]
theorem completedFor_markCompleted (store : ScheduledJobStore) (jobName : String)
    (scheduledFor : ℤ) :
  (store.markCompleted jobName scheduledFor).completedFor jobName = some scheduledFor
  := by
  apply Dict.get?_set_self

end ScheduledJobStore

/-! ### The job -/

def depositDigestJobName : String := "deposit_digest"

/-- The name of the digest that the job flushes. -/
def depositedSigningKeys : String := "deposited_signing_keys"

/-- A call of `flush_digest` that is awaited. -/
structure DigestFlush where
  /-- the boundary that is marked when the call returns -/
  scheduledFor : ℤ
  throughBlock : ℕ

/-- The persisted state that the job reads and writes, and the runs of the job in the process. -/
structure JobContext where
  scheduledJobs : ScheduledJobStore
  digests : DigestStore
  block : ℕ
  /-- whether the process has scheduled its jobs -/
  scheduled : Bool
  /-- the recovery runs that are queued -/
  recovery : ℕ
  /-- the runs of the job that wait for the lock -/
  waiting : ℕ
  /-- the run that has the lock -/
  flushing : Option DigestFlush
  /-- the boundaries whose flush succeeded, newest first -/
  flushed : List ℤ

namespace JobContext

variable {time : DayTime} {s t u : JobContext}

/-- The boundary up to which the job is completed. -/
def completedFor (s : JobContext) : Option ℤ :=
  s.scheduledJobs.completedFor depositDigestJobName

/-- The same state with a boundary marked as completed. -/
def markCompleted (s : JobContext) (scheduledFor : ℤ) : JobContext :=
  { s with
    scheduledJobs := s.scheduledJobs.markCompleted depositDigestJobName scheduledFor }

@[simp]
theorem completedFor_markCompleted (s : JobContext) (scheduledFor : ℤ) :
  (s.markCompleted scheduledFor).completedFor = some scheduledFor
  := by
  apply ScheduledJobStore.completedFor_markCompleted

/-- A process starts: what the last one had in memory is gone. -/
def started (s : JobContext) : JobContext :=
  { s with scheduled := false, recovery := 0, waiting := 0, flushing := none }

/-- The jobs of the process are scheduled. The first process of all has nothing to recover
unless the digest has events. -/
def schedule (time : DayTime) (s : JobContext) (now : ℤ) : JobContext :=
  let latestDue := latestScheduledFor now time
  let pendingDigest := s.digests.events depositedSigningKeys
  if s.completedFor = none ∧ pendingDigest = [] then
    { s.markCompleted latestDue with scheduled := true }
  else if s.completedFor.all (· < latestDue) then
    { s with scheduled := true, recovery := s.recovery + 1 }
  else { s with scheduled := true }

/-- A run of the job has the lock: it calls `flush_digest` unless the boundary is completed. -/
def flushDepositDigest (time : DayTime) (s : JobContext) (now : ℤ) : JobContext :=
  let scheduledFor := latestScheduledFor now time
  if s.completedFor.any (· ≥ scheduledFor) then s
  else { s with flushing := some ⟨scheduledFor, s.block⟩ }

/-- The call of `flush_digest` returns. -/
def flushReturned (s : JobContext) (flush : DigestFlush) : JobContext :=
  { s.markCompleted flush.scheduledFor with
    flushing := none
    flushed := flush.scheduledFor :: s.flushed }

end JobContext

/-- What can happen next. Each reading of the clock is part of the action. -/
inductive JobAction where
  /-- a process starts, whatever the last one was at -/
  | started
  /-- `schedule` -/
  | schedule (now : ℤ)
  /-- the daily job is triggered -/
  | daily
  /-- a queued recovery run is triggered -/
  | recovery
  /-- a run of the job gets the lock and goes on to its first `await` -/
  | acquired (now : ℤ)
  /-- a run of the job is cancelled while it waits for the lock -/
  | cancelled
  /-- the awaited call of `flush_digest` returns -/
  | flushReturned
  /-- the awaited call of `flush_digest` raises, or is cancelled -/
  | flushRaised
  /-- other tasks change the digests and the block -/
  | processed (digests : DigestStore) (block : ℕ)

namespace JobContext

variable {time : DayTime} {s t u : JobContext}

/-- A step, `none` where the action is not possible. -/
def step (time : DayTime) (s : JobContext) : JobAction → Option JobContext
  | .started => some s.started
  | .schedule now => if s.scheduled then none else some (s.schedule time now)
  | .daily => if s.scheduled then some { s with waiting := s.waiting + 1 } else none
  | .recovery =>
      if 0 < s.recovery then
        some { s with recovery := s.recovery - 1, waiting := s.waiting + 1 }
      else none
  | .acquired now =>
      if 0 < s.waiting ∧ s.flushing.isNone then
        some ({ s with waiting := s.waiting - 1 }.flushDepositDigest time now)
      else none
  | .cancelled => if 0 < s.waiting then some { s with waiting := s.waiting - 1 } else none
  | .flushReturned => s.flushing.map s.flushReturned
  | .flushRaised => s.flushing.map fun _ => { s with flushing := none }
  | .processed digests block => some { s with digests := digests, block := block }

/-- Every run of the job over all processes. -/
abbrev Run (time : DayTime) : JobContext → JobContext → Prop :=
  Reaches (step time) fun _ _ => True

/-- The marker in the order in which no marker comes first. -/
def marker (s : JobContext) : WithBot ℤ :=
  s.completedFor

/-! ### What a step can do -/

/-- What a step does to the marker, the awaited flush and the flushed boundaries. -/
inductive StepTo (s t : JobContext) : Prop
  /-- a run of the job may end, and nothing else -/
  | kept (hcompleted : t.completedFor = s.completedFor)
      (hflushing : t.flushing = s.flushing ∨ t.flushing = none) (hflushed : t.flushed = s.flushed)
  /-- the first process of all marks a boundary -/
  | first (scheduledFor : ℤ) (hscheduled : s.scheduled = false) (hnone : s.completedFor = none)
      (hcompleted : t.completedFor = some scheduledFor) (hflushing : t.flushing = s.flushing)
      (hflushed : t.flushed = s.flushed)
  /-- a flush of a boundary that is not completed starts -/
  | flushing (flush : DigestFlush) (hlt : s.marker < flush.scheduledFor)
      (hcompleted : t.completedFor = s.completedFor) (hflushing : t.flushing = some flush)
      (hflushed : t.flushed = s.flushed)
  /-- the awaited flush is completed -/
  | flushed (flush : DigestFlush) (hflush : s.flushing = some flush)
      (hcompleted : t.completedFor = some flush.scheduledFor) (hflushing : t.flushing = none)
      (hflushed : t.flushed = flush.scheduledFor :: s.flushed)

/-- A boundary that is not completed is after the marker. -/
theorem marker_lt_of_any_eq_false {scheduledFor : ℤ}
    (h : s.completedFor.any (· ≥ scheduledFor) = false) :
  s.marker < scheduledFor
  := by
  unfold marker
  cases hcompleted : s.completedFor with
  | none => apply WithBot.bot_lt_coe
  | some completedFor =>
      apply WithBot.coe_lt_coe.mpr
      simpa [hcompleted] using h

/-- Every step is one of these. -/
theorem stepTo_of_step {a : JobAction} (h : step time s a = some t) :
  StepTo s t
  := by
  cases a with
  | started =>
      obtain rfl := Option.some.inj h
      exact .kept rfl (.inr rfl) rfl
  | schedule now =>
      rw [step] at h
      split at h
      next => cases h
      next hscheduled =>
          obtain rfl := Option.some.inj h
          rw [schedule]
          split_ifs with hfirst
          · refine .first (latestScheduledFor now time) ?_ hfirst.1 ?_ rfl rfl
            · simpa using hscheduled
            · apply completedFor_markCompleted
          · exact .kept rfl (.inl rfl) rfl
          · exact .kept rfl (.inl rfl) rfl
  | daily =>
      obtain ⟨-, h⟩ := Option.ite_some_none_eq_some.mp h
      subst h
      exact .kept rfl (.inl rfl) rfl
  | recovery =>
      obtain ⟨-, h⟩ := Option.ite_some_none_eq_some.mp h
      subst h
      exact .kept rfl (.inl rfl) rfl
  | acquired now =>
      obtain ⟨-, h⟩ := Option.ite_some_none_eq_some.mp h
      subst h
      rw [flushDepositDigest]
      split_ifs with hcompleted
      · exact .kept rfl (.inl rfl) rfl
      · refine .flushing ⟨latestScheduledFor now time, s.block⟩ ?_ rfl rfl rfl
        apply marker_lt_of_any_eq_false
        apply Bool.eq_false_iff.mpr hcompleted
  | cancelled =>
      obtain ⟨-, h⟩ := Option.ite_some_none_eq_some.mp h
      subst h
      exact .kept rfl (.inl rfl) rfl
  | flushReturned =>
      obtain ⟨flush, hflush, rfl⟩ := Option.map_eq_some_iff.mp h
      refine .flushed flush hflush ?_ rfl rfl
      apply completedFor_markCompleted
  | flushRaised =>
      obtain ⟨flush, -, rfl⟩ := Option.map_eq_some_iff.mp h
      exact .kept rfl (.inr rfl) rfl
  | processed digests block =>
      obtain rfl := Option.some.inj h
      exact .kept rfl (.inl rfl) rfl

/-- A process that has not scheduled its jobs has no run of them. -/
def Idle (s : JobContext) : Prop :=
  s.scheduled = false → s.recovery = 0 ∧ s.waiting = 0 ∧ s.flushing = none

/-- A step keeps a process idle until its jobs are scheduled. -/
theorem idle_of_step {a : JobAction} (hs : s.Idle) (h : step time s a = some t) :
  t.Idle
  := by
  intro hscheduled
  cases a with
  | started =>
      obtain rfl := Option.some.inj h
      exact ⟨rfl, rfl, rfl⟩
  | schedule now =>
      rw [step] at h
      split at h
      next => cases h
      next =>
          obtain rfl := Option.some.inj h
          rw [schedule] at hscheduled
          split_ifs at hscheduled
  | daily =>
      obtain ⟨htrue, h⟩ := Option.ite_some_none_eq_some.mp h
      subst h
      cases htrue.symm.trans hscheduled
  | recovery =>
      obtain ⟨hpos, h⟩ := Option.ite_some_none_eq_some.mp h
      subst h
      have := (hs hscheduled).1
      omega
  | acquired now =>
      obtain ⟨⟨hpos, -⟩, h⟩ := Option.ite_some_none_eq_some.mp h
      subst h
      have hs : s.scheduled = false := by
        rw [flushDepositDigest] at hscheduled
        split_ifs at hscheduled <;> exact hscheduled
      have := (‹s.Idle› hs).2.1
      omega
  | cancelled =>
      obtain ⟨hpos, h⟩ := Option.ite_some_none_eq_some.mp h
      subst h
      have := (hs hscheduled).2.1
      omega
  | flushReturned =>
      obtain ⟨flush, hflush, rfl⟩ := Option.map_eq_some_iff.mp h
      cases (hs hscheduled).2.2.symm.trans hflush
  | flushRaised =>
      obtain ⟨flush, hflush, rfl⟩ := Option.map_eq_some_iff.mp h
      cases (hs hscheduled).2.2.symm.trans hflush
  | processed digests block =>
      obtain rfl := Option.some.inj h
      apply hs hscheduled

/-! ### Every run -/

/-- What every run keeps: the flushed boundaries are different and none is after the marker,
and the boundary of an awaited flush is after it. -/
structure Inv (s : JobContext) : Prop where
  idle : s.Idle
  flushed_le : ∀ scheduledFor ∈ s.flushed, (scheduledFor : WithBot ℤ) ≤ s.marker
  nodup : s.flushed.Nodup
  marker_lt : ∀ flush, s.flushing = some flush → s.marker < flush.scheduledFor

/-- A step from a state that keeps this does not decrease the marker. -/
theorem Inv.marker_le {a : JobAction} (hs : s.Inv) (h : step time s a = some t) :
  s.marker ≤ t.marker
  := by
  cases stepTo_of_step h with
  | kept hcompleted =>
      have hmarker : t.marker = s.marker := hcompleted
      apply le_of_eq hmarker.symm
  | first scheduledFor _ hnone =>
      have hmarker : s.marker = ⊥ := hnone
      rw [hmarker]
      apply bot_le
  | flushing flush _ hcompleted =>
      have hmarker : t.marker = s.marker := hcompleted
      apply le_of_eq hmarker.symm
  | flushed flush hflush hcompleted =>
      have hmarker : t.marker = flush.scheduledFor := hcompleted
      rw [hmarker]
      apply le_of_lt (hs.marker_lt flush hflush)

/-- A step keeps the invariant. -/
theorem Inv.step {a : JobAction} (hs : s.Inv) (h : step time s a = some t) :
  t.Inv
  := by
  have hidle := idle_of_step hs.idle h
  have hle := hs.marker_le h
  cases stepTo_of_step h with
  | kept hcompleted hflushing hflushed =>
      have hmarker : t.marker = s.marker := hcompleted
      constructor
      · apply hidle
      · rw [hflushed, hmarker]
        apply hs.flushed_le
      · rw [hflushed]
        apply hs.nodup
      · intro flush hflush
        rw [hmarker]
        rcases hflushing with hflushing | hflushing
        · apply hs.marker_lt flush (hflushing.symm.trans hflush)
        · cases hflushing.symm.trans hflush
  | first scheduledFor hscheduled hnone hcompleted hflushing hflushed =>
      constructor
      · apply hidle
      · intro boundary hboundary
        rw [hflushed] at hboundary
        apply le_trans (hs.flushed_le boundary hboundary) hle
      · rw [hflushed]
        apply hs.nodup
      · intro flush hflush
        cases (hs.idle hscheduled).2.2.symm.trans (hflushing.symm.trans hflush)
  | flushing flush hlt hcompleted hflushing hflushed =>
      have hmarker : t.marker = s.marker := hcompleted
      constructor
      · apply hidle
      · rw [hflushed, hmarker]
        apply hs.flushed_le
      · rw [hflushed]
        apply hs.nodup
      · intro flush' hflush'
        obtain rfl := Option.some.inj (hflushing.symm.trans hflush')
        rw [hmarker]
        apply hlt
  | flushed flush hflush hcompleted hflushing hflushed =>
      have hmarker : t.marker = flush.scheduledFor := hcompleted
      constructor
      · apply hidle
      · intro boundary hboundary
        rw [hflushed] at hboundary
        rcases List.mem_cons.mp hboundary with rfl | hboundary
        · apply le_of_eq hmarker.symm
        · apply le_trans (hs.flushed_le boundary hboundary) hle
      · rw [hflushed]
        apply List.nodup_cons.mpr ⟨_, hs.nodup⟩
        intro hmem
        apply not_lt_of_ge (hs.flushed_le _ hmem) (hs.marker_lt flush hflush)
      · intro flush' hflush'
        cases hflushing.symm.trans hflush'

/-- Before the first process. -/
def start (scheduledJobs : ScheduledJobStore) (digests : DigestStore) (block : ℕ) :
    JobContext where
  scheduledJobs := scheduledJobs
  digests := digests
  block := block
  scheduled := false
  recovery := 0
  waiting := 0
  flushing := none
  flushed := []

/-- Nothing has been flushed before the first process. -/
theorem inv_start (scheduledJobs : ScheduledJobStore) (digests : DigestStore) (block : ℕ) :
  (start scheduledJobs digests block).Inv
  where
  idle _ := ⟨rfl, rfl, rfl⟩
  flushed_le := nofun
  nodup := List.nodup_nil
  marker_lt := nofun

/-- A run keeps the invariant. -/
theorem Inv.run (hs : s.Inv) (h : Run time s t) :
  t.Inv
  := by
  apply h.invariant (I := Inv) _ hs
  intro s a t hs _ hstep
  apply hs.step hstep

/-- A run does not decrease the marker. -/
theorem Inv.marker_le_of_run (hs : s.Inv) (h : Run time s t) :
  s.marker ≤ t.marker
  := by
  induction h with
  | refl => apply le_refl
  | tail hrun hstep ih =>
      obtain ⟨a, -, hstep⟩ := hstep
      apply le_trans ih ((hs.run hrun).marker_le hstep)

/-- What `schedule` leaves behind: the latest boundary is completed or a recovery run is
queued. -/
theorem marker_ge_or_recovery_of_schedule (time : DayTime) (s : JobContext) (now : ℤ) :
  (latestScheduledFor now time : WithBot ℤ) ≤ (s.schedule time now).marker
    ∨ 0 < (s.schedule time now).recovery
  := by
  rw [schedule]
  split_ifs with hfirst hrecovery
  · left
    apply le_of_eq
    apply Eq.symm
    apply completedFor_markCompleted s (latestScheduledFor now time)
  · right
    apply Nat.succ_pos
  · left
    unfold marker
    cases hcompleted : s.completedFor with
    | none => simp [hcompleted] at hrecovery
    | some completedFor =>
        have hge : latestScheduledFor now time ≤ completedFor := by
          simpa [hcompleted] using hrecovery
        have hmarker : { s with scheduled := true }.completedFor = some completedFor := hcompleted
        rw [hmarker]
        apply WithBot.coe_le_coe.mpr hge

/-- A boundary that is due and not completed is recovered when the digest has events, and
`schedule` leaves the marker alone. -/
theorem recovery_of_schedule (now : ℤ) (hpending : s.digests.events depositedSigningKeys ≠ [])
    (hdue : s.marker < latestScheduledFor now time) :
  0 < (s.schedule time now).recovery ∧ (s.schedule time now).marker = s.marker
  := by
  have hrecovery : s.completedFor.all (· < latestScheduledFor now time) = true := by
    unfold marker at hdue
    cases hcompleted : s.completedFor with
    | none => rfl
    | some completedFor =>
        rw [hcompleted] at hdue
        simpa using WithBot.coe_lt_coe.mp hdue
  rw [schedule, if_neg (fun h => hpending h.2), if_pos hrecovery]
  exact ⟨Nat.succ_pos _, rfl⟩

/-- Over every sequence of process starts, triggers, clock readings and outcomes, the marker
does not decrease, no boundary is flushed twice, and a flush that raises leaves the marker.
After `schedule` the latest boundary is completed or a recovery run is queued, and with
events in the digest a boundary that is due is not marked without a flush. A boundary is the
last one before its clock reading. -/
theorem depositDigest_once_per_boundary (time : DayTime) (scheduledJobs : ScheduledJobStore)
    (digests : DigestStore) (block : ℕ) {t : JobContext}
    (h : Run time (start scheduledJobs digests block) t) :
  (∀ u, Run time t u → t.marker ≤ u.marker)
    ∧ t.flushed.Nodup
    ∧ (∀ u, t.step time .flushRaised = some u → u.marker = t.marker)
    ∧ (∀ now u, t.step time (.schedule now) = some u →
        ((latestScheduledFor now time : WithBot ℤ) ≤ u.marker ∨ 0 < u.recovery)
          ∧ (t.digests.events depositedSigningKeys ≠ [] →
              t.marker < latestScheduledFor now time → 0 < u.recovery ∧ u.marker = t.marker))
    ∧ ∀ now, latestScheduledFor now time ≤ now ∧ now < latestScheduledFor now time + day
  := by
  have hinv := (inv_start scheduledJobs digests block).run h
  refine ⟨?_, hinv.nodup, ?_, ?_, ?_⟩
  · intro u hu
    apply hinv.marker_le_of_run hu
  · intro u hu
    obtain ⟨flush, -, rfl⟩ := Option.map_eq_some_iff.mp hu
    rfl
  · intro now u hu
    rw [step] at hu
    split at hu
    next => cases hu
    next =>
        obtain rfl := Option.some.inj hu
        apply And.intro
        · apply marker_ge_or_recovery_of_schedule
        · intro hpending hdue
          apply recovery_of_schedule now hpending hdue
  · intro now
    apply latestScheduledFor_bounds

/-- Nine o'clock. -/
def nine : DayTime where
  micros := 32400000000
  nonneg := by decide
  lt_day := by decide

/-- The first process marks the boundary before its start, two runs of the next day's job
overlap, and only one of them flushes. -/
theorem depositDigest_once_per_boundary_overlap :
  ∃ t, Run nine (start ⟨.empty⟩ .empty 0) t
    ∧ t.flushed = [nine.micros + day]
    ∧ t.flushed.Nodup
  := by
  obtain ⟨t, hrun, hflushed⟩ := exists_reaches_of_execute (step nine) (fun _ _ => True)
    (start ⟨.empty⟩ .empty 0)
    [.started, .schedule (nine.micros + 1), .daily, .daily, .acquired (nine.micros + day),
      .flushReturned, .acquired (nine.micros + day)]
    (fun t => t.flushed = [nine.micros + day]) (by decide +kernel)
  have h := depositDigest_once_per_boundary nine ⟨.empty⟩ .empty 0 hrun
  exact ⟨t, hrun, hflushed, h.2.1⟩

end JobContext

end Sentinel
