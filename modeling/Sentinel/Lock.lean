import Mathlib.Data.List.Basic

/-!
# The lock of an event loop

A lock that tasks of one event loop acquire in the order in which they started to wait. A
task waits for a future of its own: releasing the lock wakes the first future, and a task that
is cancelled while it waits cancels its future. The task goes on only later, so a future that
was woken or cancelled stays in the queue until its task runs again.
-/

namespace Asyncio

variable {α : Type*}

/-- What became of the future of a waiting task. -/
inductive Future where
  | pending
  | woken
  | cancelled
deriving DecidableEq

/-- A lock, and the tasks that wait for it. -/
structure Lock (α : Type*) where
  locked : Bool
  waiters : List (α × Future)

namespace Lock

/-- A lock that nobody has or waits for. -/
def new : Lock α where
  locked := false
  waiters := []

/-- Wake the first waiting task, if its future is pending. -/
def wakeUpFirst (l : Lock α) : Lock α :=
  match l.waiters with
  | (a, .pending) :: waiters => { l with waiters := (a, .woken) :: waiters }
  | _ => l

/-- Acquire the lock without waiting, `none` when the task has to wait. -/
def acquire (l : Lock α) : Option (Lock α) :=
  if l.locked = false ∧ ∀ w ∈ l.waiters, w.2 = .cancelled then some { l with locked := true }
  else none

/-- A task starts to wait. -/
def wait (l : Lock α) (a : α) : Lock α :=
  { l with waiters := l.waiters ++ [(a, .pending)] }

/-- Release the lock. Releasing a lock that nobody has raises an error. -/
def release (l : Lock α) : Lock α :=
  if l.locked then { l with locked := false }.wakeUpFirst else l

/-- Only the first waiting task is woken, and only when the lock is free. -/
structure WellFormed (l : Lock α) : Prop where
  tail_ne_woken : ∀ w ∈ l.waiters.tail, w.2 ≠ .woken
  ne_woken_of_locked : l.locked = true → ∀ w ∈ l.waiters, w.2 ≠ .woken

theorem wellFormed_new :
  (new : Lock α).WellFormed
  where
  tail_ne_woken := nofun
  ne_woken_of_locked := nofun

/-- Waking the first task of a free lock. -/
theorem wellFormed_wakeUpFirst {l : Lock α} (htail : ∀ w ∈ l.waiters.tail, w.2 ≠ .woken)
    (hfree : l.locked = false) :
  l.wakeUpFirst.WellFormed
  := by
  obtain ⟨locked, waiters⟩ := l
  subst hfree
  rw [wakeUpFirst]
  split
  next a waiters hwaiters =>
      obtain rfl : _ = (a, Future.pending) :: waiters := hwaiters
      constructor
      · apply htail
      · nofun
  next => apply WellFormed.mk htail nofun

@[simp]
theorem locked_wakeUpFirst (l : Lock α) :
  l.wakeUpFirst.locked = l.locked
  := by
  rw [wakeUpFirst]
  split <;> rfl

/-- A lock that is acquired without waiting was free, and no task is woken. -/
theorem acquire_eq_some {l l' : Lock α} (h : l.acquire = some l') :
  l.locked = false ∧ l'.locked = true ∧ l'.WellFormed
  := by
  rw [acquire] at h
  split at h
  next hfree =>
      obtain rfl := Option.some.inj h
      use hfree.1, rfl
      constructor
      · intro w hw
        rw [hfree.2 w (List.mem_of_mem_tail hw)]
        nofun
      · intro _ w hw
        rw [hfree.2 w hw]
        nofun
  next => cases h

theorem WellFormed.wait {l : Lock α} (h : l.WellFormed) (a : α) :
  (l.wait a).WellFormed
  where
  tail_ne_woken w hw := by
    rw [Lock.wait, List.tail_append] at hw
    split at hw
    · cases hw
    · rcases List.mem_append.mp hw with hw | hw
      · apply h.tail_ne_woken w hw
      · obtain rfl := List.mem_singleton.mp hw
        nofun
  ne_woken_of_locked hlocked w hw := by
    rcases List.mem_append.mp hw with hw | hw
    · apply h.ne_woken_of_locked hlocked w hw
    · obtain rfl := List.mem_singleton.mp hw
      nofun

theorem WellFormed.release {l : Lock α} (h : l.WellFormed) :
  l.release.WellFormed
  := by
  rw [Lock.release]
  split
  · apply wellFormed_wakeUpFirst
    · apply h.tail_ne_woken
    · rfl
  · apply h

@[simp]
theorem locked_release (l : Lock α) :
  l.release.locked = false
  := by
  rw [release]
  split
  · rw [locked_wakeUpFirst]
  next h => apply Bool.eq_false_iff.mpr h

/-! ### Tasks that wait -/

variable [DecidableEq α]

/-- The future of a waiting task. -/
def future (l : Lock α) (a : α) : Option Future :=
  (l.waiters.find? fun w => w.1 = a).map (·.2)

/-- Remove the future of a task. -/
def remove (l : Lock α) (a : α) : Lock α :=
  { l with waiters := l.waiters.eraseP fun w => w.1 = a }

/-- A waiting task is cancelled. -/
def cancel (l : Lock α) (a : α) : Lock α :=
  { l with
    waiters := l.waiters.map fun w =>
      if w.1 = a ∧ w.2 = .pending then (w.1, .cancelled) else w }

/-- A task that was woken goes on with the lock. -/
def resume (l : Lock α) (a : α) : Option (Lock α) :=
  if l.future a = some .woken then some { l.remove a with locked := true } else none

/-- A task that was cancelled, before or after it was woken, goes on without the lock. -/
def abort (l : Lock α) (a : α) : Option (Lock α) :=
  match l.future a with
  | some .woken | some .cancelled =>
      some (if l.locked then l.remove a else (l.remove a).wakeUpFirst)
  | _ => none

theorem WellFormed.cancel {l : Lock α} (h : l.WellFormed) (a : α) :
  (l.cancel a).WellFormed
  := by
  have hne : ∀ w : α × Future, w.2 ≠ .woken →
      (if w.1 = a ∧ w.2 = .pending then (w.1, Future.cancelled) else w).2 ≠ .woken := by
    intro w hw
    split
    · nofun
    · apply hw
  constructor
  · intro w hw
    rw [Lock.cancel, ← List.map_tail] at hw
    obtain ⟨w', hw', rfl⟩ := List.mem_map.mp hw
    apply hne w' (h.tail_ne_woken w' hw')
  · intro hlocked w hw
    obtain ⟨w', hw', rfl⟩ := List.mem_map.mp hw
    apply hne w' (h.ne_woken_of_locked hlocked w' hw')

/-- Without the first task, or another one, the tasks after the first are as before. -/
theorem mem_tail_of_mem_tail_remove {l : Lock α} {a : α} {w : α × Future}
    (h : w ∈ (l.remove a).waiters.tail) :
  w ∈ l.waiters.tail
  := by
  obtain ⟨locked, waiters⟩ := l
  simp only [remove] at h
  cases waiters with
  | nil => cases h
  | cons w' waiters =>
      by_cases hw' : w'.1 = a
      · simp only [List.eraseP_cons, hw', decide_true, cond_true] at h
        apply List.mem_of_mem_tail h
      · simp only [List.eraseP_cons, hw', decide_false, cond_false] at h
        apply List.mem_of_mem_eraseP h

/-- A woken task is the first one, the lock is free, and no other task is woken. -/
theorem WellFormed.resume {l l' : Lock α} {a : α} (h : l.WellFormed)
    (hresume : l.resume a = some l') :
  l.locked = false ∧ l'.locked = true ∧ l'.WellFormed
  := by
  rw [Lock.resume] at hresume
  split at hresume
  next hwoken =>
      obtain rfl := Option.some.inj hresume
      obtain ⟨⟨a', f⟩, hfind, rfl⟩ := Option.map_eq_some_iff.mp hwoken
      have hmem := List.mem_of_find?_eq_some hfind
      have hfree : l.locked = false := by
        apply Bool.eq_false_iff.mpr
        intro hlocked
        apply h.ne_woken_of_locked hlocked _ hmem rfl
      use hfree, rfl
      -- the woken task is the first one, so the others are the tail
      have hrest : (l.remove a).waiters = l.waiters.tail := by
        obtain ⟨locked, waiters⟩ := l
        cases waiters with
        | nil => cases hmem
        | cons w waiters =>
            rcases List.mem_cons.mp hmem with rfl | htail
            · apply List.eraseP_cons_of_pos (List.find?_some hfind)
            · apply absurd rfl (h.tail_ne_woken _ htail)
      constructor
      · intro w hw
        apply h.tail_ne_woken w (mem_tail_of_mem_tail_remove hw)
      · intro _ w hw
        apply h.tail_ne_woken w
        rw [← hrest]
        apply hw
  next => cases hresume

/-- A task that goes on without the lock leaves it as it was. -/
theorem WellFormed.abort {l l' : Lock α} {a : α} (h : l.WellFormed)
    (habort : l.abort a = some l') :
  l'.locked = l.locked ∧ l'.WellFormed
  := by
  have hrest : l' = if l.locked then l.remove a else (l.remove a).wakeUpFirst := by
    rw [Lock.abort] at habort
    split at habort
    · apply (Option.some.inj habort).symm
    · apply (Option.some.inj habort).symm
    · cases habort
  have htail : ∀ w ∈ (l.remove a).waiters.tail, w.2 ≠ .woken :=
    fun w hw => h.tail_ne_woken w (mem_tail_of_mem_tail_remove hw)
  rw [hrest]
  split
  next hlocked =>
      use rfl
      constructor
      · apply htail
      · intro _ w hw
        apply h.ne_woken_of_locked hlocked w (List.mem_of_mem_eraseP hw)
  next hlocked =>
      use locked_wakeUpFirst _
      apply wellFormed_wakeUpFirst htail (Bool.eq_false_iff.mpr hlocked)

end Lock

end Asyncio
