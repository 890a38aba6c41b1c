import Sentinel.Lock
import Sentinel.Transition
import Mathlib.Logic.Function.Basic

/-!
# The shared connection to the chain

Tasks share one connection for their reads. One task at a time owns it, and the owner may
enter again. The tasks interleave at their awaits: while a task waits for the lease, while the
provider answers, connects or disconnects, and wherever it is outside of the connection.
-/

namespace Sentinel

open Asyncio

/-- Where a task is. -/
inductive Control where
  /-- outside of the methods of the connection -/
  | running
  /-- awaits the lease in `__aenter__` -/
  | entering
  /-- awaits `is_connected()` in `__aenter__` -/
  | checking
  /-- awaits `connect()` in `__aenter__` -/
  | connecting
  /-- awaits the lease in `close` -/
  | closing
  /-- awaits `is_connected()` in `close` -/
  | closeChecking
  /-- awaits `disconnect()` in `close` -/
  | disconnecting
deriving DecidableEq

/-- The task has the lease in `__aenter__`. -/
def Control.InEnter : Control → Prop
  | .checking | .connecting => True
  | .running | .entering | .closing | .closeChecking | .disconnecting => False

instance (x : Control) : Decidable x.InEnter := by
  cases x <;> unfold Control.InEnter <;> infer_instance

/-- The task has the lease in `close`. -/
def Control.InClose : Control → Prop
  | .closeChecking | .disconnecting => True
  | .running | .entering | .checking | .connecting | .closing => False

/-- The connection and the tasks that use it. `entries` counts the `async with` blocks that a
task is in. -/
structure SharedChainConnection (Task : Type*) where
  lease : Lock Task
  owner : Option Task
  depth : ℕ
  closed : Bool
  control : Task → Control
  entries : Task → ℕ

/-- What a task does, or what happens to it. -/
inductive ChainAction (Task : Type*) where
  /-- calls `__aenter__` -/
  | enter (task : Task)
  /-- calls `__aexit__` -/
  | exit (task : Task)
  /-- calls `close` -/
  | close (task : Task)
  /-- goes on with the lease -/
  | resume (task : Task)
  /-- is cancelled while it waits for the lease -/
  | cancel (task : Task)
  /-- goes on without the lease, as it was cancelled -/
  | abort (task : Task)
  /-- `is_connected()` returns -/
  | answered (task : Task) (connected : Bool)
  /-- `connect()` or `disconnect()` returns -/
  | returned (task : Task)
  /-- a call of the provider raises, or the task is cancelled in it -/
  | failed (task : Task)

/-- The task that takes the step. -/
def ChainAction.task {Task : Type*} : ChainAction Task → Task
  | .enter task | .exit task | .close task | .resume task | .cancel task | .abort task
  | .answered task _ | .returned task | .failed task => task

namespace SharedChainConnection

variable {Task : Type*}

/-- A new connection. -/
def new : SharedChainConnection Task where
  lease := Lock.new
  owner := none
  depth := 0
  closed := false
  control _ := .running
  entries _ := 0

variable [DecidableEq Task]

/-- A task moves on to another place. -/
def goto (c : SharedChainConnection Task) (task : Task) (control : Control) :
    SharedChainConnection Task :=
  { c with control := Function.update c.control task control }

/-- `__aenter__` returns: the task is in one more block. -/
def entered (c : SharedChainConnection Task) (task : Task) : SharedChainConnection Task :=
  { c with entries := Function.update c.entries task (c.entries task + 1) }.goto task .running

/-- `__aenter__` once the task has the lease. -/
def aenterLeased (c : SharedChainConnection Task) (task : Task) : SharedChainConnection Task :=
  if c.closed then { c with lease := c.lease.release }.goto task .running
  else { c with owner := some task, depth := 1 }.goto task .checking

/-- `__aenter__` until its first await that waits. -/
def aenter (c : SharedChainConnection Task) (task : Task) : SharedChainConnection Task :=
  if c.owner = some task then { c with depth := c.depth + 1 }.entered task
  else if c.closed then c
  else
    match c.lease.acquire with
    | some lease => { c with lease := lease }.aenterLeased task
    | none => { c with lease := c.lease.wait task }.goto task .entering

/-- `__aenter__` when a call of the provider raises. -/
def aenterFailed (c : SharedChainConnection Task) (task : Task) : SharedChainConnection Task :=
  { c with owner := none, depth := 0, lease := c.lease.release }.goto task .running

/-- `__aexit__` -/
def aexit (c : SharedChainConnection Task) (task : Task) : SharedChainConnection Task :=
  if c.owner ≠ some task ∨ c.depth = 0 then c
  else
    let c := { c with
      depth := c.depth - 1
      entries := Function.update c.entries task (c.entries task - 1) }
    if c.depth > 0 then c else { c with owner := none, lease := c.lease.release }

/-- `close` until its first await that waits. -/
def close (c : SharedChainConnection Task) (task : Task) : SharedChainConnection Task :=
  if c.owner = some task then c
  else
    match c.lease.acquire with
    | some lease => { c with closed := true, lease := lease }.goto task .closeChecking
    | none => { c with closed := true, lease := c.lease.wait task }.goto task .closing

/-- The end of `close`. -/
def closeReleased (c : SharedChainConnection Task) (task : Task) : SharedChainConnection Task :=
  { c with lease := c.lease.release }.goto task .running

/-- One step of a task. -/
def step (c : SharedChainConnection Task) :
    ChainAction Task → Option (SharedChainConnection Task)
  | .enter task => if c.control task = .running then some (c.aenter task) else none
  | .exit task => if c.control task = .running then some (c.aexit task) else none
  | .close task => if c.control task = .running then some (c.close task) else none
  | .resume task =>
      match c.control task with
      | .entering =>
          (c.lease.resume task).map fun lease => { c with lease := lease }.aenterLeased task
      | .closing =>
          (c.lease.resume task).map fun lease =>
            { c with lease := lease }.goto task .closeChecking
      | _ => none
  | .cancel task =>
      match c.control task with
      | .entering | .closing => some { c with lease := c.lease.cancel task }
      | _ => none
  | .abort task =>
      match c.control task with
      | .entering | .closing =>
          (c.lease.abort task).map fun lease => { c with lease := lease }.goto task .running
      | _ => none
  | .answered task connected =>
      match c.control task with
      | .checking =>
          some (if connected then c.entered task else c.goto task .connecting)
      | .closeChecking =>
          some (if connected then c.goto task .disconnecting else c.closeReleased task)
      | _ => none
  | .returned task =>
      match c.control task with
      | .connecting => some (c.entered task)
      | .disconnecting => some (c.closeReleased task)
      | _ => none
  | .failed task =>
      match c.control task with
      | .checking | .connecting => some (c.aenterFailed task)
      | .closeChecking | .disconnecting => some (c.closeReleased task)
      | _ => none

/-! ### Who holds the lease -/

/-- Who holds the lease. -/
inductive Holder (Task : Type*) where
  | nobody
  /-- a task that is about to enter its first block -/
  | entering (task : Task)
  /-- a task that is in a block, with a number of blocks around it -/
  | inside (task : Task) (outer : ℕ)
  /-- a task that closes the connection -/
  | closing (task : Task)
deriving DecidableEq

namespace Holder

/-- The lease is locked when someone holds it. -/
def locked : Holder Task → Bool
  | .nobody => false
  | .entering _ | .inside _ _ | .closing _ => true

/-- The task that has access, or is about to get it. -/
def owner : Holder Task → Option Task
  | .entering task | .inside task _ => some task
  | .nobody | .closing _ => none

/-- The blocks of the owner, with the one that it is about to enter. -/
def depth : Holder Task → ℕ
  | .entering _ => 1
  | .inside _ outer => outer + 1
  | .nobody | .closing _ => 0

/-- The blocks that a task is in. -/
def entries : Holder Task → Task → ℕ
  | .inside task outer => Function.update (fun _ => 0) task (outer + 1)
  | .nobody | .entering _ | .closing _ => fun _ => 0

/-- A task that is in a block is the owner. -/
theorem owner_of_entries_pos {holder : Holder Task} {task : Task}
    (h : 0 < holder.entries task) :
  holder.owner = some task
  := by
  cases holder with
  | nobody | entering | closing => cases Nat.lt_irrefl 0 h
  | inside task' outer =>
      obtain rfl | hne := eq_or_ne task task'
      · rfl
      · simp [entries, hne] at h

/-- What an action does to who holds the lease. -/
inductive Step (closed : Bool) (a : ChainAction Task) : Holder Task → Holder Task → Prop
  | taken {task : Task} (h : a = .enter task ∨ a = .resume task) (hclosed : closed = false) :
      Step closed a .nobody (.entering task)
  | entered {task : Task} (h : a = .answered task true ∨ a = .returned task) :
      Step closed a (.entering task) (.inside task 0)
  | failed {task : Task} (h : a = .failed task) :
      Step closed a (.entering task) .nobody
  | nested {task : Task} {outer : ℕ} (h : a = .enter task) :
      Step closed a (.inside task outer) (.inside task (outer + 1))
  | unnested {task : Task} {outer : ℕ} (h : a = .exit task) :
      Step closed a (.inside task (outer + 1)) (.inside task outer)
  | left {task : Task} (h : a = .exit task) :
      Step closed a (.inside task 0) .nobody
  | closing {task : Task} (h : a = .close task ∨ a = .resume task) :
      Step closed a .nobody (.closing task)
  | closed {task : Task} :
      Step closed a (.closing task) .nobody
  /-- neither an entry nor a block of the holder begins or ends -/
  | same {holder : Holder Task}
      (hfailed : ∀ task, holder.owner = some task → a ≠ .failed task)
      (hexit : ∀ task, holder.owner = some task → a ≠ .exit task) :
      Step closed a holder holder

end Holder

/-- Where the tasks are when `holder` holds the lease. -/
structure Placed (control : Task → Control) (holder : Holder Task) : Prop where
  inEnter_iff : ∀ task, (control task).InEnter ↔ holder = .entering task
  inClose_iff : ∀ task, (control task).InClose ↔ holder = .closing task

/-- The connection when `holder` holds the lease. -/
structure Represents (c : SharedChainConnection Task) (holder : Holder Task) : Prop where
  lease : c.lease.WellFormed
  locked : c.lease.locked = holder.locked
  owner : c.owner = holder.owner
  depth : c.depth = holder.depth
  entries : c.entries = holder.entries
  placed : Placed c.control holder

theorem represents_new :
  (new : SharedChainConnection Task).Represents .nobody
  where
  lease := Lock.wellFormed_new
  locked := rfl
  owner := rfl
  depth := rfl
  entries := rfl
  placed := by
    constructor
    all_goals
      intro task
      constructor <;> nofun

/-- A task moves on, and the lease changes hands only by it. -/
theorem Placed.update {control : Task → Control} {holder holder' : Holder Task}
    (h : Placed control holder) {task : Task} {x : Control}
    (henter : x.InEnter ↔ holder' = .entering task)
    (hclose : x.InClose ↔ holder' = .closing task)
    (hothers : ∀ other, other ≠ task → (holder = .entering other ↔ holder' = .entering other)
      ∧ (holder = .closing other ↔ holder' = .closing other)) :
  Placed (Function.update control task x) holder'
  := by
  constructor
  · intro other
    obtain rfl | hne := eq_or_ne other task
    · rw [Function.update_self, henter]
    · rw [Function.update_of_ne hne, h.inEnter_iff, (hothers other hne).1]
  · intro other
    obtain rfl | hne := eq_or_ne other task
    · rw [Function.update_self, hclose]
    · rw [Function.update_of_ne hne, h.inClose_iff, (hothers other hne).2]

/-- A task that does not hold the lease moves on without it. -/
theorem Represents.goto {c : SharedChainConnection Task} {holder : Holder Task}
    (h : c.Represents holder) {task : Task} {x : Control}
    (henter : x.InEnter ↔ holder = .entering task)
    (hclose : x.InClose ↔ holder = .closing task) :
  (c.goto task x).Represents holder
  := by
  obtain ⟨lease, locked, owner, depth, entries, placed⟩ := h
  use lease, locked, owner, depth, entries
  apply placed.update henter hclose
  intro other _
  use Iff.rfl

/-- The queue of the lease changes, and who holds it does not. -/
theorem Represents.setLease {c : SharedChainConnection Task} {holder : Holder Task}
    (h : c.Represents holder) {lease : Lock Task} (hlease : lease.WellFormed)
    (hlocked : lease.locked = c.lease.locked) :
  { c with lease := lease }.Represents holder
  where
  lease := hlease
  locked := by rw [hlocked, h.locked]
  owner := h.owner
  depth := h.depth
  entries := h.entries
  placed := h.placed

/-- Nobody holds a free lease. -/
theorem Represents.eq_nobody {c : SharedChainConnection Task} {holder : Holder Task}
    (h : c.Represents holder) (hfree : c.lease.locked = false) :
  holder = .nobody
  := by
  have hlocked := h.locked
  rw [hfree] at hlocked
  cases holder with
  | nobody => rfl
  | entering | inside | closing => cases hlocked

/-- The owner is inside when it is not about to enter its first block. -/
theorem Represents.exists_eq_inside {c : SharedChainConnection Task} {holder : Holder Task}
    (h : c.Represents holder) {task : Task} (howner : c.owner = some task)
    (hcontrol : ¬ (c.control task).InEnter) :
  ∃ outer, holder = .inside task outer
  := by
  rw [h.owner] at howner
  cases holder with
  | nobody | closing => cases howner
  | entering task' =>
      obtain rfl := Option.some.inj howner
      apply absurd ((h.placed.inEnter_iff task').mpr rfl) hcontrol
  | inside task' outer =>
      obtain rfl := Option.some.inj howner
      use outer

/-! ### What the methods do -/

/-- `__aenter__` with the lease: it is given back when the connection is closed. -/
theorem represents_aenterLeased {c : SharedChainConnection Task} (h : c.Represents .nobody)
    {lease : Lock Task} (hlease : lease.WellFormed) (hlocked : lease.locked = true)
    (task : Task) :
  ({ c with lease := lease }.aenterLeased task).Represents
    (if c.closed then .nobody else .entering task)
  := by
  obtain ⟨-, -, owner, depth, entries, placed⟩ := h
  rw [aenterLeased]
  split
  · use hlease.release, Lock.locked_release lease, owner, depth, entries
    apply placed.update <;> simp [Control.InEnter, Control.InClose]
  · use hlease, hlocked, rfl, rfl, entries
    apply placed.update
    · simp [Control.InEnter]
    · simp [Control.InClose]
    · intro other hne
      simp [hne.symm]

/-- `__aenter__` until it waits. -/
theorem Represents.aenter {c : SharedChainConnection Task} {holder : Holder Task}
    (h : c.Represents holder) {task : Task} (hcontrol : c.control task = .running) :
  ∃ holder', (c.aenter task).Represents holder'
    ∧ Holder.Step c.closed (.enter task) holder holder'
  := by
  rw [SharedChainConnection.aenter]
  split_ifs with howner hclosed
  · obtain ⟨outer, rfl⟩ := h.exists_eq_inside howner (by rw [hcontrol]; nofun)
    use .inside task (outer + 1)
    constructor
    · use h.lease, h.locked, h.owner
      · change c.depth + 1 = outer + 1 + 1
        rw [h.depth]
        rfl
      · change Function.update c.entries task (c.entries task + 1) = _
        rw [h.entries]
        simp [Holder.entries]
      · apply h.placed.update <;> simp [Control.InEnter, Control.InClose]
    · apply Holder.Step.nested rfl
  · use holder, h
    apply Holder.Step.same <;> nofun
  · cases hacquire : c.lease.acquire with
    | some lease =>
        obtain ⟨hfree, hlocked, hlease⟩ := Lock.acquire_eq_some hacquire
        obtain rfl := h.eq_nobody hfree
        use .entering task
        constructor
        · have hleased := represents_aenterLeased h hlease hlocked task
          rw [if_neg hclosed] at hleased
          apply hleased
        · apply Holder.Step.taken (Or.inl rfl) (Bool.eq_false_iff.mpr hclosed)
    | none =>
        use holder
        constructor
        · have hwait := h.setLease (h.lease.wait task) rfl
          apply hwait.goto
          · rw [← h.placed.inEnter_iff, hcontrol]
            rfl
          · rw [← h.placed.inClose_iff, hcontrol]
            rfl
        · apply Holder.Step.same <;> nofun

/-- `__aexit__`. -/
theorem Represents.aexit {c : SharedChainConnection Task} {holder : Holder Task}
    (h : c.Represents holder) {task : Task} (hcontrol : c.control task = .running) :
  ∃ holder', (c.aexit task).Represents holder'
    ∧ Holder.Step c.closed (.exit task) holder holder'
  := by
  rw [SharedChainConnection.aexit]
  split_ifs with hguard
  · use holder, h
    apply Holder.Step.same
    · nofun
    · rintro task' howner ⟨⟩
      rcases hguard with hne | hzero
      · apply hne (h.owner.trans howner)
      · rw [h.depth] at hzero
        cases holder <;> cases howner <;> cases hzero
  · obtain ⟨howner, hdepth⟩ := not_or.mp hguard
    obtain ⟨outer, rfl⟩ := h.exists_eq_inside (not_not.mp howner) (by rw [hcontrol]; nofun)
    have hentries : Function.update c.entries task (c.entries task - 1)
        = Function.update (fun _ => 0) task outer := by
      rw [h.entries]
      simp [Holder.entries]
    have hpred : c.depth - 1 = outer := by
      rw [h.depth]
      rfl
    simp only [hpred, hentries]
    cases outer with
    | zero =>
        use .nobody
        constructor
        · use h.lease.release, Lock.locked_release c.lease, rfl, rfl
          · simp [Holder.entries]
          · obtain ⟨hinEnter, hinClose⟩ := h.placed
            constructor
            · simpa using hinEnter
            · simpa using hinClose
        · apply Holder.Step.left rfl
    | succ outer =>
        use .inside task outer
        constructor
        · use h.lease, h.locked, h.owner, rfl, rfl
          obtain ⟨hinEnter, hinClose⟩ := h.placed
          constructor
          · simpa using hinEnter
          · simpa using hinClose
        · apply Holder.Step.unnested rfl

/-- `close` with the lease. -/
theorem represents_closeLeased {c : SharedChainConnection Task} (h : c.Represents .nobody)
    {lease : Lock Task} (hlease : lease.WellFormed) (hlocked : lease.locked = true)
    (closed : Bool) (task : Task) :
  ({ c with closed := closed, lease := lease }.goto task .closeChecking).Represents
    (.closing task)
  := by
  use hlease, hlocked, h.owner, h.depth, h.entries
  apply h.placed.update
  · simp [Control.InEnter]
  · simp [Control.InClose]
  · intro other hne
    simp [hne.symm]

/-- `close` until it waits. -/
theorem Represents.close {c : SharedChainConnection Task} {holder : Holder Task}
    (h : c.Represents holder) {task : Task} (hcontrol : c.control task = .running) :
  ∃ holder', (c.close task).Represents holder'
    ∧ Holder.Step c.closed (.close task) holder holder'
  := by
  rw [SharedChainConnection.close]
  split_ifs with howner
  · use holder, h
    apply Holder.Step.same <;> nofun
  · cases hacquire : c.lease.acquire with
    | some lease =>
        obtain ⟨hfree, hlocked, hlease⟩ := Lock.acquire_eq_some hacquire
        obtain rfl := h.eq_nobody hfree
        use .closing task
        use represents_closeLeased h hlease hlocked true task
        apply Holder.Step.closing (Or.inl rfl)
    | none =>
        use holder
        constructor
        · use h.lease.wait task, h.locked, h.owner, h.depth, h.entries
          apply h.placed.update
          · rw [← h.placed.inEnter_iff, hcontrol]
            rfl
          · rw [← h.placed.inClose_iff, hcontrol]
            rfl
          · intro other _
            use Iff.rfl
        · apply Holder.Step.same <;> nofun

/-- `__aenter__` returns. -/
theorem Represents.entered {c : SharedChainConnection Task} {task : Task}
    (h : c.Represents (.entering task)) :
  (c.entered task).Represents (.inside task 0)
  := by
  use h.lease, h.locked, h.owner, h.depth
  · change Function.update c.entries task (c.entries task + 1) = _
    rw [h.entries]
    rfl
  · apply h.placed.update
    · simp [Control.InEnter]
    · simp [Control.InClose]
    · intro other hne
      simp [hne.symm]

/-- `__aenter__` fails. -/
theorem Represents.aenterFailed {c : SharedChainConnection Task} {task : Task}
    (h : c.Represents (.entering task)) :
  (c.aenterFailed task).Represents .nobody
  := by
  use h.lease.release, Lock.locked_release c.lease, rfl, rfl, h.entries
  apply h.placed.update
  · simp [Control.InEnter]
  · simp [Control.InClose]
  · intro other hne
    simp [hne.symm]

/-- `close` gives the lease back. -/
theorem Represents.closeReleased {c : SharedChainConnection Task} {task : Task}
    (h : c.Represents (.closing task)) :
  (c.closeReleased task).Represents .nobody
  := by
  use h.lease.release, Lock.locked_release c.lease, h.owner, h.depth, h.entries
  apply h.placed.update
  · simp [Control.InEnter]
  · simp [Control.InClose]
  · intro other hne
    simp [hne.symm]

/-- A task that was woken goes on with the lease. -/
theorem Represents.resume {c c' : SharedChainConnection Task} {holder : Holder Task}
    (h : c.Represents holder) {task : Task} (hstep : c.step (.resume task) = some c') :
  ∃ holder', c'.Represents holder' ∧ Holder.Step c.closed (.resume task) holder holder'
  := by
  cases hcontrol : c.control task with
  | entering =>
      simp only [step, hcontrol, Option.map_eq_some_iff] at hstep
      obtain ⟨lease, hresume, rfl⟩ := hstep
      obtain ⟨hfree, hlocked, hlease⟩ := h.lease.resume hresume
      obtain rfl := h.eq_nobody hfree
      use if c.closed then .nobody else .entering task
      constructor
      · apply represents_aenterLeased h hlease hlocked
      · split_ifs with hclosed
        · apply Holder.Step.same <;> nofun
        · apply Holder.Step.taken (Or.inr rfl) (Bool.eq_false_iff.mpr hclosed)
  | closing =>
      simp only [step, hcontrol, Option.map_eq_some_iff] at hstep
      obtain ⟨lease, hresume, rfl⟩ := hstep
      obtain ⟨hfree, hlocked, hlease⟩ := h.lease.resume hresume
      obtain rfl := h.eq_nobody hfree
      use .closing task
      use represents_closeLeased h hlease hlocked c.closed task
      apply Holder.Step.closing (Or.inr rfl)
  | running | checking | connecting | closeChecking | disconnecting =>
      simp only [step, hcontrol] at hstep
      cases hstep

/-- A task that was cancelled goes on without the lease. -/
theorem Represents.abort {c c' : SharedChainConnection Task} {holder : Holder Task}
    (h : c.Represents holder) {task : Task} (hstep : c.step (.abort task) = some c') :
  c'.Represents holder
  := by
  have hgoto : ∀ lease, c.lease.abort task = some lease → ¬ (c.control task).InEnter →
      ¬ (c.control task).InClose →
      ({ c with lease := lease }.goto task .running).Represents holder := by
    intro lease habort henter hclose
    obtain ⟨hlocked, hlease⟩ := h.lease.abort habort
    apply (h.setLease hlease hlocked).goto
    · rw [h.placed.inEnter_iff] at henter
      apply iff_of_false nofun henter
    · rw [h.placed.inClose_iff] at hclose
      apply iff_of_false nofun hclose
  cases hcontrol : c.control task with
  | entering | closing =>
      simp only [step, hcontrol, Option.map_eq_some_iff] at hstep
      obtain ⟨lease, habort, rfl⟩ := hstep
      apply hgoto lease habort <;> rw [hcontrol] <;> nofun
  | running | checking | connecting | closeChecking | disconnecting =>
      simp only [step, hcontrol] at hstep
      cases hstep

/-- `is_connected()` returns. -/
theorem Represents.answered {c c' : SharedChainConnection Task} {holder : Holder Task}
    (h : c.Represents holder) {task : Task} {connected : Bool}
    (hstep : c.step (.answered task connected) = some c') :
  ∃ holder', c'.Represents holder'
    ∧ Holder.Step c.closed (.answered task connected) holder holder'
  := by
  cases hcontrol : c.control task with
  | checking =>
      simp only [step, hcontrol, Option.some.injEq] at hstep
      obtain rfl := (h.placed.inEnter_iff task).mp (by rw [hcontrol]; trivial)
      cases connected with
      | true =>
          subst hstep
          use .inside task 0, h.entered
          apply Holder.Step.entered (Or.inl rfl)
      | false =>
          subst hstep
          use .entering task
          constructor
          · apply h.goto <;> simp [Control.InEnter, Control.InClose]
          · apply Holder.Step.same <;> nofun
  | closeChecking =>
      simp only [step, hcontrol, Option.some.injEq] at hstep
      obtain rfl := (h.placed.inClose_iff task).mp (by rw [hcontrol]; trivial)
      cases connected with
      | true =>
          subst hstep
          use .closing task
          constructor
          · apply h.goto <;> simp [Control.InEnter, Control.InClose]
          · apply Holder.Step.same <;> nofun
      | false =>
          subst hstep
          use .nobody, h.closeReleased
          apply Holder.Step.closed
  | running | entering | connecting | closing | disconnecting =>
      simp only [step, hcontrol] at hstep
      cases hstep

/-- `connect()` or `disconnect()` returns. -/
theorem Represents.returned {c c' : SharedChainConnection Task} {holder : Holder Task}
    (h : c.Represents holder) {task : Task} (hstep : c.step (.returned task) = some c') :
  ∃ holder', c'.Represents holder' ∧ Holder.Step c.closed (.returned task) holder holder'
  := by
  cases hcontrol : c.control task with
  | connecting =>
      simp only [step, hcontrol, Option.some.injEq] at hstep
      obtain rfl := (h.placed.inEnter_iff task).mp (by rw [hcontrol]; trivial)
      subst hstep
      use .inside task 0, h.entered
      apply Holder.Step.entered (Or.inr rfl)
  | disconnecting =>
      simp only [step, hcontrol, Option.some.injEq] at hstep
      obtain rfl := (h.placed.inClose_iff task).mp (by rw [hcontrol]; trivial)
      subst hstep
      use .nobody, h.closeReleased
      apply Holder.Step.closed
  | running | entering | checking | closing | closeChecking =>
      simp only [step, hcontrol] at hstep
      cases hstep

/-- A call of the provider raises. -/
theorem Represents.failed {c c' : SharedChainConnection Task} {holder : Holder Task}
    (h : c.Represents holder) {task : Task} (hstep : c.step (.failed task) = some c') :
  ∃ holder', c'.Represents holder' ∧ Holder.Step c.closed (.failed task) holder holder'
  := by
  cases hcontrol : c.control task with
  | checking | connecting =>
      simp only [step, hcontrol, Option.some.injEq] at hstep
      obtain rfl := (h.placed.inEnter_iff task).mp (by rw [hcontrol]; trivial)
      subst hstep
      use .nobody, h.aenterFailed
      apply Holder.Step.failed rfl
  | closeChecking | disconnecting =>
      simp only [step, hcontrol, Option.some.injEq] at hstep
      obtain rfl := (h.placed.inClose_iff task).mp (by rw [hcontrol]; trivial)
      subst hstep
      use .nobody, h.closeReleased
      apply Holder.Step.closed
  | running | entering | closing =>
      simp only [step, hcontrol] at hstep
      cases hstep

/-- Every step of a task is a step of the holder of the lease. -/
theorem Represents.exists_step {c c' : SharedChainConnection Task} {holder : Holder Task}
    (h : c.Represents holder) {a : ChainAction Task} (hstep : c.step a = some c') :
  ∃ holder', c'.Represents holder' ∧ Holder.Step c.closed a holder holder'
  := by
  cases a with
  | enter task =>
      obtain ⟨hcontrol, ⟨⟩⟩ := Option.ite_none_right_eq_some.mp hstep
      apply h.aenter hcontrol
  | exit task =>
      obtain ⟨hcontrol, ⟨⟩⟩ := Option.ite_none_right_eq_some.mp hstep
      apply h.aexit hcontrol
  | close task =>
      obtain ⟨hcontrol, ⟨⟩⟩ := Option.ite_none_right_eq_some.mp hstep
      apply h.close hcontrol
  | resume task => apply h.resume hstep
  | cancel task =>
      have hcancel : c' = { c with lease := c.lease.cancel task } := by
        rw [step] at hstep
        split at hstep
        · apply (Option.some.inj hstep).symm
        · apply (Option.some.inj hstep).symm
        · cases hstep
      subst hcancel
      use holder, h.setLease (h.lease.cancel task) rfl
      apply Holder.Step.same <;> nofun
  | abort task =>
      use holder, h.abort hstep
      apply Holder.Step.same <;> nofun
  | answered task connected => apply h.answered hstep
  | returned task => apply h.returned hstep
  | failed task => apply h.failed hstep

/-! ### Mutual exclusion -/

/-- The open entries of a task: the blocks it is in, and the one it is about to enter. -/
def openEntries (c : SharedChainConnection Task) (task : Task) : ℕ :=
  c.entries task + if (c.control task).InEnter then 1 else 0

/-- One task at a time uses the connection. -/
structure Exclusive (c : SharedChainConnection Task) : Prop where
  /-- a task with open entries is the owner -/
  owner_of_openEntries : ∀ task, 0 < c.openEntries task → c.owner = some task
  depth_eq : ∀ task, c.owner = some task → c.depth = c.openEntries task ∧ 0 < c.depth
  /-- the lease is held by the owner or by a task that closes the connection -/
  locked_iff : c.lease.locked = true ↔
    c.owner ≠ none ∨ ∃ task, (c.control task).InClose
  /-- the provider is disconnected while no task is the owner -/
  owner_eq_none : ∀ task, (c.control task).InClose → c.owner = none

/-- What a step does to the lease, the owner and who has access. -/
structure Disciplined (c : SharedChainConnection Task) (a : ChainAction Task)
    (c' : SharedChainConnection Task) : Prop where
  /-- the lease of the owner is released when its last block ends or its entry fails -/
  released_iff : ∀ task, c.owner = some task →
    (c'.lease.locked = false ↔ a = .exit task ∧ c.depth = 1 ∨ a = .failed task)
  /-- and only then the owner loses the connection -/
  owner_of_released : ∀ task, c.owner = some task →
    c'.owner = if c'.lease.locked then some task else none
  /-- only the owner gets access -/
  owner_of_entries : ∀ task, c.entries task < c'.entries task → c.owner = some task
  /-- no task becomes the owner of a closed connection -/
  owner_of_closed : c.closed = true →
    c'.closed = true ∧ ∀ task, c'.owner = some task → c.owner = some task

/-- While someone holds the lease, no one else uses the connection. -/
theorem Represents.exclusive {c : SharedChainConnection Task} {holder : Holder Task}
    (h : c.Represents holder) :
  c.Exclusive
  := by
  have hopen : ∀ task, c.openEntries task
      = holder.entries task + if holder = .entering task then 1 else 0 := by
    intro task
    rw [openEntries, h.entries]
    congr 1
    apply if_congr (h.placed.inEnter_iff task) rfl rfl
  constructor
  · intro task hpos
    rw [hopen] at hpos
    rw [h.owner]
    split at hpos
    next hentering =>
        subst hentering
        rfl
    next => apply Holder.owner_of_entries_pos hpos
  · intro task howner
    rw [hopen, h.depth]
    rw [h.owner] at howner
    cases holder with
    | nobody | closing => cases howner
    | entering task' | inside task' outer =>
        obtain rfl := Option.some.inj howner
        simp [Holder.depth, Holder.entries]
  · rw [h.locked, h.owner]
    simp only [h.placed.inClose_iff]
    cases holder <;> simp [Holder.locked, Holder.owner]
  · intro task hclose
    obtain rfl := (h.placed.inClose_iff task).mp hclose
    apply h.owner

namespace Holder.Step

variable {closed : Bool} {a : ChainAction Task} {holder holder' : Holder Task} {task : Task}

omit [DecidableEq Task] in
/-- The owner gives the lease back when its last block ends or its entry fails. -/
theorem locked_eq_false_iff (h : Step closed a holder holder')
    (howner : holder.owner = some task) :
  holder'.locked = false ↔ a = .exit task ∧ holder.depth = 1 ∨ a = .failed task
  := by
  cases h with
  | taken | closing | closed => cases howner
  | entered h =>
      obtain rfl := Option.some.inj howner
      rcases h with rfl | rfl <;> simp [locked]
  | failed h =>
      obtain rfl := Option.some.inj howner
      simp [locked, h]
  | nested h =>
      obtain rfl := Option.some.inj howner
      simp [locked, h]
  | unnested h =>
      obtain rfl := Option.some.inj howner
      simp [locked, depth, h]
  | left h =>
      obtain rfl := Option.some.inj howner
      simp [locked, depth, h]
  | same hfailed hexit =>
      have hlocked : holder.locked = true := by
        cases holder <;> first | rfl | cases howner
      simp [hlocked, hfailed task howner, hexit task howner]

omit [DecidableEq Task] in
/-- The owner stays the owner until it gives the lease back. -/
theorem owner_eq (h : Step closed a holder holder') (howner : holder.owner = some task) :
  holder'.owner = if holder'.locked then some task else none
  := by
  cases h with
  | taken | closing | closed => cases howner
  | entered | nested | unnested => apply howner
  | failed | left => rfl
  | same => cases holder <;> first | apply howner | cases howner

/-- Only the owner enters blocks. -/
theorem owner_of_lt (h : Step closed a holder holder')
    (hlt : holder.entries task < holder'.entries task) :
  holder.owner = some task
  := by
  have howner := owner_of_entries_pos (Nat.zero_lt_of_lt hlt)
  cases h with
  | taken | failed | left | closing | closed => cases Nat.not_lt_zero _ hlt
  | entered | nested | unnested => apply howner
  | same => cases Nat.lt_irrefl _ hlt

omit [DecidableEq Task] in
/-- No task becomes the owner of a closed connection. -/
theorem owner_of_closed (h : Step true a holder holder') (howner : holder'.owner = some task) :
  holder.owner = some task
  := by
  cases h with
  | taken _ hclosed => cases hclosed
  | failed | left | closing | closed => cases howner
  | entered | nested | unnested | same => apply howner

omit [DecidableEq Task] in
/-- A task that is in a block stays in it while another task takes a step. -/
theorem eq_inside_of_ne {outer : ℕ} (h : Step closed a (.inside task outer) holder')
    (ha : a.task ≠ task) :
  holder' = .inside task outer
  := by
  cases h with
  | nested h | unnested h | left h =>
      subst h
      cases ha rfl
  | same => rfl

end Holder.Step

theorem control_goto_of_ne (c : SharedChainConnection Task) {task other : Task}
    (hne : other ≠ task) (x : Control) :
  (c.goto task x).control other = c.control other
  := Function.update_of_ne hne _ _

theorem control_aenterLeased_of_ne (c : SharedChainConnection Task) {task other : Task}
    (hne : other ≠ task) :
  (c.aenterLeased task).control other = c.control other
  := by
  rw [aenterLeased]
  split <;> apply Function.update_of_ne hne

/-- A task that leaves a block stays where it is, as do the others. -/
theorem control_aexit (c : SharedChainConnection Task) (task other : Task) :
  (c.aexit task).control other = c.control other
  := by
  rw [aexit]
  split
  · rfl
  · dsimp only
    split <;> rfl

/-- A step of a task leaves the other tasks where they are. -/
theorem control_of_step {c c' : SharedChainConnection Task} {a : ChainAction Task}
    (hstep : c.step a = some c') {task : Task} (hne : task ≠ a.task) :
  c'.control task = c.control task
  := by
  cases a with
  | enter =>
      obtain ⟨-, ⟨⟩⟩ := Option.ite_none_right_eq_some.mp hstep
      rw [aenter]
      split_ifs
      · apply control_goto_of_ne _ hne
      · rfl
      · split
        · apply control_aenterLeased_of_ne _ hne
        · apply control_goto_of_ne _ hne
  | exit =>
      obtain ⟨-, ⟨⟩⟩ := Option.ite_none_right_eq_some.mp hstep
      apply control_aexit
  | close =>
      obtain ⟨-, ⟨⟩⟩ := Option.ite_none_right_eq_some.mp hstep
      rw [close]
      split
      · rfl
      · split <;> apply control_goto_of_ne _ hne
  | resume =>
      rw [step] at hstep
      split at hstep
      · obtain ⟨lease, -, rfl⟩ := Option.map_eq_some_iff.mp hstep
        apply control_aenterLeased_of_ne _ hne
      · obtain ⟨lease, -, rfl⟩ := Option.map_eq_some_iff.mp hstep
        apply control_goto_of_ne _ hne
      · cases hstep
  | abort =>
      rw [step] at hstep
      split at hstep
      · obtain ⟨lease, -, rfl⟩ := Option.map_eq_some_iff.mp hstep
        apply control_goto_of_ne _ hne
      · obtain ⟨lease, -, rfl⟩ := Option.map_eq_some_iff.mp hstep
        apply control_goto_of_ne _ hne
      · cases hstep
  | cancel =>
      rw [step] at hstep
      split at hstep
      all_goals cases hstep <;> rfl
  | returned | failed =>
      rw [step] at hstep
      split at hstep
      all_goals cases hstep <;> apply control_goto_of_ne _ hne
  | answered task connected =>
      rw [step] at hstep
      split at hstep
      all_goals
        cases hstep <;> cases connected <;> apply control_goto_of_ne _ hne

@[simp]
theorem closed_goto (c : SharedChainConnection Task) (task : Task) (x : Control) :
  (c.goto task x).closed = c.closed
  := rfl

@[simp]
theorem closed_aenterLeased (c : SharedChainConnection Task) (task : Task) :
  (c.aenterLeased task).closed = c.closed
  := by
  rw [aenterLeased]
  split <;> rfl

@[simp]
theorem closed_aenter (c : SharedChainConnection Task) (task : Task) :
  (c.aenter task).closed = c.closed
  := by
  rw [aenter]
  split_ifs
  · rfl
  · rfl
  · split
    · rw [closed_aenterLeased]
    · rfl

@[simp]
theorem closed_aexit (c : SharedChainConnection Task) (task : Task) :
  (c.aexit task).closed = c.closed
  := by
  rw [aexit]
  split
  · rfl
  · dsimp only
    split <;> rfl

/-- A connection stays closed. -/
theorem closed_of_step {c c' : SharedChainConnection Task} {a : ChainAction Task}
    (hstep : c.step a = some c') (hclosed : c.closed = true) :
  c'.closed = true
  := by
  cases a with
  | enter task =>
      obtain ⟨-, ⟨⟩⟩ := Option.ite_none_right_eq_some.mp hstep
      rw [closed_aenter, hclosed]
  | exit task =>
      obtain ⟨-, ⟨⟩⟩ := Option.ite_none_right_eq_some.mp hstep
      rw [closed_aexit, hclosed]
  | close task =>
      obtain ⟨-, ⟨⟩⟩ := Option.ite_none_right_eq_some.mp hstep
      rw [close]
      split
      · apply hclosed
      · split <;> rfl
  | resume task | abort task =>
      rw [step] at hstep
      split at hstep
      all_goals
        first
        | obtain ⟨lease, -, rfl⟩ := Option.map_eq_some_iff.mp hstep
          simpa using hclosed
        | cases hstep
  | cancel task | returned task | failed task =>
      rw [step] at hstep
      split at hstep
      all_goals cases hstep <;> apply hclosed
  | answered task connected =>
      rw [step] at hstep
      split at hstep
      all_goals cases hstep <;> cases connected <;> apply hclosed

/-- `close` closes the connection, except for the owner. -/
theorem closed_of_close {c c' : SharedChainConnection Task} {task : Task}
    (hstep : c.step (.close task) = some c') (howner : c.owner ≠ some task) :
  c'.closed = true
  := by
  obtain ⟨-, ⟨⟩⟩ := Option.ite_none_right_eq_some.mp hstep
  rw [close, if_neg howner]
  split <;> rfl

/-- The owner cannot close the connection. -/
theorem eq_of_close {c c' : SharedChainConnection Task} {task : Task}
    (hstep : c.step (.close task) = some c') (howner : c.owner = some task) :
  c' = c
  := by
  obtain ⟨-, ⟨⟩⟩ := Option.ite_none_right_eq_some.mp hstep
  apply if_pos howner

/-- What a step of the holder says about the connection. -/
theorem Represents.disciplined {c c' : SharedChainConnection Task} {holder : Holder Task}
    (h : c.Represents holder) {a : ChainAction Task} (hstep : c.step a = some c') :
  c.Disciplined a c'
  := by
  obtain ⟨holder', h', hholder⟩ := h.exists_step hstep
  constructor
  · intro task howner
    rw [h'.locked, h.depth]
    apply hholder.locked_eq_false_iff (h.owner.symm.trans howner)
  · intro task howner
    rw [h'.locked, h'.owner]
    apply hholder.owner_eq (h.owner.symm.trans howner)
  · intro task hlt
    rw [h.entries, h'.entries] at hlt
    rw [h.owner]
    apply hholder.owner_of_lt hlt
  · intro hclosed
    use closed_of_step hstep hclosed
    intro task howner
    rw [hclosed] at hholder
    rw [h.owner]
    apply hholder.owner_of_closed (h'.owner.symm.trans howner)

/-- Every reachable connection has a holder of its lease. -/
theorem exists_represents_of_reaches {ok : SharedChainConnection Task → ChainAction Task → Prop}
    {c : SharedChainConnection Task} (h : Transition.Reaches step ok new c) :
  ∃ holder, c.Represents holder
  := by
  apply h.invariant (I := fun c => ∃ holder, c.Represents holder)
  · rintro c a c' ⟨holder, hc⟩ - hstep
    obtain ⟨holder', hc', -⟩ := hc.exists_step hstep
    apply Exists.intro holder' hc'
  · apply Exists.intro .nobody represents_new

/-- Over a run of a closed connection, no task becomes the owner. -/
theorem owner_of_reaches_closed {c c' : SharedChainConnection Task} {holder : Holder Task}
    (hc : c.Represents holder) (hclosed : c.closed = true)
    (h : Transition.Reaches step (fun _ _ => True) c c') :
  ∀ task, c'.owner = some task → c.owner = some task
  := by
  have hrun := h.invariant (I := fun u => (∃ holder, u.Represents holder) ∧ u.closed = true
    ∧ ∀ task, u.owner = some task → c.owner = some task)
  obtain ⟨-, -, howner⟩ := hrun (by
      rintro u a v ⟨⟨holder, hu⟩, huclosed, hback⟩ - hstep
      obtain ⟨holder', hv, -⟩ := hu.exists_step hstep
      obtain ⟨hvclosed, howner⟩ := (hu.disciplined hstep).owner_of_closed huclosed
      use Exists.intro holder' hv, hvclosed
      intro task htask
      apply hback task (howner task htask))
    (by
      use Exists.intro holder hc, hclosed
      intro task htask
      apply htask)
  apply howner

/-- In every interleaving of the tasks one task at a time owns the connection, the lease is
released with its last block or when its entry fails, and a closed connection gives no task
access that does not own it. -/
theorem exclusive_of_reaches {c : SharedChainConnection Task}
    (h : Transition.Reaches step (fun _ _ => True) new c) :
  c.Exclusive
    ∧ (∀ a c', c.step a = some c' → c.Disciplined a c')
    ∧ ∀ task c', c.step (.close task) = some c' →
        (c.owner = some task → c' = c)
        ∧ (c.owner ≠ some task → c'.closed = true ∧ ∀ c'',
            Transition.Reaches step (fun _ _ => True) c' c'' →
            ∀ other, c''.owner = some other → c.owner = some other)
  := by
  obtain ⟨holder, hc⟩ := exists_represents_of_reaches h
  use hc.exclusive
  constructor
  · intro a c' hstep
    apply hc.disciplined hstep
  · intro task c' hstep
    use eq_of_close hstep
    intro hne
    have hclosed := closed_of_close hstep hne
    use hclosed
    intro c'' hreach other howner
    obtain ⟨holder', hc', -⟩ := hc.exists_step hstep
    have howner' := owner_of_reaches_closed hc' hclosed hreach other howner
    -- `close` does not make its task the owner
    obtain ⟨-, ⟨⟩⟩ := Option.ite_none_right_eq_some.mp hstep
    rw [close, if_neg hne] at howner'
    split at howner' <;> apply howner'

/-- One task enters twice and leaves while another one waits to close the connection, and a
third one is refused. -/
theorem exclusive_of_reaches_nested :
  ∃ c : SharedChainConnection ℕ, c.Exclusive ∧ c.closed = true ∧ c.control 1 = .disconnecting
    ∧ c.control 2 = .running
  := by
  obtain ⟨c, hreach, hclosed, hclosing, hrefused⟩ := Transition.exists_reaches_of_execute
    step (fun _ _ => True) (new : SharedChainConnection ℕ)
    [.enter 0, .answered 0 false, .returned 0, .enter 0, .enter 2, .close 1, .exit 0, .exit 0,
      .resume 2, .resume 1, .answered 1 true]
    (fun c => c.closed = true ∧ c.control 1 = .disconnecting ∧ c.control 2 = .running) (by rfl)
  use c, (exclusive_of_reaches hreach).1

end SharedChainConnection

end Sentinel
