import Sentinel.Transition
import Sentinel.Supervisor.Control

/-!
# Waiting for the subscription

`wait_until_subscribed` awaits the subscription that is current when it is called. When that
runtime is replaced before its subscription started, the call is stranded: the listener has
ended, so nothing will ever start that subscription.
-/

namespace Sentinel.Process

open Transition

variable {cfg : RunConfig} {p p' : Process}

/-- A `wait_until_subscribed` call is blocked on a runtime that was replaced and whose
subscription never starts. -/
def Stranded (cfg : RunConfig) (p : Process) (runtime : ℕ) : Prop :=
  runtime ∈ p.blockedWaiters ∧ runtime ≠ p.moduleRuntime
    ∧ ∀ p', Reaches (step cfg) (fun _ _ => True) p p' →
      (p'.subscriptions runtime).subscriptionsStarted = false

/-- A runtime is replaced after its subscription started, or when no call awaits it. -/
def ReplacesStarted (p : Process) : Action → Prop
  | .aborted => p.rawSubscription.subscriptionsStarted = true
      ∨ p.moduleRuntime ∉ p.blockedWaiters
  | _ => True

instance (p : Process) (a : Action) : Decidable (p.ReplacesStarted a) := by
  induction a using Action.casesOn with
  | aborted => unfold ReplacesStarted; infer_instance
  | _ => exact isTrue trivial

/-- Every awaited runtime was installed, and is current or has started its subscription. -/
def WaitersServed (p : Process) : Prop :=
  ∀ runtime ∈ p.blockedWaiters, runtime ≤ p.moduleRuntime
    ∧ (runtime = p.moduleRuntime ∨ (p.subscriptions runtime).subscriptionsStarted = true)

/-! ### What a step does to a subscription -/

/-- A subscription that has started stays started; one that was replaced and whose listener
has ended stays as it is. -/
def Keeps (replaced : Prop) (s s' : Subscription) : Prop :=
  (s.subscriptionsStarted = true → s'.subscriptionsStarted = true)
    ∧ (replaced → s.listener.done = true → s'.listener.done = true
      ∧ s'.subscriptionsStarted = s.subscriptionsStarted)

theorem keeps_refl (replaced : Prop) (s : Subscription) :
  Keeps replaced s s
  := ⟨id, fun _ hdone => ⟨hdone, rfl⟩⟩

/-- A subscription that is not replaced keeps its start only. -/
theorem keeps_of_not {replaced : Prop} {s s' : Subscription} (hnot : ¬ replaced)
    (h : s.subscriptionsStarted = true → s'.subscriptionsStarted = true) :
  Keeps replaced s s'
  := ⟨h, fun hreplaced => absurd hreplaced hnot⟩

theorem Keeps.trans {replaced : Prop} {s s' s'' : Subscription} (h : Keeps replaced s s')
    (h' : Keeps replaced s' s'') :
  Keeps replaced s s''
  := by
  constructor
  · intro hstarted
    apply h'.1 (h.1 hstarted)
  · intro hreplaced hdone
    obtain ⟨hdone', hsame⟩ := h.2 hreplaced hdone
    obtain ⟨hdone'', hsame'⟩ := h'.2 hreplaced hdone'
    apply And.intro hdone'' (hsame'.trans hsame)

theorem keeps_update {subscriptions : ℕ → Subscription} {i k : ℕ} {s : Subscription}
    {replaced : Prop} (hs : i = k → Keeps replaced (subscriptions i) s) :
  Keeps replaced (subscriptions i) (Function.update subscriptions k s i)
  := by
  by_cases hi : i = k
  · subst hi
    rw [Function.update_self]
    apply hs rfl
  · rw [Function.update_of_ne hi]
    apply keeps_refl

theorem keeps_restartOrExit (p : Process) (i : ℕ) :
  Keeps (i < p.moduleRuntime) (p.subscriptions i) (p.restartOrExit.subscriptions i)
  := by
  obtain ⟨-, heq⟩ | ⟨-, heq⟩ := p.restartOrExit_cases
  · rw [heq]
    apply keeps_update
    rintro rfl
    apply keeps_of_not (Nat.lt_irrefl _)
    exact id
  · rw [heq]
    apply keeps_update
    rintro rfl
    apply keeps_of_not (Nat.lt_irrefl _)
    exact id

@[simp]
theorem subscriptions_catchUpLoop (p : Process) (runtime replayStartBlock : ℕ) :
  (p.catchUpLoop runtime replayStartBlock).subscriptions = p.subscriptions
  := by
  simp only [catchUpLoop]
  split <;> rfl

@[simp]
theorem subscriptions_catchUpUnavailable (p : Process) (runtime replayStartBlock : ℕ) :
  (p.catchUpUnavailable runtime replayStartBlock).subscriptions = p.subscriptions
  := by
  simp only [catchUpUnavailable]
  split <;> rfl

/-- A live log arrives. -/
theorem keeps_of_liveLog {k : ℕ} {e : Event} (h : p.step cfg (.liveLog k e) = some p') {i : ℕ} :
  Keeps (i < p.moduleRuntime) (p.subscriptions i) (p'.subscriptions i)
  := by
  obtain ⟨hlistener, s, handedOn, hemit, hstep⟩ := liveLog_cases h
  obtain ⟨buffer, hs⟩ := (p.subscriptions k).emitSubscriptionItem_fst (.event e)
  obtain rfl : s = { p.subscriptions k with bufferedSubscriptionItems := buffer } := by
    rw [← hs, ← Subscription.emitSubscriptionEvent, hemit]
  obtain ⟨-, rfl⟩ | ⟨-, rfl⟩ := hstep <;>
  · apply keeps_update
    rintro rfl
    apply keeps_refl

/-- A live head arrives. -/
theorem keeps_of_liveHead {k : ℕ} {head : ℕ} (h : p.step cfg (.liveHead k head) = some p') {i : ℕ} :
  Keeps (i < p.moduleRuntime) (p.subscriptions i) (p'.subscriptions i)
  := by
  obtain ⟨hlistener, s, handedOn, health, hemit, -, hstep⟩ := liveHead_cases h
  obtain ⟨buffer, hs⟩ := (p.subscriptions k).handleNewHeadSubscription_fst head
  obtain rfl : s = { p.subscriptions k with bufferedSubscriptionItems := buffer } := by
    rw [← hs, hemit]
  obtain ⟨-, rfl⟩ | ⟨-, -, rfl⟩ := hstep <;>
  · apply keeps_update
    rintro rfl
    apply And.intro id
    rw [hlistener]
    rintro - ⟨⟩

/-- The supervisor reads the head. -/
theorem keeps_of_supervisorHead {head : Option ℕ} (h : p.step cfg (.supervisorHead head) = some p')
    {i : ℕ} :
  Keeps (i < p.moduleRuntime) (p.subscriptions i) (p'.subscriptions i)
  := by
  obtain ⟨-, block, -, ⟨-, rfl⟩ | ⟨catchupHead, s, r, -, hreplay, rfl⟩⟩ :=
    supervisorHead_cases h
  · apply keeps_restartOrExit
  · cases hreplay
    apply keeps_update
    rintro rfl
    apply keeps_refl

/-- The supervisor replays. -/
theorem keeps_of_supervisorReplay {answer : Answer}
    (h : p.step cfg (.supervisorReplay answer) = some p') {i : ℕ} :
  Keeps (i < p.moduleRuntime) (p.subscriptions i) (p'.subscriptions i)
  := by
  obtain ⟨r, s, l, outcome, -, hstep, q, hq, hstepped⟩ := supervisorReplay_cases h
  obtain ⟨buffer, rfl⟩ := Replay.subscription_eq_of_step hstep
  have hruntime : q.moduleRuntime = p.moduleRuntime := by rw [hq]; rfl
  have hkeeps : Keeps (i < p.moduleRuntime) (p.subscriptions i) (q.subscriptions i) := by
    rw [hq]
    apply keeps_update
    rintro rfl
    apply keeps_refl
  obtain ⟨r', -, rfl⟩ | ⟨-, rfl⟩ | ⟨-, rfl⟩ := hstepped
  · apply hkeeps
  · apply hkeeps
  · apply hkeeps.trans
    rw [← hruntime]
    exact keeps_restartOrExit { q with catchupUntilBlock := none } i

/-- The replacement is installed. -/
theorem keeps_of_aborted (h : p.step cfg .aborted = some p') {i : ℕ} (hi : i ≤ p.moduleRuntime) :
  Keeps (i < p.moduleRuntime) (p.subscriptions i) (p'.subscriptions i)
  := by
  obtain ⟨block, -, rfl⟩ := aborted_cases h
  have hne : i ≠ p.moduleRuntime + 1 := Nat.ne_of_lt (Nat.lt_succ_of_le hi)
  simp only [markHealth, setSubscription, cancelListener]
  rw [Function.update_of_ne hne]
  apply keeps_update
  rintro rfl
  apply keeps_of_not (Nat.lt_irrefl _)
  exact id

/-- `catch_up_from` reads the head. -/
theorem keeps_of_catchUpHead {head : Option ℕ} (h : p.step cfg (.catchUpHead head) = some p')
    {i : ℕ} :
  Keeps (i < p.moduleRuntime) (p.subscriptions i) (p'.subscriptions i)
  := by
  obtain ⟨runtime, block, -, ⟨-, rfl⟩ | ⟨-, rfl⟩ | ⟨-, catchupHead, s, r, -, hreplay, rfl⟩⟩ :=
    catchUpHead_cases h
  · rw [subscriptions_catchUpUnavailable]
    apply keeps_refl
  · apply keeps_refl
  · cases hreplay
    apply keeps_update
    rintro rfl
    apply keeps_refl

/-- `catch_up_from` replays. -/
theorem keeps_of_catchUpReplay {answer : Answer} (h : p.step cfg (.catchUpReplay answer) = some p')
    {i : ℕ} :
  Keeps (i < p.moduleRuntime) (p.subscriptions i) (p'.subscriptions i)
  := by
  obtain ⟨runtime, block, r, s, l, outcome, -, hstep, q, rfl, hq⟩ := catchUpReplay_cases h
  obtain ⟨buffer, rfl⟩ := Replay.subscription_eq_of_step hstep
  have hkeeps : Keeps (i < p.moduleRuntime) (p.subscriptions i)
      ((p.replayStepped runtime { p.subscriptions runtime with
        bufferedSubscriptionItems := buffer } l (r.marksProgress answer)).subscriptions i) := by
    apply keeps_update
    rintro rfl
    apply keeps_refl
  obtain ⟨r', -, rfl⟩ | ⟨-, rfl⟩ | ⟨-, rfl⟩ := hq
  · apply hkeeps
  · apply hkeeps
  · rw [subscriptions_catchUpUnavailable]
    apply hkeeps

theorem keeps_of_step {a : Action} (h : p.step cfg a = some p') {i : ℕ}
    (hi : i ≤ p.moduleRuntime) :
  Keeps (i < p.moduleRuntime) (p.subscriptions i) (p'.subscriptions i)
  := by
  cases a with
  | tick elapsed =>
      cases h
      apply keeps_refl
  | resumed =>
      obtain ⟨-, listener, -, ⟨-, rfl⟩ | ⟨-, rfl⟩⟩ := resumed_cases h <;>
      · apply keeps_update
        rintro rfl
        apply keeps_of_not (Nat.lt_irrefl _)
        exact id
  | subscribed k =>
      obtain ⟨hlistener, rfl⟩ := subscribed_cases h
      apply keeps_update
      rintro rfl
      apply And.intro (fun _ => rfl)
      rw [hlistener]
      rintro - ⟨⟩
  | listenerEnded k unavailable =>
      obtain ⟨hlistener, listener, health, -, -, rfl⟩ := listenerEnded_cases h
      apply keeps_update
      rintro rfl
      apply And.intro id
      obtain hlistener | hlistener := hlistener <;> rw [hlistener] <;> rintro - ⟨⟩
  | liveLog k e => apply keeps_of_liveLog h
  | liveHead k head => apply keeps_of_liveHead h
  | liveBlockDone k =>
      obtain ⟨number, hlistener, rfl⟩ := liveBlockDone_cases h
      apply keeps_update
      rintro rfl
      apply And.intro id
      rw [hlistener]
      rintro - ⟨⟩
  | waitUntilSubscribed =>
      cases h
      apply keeps_refl
  | waiterDone runtime =>
      obtain ⟨-, -, rfl⟩ := waiterDone_cases h
      apply keeps_refl
  | supervisorWakes =>
      obtain ⟨-, rfl | ⟨-, rfl⟩ | ⟨-, -, rfl⟩⟩ := supervisorWakes_cases h
      · apply keeps_refl
      · apply keeps_restartOrExit
      · apply keeps_refl
  | supervisorHead head => apply keeps_of_supervisorHead h
  | supervisorReplay answer => apply keeps_of_supervisorReplay h
  | aborted => apply keeps_of_aborted h hi
  | stopped =>
      obtain ⟨-, rfl⟩ := stopped_cases h
      apply keeps_refl
  | startupWakes =>
      obtain ⟨runtime, -, -, ⟨-, rfl⟩ | ⟨-, rfl⟩⟩ := startupWakes_cases h
      · apply keeps_refl
      · rw [subscriptions_catchUpLoop]
        apply keeps_refl
  | initialHead head =>
      obtain ⟨-, rfl⟩ := initialHead_cases h
      apply keeps_refl
  | persisted =>
      obtain ⟨-, rfl⟩ := persisted_cases h
      apply keeps_refl
  | catchUpHead head => apply keeps_of_catchUpHead h
  | catchUpReplay answer => apply keeps_of_catchUpReplay h
  | catchUpSlept =>
      obtain ⟨runtime, block, -, rfl⟩ := catchUpSlept_cases h
      rw [subscriptions_catchUpLoop]
      apply keeps_refl
  | requestShutdown =>
      cases h
      apply keeps_update
      rintro rfl
      apply keeps_of_not (Nat.lt_irrefl _)
      exact id

/-! ### What a step does to the waiters -/

/-- The call of the startup sequence awaits a runtime only in `_wait_for_subscription_start`. -/
theorem mem_blockedWaiters {runtime : ℕ} :
  runtime ∈ p.blockedWaiters ↔ p.startup = .waiting runtime ∨ runtime ∈ p.waiters
  := by
  cases hstartup : p.startup <;> simp [blockedWaiters, hstartup, eq_comm]

@[simp]
theorem waiters_restartOrExit (p : Process) :
  p.restartOrExit.waiters = p.waiters
  := by
  obtain ⟨-, heq⟩ | ⟨-, heq⟩ := p.restartOrExit_cases
  · rw [heq]
    rfl
  · rw [heq]
    rfl

@[simp]
theorem waiters_catchUpLoop (p : Process) (runtime replayStartBlock : ℕ) :
  (p.catchUpLoop runtime replayStartBlock).waiters = p.waiters
  := by
  simp only [catchUpLoop]
  split <;> rfl

@[simp]
theorem waiters_catchUpUnavailable (p : Process) (runtime replayStartBlock : ℕ) :
  (p.catchUpUnavailable runtime replayStartBlock).waiters = p.waiters
  := by
  simp only [catchUpUnavailable]
  split <;> rfl

theorem catchUpLoop_ne_waiting (p : Process) (runtime replayStartBlock awaited : ℕ) :
  (p.catchUpLoop runtime replayStartBlock).startup ≠ .waiting awaited
  := by
  simp only [catchUpLoop]
  split <;> simp [catchUpReturned]

theorem catchUpUnavailable_ne_waiting (p : Process) (runtime replayStartBlock awaited : ℕ) :
  (p.catchUpUnavailable runtime replayStartBlock).startup ≠ .waiting awaited
  := by
  simp only [catchUpUnavailable]
  split <;> simp [catchUpReturned]

/-- A call that awaits after a step awaited before it, or awaits the current runtime. -/
theorem blockedWaiters_of_step {a : Action} (h : p.step cfg a = some p') {runtime : ℕ}
    (hmem : runtime ∈ p'.blockedWaiters) :
  runtime ∈ p.blockedWaiters ∨ runtime = p.moduleRuntime
  := by
  rw [mem_blockedWaiters] at hmem ⊢
  cases a with
  | waitUntilSubscribed =>
      cases h
      obtain hstartup | hwaiters := hmem
      · apply Or.inl (Or.inl hstartup)
      · obtain hwaiters | hcurrent := List.mem_append.mp hwaiters
        · apply Or.inl (Or.inr hwaiters)
        · apply Or.inr (List.mem_singleton.mp hcurrent)
  | waiterDone =>
      obtain ⟨-, -, rfl⟩ := waiterDone_cases h
      apply Or.inl (hmem.imp_right List.mem_of_mem_erase)
  | tick elapsed =>
      cases h
      apply Or.inl hmem
  | resumed =>
      obtain ⟨-, listener, -, ⟨-, rfl⟩ | ⟨-, rfl⟩⟩ := resumed_cases h <;> apply Or.inl hmem
  | subscribed i =>
      obtain ⟨-, rfl⟩ := subscribed_cases h
      apply Or.inl hmem
  | listenerEnded i unavailable =>
      obtain ⟨-, listener, health, -, -, rfl⟩ := listenerEnded_cases h
      apply Or.inl hmem
  | liveLog i e =>
      obtain ⟨-, s, handedOn, -, ⟨-, rfl⟩ | ⟨-, rfl⟩⟩ := liveLog_cases h <;> apply Or.inl hmem
  | liveHead i head =>
      obtain ⟨-, s, handedOn, health, -, -, ⟨-, rfl⟩ | ⟨-, -, rfl⟩⟩ := liveHead_cases h <;>
        apply Or.inl hmem
  | liveBlockDone i =>
      obtain ⟨number, -, rfl⟩ := liveBlockDone_cases h
      apply Or.inl hmem
  | supervisorWakes =>
      obtain ⟨-, rfl | ⟨-, rfl⟩ | ⟨-, -, rfl⟩⟩ := supervisorWakes_cases h
      · apply Or.inl hmem
      · rw [startup_restartOrExit, waiters_restartOrExit] at hmem
        apply Or.inl hmem
      · apply Or.inl hmem
  | supervisorHead head =>
      obtain ⟨-, block, -, ⟨-, rfl⟩ | ⟨catchupHead, s, r, -, -, rfl⟩⟩ := supervisorHead_cases h
      · rw [startup_restartOrExit, waiters_restartOrExit] at hmem
        apply Or.inl hmem
      · apply Or.inl hmem
  | supervisorReplay answer =>
      obtain ⟨r, s, l, outcome, -, -, q, rfl, ⟨r', -, rfl⟩ | ⟨-, rfl⟩ | ⟨-, rfl⟩⟩ :=
        supervisorReplay_cases h
      · apply Or.inl hmem
      · apply Or.inl hmem
      · rw [startup_restartOrExit, waiters_restartOrExit] at hmem
        apply Or.inl hmem
  | aborted =>
      obtain ⟨block, -, rfl⟩ := aborted_cases h
      apply Or.inl hmem
  | stopped =>
      obtain ⟨-, rfl⟩ := stopped_cases h
      apply Or.inl hmem
  | startupWakes =>
      obtain ⟨runtime, -, -, ⟨-, rfl⟩ | ⟨-, rfl⟩⟩ := startupWakes_cases h
      · apply Or.inl (Or.inr (hmem.resolve_left nofun))
      · rw [waiters_catchUpLoop] at hmem
        apply Or.inl (Or.inr (hmem.resolve_left (catchUpLoop_ne_waiting _ _ _ _)))
  | initialHead head =>
      obtain ⟨-, rfl⟩ := initialHead_cases h
      apply Or.inl (Or.inr (hmem.resolve_left nofun))
  | persisted =>
      obtain ⟨-, rfl⟩ := persisted_cases h
      apply Or.inl (Or.inr (hmem.resolve_left nofun))
  | catchUpHead head =>
      obtain ⟨runtime, block, -, ⟨-, rfl⟩ | ⟨-, rfl⟩ | ⟨-, catchupHead, s, r, -, -, rfl⟩⟩ :=
        catchUpHead_cases h
      · rw [waiters_catchUpUnavailable] at hmem
        apply Or.inl (Or.inr (hmem.resolve_left (catchUpUnavailable_ne_waiting _ _ _ _)))
      · apply Or.inl (Or.inr (hmem.resolve_left nofun))
      · apply Or.inl (Or.inr (hmem.resolve_left nofun))
  | catchUpReplay answer =>
      obtain ⟨runtime, block, r, s, l, outcome, -, -, q, rfl,
        ⟨r', -, rfl⟩ | ⟨-, rfl⟩ | ⟨-, rfl⟩⟩ := catchUpReplay_cases h
      · apply Or.inl (Or.inr (hmem.resolve_left nofun))
      · apply Or.inl (Or.inr (hmem.resolve_left nofun))
      · rw [waiters_catchUpUnavailable] at hmem
        apply Or.inl (Or.inr (hmem.resolve_left (catchUpUnavailable_ne_waiting _ _ _ _)))
  | catchUpSlept =>
      obtain ⟨runtime, block, -, rfl⟩ := catchUpSlept_cases h
      rw [waiters_catchUpLoop] at hmem
      apply Or.inl (Or.inr (hmem.resolve_left (catchUpLoop_ne_waiting _ _ _ _)))
  | requestShutdown =>
      cases h
      apply Or.inl hmem

/-! ### Runs -/

/-- A replacement takes the place of a runtime that no call awaits or that has started. -/
theorem waitersServed_of_step {a : Action} (hp : p.WaitersServed) (hok : p.ReplacesStarted a)
    (h : p.step cfg a = some p') :
  p'.WaitersServed
  := by
  intro runtime hmem
  have hinstalled : runtime ≤ p.moduleRuntime ∧ (runtime = p.moduleRuntime
      ∨ (p.subscriptions runtime).subscriptionsStarted = true) := by
    obtain hmem | rfl := blockedWaiters_of_step h hmem
    · apply hp runtime hmem
    · apply And.intro (le_refl _) (Or.inl rfl)
  obtain ⟨hle, hserved⟩ := hinstalled
  have hkeep := (keeps_of_step h hle).1
  obtain ⟨hruntime, -⟩ | ⟨hruntime, -⟩ | ⟨rfl, hruntime⟩ := pending_of_step h
  · rw [hruntime]
    apply And.intro hle (hserved.imp_right hkeep)
  · rw [hruntime]
    apply And.intro hle (hserved.imp_right hkeep)
  · rw [hruntime]
    apply And.intro (Nat.le_succ_of_le hle) (Or.inr _)
    obtain rfl | hstarted := hserved
    · obtain hstarted | hnot := hok
      · apply hkeep hstarted
      · obtain ⟨block, -, rfl⟩ := aborted_cases h
        cases hnot hmem
    · apply hkeep hstarted

/-- In a run that replaces runtimes only when they have started or no call awaits them, no
call is stranded. -/
theorem not_stranded_of_reaches {now : ℤ}
    (h : Reaches (step cfg) ReplacesStarted (initial cfg now) p) :
  p.rawSubscription.subscriptionsStarted = true → ∀ runtime, ¬ p.Stranded cfg runtime
  := by
  have hserved : p.WaitersServed := by
    apply h.invariant (I := WaitersServed)
    · intro p a p' hp hok hstep
      apply waitersServed_of_step hp hok hstep
    · intro runtime hmem
      simp only [blockedWaiters, initial, List.append_nil, List.mem_singleton] at hmem
      subst hmem
      apply And.intro (le_refl _) (Or.inl rfl)
  rintro - runtime ⟨hmem, hne, hnever⟩
  obtain ⟨-, heq | hstarted'⟩ := hserved runtime hmem
  · apply hne heq
  · have hnot := hnever p (.refl p)
    rw [hstarted'] at hnot
    cases hnot

/-- A startup from checkpoint `5` whose runtime is replaced after its subscription started:
the startup sequence goes on. -/
theorem not_stranded_fromCheckpoint :
  ∃ p : Process, p.rawSubscription.subscriptionsStarted = true ∧ p.moduleRuntime = 1
    ∧ ¬ p.Stranded (.fromCheckpoint 5) 0
  := by
  obtain ⟨p, hreach, hstarted, hruntime⟩ := exists_reaches_of_execute
    (step (.fromCheckpoint 5)) ReplacesStarted (initial (.fromCheckpoint 5) 0)
    [.resumed, .subscribed 0, .listenerEnded 0 true, .supervisorWakes, .aborted, .resumed,
      .subscribed 1]
    (fun p => p.rawSubscription.subscriptionsStarted = true ∧ p.moduleRuntime = 1) rfl
  use p, hstarted, hruntime, not_stranded_of_reaches hreach hstarted 0

/-- A replaced runtime whose listener ended before its subscription started never starts
it. -/
theorem never_started {runtime : ℕ} (hlt : runtime < p.moduleRuntime)
    (hdone : (p.subscriptions runtime).listener.done = true)
    (hnot : (p.subscriptions runtime).subscriptionsStarted = false)
    (h : Reaches (step cfg) (fun _ _ => True) p p') :
  (p'.subscriptions runtime).subscriptionsStarted = false
  := by
  have hinv : runtime < p'.moduleRuntime ∧ (p'.subscriptions runtime).listener.done = true
      ∧ (p'.subscriptions runtime).subscriptionsStarted = false := by
    apply h.invariant (I := fun p => runtime < p.moduleRuntime
      ∧ (p.subscriptions runtime).listener.done = true
      ∧ (p.subscriptions runtime).subscriptionsStarted = false)
    · rintro q a q' ⟨hlt, hdone, hnot⟩ - hstep
      obtain ⟨hdone', hsame⟩ := (keeps_of_step hstep (Nat.le_of_lt hlt)).2 hlt hdone
      refine ⟨?_, hdone', hsame.trans hnot⟩
      obtain ⟨hruntime, -⟩ | ⟨hruntime, -⟩ | ⟨-, hruntime⟩ := pending_of_step hstep <;>
        rw [hruntime] <;> omega
    · apply And.intro hlt ⟨hdone, hnot⟩
  apply hinv.2.2

/-- A startup whose first subscription request fails: the replacement starts its
subscription, and the startup sequence is stranded on the first runtime. -/
theorem exists_stranded :
  ∃ p, Reaches (step (.fromCheckpoint 5)) (fun _ _ => True) (initial (.fromCheckpoint 5) 0) p
    ∧ p.rawSubscription.subscriptionsStarted = true ∧ p.Stranded (.fromCheckpoint 5) 0
  := by
  obtain ⟨p, hreach, hstarted, hmem, hruntime, hdone, hnot⟩ := exists_reaches_of_execute
    (step (.fromCheckpoint 5)) (fun _ _ => True) (initial (.fromCheckpoint 5) 0)
    [.resumed, .listenerEnded 0 true, .supervisorWakes, .aborted, .resumed, .subscribed 1]
    (fun p => p.rawSubscription.subscriptionsStarted = true ∧ 0 ∈ p.blockedWaiters
      ∧ p.moduleRuntime = 1 ∧ (p.subscriptions 0).listener.done = true
      ∧ (p.subscriptions 0).subscriptionsStarted = false) rfl
  refine ⟨p, hreach, hstarted, hmem, ?_, ?_⟩
  · rw [hruntime]
    decide
  · intro p' hp'
    apply never_started _ hdone hnot hp'
    rw [hruntime]
    decide

end Sentinel.Process
