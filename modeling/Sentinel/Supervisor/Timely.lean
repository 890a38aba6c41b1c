import Sentinel.Supervisor.World

/-!
# Heights

Nothing a process knows of its chain is above the height of the chain: the suppression
thresholds, the heights at which subscriptions were activated, the logs that were delivered.
A subscription that has started was activated before, and a runtime that was not installed
yet has no listener.
-/

namespace Sentinel

variable {height : ℕ} {since : ℕ → Option ℕ} {cfg : RunConfig}

/-- The subscription of a runtime suppresses nothing above the height, was activated if it
has started, and has no listener before the runtime is installed. -/
structure Subscription.Timely (height : ℕ) (since : Option ℕ) (installed : Prop)
    (s : Subscription) : Prop where
  threshold : ∀ n ∈ s.ignoreSubscriptionEventsUntilBlock, n ≤ height
  started : s.subscriptionsStarted = true → since.isSome = true
  idle : ¬ installed → s.listener = .idle

namespace Process

variable {p p' : Process}

/-- The heights that a process knows are heights of the chain. -/
structure Timely (height : ℕ) (since : ℕ → Option ℕ) (p : Process) : Prop where
  catchupUntilBlock : ∀ n ∈ p.catchupUntilBlock, n ≤ height
  subscription : ∀ i, (p.subscriptions i).Timely height (since i) (i ≤ p.moduleRuntime)

namespace Timely

theorem setSubscription (hp : p.Timely height since) {i : ℕ} {s : Subscription}
    (hs : s.Timely height (since i) (i ≤ p.moduleRuntime)) :
  (p.setSubscription i s).Timely height since
  where
  catchupUntilBlock := hp.catchupUntilBlock
  subscription := by
    intro j
    simp only [Process.setSubscription]
    by_cases hj : j = i
    · subst hj
      rw [Function.update_self]
      apply hs
    · rw [Function.update_of_ne hj]
      apply hp.subscription j

/-- The buffer of a subscription is replaced. -/
theorem of_buffer (hp : p.Timely height since) (i : ℕ)
    (buffer : Option (List SubscriptionItem)) :
  (p.setSubscription i { p.subscriptions i with bufferedSubscriptionItems := buffer }).Timely
    height since
  := by
  apply hp.setSubscription
  exact { hp.subscription i with }

/-- The listener of an installed runtime goes on. -/
theorem of_listener (hp : p.Timely height since) {i : ℕ} (hi : i ≤ p.moduleRuntime)
    (listener : Listener) :
  (p.setSubscription i { p.subscriptions i with listener := listener }).Timely height since
  := by
  apply hp.setSubscription
  exact { hp.subscription i with idle := fun h => absurd hi h }

theorem of_shutdown (hp : p.Timely height since) (i : ℕ) :
  (p.setSubscription i (p.subscriptions i).requestShutdown).Timely height since
  := by
  apply hp.setSubscription
  exact { hp.subscription i with }

/-- A subscription starts a replay up to a height of the chain. -/
theorem of_replayBlocks (hp : p.Timely height since) {i startBlock head : ℕ} {s : Subscription}
    {r : Replay} (hhead : head ≤ height)
    (h : (p.subscriptions i).replayBlocks startBlock head (some head) = (s, r)) :
  (p.setSubscription i s).Timely height since
  := by
  obtain ⟨rfl, -⟩ := Prod.mk.inj h
  apply hp.setSubscription
  exact { hp.subscription i with
    threshold := by
      rintro _ ⟨⟩
      apply max_le _ hhead
      cases hthreshold : (p.subscriptions i).ignoreSubscriptionEventsUntilBlock with
      | none => apply Nat.zero_le
      | some n => apply (hp.subscription i).threshold n hthreshold }

theorem le_of_listening (hp : p.Timely height since) {i : ℕ}
    (h : (p.subscriptions i).listener ≠ .idle) :
  i ≤ p.moduleRuntime
  := by
  by_contra hi
  apply h ((hp.subscription i).idle hi)

theorem restartOrExit (hp : p.Timely height since) :
  p.restartOrExit.Timely height since
  := by
  obtain ⟨-, heq⟩ | ⟨-, heq⟩ := p.restartOrExit_cases
  · rw [heq]
    exact { hp.of_listener (le_refl _) _ with }
  · rw [heq]
    exact { hp.of_shutdown p.moduleRuntime with }

theorem catchUpReturned (hp : p.Timely height since) :
  p.catchUpReturned.Timely height since
  := { hp with catchupUntilBlock := nofun }

theorem catchUpLoop (hp : p.Timely height since) (runtime replayStartBlock : ℕ) :
  (p.catchUpLoop runtime replayStartBlock).Timely height since
  := by
  obtain ⟨-, heq⟩ | ⟨-, -, heq⟩ := p.catchUpLoop_cases runtime replayStartBlock
  · rw [heq]
    apply hp.catchUpReturned
  · rw [heq]
    exact { hp with }

theorem catchUpUnavailable (hp : p.Timely height since) (runtime replayStartBlock : ℕ) :
  (p.catchUpUnavailable runtime replayStartBlock).Timely height since
  := by
  obtain ⟨-, heq⟩ | ⟨-, -, heq⟩ := p.catchUpUnavailable_cases runtime replayStartBlock
  · rw [heq]
    apply hp.catchUpReturned
  · rw [heq]
    exact { hp with }

theorem replayStepped (hp : p.Timely height since) {r : Replay} {i : ℕ} {answer : Answer}
    {s : Subscription} {l : Ledger} {outcome : Outcome} (progress : Bool)
    (h : r.step cfg.blockBatchSize (p.subscriptions i) p.ledger answer = some (s, l, outcome)) :
  (p.replayStepped i s l progress).Timely height since
  := by
  obtain ⟨buffer, rfl⟩ := Replay.subscription_eq_of_step h
  exact { hp.of_buffer i buffer with }

/-- A subscription is established. -/
theorem of_subscribed {i : ℕ} (hp : p.Timely height since)
    (hsince : (since i).isSome = true) (h : p.step cfg (.subscribed i) = some p') :
  p'.Timely height since
  := by
  obtain ⟨hlistener, rfl⟩ := subscribed_cases h
  have hi : i ≤ p.moduleRuntime := hp.le_of_listening (by simp [hlistener])
  have hs : Subscription.Timely height (since i) (i ≤ p.moduleRuntime)
      { p.subscriptions i with subscriptionsStarted := true, listener := .listening } :=
    { hp.subscription i with
      started := fun _ => hsince
      idle := fun h => absurd hi h }
  exact { hp.setSubscription hs with }

/-- A live head arrives. -/
theorem of_liveHead {i : ℕ} {head : ℕ} (hp : p.Timely height since)
    (h : p.step cfg (.liveHead i head) = some p') :
  p'.Timely height since
  := by
  obtain ⟨hlistener, s, handedOn, health, hemit, -, hcases⟩ := liveHead_cases h
  have hi : i ≤ p.moduleRuntime := hp.le_of_listening (by simp [hlistener])
  obtain ⟨buffer, hs⟩ := (p.subscriptions i).handleNewHeadSubscription_fst head
  obtain rfl := (congrArg Prod.fst hemit).symm.trans hs
  obtain ⟨-, rfl⟩ | ⟨-, -, rfl⟩ := hcases
  · exact { hp.of_buffer i buffer with }
  · have hs' : Subscription.Timely height (since i) (i ≤ p.moduleRuntime)
        { p.subscriptions i with
          bufferedSubscriptionItems := buffer, listener := .handling (head - 1) } :=
      { hp.subscription i with idle := fun h => absurd hi h }
    exact { hp.setSubscription hs' with }

/-- The supervisor reads the head. -/
theorem of_supervisorHead {head : Option ℕ} (hp : p.Timely height since)
    (hhead : ∀ n ∈ head, n ≤ height) (h : p.step cfg (.supervisorHead head) = some p') :
  p'.Timely height since
  := by
  obtain ⟨-, block, -, ⟨-, rfl⟩ | ⟨catchupHead, s, r, rfl, hreplay, rfl⟩⟩ :=
    supervisorHead_cases h
  · apply hp.restartOrExit
  · have hle : catchupHead ≤ height := hhead _ rfl
    exact { hp.of_replayBlocks hle hreplay with
      catchupUntilBlock := by
        rintro _ ⟨⟩
        apply hle }

/-- The supervisor replays. -/
theorem of_supervisorReplay {answer : Answer} (hp : p.Timely height since)
    (h : p.step cfg (.supervisorReplay answer) = some p') :
  p'.Timely height since
  := by
  obtain ⟨r, s, l, outcome, -, hstep, q, rfl, ⟨r', -, rfl⟩ | ⟨-, rfl⟩ | ⟨-, rfl⟩⟩ :=
    supervisorReplay_cases h
  · exact { hp.replayStepped (r.marksProgress answer) hstep with }
  · exact { hp.replayStepped (r.marksProgress answer) hstep with
      catchupUntilBlock := by simp }
  · apply restartOrExit
    exact { hp.replayStepped (r.marksProgress answer) hstep with
      catchupUntilBlock := by simp }

/-- The replacement is installed. -/
theorem of_aborted (hp : p.Timely height since) (h : p.step cfg .aborted = some p') :
  p'.Timely height since
  := by
  obtain ⟨block, -, rfl⟩ := aborted_cases h
  have hp' := hp.of_listener (le_refl _) p.rawSubscription.listener.cancel
  exact {
    catchupUntilBlock := hp.catchupUntilBlock
    subscription := by
      intro i
      simp only [markHealth, Process.setSubscription, cancelListener]
      by_cases hi : i = p.moduleRuntime + 1
      · subst hi
        rw [Function.update_self]
        exact {
          threshold := hp.catchupUntilBlock
          started := by rintro ⟨⟩
          idle := fun _ => rfl }
      · rw [Function.update_of_ne hi]
        exact { hp'.subscription i with
          idle := fun h => (hp'.subscription i).idle fun h' => h (Nat.le_succ_of_le h') } }

/-- `catch_up_from` reads the head. -/
theorem of_catchUpHead {head : Option ℕ} (hp : p.Timely height since)
    (hhead : ∀ n ∈ head, n ≤ height) (h : p.step cfg (.catchUpHead head) = some p') :
  p'.Timely height since
  := by
  obtain ⟨runtime, block, -, ⟨-, rfl⟩ | ⟨-, rfl⟩ |
    ⟨-, catchupHead, s, r, rfl, hreplay, rfl⟩⟩ := catchUpHead_cases h
  · apply hp.catchUpUnavailable
  · apply hp.catchUpReturned
  · have hle : catchupHead ≤ height := hhead _ rfl
    exact { hp.of_replayBlocks hle hreplay with
      catchupUntilBlock := by
        rintro _ ⟨⟩
        apply hle }

/-- A step keeps it when the heads that it reads are heights of the chain and the
subscription that starts was activated. -/
theorem of_step {a : Action} (hp : p.Timely height since)
    (hhead : ∀ n, a = .supervisorHead (some n) ∨ a = .catchUpHead (some n) → n ≤ height)
    (hsubscribed : ∀ i, a = .subscribed i → (since i).isSome = true)
    (h : p.step cfg a = some p') :
  p'.Timely height since
  := by
  cases a with
  | tick elapsed =>
      cases h
      exact { hp with }
  | resumed =>
      obtain ⟨-, listener, -, ⟨-, rfl⟩ | ⟨-, rfl⟩⟩ := resumed_cases h <;>
      · exact { hp.of_listener (le_refl _) listener with }
  | subscribed i => apply hp.of_subscribed (hsubscribed i rfl) h
  | listenerEnded i unavailable =>
      obtain ⟨hlistener, listener, health, -, -, rfl⟩ := listenerEnded_cases h
      have hi : i ≤ p.moduleRuntime := by
        apply hp.le_of_listening
        obtain hlistener | hlistener := hlistener <;> simp [hlistener]
      exact { hp.of_listener hi listener with }
  | liveLog i e =>
      obtain ⟨-, s, handedOn, hemit, ⟨-, rfl⟩ | ⟨-, rfl⟩⟩ := liveLog_cases h <;>
      · obtain ⟨buffer, hs⟩ := (p.subscriptions i).emitSubscriptionItem_fst (.event e)
        obtain rfl := (congrArg Prod.fst hemit).symm.trans hs
        exact { hp.of_buffer i buffer with }
  | liveHead i head => apply hp.of_liveHead h
  | liveBlockDone i =>
      obtain ⟨number, hlistener, rfl⟩ := liveBlockDone_cases h
      have hi : i ≤ p.moduleRuntime := hp.le_of_listening (by simp [hlistener])
      exact { hp.of_listener hi .listening with }
  | waitUntilSubscribed =>
      cases h
      exact { hp with }
  | waiterDone runtime =>
      obtain ⟨-, -, rfl⟩ := waiterDone_cases h
      exact { hp with }
  | supervisorWakes =>
      obtain ⟨-, rfl | ⟨-, rfl⟩ | ⟨-, -, rfl⟩⟩ := supervisorWakes_cases h
      · exact { hp with }
      · apply hp.restartOrExit
      · exact { hp with }
  | supervisorHead head =>
      apply hp.of_supervisorHead _ h
      rintro n rfl
      apply hhead n (Or.inl rfl)
  | supervisorReplay answer => apply hp.of_supervisorReplay h
  | aborted => apply hp.of_aborted h
  | stopped =>
      obtain ⟨-, rfl⟩ := stopped_cases h
      exact { hp with }
  | startupWakes =>
      obtain ⟨runtime, -, -, ⟨-, rfl⟩ | ⟨-, rfl⟩⟩ := startupWakes_cases h
      · exact { hp with }
      · apply catchUpLoop
        exact { hp with }
  | initialHead head =>
      obtain ⟨-, rfl⟩ := initialHead_cases h
      exact { hp with }
  | persisted =>
      obtain ⟨-, rfl⟩ := persisted_cases h
      exact { hp with }
  | catchUpHead head =>
      apply hp.of_catchUpHead _ h
      rintro n rfl
      apply hhead n (Or.inr rfl)
  | catchUpReplay answer =>
      obtain ⟨runtime, block, r, s, l, outcome, -, hstep, q, rfl,
        ⟨r', -, rfl⟩ | ⟨-, rfl⟩ | ⟨-, rfl⟩⟩ := catchUpReplay_cases h
      · exact { hp.replayStepped (r.marksProgress answer) hstep with }
      · apply catchUpReturned (hp.replayStepped (r.marksProgress answer) hstep)
      · apply catchUpUnavailable (hp.replayStepped (r.marksProgress answer) hstep)
  | catchUpSlept =>
      obtain ⟨runtime, block, -, rfl⟩ := catchUpSlept_cases h
      apply hp.catchUpLoop
  | requestShutdown =>
      cases h
      exact { hp.of_shutdown p.moduleRuntime with }

end Timely

end Process

/-! ### Worlds -/

namespace World

variable {chain : Chain} {w w' : World}

/-- The heights in a world are heights of its chain. -/
structure Timely (w : World) : Prop where
  since : ∀ i, ∀ since ∈ w.node.since i, since ≤ w.node.height
  delivered : ∀ i, ∀ e ∈ w.node.delivered i, e.block ≤ w.node.height
  process : w.process.Timely w.node.height w.node.since

theorem timely_initial (cfg : RunConfig) (now : ℤ) (height : ℕ) :
  (initial cfg now height).Timely
  where
  since := nofun
  delivered := nofun
  process := ⟨nofun, fun _ => ⟨nofun, nofun, fun _ => rfl⟩⟩

namespace Timely

/-- The chain grows. -/
theorem mined (hw : w.Timely) :
  Timely { w with node := { w.node with height := w.node.height + 1 } }
  where
  since i since h := Nat.le_succ_of_le (hw.since i since h)
  delivered i e h := Nat.le_succ_of_le (hw.delivered i e h)
  process := {
    catchupUntilBlock := fun n h => Nat.le_succ_of_le (hw.process.catchupUntilBlock n h)
    subscription := fun i => { hw.process.subscription i with
      threshold := fun n h => Nat.le_succ_of_le ((hw.process.subscription i).threshold n h) } }

/-- A subscription is activated at the height of the chain. -/
theorem activated (hw : w.Timely) (i : ℕ) :
  Timely { w with node :=
    { w.node with since := Function.update w.node.since i (some w.node.height) } }
  where
  since j since h := by
    simp only at h ⊢
    by_cases hj : j = i
    · subst hj
      rw [Function.update_self] at h
      cases h
      apply le_refl
    · rw [Function.update_of_ne hj] at h
      apply hw.since j since h
  delivered := hw.delivered
  process := {
    catchupUntilBlock := hw.process.catchupUntilBlock
    subscription := fun j => { hw.process.subscription j with
      started := by
        intro hstarted
        by_cases hj : j = i
        · subst hj
          simp
        · simp only [ne_eq, hj, not_false_eq_true, Function.update_of_ne]
          apply (hw.process.subscription j).started hstarted } }

/-- Every move of an honest node keeps a world timely. -/
theorem of_step {m : Move} (hw : w.Timely) (hok : w.Honest chain cfg m)
    (h : w.step cfg m = some w') :
  w'.Timely
  := by
  obtain ⟨-, rfl⟩ | ⟨i, -, -, -, rfl⟩ | ⟨a, process, rfl, hstep, rfl⟩ := step_cases h
  · apply hw.mined
  · apply hw.activated i
  · constructor
    · simpa using hw.since
    · rw [Node.height_after]
      intro i e he
      by_cases hdelivered : e ∈ w.node.delivered i
      · apply hw.delivered i e hdelivered
      · cases a with
        | liveLog j e' =>
            simp only [Node.after] at he
            by_cases hi : i = j
            · subst hi
              rw [Function.update_self] at he
              obtain rfl := (List.mem_cons.mp he).resolve_right hdelivered
              apply hok.2.1
            · rw [Function.update_of_ne hi] at he
              cases hdelivered he
        | _ => cases hdelivered he
    · simp only [Node.height_after, Node.since_after]
      apply hw.process.of_step _ _ hstep
      · rintro n (rfl | rfl)
        · apply hok
        · apply hok
      · rintro i rfl
        apply hok

end Timely

end World

end Sentinel
