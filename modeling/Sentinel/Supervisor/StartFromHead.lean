import Sentinel.Supervisor.FetchesAfter
import Sentinel.Supervisor.CatchUp

/-!
# Starting from the head

A process whose backfill start block is `0` stores the block before the head as its initial
checkpoint. Up to then it has replayed nothing, so that it has handled every log its node
delivered; from then on it is sound after the initial checkpoint, if no log of the chain is
after the checkpoint and not after the activation of the subscription.
-/

namespace Sentinel

open Transition

/-- The supervisor has begun no replacement. -/
def SupervisorTask.onFirst : SupervisorTask → Bool
  | resuming | listening | stopping | exited => true
  | _ => false

namespace World

variable {chain : Chain} {cfg : RunConfig} {w w' : World} {node : Node} {p p' : Process}

/-- The supervisor replaces no runtime before the initial checkpoint is stored. -/
def ReplacesAfterCheckpoint (w : World) : Move → Prop
  | .act .supervisorWakes => w.process.initialCheckpoint.isSome = true
      ∨ w.process.shutdownRequested = true ∨ w.process.rawSubscription.listener.done = false
  | _ => True

/-- No log is after the initial checkpoint and not after the activation of the current
subscription. -/
def CheckpointMeetsFeed (chain : Chain) (w : World) : Move → Prop
  | .act (.initialHead head) => ∀ since ∈ w.node.since w.process.moduleRuntime,
      chain.logsBetween (head - 1 + 1) since = []
  | _ => True

instance (m : Move) : Decidable (w.ReplacesAfterCheckpoint m) := by
  unfold ReplacesAfterCheckpoint
  split <;> infer_instance

instance (m : Move) : Decidable (w.CheckpointMeetsFeed chain m) := by
  induction m using Move.casesOn with
  | act a =>
      induction a using Action.casesOn with
      | initialHead head => unfold CheckpointMeetsFeed; infer_instance
      | _ => exact isTrue trivial
  | _ => exact isTrue trivial

/-- The replays are in order, no runtime is replaced before the initial checkpoint is stored,
and no log falls between the initial checkpoint and the live feed. -/
def StartsAtHead (chain : Chain) (cfg : RunConfig) (w : World) (m : Move) : Prop :=
  w.ReplaysInOrder chain cfg m ∧ w.ReplacesAfterCheckpoint m ∧ w.CheckpointMeetsFeed chain m

instance (m : Move) : Decidable (w.StartsAtHead chain cfg m) := by
  unfold StartsAtHead
  infer_instance

/-! ### Before the initial checkpoint -/

/-- What the tasks are doing before the initial checkpoint is stored. -/
structure Unstored (p : Process) : Prop where
  initialCheckpoint : p.initialCheckpoint = none
  moduleRuntime : p.moduleRuntime = 0
  pending : p.pendingReplayStartBlock = none
  supervisor : p.supervisor.onFirst = true
  startup : p.startup = .waiting 0 ∨ (p.startup = .readingInitialHead
    ∧ (p.subscriptions 0).subscriptionsStarted = true)

/-- What the first subscription has handed on before the initial checkpoint is stored. -/
structure Direct (chain : Chain) (node : Node) (p : Process) : Prop where
  fetched : p.ledger.fetched = []
  threshold : (p.subscriptions 0).ignoreSubscriptionEventsUntilBlock = none
  buffer : (p.subscriptions 0).bufferedSubscriptionItems = none
  delivered : (p.subscriptions 0).shutdownEvent = false →
    ∀ e ∈ node.delivered 0, e ∈ p.ledger.handled
  handling : ∀ number, (p.subscriptions 0).listener = .handling number →
    ∀ since ∈ node.since 0, ∀ e ∈ chain, since < e.block → e.block ≤ number →
      e ∈ p.ledger.handled

/-- A world before the initial checkpoint is stored. -/
structure BeforeCheckpoint (chain : Chain) (w : World) : Prop where
  timely : w.Timely
  wellFormed : w.process.WellFormed
  onStarted : w.process.OnStarted
  unstored : Unstored w.process
  direct : Direct chain w.node w.process

theorem Unstored.onFirst_of_eq (hp : Unstored p) {supervisor : SupervisorTask}
    (h : p.supervisor = supervisor) :
  supervisor.onFirst = true
  := h ▸ hp.supervisor

theorem Unstored.startup_eq (hp : Unstored p) {startup : StartupTask}
    (h : p.startup = startup) :
  startup = .waiting 0 ∨ startup = .readingInitialHead
  := by
  rw [← h]
  apply hp.startup.imp_right And.left

theorem Unstored.of_sameControl (hp : Unstored p) (h : p.SameControl p') :
  Unstored p'
  where
  initialCheckpoint := h.initialCheckpoint.trans hp.initialCheckpoint
  moduleRuntime := h.moduleRuntime.trans hp.moduleRuntime
  pending := h.pendingReplayStartBlock.trans hp.pending
  supervisor := by
    rw [h.supervisor]
    apply hp.supervisor
  startup := by
    rw [h.startup]
    apply hp.startup.imp_right (And.imp_right (h.started 0))

theorem beforeCheckpoint_initial {now : ℤ} {height : ℕ} :
  BeforeCheckpoint chain (initial cfg now height)
  where
  timely := timely_initial cfg now height
  wellFormed := Process.wellFormed_initial cfg now
  onStarted := Process.onStarted_initial cfg now
  unstored := ⟨rfl, rfl, rfl, rfl, Or.inl rfl⟩
  direct := ⟨rfl, rfl, rfl, fun _ => nofun, nofun⟩

namespace Direct

/-- A subscription other than the first one changes, or the first one keeps its feed, does
not handle a block it did not handle, and is still shut down if it was. -/
theorem setSubscription (hp : Direct chain node p) {i : ℕ} {s : Subscription}
    (hthreshold : s.ignoreSubscriptionEventsUntilBlock
      = (p.subscriptions i).ignoreSubscriptionEventsUntilBlock)
    (hbuffer : s.bufferedSubscriptionItems = (p.subscriptions i).bufferedSubscriptionItems)
    (hshutdown : (p.subscriptions i).shutdownEvent = true → s.shutdownEvent = true)
    (hlistener : ∀ number, s.listener = .handling number →
      (p.subscriptions i).listener = .handling number) :
  Direct chain node (p.setSubscription i s)
  := by
  by_cases hi : 0 = i
  · subst hi
    exact {
      fetched := hp.fetched
      threshold := by simpa [Process.setSubscription, hthreshold] using hp.threshold
      buffer := by simpa [Process.setSubscription, hbuffer] using hp.buffer
      delivered := by
        intro hs
        apply hp.delivered
        simp only [Process.setSubscription, Function.update_self] at hs
        cases hshut : (p.subscriptions 0).shutdownEvent with
        | false => rfl
        | true => cases hs.symm.trans (hshutdown hshut)
      handling := by
        intro number hnumber
        simp only [Process.setSubscription, Function.update_self] at hnumber
        apply hp.handling number (hlistener number hnumber) }
  · have hsame : (p.setSubscription i s).subscriptions 0 = p.subscriptions 0 :=
      Function.update_of_ne hi _ _
    exact {
      fetched := hp.fetched
      threshold := by rw [hsame]; apply hp.threshold
      buffer := by rw [hsame]; apply hp.buffer
      delivered := by rw [hsame]; apply hp.delivered
      handling := by rw [hsame]; apply hp.handling }

/-- A live log is handed on, unless the subscription is shut down. -/
theorem liveLog {e : Event} (hp : Direct chain node p) (h : p.liveLog 0 e = some p') :
  Direct chain (node.after (.liveLog 0 e)) p'
  := by
  obtain ⟨hlistener, s, handedOn, hemit, hcases⟩ := Process.liveLog_cases h
  obtain rfl : s = p.subscriptions 0 := (congrArg Prod.fst hemit).symm.trans
    (Subscription.emitSubscriptionItem_fst_of_unbuffered hp.buffer _)
  have hp' : p'.subscriptions = p.subscriptions ∧ p'.ledger.fetched = p.ledger.fetched
      ∧ p.ledger ≤ p'.ledger ∧ (handedOn = some (.event e) → e ∈ p'.ledger.handled) := by
    obtain ⟨rfl, rfl⟩ | ⟨rfl, rfl⟩ := hcases
    · exact ⟨Function.update_eq_self _ _, rfl, le_refl _, nofun⟩
    · refine ⟨Function.update_eq_self _ _, rfl, p.ledger.le_handleEvent e, fun _ => ?_⟩
      simp
  obtain ⟨hsub, hfetched, hl, hhandled⟩ := hp'
  constructor
  · rw [hfetched]
    apply hp.fetched
  · rw [hsub]
    apply hp.threshold
  · rw [hsub]
    apply hp.buffer
  · rw [hsub]
    intro hs e' he'
    simp only [Node.after, Function.update_self] at he'
    obtain rfl | hmem := List.mem_cons.mp he'
    · apply hhandled
      have hsnd : handedOn = _ := (congrArg Prod.snd hemit).symm
      rw [hsnd]
      apply Subscription.emitSubscriptionEvent_snd_of_open hs hp.threshold hp.buffer
    · apply Ledger.mem_handled_of_le hl (hp.delivered hs e' hmem)
  · rw [hsub]
    intro number hnumber
    cases hlistener.symm.trans hnumber

/-- A new head is handed on when the logs before it were delivered, and handled. -/
theorem liveHead {head : ℕ} (hp : Direct chain node p)
    (hdelivered : node.DeliveredBefore chain 0 head) (h : p.liveHead 0 head = some p') :
  Direct chain node p'
  := by
  obtain ⟨hlistener, s, handedOn, health, hemit, -, hcases⟩ := Process.liveHead_cases h
  obtain rfl : s = p.subscriptions 0 := (congrArg Prod.fst hemit).symm.trans
    (Subscription.handleNewHeadSubscription_fst_of_unbuffered hp.buffer _)
  obtain ⟨-, rfl⟩ | ⟨rfl, -, rfl⟩ := hcases
  · have hp' := hp.setSubscription (i := 0) rfl rfl id (fun _ => id)
    exact { hp' with }
  · have hshutdown : (p.subscriptions 0).shutdownEvent = false := by
      cases hs : (p.subscriptions 0).shutdownEvent with
      | false => rfl
      | true =>
          have hnone := Subscription.handleNewHeadSubscription_snd hs head
          rw [hemit] at hnone
          cases hnone
    exact {
      fetched := hp.fetched
      threshold := by simpa [Process.setSubscription] using hp.threshold
      buffer := by simpa [Process.setSubscription] using hp.buffer
      delivered := fun _ => hp.delivered hshutdown
      handling := by
        intro number hnumber since hsince e he hlt hle
        simp only [Process.setSubscription, Function.update_self, Listener.handling.injEq]
          at hnumber
        subst hnumber
        apply hp.delivered hshutdown
        apply hdelivered since hsince
        apply Chain.mem_logsBetween.mpr ⟨he, hlt, hle⟩ }

/-- Background steps. -/
theorem of_background {a : Action} (hw : BeforeCheckpoint chain ⟨node, p⟩)
    (ha : a.background = true) (hok : Honest chain cfg ⟨node, p⟩ (.act a))
    (h : p.step cfg a = some p') :
  Direct chain (node.after a) p'
  := by
  have hp : Direct chain node p := hw.direct
  have hfirst : ∀ {i}, (p.subscriptions i).listener ≠ .idle → i = 0 := by
    intro i hlistener
    have hle := hw.timely.process.le_of_listening hlistener
    rw [hw.unstored.moduleRuntime] at hle
    apply Nat.le_zero.mp hle
  cases a with
  | tick elapsed =>
      cases h
      exact { hp with }
  | subscribed i =>
      obtain ⟨-, rfl⟩ := Process.subscribed_cases h
      have hp' := hp.setSubscription (i := i) (s := { p.subscriptions i with
        subscriptionsStarted := true, listener := .listening }) rfl rfl id nofun
      exact { hp' with }
  | listenerEnded i unavailable =>
      obtain ⟨-, listener, health, hlistener, -, rfl⟩ := Process.listenerEnded_cases h
      have hp' := hp.setSubscription (i := i) (s := { p.subscriptions i with
        listener := listener }) rfl rfl id (by rintro number rfl; simp at hlistener)
      exact { hp' with }
  | liveLog i e =>
      obtain rfl := hfirst (i := i) (by simp [(Process.liveLog_cases h).1])
      apply hp.liveLog h
  | liveHead i head =>
      obtain rfl := hfirst (i := i) (by simp [(Process.liveHead_cases h).1])
      apply hp.liveHead hok.2 h
  | liveBlockDone i =>
      obtain ⟨number, -, rfl⟩ := Process.liveBlockDone_cases h
      have hp' := hp.setSubscription (i := i) (s := { p.subscriptions i with
        listener := .listening }) rfl rfl id nofun
      exact { hp' with }
  | waitUntilSubscribed =>
      cases h
      exact { hp with }
  | waiterDone runtime =>
      obtain ⟨-, -, rfl⟩ := Process.waiterDone_cases h
      exact { hp with }
  | _ => cases ha

end Direct

namespace BeforeCheckpoint

/-- The steps of the two tasks before the initial checkpoint is stored. -/
theorem of_task {a : Action} (hw : BeforeCheckpoint chain ⟨node, p⟩)
    (ha : a.background = false) (hhead : ∀ head, a ≠ .initialHead head)
    (hblock : cfg.blockFrom = 0) (hreplaces : ReplacesAfterCheckpoint ⟨node, p⟩ (.act a))
    (h : p.step cfg a = some p') :
  Unstored p' ∧ Direct chain node p'
  := by
  have hp : Unstored p := hw.unstored
  have hd : Direct chain node p := hw.direct
  cases a with
  | resumed =>
      obtain ⟨-, listener, hlistener, ⟨hpending, -⟩ | ⟨-, rfl⟩⟩ := Process.resumed_cases h
      · rw [hp.pending] at hpending
        cases hpending
      · constructor
        · exact { hp with
            supervisor := rfl
            startup := hp.startup.imp_right
              (And.imp_right (Process.started_update (by exact id) 0)) }
        · have hd' := hd.setSubscription (i := p.moduleRuntime) (s := { p.rawSubscription with
            listener := listener }) rfl rfl id (by rintro number rfl; simp at hlistener)
          exact { hd' with }
  | supervisorWakes =>
      obtain ⟨-, rfl | ⟨hdone, rfl⟩ | ⟨hwaiting, -, -⟩⟩ := Process.supervisorWakes_cases h
      · exact ⟨{ hp with supervisor := rfl }, { hd with }⟩
      · obtain hstored | hrequested | hnot := hreplaces
        · rw [hp.initialCheckpoint] at hstored
          cases hstored
        · rw [Process.restartOrExit, if_pos hrequested]
          constructor
          · exact { hp with
              supervisor := rfl
              startup := hp.startup.imp_right
                (And.imp_right (Process.started_update (by exact id) 0)) }
          · have hd' := hd.setSubscription (i := p.moduleRuntime) (s := { p.rawSubscription with
              listener := p.rawSubscription.listener.cancel }) rfl rfl id (by
                intro number hnumber
                apply absurd hnumber (Listener.cancel_ne_handling _ number))
            exact { hd' with }
        · cases hdone.symm.trans hnot
      · cases hp.onFirst_of_eq hwaiting
  | supervisorHead head => cases hp.onFirst_of_eq (Process.supervisorHead_cases h).1
  | supervisorReplay answer =>
      obtain ⟨r, s, l, outcome, hreplaying, -⟩ := Process.supervisorReplay_cases h
      cases hp.onFirst_of_eq hreplaying
  | aborted =>
      obtain ⟨block, haborting, -⟩ := Process.aborted_cases h
      cases hp.onFirst_of_eq haborting
  | stopped =>
      obtain ⟨-, rfl⟩ := Process.stopped_cases h
      constructor
      · exact { hp with
          supervisor := by
            simp only
            split <;> rfl }
      · exact { hd with }
  | startupWakes =>
      obtain ⟨runtime, hstartup, hstarted, ⟨-, rfl⟩ | ⟨hne, -⟩⟩ := Process.startupWakes_cases h
      · obtain rfl := hw.onStarted.waiting runtime hstartup
        exact ⟨{ hp with startup := Or.inr ⟨rfl, hstarted⟩ }, { hd with }⟩
      · cases hne hblock
  | initialHead head => cases hhead head rfl
  | persisted =>
      obtain hwaiting | hreading := hp.startup_eq (Process.persisted_cases h).1
      · cases hwaiting
      · cases hreading
  | catchUpHead head =>
      obtain ⟨runtime, block, hcatchUp, -⟩ := Process.catchUpHead_cases h
      obtain hwaiting | hreading := hp.startup_eq hcatchUp
      · cases hwaiting
      · cases hreading
  | catchUpReplay answer =>
      obtain ⟨runtime, block, r, s, l, outcome, hcatchUp, -⟩ := Process.catchUpReplay_cases h
      obtain hwaiting | hreading := hp.startup_eq hcatchUp
      · cases hwaiting
      · cases hreading
  | catchUpSlept =>
      obtain ⟨runtime, block, hcatchUp, -⟩ := Process.catchUpSlept_cases h
      obtain hwaiting | hreading := hp.startup_eq hcatchUp
      · cases hwaiting
      · cases hreading
  | requestShutdown =>
      cases h
      constructor
      · exact { hp with
          startup := hp.startup.imp_right
            (And.imp_right (Process.started_update (by exact id) 0)) }
      · have hd' := hd.setSubscription (i := p.moduleRuntime)
          (s := p.rawSubscription.requestShutdown) rfl rfl (fun _ => rfl) (fun _ => id)
        exact { hd' with }
  | _ => cases ha

theorem asked_after_task {a : Action} (ha : a.background = false) :
  (node.after a).since = node.since ∧ (node.after a).delivered = node.delivered
  := by
  cases a with
  | startupWakes | catchUpSlept | supervisorWakes => apply And.intro rfl rfl
  | resumed | supervisorHead _ | supervisorReplay _ | aborted | stopped | initialHead _
  | persisted | catchUpHead _ | catchUpReplay _ | requestShutdown => apply And.intro rfl rfl
  | _ => cases ha

/-- Before the initial checkpoint is stored, every move but that which stores it keeps a world
before it. -/
theorem of_step {m : Move} (hw : BeforeCheckpoint chain w) (hblock : cfg.blockFrom = 0)
    (hok : w.Honest chain cfg m) (hclear : w.CatchUpStartsClear cfg m)
    (hreplaces : w.ReplacesAfterCheckpoint m) (hhead : ∀ head, m ≠ .act (.initialHead head))
    (h : w.step cfg m = some w') :
  BeforeCheckpoint chain w'
  := by
  have htimely := hw.timely.of_step hok h
  obtain ⟨-, rfl⟩ | ⟨i, -, hsince, hlistener, rfl⟩ | ⟨a, p', rfl, hstep, rfl⟩ := step_cases h
  · exact { hw with
      timely := htimely
      direct := { hw.direct with } }
  · exact { hw with
      timely := htimely
      direct := { hw.direct with
        handling := by
          intro number hnumber
          by_cases hi : 0 = i
          · subst hi
            cases hlistener.symm.trans hnumber
          · simp only [Function.update_of_ne hi]
            apply hw.direct.handling number hnumber } }
  · have hkept : Unstored p' ∧ Direct chain (w.node.after a) p' := by
      cases ha : a.background with
      | true =>
          constructor
          · apply hw.unstored.of_sameControl (Process.sameControl_of_background hstep ha)
          · exact Direct.of_background hw ha hok hstep
      | false =>
          have htask : Unstored p' ∧ Direct chain w.node p' :=
            of_task hw ha (fun head ha => hhead head (by rw [ha])) hblock hreplaces hstep
          obtain ⟨hunstored, hdirect⟩ := htask
          have hafter : (w.node.after a).since = w.node.since
              ∧ (w.node.after a).delivered = w.node.delivered := asked_after_task ha
          obtain ⟨hsince, hdelivered⟩ := hafter
          use hunstored
          exact { hdirect with
            delivered := by
              rw [hdelivered]
              apply hdirect.delivered
            handling := by
              rw [hsince]
              apply hdirect.handling }
    exact {
      timely := htimely
      wellFormed := hw.wellFormed.of_step hstep
      onStarted := hw.onStarted.of_step hw.wellFormed hclear hstep
      unstored := hkept.1
      direct := hkept.2 }

end BeforeCheckpoint

/-! ### From the initial checkpoint on -/

/-- Only `establish_initial_checkpoint` stores an initial checkpoint. -/
theorem initialCheckpoint_of_step {a : Action} (h : p.step cfg a = some p') :
  p'.initialCheckpoint = p.initialCheckpoint ∨ p.startup = .readingInitialHead
  := by
  by_cases ha : a.background = true
  · apply Or.inl (Process.sameControl_of_background h ha).initialCheckpoint
  have hrestart : ∀ q : Process, q.restartOrExit.initialCheckpoint = q.initialCheckpoint := by
    intro q
    simp only [Process.restartOrExit]
    split <;> rfl
  have hloop : ∀ (q : Process) runtime block,
      (q.catchUpLoop runtime block).initialCheckpoint = q.initialCheckpoint := by
    intro q runtime block
    simp only [Process.catchUpLoop]
    split <;> rfl
  have hunavailable : ∀ (q : Process) runtime block,
      (q.catchUpUnavailable runtime block).initialCheckpoint = q.initialCheckpoint := by
    intro q runtime block
    simp only [Process.catchUpUnavailable]
    split <;> rfl
  cases a with
  | resumed =>
      obtain ⟨-, listener, -, ⟨-, rfl⟩ | ⟨-, rfl⟩⟩ := Process.resumed_cases h <;>
      · exact Or.inl rfl
  | supervisorWakes =>
      obtain ⟨-, rfl | ⟨-, rfl⟩ | ⟨-, -, rfl⟩⟩ := Process.supervisorWakes_cases h
      · exact Or.inl rfl
      · apply Or.inl (hrestart p)
      · exact Or.inl rfl
  | supervisorHead head =>
      obtain ⟨-, block, -, ⟨-, rfl⟩ | ⟨catchupHead, s, r, -, -, rfl⟩⟩ :=
        Process.supervisorHead_cases h
      · apply Or.inl (hrestart p)
      · exact Or.inl rfl
  | supervisorReplay answer =>
      obtain ⟨r, s, l, outcome, -, -, q, rfl, ⟨r', -, rfl⟩ | ⟨-, rfl⟩ | ⟨-, rfl⟩⟩ :=
        Process.supervisorReplay_cases h
      · exact Or.inl rfl
      · exact Or.inl rfl
      · exact Or.inl (hrestart _)
  | aborted =>
      obtain ⟨block, -, rfl⟩ := Process.aborted_cases h
      exact Or.inl rfl
  | stopped =>
      obtain ⟨-, rfl⟩ := Process.stopped_cases h
      exact Or.inl rfl
  | startupWakes =>
      obtain ⟨runtime, -, -, ⟨-, rfl⟩ | ⟨-, rfl⟩⟩ := Process.startupWakes_cases h
      · exact Or.inl rfl
      · exact Or.inl (hloop _ _ _)
  | initialHead head => apply Or.inr (Process.initialHead_cases h).1
  | persisted =>
      obtain ⟨-, rfl⟩ := Process.persisted_cases h
      exact Or.inl rfl
  | catchUpHead head =>
      obtain ⟨runtime, block, -, ⟨-, rfl⟩ | ⟨-, rfl⟩ | ⟨-, catchupHead, s, r, -, -, rfl⟩⟩ :=
        Process.catchUpHead_cases h
      · apply Or.inl (hunavailable p runtime block)
      · exact Or.inl rfl
      · exact Or.inl rfl
  | catchUpReplay answer =>
      obtain ⟨runtime, block, r, s, l, outcome, -, -, q, rfl,
        ⟨r', -, rfl⟩ | ⟨-, rfl⟩ | ⟨-, rfl⟩⟩ := Process.catchUpReplay_cases h
      · exact Or.inl rfl
      · exact Or.inl rfl
      · exact Or.inl (hunavailable _ _ _)
  | catchUpSlept =>
      obtain ⟨runtime, block, -, rfl⟩ := Process.catchUpSlept_cases h
      apply Or.inl (hloop p runtime block)
  | requestShutdown =>
      cases h
      exact Or.inl rfl
  | _ => cases ha rfl

/-- When the initial checkpoint is stored, the first subscription was activated at a block that
every later log is after. -/
theorem BeforeCheckpoint.exists_since {head : ℕ} (hw : BeforeCheckpoint chain w)
    (hmeets : w.CheckpointMeetsFeed chain (.act (.initialHead head)))
    (hreading : w.process.startup = .readingInitialHead) :
  ∃ since, w.node.since 0 = some since ∧ ∀ e ∈ chain, head - 1 < e.block → since < e.block
  := by
  have hruntime : w.process.moduleRuntime = 0 := hw.unstored.moduleRuntime
  have hstarted : (w.process.subscriptions 0).subscriptionsStarted = true := by
    obtain hwaiting | ⟨-, hstarted⟩ := hw.unstored.startup
    · cases hreading.symm.trans hwaiting
    · apply hstarted
  obtain ⟨since, hsince⟩ := Option.isSome_iff_exists.mp
    ((hw.timely.process.subscription 0).started hstarted)
  use since, hsince
  intro e he hlt
  by_contra hle
  have hmem : e ∈ chain.logsBetween (head - 1 + 1) since :=
    Chain.mem_logsBetween.mpr ⟨he, hlt, Nat.le_of_not_lt hle⟩
  rw [hmeets since (by rw [hruntime]; exact hsince)] at hmem
  cases hmem

/-- The blocks that the tasks claim when the initial checkpoint is stored. -/
theorem BeforeCheckpoint.claimed_of_initialHead {head : ℕ} (hw : BeforeCheckpoint chain w)
    (hmeets : w.CheckpointMeetsFeed chain (.act (.initialHead head)))
    (h : w.process.initialHead head = some p') :
  p'.Claimed chain (head - 1) cfg
  := by
  obtain ⟨hreading, rfl⟩ := Process.initialHead_cases h
  obtain ⟨since, hsince, hgap⟩ := hw.exists_since hmeets hreading
  exact {
    block := Covered.of_le_base (le_refl _)
    handling := by
      intro i number hlistener e he hlt hle
      have hi : i ≤ 0 := by
        rw [← hw.unstored.moduleRuntime]
        apply hw.timely.process.le_of_listening (i := i)
        rw [hlistener]
        simp
      obtain rfl := Nat.le_zero.mp hi
      apply hw.direct.handling number hlistener since hsince e he (hgap e he hlt) hle
    pending := by
      simp only [hw.unstored.pending]
      simp
    aborting := by
      intro block haborting
      cases hw.unstored.onFirst_of_eq haborting
    supervisor := by
      intro r hreplaying
      cases hw.unstored.onFirst_of_eq hreplaying
    catchUp := by rintro _ ⟨⟩
    startup := by simp }

/-- The live feed when the initial checkpoint is stored. -/
theorem BeforeCheckpoint.staged_of_initialHead {head : ℕ} (hw : BeforeCheckpoint chain w)
    (hmeets : w.CheckpointMeetsFeed chain (.act (.initialHead head)))
    (h : w.process.initialHead head = some p') :
  Staged chain (head - 1) cfg ⟨w.node.after (.initialHead head), p'⟩
  := by
  obtain ⟨hreading, rfl⟩ := Process.initialHead_cases h
  obtain ⟨since, hsince, hgap⟩ := hw.exists_since hmeets hreading
  have hruntime : w.process.moduleRuntime = 0 := hw.unstored.moduleRuntime
  intro hs
  simp only [hruntime] at hs
  rw [regime_of_clear (by exact hw.unstored.pending)]
  use max (head - 1) since
  constructor
  · constructor
    · simp only [currentFeed, hruntime]
      apply hw.direct.buffer
    · use since, le_max_right _ _
      simp only [currentFeed, hruntime]
      apply hsince
    · simp only [currentFeed, hruntime, Subscription.feed, hw.direct.threshold]
      simp
    · simp only [currentFeed, hruntime]
      intro e he _
      apply hw.direct.delivered hs e he
  · intro e he hlt hle
    have hlt' := hgap e he hlt
    omega

/-- Nothing was requested before the initial checkpoint is stored. -/
theorem BeforeCheckpoint.fetchesAfter_of_initialHead {head : ℕ} (hw : BeforeCheckpoint chain w)
    (h : w.process.initialHead head = some p') :
  p'.FetchesAfter (head - 1)
  := by
  obtain ⟨-, rfl⟩ := Process.initialHead_cases h
  exact {
    fetched := by
      simp only [Ledger.FetchedAfter, hw.direct.fetched]
      simp
    block := le_refl _
    pending := by
      simp only [hw.unstored.pending]
      simp
    aborting := by
      intro block haborting
      cases hw.unstored.onFirst_of_eq haborting
    supervisor := by
      intro r hreplaying
      cases hw.unstored.onFirst_of_eq hreplaying
    catchUp := by rintro _ ⟨⟩
    startup := by simp }

/-- Storing the initial checkpoint makes a world sound after it. -/
theorem sound_of_initialHead {head : ℕ} (hw : BeforeCheckpoint chain w)
    (hok : w.Honest chain cfg (.act (.initialHead head)))
    (hmeets : w.CheckpointMeetsFeed chain (.act (.initialHead head)))
    (h : w.step cfg (.act (.initialHead head)) = some w') :
  w'.process.initialCheckpoint = some (head - 1)
    ∧ Sound chain (head - 1) cfg w' ∧ w'.process.FetchesAfter (head - 1)
  := by
  have htimely := hw.timely.of_step hok h
  obtain ⟨⟨⟩, -⟩ | ⟨i, ⟨⟩, -⟩ | ⟨a, p', ⟨⟩, hstep, rfl⟩ := step_cases h
  have hwellFormed := hw.wellFormed.of_step hstep
  have honStarted := hw.onStarted.of_step (a := .initialHead head) hw.wellFormed trivial hstep
  have hclaimed : p'.Claimed chain (head - 1) cfg := hw.claimed_of_initialHead hmeets hstep
  have hstaged : Staged chain (head - 1) cfg ⟨w.node.after (.initialHead head), p'⟩ :=
    hw.staged_of_initialHead hmeets hstep
  have hfetches := hw.fetchesAfter_of_initialHead hstep
  obtain ⟨-, rfl⟩ := Process.initialHead_cases hstep
  refine ⟨rfl, ?_, hfetches⟩
  exact {
    timely := htimely
    wellFormed := hwellFormed
    exclusive := by rintro ⟨⟩
    onStarted := honStarted
    startsAfter := ⟨by simp, by simp⟩
    claimed := hclaimed
    staged := hstaged }

/-- After the initial checkpoint every move keeps a world sound, and requests only what is
after the checkpoint. -/
theorem stored_of_step {m : Move} {checkpoint : ℕ}
    (hstored : w.process.initialCheckpoint = some checkpoint) (hw : Sound chain checkpoint cfg w)
    (hfetches : w.process.FetchesAfter checkpoint) (hok : w.ReplaysInOrder chain cfg m)
    (h : w.step cfg m = some w') :
  w'.process.initialCheckpoint = some checkpoint ∧ Sound chain checkpoint cfg w'
    ∧ w'.process.FetchesAfter checkpoint
  := by
  obtain ⟨hhonest, hfresh, hlive, hclear⟩ := hok
  have hw' := hw.of_step hhonest hfresh hlive hclear h
  obtain ⟨-, rfl⟩ | ⟨i, -, -, -, rfl⟩ | ⟨a, p', rfl, hstep, rfl⟩ := step_cases h
  · use hstored, hw'
  · use hstored, hw'
  · refine ⟨?_, hw', hfetches.of_step hw.startsAfter hstep⟩
    obtain hsame | hreading := initialCheckpoint_of_step hstep
    · rw [hsame, hstored]
    · cases hw.startsAfter.ne_readingInitialHead hreading

/-- A process that starts from the head requests no block at or below the initial checkpoint,
and every log after it and up to the persisted block was passed to `handle_event`. -/
theorem coveredFromHead_of_reaches {now : ℤ} {height checkpoint : ℕ} (hblock : cfg.blockFrom = 0)
    (h : Reaches (step cfg) (StartsAtHead chain cfg) (initial cfg now height) w)
    (hstored : w.process.initialCheckpoint = some checkpoint) :
  (∀ range ∈ w.process.ledger.fetched, checkpoint < range.1)
    ∧ w.CheckpointCovered chain checkpoint
  := by
  have hinv : BeforeCheckpoint chain w ∨ ∃ checkpoint,
      w.process.initialCheckpoint = some checkpoint ∧ Sound chain checkpoint cfg w
        ∧ w.process.FetchesAfter checkpoint := by
    apply h.invariant (I := fun w => BeforeCheckpoint chain w ∨ ∃ checkpoint,
      w.process.initialCheckpoint = some checkpoint ∧ Sound chain checkpoint cfg w
        ∧ w.process.FetchesAfter checkpoint)
    · rintro w m w' (hw | ⟨checkpoint, hstored, hw, hfetches⟩) ⟨horder, hreplaces, hmeets⟩ hstep
      · by_cases hhead : ∃ head, m = .act (.initialHead head)
        · obtain ⟨head, rfl⟩ := hhead
          apply Or.inr ⟨head - 1, sound_of_initialHead hw horder.1 hmeets hstep⟩
        · apply Or.inl (hw.of_step hblock horder.1 horder.2.2.2 hreplaces _ hstep)
          rintro head rfl
          apply hhead ⟨head, rfl⟩
      · apply Or.inr ⟨checkpoint, stored_of_step hstored hw hfetches horder hstep⟩
    · apply Or.inl beforeCheckpoint_initial
  obtain hw | ⟨checkpoint', hstored', hw, hfetches⟩ := hinv
  · cases hw.unstored.initialCheckpoint.symm.trans hstored
  · obtain rfl := Option.some.inj (hstored.symm.trans hstored')
    use hfetches.fetched
    apply hw.claimed.block

/-- A startup on fresh storage whose head is read one block after the activation of the
subscription: the runtime is replaced after the initial checkpoint, and the replacement
replays the log of block `7`. -/
theorem coveredFromHead_freshStorage :
  ∃ w : World, (∀ range ∈ w.process.ledger.fetched, 5 < range.1)
    ∧ w.CheckpointCovered (.single (.first 7)) 5
    ∧ w.process.ledger.block = 7 ∧ w.process.ledger.handled = [.first 7]
  := by
  obtain ⟨w, hreach, hstored, hledger⟩ := exists_reaches_of_execute (step .freshStorage)
    (StartsAtHead (.single (.first 7)) .freshStorage) (initial .freshStorage 0 5)
    [.act .resumed, .activated 0, .act (.subscribed 0), .act .startupWakes, .mined,
      .act (.initialHead 6), .act .persisted, .act (.listenerEnded 0 true),
      .act .supervisorWakes, .act .aborted, .act .resumed, .mined, .activated 1,
      .act (.subscribed 1), .act .supervisorWakes, .act (.supervisorHead (some 7)),
      .act (.supervisorReplay .proceed), .act (.supervisorReplay (.events [.first 7])),
      .act (.supervisorReplay .proceed), .act (.supervisorReplay .proceed)]
    (fun w => w.process.initialCheckpoint = some 5
      ∧ w.process.ledger.block = 7 ∧ w.process.ledger.handled = [.first 7]) rfl
  obtain ⟨hfetched, hcovered⟩ := coveredFromHead_of_reaches rfl hreach hstored
  exact ⟨w, hfetched, hcovered, hledger⟩

/-- A startup on fresh storage at height `5`, with a log in block `5`: the subscription is
activated after the log, the initial checkpoint is `4`, and the next live head moves the
persisted block past the log. -/
theorem exists_not_coveredFromHead :
  ∃ w : World, Reaches (step .freshStorage)
      (Honest (.single (.first 5)) .freshStorage) (initial .freshStorage 0 5) w
    ∧ w.process.initialCheckpoint = some 4
    ∧ ¬ w.CheckpointCovered (.single (.first 5)) 4
  := by
  obtain ⟨w, hreach, hstored, hblock, hhandled⟩ := exists_reaches_of_execute
    (step .freshStorage) (Honest (.single (.first 5)) .freshStorage) (initial .freshStorage 0 5)
    [.act .resumed, .activated 0, .act (.subscribed 0), .act .startupWakes,
      .act (.initialHead 5), .act .persisted, .mined, .act (.liveHead 0 6),
      .act (.liveBlockDone 0)]
    (fun w => w.process.initialCheckpoint = some 4 ∧ w.process.ledger.block = 5
      ∧ w.process.ledger.handled = []) rfl
  use w, hreach, hstored
  intro hcovered
  have hmem : Event.first 5 ∈ w.process.ledger.handled := by
    apply hcovered _ (by decide) (by decide)
    rw [hblock]
    decide
  rw [hhandled] at hmem
  cases hmem

end World

end Sentinel
