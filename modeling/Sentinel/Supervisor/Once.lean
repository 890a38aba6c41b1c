import Sentinel.Rpc.ReplayOnce
import Sentinel.Supervisor.Timely

/-!
# No log twice during startup

In a run whose first runtime stays in place, `catch_up_from` passes no log to `handle_event`
that arrives live as well, if no log that its replay will fetch was handled before it starts.
-/

namespace Sentinel

open Transition

namespace World

variable {chain : Chain} {cfg : RunConfig} {w w' : World} {node : Node} {p p' : Process}

/-- The listener does not end, no request fails, and no shutdown is requested. -/
def Undisturbed : Move → Prop
  | .act (.listenerEnded _ _) | .act .requestShutdown | .act (.catchUpHead none)
  | .act (.catchUpReplay (.raises _)) => False
  | _ => True

/-- `catch_up_from` starts its replay up to a head above `0`, when no log from its start block
up to that head was passed to `handle_event`. -/
def ReplaysUnseen (cfg : RunConfig) (w : World) : Move → Prop
  | .act (.catchUpHead (some head)) => 0 < head
      ∧ ∀ e ∈ w.process.ledger.handled, cfg.blockFrom ≤ e.block → head < e.block
  | _ => True

instance (m : Move) : Decidable (Undisturbed m) := by
  unfold Undisturbed
  split <;> infer_instance

instance (m : Move) : Decidable (w.ReplaysUnseen cfg m) := by
  induction m using Move.casesOn with
  | act a =>
      induction a using Action.casesOn with
      | catchUpHead head =>
          induction head using Option.casesOn <;> unfold ReplaysUnseen <;> infer_instance
      | _ => exact isTrue trivial
  | _ => exact isTrue trivial

/-- An honest node, an undisturbed process, and a replay that fetches no handled log. -/
def CatchesUpOnce (chain : Chain) (cfg : RunConfig) (w : World) (m : Move) : Prop :=
  w.Honest chain cfg m ∧ Undisturbed m ∧ w.ReplaysUnseen cfg m

instance (m : Move) : Decidable (w.CatchesUpOnce chain cfg m) := by
  unfold CatchesUpOnce
  infer_instance

/-- The first runtime has no buffer, and no log that its subscription could hand on was
handled twice. -/
structure HandsOn (chain : Chain) (delivered : List Event) (s : Subscription) (l : Ledger) :
    Prop where
  buffer : s.bufferedSubscriptionItems = none
  outstanding : Outstanding chain s.ignoreSubscriptionEventsUntilBlock delivered l []

/-- What holds of the first runtime in each phase of startup: before its replay it suppresses
nothing, during the replay it buffers, and afterwards it hands on again. -/
def Phase (chain : Chain) (cfg : RunConfig) (delivered : List Event) (s : Subscription)
    (l : Ledger) : StartupTask → Prop
  | .waiting _ => s.ignoreSubscriptionEventsUntilBlock = none ∧ HandsOn chain delivered s l
  | .readingHead _ block => block = cfg.blockFrom
      ∧ s.ignoreSubscriptionEventsUntilBlock = none ∧ HandsOn chain delivered s l
  | .replaying runtime _ r => runtime = 0 ∧ r.Once chain cfg.blockBatchSize delivered s l
  | .finished => HandsOn chain delivered s l
  | _ => False

/-- Nothing disturbs the first runtime. -/
structure Steady (p : Process) : Prop where
  moduleRuntime : p.moduleRuntime = 0
  pending : p.pendingReplayStartBlock = none
  supervisor : p.supervisor = .resuming ∨ p.supervisor = .listening
  restarted : p.moduleRuntimeRestarted = false
  requested : p.shutdownRequested = false
  shutdown : (p.subscriptions 0).shutdownEvent = false
  listener : (p.subscriptions 0).listener.done = false

/-- A world in which no log was handled twice. -/
structure HandlesOnce (chain : Chain) (cfg : RunConfig) (w : World) : Prop where
  timely : w.Timely
  steady : Steady w.process
  phase : Phase chain cfg (w.node.delivered 0) (w.process.subscriptions 0) w.process.ledger
    w.process.startup

variable {delivered : List Event} {s s' : Subscription} {l l' : Ledger} {startup : StartupTask}

/-! ### Phases -/

/-- A phase depends on the threshold, the buffer and the handled logs. -/
theorem Phase.of_same (h : Phase chain cfg delivered s l startup)
    (hthreshold : s'.ignoreSubscriptionEventsUntilBlock = s.ignoreSubscriptionEventsUntilBlock)
    (hbuffer : s'.bufferedSubscriptionItems = s.bufferedSubscriptionItems)
    (hhandled : l'.handled = l.handled) :
  Phase chain cfg delivered s' l' startup
  := by
  have houtstanding : ∀ {threshold queue}, Outstanding chain threshold delivered l queue →
      Outstanding chain threshold delivered l' queue := by
    intro threshold queue h
    apply h.of_perm
    rw [hhandled]
  have hhandsOn : HandsOn chain delivered s l → HandsOn chain delivered s' l' := by
    intro h
    constructor
    · rw [hbuffer]
      apply h.buffer
    · rw [hthreshold]
      apply houtstanding h.outstanding
  cases startup with
  | waiting runtime =>
      use hthreshold.trans h.1
      apply hhandsOn h.2
  | readingHead runtime block =>
      use h.1, hthreshold.trans h.2.1
      apply hhandsOn h.2.2
  | replaying runtime block r =>
      use h.1
      exact { h.2 with
        suppresses := hthreshold.trans h.2.suppresses
        buffered := by
          rw [hbuffer]
          apply h.2.buffered
        outstanding := by
          rw [hbuffer]
          apply houtstanding h.2.outstanding
        lt_next := by
          rw [hhandled]
          apply h.2.lt_next }
  | finished => apply hhandsOn h
  | _ => cases h

/-- A live log is handed on in no phase twice. -/
theorem Phase.emitEvent {e : Event} {handedOn : Option SubscriptionItem}
    (h : Phase chain cfg delivered s l startup) (hchain : e ∈ chain) (hnew : e ∉ delivered)
    (hemit : s.emitSubscriptionEvent e = (s', handedOn)) (hnone : handedOn = none → l' = l)
    (hsome : handedOn = some (.event e) → l' = l.handleEvent e) :
  Phase chain cfg (e :: delivered) s' l' startup
  := by
  have hhandsOn : HandsOn chain delivered s l → s' = s ∧ HandsOn chain (e :: delivered) s l' := by
    intro h
    constructor
    · rw [← Subscription.emitSubscriptionItem_fst_of_unbuffered h.buffer (.event e)]
      exact (congrArg Prod.fst hemit).symm
    · use h.buffer
      apply h.outstanding.emitEvent hchain hnew hemit hnone hsome
  cases startup with
  | waiting runtime =>
      obtain ⟨rfl, h'⟩ := hhandsOn h.2
      use h.1
  | readingHead runtime block =>
      obtain ⟨rfl, h'⟩ := hhandsOn h.2.2
      use h.1, h.2.1
  | replaying runtime block r =>
      obtain ⟨hhanded, h'⟩ := h.2.emitEvent hchain hnew hemit
      rw [hnone hhanded]
      use h.1
  | finished =>
      obtain ⟨rfl, h'⟩ := hhandsOn h
      apply h'
  | _ => cases h

/-- A new head changes at most the buffer. -/
theorem Phase.emitBlock {head : ℕ} {handedOn : Option SubscriptionItem}
    (h : Phase chain cfg delivered s l startup)
    (hemit : s.handleNewHeadSubscription head = (s', handedOn)) :
  Phase chain cfg delivered s' l startup
  := by
  have hhandsOn : HandsOn chain delivered s l → s' = s := by
    intro h
    rw [← Subscription.handleNewHeadSubscription_fst_of_unbuffered h.buffer head]
    exact (congrArg Prod.fst hemit).symm
  cases startup with
  | waiting runtime =>
      obtain rfl := hhandsOn h.2
      apply h
  | readingHead runtime block =>
      obtain rfl := hhandsOn h.2.2
      apply h
  | replaying runtime block r => apply And.intro h.1 (h.2.emitBlock hemit).2
  | finished =>
      obtain rfl := hhandsOn h
      apply h
  | _ => cases h

/-- No log was handled twice in any phase. -/
theorem Phase.nodup (h : Phase chain cfg delivered s l startup) :
  l.handled.Nodup ∧ ∀ e ∈ l.handled, e ∈ chain
  := by
  have houtstanding : ∀ {threshold queue}, Outstanding chain threshold delivered l queue →
      l.handled.Nodup ∧ ∀ e ∈ l.handled, e ∈ chain := by
    intro threshold queue h
    constructor
    · apply (List.nodup_append.mp h.nodup).1
    · intro e he
      apply h.mem_chain e (List.mem_append_left _ he)
  cases startup with
  | waiting runtime => apply houtstanding h.2.outstanding
  | readingHead runtime block => apply houtstanding h.2.2.outstanding
  | replaying runtime block r => apply houtstanding h.2.outstanding
  | finished => apply houtstanding h.outstanding
  | _ => cases h

/-! ### Steps -/

/-- What remains to be shown of a step. -/
def KeptOnce (chain : Chain) (cfg : RunConfig) (node : Node) (p : Process) : Prop :=
  Steady p ∧ Phase chain cfg (node.delivered 0) (p.subscriptions 0) p.ledger p.startup

namespace HandlesOnce

/-- A step that changes a listener, and nothing else that matters. -/
theorem kept_of_listener (i : ℕ) {k : Listener} (started : Bool)
    (hw : HandlesOnce chain cfg ⟨node, p⟩) (hlistener : k.done = false)
    (hhandled : l.handled = p.ledger.handled) :
  KeptOnce chain cfg node { p.setSubscription i { p.subscriptions i with
    subscriptionsStarted := started, listener := k } with ledger := l }
  := by
  have hsteady : Steady p := hw.steady
  by_cases hi : 0 = i
  · subst hi
    constructor
    · exact { hsteady with
        shutdown := by simpa [Process.setSubscription] using hsteady.shutdown
        listener := by simpa [Process.setSubscription] using hlistener }
    · have hself := Function.update_self 0 { p.subscriptions 0 with
        subscriptionsStarted := started, listener := k } p.subscriptions
      simp only [Process.setSubscription, hself]
      exact hw.phase.of_same rfl rfl hhandled
  · have hsame := Function.update_of_ne hi { p.subscriptions i with
      subscriptionsStarted := started, listener := k } p.subscriptions
    constructor
    · exact { hsteady with
        shutdown := by simpa [Process.setSubscription, hi] using hsteady.shutdown
        listener := by simpa [Process.setSubscription, hi] using hsteady.listener }
    · simp only [Process.setSubscription, hsame]
      exact hw.phase.of_same rfl rfl hhandled

/-- A step that changes neither a subscription nor the startup sequence. -/
theorem kept_of_eq {health : HealthState} {now : ℤ} {waiters : List ℕ}
    (hw : HandlesOnce chain cfg ⟨node, p⟩) :
  KeptOnce chain cfg node { p with health := health, now := now, waiters := waiters }
  := ⟨{ hw.steady with }, hw.phase⟩

theorem kept_of_liveLog {e : Event} (hw : HandlesOnce chain cfg ⟨node, p⟩) (hchain : e ∈ chain)
    (hnew : e ∉ node.delivered 0) (h : p.liveLog 0 e = some p') :
  KeptOnce chain cfg (node.after (.liveLog 0 e)) p'
  := by
  have hsteady : Steady p := hw.steady
  obtain ⟨-, s, handedOn, hemit, hcases⟩ := Process.liveLog_cases h
  obtain ⟨buffer, hs⟩ := (p.subscriptions 0).emitSubscriptionItem_fst (.event e)
  have hs' : s = { p.subscriptions 0 with bufferedSubscriptionItems := buffer } :=
    (congrArg Prod.fst hemit).symm.trans hs
  have hphase : ∀ l', (handedOn = none → l' = p.ledger) →
      (handedOn = some (.event e) → l' = p.ledger.handleEvent e) →
      Phase chain cfg (e :: node.delivered 0) s l' p.startup :=
    fun l' => hw.phase.emitEvent hchain hnew hemit
  have hsteady' : Steady (p.setSubscription 0 s) := by
    exact { hsteady with
      shutdown := by simpa [Process.setSubscription, hs'] using hsteady.shutdown
      listener := by simpa [Process.setSubscription, hs'] using hsteady.listener }
  obtain ⟨rfl, rfl⟩ | ⟨rfl, rfl⟩ := hcases
  · constructor
    · exact { hsteady' with }
    · simp only [Node.after, Process.setSubscription, Process.markHealth, Function.update_self]
      apply hphase p.ledger (fun _ => rfl) (by simp)
  · constructor
    · exact { hsteady' with }
    · simp only [Node.after, Process.setSubscription, Process.markHealth, Function.update_self]
      apply hphase _ (by simp) (fun _ => rfl)

theorem kept_of_liveHead {head : ℕ} (hw : HandlesOnce chain cfg ⟨node, p⟩)
    (h : p.liveHead 0 head = some p') :
  KeptOnce chain cfg node p'
  := by
  have hsteady : Steady p := hw.steady
  obtain ⟨-, s, handedOn, health, hemit, -, hcases⟩ := Process.liveHead_cases h
  obtain ⟨buffer, hs⟩ := (p.subscriptions 0).handleNewHeadSubscription_fst head
  have hs' : s = { p.subscriptions 0 with bufferedSubscriptionItems := buffer } :=
    (congrArg Prod.fst hemit).symm.trans hs
  have hphase := hw.phase.emitBlock hemit
  obtain ⟨-, rfl⟩ | ⟨-, -, rfl⟩ := hcases
  · constructor
    · exact { hsteady with
        shutdown := by simpa [Process.setSubscription, hs'] using hsteady.shutdown
        listener := by simpa [Process.setSubscription, hs'] using hsteady.listener }
    · simpa only [Process.setSubscription, Function.update_self] using hphase
  · constructor
    · exact { hsteady with
        shutdown := by simpa [Process.setSubscription, hs'] using hsteady.shutdown
        listener := by simp [Process.setSubscription, Listener.done] }
    · simp only [Process.setSubscription, Function.update_self]
      exact hphase.of_same rfl rfl rfl

/-- `catch_up_from` starts to read the head. -/
theorem kept_of_startupWakes (hw : HandlesOnce chain cfg ⟨node, p⟩) (hblock : cfg.blockFrom ≠ 0)
    (h : p.startupWakes cfg = some p') :
  KeptOnce chain cfg node p'
  := by
  have hsteady : Steady p := hw.steady
  obtain ⟨runtime, hstartup, -, ⟨hzero, -⟩ | ⟨-, rfl⟩⟩ := Process.startupWakes_cases h
  · cases hblock hzero
  · have hphase := hw.phase
    rw [hstartup] at hphase
    obtain ⟨hreturns, -⟩ | ⟨-, -, heq⟩ := Process.catchUpLoop_cases
      ((p.markHealth (.markStartupComplete p.now)).markHealth .markCatchupStarted)
      p.moduleRuntime cfg.blockFrom
    · obtain hrequested | hne := hreturns
      · cases hsteady.requested.symm.trans hrequested
      · cases hne rfl
    · rw [heq]
      constructor
      · exact { hsteady with }
      · apply And.intro rfl hphase

theorem kept_of_catchUpHead {head : ℕ} (hw : HandlesOnce chain cfg ⟨node, p⟩)
    (hunseen : ReplaysUnseen cfg ⟨node, p⟩ (.act (.catchUpHead (some head))))
    (h : p.catchUpHead (some head) = some p') :
  KeptOnce chain cfg node p'
  := by
  have hsteady : Steady p := hw.steady
  have hphase := hw.phase
  obtain ⟨runtime, block, hstartup, ⟨⟨⟩, -⟩ | ⟨hne, rfl⟩ | ⟨hruntime, _, s, r, ⟨⟩, hreplay, rfl⟩⟩ :=
    Process.catchUpHead_cases h
  · rw [hstartup] at hphase
    constructor
    · exact { hsteady with }
    · apply hphase.2.2
  · rw [hstartup] at hphase
    obtain ⟨rfl, hthreshold, hhandsOn⟩ := hphase
    have hzero : runtime = 0 := by
      rw [← hruntime]
      apply hsteady.moduleRuntime
    subst hzero
    have hs : s.shutdownEvent = (p.subscriptions 0).shutdownEvent
        ∧ s.listener = (p.subscriptions 0).listener := by
      cases hreplay
      apply And.intro rfl rfl
    constructor
    · exact { hsteady with
        shutdown := by simpa [Process.setSubscription, hs.1] using hsteady.shutdown
        listener := by simpa [Process.setSubscription, hs.2] using hsteady.listener }
    · use rfl
      simp only [Process.setSubscription, Function.update_self]
      apply Replay.once_replayBlocks hthreshold hhandsOn.buffer hhandsOn.outstanding hunseen.1
        hunseen.2 hreplay

theorem kept_of_catchUpReplay {answer : Answer} (hw : HandlesOnce chain cfg ⟨node, p⟩)
    (hok : Honest chain cfg ⟨node, p⟩ (.act (.catchUpReplay answer)))
    (hraises : ∀ fault, answer ≠ .raises fault) (h : p.catchUpReplay cfg answer = some p') :
  KeptOnce chain cfg node p'
  := by
  have hsteady : Steady p := hw.steady
  have hphase := hw.phase
  obtain ⟨runtime, block, r, s, l, outcome, hstartup, hstep, q, hq, hcases⟩ :=
    Process.catchUpReplay_cases h
  rw [hstartup] at hphase
  obtain ⟨rfl, honce⟩ := hphase
  have hanswer : r.AnswerOk chain cfg.blockBatchSize answer := by
    simp only [Honest, hstartup] at hok
    apply hok.answerOk
  have hafter :=
    Replay.once_step cfg.blockBatchSize_pos hsteady.shutdown honce hanswer hraises hstep
  obtain ⟨buffer, hs⟩ := Replay.subscription_eq_of_step hstep
  have hsteady' : Steady q := by
    rw [hq]
    exact { hsteady with
      shutdown := by simpa [Process.replayStepped, Process.setSubscription, hs]
        using hsteady.shutdown
      listener := by simpa [Process.replayStepped, Process.setSubscription, hs]
        using hsteady.listener }
  have hself : q.subscriptions 0 = s ∧ q.ledger = l := by
    simp [hq, Process.replayStepped, Process.setSubscription]
  obtain ⟨r', rfl, rfl⟩ | ⟨rfl, rfl⟩ | ⟨rfl, -⟩ := hcases
  · constructor
    · exact { hsteady' with }
    · use rfl
      simp only [hself]
      apply hafter
  · constructor
    · exact { hsteady' with }
    · simp only [Process.catchUpReturned, Process.markHealth, hself]
      exact ⟨hafter.1, hafter.2⟩
  · cases hafter

/-- The steps that neither deliver a log nor can happen in an undisturbed run on one runtime. -/
theorem kept_of_step {a : Action} (hw : HandlesOnce chain cfg ⟨node, p⟩)
    (hblock : cfg.blockFrom ≠ 0) (hok : CatchesUpOnce chain cfg ⟨node, p⟩ (.act a))
    (h : p.step cfg a = some p') :
  KeptOnce chain cfg (node.after a) p'
  := by
  obtain ⟨hhonest, hundisturbed, hunseen⟩ := hok
  have hsteady : Steady p := hw.steady
  have hphase := hw.phase
  have hfirst : ∀ {i}, (p.subscriptions i).listener ≠ .idle → i = 0 := by
    intro i hlistener
    have hle := hw.timely.process.le_of_listening hlistener
    rw [hsteady.moduleRuntime] at hle
    apply Nat.le_zero.mp hle
  have hsupervisor : ∀ {supervisor}, p.supervisor = supervisor →
      supervisor = .resuming ∨ supervisor = .listening := by
    rintro _ rfl
    apply hsteady.supervisor
  cases a with
  | tick elapsed =>
      cases h
      exact hw.kept_of_eq
  | subscribed i =>
      obtain ⟨-, rfl⟩ := Process.subscribed_cases h
      have hkept := hw.kept_of_listener (l := p.ledger) i true (k := .listening) rfl rfl
      exact ⟨{ hkept.1 with }, hkept.2⟩
  | liveLog i e =>
      obtain rfl := hfirst (i := i) (by simp [(Process.liveLog_cases h).1])
      apply hw.kept_of_liveLog hhonest.1 hhonest.2.2 h
  | liveHead i head =>
      obtain rfl := hfirst (i := i) (by simp [(Process.liveHead_cases h).1])
      apply hw.kept_of_liveHead h
  | liveBlockDone i =>
      obtain ⟨number, -, rfl⟩ := Process.liveBlockDone_cases h
      exact hw.kept_of_listener i _ rfl rfl
  | waitUntilSubscribed =>
      cases h
      exact hw.kept_of_eq
  | waiterDone runtime =>
      obtain ⟨-, -, rfl⟩ := Process.waiterDone_cases h
      exact hw.kept_of_eq
  | resumed =>
      obtain ⟨-, listener, hlistener, ⟨hpending, -⟩ | ⟨-, rfl⟩⟩ := Process.resumed_cases h
      · rw [hsteady.pending] at hpending
        cases hpending
      · have hconnecting : listener.done = false := by
          obtain ⟨hshutdown, -⟩ | rfl := hlistener
          · rw [Process.rawSubscription, hsteady.moduleRuntime] at hshutdown
            cases hsteady.shutdown.symm.trans hshutdown
          · rfl
        have hkept := hw.kept_of_listener (l := p.ledger) p.moduleRuntime
          p.rawSubscription.subscriptionsStarted hconnecting rfl
        exact ⟨{ hkept.1 with restarted := rfl, supervisor := Or.inr rfl }, hkept.2⟩
  | supervisorWakes =>
      have hdone : p.rawSubscription.listener.done = false := by
        rw [Process.rawSubscription, hsteady.moduleRuntime]
        apply hsteady.listener
      obtain hresuming | hlistening := hsteady.supervisor
      · simp [Process.step, Process.supervisorWakes, hresuming] at h
      · simp [Process.step, Process.supervisorWakes, hlistening, hsteady.restarted, hdone] at h
  | supervisorHead head =>
      obtain hreading | hreading := hsupervisor (Process.supervisorHead_cases h).1
      · cases hreading
      · cases hreading
  | supervisorReplay answer =>
      obtain ⟨r, s, l, outcome, hreplaying, -⟩ := Process.supervisorReplay_cases h
      obtain hreplaying | hreplaying := hsupervisor hreplaying
      · cases hreplaying
      · cases hreplaying
  | aborted =>
      obtain ⟨block, haborting, -⟩ := Process.aborted_cases h
      obtain haborting | haborting := hsupervisor haborting
      · cases haborting
      · cases haborting
  | stopped =>
      obtain hstopping | hstopping := hsupervisor (Process.stopped_cases h).1
      · cases hstopping
      · cases hstopping
  | startupWakes => apply hw.kept_of_startupWakes hblock h
  | initialHead head =>
      rw [(Process.initialHead_cases h).1] at hphase
      cases hphase
  | persisted =>
      rw [(Process.persisted_cases h).1] at hphase
      cases hphase
  | catchUpHead head =>
      cases head with
      | none => cases hundisturbed
      | some head => apply hw.kept_of_catchUpHead hunseen h
  | catchUpReplay answer =>
      apply hw.kept_of_catchUpReplay hhonest _ h
      rintro fault rfl
      cases hundisturbed
  | catchUpSlept =>
      obtain ⟨runtime, block, hstartup, -⟩ := Process.catchUpSlept_cases h
      rw [hstartup] at hphase
      cases hphase
  | _ => cases hundisturbed

theorem of_step {m : Move} (hw : HandlesOnce chain cfg w) (hblock : cfg.blockFrom ≠ 0)
    (hok : w.CatchesUpOnce chain cfg m) (h : w.step cfg m = some w') :
  HandlesOnce chain cfg w'
  := by
  have htimely := hw.timely.of_step hok.1 h
  obtain ⟨-, rfl⟩ | ⟨i, -, -, -, rfl⟩ | ⟨a, p', rfl, hstep, rfl⟩ := step_cases h
  · exact { hw with timely := htimely }
  · exact { hw with timely := htimely }
  · have hkept : KeptOnce chain cfg (w.node.after a) p' := kept_of_step hw hblock hok hstep
    exact {
      timely := htimely
      steady := hkept.1
      phase := hkept.2 }

end HandlesOnce

theorem handlesOnce_initial (now : ℤ) (height : ℕ) :
  HandlesOnce chain cfg (initial cfg now height)
  where
  timely := timely_initial cfg now height
  steady := ⟨rfl, rfl, Or.inl rfl, rfl, rfl, rfl, rfl⟩
  phase := ⟨rfl, rfl, List.nodup_nil, nofun, nofun⟩

/-- In an undisturbed run on one runtime whose replay fetches no log that was handled before
it starts, no log at or after the block where `catch_up_from` starts is passed to
`handle_event` twice. -/
theorem handledOnce_of_reaches {now : ℤ} {height : ℕ} (hblock : cfg.blockFrom ≠ 0)
    (h : Reaches (step cfg) (CatchesUpOnce chain cfg) (initial cfg now height) w) :
  ((w.process.ledger.handled.filter fun e => cfg.blockFrom ≤ e.block).map
    Event.logIdentity).Nodup
  := by
  have hw : HandlesOnce chain cfg w := by
    apply h.invariant (I := HandlesOnce chain cfg)
    · rintro w m w' hw hok hstep
      apply hw.of_step hblock hok hstep
    · apply handlesOnce_initial
  obtain ⟨hnodup, hchain⟩ := hw.phase.nodup
  apply List.Nodup.map_on
  · intro e he e' he' hidentity
    apply chain.identity e e' _ _ hidentity
    · apply hchain e (List.mem_of_mem_filter he)
    · apply hchain e' (List.mem_of_mem_filter he')
  · apply hnodup.filter

/-- A startup from checkpoint `5`, with a log in block `6` that is replayed and then arrives
live as well. -/
theorem handledOnce_fromCheckpoint :
  ∃ w : World, ((w.process.ledger.handled.filter fun e => 6 ≤ e.block).map
      Event.logIdentity).Nodup
    ∧ w.process.ledger.handled = [.first 6] ∧ w.node.delivered 0 = [.first 6]
  := by
  obtain ⟨w, hreach, hhandled⟩ := exists_reaches_of_execute (step (.fromCheckpoint 5))
    (CatchesUpOnce (.single (.first 6)) (.fromCheckpoint 5)) (initial (.fromCheckpoint 5) 0 5)
    [.act .resumed, .activated 0, .act (.subscribed 0), .act .startupWakes, .mined,
      .act (.catchUpHead (some 6)), .act (.catchUpReplay .proceed),
      .act (.catchUpReplay (.events [.first 6])), .act (.liveLog 0 (.first 6)),
      .act (.catchUpReplay .proceed), .act (.catchUpReplay .proceed)]
    (fun w => w.process.ledger.handled = [.first 6] ∧ w.node.delivered 0 = [.first 6]) rfl
  use w, handledOnce_of_reaches (by decide) hreach, hhandled.1, hhandled.2

/-- A startup from checkpoint `5`, with a log in block `6` that arrives live before the head is
read: it is handled, and handled again in the replay. -/
theorem exists_handledTwice :
  ∃ w : World, Reaches (step (.fromCheckpoint 5))
      (fun w m => w.Honest (.single (.first 6)) (.fromCheckpoint 5) m ∧ Undisturbed m)
      (initial (.fromCheckpoint 5) 0 5) w
    ∧ w.process.ledger.handled = [.first 6, .first 6]
  := by
  apply exists_reaches_of_execute (step (.fromCheckpoint 5))
    (fun w m => w.Honest (.single (.first 6)) (.fromCheckpoint 5) m ∧ Undisturbed m)
    (initial (.fromCheckpoint 5) 0 5)
    [.act .resumed, .activated 0, .act (.subscribed 0), .mined, .act (.liveLog 0 (.first 6)),
      .act .startupWakes, .act (.catchUpHead (some 6)), .act (.catchUpReplay .proceed),
      .act (.catchUpReplay (.events [.first 6]))]
  rfl

end World

end Sentinel
