import Sentinel.Supervisor.Soundness

/-!
# Regimes of the current runtime

In a run where live blocks are handed on only when no replay is owed, where `catch_up_from`
starts when no reconnect replay is pending, and where a head is not lower than the chain was
when it was asked for, the current subscription keeps what its regime promises, and every
number the process holds is covered.
-/

namespace Sentinel

open Transition

variable {chain : Chain} {base : ℕ} {cfg : RunConfig}

namespace World

variable {w w' : World} {node : Node} {p p' : Process}

/-- The live side of the current subscription. -/
def currentFeed (w : World) : Feed :=
  (w.process.subscriptions w.process.moduleRuntime).feed (w.node.since w.process.moduleRuntime)
    (w.node.delivered w.process.moduleRuntime)

/-- The current subscription is shut down, or its feed is what its regime promises. -/
def Staged (chain : Chain) (base : ℕ) (cfg : RunConfig) (w : World) : Prop :=
  (w.process.subscriptions w.process.moduleRuntime).shutdownEvent = false →
    Stage chain base w.currentFeed w.process.ledger (w.regime cfg)

/-- A head is not lower than the chain was when it was asked for. -/
def HeadsFresh (w : World) : Move → Prop
  | .act (.supervisorHead (some head)) => w.node.askedBySupervisor ≤ head
  | .act (.catchUpHead (some head)) => w.node.askedByStartup ≤ head
  | _ => True

/-- A live block is handed on only when the current runtime owes no replay. -/
def BlocksAfterReplay (cfg : RunConfig) (w : World) : Move → Prop
  | .act (.liveHead i head) =>
      ((w.process.subscriptions i).handleNewHeadSubscription head).2.isSome = true →
        (w.regime cfg).isLive = true
  | _ => True

/-- `catch_up_from` starts when no reconnect replay is pending. -/
def CatchUpStartsClear (cfg : RunConfig) (w : World) : Move → Prop
  | .act a => w.process.CatchUpStartsClear cfg a
  | _ => True

instance (m : Move) : Decidable (w.HeadsFresh m) := by
  induction m using Move.casesOn with
  | act a =>
      induction a using Action.casesOn with
      | supervisorHead head =>
          induction head using Option.casesOn <;> unfold HeadsFresh <;> infer_instance
      | catchUpHead head =>
          induction head using Option.casesOn <;> unfold HeadsFresh <;> infer_instance
      | _ => exact isTrue trivial
  | _ => exact isTrue trivial

instance (m : Move) : Decidable (w.BlocksAfterReplay cfg m) := by
  induction m using Move.casesOn with
  | act a =>
      induction a using Action.casesOn with
      | liveHead i head => unfold BlocksAfterReplay; infer_instance
      | _ => exact isTrue trivial
  | _ => exact isTrue trivial

instance (m : Move) : Decidable (w.CatchUpStartsClear cfg m) := by
  unfold CatchUpStartsClear
  split <;> infer_instance

/-! ### Where nothing changes for the current subscription -/

/-- The feed and the regime of the current subscription stay while the ledger grows. -/
theorem Staged.of_same (hw : w.Staged chain base cfg)
    (hshutdown : (w'.process.subscriptions w'.process.moduleRuntime).shutdownEvent
      = (w.process.subscriptions w.process.moduleRuntime).shutdownEvent)
    (hfeed : w'.currentFeed = w.currentFeed) (hregime : w'.regime cfg = w.regime cfg)
    (hl : w.process.ledger ≤ w'.process.ledger) :
  w'.Staged chain base cfg
  := by
  intro hs
  rw [hfeed, hregime]
  rw [hshutdown] at hs
  apply (hw hs).of_le hl

/-- A shut down subscription promises nothing. -/
theorem staged_of_shutdown
    (h : (w.process.subscriptions w.process.moduleRuntime).shutdownEvent = true) :
  w.Staged chain base cfg
  := by
  intro hs
  cases h.symm.trans hs

theorem asked_after {a : Action} (ha : a.background = true) :
  (node.after a).askedByStartup = node.askedByStartup
    ∧ (node.after a).askedBySupervisor = node.askedBySupervisor
  := by
  cases a with
  | liveLog i e => apply And.intro rfl rfl
  | tick _ | subscribed _ | listenerEnded _ _ | liveHead _ _ | liveBlockDone _
  | waitUntilSubscribed | waiterDone _ => apply And.intro rfl rfl
  | _ => cases ha

/-- Background steps do not change the regime. -/
theorem regime_of_sameControl {a : Action} (ha : a.background = true) (h : p.SameControl p') :
  regime cfg ⟨node.after a, p'⟩ = regime cfg ⟨node, p⟩
  := by
  simp only [regime, h.pendingReplayStartBlock, h.supervisor, h.startup, h.moduleRuntime,
    (asked_after ha).1, (asked_after ha).2]

/-- A subscription with the same threshold and the same buffer has the same feed. -/
theorem feed_update {subscriptions : ℕ → Subscription} {i : ℕ} {s : Subscription}
    (hthreshold : s.ignoreSubscriptionEventsUntilBlock
      = (subscriptions i).ignoreSubscriptionEventsUntilBlock)
    (hbuffer : s.bufferedSubscriptionItems = (subscriptions i).bufferedSubscriptionItems)
    (j : ℕ) (since : Option ℕ) (delivered : List Event) :
  (Function.update subscriptions i s j).feed since delivered
    = (subscriptions j).feed since delivered
  := by
  by_cases hj : j = i
  · subst hj
    rw [Function.update_self, Subscription.feed, Subscription.feed, hthreshold, hbuffer]
  · rw [Function.update_of_ne hj]

/-! ### Background steps -/

/-- What a world is in while every promise is kept. -/
structure Sound (chain : Chain) (base : ℕ) (cfg : RunConfig) (w : World) : Prop where
  timely : w.Timely
  wellFormed : w.process.WellFormed
  exclusive : w.process.CatchUpExclusive
  onStarted : w.process.OnStarted
  startsAfter : w.process.StartsAfter base cfg
  claimed : w.process.Claimed chain base cfg
  staged : w.Staged chain base cfg

/-- What remains to be shown of a step. -/
def Kept (chain : Chain) (base : ℕ) (cfg : RunConfig) (w : World) : Prop :=
  w.process.Claimed chain base cfg ∧ w.Staged chain base cfg

namespace Sound

/-- A step that changes the listener of a subscription, and nothing else that matters. -/
theorem kept_of_listener {a : Action} (hw : Sound chain base cfg ⟨node, p⟩)
    (ha : a.background = true) (hsince : (node.after a).since = node.since)
    (hdelivered : (node.after a).delivered = node.delivered) (hc : p.SameControl p') {i : ℕ}
    {s : Subscription} (hsub : p'.subscriptions = Function.update p.subscriptions i s)
    (hthreshold : s.ignoreSubscriptionEventsUntilBlock
      = (p.subscriptions i).ignoreSubscriptionEventsUntilBlock)
    (hbuffer : s.bufferedSubscriptionItems = (p.subscriptions i).bufferedSubscriptionItems)
    (hl : p.ledger ≤ p'.ledger) (hblock : Covered chain base p'.ledger p'.ledger.block)
    (hs : ∀ number, s.listener = .handling number → Covered chain base p'.ledger number) :
  Kept chain base cfg ⟨node.after a, p'⟩
  := by
  constructor
  · apply hw.claimed.of_sameControl hc hl hblock
    rw [hsub]
    apply Process.handling_update _ hs
    intro j number hj
    apply (hw.claimed.handling j number hj).of_le hl
  · apply hw.staged.of_same
    · simp only [hc.moduleRuntime, hc.shutdownEvent]
    · simp only [currentFeed, hc.moduleRuntime, hsince, hdelivered, hsub]
      apply feed_update hthreshold hbuffer
    · apply regime_of_sameControl ha hc
    · apply hl

/-- A live log of the chain. -/
theorem kept_of_liveLog {i : ℕ} {e : Event} (hw : Sound chain base cfg ⟨node, p⟩)
    (h : p.step cfg (.liveLog i e) = some p') :
  Kept chain base cfg ⟨node.after (.liveLog i e), p'⟩
  := by
  have hc := Process.sameControl_of_background h rfl
  obtain ⟨-, s, handedOn, hemit, hcases⟩ := Process.liveLog_cases h
  obtain ⟨buffer, hs⟩ := (p.subscriptions i).emitSubscriptionItem_fst (.event e)
  obtain rfl := (congrArg Prod.fst hemit).symm.trans hs
  have hledger : p.ledger ≤ p'.ledger ∧ p'.ledger.block = p.ledger.block
      ∧ (handedOn = some (.event e) → e ∈ p'.ledger.handled)
      ∧ p'.subscriptions = Function.update p.subscriptions i { p.subscriptions i with
          bufferedSubscriptionItems := buffer } := by
    obtain ⟨rfl, rfl⟩ | ⟨rfl, rfl⟩ := hcases
    · refine ⟨le_refl _, rfl, by simp, rfl⟩
    · refine ⟨p.ledger.le_handleEvent e, rfl, fun _ => ?_, rfl⟩
      simp
  obtain ⟨hl, hblock, hhandled, hsub⟩ := hledger
  constructor
  · apply hw.claimed.of_sameControl hc hl
    · rw [hblock]
      apply hw.claimed.block.of_le hl
    · rw [hsub]
      apply Process.handling_update
      · intro j number hj
        apply (hw.claimed.handling j number hj).of_le hl
      · intro number hnumber
        apply (hw.claimed.handling i number hnumber).of_le hl
  · by_cases hi : i = p.moduleRuntime
    · subst hi
      intro hs
      simp only [hc.moduleRuntime, hc.shutdownEvent] at hs
      rw [regime_of_sameControl rfl hc]
      have hstage := (hw.staged hs).emitEvent hs hemit hl hhandled
      simpa only [currentFeed, hc.moduleRuntime, hsub, Node.after, Function.update_self]
        using hstage
    · apply hw.staged.of_same
      · simp only [hc.moduleRuntime, hc.shutdownEvent]
      · simp only [currentFeed, hc.moduleRuntime, hsub, Node.after,
          Function.update_of_ne (Ne.symm hi)]
      · apply regime_of_sameControl rfl hc
      · apply hl

/-- A new head. -/
theorem kept_of_liveHead {i head : ℕ} (hw : Sound chain base cfg ⟨node, p⟩)
    (hdelivered : node.DeliveredBefore chain i head)
    (hlive : BlocksAfterReplay cfg ⟨node, p⟩ (.act (.liveHead i head)))
    (h : p.step cfg (.liveHead i head) = some p') :
  Kept chain base cfg ⟨node.after (.liveHead i head), p'⟩
  := by
  have hc := Process.sameControl_of_background h rfl
  obtain ⟨hlistener, s, handedOn, health, hemit, -, hcases⟩ := Process.liveHead_cases h
  have hle : i ≤ p.moduleRuntime := hw.timely.process.le_of_listening (by simp [hlistener])
  have hcurrent : (p.subscriptions i).shutdownEvent = false → i = p.moduleRuntime := by
    intro hs
    by_contra hne
    have hlt : i < p.moduleRuntime := Nat.lt_of_le_of_ne hle hne
    cases hs.symm.trans (hw.wellFormed.shutdown_of_lt i hlt)
  have hpromise : (p.subscriptions i).shutdownEvent = false →
      Stage chain base (s.feed (node.since i) (node.delivered i)) p.ledger
          (regime cfg ⟨node, p⟩)
        ∧ (handedOn.isSome = true → Covered chain base p.ledger (head - 1)) := by
    intro hs
    obtain rfl := hcurrent hs
    have hstage := hw.staged hs
    have hhanded : handedOn.isSome = true → regime cfg ⟨node, p⟩ = .live := by
      intro hsome
      have hsnd : handedOn = _ := (congrArg Prod.snd hemit).symm
      rw [hsnd] at hsome
      apply Regime.eq_live (hlive hsome)
    simp only [Subscription.handleNewHeadSubscription] at hemit
    split at hemit
    · cases hemit
      use hstage, by simp
    · apply hstage.emitBlock hemit _ hhanded
      intro a ha e he hlt hle
      apply hdelivered a ha e (Chain.mem_logsBetween.mpr ⟨he, hlt, hle⟩)
  obtain ⟨buffer, hs⟩ := (p.subscriptions i).handleNewHeadSubscription_fst head
  obtain rfl := (congrArg Prod.fst hemit).symm.trans hs
  -- the listener waits for the next message, or for `handle_block`
  have hsub : ∃ listener, p'.ledger = p.ledger
      ∧ p'.subscriptions = Function.update p.subscriptions i { p.subscriptions i with
          bufferedSubscriptionItems := buffer, listener := listener }
      ∧ ∀ number, listener = .handling number → Covered chain base p.ledger number := by
    obtain ⟨rfl, rfl⟩ | ⟨rfl, -, rfl⟩ := hcases
    · use (p.subscriptions i).listener, rfl, rfl
      apply hw.claimed.handling i
    · use .handling (head - 1), rfl, rfl
      rintro _ ⟨⟩
      cases hshutdown : (p.subscriptions i).shutdownEvent with
      | false => apply (hpromise hshutdown).2 rfl
      | true =>
          have hnone := Subscription.handleNewHeadSubscription_snd hshutdown head
          rw [hemit] at hnone
          cases hnone
  obtain ⟨listener, hledger, hsub, hhandling⟩ := hsub
  constructor
  · apply hw.claimed.of_sameControl hc
    · rw [hledger]
    · rw [hledger]
      apply hw.claimed.block
    · rw [hledger, hsub]
      apply Process.handling_update hw.claimed.handling hhandling
  · by_cases hi : i = p.moduleRuntime
    · subst hi
      intro hs
      simp only [hc.moduleRuntime, hc.shutdownEvent] at hs
      rw [regime_of_sameControl rfl hc]
      simp only [currentFeed, hc.moduleRuntime, hledger, hsub, Node.after, Function.update_self]
      apply (hpromise hs).1
    · apply hw.staged.of_same
      · simp only [hc.moduleRuntime, hc.shutdownEvent]
      · simp only [currentFeed, hc.moduleRuntime, hsub, Node.after,
          Function.update_of_ne (Ne.symm hi)]
      · apply regime_of_sameControl rfl hc
      · rw [hledger]

/-- Background steps keep every promise. -/
theorem kept_of_background {a : Action} (hw : Sound chain base cfg ⟨node, p⟩)
    (ha : a.background = true) (hok : Honest chain cfg ⟨node, p⟩ (.act a))
    (hlive : BlocksAfterReplay cfg ⟨node, p⟩ (.act a)) (h : p.step cfg a = some p') :
  Kept chain base cfg ⟨node.after a, p'⟩
  := by
  have hc := Process.sameControl_of_background h ha
  cases a with
  | tick elapsed =>
      cases h
      exact ⟨{ hw.claimed with }, hw.staged⟩
  | subscribed i =>
      obtain ⟨-, rfl⟩ := Process.subscribed_cases h
      exact hw.kept_of_listener rfl rfl rfl hc rfl rfl rfl (le_refl _) hw.claimed.block nofun
  | listenerEnded i unavailable =>
      obtain ⟨-, listener, health, hlistener, -, rfl⟩ := Process.listenerEnded_cases h
      apply hw.kept_of_listener rfl rfl rfl hc rfl rfl rfl (le_refl _) hw.claimed.block
      rintro number rfl
      simp at hlistener
  | liveLog i e => apply hw.kept_of_liveLog h
  | liveHead i head => apply hw.kept_of_liveHead hok.2 hlive h
  | liveBlockDone i =>
      obtain ⟨number, hlistener, rfl⟩ := Process.liveBlockDone_cases h
      exact hw.kept_of_listener rfl rfl rfl hc rfl rfl rfl (p.ledger.le_advanceBlock number)
        (hw.claimed.block.advanceBlock (hw.claimed.handling i number hlistener)) nofun
  | waitUntilSubscribed =>
      cases h
      exact ⟨{ hw.claimed with }, hw.staged⟩
  | waiterDone runtime =>
      obtain ⟨-, -, rfl⟩ := Process.waiterDone_cases h
      exact ⟨{ hw.claimed with }, hw.staged⟩
  | _ => cases ha

end Sound

end World

end Sentinel
