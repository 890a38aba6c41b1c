import Sentinel.Rpc.Failover

/-!
# What a step of a request does

Each step of a request is one of the `Moves`: the operation ends, or the request goes to another
phase and the connection changes as `Steps` says. What a property needs to know about the code
of a step is read off here.
-/

namespace Sentinel

namespace Request

variable {α : Type} (P : FallbackProvider) (r : ℕ) (c : FallbackConnection) (q : Request α)

/-- A connect is at the head of its loop, with the lock. -/
inductive AtLoop : FallbackConnection → Caller → ℕ → Prop where
  | locked {caller} (hphase : q.phase = .connecting caller .locking)
      (hlock : c.connectLock = none) (hactive : c.activeEndpoint = none) :
      AtLoop { c with connectLock := some r } caller 0
  | cleared {caller} (hphase : q.phase = .connecting caller .clearing) : AtLoop c caller 0
  | woken {caller completedRounds}
      (hphase : q.phase = .connecting caller (.waiting completedRounds)) :
      AtLoop c caller completedRounds

/-- The steps of a request other than the end of its operation. Where a connect returns, they tell
the event. -/
inductive Steps : RequestEvent α → FallbackConnection → RequestPhase α → Prop where
  | begin {event} (hphase : q.phase = .idle) : Steps event c (.connecting .executeRequest .locking)
  /-- the active endpoint is excluded -/
  | exclude {event caller endpoint} (hphase : q.phase = .connecting caller .locking)
      (hlock : c.connectLock = none) (hactive : c.activeEndpoint = some endpoint)
      (hmem : endpoint.index ∈ q.excludedIndices caller) :
      Steps event { c with connectLock := some r }.drop (.connecting caller .clearing)
  | check {event caller endpoint} (hphase : q.phase = .connecting caller .locking)
      (hlock : c.connectLock = none) (hactive : c.activeEndpoint = some endpoint)
      (hmem : endpoint.index ∉ q.excludedIndices caller) :
      Steps event { c with connectLock := some r } (.connecting caller .checking)
  | roundsOver {event c' caller completedRounds} (h : AtLoop r c q c' caller completedRounds) :
      Steps event { c' with connectLock := none } (unconnected .endpointsUnavailable caller)
  | noUntried {event c' caller completedRounds now} (h : AtLoop r c q c' caller completedRounds)
      (hcandidates : c'.pool.candidates (q.excludedIndices caller) now = ([], none)) :
      Steps event { c' with connectLock := none } (unconnected .noUntriedEndpoints caller)
  | wait {event c' caller completedRounds} (h : AtLoop r c q c' caller completedRounds) :
      Steps event c' (.connecting caller (.waiting completedRounds))
  | select {event c' caller completedRounds now endpoint candidates waitSeconds}
      (h : AtLoop r c q c' caller completedRounds)
      (hcandidates : c'.pool.candidates (q.excludedIndices caller) now
        = (endpoint :: candidates, waitSeconds)) :
      Steps event { c' with activeTransport := some endpoint.index }
        (.connecting caller (.opening endpoint candidates completedRounds))
  | connected {caller} (hphase : q.phase = .connecting caller .checking) :
      Steps (.checked true) { c with connectLock := none } (connected c caller)
  /-- the active connection is found to be lost -/
  | lost {caller} (hphase : q.phase = .connecting caller .checking) :
      Steps (.checked false) c.drop (.connecting caller .clearing)
  | opened {caller endpoint candidates completedRounds} (now : ℚ)
      (hphase : q.phase = .connecting caller (.opening endpoint candidates completedRounds)) :
      Steps (.opened now) { c.establish endpoint now with connectLock := none }
        (Request.connected (c.establish endpoint now) caller)
  | openFailed {event caller endpoint candidates completedRounds}
      (hphase : q.phase = .connecting caller (.opening endpoint candidates completedRounds)) :
      Steps event { c with activeTransport := none }
        (.connecting caller (.abandoning endpoint candidates completedRounds))
  | next {event caller failed endpoint candidates completedRounds} (now : ℚ)
      (hphase : q.phase
        = .connecting caller (.abandoning failed (endpoint :: candidates) completedRounds)) :
      Steps event { c with
          pool := c.pool.markFailed failed now
          activeTransport := some endpoint.index }
        (.connecting caller (.opening endpoint candidates completedRounds))
  | pause {event caller failed completedRounds} (now : ℚ)
      (hphase : q.phase = .connecting caller (.abandoning failed [] completedRounds)) :
      Steps event { c with pool := c.pool.markFailed failed now }
        (.connecting caller (.waiting (completedRounds + 1)))
  | giveUp {event caller failed completedRounds} (now : ℚ)
      (hphase : q.phase = .connecting caller (.abandoning failed [] completedRounds)) :
      Steps event { c with
          pool := c.pool.markFailed failed now
          connectLock := none }
        (unconnected .endpointsUnavailable caller)
  | makeRequest {event endpoint generation carrier}
      (hphase : q.phase = .operating endpoint generation carrier) :
      Steps event c (.connecting (.makeRequest endpoint generation) .locking)
  | invalidate {event endpoint generation kind cooldown} (now : ℚ)
      (hphase : q.phase = .invalidating endpoint generation kind cooldown)
      (hlock : c.failoverLock = none) (hactive : c.activeEndpoint = some endpoint)
      (hgeneration : c.connectionGeneration = generation) :
      Steps event { c.drop with
          pool := if cooldown then c.pool.markFailed endpoint now else c.pool
          failoverLock := some r
          invalidated := c.invalidated ++ [generation] }
        (.closing kind)
  /-- the connection was replaced or is gone already -/
  | stale {event endpoint generation kind cooldown}
      (hphase : q.phase = .invalidating endpoint generation kind cooldown)
      (hstale : ¬ (c.activeEndpoint = some endpoint ∧ c.connectionGeneration = generation)) :
      Steps event c (q.continued P kind)
  | closed {event kind} (hphase : q.phase = .closing kind) :
      Steps event { c with failoverLock := none } (q.continued P kind)
  | abort (hidle : q.phase ≠ .idle) (hdone : ∀ outcome, q.phase ≠ .done outcome) :
      Steps .abort (c.release r) (.done (.aborted q.phase.called))

/-- The steps of a request. -/
inductive Moves : RequestEvent α → FallbackConnection → Request α → Prop where
  | step {event c' phase} (h : Steps P r c q event c' phase) : Moves event c' (q.goto phase)
  | finish {endpoint generation carrier} (result : Except ProviderException α)
      (hphase : q.phase = .operating endpoint generation carrier) :
      Moves (.finish result) c (q.finish P endpoint generation carrier result)

variable {P r c q} {event : RequestEvent α}

/-- What the head of the loop of a connect does. -/
theorem steps_of_select {c₁ c' : FallbackConnection} {phase : RequestPhase α} {caller : Caller}
    {completedRounds : ℕ} {now : ℚ} (hloop : AtLoop r c q c₁ caller completedRounds)
    (h : q.select P c₁ caller completedRounds now = (c', phase)) :
  Steps P r c q event c' phase
  := by
  rw [select] at h
  split at h
  · obtain ⟨rfl, rfl⟩ := Prod.mk.inj h
    apply Steps.roundsOver hloop
  · split at h
    next hcandidates =>
        obtain ⟨rfl, rfl⟩ := Prod.mk.inj h
        apply Steps.noUntried hloop hcandidates
    next hcandidates =>
        obtain ⟨rfl, rfl⟩ := Prod.mk.inj h
        apply Steps.wait hloop
    next hcandidates =>
        obtain ⟨rfl, rfl⟩ := Prod.mk.inj h
        apply Steps.select hloop hcandidates

/-- What a connect does when it gets the lock. -/
theorem steps_of_enter {c' : FallbackConnection} {phase : RequestPhase α} {caller : Caller}
    {now : ℚ} (hphase : q.phase = .connecting caller .locking) (hlock : c.connectLock = none)
    (h : q.enter P c r caller now = (c', phase)) :
  Steps P r c q event c' phase
  := by
  rw [enter] at h
  dsimp only at h
  split at h
  next endpoint hactive =>
      split at h
      next hmem =>
          obtain ⟨rfl, rfl⟩ := Prod.mk.inj h
          apply Steps.exclude hphase hlock hactive hmem
      next hmem =>
          obtain ⟨rfl, rfl⟩ := Prod.mk.inj h
          apply Steps.check hphase hlock hactive hmem
  next hactive => apply steps_of_select (.locked hphase hlock hactive) h

/-- What a connect does when an endpoint is closed that could not be opened. -/
theorem steps_of_tryNext {c' : FallbackConnection} {phase : RequestPhase α} {caller : Caller}
    {endpoint : RpcEndpoint} {candidates : List RpcEndpoint} {completedRounds : ℕ} {now : ℚ}
    (hphase : q.phase = .connecting caller (.abandoning endpoint candidates completedRounds))
    (h : q.tryNext P c caller endpoint candidates completedRounds now = (c', phase)) :
  Steps P r c q event c' phase
  := by
  cases candidates with
  | cons endpoint' candidates =>
      obtain ⟨rfl, rfl⟩ := Prod.mk.inj h
      apply Steps.next now hphase
  | nil =>
      rw [tryNext] at h
      dsimp only at h
      split at h
      · obtain ⟨rfl, rfl⟩ := Prod.mk.inj h
        apply Steps.giveUp now hphase
      · obtain ⟨rfl, rfl⟩ := Prod.mk.inj h
        apply Steps.pause now hphase

/-- What an invalidation does when it gets the lock. -/
theorem steps_of_invalidate {c' : FallbackConnection} {phase : RequestPhase α}
    {endpoint : RpcEndpoint} {generation : ℕ} {kind : RpcFailureKind} {cooldown : Bool} {now : ℚ}
    (hphase : q.phase = .invalidating endpoint generation kind cooldown)
    (hlock : c.failoverLock = none)
    (h : q.invalidate P c r endpoint generation kind cooldown now = (c', phase)) :
  Steps P r c q event c' phase
  := by
  rw [invalidate] at h
  split at h
  next hcurrent =>
      obtain ⟨rfl, rfl⟩ := Prod.mk.inj h
      apply Steps.invalidate now hphase hlock hcurrent.1 hcurrent.2
  next hstale =>
      obtain ⟨rfl, rfl⟩ := Prod.mk.inj h
      apply Steps.stale hphase hstale

/-- Every event leads through one of the steps. -/
theorem steps_of_advance {c' : FallbackConnection}
    {phase : RequestPhase α} (h : q.advance P c r event = some (c', phase)) :
  Steps P r c q event c' phase
  := by
  cases event with
  | begin =>
      simp only [advance] at h
      split at h
      next hphase =>
          obtain ⟨⟩ := h
          apply Steps.begin hphase
      next => cases h
  | acquire now =>
      simp only [advance] at h
      split at h
      next caller hphase =>
          obtain ⟨hlock, h⟩ := Option.ite_none_right_eq_some.mp h
          apply steps_of_enter hphase hlock (Option.some.inj h)
      next => cases h
  | checked connected =>
      simp only [advance] at h
      split at h
      next caller hphase =>
          cases connected with
          | true =>
              obtain ⟨⟩ := h
              apply Steps.connected hphase
          | false =>
              obtain ⟨⟩ := h
              apply Steps.lost hphase
      next => cases h
  | opened now =>
      simp only [advance] at h
      split at h
      next caller endpoint candidates completedRounds hphase =>
          obtain ⟨⟩ := h
          apply Steps.opened now hphase
      next => cases h
  | openFailed =>
      simp only [advance] at h
      split at h
      next caller endpoint candidates completedRounds hphase =>
          obtain ⟨⟩ := h
          apply Steps.openFailed hphase
      next => cases h
  | resume now =>
      simp only [advance] at h
      split at h
      next caller hphase => apply steps_of_select (.cleared hphase) (Option.some.inj h)
      next caller completedRounds hphase =>
          apply steps_of_select (.woken hphase) (Option.some.inj h)
      next caller endpoint candidates completedRounds hphase =>
          apply steps_of_tryNext hphase (Option.some.inj h)
      next kind hphase =>
          obtain ⟨⟩ := h
          apply Steps.closed hphase
      next => cases h
  | makeRequest =>
      simp only [advance] at h
      split at h
      next endpoint generation carrier hphase =>
          obtain ⟨⟩ := h
          apply Steps.makeRequest hphase
      next => cases h
  | finish result => cases h
  | invalidate now =>
      simp only [advance] at h
      split at h
      next endpoint generation kind cooldown hphase =>
          obtain ⟨hlock, h⟩ := Option.ite_none_right_eq_some.mp h
          apply steps_of_invalidate hphase hlock (Option.some.inj h)
      next => cases h
  | abort =>
      simp only [advance] at h
      split at h
      next => cases h
      next => cases h
      next hidle hdone =>
          obtain ⟨⟩ := h
          apply Steps.abort hidle hdone

/-- Every step of a request is one of the moves. -/
theorem moves_of_step {c' : FallbackConnection} {q' : Request α}
    (h : q.step P c r event = some (c', q')) :
  Moves P r c q event c' q'
  := by
  by_cases hfinish : ∃ result, event = .finish result
  · obtain ⟨result, rfl⟩ := hfinish
    rw [step] at h
    split at h
    next endpoint generation carrier hphase =>
        obtain ⟨⟩ := h
        apply Moves.finish result hphase
    next => cases h
  · rw [step] at h
    · obtain ⟨⟨c₁, phase⟩, hadvance, heq⟩ := Option.map_eq_some_iff.mp h
      obtain ⟨rfl, rfl⟩ := Prod.mk.inj heq
      apply Moves.step (steps_of_advance hadvance)
    · intro result heq
      apply hfinish ⟨result, heq⟩

end Request

end Sentinel
