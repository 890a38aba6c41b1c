import Sentinel.Rpc.FailoverMoves

/-!
# Where requests are

What every request relies on at the place where it is: the lock it holds, and endpoints that it
has not given up. Another request cannot take the lock away or establish a connection meanwhile;
it may only invalidate the active one.
-/

namespace Sentinel

/-- The endpoints of the pool are those of the provider. -/
def FallbackProvider.Owns (P : FallbackProvider) (pool : RpcEndpointPool) : Prop :=
  pool.endpoints = P.pool.endpoints ∧ pool.WellFormed

/-- A call of the pool leaves its endpoints as they are. -/
theorem FallbackProvider.Owns.perform {P : FallbackProvider} {pool : RpcEndpointPool}
    (h : P.Owns pool) (now : ℚ) (call : RpcEndpointPool.Call) :
  P.Owns (pool.perform now call)
  := by
  obtain ⟨hendpoints, hwellFormed⟩ := h
  use (pool.frame_perform now call).1.trans hendpoints
  apply hwellFormed.run [(now, call)]

/-- The endpoints of the pool, and the active one among them. -/
structure FallbackConnection.Sound (P : FallbackProvider) (c : FallbackConnection) : Prop where
  pool : P.Owns c.pool
  active : ∀ endpoint ∈ c.activeEndpoint, endpoint ∈ P.pool.endpoints

/-- The request `r` holds the connect lock, and since `c` no connection was established and none
but the active one was closed. -/
structure FallbackConnection.LeftTo (r : ℕ) (c c' : FallbackConnection) : Prop where
  lock : c'.connectLock = some r
  active : ∀ endpoint ∈ c'.activeEndpoint, endpoint ∈ c.activeEndpoint
  transport : c.activeEndpoint = none → c'.activeTransport = c.activeTransport

/-- An endpoint of the provider that is not excluded. -/
def FallbackProvider.MayUse (P : FallbackProvider) (excludedIndices : Finset ℕ)
    (endpoint : RpcEndpoint) : Prop :=
  endpoint ∈ P.pool.endpoints ∧ endpoint.index ∉ excludedIndices

/-- What a connect of the request `r` relies on. -/
def ConnectPoint.Fits (P : FallbackProvider) (r : ℕ) (c : FallbackConnection)
    (excludedIndices : Finset ℕ) : ConnectPoint → Prop
  | locking => True
  | checking =>
      c.connectLock = some r ∧ ∀ endpoint ∈ c.activeEndpoint, endpoint.index ∉ excludedIndices
  | clearing | waiting _ => c.connectLock = some r
  | opening endpoint candidates _ =>
      c.connectLock = some r ∧ ∀ e ∈ endpoint :: candidates, P.MayUse excludedIndices e
  | abandoning _ candidates _ =>
      c.connectLock = some r ∧ ∀ e ∈ candidates, P.MayUse excludedIndices e

namespace Request

variable {α : Type}

/-- An operation was called with an endpoint that the request has not given up. -/
def FitsCaller (P : FallbackProvider) (q : Request α) : Caller → Prop
  | .executeRequest => True
  | .makeRequest endpoint _ => P.MayUse q.rejectedIndices endpoint

/-- What the request `r` relies on. -/
def Fits (P : FallbackProvider) (r : ℕ) (c : FallbackConnection) (q : Request α) : Prop :=
  match q.phase with
  | .connecting caller point => q.FitsCaller P caller ∧ point.Fits P r c (q.excludedIndices caller)
  | .operating endpoint _ _ => P.MayUse q.rejectedIndices endpoint
  | .done (.aborted called) => ∀ endpoint ∈ called, P.MayUse q.rejectedIndices endpoint
  | _ => True

variable {P : FallbackProvider} {r : ℕ} {c c' : FallbackConnection} {q q' : Request α}
  {event : RequestEvent α}

theorem fits_iff_of_phase {phase : RequestPhase α} (hphase : q.phase = phase) :
  q.Fits P r c ↔ (q.goto phase).Fits P r c
  := by
  subst hphase
  rfl

/-- A connect is at a place that fits. -/
theorem Fits.connecting (h : q.Fits P r c) {caller : Caller} {point : ConnectPoint}
    (hphase : q.phase = .connecting caller point) :
  q.FitsCaller P caller ∧ point.Fits P r c (q.excludedIndices caller)
  := by
  rwa [fits_iff_of_phase hphase] at h

/-- The operation was called with an endpoint that fits. -/
theorem Fits.operating (h : q.Fits P r c) {endpoint : RpcEndpoint} {generation : ℕ}
    {carrier : Option RpcEndpoint} (hphase : q.phase = .operating endpoint generation carrier) :
  P.MayUse q.rejectedIndices endpoint
  := by
  rwa [fits_iff_of_phase hphase] at h

/-- An operation that has not ended was called with an endpoint that fits. -/
theorem Fits.called (h : q.Fits P r c) :
  ∀ endpoint ∈ q.phase.called, P.MayUse q.rejectedIndices endpoint
  := by
  intro endpoint hcalled
  cases hphase : q.phase with
  | connecting caller point =>
      rw [hphase] at hcalled
      obtain ⟨hcaller, -⟩ := h.connecting hphase
      cases caller with
      | executeRequest => cases hcalled
      | makeRequest endpoint' generation =>
          obtain rfl := Option.some.inj hcalled
          apply hcaller
  | operating endpoint' generation carrier =>
      rw [hphase] at hcalled
      obtain rfl := Option.some.inj hcalled
      apply h.operating hphase
  | done outcome =>
      rw [hphase] at hcalled
      cases outcome with
      | aborted called =>
          rw [fits_iff_of_phase hphase] at h
          apply h endpoint hcalled
      | _ => cases hcalled
  | _ =>
      rw [hphase] at hcalled
      cases hcalled

/-- A connect at the head of its loop has the lock. -/
theorem AtLoop.fits {caller : Caller} {completedRounds : ℕ}
    (hloop : AtLoop r c q c' caller completedRounds) (h : q.Fits P r c) :
  q.FitsCaller P caller ∧ c'.connectLock = some r
  := by
  cases hloop with
  | locked hphase _ _ => use (h.connecting hphase).1
  | cleared hphase => apply h.connecting hphase
  | woken hphase => apply h.connecting hphase

/-- The head of the loop has the endpoints from before. -/
theorem AtLoop.sound {caller : Caller} {completedRounds : ℕ}
    (hloop : AtLoop r c q c' caller completedRounds) (h : c.Sound P) :
  c'.Sound P
  := by
  cases hloop with
  | locked _ _ _ => use h.pool, h.active
  | cleared _ => apply h
  | woken _ => apply h

/-- A connect that fails leaves an operation at a place that fits. -/
theorem fits_unconnected {caller : Caller} (hcaller : q.FitsCaller P caller)
    {outcome : RequestOutcome α}
    (houtcome : outcome = .endpointsUnavailable ∨ outcome = .noUntriedEndpoints)
    (c : FallbackConnection) :
  (q.goto (unconnected outcome caller)).Fits P r c
  := by
  cases caller with
  | executeRequest => rcases houtcome with rfl | rfl <;> trivial
  | makeRequest endpoint generation => apply hcaller

/-- A connect that returns leaves the request with an active endpoint that it may use. -/
theorem fits_connected {caller : Caller} (hcaller : q.FitsCaller P caller)
    (hactive : ∀ endpoint ∈ c.activeEndpoint, P.MayUse (q.excludedIndices caller) endpoint)
    (c' : FallbackConnection) :
  (q.goto (connected c caller)).Fits P r c'
  := by
  cases caller with
  | executeRequest =>
      rw [connected]
      split
      next endpoint hendpoint => apply hactive endpoint hendpoint
      next => trivial
  | makeRequest endpoint generation => apply hcaller

/-- Nothing is relied on after an invalidation. -/
theorem fits_continued (kind : RpcFailureKind) (c : FallbackConnection) :
  (q.goto (q.continued P kind)).Fits P r c
  := by
  unfold continued
  split
  · cases kind <;> trivial
  · apply And.intro trivial trivial

/-- Candidates may be used. -/
theorem mayUse_of_candidates (hc : c.Sound P) {excludedIndices : Finset ℕ} {now : ℚ}
    {candidates : List RpcEndpoint} {wait : Option ℚ}
    (h : c.pool.candidates excludedIndices now = (candidates, wait)) :
  ∀ endpoint ∈ candidates, P.MayUse excludedIndices endpoint
  := by
  obtain ⟨hendpoints, hwellFormed⟩ := hc.pool
  intro endpoint hmem
  have hspec := (hwellFormed.candidatesSpec excludedIndices now).mem_iff endpoint
  rw [h] at hspec
  obtain ⟨hpool, hexcluded, -⟩ := hspec.mp hmem
  rw [hendpoints] at hpool
  use hpool

/-- A step keeps the endpoints of the connection, and leads to a place that fits. -/
theorem Steps.fits {phase : RequestPhase α} (h : Steps P r c q event c' phase) (hc : c.Sound P)
    (hq : q.Fits P r c) :
  c'.Sound P ∧ (q.goto phase).Fits P r c'
  := by
  cases h with
  | begin hphase => refine ⟨hc, trivial, trivial⟩
  | exclude hphase hlock hactive hmem =>
      refine ⟨⟨hc.pool, nofun⟩, (hq.connecting hphase).1, rfl⟩
  | check hphase hlock hactive hmem =>
      refine ⟨⟨hc.pool, hc.active⟩, (hq.connecting hphase).1, rfl, ?_⟩
      intro endpoint hendpoint
      obtain rfl := Option.some.inj (hactive.symm.trans hendpoint)
      apply hmem
  | roundsOver hloop =>
      obtain ⟨hpool, hactive⟩ := hloop.sound hc
      refine ⟨⟨hpool, hactive⟩, fits_unconnected (hloop.fits hq).1 (Or.inl rfl) _⟩
  | noUntried hloop hcandidates =>
      obtain ⟨hpool, hactive⟩ := hloop.sound hc
      refine ⟨⟨hpool, hactive⟩, fits_unconnected (hloop.fits hq).1 (Or.inr rfl) _⟩
  | wait hloop => refine ⟨hloop.sound hc, hloop.fits hq⟩
  | select hloop hcandidates =>
      have hsound := hloop.sound hc
      obtain ⟨hcaller, hlock⟩ := hloop.fits hq
      refine ⟨⟨hsound.pool, hsound.active⟩, hcaller, hlock, ?_⟩
      apply mayUse_of_candidates hsound hcandidates
  | connected hphase =>
      obtain ⟨hcaller, hlock, hactive⟩ := hq.connecting hphase
      refine ⟨⟨hc.pool, hc.active⟩, fits_connected hcaller ?_ _⟩
      intro endpoint hendpoint
      use hc.active endpoint hendpoint, hactive endpoint hendpoint
  | lost hphase =>
      obtain ⟨hcaller, hlock, -⟩ := hq.connecting hphase
      refine ⟨⟨hc.pool, nofun⟩, hcaller, hlock⟩
  | opened now hphase =>
      obtain ⟨hcaller, -, hcandidates⟩ := hq.connecting hphase
      refine ⟨⟨hc.pool.perform now (.markSuccess _), ?_⟩, fits_connected hcaller ?_ _⟩
      · rintro _ ⟨⟩
        apply (hcandidates _ List.mem_cons_self).1
      · rintro _ ⟨⟩
        apply hcandidates _ List.mem_cons_self
  | openFailed hphase =>
      obtain ⟨hcaller, hlock, hcandidates⟩ := hq.connecting hphase
      refine ⟨⟨hc.pool, hc.active⟩, hcaller, hlock, ?_⟩
      intro endpoint hmem
      apply hcandidates endpoint (List.mem_cons_of_mem _ hmem)
  | next now hphase =>
      refine ⟨⟨hc.pool.perform now (.markFailed _), hc.active⟩, hq.connecting hphase⟩
  | pause now hphase =>
      obtain ⟨hcaller, hlock, -⟩ := hq.connecting hphase
      refine ⟨⟨hc.pool.perform now (.markFailed _), hc.active⟩, hcaller, hlock⟩
  | giveUp now hphase =>
      obtain ⟨hcaller, -⟩ := hq.connecting hphase
      refine ⟨⟨hc.pool.perform now (.markFailed _), hc.active⟩, ?_⟩
      apply fits_unconnected hcaller (Or.inl rfl)
  | makeRequest hphase => refine ⟨hc, hq.operating hphase, trivial⟩
  | invalidate now hphase hlock hactive hgeneration =>
      refine ⟨⟨?_, nofun⟩, trivial⟩
      dsimp only
      split
      · apply hc.pool.perform now (.markFailed _)
      · apply hc.pool
  | stale hphase hstale => refine ⟨hc, fits_continued _ _⟩
  | closed hphase => refine ⟨⟨hc.pool, hc.active⟩, fits_continued _ _⟩
  | abort hidle hdone => refine ⟨⟨hc.pool, hc.active⟩, hq.called⟩

/-- The end of the operation leaves nothing to rely on. -/
theorem fits_finish (endpoint : RpcEndpoint) (generation : ℕ) (carrier : Option RpcEndpoint)
    (result : Except ProviderException α) :
  (q.finish P endpoint generation carrier result).Fits P r c
  := by
  rw [finish]
  split
  · trivial
  · trivial
  · trivial
  next failure _ _ =>
      rw [recordFailure]
      split <;> trivial

/-- A move keeps the endpoints of the connection, and leads to a place that fits. -/
theorem Moves.fits (h : Moves P r c q event c' q') (hc : c.Sound P) (hq : q.Fits P r c) :
  c'.Sound P ∧ q'.Fits P r c'
  := by
  cases h with
  | step h => apply h.fits hc hq
  | finish result hphase => use hc, fits_finish _ _ _ _

/-! ### Other requests -/

/-- Nobody but the request that holds the lock is at the head of the loop. -/
theorem AtLoop.lock {caller : Caller} {completedRounds : ℕ}
    (hloop : AtLoop r c q c' caller completedRounds) (h : q.Fits P r c) :
  c.connectLock = none ∨ c.connectLock = some r
  := by
  cases hloop with
  | locked _ hlock _ => apply Or.inl hlock
  | cleared hphase => apply Or.inr (h.connecting hphase).2
  | woken hphase => apply Or.inr (h.connecting hphase).2

/-- While another request holds the connect lock, a step leaves the lock to it, and establishes
no connection. -/
theorem Steps.locked {phase : RequestPhase α} (h : Steps P r c q event c' phase) (hq : q.Fits P r c)
    {r' : ℕ} (hne : r ≠ r') (hlock : c.connectLock = some r') :
  c.LeftTo r' c'
  := by
  have hfree (h : c.connectLock = none ∨ c.connectLock = some r) : False := by
    rw [hlock] at h
    simp [Ne.symm hne] at h
  cases h with
  | begin hphase => use hlock, fun _ h => h, fun _ => rfl
  | exclude hphase hnone hactive hmem => cases hfree (Or.inl hnone)
  | check hphase hnone hactive hmem => cases hfree (Or.inl hnone)
  | roundsOver hloop => cases hfree (hloop.lock hq)
  | noUntried hloop hcandidates => cases hfree (hloop.lock hq)
  | wait hloop => cases hfree (hloop.lock hq)
  | select hloop hcandidates => cases hfree (hloop.lock hq)
  | connected hphase => cases hfree (Or.inr (hq.connecting hphase).2.1)
  | lost hphase => cases hfree (Or.inr (hq.connecting hphase).2.1)
  | opened now hphase => cases hfree (Or.inr (hq.connecting hphase).2.1)
  | openFailed hphase => cases hfree (Or.inr (hq.connecting hphase).2.1)
  | next now hphase => cases hfree (Or.inr (hq.connecting hphase).2.1)
  | pause now hphase => cases hfree (Or.inr (hq.connecting hphase).2.1)
  | giveUp now hphase => cases hfree (Or.inr (hq.connecting hphase).2.1)
  | makeRequest hphase => use hlock, fun _ h => h, fun _ => rfl
  | invalidate now hphase hnone hactive hgeneration =>
      use hlock, nofun
      intro hvacant
      rw [hvacant] at hactive
      cases hactive
  | stale hphase hstale => use hlock, fun _ h => h, fun _ => rfl
  | closed hphase => use hlock, fun _ h => h, fun _ => rfl
  | abort hidle hdone =>
      refine ⟨?_, fun _ h => h, fun _ => rfl⟩
      rw [FallbackConnection.release, hlock]
      simp [Ne.symm hne]

/-- A place that fits still does when the lock is left to the request and no connection is
established. -/
theorem Fits.mono (h : q.Fits P r c)
    (hlock : c.connectLock = some r → c.LeftTo r c') :
  q.Fits P r c'
  := by
  cases hphase : q.phase with
  | connecting caller point =>
      obtain ⟨hcaller, hpoint⟩ := h.connecting hphase
      rw [fits_iff_of_phase hphase]
      apply And.intro hcaller
      cases point with
      | locking => trivial
      | checking =>
          obtain ⟨hheld, hactive⟩ := hpoint
          have hleft := hlock hheld
          use hleft.lock
          intro endpoint hendpoint
          apply hactive endpoint (hleft.active endpoint hendpoint)
      | clearing => apply (hlock hpoint).lock
      | waiting completedRounds => apply (hlock hpoint).lock
      | opening endpoint candidates completedRounds => use (hlock hpoint.1).lock, hpoint.2
      | abandoning endpoint candidates completedRounds => use (hlock hpoint.1).lock, hpoint.2
  | operating endpoint generation carrier =>
      rw [fits_iff_of_phase hphase]
      apply h.operating hphase
  | done outcome =>
      rw [fits_iff_of_phase hphase] at h ⊢
      cases outcome with
      | aborted called => apply h
      | _ => trivial
  | _ =>
      rw [fits_iff_of_phase hphase]
      trivial

theorem Moves.locked (h : Moves P r c q event c' q') (hq : q.Fits P r c) {r' : ℕ} (hne : r ≠ r')
    (hlock : c.connectLock = some r') :
  c.LeftTo r' c'
  := by
  cases h with
  | step h => apply h.locked hq hne hlock
  | finish result hphase => use hlock, fun _ h => h, fun _ => rfl

/-- A move of another request keeps a place that fits. -/
theorem Moves.fits_other (h : Moves P r c q event c' q') (hq : q.Fits P r c) {r' : ℕ} (hne : r ≠ r')
    {p : Request α} (hp : p.Fits P r' c) :
  p.Fits P r' c'
  := by
  apply hp.mono
  apply h.locked hq hne

end Request

/-- What happens apart from the requests keeps the endpoints of the connection, and takes the
connect lock from nobody. -/
theorem FallbackConnection.Sound.step {P : FallbackProvider} {c c' : FallbackConnection}
    {event : ConnectionEvent} (hc : c.Sound P) (h : c.step event = some c') :
  c'.Sound P ∧ ∀ r, c.connectLock = some r → c.LeftTo r c'
  := by
  cases event with
  | disconnect =>
      obtain ⟨hlock, ⟨⟩⟩ := Option.ite_none_right_eq_some.mp h
      refine ⟨⟨hc.pool, nofun⟩, ?_⟩
      intro r hheld
      rw [hlock] at hheld
      cases hheld
  | call now call =>
      obtain ⟨⟩ := h
      refine ⟨⟨hc.pool.perform now call, hc.active⟩, ?_⟩
      intro r hheld
      use hheld, fun _ h => h, fun _ => rfl

namespace Requests

variable {α : Type} {P : FallbackProvider}

/-- In every run every request is at a place that fits. -/
theorem keeps_fits (ok : FallbackConnection → Request α → RequestEvent α → Prop) :
  Interleaving.Keeps (fun r c (q : Request α) event => q.step P c r event)
    FallbackConnection.step ok (FallbackConnection.Sound P) (fun r c q => q.Fits P r c)
  where
  own hc hq _ hstep := (Request.moves_of_step hstep).fits hc hq
  other hne _ hq hp hstep := (Request.moves_of_step hstep).fits_other hq hne hp
  environment hc hstep := by
    obtain ⟨hc', hlock⟩ := hc.step hstep
    use hc'
    intro r q hq
    apply hq.mono (hlock r)

end Requests

end Sentinel
