import Sentinel.Rpc.FailoverAccounts

/-!
# Generations of connections

Every connection that is established has a generation of its own. A request invalidates the
connection that it used, and none that replaced it. But a connect closes the active connection
when the request has given up its endpoint, or finds it lost.
-/

namespace Sentinel

/-- The generations that were established and invalidated. -/
structure FallbackConnection.Generations (c : FallbackConnection) : Prop where
  length : c.established.length = c.connectionGeneration
  active : ∀ endpoint ∈ c.activeEndpoint,
    c.established.getLast? = some endpoint ∧ c.activeTransport = some endpoint.index
  nodup : c.invalidated.Nodup
  le : ∀ generation ∈ c.invalidated, generation ≤ c.connectionGeneration
  gone : c.connectionGeneration ∈ c.invalidated → c.activeEndpoint = none

/-- A connection with the same generations, and the same active endpoint if any. -/
theorem FallbackConnection.Generations.congr {c c' : FallbackConnection} (h : c.Generations)
    (hgeneration : c'.connectionGeneration = c.connectionGeneration)
    (hestablished : c'.established = c.established) (hinvalidated : c'.invalidated = c.invalidated)
    (hactive : c'.activeEndpoint = none
      ∨ c'.activeEndpoint = c.activeEndpoint ∧ c'.activeTransport = c.activeTransport) :
  c'.Generations
  := by
  constructor
  · rw [hgeneration, hestablished, h.length]
  · rcases hactive with hnone | ⟨heq, htransport⟩
    · rw [hnone]
      nofun
    · rw [heq, hestablished, htransport]
      apply h.active
  · rw [hinvalidated]
    apply h.nodup
  · rw [hinvalidated, hgeneration]
    apply h.le
  · rw [hinvalidated, hgeneration]
    rcases hactive with hnone | ⟨heq, -⟩
    · intro _
      apply hnone
    · rw [heq]
      apply h.gone

/-- While a connect looks for an endpoint, none is active. -/
def ConnectPoint.Vacant (c : FallbackConnection) : ConnectPoint → Prop
  | locking | checking => True
  | clearing | waiting _ | abandoning _ _ _ => c.activeEndpoint = none
  | opening endpoint _ _ =>
      c.activeEndpoint = none ∧ c.activeTransport = some endpoint.index

namespace Request

variable {α : Type}

/-- While a request looks for an endpoint, none is active. -/
def Vacant (c : FallbackConnection) (q : Request α) : Prop :=
  match q.phase with
  | .connecting _ point => point.Vacant c
  | _ => True

variable {P : FallbackProvider} {r : ℕ} {c c' : FallbackConnection} {q q' : Request α}
  {event : RequestEvent α}

theorem Vacant.of_phase (h : q.Vacant c) {phase : RequestPhase α} (hphase : q.phase = phase) :
  (q.goto phase).Vacant c
  := by
  subst hphase
  apply h

/-- A connect at the head of its loop finds no active endpoint. -/
theorem AtLoop.vacant {caller : Caller} {completedRounds : ℕ}
    (hloop : AtLoop r c q c' caller completedRounds) (h : q.Vacant c) :
  c.activeEndpoint = none ∧ c'.activeEndpoint = none
  := by
  cases hloop with
  | locked _ _ hactive => use hactive, hactive
  | cleared hphase =>
      have hvacant := h.of_phase hphase
      use hvacant, hvacant
  | woken hphase =>
      have hvacant := h.of_phase hphase
      use hvacant, hvacant

theorem vacant_unconnected (outcome : RequestOutcome α) (caller : Caller)
    (c : FallbackConnection) :
  (q.goto (unconnected outcome caller)).Vacant c
  := by
  cases caller <;> trivial

theorem vacant_connected (c c' : FallbackConnection) (caller : Caller) :
  (q.goto (connected c caller)).Vacant c'
  := by
  cases caller with
  | executeRequest =>
      rw [connected]
      split <;> trivial
  | makeRequest endpoint generation => trivial

theorem vacant_continued (kind : RpcFailureKind) (c : FallbackConnection) :
  (q.goto (q.continued P kind)).Vacant c
  := by
  unfold continued
  split
  · cases kind <;> trivial
  · trivial

theorem vacant_finish (endpoint : RpcEndpoint) (generation : ℕ) (carrier : Option RpcEndpoint)
    (result : Except ProviderException α) (c : FallbackConnection) :
  (q.finish P endpoint generation carrier result).Vacant c
  := by
  rw [finish]
  split
  · trivial
  · trivial
  · trivial
  next =>
      rw [recordFailure]
      split <;> trivial

/-- A step leaves no endpoint active while the request looks for one. -/
theorem Steps.vacant {phase : RequestPhase α} (h : Steps P r c q event c' phase)
    (hq : q.Vacant c) :
  (q.goto phase).Vacant c'
  := by
  cases h with
  | begin hphase => trivial
  | exclude hphase hlock hactive hmem => rfl
  | check hphase hlock hactive hmem => trivial
  | roundsOver hloop => apply vacant_unconnected
  | noUntried hloop hcandidates => apply vacant_unconnected
  | wait hloop => apply (hloop.vacant hq).2
  | select hloop hcandidates => use (hloop.vacant hq).2
  | connected hphase => apply vacant_connected
  | lost hphase => rfl
  | opened now hphase => apply vacant_connected
  | openFailed hphase =>
      have hvacant := hq.of_phase hphase
      apply hvacant.1
  | next now hphase => use hq.of_phase hphase
  | pause now hphase => apply hq.of_phase hphase
  | giveUp now hphase => apply vacant_unconnected
  | makeRequest hphase => trivial
  | invalidate now hphase hlock hactive hgeneration => trivial
  | stale hphase hstale => apply vacant_continued
  | closed hphase => apply vacant_continued
  | abort hidle hdone => trivial

/-- Another request leaves no endpoint active while the request looks for one. -/
theorem Vacant.mono (hq : q.Vacant c) (hfits : q.Fits P r c)
    (hlock : c.connectLock = some r → c.LeftTo r c') :
  q.Vacant c'
  := by
  have hnone (hvacant : c.activeEndpoint = none) (hheld : c.connectLock = some r) :
      c'.activeEndpoint = none := by
    cases hactive : c'.activeEndpoint with
    | none => rfl
    | some endpoint =>
        have hmem := (hlock hheld).active endpoint hactive
        rw [hvacant] at hmem
        cases hmem
  cases hphase : q.phase with
  | connecting caller point =>
      obtain ⟨-, hpoint⟩ := hfits.connecting hphase
      have hvacant := hq.of_phase hphase
      rw [Vacant, hphase]
      cases point with
      | locking => trivial
      | checking => trivial
      | clearing => apply hnone hvacant hpoint
      | waiting completedRounds => apply hnone hvacant hpoint
      | opening endpoint candidates completedRounds =>
          obtain ⟨hvacant, htransport⟩ := hvacant
          use hnone hvacant hpoint.1
          rw [(hlock hpoint.1).transport hvacant]
          apply htransport
      | abandoning endpoint candidates completedRounds => apply hnone hvacant hpoint.1
  | _ =>
      rw [Vacant, hphase]
      trivial

/-! ### Generations -/

theorem AtLoop.generations {caller : Caller} {completedRounds : ℕ}
    (hloop : AtLoop r c q c' caller completedRounds) (h : c.Generations) :
  c'.Generations
  := by
  cases hloop with
  | locked _ _ _ => exact h.congr rfl rfl rfl (Or.inr ⟨rfl, rfl⟩)
  | cleared _ => apply h
  | woken _ => apply h

/-- A step keeps the generations in order. -/
theorem Steps.generations {phase : RequestPhase α} (h : Steps P r c q event c' phase)
    (hc : c.Generations) (hq : q.Vacant c) :
  c'.Generations
  := by
  cases h with
  | begin hphase => apply hc
  | exclude hphase hlock hactive hmem => exact hc.congr rfl rfl rfl (Or.inl rfl)
  | check hphase hlock hactive hmem => exact hc.congr rfl rfl rfl (Or.inr ⟨rfl, rfl⟩)
  | roundsOver hloop => exact (hloop.generations hc).congr rfl rfl rfl (Or.inr ⟨rfl, rfl⟩)
  | noUntried hloop hcandidates =>
      exact (hloop.generations hc).congr rfl rfl rfl (Or.inr ⟨rfl, rfl⟩)
  | wait hloop => apply hloop.generations hc
  | select hloop hcandidates =>
      exact (hloop.generations hc).congr rfl rfl rfl (Or.inl (hloop.vacant hq).2)
  | connected hphase => exact hc.congr rfl rfl rfl (Or.inr ⟨rfl, rfl⟩)
  | lost hphase => exact hc.congr rfl rfl rfl (Or.inl rfl)
  | opened now hphase =>
      have hvacant := hq.of_phase hphase
      constructor
      · rw [FallbackConnection.establish, List.length_append, hc.length]
        rfl
      · rintro _ ⟨⟩
        use List.getLast?_concat, hvacant.2
      · apply hc.nodup
      · intro generation hmem
        apply (hc.le generation hmem).trans (Nat.le_succ _)
      · intro hmem
        cases Nat.not_succ_le_self _ (hc.le _ hmem)
  | openFailed hphase =>
      have hvacant := hq.of_phase hphase
      exact hc.congr rfl rfl rfl (Or.inl hvacant.1)
  | next now hphase => exact hc.congr rfl rfl rfl (Or.inl (hq.of_phase hphase))
  | pause now hphase => exact hc.congr rfl rfl rfl (Or.inr ⟨rfl, rfl⟩)
  | giveUp now hphase => exact hc.congr rfl rfl rfl (Or.inr ⟨rfl, rfl⟩)
  | makeRequest hphase => apply hc
  | invalidate now hphase hlock hactive hgeneration =>
      have hnew : c.connectionGeneration ∉ c.invalidated := by
        intro hmem
        rw [hc.gone hmem] at hactive
        cases hactive
      subst hgeneration
      constructor
      · apply hc.length
      · nofun
      · apply hc.nodup.append (List.nodup_singleton _) (List.disjoint_singleton.mpr hnew)
      · apply List.forall_mem_append.mpr ⟨hc.le, List.forall_mem_singleton.mpr le_rfl⟩
      · intro _
        rfl
  | stale hphase hstale => apply hc
  | closed hphase => exact hc.congr rfl rfl rfl (Or.inr ⟨rfl, rfl⟩)
  | abort hidle hdone => exact hc.congr rfl rfl rfl (Or.inr ⟨rfl, rfl⟩)

/-- A move keeps the generations in order, and leaves no endpoint active while the request looks
for one. -/
theorem Moves.generations (h : Moves P r c q event c' q') (hc : c.Generations)
    (hq : q.Vacant c) :
  c'.Generations ∧ q'.Vacant c'
  := by
  cases h with
  | step h => use h.generations hc hq, h.vacant hq
  | finish result hphase => use hc, vacant_finish _ _ _ _ _

/-! ### What a step may close -/

/-- The head of the loop has the generations from before. -/
theorem AtLoop.frame {caller : Caller} {completedRounds : ℕ}
    (hloop : AtLoop r c q c' caller completedRounds) :
  c'.established = c.established ∧ c'.connectionGeneration = c.connectionGeneration
    ∧ c'.invalidated = c.invalidated
  := by
  cases hloop <;> refine ⟨rfl, rfl, rfl⟩

/-- A step establishes no connection, or one of the next generation. -/
theorem Steps.established {phase : RequestPhase α} (h : Steps P r c q event c' phase) :
  c'.established = c.established ∧ c'.connectionGeneration = c.connectionGeneration
    ∨ ∃ endpoint, c'.established = c.established ++ [endpoint]
      ∧ c'.connectionGeneration = c.connectionGeneration + 1 ∧ c'.activeEndpoint = some endpoint
  := by
  cases h with
  | roundsOver hloop => use Or.inl ⟨hloop.frame.1, hloop.frame.2.1⟩
  | noUntried hloop hcandidates => use Or.inl ⟨hloop.frame.1, hloop.frame.2.1⟩
  | wait hloop => use Or.inl ⟨hloop.frame.1, hloop.frame.2.1⟩
  | select hloop hcandidates => use Or.inl ⟨hloop.frame.1, hloop.frame.2.1⟩
  | opened now hphase => apply Or.inr ⟨_, rfl, rfl, rfl⟩
  | _ => apply Or.inl ⟨rfl, rfl⟩

/-- A step invalidates no generation, or the current one, while its endpoint is active. -/
theorem Steps.invalidated {phase : RequestPhase α} (h : Steps P r c q event c' phase) :
  c'.invalidated = c.invalidated
    ∨ ∃ endpoint kind cooldown,
      q.phase = .invalidating endpoint c.connectionGeneration kind cooldown
      ∧ c.activeEndpoint = some endpoint ∧ c'.activeEndpoint = none
      ∧ c'.invalidated = c.invalidated ++ [c.connectionGeneration]
  := by
  cases h with
  | roundsOver hloop => apply Or.inl hloop.frame.2.2
  | noUntried hloop hcandidates => apply Or.inl hloop.frame.2.2
  | wait hloop => apply Or.inl hloop.frame.2.2
  | select hloop hcandidates => apply Or.inl hloop.frame.2.2
  | @invalidate _ endpoint generation kind cooldown now hphase hlock hactive hgeneration =>
      right
      use endpoint, kind, cooldown
      rw [hgeneration]
      refine ⟨hphase, hactive, rfl, rfl⟩
  | _ => apply Or.inl rfl

/-- Why a step of a request closes the active connection to an endpoint. -/
inductive Closes (c : FallbackConnection) (q : Request α) (endpoint : RpcEndpoint) :
    RequestEvent α → Prop where
  /-- it invalidates the connection -/
  | invalidates {event kind cooldown}
      (hphase : q.phase = .invalidating endpoint c.connectionGeneration kind cooldown) :
      Closes c q endpoint event
  /-- its connect does not use the endpoint -/
  | excluded {event caller} (hphase : q.phase = .connecting caller .locking)
      (hmem : endpoint.index ∈ q.excludedIndices caller) : Closes c q endpoint event
  /-- its connect finds the connection lost -/
  | lost {caller} (hphase : q.phase = .connecting caller .checking) :
      Closes c q endpoint (.checked false)

/-- A step leaves the active connection as it is, unless it has a reason to close it. -/
theorem Steps.closes {phase : RequestPhase α} (h : Steps P r c q event c' phase)
    (hq : q.Vacant c) {endpoint : RpcEndpoint} (hendpoint : c.activeEndpoint = some endpoint) :
  c'.activeEndpoint = c.activeEndpoint ∧ c'.activeTransport = c.activeTransport
    ∨ Closes c q endpoint event
  := by
  have hloop {c₁ : FallbackConnection} {caller : Caller} {completedRounds : ℕ}
      (h : AtLoop r c q c₁ caller completedRounds) : False := by
    have hvacant := (h.vacant hq).1
    rw [hvacant] at hendpoint
    cases hendpoint
  have hvacant (h : c.activeEndpoint = none) : False := by
    rw [h] at hendpoint
    cases hendpoint
  cases h with
  | exclude hphase hlock hactive hmem =>
      obtain rfl := Option.some.inj (hactive.symm.trans hendpoint)
      apply Or.inr (.excluded hphase hmem)
  | roundsOver h => cases hloop h
  | noUntried h hcandidates => cases hloop h
  | wait h => cases hloop h
  | select h hcandidates => cases hloop h
  | lost hphase => apply Or.inr (.lost hphase)
  | opened now hphase =>
      have hopening := hq.of_phase hphase
      cases hvacant hopening.1
  | openFailed hphase =>
      have hopening := hq.of_phase hphase
      cases hvacant hopening.1
  | next now hphase => cases hvacant (hq.of_phase hphase)
  | pause now hphase => cases hvacant (hq.of_phase hphase)
  | giveUp now hphase => cases hvacant (hq.of_phase hphase)
  | invalidate now hphase hlock hactive hgeneration =>
      obtain rfl := Option.some.inj (hactive.symm.trans hendpoint)
      subst hgeneration
      apply Or.inr (.invalidates hphase)
  | _ => apply Or.inl ⟨rfl, rfl⟩

/-- An invalidation of a connection that was replaced leaves everything as it is. -/
theorem eq_of_stale {endpoint : RpcEndpoint} {generation : ℕ} {kind : RpcFailureKind}
    {cooldown : Bool} {now : ℚ}
    (hphase : q.phase = .invalidating endpoint generation kind cooldown)
    (hstale : ¬ (c.activeEndpoint = some endpoint ∧ c.connectionGeneration = generation))
    (h : q.step P c r (.invalidate now) = some (c', q')) :
  c' = c
  := by
  obtain ⟨next, hadvance, heq⟩ := Option.map_eq_some_iff.mp h
  simp only [advance, hphase] at hadvance
  obtain ⟨-, hadvance⟩ := Option.ite_none_right_eq_some.mp hadvance
  rw [invalidate, if_neg hstale] at hadvance
  obtain ⟨⟩ := hadvance
  obtain ⟨⟩ := heq
  rfl

/-- A connect that gets the lock checks an active endpoint that the request has not given up. -/
theorem phase_of_acquire {endpoint : RpcEndpoint} {now : ℚ}
    (hendpoint : c.activeEndpoint = some endpoint)
    (hphase : q.phase = .connecting .executeRequest .locking)
    (hmem : endpoint.index ∉ q.rejectedIndices)
    (h : q.step P c r (.acquire now) = some (c', q')) :
  q'.phase = .connecting .executeRequest .checking
  := by
  obtain ⟨next, hadvance, heq⟩ := Option.map_eq_some_iff.mp h
  simp only [advance, hphase] at hadvance
  obtain ⟨-, hadvance⟩ := Option.ite_none_right_eq_some.mp hadvance
  simp only [enter, hendpoint, excludedIndices, if_neg hmem] at hadvance
  obtain ⟨⟩ := hadvance
  obtain ⟨⟩ := heq
  rfl

/-- A connect whose check succeeds goes on with the active endpoint. -/
theorem phase_of_checked {endpoint : RpcEndpoint} (hendpoint : c.activeEndpoint = some endpoint)
    (hphase : q.phase = .connecting .executeRequest .checking)
    (h : q.step P c r (.checked true) = some (c', q')) :
  q'.phase = .operating endpoint c.connectionGeneration none
  := by
  obtain ⟨next, hadvance, heq⟩ := Option.map_eq_some_iff.mp h
  simp only [advance, hphase, if_true, connected, hendpoint] at hadvance
  obtain ⟨⟩ := hadvance
  obtain ⟨⟩ := heq
  rfl

/-- What one event of a request may do to the connection of all requests. -/
structure Respects (c : FallbackConnection) (q : Request α) (event : RequestEvent α)
    (c' : FallbackConnection) (q' : Request α) : Prop where
  established : c'.established = c.established ∧ c'.connectionGeneration = c.connectionGeneration
    ∨ ∃ endpoint, c'.established = c.established ++ [endpoint]
      ∧ c'.connectionGeneration = c.connectionGeneration + 1 ∧ c'.activeEndpoint = some endpoint
  /-- only the current generation is invalidated, while its endpoint is active -/
  invalidated : c'.invalidated = c.invalidated
    ∨ ∃ endpoint kind cooldown,
      q.phase = .invalidating endpoint c.connectionGeneration kind cooldown
      ∧ c.activeEndpoint = some endpoint ∧ c'.activeEndpoint = none
      ∧ c'.invalidated = c.invalidated ++ [c.connectionGeneration]
  /-- a stale invalidation leaves everything as it is -/
  stale : ∀ endpoint generation kind cooldown now,
    q.phase = .invalidating endpoint generation kind cooldown → event = .invalidate now →
    ¬ (c.activeEndpoint = some endpoint ∧ c.connectionGeneration = generation) → c' = c
  closes : ∀ endpoint, c.activeEndpoint = some endpoint →
    c'.activeEndpoint = c.activeEndpoint ∧ c'.activeTransport = c.activeTransport
      ∨ Closes c q endpoint event
  /-- a connect of a request that has not given up the active endpoint checks it -/
  checks : ∀ endpoint now, c.activeEndpoint = some endpoint →
    q.phase = .connecting .executeRequest .locking → endpoint.index ∉ q.rejectedIndices →
    event = .acquire now → q'.phase = .connecting .executeRequest .checking
  /-- and goes on with it when it is connected -/
  goesOn : ∀ endpoint, c.activeEndpoint = some endpoint →
    q.phase = .connecting .executeRequest .checking → event = .checked true →
    q'.phase = .operating endpoint c.connectionGeneration none

/-- Every step respects the connections of the other requests. -/
theorem respects_of_step (h : q.step P c r event = some (c', q')) (hq : q.Vacant c) :
  Respects c q event c' q'
  := by
  have hmoves := moves_of_step h
  constructor
  · cases hmoves with
    | step hmoves => apply hmoves.established
    | finish result hphase => apply Or.inl ⟨rfl, rfl⟩
  · cases hmoves with
    | step hmoves => apply hmoves.invalidated
    | finish result hphase => apply Or.inl rfl
  · rintro endpoint generation kind cooldown now hphase rfl hstale
    apply eq_of_stale hphase hstale h
  · intro endpoint hendpoint
    cases hmoves with
    | step hmoves => apply hmoves.closes hq hendpoint
    | finish result hphase => apply Or.inl ⟨rfl, rfl⟩
  · rintro endpoint now hendpoint hphase hmem rfl
    apply phase_of_acquire hendpoint hphase hmem h
  · rintro endpoint hendpoint hphase rfl
    apply phase_of_checked hendpoint hphase h

end Request

/-- What happens apart from the requests keeps the generations in order. -/
theorem FallbackConnection.Generations.step {c c' : FallbackConnection} {event : ConnectionEvent}
    (hc : c.Generations) (h : c.step event = some c') :
  c'.Generations
  := by
  cases event with
  | disconnect =>
      obtain ⟨-, ⟨⟩⟩ := Option.ite_none_right_eq_some.mp h
      exact hc.congr rfl rfl rfl (Or.inl rfl)
  | call now call =>
      obtain ⟨⟩ := h
      exact hc.congr rfl rfl rfl (Or.inr ⟨rfl, rfl⟩)

namespace Requests

variable {α : Type} {P : FallbackProvider}

/-- What holds of every request in every run, with no endpoint active while it looks for one. -/
structure Looking (P : FallbackProvider) (r : ℕ) (c : FallbackConnection) (q : Request α) :
    Prop where
  fits : q.Fits P r c
  vacant : q.Vacant c

theorem keeps_generations (ok : FallbackConnection → Request α → RequestEvent α → Prop) :
  Interleaving.Keeps (fun r c (q : Request α) event => q.step P c r event)
    FallbackConnection.step ok (fun c => c.Sound P ∧ c.Generations) (Looking P)
  where
  own hc hq _ hstep := by
    have hmoves := Request.moves_of_step hstep
    obtain ⟨hsound, hfits⟩ := hmoves.fits hc.1 hq.fits
    obtain ⟨hgenerations, hvacant⟩ := hmoves.generations hc.2 hq.vacant
    use ⟨hsound, hgenerations⟩, hfits, hvacant
  other hne _ hq hp hstep := by
    have hmoves := Request.moves_of_step hstep
    use hmoves.fits_other hq.fits hne hp.fits
    apply hp.vacant.mono hp.fits (hmoves.locked hq.fits hne)
  environment hc hstep := by
    obtain ⟨hsound, hlock⟩ := hc.1.step hstep
    use ⟨hsound, hc.2.step hstep⟩
    intro r q hq
    use hq.fits.mono (hlock r)
    apply hq.vacant.mono hq.fits (hlock r)

theorem generations_initial (P : FallbackProvider) (α : Type) :
  (initial P α).shared.Generations
  := ⟨rfl, nofun, List.nodup_nil, nofun, nofun⟩

/-- In every run every generation is invalidated at most once, each connection has the next
generation, and every event of a request respects the connections of the others. -/
theorem invalidate_endpoint_current {s : Requests α} (h : Reachable P s) :
  s.shared.Generations ∧ ∀ r event s', step P s (.process r event) = some s' →
    Request.Respects s.shared (s.processes r) event s'.shared (s'.processes r)
  := by
  obtain ⟨hsound, hinitial⟩ := sound_initial P α
  obtain ⟨⟨-, hgenerations⟩, hlooking⟩ := (keeps_generations fun _ _ _ => True).invariant h
    ⟨⟨hsound, generations_initial P α⟩, fun r => ⟨(hinitial r).fits, trivial⟩⟩
  use hgenerations
  intro r event s' hstep
  apply Request.respects_of_step (Interleaving.act_of_step hstep) (hlooking r).vacant

/-- The connection of a request that invalidates it was replaced. -/
def replaced (s : Requests ℕ) (r : ℕ) : Bool :=
  match (s.processes r).phase with
  | .invalidating endpoint generation _ _ =>
      s.shared.activeEndpoint.any (· ≠ endpoint) && generation < s.shared.connectionGeneration
  | _ => false

/-- A request gives up the first endpoint, and two requests use the second one. When it is lost,
the other request connects to the first one again. -/
def replacement : List (RequestsAction ℕ) :=
  [ .environment (.call 0 (.markFailed ⟨1, "ws://fallback.invalid"⟩)),
    .process 0 .begin, .process 0 (.acquire 0), .process 0 (.opened 0),
    .process 0 rejection, .process 0 (.invalidate 0), .process 0 (.resume 0),
    .process 0 (.acquire 31), .process 0 (.opened 31),
    .process 1 .begin, .process 1 (.acquire 31), .process 1 (.checked true),
    .process 1 loss, .process 1 (.invalidate 31), .process 1 (.resume 31),
    .environment (.call 31 (.markFailed ⟨1, "ws://fallback.invalid"⟩)),
    .process 1 (.acquire 31), .process 1 (.opened 31),
    .process 0 loss ]

/-- A run in which three connections are established and two are invalidated. -/
theorem invalidate_endpoint_current_replaced :
  ∃ s : Requests ℕ, Reachable .pair s
    ∧ (s.shared.connectionGeneration = 3 ∧ s.shared.invalidated = [1, 2])
    ∧ s.shared.Generations ∧ ∀ r event s', step .pair s (.process r event) = some s' →
      Request.Respects s.shared (s.processes r) event s'.shared (s'.processes r)
  := by
  obtain ⟨s, hreaches, hcounts⟩ := Transition.exists_reaches_of_execute (step .pair)
    (Interleaving.Guard fun _ _ _ => True) (initial .pair ℕ) replacement
    (fun s => s.shared.connectionGeneration = 3 ∧ s.shared.invalidated = [1, 2])
    (by decide +kernel)
  use s, hreaches, hcounts
  apply invalidate_endpoint_current hreaches

/-- A request whose connection was replaced leaves the replacement alone in its invalidation, but
closes it when it connects again, since it gave up its endpoint before. The other request is using
it. -/
theorem connect_closes_replacement :
  ∃ s : Requests ℕ, Reachable .pair s ∧ s.replaced 0 = true
    ∧ (s.processes 1).phase.called = s.shared.activeEndpoint
    ∧ ∃ s' s'' : Requests ℕ, step .pair s (.process 0 (.invalidate 31)) = some s'
      ∧ step .pair s' (.process 0 (.acquire 31)) = some s''
      ∧ s'.shared.activeEndpoint = some ⟨0, "ws://primary.invalid"⟩
      ∧ s''.shared.activeEndpoint = none ∧ s''.shared.activeTransport = none
  := by
  obtain ⟨s, hreaches, hreplaced, hcalled, hcloses⟩ := Transition.exists_reaches_of_execute
    (step .pair) (Interleaving.Guard fun _ _ _ => True) (initial .pair ℕ) replacement
    (fun s => s.replaced 0 = true ∧ (s.processes 1).phase.called = s.shared.activeEndpoint
      ∧ ((step .pair s (.process 0 (.invalidate 31))).any fun s' =>
        s'.shared.activeEndpoint = some ⟨0, "ws://primary.invalid"⟩
          ∧ ((step .pair s' (.process 0 (.acquire 31))).any fun s'' =>
            s''.shared.activeEndpoint = none ∧ s''.shared.activeTransport = none) = true) = true)
    (by decide +kernel)
  obtain ⟨s', hs', hclosed⟩ := (Option.any_eq_true _ _).mp hcloses
  obtain ⟨hactive, hany⟩ := of_decide_eq_true hclosed
  obtain ⟨s'', hs'', hnone⟩ := (Option.any_eq_true _ _).mp hany
  use s, hreaches, hreplaced, hcalled, s', s'', hs', hs'', hactive
  apply of_decide_eq_true hnone

end Requests

end Sentinel
