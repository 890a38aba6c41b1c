import Sentinel.Rpc.FailoverAccounts

/-!
# Who is charged with a failure

A request charges the endpoint with which it called the operation. The operation sends its
requests through `make_request`, which connects again, to any endpoint. The endpoint that is
charged carried the failed request exactly while `make_request` stays with the endpoint of the
call.
-/

namespace Sentinel

/-- The endpoint that carried a call of the operation: the one of its last request. -/
def Attempt.server {α : Type} (a : Attempt α) : RpcEndpoint :=
  a.carrier.getD a.endpoint

namespace Request

variable {α : Type}

/-- When an event ends a connect of `make_request`: the endpoint with which the operation was
called, and the one to which it is connected. -/
def reconnected (c : FallbackConnection) (q : Request α) :
    RequestEvent α → Option (RpcEndpoint × RpcEndpoint)
  | .checked true =>
      match q.phase with
      | .connecting (.makeRequest endpoint _) .checking =>
          c.activeEndpoint.map fun endpoint' => (endpoint, endpoint')
      | _ => none
  | .opened _ =>
      match q.phase with
      | .connecting (.makeRequest endpoint _) (.opening endpoint' _ _) => some (endpoint, endpoint')
      | _ => none
  | _ => none

/-- A connect of `make_request` stays with the endpoint of the call. -/
def Stays (c : FallbackConnection) (q : Request α) (event : RequestEvent α) : Prop :=
  ∀ endpoints ∈ reconnected c q event, endpoints.1 = endpoints.2

instance (c : FallbackConnection) (q : Request α) (event : RequestEvent α) :
    Decidable (Stays c q event) :=
  inferInstanceAs (Decidable (∀ endpoints ∈ reconnected c q event, endpoints.1 = endpoints.2))

/-- The records of a request name the endpoints that carried its failures, and none that had
rejected the request carried a call. -/
structure Charged (q : Request α) : Prop where
  observed : q.observed = q.attempts.filterMap fun a => a.kind.map fun kind => (a.server, kind)
  failures : ∀ failure ∈ q.requestFailures, ∃ a ∈ q.attempts, a.failure = some failure
    ∧ failure.endpointIndex = some a.server.index
  retried : ∀ i, i ∈ q.transportRetriedIndices ↔
    ∃ a ∈ q.attempts, a.server.index = i ∧ a.kind = some .transport
  rejected : ∀ i ∈ q.rejectedIndices, ∃ a ∈ q.attempts, a.server.index = i ∧ a.kind.isSome
  unrejected : ∀ a ∈ q.attempts, a.server.index ∉ a.rejectedIndices
  running : ∀ endpoint generation carrier, q.phase = .operating endpoint generation carrier →
    ∀ endpoint' ∈ carrier, endpoint'.index ∉ q.rejectedIndices

/-- The last request of a running operation went to the endpoint of the call. -/
def Agrees : RequestPhase α → Prop
  | .operating endpoint _ carrier => ∀ endpoint' ∈ carrier, endpoint' = endpoint
  | _ => True

/-- The calls of the operation were carried by the endpoints with which it was called. -/
structure Carried (q : Request α) : Prop where
  attempts : ∀ a ∈ q.attempts, ∀ endpoint ∈ a.carrier, endpoint = a.endpoint
  phase : Agrees q.phase

variable {P : FallbackProvider} {r : ℕ} {c c' : FallbackConnection} {q q' : Request α}
  {event : RequestEvent α}

/-! ### Steps -/

theorem agrees_unconnected (outcome : RequestOutcome α) (caller : Caller) :
  Agrees (unconnected outcome caller)
  := by
  cases caller with
  | executeRequest => trivial
  | makeRequest endpoint generation => nofun

theorem agrees_connected {caller : Caller}
    (h : ∀ endpoint generation, caller = .makeRequest endpoint generation →
      ∀ endpoint' ∈ c.activeEndpoint, endpoint = endpoint') :
  Agrees (connected c caller : RequestPhase α)
  := by
  cases caller with
  | executeRequest =>
      rw [connected]
      split
      · intro _ hmem
        cases hmem
      · trivial
  | makeRequest endpoint generation =>
      intro endpoint' hendpoint
      apply (h endpoint generation rfl endpoint' hendpoint).symm

theorem agrees_continued (kind : RpcFailureKind) :
  Agrees (q.continued P kind)
  := by
  unfold continued
  split
  · cases kind <;> trivial
  · trivial

/-- A step at which `make_request` stays with the endpoint of the call leaves a running operation
with that endpoint. -/
theorem Steps.agrees {phase : RequestPhase α} (h : Steps P r c q event c' phase)
    (hstays : Stays c q event) :
  Agrees phase
  := by
  cases h with
  | roundsOver hloop => apply agrees_unconnected
  | noUntried hloop hcandidates => apply agrees_unconnected
  | giveUp now hphase => apply agrees_unconnected
  | @connected caller hphase =>
      apply agrees_connected
      rintro endpoint generation rfl endpoint' hactive
      apply hstays (endpoint, endpoint')
      rw [reconnected, hphase]
      apply Option.mem_map_of_mem _ hactive
  | @opened caller endpoint' candidates completedRounds now hphase =>
      apply agrees_connected
      rintro endpoint generation rfl _ ⟨⟩
      apply hstays (endpoint, endpoint')
      rw [reconnected, hphase]
      rfl
  | stale hphase hstale => apply agrees_continued
  | closed hphase => apply agrees_continued
  | _ => trivial

/-- After the end of the operation it does not run. -/
theorem agrees_finish (endpoint : RpcEndpoint) (generation : ℕ) (carrier : Option RpcEndpoint)
    (result : Except ProviderException α) :
  Agrees (q.finish P endpoint generation carrier result).phase
  := by
  rw [finish]
  split
  · trivial
  · trivial
  · trivial
  next =>
      rw [recordFailure]
      split <;> trivial

/-- A move at which `make_request` stays with the endpoint of the call keeps the calls carried by
their endpoints. -/
theorem Moves.carried (h : Moves P r c q event c' q') (hstays : Stays c q event)
    (hq : q.Carried) :
  q'.Carried
  := by
  cases h with
  | step h => use hq.attempts, h.agrees hstays
  | @finish endpoint generation carrier result hphase =>
      refine ⟨?_, agrees_finish endpoint generation carrier result⟩
      rw [(records_finish P q endpoint generation carrier result).attempts]
      apply List.forall_mem_append.mpr ⟨hq.attempts, List.forall_mem_singleton.mpr _⟩
      have hagrees := hq.phase
      rw [hphase] at hagrees
      apply hagrees

/-- Calls that their endpoints carried are charged to the endpoints that carried them. -/
theorem Carried.charged (hq : q.Carried) (hfits : q.Fits P r c) (haccounts : q.Accounts P) :
  q.Charged
  := by
  have hserver : ∀ a ∈ q.attempts, a.server = a.endpoint := by
    intro a ha
    rw [Attempt.server]
    cases hcarrier : a.carrier with
    | none => rfl
    | some endpoint => apply hq.attempts a ha endpoint hcarrier
  constructor
  · rw [haccounts.observed]
    apply List.filterMap_congr
    intro a ha
    rw [hserver a ha]
  · intro failure hmem
    rw [haccounts.failures] at hmem
    obtain ⟨a, ha, hfailure⟩ := List.mem_filterMap.mp (List.mem_of_mem_filter hmem)
    use a, ha, hfailure
    rw [hserver a ha]
    apply haccounts.named a ha failure hfailure
  · intro i
    rw [haccounts.retried, mem_history_iff]
    apply exists_congr
    intro a
    apply and_congr_right
    intro ha
    rw [hserver a ha]
  · intro i hi
    obtain ⟨kind, hkind⟩ := ((haccounts.rejected i).mp hi).exists_mem
    obtain ⟨a, ha, hindex, hsome⟩ := mem_history_iff.mp hkind
    use a, ha
    rw [hserver a ha, hsome]
    apply And.intro hindex rfl
  · intro a ha
    rw [hserver a ha]
    apply (haccounts.endpoints a ha).2
  · intro endpoint generation carrier hphase endpoint' hcarrier
    have hagrees := hq.phase
    rw [hphase] at hagrees
    rw [hagrees endpoint' hcarrier]
    apply (hfits.operating hphase).2

end Request

namespace Requests

variable {α : Type} {P : FallbackProvider}

/-- The operations of all requests stay with their endpoints in a run that stays with them. -/
theorem keeps_carried :
  Interleaving.Keeps (fun r c (q : Request α) event => q.step P c r event)
    FallbackConnection.step Request.Stays (fun _ => True) (fun _ _ q => q.Carried)
  where
  own _ hq hstays hstep := ⟨trivial, (Request.moves_of_step hstep).carried hstays hq⟩
  other _ _ _ hp _ := hp
  environment _ _ := ⟨trivial, fun _ _ hq => hq⟩

/-- In every run in which `make_request` stays with the endpoint of the call, every failure that
a request records names the endpoint that carried it, and no endpoint that rejected a request
carries a call of its operation. -/
theorem execute_request_charged {s : Requests α} (h : ReachesUnder P Request.Stays s) (r : ℕ) :
  (s.processes r).Charged
  := by
  obtain ⟨-, hinvariant⟩ := invariant_of_reachesUnder h
  obtain ⟨-, hcarried⟩ := (keeps_carried (P := P)).invariant h ⟨trivial, fun _ => ⟨nofun, trivial⟩⟩
  apply (hcarried r).charged (hinvariant r).fits (hinvariant r).accounts

/-- A request is rejected by the endpoint with which its operation was called. -/
theorem execute_request_charged_rejected :
  ∃ s : Requests ℕ, ReachesUnder .pair Request.Stays s
    ∧ (s.processes 0).attempts.map Attempt.carrier = [some ⟨0, "ws://primary.invalid"⟩]
    ∧ (s.processes 0).Charged
  := by
  obtain ⟨s, hreaches, hcarrier⟩ := Transition.exists_reaches_of_execute (step .pair)
    (Interleaving.Guard Request.Stays) (initial .pair ℕ)
    [ .environment (.call 0 (.markFailed ⟨1, "ws://fallback.invalid"⟩)),
      .process 0 .begin, .process 0 (.acquire 0), .process 0 (.opened 0),
      .process 0 .makeRequest, .process 0 (.acquire 0), .process 0 (.checked true),
      .process 0 rejection ]
    (fun s => (s.processes 0).attempts.map Attempt.carrier
      = [some ⟨0, "ws://primary.invalid"⟩]) (by decide +kernel)
  apply Exists.intro s ⟨hreaches, hcarrier, execute_request_charged hreaches 0⟩

/-- The endpoint of a call is lost before `make_request` connects. It connects to the endpoint that
had rejected the request, and the next rejection is charged to the other one. -/
theorem make_request_moves :
  ∃ s : Requests ℕ, Reachable .pair s
    ∧ (s.processes 0).observed = [(⟨0, "ws://primary.invalid"⟩, .rpcRejected),
      (⟨1, "ws://fallback.invalid"⟩, .rpcRejected)]
    ∧ (s.processes 0).attempts.map Attempt.carrier = [some ⟨0, "ws://primary.invalid"⟩,
      some ⟨0, "ws://primary.invalid"⟩]
    ∧ ¬ (s.processes 0).Charged
  := by
  obtain ⟨s, hreaches, hobserved, hcarrier, hrejected⟩ := Transition.exists_reaches_of_execute
    (step .pair) (Interleaving.Guard fun _ _ _ => True) (initial .pair ℕ)
    [ .environment (.call 0 (.markFailed ⟨1, "ws://fallback.invalid"⟩)),
      .process 0 .begin, .process 0 (.acquire 0), .process 0 (.opened 0),
      .process 0 .makeRequest, .process 0 (.acquire 0), .process 0 (.checked true),
      .process 0 rejection, .process 0 (.invalidate 0), .process 0 (.resume 0),
      .process 0 (.acquire 31), .process 0 (.opened 31),
      -- the connection of the second call is lost, and its endpoint is in cooldown
      .environment (.call 31 (.markFailed ⟨1, "ws://fallback.invalid"⟩)),
      .process 0 .makeRequest, .process 0 (.acquire 31), .process 0 (.checked false),
      .process 0 (.resume 31), .process 0 (.opened 31), .process 0 rejection ]
    (fun s => (s.processes 0).observed = [(⟨0, "ws://primary.invalid"⟩, .rpcRejected),
        (⟨1, "ws://fallback.invalid"⟩, .rpcRejected)]
      ∧ (s.processes 0).attempts.map Attempt.carrier = [some ⟨0, "ws://primary.invalid"⟩,
        some ⟨0, "ws://primary.invalid"⟩]
      ∧ ∃ a ∈ (s.processes 0).attempts, a.server.index ∈ a.rejectedIndices) (by decide +kernel)
  use s, hreaches, hobserved, hcarrier
  intro hcharged
  obtain ⟨a, ha, hmem⟩ := hrejected
  apply hcharged.unrejected a ha hmem

end Requests

end Sentinel
