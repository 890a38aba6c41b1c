import Sentinel.Rpc.FailoverAccounts

/-!
# Errors of exhausted requests

A request that gave up all endpoints raises one of two errors, by the kind of its last failure.
The error is true of all endpoints exactly if the failures were not mixed.
-/

namespace Sentinel

namespace Request

variable {α : Type}

/-- A request gave up all endpoints. -/
def Exhausted : RequestOutcome α → Prop
  | .connectionsLost | .rejectedByAllProviders _ => True
  | _ => False

/-- What an error of an exhausted request says is true of every endpoint, and it has a rejection
for each. -/
def Truthful (P : FallbackProvider) (q : Request α) : RequestOutcome α → Prop
  | .rejectedByAllProviders failures =>
      (∀ endpoint ∈ P.pool.endpoints,
        ∃ a ∈ q.attempts, a.endpoint.index = endpoint.index ∧ a.kind = some .rpcRejected)
      ∧ (failures.map RpcFailureSummary.endpointIndex).Perm
        (P.pool.endpoints.map fun endpoint => some endpoint.index)
      ∧ ∀ failure ∈ failures, failure.kind = .rpcRejected
  | .connectionsLost => ∀ endpoint ∈ P.pool.endpoints,
      ∃ a ∈ q.attempts, a.endpoint.index = endpoint.index ∧ a.kind = some .transport
  | _ => True

/-- No endpoint lost its transport twice before a last rejection, and none rejected the request
at once before a last loss of a transport. -/
def Unmixed (P : FallbackProvider) (q : Request α) : Prop :=
  (q.attempts.getLast?.bind Attempt.kind = some .rpcRejected →
      ∀ endpoint ∈ P.pool.endpoints, q.history endpoint.index ≠ [.transport, .transport])
    ∧ (q.attempts.getLast?.bind Attempt.kind = some .transport →
      ∀ endpoint ∈ P.pool.endpoints, q.history endpoint.index ≠ [.rpcRejected])

instance (P : FallbackProvider) (q : Request α) : Decidable (q.Unmixed P) :=
  inferInstanceAs (Decidable (_ ∧ _))

variable {P : FallbackProvider} {q : Request α}

/-- An endpoint that is given up rejected the request, unless it lost its transport twice. -/
theorem rpcRejected_mem_iff {history : List RpcFailureKind} (h : GivenUp history) :
  .rpcRejected ∈ history ↔ history ≠ [.transport, .transport]
  := by
  simp only [GivenUp, List.mem_cons, List.not_mem_nil, or_false] at h
  rcases h with rfl | rfl | rfl <;> simp

/-- An endpoint that is given up lost its transport, unless it rejected the request at once. -/
theorem transport_mem_iff {history : List RpcFailureKind} (h : GivenUp history) :
  .transport ∈ history ↔ history ≠ [.rpcRejected]
  := by
  simp only [GivenUp, List.mem_cons, List.not_mem_nil, or_false] at h
  rcases h with rfl | rfl | rfl <;> simp

/-- The rejections are those of the calls that were rejected. -/
theorem Accounts.mem_failures (h : q.Accounts P) {failure : RpcFailureSummary} :
  failure ∈ q.requestFailures ↔ failure.kind = .rpcRejected
    ∧ ∃ a ∈ q.attempts, a.failure = some failure
  := by
  rw [h.failures, List.mem_filter, List.mem_filterMap, decide_eq_true_iff, and_comm]

/-- No two rejections name the same endpoint. -/
theorem Accounts.nodup_failures (h : q.Accounts P) :
  (q.requestFailures.map RpcFailureSummary.endpointIndex).Nodup
  := by
  rw [h.failures, List.Nodup, List.pairwise_map]
  apply List.pairwise_filter.mpr
  apply List.pairwise_filterMap.mpr
  apply h.repeated.imp_of_mem
  intro a b ha hb hlost failure hfailure failure' hfailure' hkind hkind' heq
  rw [h.named a ha failure hfailure, h.named b hb failure' hfailure'] at heq
  have hkind'' := hlost (Option.some.inj heq)
  rw [Attempt.kind, hfailure, Option.map_some, of_decide_eq_true hkind] at hkind''
  cases hkind''

/-- The endpoints of a provider have the positions below their number. -/
theorem nodup_indices (P : FallbackProvider) :
  (P.pool.endpoints.map fun endpoint => some endpoint.index).Nodup
  := by
  rw [List.Nodup, List.pairwise_map]
  apply List.pairwise_iff_getElem.mpr
  intro i j hi hj hij heq
  rw [P.wellFormed.index_eq i _ (List.getElem?_eq_getElem hi),
    P.wellFormed.index_eq j _ (List.getElem?_eq_getElem hj)] at heq
  have hindex := Option.some.inj heq
  omega

/-- When every endpoint rejected the request, there is a rejection for each. -/
theorem Accounts.perm_failures (h : q.Accounts P)
    (hall : ∀ endpoint ∈ P.pool.endpoints,
      ∃ a ∈ q.attempts, a.endpoint.index = endpoint.index ∧ a.kind = some .rpcRejected) :
  (q.requestFailures.map RpcFailureSummary.endpointIndex).Perm
    (P.pool.endpoints.map fun endpoint => some endpoint.index)
  := by
  apply (List.perm_ext_iff_of_nodup h.nodup_failures (nodup_indices P)).mpr
  intro index
  rw [List.mem_map, List.mem_map]
  constructor
  · rintro ⟨failure, hmem, rfl⟩
    obtain ⟨-, a, ha, hfailure⟩ := h.mem_failures.mp hmem
    use a.endpoint, (h.endpoints a ha).1, (h.named a ha failure hfailure).symm
  · rintro ⟨endpoint, hmem, rfl⟩
    obtain ⟨a, ha, hindex, hkind⟩ := hall endpoint hmem
    obtain ⟨failure, hfailure, hrejected⟩ := Option.map_eq_some_iff.mp hkind
    use failure, h.mem_failures.mpr ⟨hrejected, a, ha, hfailure⟩
    rw [h.named a ha failure hfailure, hindex]

/-- An error of an exhausted request is true exactly if the failures were not mixed. -/
theorem truthful_iff_of_accounts (hq : q.Accounts P) (hs : q.Settled P)
    {outcome : RequestOutcome α} (hphase : q.phase = .done outcome)
    (hexhausted : Exhausted outcome) :
  q.Truthful P outcome ↔ q.Unmixed P
  := by
  have hsettled := hs.of_phase hphase
  have hgiven (hcard : q.rejectedIndices.card = P.pool.endpoints.length) :
      ∀ endpoint ∈ P.pool.endpoints, GivenUp (q.history endpoint.index) := by
    intro endpoint hmem
    apply (hq.rejected _).mp (hq.mem_rejected hcard endpoint hmem)
  cases outcome with
  | connectionsLost =>
      obtain ⟨⟨-, hlast⟩, hcard⟩ := hsettled
      rw [Unmixed]
      change q.attempts.getLast?.bind Attempt.kind = _ at hlast
      rw [hlast]
      constructor
      · intro htrue
        use nofun
        intro _ endpoint hmem
        apply (transport_mem_iff (hgiven hcard endpoint hmem)).mp
        apply mem_history_iff.mpr (htrue endpoint hmem)
      · rintro ⟨-, hunmixed⟩ endpoint hmem
        apply mem_history_iff.mp
        apply (transport_mem_iff (hgiven hcard endpoint hmem)).mpr (hunmixed rfl endpoint hmem)
  | rejectedByAllProviders failures =>
      obtain ⟨⟨-, hlast⟩, hcard, hfailures⟩ := hsettled
      change failures = q.requestFailures at hfailures
      subst hfailures
      rw [Unmixed]
      change q.attempts.getLast?.bind Attempt.kind = _ at hlast
      rw [hlast]
      constructor
      · rintro ⟨htrue, -⟩
        constructor
        · intro _ endpoint hmem
          apply (rpcRejected_mem_iff (hgiven hcard endpoint hmem)).mp
          apply mem_history_iff.mpr (htrue endpoint hmem)
        · nofun
      · rintro ⟨hunmixed, -⟩
        have hall : ∀ endpoint ∈ P.pool.endpoints,
            ∃ a ∈ q.attempts, a.endpoint.index = endpoint.index ∧ a.kind = some .rpcRejected := by
          intro endpoint hmem
          apply mem_history_iff.mp
          apply (rpcRejected_mem_iff (hgiven hcard endpoint hmem)).mpr (hunmixed rfl endpoint hmem)
        use hall, hq.perm_failures hall
        intro failure hmem
        apply (hq.mem_failures.mp hmem).1
  | _ => cases hexhausted

end Request

namespace Requests

variable {α : Type} {P : FallbackProvider}

/-- In every run, an error that is raised when all endpoints are given up is true of all of them
exactly if no endpoint failed in the other way only. -/
theorem execute_request_truthful_iff {s : Requests α} (h : Reachable P s) (r : ℕ)
    {outcome : RequestOutcome α} (hphase : (s.processes r).phase = .done outcome)
    (hexhausted : Request.Exhausted outcome) :
  (s.processes r).Truthful P outcome ↔ (s.processes r).Unmixed P
  := by
  obtain ⟨-, hinvariant⟩ := invariant_of_reachesUnder h
  apply Request.truthful_iff_of_accounts (hinvariant r).accounts (hinvariant r).settled hphase
    hexhausted

/-- The rejections with which a request ended. -/
def rejections (s : Requests ℕ) (r : ℕ) : Option (List RpcFailureSummary) :=
  match (s.processes r).phase with
  | .done (.rejectedByAllProviders failures) => some failures
  | _ => none

theorem rejections_eq_some {s : Requests ℕ} {r : ℕ} {failures : List RpcFailureSummary}
    (h : s.rejections r = some failures) :
  (s.processes r).phase = .done (.rejectedByAllProviders failures)
  := by
  rw [rejections] at h
  split at h
  next hphase =>
      obtain rfl := Option.some.inj h
      apply hphase
  next => cases h

/-- Both endpoints reject a request. -/
theorem execute_request_truthful_rejected :
  ∃ s : Requests ℕ, Reachable .pair s
    ∧ ∃ failures, (s.processes 0).phase = .done (.rejectedByAllProviders failures)
      ∧ (s.processes 0).Truthful .pair (.rejectedByAllProviders failures)
  := by
  obtain ⟨s, hreaches, hsome, hunmixed⟩ := Transition.exists_reaches_of_execute (step .pair)
    (Interleaving.Guard fun _ _ _ => True) (initial .pair ℕ)
    [ .environment (.call 0 (.markFailed ⟨1, "ws://fallback.invalid"⟩)),
      .process 0 .begin, .process 0 (.acquire 0), .process 0 (.opened 0),
      .process 0 rejection, .process 0 (.invalidate 0), .process 0 (.resume 0),
      .process 0 (.acquire 31), .process 0 (.opened 31),
      .process 0 rejection, .process 0 (.invalidate 31), .process 0 (.resume 31) ]
    (fun s => (s.rejections 0).isSome ∧ (s.processes 0).Unmixed .pair) (by decide +kernel)
  obtain ⟨failures, hfailures⟩ := Option.isSome_iff_exists.mp hsome
  have hphase := rejections_eq_some hfailures
  use s, hreaches, failures, hphase
  apply (execute_request_truthful_iff hreaches 0 hphase trivial).mpr hunmixed

/-- An endpoint loses its transport twice before the other one rejects the request. Then all
endpoints are said to have rejected it, with one rejection. -/
theorem execute_request_mixed :
  ∃ s : Requests ℕ, Reachable .pair s
    ∧ ∃ failures, (s.processes 0).phase = .done (.rejectedByAllProviders failures)
      ∧ failures.length = 1
      ∧ ¬ (s.processes 0).Truthful .pair (.rejectedByAllProviders failures)
  := by
  obtain ⟨s, hreaches, hsome⟩ := Transition.exists_reaches_of_execute (step .pair)
    (Interleaving.Guard fun _ _ _ => True) (initial .pair ℕ)
    [ .environment (.call 0 (.markFailed ⟨1, "ws://fallback.invalid"⟩)),
      .process 0 .begin, .process 0 (.acquire 0), .process 0 (.opened 0),
      .process 0 loss, .process 0 (.invalidate 0), .process 0 (.resume 0),
      .process 0 (.acquire 0), .process 0 (.opened 0),
      .process 0 loss, .process 0 (.invalidate 0), .process 0 (.resume 0),
      .process 0 (.acquire 31), .process 0 (.opened 31),
      .process 0 rejection, .process 0 (.invalidate 31), .process 0 (.resume 31) ]
    (fun s => (s.rejections 0).map List.length = some 1) (by decide +kernel)
  obtain ⟨failures, hfailures, hlength⟩ := Option.map_eq_some_iff.mp hsome
  use s, hreaches, failures, rejections_eq_some hfailures, hlength
  rintro ⟨-, hperm, -⟩
  -- a rejection for each of the two endpoints would be two
  have htwo := hperm.length_eq
  rw [List.length_map, List.length_map, hlength] at htwo
  cases htwo

end Requests

end Sentinel
