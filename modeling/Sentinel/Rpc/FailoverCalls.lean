import Sentinel.Rpc.FailoverAccounts
import Mathlib.Algebra.BigOperators.Group.Finset.Basic
import Mathlib.Algebra.Order.BigOperators.Group.Finset

/-!
# The calls of the operation

However the operation behaves, and whatever other requests do to the provider in between, a
request calls the operation at most twice with the same endpoint, so at most twice as often as
there are endpoints. The first value and the first semantic error end it.
-/

namespace Sentinel

/-- A list of numbers below `n`, each at most `k` times, has at most `k * n` elements. -/
theorem length_le_of_count_le {l : List ℕ} {n k : ℕ} (hlt : ∀ i ∈ l, i < n)
    (hcount : ∀ i, l.count i ≤ k) :
  l.length ≤ k * n
  := by
  have hsub : l.toFinset ⊆ Finset.range n := by
    intro i hi
    apply Finset.mem_range.mpr (hlt i (List.mem_toFinset.mp hi))
  calc l.length = ∑ i ∈ l.toFinset, l.count i := (l.sum_toFinset_count_eq_length).symm
    _ ≤ ∑ _i ∈ l.toFinset, k := Finset.sum_le_sum fun i _ => hcount i
    _ ≤ k * n := by
      rw [Finset.sum_const_nat fun _ _ => rfl, Nat.mul_comm]
      apply Nat.mul_le_mul_left k
      have hle := Finset.card_le_card hsub
      rwa [Finset.card_range] at hle

namespace Request

variable {α : Type}

/-- The endpoints with which the operation was called so far. -/
def calls (q : Request α) : List RpcEndpoint :=
  q.attempts.map Attempt.endpoint ++ q.phase.called.toList

/-- The calls of the operation are bounded. -/
structure Bounded (P : FallbackProvider) (q : Request α) : Prop where
  calls_le : q.calls.length ≤ 2 * P.pool.endpoints.length
  twice : ∀ i, (q.calls.filter fun endpoint => endpoint.index = i).length ≤ 2
  /-- a second call follows a loss of the transport -/
  lost : ∀ (j k : ℕ) (endpoint endpoint' : RpcEndpoint), j < k → q.calls[j]? = some endpoint →
    q.calls[k]? = some endpoint' → endpoint.index = endpoint'.index →
    ∃ a, q.attempts[j]? = some a ∧ a.kind = some .transport
  /-- the endpoint was not given up when the operation was called -/
  unrejected : (∀ a ∈ q.attempts, a.endpoint.index ∉ a.rejectedIndices)
    ∧ ∀ endpoint ∈ q.phase.called, endpoint.index ∉ q.rejectedIndices
  untried : q.phase ≠ .done .noUntriedEndpoints
  returned : ∀ a ∈ q.attempts, ∀ value, a.result = .returned value →
    q.phase = .done (.returned value)
  raised : ∀ a ∈ q.attempts, ∀ exc, a.result = .raised exc → q.phase = .done (.raised exc)

variable {P : FallbackProvider} {r : ℕ} {c : FallbackConnection} {q : Request α}

/-- While an operation runs, the calls before have failed. -/
theorem Settled.failed_of_called (h : q.Settled P) {endpoint : RpcEndpoint}
    (hcalled : endpoint ∈ q.phase.called) :
  q.Failed
  := by
  cases hphase : q.phase with
  | connecting caller point => apply (h.connecting hphase).1
  | operating endpoint' generation carrier => apply (h.operating hphase).1
  | done outcome =>
      rw [hphase] at hcalled
      cases outcome with
      | aborted called => apply h.of_phase hphase
      | _ => cases hcalled
  | _ =>
      rw [hphase] at hcalled
      cases hcalled

/-- A result that is no failure is the one that the request ended with. -/
theorem Settled.ended (h : q.Settled P) {a : Attempt α} (ha : a ∈ q.attempts)
    (hkind : a.kind = none) :
  (∀ value, a.result = .returned value → q.phase = .done (.returned value))
    ∧ ∀ exc, a.result = .raised exc → q.phase = .done (.raised exc)
  := by
  have hnot : ¬ q.Failed := by
    intro hfailed
    have hsome := hfailed a ha
    rw [hkind] at hsome
    cases hsome
  have hended {result : Invoked α} (hresult : q.EndedWith result) : a.result = result := by
    obtain ⟨attempts, b, hattempts, rfl, hfailed⟩ := hresult
    rw [hattempts] at ha
    rcases List.mem_append.mp ha with ha | ha
    · have hsome := hfailed a ha
      rw [hkind] at hsome
      cases hsome
    · rw [List.mem_singleton.mp ha]
  cases hphase : q.phase with
  | idle =>
      obtain ⟨hnil, -⟩ : q.attempts = [] ∧ q.rejectedIndices = ∅ := h.of_phase hphase
      rw [hnil] at ha
      cases ha
  | connecting caller point => cases hnot (h.connecting hphase).1
  | operating endpoint generation carrier => cases hnot (h.operating hphase).1
  | invalidating endpoint generation kind cooldown =>
      have hlast : q.FailedAtLast kind := h.of_phase hphase
      cases hnot hlast.1
  | closing kind =>
      have hlast : q.FailedAtLast kind := h.of_phase hphase
      cases hnot hlast.1
  | done outcome =>
      have hsettled := h.of_phase hphase
      cases outcome with
      | returned value =>
          rw [hended hsettled]
          constructor
          · rintro _ ⟨⟩
            rfl
          · nofun
      | raised exc =>
          rw [hended hsettled]
          constructor
          · nofun
          · rintro _ ⟨⟩
            rfl
      | valueError =>
          rw [hended hsettled]
          use nofun, nofun
      | assertionError => cases hnot hsettled
      | noUntriedEndpoints => cases hsettled
      | endpointsUnavailable => cases hnot hsettled
      | connectionsLost => cases hnot hsettled.1.1
      | rejectedByAllProviders failures => cases hnot hsettled.1.1
      | aborted called => cases hnot hsettled

/-- The calls at an endpoint: those that ended, and the one that has not. -/
theorem length_filter_calls (q : Request α) (i : ℕ) :
  (q.calls.filter fun endpoint => endpoint.index = i).length
    = (q.attempts.filter fun a => a.endpoint.index = i).length
      + (q.phase.called.toList.filter fun endpoint => endpoint.index = i).length
  := by
  rw [calls, List.filter_append, List.length_append, List.filter_map, List.length_map]
  rfl

/-- The calls of the operation are bounded in terms of the accounts. -/
theorem bounded_of_accounts (hfits : q.Fits P r c) (hq : q.Accounts P) (hs : q.Settled P) :
  q.Bounded P
  := by
  have htwice : ∀ i, (q.calls.filter fun endpoint => endpoint.index = i).length ≤ 2 := by
    intro i
    rw [length_filter_calls]
    cases hcalled : q.phase.called with
    | none => simpa using hq.twice i
    | some endpoint =>
        by_cases hi : endpoint.index = i
        · subst hi
          have honce := (hq.at_most_once (hs.failed_of_called hcalled)
            (hfits.called endpoint hcalled)).1
          simpa using honce
        · simpa [hi] using hq.twice i
  constructor
  · rw [← List.length_map RpcEndpoint.index]
    apply length_le_of_count_le
    · intro i hi
      obtain ⟨endpoint, hmem, rfl⟩ := List.mem_map.mp hi
      apply index_lt_of_mem
      rcases List.mem_append.mp hmem with hmem | hmem
      · obtain ⟨a, ha, rfl⟩ := List.mem_map.mp hmem
        apply (hq.endpoints a ha).1
      · apply (hfits.called endpoint (Option.mem_toList.mp hmem)).1
    · intro i
      have hle := htwice i
      rw [← List.countP_eq_length_filter] at hle
      rw [List.count_eq_countP, List.countP_map]
      apply hle
  · apply htwice
  · intro j k endpoint endpoint' hjk hj hk hindex
    have hlength : k < q.calls.length := (List.getElem?_eq_some_iff.mp hk).1
    have hcalls : q.calls.length = q.attempts.length + q.phase.called.toList.length := by
      rw [calls, List.length_append, List.length_map]
    have hcalled : q.phase.called.toList.length ≤ 1 := by
      cases q.phase.called <;> simp
    have hjlt : j < q.attempts.length := by omega
    rw [calls, List.getElem?_append_left (by simpa using hjlt), List.getElem?_map] at hj
    obtain ⟨a, ha, rfl⟩ := Option.map_eq_some_iff.mp hj
    use a, ha
    rcases Nat.lt_or_ge k q.attempts.length with hklt | hkge
    · rw [calls, List.getElem?_append_left (by simpa using hklt), List.getElem?_map] at hk
      obtain ⟨b, hb, rfl⟩ := Option.map_eq_some_iff.mp hk
      obtain ⟨hj', rfl⟩ := List.getElem?_eq_some_iff.mp ha
      obtain ⟨hk', rfl⟩ := List.getElem?_eq_some_iff.mp hb
      apply List.pairwise_iff_getElem.mp hq.repeated j k hj' hk' hjk hindex
    · rw [calls, List.getElem?_append_right (by simpa using hkge), List.length_map] at hk
      have hmem : endpoint' ∈ q.phase.called := Option.mem_toList.mp (List.mem_of_getElem? hk)
      apply (hq.at_most_once (hs.failed_of_called hmem) (hfits.called endpoint' hmem)).2 a
        (List.mem_of_getElem? ha) hindex
  · use fun a ha => (hq.endpoints a ha).2, fun endpoint hmem => (hfits.called endpoint hmem).2
  · intro hphase
    apply hs.of_phase hphase
  · intro a ha value hresult
    apply (hs.ended ha _).1 value hresult
    rw [Attempt.kind, Attempt.failure, hresult]
    rfl
  · intro a ha exc hresult
    apply (hs.ended ha _).2 exc hresult
    rw [Attempt.kind, Attempt.failure, hresult]
    rfl

end Request

namespace Requests

variable {α : Type} {P : FallbackProvider}

/-- A value and a semantic error of the operation end a request, and nothing more happens to it. -/
structure Propagates (P : FallbackProvider) (s : Requests α) (r : ℕ) : Prop where
  returned : ∀ value s', step P s (.process r (.finish (.ok value))) = some s' →
    (s'.processes r).phase = .done (.returned value)
  semantic : ∀ name s', step P s (.process r (.finish (.error (.semantic name)))) = some s' →
    (s'.processes r).phase = .done (.raised (.semantic name)) ∧ s'.shared = s.shared
  done : ∀ outcome event, (s.processes r).phase = .done outcome →
    step P s (.process r event) = none

/-- The end of the operation. -/
theorem of_step_finish {s s' : Requests α} {r : ℕ} {result : Except ProviderException α}
    (h : step P s (.process r (.finish result)) = some s') :
  ∃ endpoint generation carrier,
    s'.processes r = (s.processes r).finish P endpoint generation carrier result
      ∧ s'.shared = s.shared
  := by
  have hstep := Interleaving.act_of_step h
  rw [Request.step] at hstep
  split at hstep
  next endpoint generation carrier hphase =>
      obtain ⟨hshared, hrequest⟩ := Prod.mk.inj (Option.some.inj hstep)
      use endpoint, generation, carrier, hrequest.symm, hshared.symm
  next => cases hstep

theorem propagates (P : FallbackProvider) (s : Requests α) (r : ℕ) :
  Propagates P s r
  where
  returned value s' h := by
    obtain ⟨endpoint, generation, carrier, hrequest, -⟩ := of_step_finish h
    rw [hrequest]
    rfl
  semantic name s' h := by
    obtain ⟨endpoint, generation, carrier, hrequest, hshared⟩ := of_step_finish h
    rw [hrequest, hshared]
    use rfl
  done outcome event hphase := by
    have hnone : (s.processes r).step P s.shared r event = none := by
      cases event <;> simp [Request.step, Request.advance, hphase]
    apply Option.map_eq_none_iff.mpr hnone

/-- In every run every request calls the operation at most twice with an endpoint, the second
time after a loss of its transport, never with one that it gave up, and never runs out of
endpoints. The first value is returned and a semantic error is propagated. -/
theorem execute_request_bounded {s : Requests α} (h : Reachable P s) (r : ℕ) :
  (s.processes r).Bounded P ∧ Propagates P s r
  := by
  obtain ⟨-, hinvariant⟩ := invariant_of_reachesUnder h
  obtain ⟨hfits, haccounts, hsettled⟩ := hinvariant r
  apply And.intro (Request.bounded_of_accounts hfits haccounts hsettled) (propagates P s r)

/-- A request that loses the transport of the only endpoint out of cooldown, and is answered
then. -/
theorem execute_request_bounded_retried :
  ∃ s : Requests ℕ, Reachable .pair s
    ∧ ((s.processes 0).calls.length = 2
      ∧ (s.processes 0).phase.called = none)
    ∧ (s.processes 0).Bounded .pair ∧ Propagates .pair s 0
  := by
  obtain ⟨s, hreaches, hcalls⟩ := Transition.exists_reaches_of_execute (step .pair)
    (Interleaving.Guard fun _ _ _ => True) (initial .pair ℕ)
    [ .environment (.call 0 (.markFailed ⟨1, "ws://fallback.invalid"⟩)),
      .process 0 .begin, .process 0 (.acquire 0), .process 0 (.opened 0),
      .process 0 (.finish (.error (.transport ⟨"TimeExhausted", by decide⟩))),
      .process 0 (.invalidate 0), .process 0 (.resume 0), .process 0 (.acquire 0),
      .process 0 (.opened 0), .process 0 (.finish (.ok 7)) ]
    (fun s => (s.processes 0).calls.length = 2 ∧ (s.processes 0).phase.called = none)
    (by decide +kernel)
  apply Exists.intro s ⟨hreaches, hcalls, execute_request_bounded hreaches 0⟩

end Requests

end Sentinel
