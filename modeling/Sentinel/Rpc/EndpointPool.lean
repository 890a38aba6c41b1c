import Sentinel.Sorting
import Mathlib.Algebra.Order.Field.Rat
import Mathlib.Data.Finset.Basic
import Mathlib.Tactic.Linarith

/-!
# The pool of RPC endpoints

The providers of all roles share one pool. An endpoint that failed is in cooldown for a while,
and the endpoint of the last connection that succeeded is preferred. Each call reads the clock
and runs under the lock of the pool, so the calls of the roles follow one another.
-/

namespace Sentinel

structure RpcEndpoint where
  index : ℕ
  uri : String
deriving DecidableEq

structure EndpointState where
  cooldownUntil : ℚ := 0
  subscriptionFailureCount : ℕ := 0
  lastSubscriptionFailureAt : Option ℚ := none
deriving DecidableEq

namespace EndpointState

/-- The endpoint is in cooldown from `now` on. -/
def markFailed (state : EndpointState) (cooldownSeconds now : ℚ) : EndpointState :=
  { state with cooldownUntil := now + cooldownSeconds }

/-- The failures of the subscription transport that a failure at `now` adds to. -/
def recentFailureCount (state : EndpointState) (cooldownSeconds now : ℚ) : ℕ :=
  match state.lastSubscriptionFailureAt with
  | none => 0
  | some lastFailure =>
      if now - lastFailure > cooldownSeconds then 0 else state.subscriptionFailureCount

/-- A failure of the subscription transport. A second one soon after the first puts the
endpoint in cooldown. -/
def recordSubscriptionTransportFailure (state : EndpointState) (cooldownSeconds now : ℚ) :
    Bool × EndpointState :=
  let count := state.recentFailureCount cooldownSeconds now + 1
  if count < 2 then
    (false, { state with
      subscriptionFailureCount := count
      lastSubscriptionFailureAt := some now })
  else
    (true,
      { cooldownUntil := now + cooldownSeconds
        subscriptionFailureCount := 0
        lastSubscriptionFailureAt := some now })

end EndpointState

structure RpcEndpointPool where
  endpoints : List RpcEndpoint
  cooldownSeconds : ℚ
  states : List EndpointState
  preferredIndex : ℕ

namespace RpcEndpointPool

/-- The pool of the endpoints at some URIs, or the text of a `ValueError`. -/
def new (endpointUris : List String) (cooldownSeconds : ℚ) :
    Except String RpcEndpointPool :=
  if endpointUris = [] then .error "At least one RPC endpoint must be configured"
  else if ¬ endpointUris.Nodup then .error "RPC endpoints must be unique"
  else
    let endpoints := endpointUris.mapIdx RpcEndpoint.mk
    .ok
      { endpoints := endpoints
        cooldownSeconds := cooldownSeconds
        states := endpoints.map fun _ => {}
        preferredIndex := 0 }

/-- The endpoints that may be used, and how long to wait when there is none. -/
def candidates (p : RpcEndpointPool) (excludedIndices : Finset ℕ) (now : ℚ) :
    List RpcEndpoint × Option ℚ :=
  let eligible := (p.endpoints.zip p.states).filter fun e => e.1.index ∉ excludedIndices
  if eligible = [] then ([], none)
  else
    let available := (eligible.filter fun e => e.2.cooldownUntil ≤ now).map (·.1)
    if available ≠ [] then
      (sortBy (fun endpoint => endpoint.index != p.preferredIndex) available, some 0)
    else
      let cooldowns := eligible.map fun e => e.2.cooldownUntil - now
      ([], cooldowns.min?.map fun wait => max wait 0)

/-- A connection to an endpoint failed. -/
def markFailed (p : RpcEndpointPool) (endpoint : RpcEndpoint) (now : ℚ) : RpcEndpointPool :=
  { p with
    states := p.states.modify endpoint.index fun state => state.markFailed p.cooldownSeconds now }

/-- A connection to an endpoint succeeded. A cooldown that another role caused meanwhile is
kept. -/
def markSuccess (p : RpcEndpointPool) (endpoint : RpcEndpoint) (now : ℚ) : RpcEndpointPool :=
  match p.states[endpoint.index]? with
  | none => p
  | some state =>
      if state.cooldownUntil > now then p else { p with preferredIndex := endpoint.index }

/-- The subscription transport of an endpoint failed. -/
def recordSubscriptionTransportFailure (p : RpcEndpointPool) (endpoint : RpcEndpoint) (now : ℚ) :
    RpcEndpointPool :=
  { p with
    states := p.states.modify endpoint.index fun state =>
      (state.recordSubscriptionTransportFailure p.cooldownSeconds now).2 }

/-- The calls of the roles. -/
inductive Call where
  | candidates (excludedIndices : Finset ℕ)
  | markFailed (endpoint : RpcEndpoint)
  | markSuccess (endpoint : RpcEndpoint)
  | recordSubscriptionTransportFailure (endpoint : RpcEndpoint)

/-- The pool after a call at a time. -/
def perform (p : RpcEndpointPool) (now : ℚ) : Call → RpcEndpointPool
  | .candidates _ => p
  | .markFailed endpoint => p.markFailed endpoint now
  | .markSuccess endpoint => p.markSuccess endpoint now
  | .recordSubscriptionTransportFailure endpoint =>
      p.recordSubscriptionTransportFailure endpoint now

/-- The pool after calls at their times. -/
def run (p : RpcEndpointPool) (calls : List (ℚ × Call)) : RpcEndpointPool :=
  calls.foldl (fun p call => p.perform call.1 call.2) p

/-- The clock does not go back between the calls. -/
def NonDecreasing (calls : List (ℚ × Call)) : Prop :=
  calls.Pairwise fun call call' => call.1 ≤ call'.1

/-- The state of the endpoint at an index. -/
def state (p : RpcEndpointPool) (index : ℕ) : EndpointState :=
  p.states.getD index {}

/-- The end of the cooldown of an endpoint. -/
def cooldownUntil (p : RpcEndpointPool) (endpoint : RpcEndpoint) : ℚ :=
  (p.state endpoint.index).cooldownUntil

/-! ### Pools -/

/-- Every endpoint has its position as its index, and a state. -/
structure WellFormed (p : RpcEndpointPool) : Prop where
  index_eq : ∀ i (endpoint : RpcEndpoint), p.endpoints[i]? = some endpoint → endpoint.index = i
  length_eq : p.states.length = p.endpoints.length

/-- A new pool has its endpoints at their positions, none of them in cooldown. -/
theorem new_eq_ok {endpointUris : List String} {cooldownSeconds : ℚ} {p : RpcEndpointPool}
    (h : new endpointUris cooldownSeconds = .ok p) :
  p.WellFormed ∧ ∀ endpoint, p.cooldownUntil endpoint = 0
  := by
  rw [new] at h
  split_ifs at h
  obtain rfl := Except.ok.inj h
  constructor
  · constructor
    · intro i endpoint hget
      rw [List.getElem?_mapIdx] at hget
      obtain ⟨uri, -, rfl⟩ := Option.map_eq_some_iff.mp hget
      rfl
    · apply List.length_map
  · intro endpoint
    rw [cooldownUntil, state]
    simp only [List.getD_eq_getElem?_getD, List.getElem?_map]
    cases (endpointUris.mapIdx RpcEndpoint.mk)[endpoint.index]? <;> rfl

/-- No endpoint is in the pool twice. -/
theorem WellFormed.nodup {p : RpcEndpointPool} (h : p.WellFormed) :
  p.endpoints.Nodup
  := by
  apply List.nodup_iff_getElem?_ne_getElem?.mpr
  intro i j hij hj heq
  have hget := List.getElem?_eq_getElem hj
  have hindex := h.index_eq i _ (heq.trans hget)
  rw [h.index_eq j _ hget] at hindex
  omega

/-- The endpoints and their states. -/
theorem WellFormed.zip_eq {p : RpcEndpointPool} (h : p.WellFormed) :
  p.endpoints.zip p.states = p.endpoints.map fun endpoint => (endpoint, p.state endpoint.index)
  := by
  apply List.ext_getElem
  · simp [h.length_eq]
  · intro i hi hi'
    rw [List.length_map] at hi'
    have hstates : i < p.states.length := by
      rw [h.length_eq]
      apply hi'
    have hindex := h.index_eq i _ (List.getElem?_eq_getElem hi')
    simp [state, hindex, hstates]

/-- The position of an endpoint of the pool. -/
theorem WellFormed.index_lt {p : RpcEndpointPool} (h : p.WellFormed) {endpoint : RpcEndpoint}
    (hmem : endpoint ∈ p.endpoints) :
  endpoint.index < p.states.length
  := by
  obtain ⟨i, hi, rfl⟩ := List.mem_iff_getElem.mp hmem
  rw [h.index_eq i _ (List.getElem?_eq_getElem hi), h.length_eq]
  apply hi

/-! ### What a call does to one endpoint -/

/-- What a call does to the state of the endpoint at an index. -/
def stateAfter (cooldownSeconds now : ℚ) (index : ℕ) (state : EndpointState) :
    Call → EndpointState
  | .candidates _ | .markSuccess _ => state
  | .markFailed endpoint =>
      if endpoint.index = index then state.markFailed cooldownSeconds now else state
  | .recordSubscriptionTransportFailure endpoint =>
      if endpoint.index = index then
        (state.recordSubscriptionTransportFailure cooldownSeconds now).2
      else state

theorem state_modify (p : RpcEndpointPool) {index index' : ℕ} (h : index < p.states.length)
    (f : EndpointState → EndpointState) :
  (p.states.modify index' f).getD index {}
    = if index' = index then f (p.state index) else p.state index
  := by
  simp only [state, List.getD_eq_getElem?_getD, List.getElem?_modify]
  split <;> simp [h]

theorem perform_markSuccess (p : RpcEndpointPool) (endpoint : RpcEndpoint) (now : ℚ) :
  (p.markSuccess endpoint now).states = p.states
    ∧ (p.markSuccess endpoint now).endpoints = p.endpoints
    ∧ (p.markSuccess endpoint now).cooldownSeconds = p.cooldownSeconds
  := by
  rw [markSuccess]
  split
  · use rfl, rfl
  · split <;> use rfl, rfl

/-- A call changes the states of the endpoints one by one. -/
theorem state_perform (p : RpcEndpointPool) (now : ℚ) (call : Call) {index : ℕ}
    (h : index < p.states.length) :
  (p.perform now call).state index
    = stateAfter p.cooldownSeconds now index (p.state index) call
  := by
  cases call with
  | candidates excludedIndices => rfl
  | markFailed endpoint => apply p.state_modify h
  | markSuccess endpoint =>
      change (p.markSuccess endpoint now).states.getD index {} = _
      rw [(p.perform_markSuccess endpoint now).1]
      rfl
  | recordSubscriptionTransportFailure endpoint => apply p.state_modify h

/-- No call changes the endpoints. -/
theorem frame_perform (p : RpcEndpointPool) (now : ℚ) (call : Call) :
  (p.perform now call).endpoints = p.endpoints
    ∧ (p.perform now call).cooldownSeconds = p.cooldownSeconds
    ∧ (p.perform now call).states.length = p.states.length
  := by
  cases call with
  | candidates excludedIndices => refine ⟨rfl, rfl, rfl⟩
  | markFailed endpoint => use rfl, rfl, List.length_modify ..
  | markSuccess endpoint =>
      obtain ⟨hstates, hendpoints, hcooldown⟩ := p.perform_markSuccess endpoint now
      use hendpoints, hcooldown
      rw [perform, hstates]
  | recordSubscriptionTransportFailure endpoint => use rfl, rfl, List.length_modify ..

/-- A call puts an endpoint in cooldown or leaves its cooldown as it is. -/
theorem cooldownUntil_stateAfter (cooldownSeconds now : ℚ) (index : ℕ) (state : EndpointState)
    (call : Call) :
  (stateAfter cooldownSeconds now index state call).cooldownUntil = state.cooldownUntil
    ∨ (stateAfter cooldownSeconds now index state call).cooldownUntil = now + cooldownSeconds
  := by
  cases call with
  | candidates excludedIndices => apply Or.inl rfl
  | markSuccess endpoint => apply Or.inl rfl
  | markFailed endpoint =>
      rw [stateAfter]
      split
      · apply Or.inr rfl
      · apply Or.inl rfl
  | recordSubscriptionTransportFailure endpoint =>
      rw [stateAfter]
      split
      · simp only [EndpointState.recordSubscriptionTransportFailure]
        split
        · apply Or.inl rfl
        · apply Or.inr rfl
      · apply Or.inl rfl

theorem cooldownUntil_perform (p : RpcEndpointPool) (now : ℚ) (call : Call)
    (endpoint : RpcEndpoint) :
  (p.perform now call).cooldownUntil endpoint = p.cooldownUntil endpoint
    ∨ (p.perform now call).cooldownUntil endpoint = now + p.cooldownSeconds
  := by
  by_cases h : endpoint.index < p.states.length
  · rw [cooldownUntil, cooldownUntil, p.state_perform now call h]
    apply cooldownUntil_stateAfter
  · left
    have hout : ∀ q : RpcEndpointPool, q.states.length = p.states.length →
        q.cooldownUntil endpoint = 0 := by
      intro q hq
      rw [cooldownUntil, state, List.getD_eq_getElem?_getD, List.getElem?_eq_none (by omega)]
      rfl
    rw [hout p rfl, hout _ (p.frame_perform now call).2.2]

/-! ### Cooldowns never end earlier -/

@[simp]
theorem run_cons (p : RpcEndpointPool) (call : ℚ × Call) (calls : List (ℚ × Call)) :
  p.run (call :: calls) = (p.perform call.1 call.2).run calls
  := rfl

@[simp]
theorem run_append (p : RpcEndpointPool) (calls calls' : List (ℚ × Call)) :
  p.run (calls ++ calls') = (p.run calls).run calls'
  := List.foldl_append

/-- No call changes the endpoints. -/
theorem frame_run (p : RpcEndpointPool) (calls : List (ℚ × Call)) :
  (p.run calls).endpoints = p.endpoints ∧ (p.run calls).cooldownSeconds = p.cooldownSeconds
    ∧ (p.run calls).states.length = p.states.length
  := by
  induction calls generalizing p with
  | nil => refine ⟨rfl, rfl, rfl⟩
  | cons call calls ih =>
      obtain ⟨hendpoints, hcooldown, hlength⟩ := p.frame_perform call.1 call.2
      obtain ⟨hendpoints', hcooldown', hlength'⟩ := ih (p.perform call.1 call.2)
      rw [run_cons, hendpoints', hcooldown', hlength']
      use hendpoints, hcooldown

theorem WellFormed.run {p : RpcEndpointPool} (h : p.WellFormed) (calls : List (ℚ × Call)) :
  (p.run calls).WellFormed
  := by
  obtain ⟨hendpoints, -, hlength⟩ := p.frame_run calls
  constructor
  · rw [hendpoints]
    apply h.index_eq
  · rw [hendpoints, hlength, h.length_eq]

/-- A bound on a cooldown that every later call respects is kept. -/
theorem le_cooldownUntil_run {p : RpcEndpointPool} {endpoint : RpcEndpoint} {t : ℚ}
    (h : t ≤ p.cooldownUntil endpoint) {calls : List (ℚ × Call)}
    (hcalls : ∀ call ∈ calls, t ≤ call.1 + p.cooldownSeconds) :
  t ≤ (p.run calls).cooldownUntil endpoint
  := by
  induction calls generalizing p with
  | nil => apply h
  | cons call calls ih =>
      rw [run_cons]
      apply ih
      · rcases p.cooldownUntil_perform call.1 call.2 endpoint with heq | heq
        · rw [heq]
          apply h
        · rw [heq]
          apply hcalls call List.mem_cons_self
      · rw [(p.frame_perform call.1 call.2).2.1]
        intro call' hcall'
        apply hcalls call' (List.mem_cons_of_mem call hcall')

/-- An endpoint was never in cooldown, or its cooldown ends no later than one that begins
after the last call. -/
theorem cooldownUntil_run_le {p : RpcEndpointPool} {endpoint : RpcEndpoint}
    (hp : p.cooldownUntil endpoint = 0) {calls : List (ℚ × Call)}
    (hcalls : NonDecreasing calls) :
  (∀ calls', calls' <+: calls → (p.run calls').cooldownUntil endpoint = 0)
    ∨ ∀ t, (∀ call ∈ calls, call.1 ≤ t) →
        (p.run calls).cooldownUntil endpoint ≤ t + p.cooldownSeconds
  := by
  induction calls using List.reverseRecOn with
  | nil =>
      left
      intro calls' hstart
      rw [List.prefix_nil.mp hstart]
      apply hp
  | append_singleton calls call ih =>
      have hlast : p.run (calls ++ [call]) = (p.run calls).perform call.1 call.2 :=
        p.run_append calls [call]
      have hcooldown := (p.run calls).cooldownUntil_perform call.1 call.2 endpoint
      rw [(p.frame_run calls).2.1, ← hlast] at hcooldown
      rcases hcooldown with hsame | hnew
      · rw [hsame]
        rcases ih (List.pairwise_append.mp hcalls).1 with hzero | hle
        · left
          intro calls' hstart
          rcases List.prefix_concat_iff.mp hstart with rfl | hstart
          · rw [hsame]
            apply hzero calls List.prefix_rfl
          · apply hzero calls' hstart
        · right
          intro t ht
          apply hle
          intro call' hcall'
          apply ht call' (List.mem_append_left _ hcall')
      · right
        intro t ht
        rw [hnew]
        have := ht call (List.mem_append_right _ (List.mem_singleton_self call))
        linarith

/-- A cooldown never ends earlier than it did before, except that the first one may end
before the time `0` that stands for none. -/
theorem cooldownUntil_run_mono {p : RpcEndpointPool} {endpoint : RpcEndpoint}
    (hp : p.cooldownUntil endpoint = 0) {calls calls' : List (ℚ × Call)}
    (hcalls : NonDecreasing (calls ++ calls')) :
  (p.run calls).cooldownUntil endpoint ≤ (p.run (calls ++ calls')).cooldownUntil endpoint
    ∨ (∀ calls₀, calls₀ <+: calls → (p.run calls₀).cooldownUntil endpoint = 0)
      ∧ (p.run (calls ++ calls')).cooldownUntil endpoint < 0
  := by
  obtain ⟨hbefore, hafter, hbetween⟩ := List.pairwise_append.mp hcalls
  rcases cooldownUntil_run_le hp hbefore with hzero | hle
  · rcases le_or_gt 0 ((p.run (calls ++ calls')).cooldownUntil endpoint) with hnonneg | hneg
    · left
      rw [hzero calls List.prefix_rfl]
      apply hnonneg
    · apply Or.inr ⟨hzero, hneg⟩
  · left
    rw [run_append]
    apply le_cooldownUntil_run le_rfl
    intro call' hcall'
    rw [(p.frame_run calls).2.1]
    apply hle
    intro call hcall
    apply hbetween call hcall call' hcall'

/-! ### Failures of the subscription transport -/

/-- The last subscription transport failure was at `t`, and the next one that follows soon
finds the endpoint in cooldown or puts it there. -/
structure Armed (cooldownSeconds t : ℚ) (state : EndpointState) : Prop where
  last_eq : state.lastSubscriptionFailureAt = some t
  counted : state.subscriptionFailureCount = 1 ∨
    state.subscriptionFailureCount = 0 ∧ t + cooldownSeconds ≤ state.cooldownUntil

/-- A failure arms the endpoint. -/
theorem armed_record (cooldownSeconds t : ℚ) (state : EndpointState) :
  Armed cooldownSeconds t (state.recordSubscriptionTransportFailure cooldownSeconds t).2
  := by
  simp only [EndpointState.recordSubscriptionTransportFailure]
  split
  next hcount =>
      use rfl
      left
      change state.recentFailureCount cooldownSeconds t + 1 = 1
      omega
  next =>
      use rfl
      right
      use rfl

/-- Other calls keep the endpoint armed. -/
theorem Armed.stateAfter {cooldownSeconds t now : ℚ} {state : EndpointState} {index : ℕ}
    {call : Call} (h : Armed cooldownSeconds t state) (hle : t ≤ now)
    (hcall : ∀ endpoint : RpcEndpoint, endpoint.index = index →
      call ≠ .recordSubscriptionTransportFailure endpoint) :
  Armed cooldownSeconds t (stateAfter cooldownSeconds now index state call)
  := by
  cases call with
  | candidates excludedIndices => apply h
  | markSuccess endpoint => apply h
  | markFailed endpoint =>
      rw [RpcEndpointPool.stateAfter]
      split
      · use h.last_eq
        rcases h.counted with hone | ⟨hzero, -⟩
        · apply Or.inl hone
        · right
          use hzero
          change t + cooldownSeconds ≤ now + cooldownSeconds
          linarith
      · apply h
  | recordSubscriptionTransportFailure endpoint =>
      rw [RpcEndpointPool.stateAfter, if_neg]
      · apply h
      · intro hindex
        apply hcall endpoint hindex rfl

/-- A failure soon after the last one leaves the endpoint in cooldown. -/
theorem Armed.le_cooldownUntil {cooldownSeconds t now : ℚ} {state : EndpointState}
    (h : Armed cooldownSeconds t state) (hle : t ≤ now) (hsoon : now - t ≤ cooldownSeconds) :
  now ≤ (state.recordSubscriptionTransportFailure cooldownSeconds now).2.cooldownUntil
  := by
  have hrecent : state.recentFailureCount cooldownSeconds now
      = state.subscriptionFailureCount := by
    rw [EndpointState.recentFailureCount, h.last_eq]
    apply if_neg (not_lt.mpr hsoon)
  simp only [EndpointState.recordSubscriptionTransportFailure, hrecent]
  rcases h.counted with hone | ⟨hzero, hcooldown⟩
  · rw [hone, if_neg (by decide)]
    change now ≤ now + cooldownSeconds
    linarith
  · rw [hzero, if_pos (by decide)]
    change now ≤ state.cooldownUntil
    linarith

/-- The calls between two failures of the subscription transport keep the endpoint armed. -/
theorem armed_run {p : RpcEndpointPool} {endpoint : RpcEndpoint} {t : ℚ}
    (hindex : endpoint.index < p.states.length)
    (h : Armed p.cooldownSeconds t (p.state endpoint.index)) {calls : List (ℚ × Call)}
    (hcalls : ∀ call ∈ calls, t ≤ call.1 ∧ ∀ endpoint' : RpcEndpoint,
      endpoint'.index = endpoint.index → call.2 ≠ .recordSubscriptionTransportFailure endpoint') :
  Armed p.cooldownSeconds t ((p.run calls).state endpoint.index)
  := by
  induction calls generalizing p with
  | nil => apply h
  | cons call calls ih =>
      obtain ⟨-, hcooldown, hlength⟩ := p.frame_perform call.1 call.2
      obtain ⟨hle, hother⟩ := hcalls call List.mem_cons_self
      rw [run_cons, ← hcooldown]
      apply ih
      · rw [hlength]
        apply hindex
      · rw [hcooldown, p.state_perform _ _ hindex]
        apply h.stateAfter hle hother
      · intro call' hcall'
        apply hcalls call' (List.mem_cons_of_mem call hcall')

/-- After two failures of the subscription transport of an endpoint that follow each other
soon, the endpoint is in cooldown. -/
theorem le_cooldownUntil_of_failures {p : RpcEndpointPool} (hp : p.WellFormed)
    {endpoint : RpcEndpoint} (hmem : endpoint ∈ p.endpoints)
    {before between after : List (ℚ × Call)} {t t' : ℚ}
    (hcalls : NonDecreasing (before ++ (t, .recordSubscriptionTransportFailure endpoint)
      :: (between ++ (t', .recordSubscriptionTransportFailure endpoint) :: after)))
    (hbetween : ∀ call ∈ between, ∀ endpoint' : RpcEndpoint,
      endpoint'.index = endpoint.index → call.2 ≠ .recordSubscriptionTransportFailure endpoint')
    (hsoon : t' - t ≤ p.cooldownSeconds) :
  t' ≤ (p.run (before ++ (t, .recordSubscriptionTransportFailure endpoint)
    :: (between ++ (t', .recordSubscriptionTransportFailure endpoint) :: after))).cooldownUntil
      endpoint
  := by
  obtain ⟨hbefore, hrest, -⟩ := List.pairwise_append.mp hcalls
  obtain ⟨hfirst, hrest⟩ := List.pairwise_cons.mp hrest
  obtain ⟨-, hlast, -⟩ := List.pairwise_append.mp hrest
  have hle : t ≤ t' := hfirst _ (List.mem_append_right _ List.mem_cons_self)
  simp only [run_append, run_cons]
  have hindex := (hp.run before).index_lt (by rw [(p.frame_run before).1]; apply hmem)
  have hcooldown : (p.run before).cooldownSeconds = p.cooldownSeconds := (p.frame_run before).2.1
  generalize p.run before = q at hindex hcooldown ⊢
  -- the first failure arms the endpoint
  obtain ⟨-, hcooldown', hlength'⟩ :=
    q.frame_perform t (.recordSubscriptionTransportFailure endpoint)
  have harmed : Armed p.cooldownSeconds t
      ((q.perform t (.recordSubscriptionTransportFailure endpoint)).state endpoint.index) := by
    rw [q.state_perform _ _ hindex, hcooldown, stateAfter, if_pos rfl]
    apply armed_record
  rw [hcooldown] at hcooldown'
  rw [← hlength'] at hindex
  generalize q.perform t (.recordSubscriptionTransportFailure endpoint) = q at *
  -- the calls between keep it armed
  rw [← hcooldown'] at harmed
  obtain ⟨-, hcooldown'', hlength''⟩ := q.frame_run between
  have harmed' := armed_run hindex harmed (by
    intro call hcall
    use hfirst call (List.mem_append_left _ hcall)
    apply hbetween call hcall)
  rw [hcooldown'] at harmed' hcooldown''
  rw [← hlength''] at hindex
  generalize q.run between = q at *
  -- the second failure finds it so, and later calls keep the cooldown
  apply le_cooldownUntil_run
  · rw [cooldownUntil, q.state_perform _ _ hindex, hcooldown'', stateAfter, if_pos rfl]
    apply harmed'.le_cooldownUntil hle hsoon
  · rw [(q.frame_perform _ _).2.1, hcooldown'']
    intro call hcall
    have := (List.pairwise_cons.mp hlast).1 call hcall
    change t' ≤ call.1 at this
    linarith

/-! ### Candidates -/

/-- The endpoints that are not excluded, in configured order. -/
def eligible (p : RpcEndpointPool) (excludedIndices : Finset ℕ) : List RpcEndpoint :=
  p.endpoints.filter fun endpoint => endpoint.index ∉ excludedIndices

/-- The endpoints that are neither excluded nor in cooldown, in configured order. -/
def available (p : RpcEndpointPool) (excludedIndices : Finset ℕ) (now : ℚ) :
    List RpcEndpoint :=
  (p.eligible excludedIndices).filter fun endpoint => p.cooldownUntil endpoint ≤ now

theorem mem_available {p : RpcEndpointPool} {excludedIndices : Finset ℕ} {now : ℚ}
    {endpoint : RpcEndpoint} :
  endpoint ∈ p.available excludedIndices now ↔ endpoint ∈ p.endpoints
    ∧ endpoint.index ∉ excludedIndices ∧ p.cooldownUntil endpoint ≤ now
  := by
  rw [available, eligible, List.mem_filter, List.mem_filter, decide_eq_true_iff,
    decide_eq_true_iff, and_assoc]

/-- The candidates in terms of the available endpoints. -/
theorem WellFormed.candidates_eq {p : RpcEndpointPool} (h : p.WellFormed)
    (excludedIndices : Finset ℕ) (now : ℚ) :
  p.candidates excludedIndices now
    = if p.eligible excludedIndices = [] then ([], none)
      else if p.available excludedIndices now ≠ [] then
        (sortBy (fun endpoint => endpoint.index != p.preferredIndex)
          (p.available excludedIndices now), some 0)
      else
        ([], ((p.eligible excludedIndices).map fun endpoint =>
          p.cooldownUntil endpoint - now).min?.map fun wait => max wait 0)
  := by
  have heligible : (p.endpoints.zip p.states).filter (fun e => e.1.index ∉ excludedIndices)
      = (p.eligible excludedIndices).map fun endpoint => (endpoint, p.state endpoint.index) := by
    rw [h.zip_eq, List.filter_map]
    rfl
  have havailable : (((p.eligible excludedIndices).map fun endpoint =>
      (endpoint, p.state endpoint.index)).filter fun e => e.2.cooldownUntil ≤ now).map (·.1)
      = p.available excludedIndices now := by
    rw [List.filter_map, List.map_map]
    apply List.map_id
  rw [RpcEndpointPool.candidates]
  simp only [heligible, havailable, List.map_eq_nil_iff, List.map_map]
  rfl

/-- The candidates are the available endpoints, the preferred one first. -/
theorem WellFormed.fst_candidates {p : RpcEndpointPool} (h : p.WellFormed)
    (excludedIndices : Finset ℕ) (now : ℚ) :
  (p.candidates excludedIndices now).1
    = sortBy (fun endpoint => endpoint.index != p.preferredIndex)
      (p.available excludedIndices now)
  := by
  rw [h.candidates_eq]
  split_ifs with heligible havailable
  · rw [available, heligible]
    simp
  · rfl
  · rw [not_not.mp havailable]
    simp

/-- What `candidates` returns. -/
structure CandidatesSpec (p : RpcEndpointPool) (excludedIndices : Finset ℕ) (now : ℚ)
    (result : List RpcEndpoint × Option ℚ) : Prop where
  nodup : result.1.Nodup
  mem_iff : ∀ endpoint, endpoint ∈ result.1 ↔ endpoint ∈ p.endpoints
    ∧ endpoint.index ∉ excludedIndices ∧ p.cooldownUntil endpoint ≤ now
  /-- the preferred endpoint is first, and the others are in configured order -/
  eq_append : result.1
    = (p.available excludedIndices now).filter (fun endpoint => endpoint.index = p.preferredIndex)
      ++ (p.available excludedIndices now).filter fun endpoint =>
        endpoint.index ≠ p.preferredIndex
  /-- without a candidate, the wait is the time until there is one -/
  wait_eq : result.1 = [] → (∃ endpoint ∈ p.endpoints, endpoint.index ∉ excludedIndices) →
    ∃ wait, result.2 = some wait ∧ 0 < wait
      ∧ IsLeast {t | now ≤ t ∧ (p.candidates excludedIndices t).1 ≠ []} (now + wait)

theorem WellFormed.candidatesSpec {p : RpcEndpointPool} (h : p.WellFormed)
    (excludedIndices : Finset ℕ) (now : ℚ) :
  p.CandidatesSpec excludedIndices now (p.candidates excludedIndices now)
  where
  nodup := by
    rw [h.fst_candidates, (sortBy_perm _ _).nodup_iff]
    apply (h.nodup.filter _).filter
  mem_iff endpoint := by
    rw [h.fst_candidates, mem_sortBy, mem_available]
  eq_append := by
    rw [h.fst_candidates, sortBy_eq_append]
    congr 1
    · apply List.filter_congr
      intro endpoint _
      simp [bne, beq_eq_decide]
    · apply List.filter_congr
      intro endpoint _
      simp [bne, beq_eq_decide]
  wait_eq := by
    rintro hempty ⟨endpoint, hmem, hincluded⟩
    rw [h.fst_candidates, sortBy_eq_nil_iff] at hempty
    have heligible : p.eligible excludedIndices ≠ [] := by
      apply List.ne_nil_of_mem (a := endpoint)
      simp [eligible, hmem, hincluded]
    have hcooling : ∀ e ∈ p.eligible excludedIndices, now < p.cooldownUntil e := by
      intro e he
      by_contra hle
      have hin : e ∈ p.available excludedIndices now := by
        simpa [available, he] using hle
      rw [hempty] at hin
      cases hin
    have hcooldowns : (p.eligible excludedIndices).map
        (fun endpoint => p.cooldownUntil endpoint - now) ≠ [] := by
      simpa using heligible
    obtain ⟨wait, hwait⟩ := Option.isSome_iff_exists.mp (List.isSome_min?_iff.mpr hcooldowns)
    obtain ⟨hattained, hleast⟩ := List.min?_eq_some_iff.mp hwait
    obtain ⟨first, hfirst, rfl⟩ := List.mem_map.mp hattained
    have hpos : 0 < p.cooldownUntil first - now := by
      have := hcooling first hfirst
      linarith
    use p.cooldownUntil first - now
    refine ⟨?_, hpos, ?_, ?_⟩
    · rw [h.candidates_eq, if_neg heligible, if_neg (not_not.mpr hempty), hwait]
      simp [hpos.le]
    · constructor
      · linarith
      · rw [h.fst_candidates, ne_eq, sortBy_eq_nil_iff]
        apply List.ne_nil_of_mem (a := first)
        simp [available, hfirst]
    · rintro t ⟨-, hsome⟩
      rw [h.fst_candidates, ne_eq, sortBy_eq_nil_iff] at hsome
      obtain ⟨e, he⟩ := List.exists_mem_of_ne_nil _ hsome
      rw [available, List.mem_filter] at he
      have hle := hleast _ (List.mem_map_of_mem he.1)
      have ht := of_decide_eq_true he.2
      linarith

/-! ### The discipline of the pool -/

/-- In every sequence of calls the cooldowns of the endpoints do not shrink, but for a first
one that ends before the time `0`, no success changes one, the candidates are the endpoints
that are available, and two failures of a subscription transport in a row leave their endpoint
in cooldown. -/
theorem cooldown_discipline {endpointUris : List String} {cooldownSeconds : ℚ}
    {p : RpcEndpointPool} (hnew : new endpointUris cooldownSeconds = .ok p) :
  (∀ calls calls', NonDecreasing (calls ++ calls') → ∀ endpoint ∈ p.endpoints,
      (p.run calls).cooldownUntil endpoint ≤ (p.run (calls ++ calls')).cooldownUntil endpoint
      ∨ (∀ calls₀, calls₀ <+: calls → (p.run calls₀).cooldownUntil endpoint = 0)
        ∧ (p.run (calls ++ calls')).cooldownUntil endpoint < 0)
    ∧ (∀ calls now endpoint,
        ((p.run calls).perform now (.markSuccess endpoint)).states = (p.run calls).states)
    ∧ (∀ calls excludedIndices now, (p.run calls).CandidatesSpec excludedIndices now
        ((p.run calls).candidates excludedIndices now))
    ∧ ∀ endpoint ∈ p.endpoints, ∀ before between after t t',
        NonDecreasing (before ++ (t, .recordSubscriptionTransportFailure endpoint)
          :: (between ++ (t', .recordSubscriptionTransportFailure endpoint) :: after)) →
        (∀ call ∈ between, ∀ endpoint' : RpcEndpoint, endpoint'.index = endpoint.index →
          call.2 ≠ .recordSubscriptionTransportFailure endpoint') →
        t' - t ≤ p.cooldownSeconds →
        t' ≤ (p.run (before ++ (t, .recordSubscriptionTransportFailure endpoint)
          :: (between ++ (t', .recordSubscriptionTransportFailure endpoint)
          :: after))).cooldownUntil endpoint
  := by
  obtain ⟨hp, hzero⟩ := new_eq_ok hnew
  refine ⟨?_, ?_, ?_, ?_⟩
  · intro calls calls' hcalls endpoint _
    apply cooldownUntil_run_mono (hzero endpoint) hcalls
  · intro calls now endpoint
    apply ((p.run calls).perform_markSuccess endpoint now).1
  · intro calls excludedIndices now
    apply (hp.run calls).candidatesSpec
  · intro endpoint hmem before between after t t' hcalls hbetween hsoon
    apply le_cooldownUntil_of_failures hp hmem hcalls hbetween hsoon

/-- Two failures at `10` and `40` with a cooldown of `60`. -/
theorem cooldown_discipline_twoFailures :
  ∃ p, new ["ws://primary.invalid", "ws://fallback.invalid"] 60 = .ok p
    ∧ 40 ≤ (p.run [(10, .recordSubscriptionTransportFailure ⟨0, "ws://primary.invalid"⟩),
      (20, .markSuccess ⟨0, "ws://primary.invalid"⟩),
      (40, .recordSubscriptionTransportFailure ⟨0, "ws://primary.invalid"⟩)]).cooldownUntil
        ⟨0, "ws://primary.invalid"⟩
  := by
  obtain ⟨p, hnew, hmem, hcooldown⟩ : ∃ p : RpcEndpointPool,
      new ["ws://primary.invalid", "ws://fallback.invalid"] 60 = .ok p
        ∧ ⟨0, "ws://primary.invalid"⟩ ∈ p.endpoints ∧ p.cooldownSeconds = 60 :=
    ⟨_, rfl, List.mem_cons_self, rfl⟩
  use p, hnew
  apply (cooldown_discipline hnew).2.2.2 ⟨0, "ws://primary.invalid"⟩ hmem []
    [(20, .markSuccess ⟨0, "ws://primary.invalid"⟩)] [] 10 40
  · simp only [NonDecreasing, List.nil_append, List.cons_append, List.pairwise_cons,
      List.mem_cons, List.not_mem_nil, or_false, forall_eq_or_imp, forall_eq]
    norm_num
  · simp
  · rw [hcooldown]
    norm_num

/-- A clock that reads a negative time puts the first cooldown before the time `0`. -/
theorem cooldownUntil_decreases :
  ¬ ∀ endpointUris cooldownSeconds p, new endpointUris cooldownSeconds = .ok p →
    ∀ calls calls', NonDecreasing (calls ++ calls') → ∀ endpoint ∈ p.endpoints,
      (p.run calls).cooldownUntil endpoint ≤ (p.run (calls ++ calls')).cooldownUntil endpoint
  := by
  intro h
  have hle := h ["ws://primary.invalid"] 30 _ rfl []
    [(-100, .markFailed ⟨0, "ws://primary.invalid"⟩)] (List.pairwise_singleton _ _)
    ⟨0, "ws://primary.invalid"⟩ List.mem_cons_self
  change (0 : ℚ) ≤ -100 + 30 at hle
  norm_num at hle

end RpcEndpointPool

end Sentinel
