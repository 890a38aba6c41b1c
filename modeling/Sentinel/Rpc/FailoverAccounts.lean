import Sentinel.Rpc.FailoverPlaces

/-!
# The accounts of a request

What a request keeps of its failures, in terms of the calls of its operation. An endpoint is
given up when it rejected the request or lost its transport twice, so the failures at one
endpoint are one of five histories. A request goes on only while some endpoint is not given up.
-/

namespace Sentinel

/-- The summary of a failure of the operation. -/
def Attempt.failure {α : Type} (a : Attempt α) : Option RpcFailureSummary :=
  match a.result with
  | .failed failure _ => some failure
  | _ => none

/-- The kind of a failure of the operation. -/
def Attempt.kind {α : Type} (a : Attempt α) : Option RpcFailureKind :=
  a.failure.map RpcFailureSummary.kind

/-- The failures at an endpoint so far. -/
def Request.history {α : Type} (q : Request α) (index : ℕ) : List RpcFailureKind :=
  q.attempts.filterMap fun a => if a.endpoint.index = index then a.kind else none

/-- The failures at an endpoint that is given up. -/
def GivenUp (history : List RpcFailureKind) : Prop :=
  history ∈ [[.rpcRejected], [.transport, .rpcRejected], [.transport, .transport]]

/-- The failures at an endpoint that may be used. -/
def Usable (history : List RpcFailureKind) : Prop :=
  history ∈ [[], [.transport]]

/-- An endpoint is given up for a failure. -/
theorem GivenUp.exists_mem {history : List RpcFailureKind} (h : GivenUp history) :
  ∃ kind, kind ∈ history
  := by
  simp only [GivenUp, List.mem_cons, List.not_mem_nil, or_false] at h
  rcases h with rfl | rfl | rfl <;> apply Exists.intro _ List.mem_cons_self

/-- A failure at an endpoint that may be used: the endpoint is given up unless it is the first
loss of the transport. -/
theorem givenUp_append_iff {history : List RpcFailureKind} (h : Usable history)
    (kind : RpcFailureKind) :
  (GivenUp (history ++ [kind]) ↔ kind = .rpcRejected ∨ .transport ∈ history)
    ∧ (GivenUp (history ++ [kind]) ∨ Usable (history ++ [kind]))
  := by
  simp only [Usable, List.mem_cons, List.not_mem_nil, or_false] at h
  rcases h with rfl | rfl <;> cases kind <;> simp [GivenUp, Usable]

/-- A failed call of the operation names the endpoint that it was called with. -/
theorem endpointIndex_of_failed {α : Type} {t : MessageTables}
    {operation : Except ProviderException α} {endpoint : RpcEndpoint}
    {failure : RpcFailureSummary} {logMessage : List Char}
    (h : invokeRpcOperation t operation endpoint = .failed failure logMessage) :
  failure.endpointIndex = some endpoint.index
  := by
  cases operation with
  | ok value => cases h
  | error exc =>
      have hfailure : exc.IsEndpointFailure := by
        cases exc with
        | transport name => trivial
        | tooManyRequests name text => trivial
        | web3Rpc name rpcResponse => trivial
        | semantic name => cases h
        | other name => cases h
      obtain ⟨hsummary, -⟩ := (invokeRpcOperation_eq_failed_iff hfailure).mp h
      obtain ⟨label, -, rfl⟩ := Option.map_eq_some_iff.mp hsummary
      rfl

namespace Request

variable {α : Type}

/-- What a request keeps of its failures. -/
structure Accounts (P : FallbackProvider) (q : Request α) : Prop where
  observed : q.observed = q.attempts.filterMap fun a => a.kind.map fun kind => (a.endpoint, kind)
  failures : q.requestFailures
    = (q.attempts.filterMap Attempt.failure).filter fun f => f.kind = .rpcRejected
  named : ∀ a ∈ q.attempts, ∀ failure ∈ a.failure,
    failure.endpointIndex = some a.endpoint.index
  retried : ∀ i, i ∈ q.transportRetriedIndices ↔ .transport ∈ q.history i
  rejected : ∀ i, i ∈ q.rejectedIndices ↔ GivenUp (q.history i)
  history : ∀ i, GivenUp (q.history i) ∨ Usable (q.history i)
  endpoints : ∀ a ∈ q.attempts, P.MayUse a.rejectedIndices a.endpoint
  repeated : q.attempts.Pairwise fun a b =>
    a.endpoint.index = b.endpoint.index → a.kind = some .transport
  twice : ∀ i, (q.attempts.filter fun a => a.endpoint.index = i).length ≤ 2

/-- The calls of the operation have failed so far. -/
def Failed (q : Request α) : Prop :=
  ∀ a ∈ q.attempts, a.kind.isSome

/-- The last call of the operation failed like this, as those before it did in some way. -/
def FailedAtLast (q : Request α) (kind : RpcFailureKind) : Prop :=
  q.Failed ∧ q.attempts.getLast?.bind Attempt.kind = some kind

/-- The last call of the operation did not fail, as those before it did. -/
def EndedWith (q : Request α) (result : Invoked α) : Prop :=
  ∃ attempts a, q.attempts = attempts ++ [a] ∧ a.result = result
    ∧ ∀ b ∈ attempts, b.kind.isSome

/-- The phase of a request tells how the calls of its operation ended, and that a request which
goes on has not given up all endpoints. -/
def Settled (P : FallbackProvider) (q : Request α) : Prop :=
  match q.phase with
  | .idle => q.attempts = [] ∧ q.rejectedIndices = ∅
  | .connecting _ _ | .operating _ _ _ =>
      q.Failed ∧ q.rejectedIndices.card < P.pool.endpoints.length
  | .invalidating _ _ kind _ | .closing kind => q.FailedAtLast kind
  | .done outcome =>
      match outcome with
      | .returned value => q.EndedWith (.returned value)
      | .raised exc => q.EndedWith (.raised exc)
      | .valueError => q.EndedWith .valueError
      | .assertionError | .endpointsUnavailable | .aborted _ => q.Failed
      | .noUntriedEndpoints => False
      | .connectionsLost =>
          q.FailedAtLast .transport ∧ q.rejectedIndices.card = P.pool.endpoints.length
      | .rejectedByAllProviders failures =>
          q.FailedAtLast .rpcRejected ∧ q.rejectedIndices.card = P.pool.endpoints.length
            ∧ failures = q.requestFailures

variable {P : FallbackProvider} {r : ℕ} {c c' : FallbackConnection} {q q' : Request α}
  {event : RequestEvent α}

theorem settled_iff_of_phase {phase : RequestPhase α} (hphase : q.phase = phase) :
  q.Settled P ↔ (q.goto phase).Settled P
  := by
  subst hphase
  rfl

theorem Settled.of_phase (h : q.Settled P) {phase : RequestPhase α} (hphase : q.phase = phase) :
  (q.goto phase).Settled P
  := (settled_iff_of_phase hphase).mp h

theorem accounts_new :
  (new α).Accounts P
  where
  observed := rfl
  failures := rfl
  named := nofun
  retried i := by simp [new, history]
  rejected i := by simp [new, history, GivenUp]
  history i := by simp [new, history, Usable]
  endpoints := nofun
  repeated := List.Pairwise.nil
  twice i := Nat.zero_le 2

theorem Accounts.goto (h : q.Accounts P) (phase : RequestPhase α) :
  (q.goto phase).Accounts P
  := ⟨h.observed, h.failures, h.named, h.retried, h.rejected, h.history, h.endpoints, h.repeated,
    h.twice⟩

/-! ### The end of the operation -/

/-- The history of an endpoint has the kinds of the failures at it. -/
theorem mem_history_iff {kind : RpcFailureKind} {i : ℕ} :
  kind ∈ q.history i ↔ ∃ a ∈ q.attempts, a.endpoint.index = i ∧ a.kind = some kind
  := by
  rw [history, List.mem_filterMap]
  simp only [Option.ite_none_right_eq_some]

/-- The history at an endpoint after another call of the operation. -/
theorem history_append {a : Attempt α} (hattempts : q'.attempts = q.attempts ++ [a]) (i : ℕ) :
  q'.history i = q.history i ++ if a.endpoint.index = i then a.kind.toList else []
  := by
  rw [history, history, hattempts, List.filterMap_append]
  congr 1
  split
  next h => cases hkind : a.kind <;> simp [h, hkind]
  next h => simp [h]

/-- The request `q'` has recorded another call of the operation than `q`. -/
structure Records (q : Request α) (a : Attempt α) (q' : Request α) : Prop where
  attempts : q'.attempts = q.attempts ++ [a]
  observed : q'.observed = q.observed ++ (a.kind.map fun kind => (a.endpoint, kind)).toList
  failures : q'.requestFailures
    = q.requestFailures ++ a.failure.toList.filter fun f => f.kind = .rpcRejected
  retried : ∀ i, i ∈ q'.transportRetriedIndices ↔ i ∈ q.transportRetriedIndices
    ∨ a.endpoint.index = i ∧ a.kind = some .transport
  rejected : ∀ i, i ∈ q'.rejectedIndices ↔ i ∈ q.rejectedIndices ∨ a.endpoint.index = i
    ∧ (a.kind = some .rpcRejected ∨ a.kind = some .transport ∧ i ∈ q.transportRetriedIndices)

/-- The attempt that the end of the operation records. -/
def attemptOf (P : FallbackProvider) (q : Request α) (endpoint : RpcEndpoint)
    (carrier : Option RpcEndpoint) (result : Except ProviderException α) : Attempt α :=
  ⟨endpoint, carrier, q.rejectedIndices, invokeRpcOperation P.tables result endpoint⟩

/-- The end of the operation records it. -/
theorem records_finish (P : FallbackProvider) (q : Request α) (endpoint : RpcEndpoint)
    (generation : ℕ) (carrier : Option RpcEndpoint) (result : Except ProviderException α) :
  Records q (q.attemptOf P endpoint carrier result)
    (q.finish P endpoint generation carrier result)
  := by
  rw [finish, attemptOf]
  cases hinvoked : invokeRpcOperation P.tables result endpoint with
  | returned value => constructor <;> simp [goto, Attempt.kind, Attempt.failure]
  | raised exc => constructor <;> simp [goto, Attempt.kind, Attempt.failure]
  | valueError => constructor <;> simp [goto, Attempt.kind, Attempt.failure]
  | failed failure logMessage =>
      dsimp only
      rw [recordFailure]
      split
      next hkind =>
          constructor
          · rfl
          · simp [Attempt.kind, Attempt.failure, hkind]
          · simp [Attempt.failure, hkind]
          · intro i
            simp [Attempt.kind, Attempt.failure, hkind, eq_comm, or_comm]
          · intro i
            by_cases hretried : endpoint.index ∈ q.transportRetriedIndices
            · simp [Attempt.kind, Attempt.failure, hkind, hretried]
              grind
            · simp [Attempt.kind, Attempt.failure, hkind, hretried]
              grind
      next hkind =>
          constructor
          · rfl
          · simp [Attempt.kind, Attempt.failure, hkind]
          · simp [Attempt.failure, hkind]
          · intro i
            simp [Attempt.kind, Attempt.failure, hkind]
          · intro i
            simp [Attempt.kind, Attempt.failure, hkind, eq_comm, or_comm]

/-- An endpoint that may be used has lost its transport at most once. -/
theorem Accounts.usable (h : q.Accounts P) {endpoint : RpcEndpoint}
    (huse : P.MayUse q.rejectedIndices endpoint) :
  Usable (q.history endpoint.index)
  := by
  apply (h.history _).resolve_left
  rw [← h.rejected]
  apply huse.2

/-- The calls at an endpoint that have failed so far are its history. -/
theorem Failed.history_eq (h : q.Failed) (i : ℕ) :
  (q.history i).map some = (q.attempts.filter fun a => a.endpoint.index = i).map Attempt.kind
  := by
  rw [Failed] at h
  rw [history]
  revert h
  induction q.attempts with
  | nil =>
      intro _
      rfl
  | cons a attempts ih =>
      intro h
      obtain ⟨ha, hattempts⟩ := List.forall_mem_cons.mp h
      obtain ⟨kind, hkind⟩ := Option.isSome_iff_exists.mp ha
      by_cases hi : a.endpoint.index = i
      · simp [hi, hkind, ih hattempts]
      · simp [hi, ih hattempts]

/-- An endpoint that may be used was called at most once, and lost its transport then. -/
theorem Accounts.at_most_once (h : q.Accounts P) (hfailed : q.Failed) {endpoint : RpcEndpoint}
    (huse : P.MayUse q.rejectedIndices endpoint) :
  (q.attempts.filter fun a => a.endpoint.index = endpoint.index).length ≤ 1
    ∧ ∀ a ∈ q.attempts, a.endpoint.index = endpoint.index → a.kind = some .transport
  := by
  have heq := hfailed.history_eq endpoint.index
  have husable := h.usable huse
  simp only [Usable, List.mem_cons, List.not_mem_nil, or_false] at husable
  constructor
  · rw [← List.length_map Attempt.kind, ← heq]
    rcases husable with hnil | hlost
    · simp [hnil]
    · simp [hlost]
  · intro a ha hindex
    have hmem : a.kind ∈ (q.history endpoint.index).map some := by
      rw [heq]
      apply List.mem_map_of_mem
      simpa [hindex] using ha
    rcases husable with hnil | hlost
    · simp [hnil] at hmem
    · simpa [hlost] using hmem

/-- A call of the operation at an endpoint that may be used keeps the accounts. -/
theorem Records.accounts {a : Attempt α} (h : Records q a q') (hq : q.Accounts P)
    (hfailed : q.Failed) (huse : P.MayUse q.rejectedIndices a.endpoint)
    (hrejected : a.rejectedIndices = q.rejectedIndices)
    (hnamed : ∀ failure ∈ a.failure, failure.endpointIndex = some a.endpoint.index) :
  q'.Accounts P
  := by
  have husable := hq.usable huse
  obtain ⟨honce, hlost⟩ := hq.at_most_once hfailed huse
  have hhistory := history_append h.attempts
  constructor
  · rw [h.observed, h.attempts, hq.observed, List.filterMap_append]
    cases hkind : a.kind <;> simp [hkind]
  · rw [h.failures, h.attempts, hq.failures, List.filterMap_append, List.filter_append]
    cases hfailure : a.failure <;> simp [hfailure]
  · rw [h.attempts]
    apply List.forall_mem_append.mpr ⟨hq.named, List.forall_mem_singleton.mpr hnamed⟩
  · intro i
    rw [h.retried, hq.retried, hhistory]
    by_cases hi : a.endpoint.index = i
    · simp [hi, eq_comm]
    · simp [hi]
  · intro i
    rw [h.rejected, hq.rejected, hq.retried, hhistory]
    by_cases hi : a.endpoint.index = i
    · subst hi
      have hnot : ¬ GivenUp (q.history a.endpoint.index) := by
        rw [← hq.rejected]
        apply huse.2
      cases hkind : a.kind with
      | none => simp [hnot]
      | some kind =>
          have hgiven := (givenUp_append_iff husable kind).1
          simp only [if_pos, Option.toList_some, hgiven, hnot, false_or, true_and]
          cases kind <;> simp
    · simp [hi]
  · intro i
    rw [hhistory]
    by_cases hi : a.endpoint.index = i
    · subst hi
      cases hkind : a.kind with
      | none => simpa using hq.history a.endpoint.index
      | some kind =>
          have hnext := (givenUp_append_iff husable kind).2
          simpa using hnext
    · simpa [hi] using hq.history i
  · rw [h.attempts]
    apply List.forall_mem_append.mpr ⟨hq.endpoints, List.forall_mem_singleton.mpr _⟩
    rw [hrejected]
    apply huse
  · rw [h.attempts]
    apply List.pairwise_append.mpr ⟨hq.repeated, List.pairwise_singleton _ a, _⟩
    intro b hb a' ha'
    rw [List.mem_singleton.mp ha']
    apply hlost b hb
  · intro i
    rw [h.attempts, List.filter_append, List.length_append]
    by_cases hi : a.endpoint.index = i
    · subst hi
      simpa using honce
    · simpa [hi] using hq.twice i

/-! ### Endpoints that are not given up -/

/-- An endpoint of the provider has a position below the number of endpoints. -/
theorem index_lt_of_mem {endpoint : RpcEndpoint} (h : endpoint ∈ P.pool.endpoints) :
  endpoint.index < P.pool.endpoints.length
  := by
  rw [← P.wellFormed.length_eq]
  apply P.wellFormed.index_lt h

/-- The endpoints that are given up are endpoints of the provider. -/
theorem Accounts.rejected_subset (h : q.Accounts P) :
  q.rejectedIndices ⊆ Finset.range P.pool.endpoints.length
  := by
  intro i hi
  obtain ⟨kind, hkind⟩ := ((h.rejected i).mp hi).exists_mem
  obtain ⟨a, ha, rfl, -⟩ := mem_history_iff.mp hkind
  apply Finset.mem_range.mpr (index_lt_of_mem (h.endpoints a ha).1)

/-- Not all endpoints are given up. -/
theorem exists_not_mem_rejected (h : q.rejectedIndices.card < P.pool.endpoints.length) :
  ∃ endpoint ∈ P.pool.endpoints, endpoint.index ∉ q.rejectedIndices
  := by
  by_contra hall
  have hsub : Finset.range P.pool.endpoints.length ⊆ q.rejectedIndices := by
    intro i hi
    have hget := List.getElem?_eq_getElem (Finset.mem_range.mp hi)
    rw [← P.wellFormed.index_eq i _ hget]
    by_contra hnot
    apply hall ⟨_, List.getElem_mem _, hnot⟩
  have hle := Finset.card_le_card hsub
  rw [Finset.card_range] at hle
  omega

/-- All endpoints are given up. -/
theorem Accounts.mem_rejected (h : q.Accounts P)
    (hcard : q.rejectedIndices.card = P.pool.endpoints.length) :
  ∀ endpoint ∈ P.pool.endpoints, endpoint.index ∈ q.rejectedIndices
  := by
  intro endpoint hmem
  have heq : q.rejectedIndices = Finset.range P.pool.endpoints.length := by
    apply Finset.eq_of_subset_of_card_le h.rejected_subset
    rw [Finset.card_range, hcard]
  rw [heq]
  apply Finset.mem_range.mpr (index_lt_of_mem hmem)

/-! ### Going on -/

/-- A request that connects has not given up all endpoints. -/
theorem Settled.connecting (h : q.Settled P) {caller : Caller} {point : ConnectPoint}
    (hphase : q.phase = .connecting caller point) :
  q.Failed ∧ q.rejectedIndices.card < P.pool.endpoints.length
  := h.of_phase hphase

theorem Settled.operating (h : q.Settled P) {endpoint : RpcEndpoint} {generation : ℕ}
    {carrier : Option RpcEndpoint} (hphase : q.phase = .operating endpoint generation carrier) :
  q.Failed ∧ q.rejectedIndices.card < P.pool.endpoints.length
  := h.of_phase hphase

theorem AtLoop.settled {caller : Caller} {completedRounds : ℕ}
    (hloop : AtLoop r c q c' caller completedRounds) (h : q.Settled P) :
  q.Failed ∧ q.rejectedIndices.card < P.pool.endpoints.length
  := by
  cases hloop with
  | locked hphase _ _ => apply h.connecting hphase
  | cleared hphase => apply h.connecting hphase
  | woken hphase => apply h.connecting hphase

/-- There is always an endpoint to connect to. -/
theorem candidates_ne_none (hc : c.Sound P)
    (hcard : q.rejectedIndices.card < P.pool.endpoints.length) (caller : Caller) (now : ℚ) :
  c.pool.candidates (q.excludedIndices caller) now ≠ ([], none)
  := by
  obtain ⟨hendpoints, hwellFormed⟩ := hc.pool
  have hexists : ∃ endpoint ∈ c.pool.endpoints, endpoint.index ∉ q.excludedIndices caller := by
    rw [hendpoints]
    cases caller with
    | executeRequest => apply exists_not_mem_rejected hcard
    | makeRequest endpoint generation =>
        obtain ⟨endpoint, hmem⟩ := List.exists_mem_of_ne_nil _ P.nonempty
        use endpoint, hmem
        apply Finset.notMem_empty
  intro hnone
  have hwait := (hwellFormed.candidatesSpec (q.excludedIndices caller) now).wait_eq
  rw [hnone] at hwait
  obtain ⟨wait, hsome, -⟩ := hwait rfl hexists
  cases hsome

/-- A connect that fails for want of connections leaves the request settled. -/
theorem settled_unconnected
    (h : q.Failed ∧ q.rejectedIndices.card < P.pool.endpoints.length) (caller : Caller) :
  (q.goto (unconnected .endpointsUnavailable caller)).Settled P
  := by
  cases caller with
  | executeRequest => apply h.1
  | makeRequest endpoint generation => apply h

/-- A connect that returns leaves the request settled. -/
theorem settled_connected
    (h : q.Failed ∧ q.rejectedIndices.card < P.pool.endpoints.length) (c : FallbackConnection)
    (caller : Caller) :
  (q.goto (connected c caller)).Settled P
  := by
  cases caller with
  | executeRequest =>
      rw [connected]
      split
      · apply h
      · apply h.1
  | makeRequest endpoint generation => apply h

/-- After an invalidation the request goes on or has given up all endpoints. -/
theorem settled_continued (hq : q.Accounts P) {kind : RpcFailureKind}
    (h : q.FailedAtLast kind) :
  (q.goto (q.continued P kind)).Settled P
  := by
  unfold continued
  split
  next hcard =>
      cases kind with
      | transport => use h, hcard
      | rpcRejected => refine ⟨h, hcard, rfl⟩
  next hcard =>
      have hle := Finset.card_le_card hq.rejected_subset
      rw [Finset.card_range] at hle
      use h.1, lt_of_le_of_ne hle hcard

/-- A request that is aborted leaves its calls failed. -/
theorem Settled.failed (h : q.Settled P) (hidle : q.phase ≠ .idle)
    (hdone : ∀ outcome, q.phase ≠ .done outcome) :
  q.Failed
  := by
  cases hphase : q.phase with
  | idle => cases hidle hphase
  | connecting caller point => apply (h.connecting hphase).1
  | operating endpoint generation carrier => apply (h.operating hphase).1
  | invalidating endpoint generation kind cooldown =>
      have hlast : q.FailedAtLast kind := h.of_phase hphase
      apply hlast.1
  | closing kind =>
      have hlast : q.FailedAtLast kind := h.of_phase hphase
      apply hlast.1
  | done outcome => cases hdone outcome hphase

/-- A step leaves the request settled. -/
theorem Steps.settled {phase : RequestPhase α} (h : Steps P r c q event c' phase) (hc : c.Sound P)
    (hq : q.Accounts P) (hs : q.Settled P) :
  (q.goto phase).Settled P
  := by
  cases h with
  | begin hphase =>
      obtain ⟨hattempts, hrejected⟩ : q.attempts = [] ∧ q.rejectedIndices = ∅ := hs.of_phase hphase
      constructor
      · intro a ha
        rw [goto, hattempts] at ha
        cases ha
      · rw [goto, hrejected]
        apply List.length_pos_iff.mpr P.nonempty
  | exclude hphase hlock hactive hmem => apply hs.connecting hphase
  | check hphase hlock hactive hmem => apply hs.connecting hphase
  | roundsOver hloop => apply settled_unconnected (hloop.settled hs)
  | noUntried hloop hcandidates =>
      cases candidates_ne_none (hloop.sound hc) (hloop.settled hs).2 _ _ hcandidates
  | wait hloop => apply hloop.settled hs
  | select hloop hcandidates => apply hloop.settled hs
  | connected hphase => apply settled_connected (hs.connecting hphase)
  | lost hphase => apply hs.connecting hphase
  | opened now hphase => apply settled_connected (hs.connecting hphase)
  | openFailed hphase => apply hs.connecting hphase
  | next now hphase => apply hs.connecting hphase
  | pause now hphase => apply hs.connecting hphase
  | giveUp now hphase => apply settled_unconnected (hs.connecting hphase)
  | makeRequest hphase => apply hs.operating hphase
  | invalidate now hphase hlock hactive hgeneration => apply hs.of_phase hphase
  | stale hphase hstale => apply settled_continued hq (hs.of_phase hphase)
  | closed hphase => apply settled_continued hq (hs.of_phase hphase)
  | abort hidle hdone => apply hs.failed hidle hdone

/-- The end of the operation leaves the request settled. -/
theorem settled_finish (hfailed : q.Failed) (endpoint : RpcEndpoint) (generation : ℕ)
    (carrier : Option RpcEndpoint) (result : Except ProviderException α) :
  (q.finish P endpoint generation carrier result).Settled P
  := by
  have hended (invoked : Invoked α) (q' : Request α)
      (hattempts : q'.attempts = q.attempts ++ [⟨endpoint, carrier, q.rejectedIndices, invoked⟩]) :
      q'.EndedWith invoked := ⟨q.attempts, _, hattempts, rfl, hfailed⟩
  rw [finish]
  cases invokeRpcOperation P.tables result endpoint with
  | returned value => apply hended _ _ rfl
  | raised exc => apply hended _ _ rfl
  | valueError => apply hended _ _ rfl
  | failed failure logMessage =>
      have hlast (q' : Request α) (hattempts : q'.attempts = q.attempts
          ++ [⟨endpoint, carrier, q.rejectedIndices, .failed failure logMessage⟩]) :
          q'.FailedAtLast failure.kind := by
        constructor
        · intro a ha
          rw [hattempts] at ha
          rcases List.mem_append.mp ha with ha | ha
          · apply hfailed a ha
          · rw [List.mem_singleton.mp ha]
            rfl
        · rw [hattempts, List.getLast?_concat]
          rfl
      dsimp only
      rw [recordFailure]
      split
      next hkind =>
          rw [← hkind]
          apply hlast _ rfl
      next hkind =>
          rw [← hkind]
          apply hlast _ rfl

/-- A move keeps the accounts, and leaves the request settled. -/
theorem Moves.accounts (h : Moves P r c q event c' q') (hc : c.Sound P) (hfits : q.Fits P r c)
    (hq : q.Accounts P) (hs : q.Settled P) :
  q'.Accounts P ∧ q'.Settled P
  := by
  cases h with
  | step h => use hq.goto _, h.settled hc hq hs
  | @finish endpoint generation carrier result hphase =>
      constructor
      · refine (records_finish P q endpoint generation carrier result).accounts hq
          (hs.operating hphase).1 (hfits.operating hphase) rfl ?_
        intro failure hfailure
        rw [Attempt.failure] at hfailure
        split at hfailure
        next hresult =>
            obtain rfl := Option.some.inj hfailure
            apply endpointIndex_of_failed hresult
        next => cases hfailure
      · apply settled_finish (hs.operating hphase).1

end Request

namespace Requests

variable {α : Type} {P : FallbackProvider}

/-- What holds of every request in every run. -/
structure Invariant (P : FallbackProvider) (r : ℕ) (c : FallbackConnection) (q : Request α) :
    Prop where
  fits : q.Fits P r c
  accounts : q.Accounts P
  settled : q.Settled P

theorem keeps_invariant (ok : FallbackConnection → Request α → RequestEvent α → Prop) :
  Interleaving.Keeps (fun r c (q : Request α) event => q.step P c r event)
    FallbackConnection.step ok (FallbackConnection.Sound P) (Invariant P)
  where
  own hc hq _ hstep := by
    have hmoves := Request.moves_of_step hstep
    obtain ⟨hc', hfits⟩ := hmoves.fits hc hq.fits
    obtain ⟨haccounts, hsettled⟩ := hmoves.accounts hc hq.fits hq.accounts hq.settled
    use hc', hfits, haccounts, hsettled
  other hne hc hq hp hstep := by
    use (keeps_fits ok).other hne hc hq.fits hp.fits hstep, hp.accounts, hp.settled
  environment hc hstep := by
    obtain ⟨hc', hfits⟩ := (keeps_fits ok).environment hc hstep
    use hc'
    intro r q hq
    use hfits r q hq.fits, hq.accounts, hq.settled

/-- A provider without requests. -/
theorem sound_initial (P : FallbackProvider) (α : Type) :
  (initial P α).shared.Sound P ∧ ∀ r, Invariant P r (initial P α).shared (.new α)
  := by
  refine ⟨⟨⟨rfl, P.wellFormed⟩, nofun⟩, ?_⟩
  intro r
  refine ⟨trivial, Request.accounts_new, rfl, rfl⟩

/-- In every run the endpoints are those of the provider, every request is at a place that fits,
and its accounts are those of the calls of its operation. -/
theorem invariant_of_reachesUnder {ok : FallbackConnection → Request α → RequestEvent α → Prop}
    {s : Requests α} (h : ReachesUnder P ok s) :
  s.shared.Sound P ∧ ∀ r, Invariant P r s.shared (s.processes r)
  := by
  obtain ⟨hsound, hinitial⟩ := sound_initial P α
  apply (keeps_invariant ok).invariant h ⟨hsound, hinitial⟩

end Requests

end Sentinel
