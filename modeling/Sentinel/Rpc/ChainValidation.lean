import Sentinel.Interleaving
import Sentinel.Literals
import Sentinel.Rpc.Failures

/-!
# The chain of the endpoints

At startup a provider opens each endpoint of its pool in turn and reads its chain id. The pool
accepts the first id it is told of and no other, also when several providers validate their
endpoints at the same time. An endpoint that fails is put in cooldown, and the provider goes on
with the others before it gives up.
-/

namespace Sentinel.ChainValidation

open Python (UrlTables)

/-! ### The pool -/

/-- A chain id as it is read: a Boolean is a number to Python. -/
inductive ChainId where
  | int (n : ℤ)
  | bool (b : Bool)
deriving DecidableEq

namespace ChainId

/-- The number that an id equals. -/
def value : ChainId → ℤ
  | int n => n
  | bool b => if b then 1 else 0

/-- `str(chain_id)` -/
def text : ChainId → String
  | int n => toString n
  | bool b => if b then "True" else "False"

end ChainId

/-- The pool that the providers share, with the chain id, and the calls that were made of it. -/
structure ChainPool where
  pool : RpcEndpointPool
  chainId : Option ChainId
  calls : List (ℚ × RpcEndpointPool.Call)

namespace ChainPool

/-- A pool before its first call. -/
def new (pool : RpcEndpointPool) (chainId : Option ChainId) : ChainPool where
  pool := pool
  chainId := chainId
  calls := []

/-- A call of the pool. -/
def perform (c : ChainPool) (now : ℚ) (call : RpcEndpointPool.Call) : ChainPool :=
  { c with pool := c.pool.perform now call, calls := c.calls ++ [(now, call)] }

end ChainPool

/-- How `accept_chain_id` ends. -/
inductive Accepted where
  | accepted (c : ChainPool)
  /-- a `RpcChainMismatch` with its text -/
  | mismatch (message : String)
  /-- the label of the endpoint cannot be read -/
  | valueError

/-- The text of a `RpcChainMismatch`. -/
def mismatchMessage (label : String) (chainId poolChainId : ChainId) : String :=
  label ++ " has chain ID " ++ chainId.text ++ ", but the RPC pool uses chain ID "
    ++ poolChainId.text

/-- `accept_chain_id` -/
def ChainPool.acceptChainId (t : UrlTables) (c : ChainPool) (endpoint : RpcEndpoint)
    (chainId : ChainId) : Accepted :=
  match c.chainId with
  | none => .accepted { c with chainId := some chainId }
  | some poolChainId =>
      if chainId.value = poolChainId.value then .accepted c
      else
        match endpoint.label t with
        | none => .valueError
        | some label => .mismatch (mismatchMessage label chainId poolChainId)

/-- The number in the answer to `eth_chainId`, or what is raised. -/
def readChainId : JsonValue → Except ProviderException ChainId
  | .int n => .ok (.int n)
  | .bool b => .ok (.bool b)
  | .str text =>
      match Python.intLiteral text with
      | some n => .ok (.int n)
      | none => .error (.other ⟨"ValueError", by decide⟩)
  | _ => .error (.transport ⟨"ProviderConnectionError", by decide⟩)

/-- The kind of a failure at startup, where a semantic response is a `Web3RPCError` as any
other. -/
def kindOf : ProviderException → RpcFailureKind
  | .semantic _ => .rpcRejected
  | exc => failureKind exc

/-! ### A call of `validate_endpoint_chain_ids` -/

/-- How a call ends. -/
inductive Outcome where
  | validated
  /-- a `RpcChainMismatch` -/
  | chainMismatch (message : String)
  /-- a `RpcEndpointsUnavailable` -/
  | endpointsUnavailable (message : String)
  /-- any other exception, or a cancellation -/
  | raised
deriving DecidableEq

/-- Where a call is. -/
inductive Phase where
  | idle
  /-- awaits `_open_endpoint`, with the endpoints after the endpoint -/
  | opening (endpoint : RpcEndpoint) (rest : List RpcEndpoint)
  /-- awaits `_read_chain_id` -/
  | reading (endpoint : RpcEndpoint) (rest : List RpcEndpoint)
  /-- awaits `_close_safely`, and raises after it if there is an exception -/
  | closing (endpoint : RpcEndpoint) (rest : List RpcEndpoint) (raising : Option Outcome)
  | done (outcome : Outcome)
deriving DecidableEq

/-- What an endpoint was found to be. -/
inductive Found where
  | validated (chainId : ChainId)
  | unavailable (label : String) (kind : RpcFailureKind)
deriving DecidableEq

/-- A call, with what the endpoints answered and what was found so far. -/
structure Validation where
  phase : Phase
  activeTransport : Option RpcEndpoint
  /-- the transport whose `disconnect` is awaited -/
  disconnecting : Option RpcEndpoint
  /-- the transports that were told to connect, until `disconnect` returns -/
  connected : List RpcEndpoint
  /-- the transports whose `disconnect` raised or was cancelled -/
  abandoned : List RpcEndpoint
  unavailableEndpoints : List String
  answers : List (RpcEndpoint × JsonValue)
  found : List (RpcEndpoint × Found)

/-- What happens to a call. The answers to the reads of the clock are part of it. -/
inductive ValidationEvent where
  | start
  | opened
  | openRaised (now : ℚ) (exc : ProviderException)
  | answered (now : ℚ) (value : JsonValue)
  | readRaised (now : ℚ) (exc : ProviderException)
  | closed
  | closeRaised (exc : ProviderException)
  | cancelled

namespace Validation

/-- A provider before its call. -/
def new : Validation where
  phase := .idle
  activeTransport := none
  disconnecting := none
  connected := []
  abandoned := []
  unavailableEndpoints := []
  answers := []
  found := []

/-- The call goes on with the next endpoint, or ends. -/
def next (q : Validation) : List RpcEndpoint → Validation
  | endpoint :: rest =>
      { q with
        phase := .opening endpoint rest
        activeTransport := some endpoint
        connected := endpoint :: q.connected }
  | [] =>
      if q.unavailableEndpoints = [] then { q with phase := .done .validated }
      else
        { q with
          phase := .done (.endpointsUnavailable
            ("RPC endpoints unavailable during startup validation: "
              ++ ", ".intercalate q.unavailableEndpoints)) }

/-- The `finally` clause: the transport is told to disconnect. -/
def close (q : Validation) (endpoint : RpcEndpoint) (rest : List RpcEndpoint)
    (raising : Option Outcome) : Validation :=
  { q with
    phase := .closing endpoint rest raising
    activeTransport := none
    disconnecting := q.activeTransport }

/-- The `except` clauses, for an exception that is no `RpcChainMismatch`. -/
def fail (t : UrlTables) (c : ChainPool) (q : Validation) (endpoint : RpcEndpoint)
    (rest : List RpcEndpoint) (now : ℚ) (exc : ProviderException) : ChainPool × Validation :=
  match exc, endpoint.label t with
  | .other _, _ | _, none => (c, q.close endpoint rest (some .raised))
  | exc, some label =>
      (c.perform now (.markFailed endpoint),
        { q with
          unavailableEndpoints := q.unavailableEndpoints ++ [label]
          found := q.found ++ [(endpoint, Found.unavailable label (kindOf exc))] }.close endpoint
          rest none)

/-- The chain id of an endpoint is read. -/
def accept (t : UrlTables) (c : ChainPool) (q : Validation) (endpoint : RpcEndpoint)
    (rest : List RpcEndpoint) (chainId : ChainId) : ChainPool × Validation :=
  match c.acceptChainId t endpoint chainId with
  | .mismatch message => (c, q.close endpoint rest (some (.chainMismatch message)))
  | .valueError => (c, q.close endpoint rest (some .raised))
  | .accepted c =>
      -- the `else` clause logs the label
      match endpoint.label t with
      | none => (c, q.close endpoint rest (some .raised))
      | some _ =>
          (c, { q with found := q.found ++ [(endpoint, Found.validated chainId)] }.close endpoint
            rest none)

/-- `disconnect` returns. -/
def disconnected (q : Validation) : Validation :=
  { q with
    disconnecting := none
    connected := q.disconnecting.elim q.connected q.connected.erase }

/-- `disconnect` raises or is cancelled. -/
def abandon (q : Validation) : Validation :=
  { q with disconnecting := none, abandoned := q.disconnecting.toList ++ q.abandoned }

/-- After the `finally` clause the call goes on, or raises. -/
def proceed (q : Validation) (rest : List RpcEndpoint) : Option Outcome → Validation
  | none => q.next rest
  | some outcome => { q with phase := .done outcome }

/-- What an event does to the pool and the call, `none` where the call is not at it. -/
def step (t : UrlTables) (c : ChainPool) (q : Validation) (event : ValidationEvent) :
    Option (ChainPool × Validation) :=
  match q.phase, event with
  | .idle, .start => some (c, q.next c.pool.endpoints)
  | .opening endpoint rest, .opened => some (c, { q with phase := .reading endpoint rest })
  | .opening endpoint rest, .openRaised now exc | .reading endpoint rest, .readRaised now exc =>
      some (q.fail t c endpoint rest now exc)
  | .reading endpoint rest, .answered now value =>
      let q := { q with answers := q.answers ++ [(endpoint, value)] }
      match readChainId value with
      | .ok chainId => some (q.accept t c endpoint rest chainId)
      | .error exc => some (q.fail t c endpoint rest now exc)
  | .opening endpoint rest, .cancelled | .reading endpoint rest, .cancelled =>
      some (c, q.close endpoint rest (some .raised))
  | .closing _ rest raising, .closed => some (c, q.disconnected.proceed rest raising)
  | .closing _ rest raising, .closeRaised exc =>
      match exc with
      | .other _ => some (c, { q.abandon with phase := .done .raised })
      | _ => some (c, q.abandon.proceed rest raising)
  | .closing _ _ _, .cancelled => some (c, { q.abandon with phase := .done .raised })
  | _, _ => none

end Validation

/-! ### Any number of providers -/

/-- A call of the pool by another role. -/
structure PoolCall where
  now : ℚ
  call : RpcEndpointPool.Call

/-- The providers that share a pool. -/
abbrev Providers (ι : Type*) :=
  Interleaving.State ι ChainPool Validation

namespace Providers

variable {ι : Type*} [DecidableEq ι]

/-- The providers before their calls. -/
def start (ι : Type*) (pool : RpcEndpointPool) (chainId : Option ChainId) : Providers ι where
  shared := .new pool chainId
  processes _ := .new

def step (t : UrlTables) :
    Providers ι → Interleaving.Action ι ValidationEvent PoolCall → Option (Providers ι) :=
  Interleaving.step (fun _ c q event => q.step t c event)
    fun c event => some (c.perform event.now event.call)

/-- The runs of the providers. -/
abbrev Run (t : UrlTables) : Providers ι → Providers ι → Prop :=
  Transition.Reaches (step t) (Interleaving.Guard fun _ _ _ => True)

end Providers

/-! ### The pool grows -/

/-- The chain id of the pool equals an id. -/
def ChainPool.Agrees (c : ChainPool) (chainId : ChainId) : Prop :=
  ∃ poolChainId, c.chainId = some poolChainId ∧ poolChainId.value = chainId.value

/-- What any step does to the pool: its chain id stays once it is set, and calls are made. -/
structure Extends (c c' : ChainPool) : Prop where
  chainId : ∀ n, c.chainId = some n → c'.chainId = some n
  calls : ∃ more, c'.calls = c.calls ++ more ∧ c'.pool = c.pool.run more

theorem Extends.refl (c : ChainPool) :
  Extends c c
  where
  chainId := fun _ => id
  calls := by
    use []
    simp [RpcEndpointPool.run]

theorem Extends.trans {c c' c'' : ChainPool} (h : Extends c c') (h' : Extends c' c'') :
  Extends c c''
  where
  chainId := by
    intro n hn
    apply h'.chainId n (h.chainId n hn)
  calls := by
    obtain ⟨more, hcalls, hpool⟩ := h.calls
    obtain ⟨more', hcalls', hpool'⟩ := h'.calls
    use more ++ more'
    rw [hcalls', hcalls, hpool', hpool, RpcEndpointPool.run_append, List.append_assoc]
    use rfl

theorem Extends.agrees {c c' : ChainPool} (h : Extends c c') {chainId : ChainId}
    (hagrees : c.Agrees chainId) :
  c'.Agrees chainId
  := by
  obtain ⟨poolChainId, hpool, hvalue⟩ := hagrees
  use poolChainId, h.chainId poolChainId hpool

theorem Extends.mem_calls {c c' : ChainPool} (h : Extends c c')
    {call : ℚ × RpcEndpointPool.Call} (hmem : call ∈ c.calls) :
  call ∈ c'.calls
  := by
  obtain ⟨more, hcalls, -⟩ := h.calls
  rw [hcalls]
  apply List.mem_append_left _ hmem

theorem extends_perform (c : ChainPool) (now : ℚ) (call : RpcEndpointPool.Call) :
  Extends c (c.perform now call)
  where
  chainId := fun _ => id
  calls := by
    use [(now, call)], rfl
    rfl

/-- An id that is accepted is the one of the pool from then on. -/
theorem extends_of_accepted {t : UrlTables} {c c' : ChainPool} {endpoint : RpcEndpoint}
    {chainId : ChainId} (h : c.acceptChainId t endpoint chainId = .accepted c') :
  Extends c c' ∧ c'.Agrees chainId
  := by
  rw [ChainPool.acceptChainId] at h
  split at h
  next hnone =>
      cases h
      constructor
      · constructor
        · intro n hn
          rw [hnone] at hn
          cases hn
        · use []
          simp [RpcEndpointPool.run]
      · use chainId
  next poolChainId hsome =>
      split at h
      next heq =>
          cases h
          use Extends.refl c, poolChainId, hsome, heq.symm
      next =>
          split at h
          next => cases h
          next => cases h

/-- An endpoint answered an id. -/
def Answered (answers : List (RpcEndpoint × JsonValue)) (endpoint : RpcEndpoint)
    (chainId : ChainId) : Prop :=
  ∃ value, (endpoint, value) ∈ answers ∧ readChainId value = .ok chainId

/-- An endpoint answered another id than that of the pool, and the text tells of the two. -/
def Refused (t : UrlTables) (c : ChainPool) (answers : List (RpcEndpoint × JsonValue))
    (endpoint : RpcEndpoint) (message : String) : Prop :=
  ∃ value chainId poolChainId label, answers.getLast? = some (endpoint, value)
    ∧ readChainId value = .ok chainId ∧ c.chainId = some poolChainId
    ∧ chainId.value ≠ poolChainId.value ∧ endpoint.label t = some label
    ∧ message = mismatchMessage label chainId poolChainId

/-- An id that is not that of the pool is refused. -/
theorem refused_of_mismatch {t : UrlTables} {c : ChainPool}
    {answers : List (RpcEndpoint × JsonValue)} {endpoint : RpcEndpoint} {value : JsonValue}
    {chainId : ChainId} {message : String} (hlast : answers.getLast? = some (endpoint, value))
    (hread : readChainId value = .ok chainId)
    (h : c.acceptChainId t endpoint chainId = .mismatch message) :
  Refused t c answers endpoint message
  := by
  rw [ChainPool.acceptChainId] at h
  split at h
  next => cases h
  next poolChainId hsome =>
      split at h
      next => cases h
      next hne =>
          split at h
          next => cases h
          next label hlabel =>
              cases h
              use value, chainId, poolChainId, label, hlast, hread, hsome, hne, hlabel

theorem Refused.of_extends {t : UrlTables} {c c' : ChainPool}
    {answers : List (RpcEndpoint × JsonValue)} {endpoint : RpcEndpoint} {message : String}
    (hrefused : Refused t c answers endpoint message) (h : Extends c c') :
  Refused t c' answers endpoint message
  := by
  obtain ⟨value, chainId, poolChainId, label, hlast, hread, hpool, hrest⟩ := hrefused
  use value, chainId, poolChainId, label, hlast, hread, h.chainId poolChainId hpool

/-! ### What holds of a call -/

/-- The label of an endpoint that was found unavailable. -/
def Found.label : Found → Option String
  | .validated _ => none
  | .unavailable label _ => some label

/-- What was found of an endpoint is so: it answered the chain of the pool, or it was put in
cooldown. -/
def Found.Holds (t : UrlTables) (c : ChainPool) (answers : List (RpcEndpoint × JsonValue))
    (endpoint : RpcEndpoint) : Found → Prop
  | .validated chainId => Answered answers endpoint chainId ∧ c.Agrees chainId
  | .unavailable label _ => endpoint.label t = some label
      ∧ ∃ now, (now, .markFailed endpoint) ∈ c.calls

/-- What was found stays so. -/
theorem Found.Holds.mono {t : UrlTables} {c c' : ChainPool}
    {answers answers' : List (RpcEndpoint × JsonValue)} {endpoint : RpcEndpoint} {found : Found}
    (hholds : found.Holds t c answers endpoint) (h : Extends c c') (hsub : answers ⊆ answers') :
  found.Holds t c' answers' endpoint
  := by
  cases found with
  | validated chainId =>
      obtain ⟨⟨value, hmem, hread⟩, hagrees⟩ := hholds
      exact ⟨⟨value, hsub hmem, hread⟩, h.agrees hagrees⟩
  | unavailable label kind =>
      obtain ⟨hlabel, now, hcall⟩ := hholds
      exact ⟨hlabel, now, h.mem_calls hcall⟩

/-- What a call raises about an endpoint. -/
def Raises (t : UrlTables) (c : ChainPool) (answers : List (RpcEndpoint × JsonValue))
    (endpoint : RpcEndpoint) : Outcome → Prop
  | .chainMismatch message => Refused t c answers endpoint message
  | .raised => True
  | .validated | .endpointsUnavailable _ => False

/-- The endpoints of which nothing is found at a phase. -/
def Validation.Leaves (t : UrlTables) (endpoints : List RpcEndpoint) (c : ChainPool)
    (q : Validation) (left : List RpcEndpoint) : Prop :=
  match q.phase with
  | .idle => left = endpoints
  | .opening endpoint rest | .reading endpoint rest => left = endpoint :: rest
  | .closing _ rest none => left = rest
  | .closing endpoint rest (some outcome) => left = endpoint :: rest
      ∧ Raises t c q.answers endpoint outcome
  | .done .validated => left = [] ∧ q.unavailableEndpoints = []
  | .done (.endpointsUnavailable message) => left = [] ∧ q.unavailableEndpoints ≠ []
      ∧ message = "RPC endpoints unavailable during startup validation: "
        ++ ", ".intercalate q.unavailableEndpoints
  | .done (.chainMismatch message) => ∃ endpoint rest, left = endpoint :: rest
      ∧ Refused t c q.answers endpoint message
  | .done .raised => True

/-- The transport that is used at a phase. -/
def Phase.active : Phase → Option RpcEndpoint
  | .opening endpoint _ | .reading endpoint _ => some endpoint
  | .idle | .closing _ _ _ | .done _ => none

/-- The transport that is disconnected at a phase. -/
def Phase.disconnecting : Phase → Option RpcEndpoint
  | .closing endpoint _ _ => some endpoint
  | .idle | .opening _ _ | .reading _ _ | .done _ => none

/-- Connected are the transport that is used, the one that is disconnected, and those that
could not be disconnected. -/
structure Validation.Transports (q : Validation) : Prop where
  active : q.activeTransport = q.phase.active
  disconnecting : q.disconnecting = q.phase.disconnecting
  connected : q.connected
    = q.activeTransport.toList ++ q.disconnecting.toList ++ q.abandoned

/-- What the outcome of a call tells of the endpoints. -/
def Validation.Concludes (t : UrlTables) (endpoints : List RpcEndpoint) (c : ChainPool)
    (q : Validation) : Outcome → Prop
  /- every endpoint is of the chain of the pool -/
  | .validated => q.found.map Prod.fst = endpoints
      ∧ ∀ found ∈ q.found, ∃ chainId, found.2 = .validated chainId
        ∧ Answered q.answers found.1 chainId ∧ c.Agrees chainId
  /- the text names the endpoints that were not available, which were put in cooldown, and the
  others are of the chain of the pool -/
  | .endpointsUnavailable message => q.found.map Prod.fst = endpoints
      ∧ (∀ found ∈ q.found, found.2.Holds t c q.answers found.1)
      ∧ (q.found.filterMap fun found => found.2.label) ≠ []
      ∧ message = "RPC endpoints unavailable during startup validation: "
        ++ ", ".intercalate (q.found.filterMap fun found => found.2.label)
  /- the first endpoint that answered the id of another chain is named -/
  | .chainMismatch message => ∃ endpoint rest,
      endpoints = q.found.map Prod.fst ++ endpoint :: rest
        ∧ (∀ found ∈ q.found, found.2.Holds t c q.answers found.1)
        ∧ Refused t c q.answers endpoint message
  | .raised => True

/-- What a call found is true of the pool, and tells how far it got. -/
structure Sound (t : UrlTables) (endpoints : List RpcEndpoint) (c : ChainPool) (q : Validation) :
    Prop where
  /-- what was found of an endpoint is so -/
  holds : ∀ found ∈ q.found, found.2.Holds t c q.answers found.1
  /-- the labels are those of the endpoints that were not available -/
  labels : q.unavailableEndpoints = q.found.filterMap fun found => found.2.label
  /-- the endpoints are gone through in order, and the outcome is that of what was found -/
  left : ∃ left, q.found.map Prod.fst ++ left = endpoints ∧ q.Leaves t endpoints c left
  /-- no transport is left open that could be disconnected -/
  transports : q.Transports

section Steps

variable {t : UrlTables} {endpoints : List RpcEndpoint} {c c' : ChainPool} {q : Validation}

/-- What holds of a call survives what the others do to the pool. -/
theorem Sound.of_extends (hs : Sound t endpoints c q) (h : Extends c c') :
  Sound t endpoints c' q
  where
  holds := by
    intro found hmem
    apply (hs.holds found hmem).mono h (List.Subset.refl _)
  labels := hs.labels
  left := by
    obtain ⟨left, hleft, hleaves⟩ := hs.left
    use left, hleft
    unfold Validation.Leaves at hleaves ⊢
    cases hphase : q.phase with
    | idle | opening | reading =>
        rw [hphase] at hleaves
        apply hleaves
    | closing endpoint rest raising =>
        rw [hphase] at hleaves
        cases raising with
        | none => apply hleaves
        | some outcome =>
            use hleaves.1
            cases outcome with
            | chainMismatch message => apply Refused.of_extends hleaves.2 h
            | validated | endpointsUnavailable | raised => apply hleaves.2
    | done outcome =>
        rw [hphase] at hleaves
        cases outcome with
        | chainMismatch message =>
            obtain ⟨endpoint, rest, hcons, hrefused⟩ := hleaves
            exact ⟨endpoint, rest, hcons, hrefused.of_extends h⟩
        | validated | endpointsUnavailable | raised => apply hleaves
  transports := hs.transports

/-- A provider before its call. -/
theorem sound_new (t : UrlTables) (endpoints : List RpcEndpoint) (c : ChainPool) :
  Sound t endpoints c .new
  where
  holds := by simp [Validation.new]
  labels := rfl
  left := by
    use endpoints, rfl
    rfl
  transports := ⟨rfl, rfl, rfl⟩

/-- Going on with what is left. -/
theorem sound_next {rest : List RpcEndpoint}
    (hholds : ∀ found ∈ q.found, found.2.Holds t c q.answers found.1)
    (hlabels : q.unavailableEndpoints = q.found.filterMap fun found => found.2.label)
    (hleft : q.found.map Prod.fst ++ rest = endpoints) (hactive : q.activeTransport = none)
    (hdisconnecting : q.disconnecting = none) (hconnected : q.connected = q.abandoned) :
  Sound t endpoints c (q.next rest)
  := by
  have htransports : ∀ outcome,
      Validation.Transports { q with phase := Phase.done outcome } := by
    intro outcome
    constructor
    · apply hactive
    · apply hdisconnecting
    · rw [hconnected, hactive, hdisconnecting]
      rfl
  cases rest with
  | nil =>
      rw [Validation.next]
      split_ifs with hempty
      · constructor
        · apply hholds
        · apply hlabels
        · use [], hleft, rfl, hempty
        · apply htransports
      · constructor
        · apply hholds
        · apply hlabels
        · use [], hleft, rfl, hempty
        · apply htransports
  | cons endpoint rest =>
      constructor
      · apply hholds
      · apply hlabels
      · use endpoint :: rest, hleft
        rfl
      · constructor
        · rfl
        · apply hdisconnecting
        · rw [Validation.next, hconnected, hdisconnecting]
          rfl

/-- Where a call is that is in an endpoint. -/
theorem Sound.left_of_phase (hs : Sound t endpoints c q) {endpoint : RpcEndpoint}
    {rest : List RpcEndpoint}
    (hphase : q.phase = .opening endpoint rest ∨ q.phase = .reading endpoint rest) :
  q.found.map Prod.fst ++ endpoint :: rest = endpoints
  := by
  obtain ⟨left, hleft, hleaves⟩ := hs.left
  rcases hphase with hphase | hphase
  all_goals
    rw [Validation.Leaves, hphase] at hleaves
    rw [← hleaves, hleft]

/-- A transport that is used is told to disconnect. -/
theorem Validation.Transports.close (h : q.Transports) {endpoint : RpcEndpoint}
    {rest : List RpcEndpoint}
    (hphase : q.phase = .opening endpoint rest ∨ q.phase = .reading endpoint rest)
    (raising : Option Outcome) :
  (q.close endpoint rest raising).Transports
  := by
  have hdisconnecting := h.disconnecting
  have hactive := h.active
  have hconnected := h.connected
  have hphase' : q.phase.active = some endpoint ∧ q.phase.disconnecting = none := by
    rcases hphase with hphase | hphase
    all_goals
      rw [hphase]
      exact ⟨rfl, rfl⟩
  rw [hphase'.1] at hactive
  rw [hphase'.2] at hdisconnecting
  constructor
  · rfl
  · apply hactive
  · rw [Validation.close, hconnected, hdisconnecting, hactive]
    rfl

/-- Closing an endpoint of which nothing is found, to raise. -/
theorem Sound.close_raising (hs : Sound t endpoints c q) {endpoint : RpcEndpoint}
    {rest : List RpcEndpoint}
    (hphase : q.phase = .opening endpoint rest ∨ q.phase = .reading endpoint rest)
    {outcome : Outcome} (houtcome : Raises t c q.answers endpoint outcome) :
  Sound t endpoints c (q.close endpoint rest (some outcome))
  where
  holds := hs.holds
  labels := hs.labels
  left := by
    exact ⟨endpoint :: rest, hs.left_of_phase hphase, rfl, houtcome⟩
  transports := hs.transports.close hphase _

/-- An endpoint of which something is found. -/
theorem Sound.close_found (hs : Sound t endpoints c q) {endpoint : RpcEndpoint}
    {rest : List RpcEndpoint}
    (hphase : q.phase = .opening endpoint rest ∨ q.phase = .reading endpoint rest)
    {found : Found} (hholds : found.Holds t c q.answers endpoint) {labels : List String}
    (hlabels : labels = q.unavailableEndpoints ++ found.label.toList) :
  Sound t endpoints c
    ({ q with unavailableEndpoints := labels, found := q.found ++ [(endpoint, found)] }.close
      endpoint rest none)
  where
  holds := by
    intro found' hmem
    rcases List.mem_append.mp hmem with hmem | hmem
    · apply hs.holds found' hmem
    · cases List.mem_singleton.mp hmem
      apply hholds
  labels := by
    change labels = _
    rw [hlabels, hs.labels, Validation.close, List.filterMap_append]
    cases hlabel : found.label with
    | none => simp [hlabel]
    | some label => simp [hlabel]
  left := by
    use rest
    constructor
    · rw [← hs.left_of_phase hphase]
      simp [Validation.close]
    · rfl
  transports := by
    have htransports := hs.transports.close hphase none
    constructor
    · apply htransports.active
    · apply htransports.disconnecting
    · apply htransports.connected

/-- An endpoint that fails. -/
theorem Sound.fail (hs : Sound t endpoints c q) {endpoint : RpcEndpoint}
    {rest : List RpcEndpoint}
    (hphase : q.phase = .opening endpoint rest ∨ q.phase = .reading endpoint rest)
    {now : ℚ} {exc : ProviderException} {q' : Validation}
    (h : q.fail t c endpoint rest now exc = (c', q')) :
  Extends c c' ∧ Sound t endpoints c' q'
  := by
  unfold Validation.fail at h
  split at h
  next =>
      cases h
      exact ⟨.refl c, hs.close_raising hphase trivial⟩
  next =>
      cases h
      exact ⟨.refl c, hs.close_raising hphase trivial⟩
  next label _ hlabel =>
      cases h
      have hextends := extends_perform c now (.markFailed endpoint)
      have hholds : ∀ kind, (Found.unavailable label kind).Holds t
          (c.perform now (.markFailed endpoint)) q.answers endpoint := by
        intro kind
        use hlabel, now
        apply List.mem_append_right _ List.mem_cons_self
      exact ⟨hextends, (hs.of_extends hextends).close_found hphase (hholds _) rfl⟩

/-- An endpoint whose chain id is read. -/
theorem Sound.accept (hs : Sound t endpoints c q) {endpoint : RpcEndpoint}
    {rest : List RpcEndpoint} (hphase : q.phase = .reading endpoint rest) {value : JsonValue}
    (hlast : q.answers.getLast? = some (endpoint, value)) {chainId : ChainId}
    (hread : readChainId value = .ok chainId) {q' : Validation}
    (h : q.accept t c endpoint rest chainId = (c', q')) :
  Extends c c' ∧ Sound t endpoints c' q'
  := by
  rw [Validation.accept] at h
  split at h
  next message hmismatch =>
      cases h
      have hraises : Raises t c q.answers endpoint (.chainMismatch message) :=
        refused_of_mismatch hlast hread hmismatch
      exact ⟨.refl c, hs.close_raising (Or.inr hphase) hraises⟩
  next =>
      cases h
      exact ⟨.refl c, hs.close_raising (Or.inr hphase) trivial⟩
  next accepted haccepted =>
      obtain ⟨hextends, hagrees⟩ := extends_of_accepted haccepted
      have hs' := hs.of_extends hextends
      split at h
      next =>
          cases h
          exact ⟨hextends, hs'.close_raising (Or.inr hphase) trivial⟩
      next =>
          cases h
          have hanswered : Answered q.answers endpoint chainId := by
            use value, List.mem_of_getLast? hlast
          have hholds : (Found.validated chainId).Holds t c' q.answers endpoint :=
            ⟨hanswered, hagrees⟩
          use hextends
          apply hs'.close_found (Or.inr hphase) hholds
          rw [Found.label, Option.toList_none, List.append_nil]

/-- An endpoint answers. -/
theorem Sound.answer (hs : Sound t endpoints c q) {endpoint : RpcEndpoint}
    {rest : List RpcEndpoint} (hphase : q.phase = .reading endpoint rest) (value : JsonValue) :
  Sound t endpoints c { q with answers := q.answers ++ [(endpoint, value)] }
  where
  holds := by
    intro found hmem
    apply (hs.holds found hmem).mono (Extends.refl c) (List.subset_append_left _ _)
  labels := hs.labels
  left := by
    use endpoint :: rest, hs.left_of_phase (Or.inr hphase)
    rw [Validation.Leaves, hphase]
  transports := by
    constructor
    · apply hs.transports.active
    · apply hs.transports.disconnecting
    · apply hs.transports.connected

/-- A call whose transport is disconnected, or abandoned, goes on or raises. -/
theorem Sound.proceed (hs : Sound t endpoints c q) {endpoint : RpcEndpoint}
    {rest : List RpcEndpoint} {raising : Option Outcome}
    (hphase : q.phase = .closing endpoint rest raising) {connected abandoned : List RpcEndpoint}
    (hconnected : connected = abandoned) :
  Sound t endpoints c
    ({ q with disconnecting := none, connected := connected, abandoned := abandoned }.proceed
      rest raising)
  := by
  obtain ⟨left, hleft, hleaves⟩ := hs.left
  have hactive := hs.transports.active
  rw [hphase] at hactive
  rw [Validation.Leaves, hphase] at hleaves
  cases raising with
  | none =>
      subst hleaves
      exact sound_next (q := { q with
          disconnecting := none, connected := connected, abandoned := abandoned })
        hs.holds hs.labels hleft hactive rfl hconnected
  | some outcome =>
      obtain ⟨rfl, hraises⟩ := hleaves
      constructor
      · apply hs.holds
      · apply hs.labels
      · use endpoint :: rest, hleft
        cases outcome with
        | chainMismatch message => exact ⟨endpoint, rest, rfl, hraises⟩
        | raised => trivial
        | validated | endpointsUnavailable => cases hraises
      · constructor
        · apply hactive
        · rfl
        · rw [Validation.proceed, hconnected, hactive]
          rfl

/-- What is connected once a transport is disconnected. -/
theorem Validation.Transports.closing (h : q.Transports) {endpoint : RpcEndpoint}
    {rest : List RpcEndpoint} {raising : Option Outcome}
    (hphase : q.phase = .closing endpoint rest raising) :
  q.disconnecting = some endpoint ∧ q.connected = endpoint :: q.abandoned
  := by
  have hactive := h.active
  have hdisconnecting := h.disconnecting
  rw [hphase] at hactive hdisconnecting
  use hdisconnecting
  rw [h.connected, hactive, hdisconnecting]
  rfl

/-- `disconnect` returns. -/
theorem Sound.disconnected (hs : Sound t endpoints c q) {endpoint : RpcEndpoint}
    {rest : List RpcEndpoint} {raising : Option Outcome}
    (hphase : q.phase = .closing endpoint rest raising) :
  Sound t endpoints c (q.disconnected.proceed rest raising)
  := by
  obtain ⟨hdisconnecting, hconnected⟩ := hs.transports.closing hphase
  apply hs.proceed hphase
  rw [hdisconnecting, hconnected]
  apply List.erase_cons_head

/-- `disconnect` raises an exception that is suppressed. -/
theorem Sound.abandon (hs : Sound t endpoints c q) {endpoint : RpcEndpoint}
    {rest : List RpcEndpoint} {raising : Option Outcome}
    (hphase : q.phase = .closing endpoint rest raising) :
  Sound t endpoints c (q.abandon.proceed rest raising)
  := by
  obtain ⟨hdisconnecting, hconnected⟩ := hs.transports.closing hphase
  apply hs.proceed hphase
  rw [hdisconnecting, hconnected]
  rfl

/-- A call that is cancelled while it closes, or whose endpoint cannot be closed. -/
theorem Sound.done_raised (hs : Sound t endpoints c q) {endpoint : RpcEndpoint}
    {rest : List RpcEndpoint} {raising : Option Outcome}
    (hphase : q.phase = .closing endpoint rest raising) :
  Sound t endpoints c { q.abandon with phase := .done .raised }
  where
  holds := hs.holds
  labels := hs.labels
  left := by
    obtain ⟨left, hleft, -⟩ := hs.left
    use left, hleft
    trivial
  transports := by
    obtain ⟨hdisconnecting, hconnected⟩ := hs.transports.closing hphase
    have hactive := hs.transports.active
    rw [hphase] at hactive
    constructor
    · apply hactive
    · rfl
    · rw [Validation.abandon, hconnected, hdisconnecting, hactive]
      rfl

/-- What a step of a call does. -/
theorem Sound.step (hs : Sound t endpoints c q) (hpool : c.pool.endpoints = endpoints)
    {event : ValidationEvent} {q' : Validation} (h : q.step t c event = some (c', q')) :
  Extends c c' ∧ Sound t endpoints c' q'
  := by
  unfold Validation.step at h
  split at h
  next hphase =>
      cases h
      obtain ⟨left, hleft, hleaves⟩ := hs.left
      have hactive := hs.transports.active
      have hdisconnecting := hs.transports.disconnecting
      have hconnected := hs.transports.connected
      rw [hactive, hdisconnecting] at hconnected
      rw [hphase] at hactive hdisconnecting hconnected
      rw [Validation.Leaves, hphase] at hleaves
      subst hleaves
      rw [hpool]
      exact ⟨.refl c, sound_next hs.holds hs.labels hleft hactive hdisconnecting hconnected⟩
  next endpoint rest hphase =>
      cases h
      use Extends.refl c
      constructor
      · apply hs.holds
      · apply hs.labels
      · use endpoint :: rest, hs.left_of_phase (Or.inl hphase)
        rfl
      · have hactive := hs.transports.active
        have hdisconnecting := hs.transports.disconnecting
        rw [hphase] at hactive hdisconnecting
        exact ⟨hactive, hdisconnecting, hs.transports.connected⟩
  next endpoint rest now exc hphase =>
      apply hs.fail (Or.inl hphase) (Option.some.inj h)
  next endpoint rest now exc hphase =>
      apply hs.fail (Or.inr hphase) (Option.some.inj h)
  next endpoint rest now value hphase =>
      have hs' := hs.answer hphase value
      split at h
      next chainId hread =>
          apply hs'.accept hphase List.getLast?_concat hread (Option.some.inj h)
      next exc _ =>
          apply hs'.fail (Or.inr hphase) (Option.some.inj h)
  next endpoint rest hphase =>
      cases h
      exact ⟨.refl c, hs.close_raising (Or.inl hphase) trivial⟩
  next endpoint rest hphase =>
      cases h
      exact ⟨.refl c, hs.close_raising (Or.inr hphase) trivial⟩
  next endpoint rest raising hphase =>
      cases h
      exact ⟨.refl c, hs.disconnected hphase⟩
  next endpoint rest raising exc hphase =>
      split at h
      next =>
          cases h
          exact ⟨.refl c, hs.done_raised hphase⟩
      next =>
          cases h
          exact ⟨.refl c, hs.abandon hphase⟩
  next endpoint rest raising hphase =>
      cases h
      exact ⟨.refl c, hs.done_raised hphase⟩
  next => cases h

/-- A call that ended has told of every endpoint, or of the one that it raised about. -/
theorem Sound.concludes (hs : Sound t endpoints c q) {outcome : Outcome}
    (hphase : q.phase = .done outcome) :
  q.Concludes t endpoints c outcome
  := by
  obtain ⟨left, hleft, hleaves⟩ := hs.left
  rw [Validation.Leaves, hphase] at hleaves
  cases outcome with
  | validated =>
      obtain ⟨rfl, hempty⟩ := hleaves
      rw [List.append_nil] at hleft
      use hleft
      rintro ⟨endpoint, found⟩ hmem
      cases found with
      | validated chainId => exact ⟨chainId, rfl, hs.holds _ hmem⟩
      | unavailable label kind =>
          have hlabel : label ∈ q.unavailableEndpoints := by
            rw [hs.labels, List.mem_filterMap]
            use (endpoint, .unavailable label kind), hmem
            rfl
          rw [hempty] at hlabel
          cases hlabel
  | endpointsUnavailable message =>
      obtain ⟨rfl, hne, hmessage⟩ := hleaves
      rw [List.append_nil] at hleft
      rw [hs.labels] at hne hmessage
      use hleft, hs.holds, hne
  | chainMismatch message =>
      obtain ⟨endpoint, rest, rfl, hrefused⟩ := hleaves
      exact ⟨endpoint, rest, hleft.symm, hs.holds, hrefused⟩
  | raised => trivial

end Steps

/-! ### Runs -/

section Runs

variable {ι : Type*} {t : UrlTables}

theorem Extends.endpoints_eq {c c' : ChainPool} (h : Extends c c') :
  c'.pool.endpoints = c.pool.endpoints
  := by
  obtain ⟨more, -, hpool⟩ := h.calls
  rw [hpool, (c.pool.frame_run more).1]

/-- What the providers and the other roles keep. -/
theorem keeps (t : UrlTables) (c₀ : ChainPool) :
  Interleaving.Keeps (ι := ι) (fun _ c q event => q.step t c event)
    (fun c (event : PoolCall) => some (c.perform event.now event.call)) (fun _ _ _ => True)
    (Extends c₀) (fun _ c q => Sound t c₀.pool.endpoints c q)
  where
  own := by
    intro i c q event c' q' hc hs _ hact
    obtain ⟨hextends, hs'⟩ := hs.step hc.endpoints_eq hact
    use hc.trans hextends
  other := by
    intro i j c q p event c' q' _ hc hs hp hact
    apply hp.of_extends (hs.step hc.endpoints_eq hact).1
  environment := by
    intro c event c' hc henv
    cases henv
    have hextends := extends_perform c event.now event.call
    use hc.trans hextends
    intro i q hs
    apply hs.of_extends hextends

variable [DecidableEq ι]

/-- At any time what every call found is true of the pool, which only grows afterwards. -/
theorem Providers.sound_of_run {pool : RpcEndpointPool} {chainId : Option ChainId}
    {s s' : Providers ι} (hrun : Run t (start ι pool chainId) s) (hlater : Run t s s') :
  Extends s.shared s'.shared ∧ ∀ i, Sound t pool.endpoints s'.shared (s.processes i)
    ∧ Sound t pool.endpoints s'.shared (s'.processes i)
  := by
  have hstart : Extends (ChainPool.new pool chainId) s.shared
      ∧ ∀ i, Sound t pool.endpoints s.shared (s.processes i) := by
    apply (keeps t (ChainPool.new pool chainId)).invariant hrun
    use Extends.refl _
    intro i
    apply sound_new
  obtain ⟨hextends, hs⟩ := hstart
  have hendpoints : s.shared.pool.endpoints = pool.endpoints := hextends.endpoints_eq
  obtain ⟨hlater, hs'⟩ := (keeps t s.shared).invariant hlater
    ⟨Extends.refl _, by
      intro i
      rw [hendpoints]
      apply hs i⟩
  use hlater
  intro i
  use (hs i).of_extends hlater
  rw [← hendpoints]
  apply hs' i

/-- However the validations of a pool and the other calls of it interleave, the outcome of each
validation tells of the endpoints, then and later: where it succeeds every endpoint answered the
chain of the pool, where endpoints are not available the text names just these, and a mismatch
names the first endpoint that answered another chain. No transport is left connected that could
be disconnected, and the pool keeps its chain. -/
theorem Providers.concludes_of_run {pool : RpcEndpointPool} {chainId : Option ChainId}
    {s s' : Providers ι} (hrun : Run t (start ι pool chainId) s) (hlater : Run t s s') :
  (∀ n, s.shared.chainId = some n → s'.shared.chainId = some n)
    ∧ (∀ i, (s'.processes i).Transports)
    ∧ ∀ i outcome, (s.processes i).phase = .done outcome →
      (s.processes i).Concludes t pool.endpoints s'.shared outcome
  := by
  obtain ⟨hextends, hs⟩ := sound_of_run hrun hlater
  use hextends.chainId
  constructor
  · intro i
    apply (hs i).2.transports
  · intro i outcome hphase
    apply (hs i).1.concludes hphase

theorem Providers.concludes_twoProviders :
  let first : RpcEndpoint := ⟨0, "wss://a"⟩
  let second : RpcEndpoint := ⟨1, "wss://b"⟩
  let message := "rpc-2 (b) has chain ID 5, but the RPC pool uses chain ID 1"
  ∃ pool s s', Run .ascii (start Bool pool none) s ∧ Run .ascii s s'
    ∧ pool.endpoints = [first, second]
    ∧ (s'.processes true).Concludes .ascii [first, second] s'.shared (.chainMismatch message)
  := by
  let pool : RpcEndpointPool :=
    { endpoints := [⟨0, "wss://a"⟩, ⟨1, "wss://b"⟩]
      cooldownSeconds := 30
      states := [{}, {}]
      preferredIndex := 0 }
  obtain ⟨s, hrun, hphase⟩ := Transition.exists_reaches_of_execute (Providers.step .ascii)
    (Interleaving.Guard fun _ _ _ => True) (start Bool pool none)
    [.process true .start, .process false .start, .process true .opened,
      .process true (.answered 1 (.str "0x1")), .environment ⟨2, .candidates ∅⟩,
      .process false (.openRaised 3 (.transport ⟨"TimeoutError", by decide⟩)),
      .process true .closed, .process true .opened, .process true (.answered 4 (.int 5)),
      .process true .closed]
    (fun s => (s.processes true).phase
      = .done (.chainMismatch "rpc-2 (b) has chain ID 5, but the RPC pool uses chain ID 1"))
    (by decide)
  use pool, s, s, hrun, .refl s, rfl
  apply (concludes_of_run hrun (.refl s)).2.2 true _ hphase

end Runs

end Sentinel.ChainValidation
