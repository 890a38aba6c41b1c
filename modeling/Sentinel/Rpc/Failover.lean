import Sentinel.Rpc.Failures
import Sentinel.Interleaving
import Mathlib.Data.Finset.Card

/-!
# Failover of requests

Concurrent calls of `execute_request` on one provider, from await to await. The operation of a
request is not looked into: while it runs it may call `make_request`, and requests nested in it
are requests of their own. The locks of the pool are never held across an await, so a call of
the pool is part of the step that makes it. Closing a transport takes effect when it begins;
until it has ended, the request holds the lock under which it closes.
-/

namespace Sentinel

/-- A provider: its pool, and how often a connect goes through the endpoints, `none` for as long
as it takes. -/
structure FallbackProvider where
  tables : MessageTables
  pool : RpcEndpointPool
  wellFormed : pool.WellFormed
  nonempty : pool.endpoints ≠ []
  maxConnectionRounds : Option ℕ
  maxConnectionRounds_ne_zero : maxConnectionRounds ≠ some 0

/-- What the requests of a provider share. The locks have the requests that hold them. -/
structure FallbackConnection where
  pool : RpcEndpointPool
  activeEndpoint : Option RpcEndpoint
  connectionGeneration : ℕ
  /-- the index of `_active_transport` -/
  activeTransport : Option ℕ
  connectLock : Option ℕ
  failoverLock : Option ℕ
  /-- the endpoints of the connections established so far -/
  established : List RpcEndpoint
  /-- the generations that were invalidated so far -/
  invalidated : List ℕ

namespace FallbackConnection

variable (c : FallbackConnection)

/-- No endpoint is active, and the transport is closed. -/
def drop : FallbackConnection :=
  { c with
    activeEndpoint := none
    activeTransport := none }

/-- A connection to an endpoint is established. -/
def establish (endpoint : RpcEndpoint) (now : ℚ) : FallbackConnection :=
  { c with
    pool := c.pool.markSuccess endpoint now
    activeEndpoint := some endpoint
    connectionGeneration := c.connectionGeneration + 1
    established := c.established ++ [endpoint] }

/-- The locks that a request holds are released. -/
def release (r : ℕ) : FallbackConnection :=
  { c with
    connectLock := if c.connectLock = some r then none else c.connectLock
    failoverLock := if c.failoverLock = some r then none else c.failoverLock }

end FallbackConnection

/-- Where a call of `_connect_with_fallback` is. -/
inductive ConnectPoint where
  /-- waits for the lock -/
  | locking
  /-- awaits `is_connected` -/
  | checking
  /-- closes the connection that was active -/
  | clearing
  /-- sleeps -/
  | waiting (completedRounds : ℕ)
  /-- awaits `_open_endpoint`, with the candidates after the endpoint -/
  | opening (endpoint : RpcEndpoint) (candidates : List RpcEndpoint) (completedRounds : ℕ)
  /-- closes the endpoint, which could not be opened -/
  | abandoning (endpoint : RpcEndpoint) (candidates : List RpcEndpoint) (completedRounds : ℕ)

/-- Who calls `_connect_with_fallback`. -/
inductive Caller where
  | executeRequest
  /-- the operation, which was called with the endpoint and the generation -/
  | makeRequest (endpoint : RpcEndpoint) (generation : ℕ)

/-- How a request ends. -/
inductive RequestOutcome (α : Type) where
  | returned (value : α)
  /-- an exception of the operation is propagated -/
  | raised (exc : ProviderException)
  | valueError
  | assertionError
  /-- `No untried RPC endpoints remain` -/
  | noUntriedEndpoints
  /-- `All RPC endpoints are unavailable` -/
  | endpointsUnavailable
  /-- `All RPC endpoints lost connection` -/
  | connectionsLost
  | rejectedByAllProviders (failures : List RpcFailureSummary)
  /-- a cancellation, or an exception that nothing here handles, while an operation that was
  called with the endpoint had not ended -/
  | aborted (called : Option RpcEndpoint)

/-- Where a call of `execute_request` is. -/
inductive RequestPhase (α : Type) where
  | idle
  | connecting (caller : Caller) (point : ConnectPoint)
  /-- awaits the operation, whose last request went to `carrier` -/
  | operating (endpoint : RpcEndpoint) (generation : ℕ) (carrier : Option RpcEndpoint)
  /-- waits for the failover lock -/
  | invalidating (endpoint : RpcEndpoint) (generation : ℕ) (kind : RpcFailureKind)
    (cooldown : Bool)
  /-- closes the connection that it invalidated -/
  | closing (kind : RpcFailureKind)
  | done (outcome : RequestOutcome α)

/-- The endpoint with which the operation was called, until it has ended. -/
def RequestPhase.called {α : Type} : RequestPhase α → Option RpcEndpoint
  | connecting (.makeRequest endpoint _) _ | operating endpoint _ _ => some endpoint
  | done (.aborted called) => called
  | _ => none

/-- A call of the operation that has ended. -/
structure Attempt (α : Type) where
  endpoint : RpcEndpoint
  /-- the endpoint of the last request of the operation -/
  carrier : Option RpcEndpoint
  /-- the endpoints given up when the operation was called -/
  rejectedIndices : Finset ℕ
  result : Invoked α

/-- A call of `execute_request`. -/
structure Request (α : Type) where
  phase : RequestPhase α
  rejectedIndices : Finset ℕ
  requestFailures : List RpcFailureSummary
  transportRetriedIndices : Finset ℕ
  /-- the failures that the observer was told -/
  observed : List (RpcEndpoint × RpcFailureKind)
  attempts : List (Attempt α)

/-- What happens to a request. -/
inductive RequestEvent (α : Type) where
  | begin
  /-- it gets the connect lock -/
  | acquire (now : ℚ)
  /-- `is_connected` ends -/
  | checked (connected : Bool)
  /-- `_open_endpoint` ends -/
  | opened (now : ℚ)
  | openFailed
  /-- a sleep or the closing of a transport ends -/
  | resume (now : ℚ)
  /-- the operation calls `make_request` -/
  | makeRequest
  /-- the operation ends -/
  | finish (result : Except ProviderException α)
  /-- it gets the failover lock -/
  | invalidate (now : ℚ)
  | abort

namespace Request

variable {α : Type} (P : FallbackProvider) (c : FallbackConnection) (q : Request α)

/-- A request that was not made. -/
def new (α : Type) : Request α where
  phase := .idle
  rejectedIndices := ∅
  requestFailures := []
  transportRetriedIndices := ∅
  observed := []
  attempts := []

/-- The request goes to another phase. -/
def goto (phase : RequestPhase α) : Request α :=
  { q with phase := phase }

/-! ### Connecting -/

/-- The endpoints that a connect does not use. -/
def excludedIndices : Caller → Finset ℕ
  | .executeRequest => q.rejectedIndices
  | .makeRequest _ _ => ∅

/-- How often a connect goes through the endpoints. -/
def connectionRounds : Caller → Option ℕ
  | .executeRequest => if q.rejectedIndices.Nonempty then some 1 else P.maxConnectionRounds
  | .makeRequest _ _ => P.maxConnectionRounds

/-- The rounds of a connect are over. -/
def roundsOver (caller : Caller) (completedRounds : ℕ) : Bool :=
  (q.connectionRounds P caller).any (· ≤ completedRounds)

/-- Where the request is when a connect returns. An operation whose `make_request` finds no
active endpoint goes on with an `AssertionError`. -/
def connected : Caller → RequestPhase α
  | .executeRequest =>
      match c.activeEndpoint with
      | some endpoint => .operating endpoint c.connectionGeneration none
      | none => .done .assertionError
  | .makeRequest endpoint generation => .operating endpoint generation c.activeEndpoint

/-- Where the request is when a connect raises an error. -/
def unconnected (outcome : RequestOutcome α) : Caller → RequestPhase α
  | .executeRequest => .done outcome
  | .makeRequest endpoint generation => .operating endpoint generation none

/-- The head of the loop of a connect. -/
def select (caller : Caller) (completedRounds : ℕ) (now : ℚ) :
    FallbackConnection × RequestPhase α :=
  if q.roundsOver P caller completedRounds then
    ({ c with connectLock := none }, unconnected .endpointsUnavailable caller)
  else match c.pool.candidates (q.excludedIndices caller) now with
    | ([], none) => ({ c with connectLock := none }, unconnected .noUntriedEndpoints caller)
    | ([], some _) => (c, .connecting caller (.waiting completedRounds))
    | (endpoint :: candidates, _) =>
        ({ c with activeTransport := some endpoint.index },
          .connecting caller (.opening endpoint candidates completedRounds))

/-- A connect has the lock. -/
def enter (r : ℕ) (caller : Caller) (now : ℚ) : FallbackConnection × RequestPhase α :=
  let c := { c with connectLock := some r }
  match c.activeEndpoint with
  | some endpoint =>
      if endpoint.index ∈ q.excludedIndices caller then (c.drop, .connecting caller .clearing)
      else (c, .connecting caller .checking)
  | none => q.select P c caller 0 now

/-- A connect goes on with the candidates after an endpoint that could not be opened. -/
def tryNext (caller : Caller) (endpoint : RpcEndpoint) (candidates : List RpcEndpoint)
    (completedRounds : ℕ) (now : ℚ) : FallbackConnection × RequestPhase α :=
  let c := { c with pool := c.pool.markFailed endpoint now }
  match candidates with
  | endpoint :: candidates =>
      ({ c with activeTransport := some endpoint.index },
        .connecting caller (.opening endpoint candidates completedRounds))
  | [] =>
      if q.roundsOver P caller (completedRounds + 1) then
        ({ c with connectLock := none }, unconnected .endpointsUnavailable caller)
      else (c, .connecting caller (.waiting (completedRounds + 1)))

/-! ### Failures -/

/-- A failure of an endpoint is recorded. -/
def recordFailure (endpoint : RpcEndpoint) (generation : ℕ) (failure : RpcFailureSummary) :
    Request α :=
  match failure.kind with
  | .transport =>
      let alreadyRetried := decide (endpoint.index ∈ q.transportRetriedIndices)
      { q with
        observed := q.observed ++ [(endpoint, .transport)]
        transportRetriedIndices := insert endpoint.index q.transportRetriedIndices
        rejectedIndices :=
          if alreadyRetried then insert endpoint.index q.rejectedIndices else q.rejectedIndices
        phase := .invalidating endpoint generation .transport alreadyRetried }
  | .rpcRejected =>
      { q with
        observed := q.observed ++ [(endpoint, .rpcRejected)]
        rejectedIndices := insert endpoint.index q.rejectedIndices
        requestFailures := q.requestFailures ++ [failure]
        phase := .invalidating endpoint generation .rpcRejected false }

/-- The operation has ended. -/
def finish (endpoint : RpcEndpoint) (generation : ℕ) (carrier : Option RpcEndpoint)
    (result : Except ProviderException α) : Request α :=
  let invoked := invokeRpcOperation P.tables result endpoint
  let attempt : Attempt α := ⟨endpoint, carrier, q.rejectedIndices, invoked⟩
  let q := { q with attempts := q.attempts ++ [attempt] }
  match invoked with
  | .returned value => q.goto (.done (.returned value))
  | .raised exc => q.goto (.done (.raised exc))
  | .valueError => q.goto (.done .valueError)
  | .failed failure _ => q.recordFailure endpoint generation failure

/-- Where the request is after an invalidation. -/
def continued (kind : RpcFailureKind) : RequestPhase α :=
  if q.rejectedIndices.card = P.pool.endpoints.length then
    match kind with
    | .transport => .done .connectionsLost
    | .rpcRejected => .done (.rejectedByAllProviders q.requestFailures)
  else .connecting .executeRequest .locking

/-- `_invalidate_endpoint` under its lock. -/
def invalidate (r : ℕ) (endpoint : RpcEndpoint) (generation : ℕ) (kind : RpcFailureKind)
    (cooldown : Bool) (now : ℚ) : FallbackConnection × RequestPhase α :=
  if c.activeEndpoint = some endpoint ∧ c.connectionGeneration = generation then
    ({ c.drop with
        pool := if cooldown then c.pool.markFailed endpoint now else c.pool
        failoverLock := some r
        invalidated := c.invalidated ++ [generation] }, .closing kind)
  else (c, q.continued P kind)

/-! ### Steps -/

/-- An event of the request leads to another phase. -/
def advance (r : ℕ) : RequestEvent α → Option (FallbackConnection × RequestPhase α)
  | .begin =>
      match q.phase with
      | .idle => some (c, .connecting .executeRequest .locking)
      | _ => none
  | .acquire now =>
      match q.phase with
      | .connecting caller .locking =>
          if c.connectLock = none then some (q.enter P c r caller now) else none
      | _ => none
  | .checked connected =>
      match q.phase with
      | .connecting caller .checking =>
          if connected then some ({ c with connectLock := none }, Request.connected c caller)
          else some (c.drop, .connecting caller .clearing)
      | _ => none
  | .opened now =>
      match q.phase with
      | .connecting caller (.opening endpoint _ _) =>
          some ({ c.establish endpoint now with connectLock := none },
            Request.connected (c.establish endpoint now) caller)
      | _ => none
  | .openFailed =>
      match q.phase with
      | .connecting caller (.opening endpoint candidates completedRounds) =>
          some ({ c with activeTransport := none },
            .connecting caller (.abandoning endpoint candidates completedRounds))
      | _ => none
  | .resume now =>
      match q.phase with
      | .connecting caller .clearing => some (q.select P c caller 0 now)
      | .connecting caller (.waiting completedRounds) =>
          some (q.select P c caller completedRounds now)
      | .connecting caller (.abandoning endpoint candidates completedRounds) =>
          some (q.tryNext P c caller endpoint candidates completedRounds now)
      | .closing kind => some ({ c with failoverLock := none }, q.continued P kind)
      | _ => none
  | .makeRequest =>
      match q.phase with
      | .operating endpoint generation _ =>
          some (c, .connecting (.makeRequest endpoint generation) .locking)
      | _ => none
  | .invalidate now =>
      match q.phase with
      | .invalidating endpoint generation kind cooldown =>
          if c.failoverLock = none then
            some (q.invalidate P c r endpoint generation kind cooldown now)
          else none
      | _ => none
  | .abort =>
      match q.phase with
      | .idle | .done _ => none
      | _ => some (c.release r, .done (.aborted q.phase.called))
  | .finish _ => none

/-- What an event of the request does. -/
def step (r : ℕ) : RequestEvent α → Option (FallbackConnection × Request α)
  | .finish result =>
      match q.phase with
      | .operating endpoint generation carrier =>
          some (c, q.finish P endpoint generation carrier result)
      | _ => none
  | event => (q.advance P c r event).map fun next => (next.1, q.goto next.2)

end Request

/-- What happens to the connection apart from the requests. -/
inductive ConnectionEvent where
  /-- `disconnect` -/
  | disconnect
  /-- a call of the pool by another provider -/
  | call (now : ℚ) (call : RpcEndpointPool.Call)

/-- What an event does to the connection. -/
def FallbackConnection.step (c : FallbackConnection) :
    ConnectionEvent → Option FallbackConnection
  | .disconnect => if c.connectLock = none then some c.drop else none
  | .call now call => some { c with pool := c.pool.perform now call }

/-- The connection of a provider, and its requests. -/
abbrev Requests (α : Type) :=
  Interleaving.State ℕ FallbackConnection (Request α)

/-- What happens to the requests of a provider. -/
abbrev RequestsAction (α : Type) :=
  Interleaving.Action ℕ (RequestEvent α) ConnectionEvent

namespace Requests

variable {α : Type} (P : FallbackProvider)

/-- A provider without requests. -/
def initial (α : Type) : Requests α where
  shared :=
    { pool := P.pool
      activeEndpoint := none
      connectionGeneration := 0
      activeTransport := none
      connectLock := none
      failoverLock := none
      established := []
      invalidated := [] }
  processes _ := .new α

/-- What an action does. -/
def step : Requests α → RequestsAction α → Option (Requests α) :=
  Interleaving.step (fun r c q event => q.step P c r event) FallbackConnection.step

/-- The runs of any number of requests whose events meet a guard. -/
def ReachesUnder (ok : FallbackConnection → Request α → RequestEvent α → Prop)
    (s : Requests α) : Prop :=
  Transition.Reaches (step P) (Interleaving.Guard ok) (initial P α) s

/-- The runs of any number of requests. -/
def Reachable (s : Requests α) : Prop :=
  ReachesUnder P (fun _ _ _ => True) s

/-- An endpoint rejects the request. -/
def rejection : RequestEvent ℕ :=
  .finish (.error (.web3Rpc ⟨"Web3RPCError", by decide⟩ .null))

/-- An endpoint loses its transport. -/
def loss : RequestEvent ℕ :=
  .finish (.error (.transport ⟨"TimeExhausted", by decide⟩))

end Requests

/-- A provider with two endpoints. -/
def FallbackProvider.pair : FallbackProvider where
  tables := .ascii
  pool :=
    { endpoints := [⟨0, "ws://primary.invalid"⟩, ⟨1, "ws://fallback.invalid"⟩]
      cooldownSeconds := 30
      states := [{}, {}]
      preferredIndex := 0 }
  wellFormed := by
    have hnew : RpcEndpointPool.new ["ws://primary.invalid", "ws://fallback.invalid"] 30
        = .ok ⟨[⟨0, "ws://primary.invalid"⟩, ⟨1, "ws://fallback.invalid"⟩], 30, [{}, {}], 0⟩ := rfl
    apply (RpcEndpointPool.new_eq_ok hnew).1
  nonempty := nofun
  maxConnectionRounds := none
  maxConnectionRounds_ne_zero := nofun

end Sentinel
