import Sentinel.Rpc.ChainValidation
import Sentinel.Storage.RuntimeIdentity

/-!
# The identity of a process

A process validates its endpoints before it opens the persisted data, and its identity has the
chain id that the endpoints told of. The data that several processes used, each with endpoints
of its own, is of one chain: all their endpoints were of it.
-/

namespace Sentinel

open Python (LowerCase UrlTables)
open ChainValidation

/-- The identity of a process, for the chain id of its pool after the validation. -/
def runtimeIdentity {lc : LowerCase} (chainId : Option ChainId) (moduleAddress : String)
    (moduleType : ModuleType) : Except PyError (RuntimeIdentity lc) :=
  match chainId with
  | none => .error (.runtimeError "RPC chain ID is unavailable after endpoint validation")
  | some (.bool _) => .error (.valueError "chain_id must be a positive integer")
  | some (.int n) => RuntimeIdentity.new n moduleAddress moduleType

/-- The chain id of an identity. -/
theorem chainId_of_runtimeIdentity {lc : LowerCase} {chainId : Option ChainId}
    {moduleAddress : String} {moduleType : ModuleType} {identity : RuntimeIdentity lc}
    (h : runtimeIdentity chainId moduleAddress moduleType = .ok identity) :
  chainId = some (.int identity.chainId)
  := by
  unfold runtimeIdentity at h
  split at h
  next => cases h
  next => cases h
  next n =>
      rw [RuntimeIdentity.new] at h
      split_ifs at h
      cases h
      rfl

/-- A process whose validation succeeded, with its endpoints, what they answered and its
identity. -/
structure Started {lc : LowerCase} (t : UrlTables) (endpoints : List RpcEndpoint)
    (answers : List (RpcEndpoint × Found)) (identity : RuntimeIdentity lc) : Prop where
  run : ∃ (ι : Type) (_ : DecidableEq ι) (pool : RpcEndpointPool) (s : Providers ι) (i : ι)
    (moduleAddress : String) (moduleType : ModuleType),
    Providers.Run t (Providers.start ι pool none) s
      ∧ (s.processes i).phase = .done .validated
      ∧ pool.endpoints = endpoints
      ∧ (s.processes i).found = answers
      ∧ runtimeIdentity s.shared.chainId moduleAddress moduleType = .ok identity

/-- Each endpoint of a process that started answered the chain id of its identity. -/
theorem Started.answered {lc : LowerCase} {t : UrlTables} {endpoints : List RpcEndpoint}
    {answers : List (RpcEndpoint × Found)} {identity : RuntimeIdentity lc}
    (h : Started t endpoints answers identity) {endpoint : RpcEndpoint}
    (hmem : endpoint ∈ endpoints) :
  ∃ chainId, (endpoint, Found.validated chainId) ∈ answers
    ∧ chainId.value = identity.chainId
  := by
  obtain ⟨ι, hι, pool, s, i, moduleAddress, moduleType, hrun, hphase, rfl, rfl, hidentity⟩ := h
  obtain ⟨hfound, hanswers⟩ :=
    ((Providers.sound_of_run hrun (.refl s)).2 i).1.concludes hphase
  rw [← hfound, List.mem_map] at hmem
  obtain ⟨found, hmem, rfl⟩ := hmem
  obtain ⟨chainId, hvalidated, -, poolChainId, hpool, hvalue⟩ := hanswers found hmem
  rw [chainId_of_runtimeIdentity hidentity] at hpool
  cases hpool
  use chainId
  rw [← hvalidated]
  use hmem, hvalue.symm

/-- All processes that are accepted over some persisted data are of one identity, and every
endpoint that one of them uses is of the chain of every endpoint that another one uses. -/
theorem endpoints_of_accepted {lc : LowerCase} {t : UrlTables} {botData : Dict String Object}
    {events : List (RuntimeIdentity.Event lc)} {identity identity' : RuntimeIdentity lc}
    {endpoints endpoints' : List RpcEndpoint} {answers answers' : List (RpcEndpoint × Found)}
    (h : identity ∈ RuntimeIdentity.accepted botData events)
    (h' : identity' ∈ RuntimeIdentity.accepted botData events)
    (hs : Started t endpoints answers identity) (hs' : Started t endpoints' answers' identity') :
  identity = identity' ∧ ∀ endpoint ∈ endpoints, ∀ endpoint' ∈ endpoints',
    ∃ chainId chainId', (endpoint, Found.validated chainId) ∈ answers
      ∧ (endpoint', Found.validated chainId') ∈ answers'
      ∧ chainId.value = chainId'.value
  := by
  have hidentity := RuntimeIdentity.eq_of_mem_accepted h h'
  use hidentity
  intro endpoint hmem endpoint' hmem'
  obtain ⟨chainId, hvalidated, hvalue⟩ := hs.answered hmem
  obtain ⟨chainId', hvalidated', hvalue'⟩ := hs'.answered hmem'
  use chainId, chainId', hvalidated, hvalidated'
  rw [hvalue, hvalue', hidentity]

/-- A process whose only provider is executed. -/
theorem started_of_execute {lc : LowerCase} {t : UrlTables} (pool : RpcEndpointPool)
    (actions : List (Interleaving.Action Unit ValidationEvent PoolCall))
    {answers : List (RpcEndpoint × Found)} {chainId : ChainId} {moduleAddress : String}
    {moduleType : ModuleType} {identity : RuntimeIdentity lc}
    (hidentity : runtimeIdentity (some chainId) moduleAddress moduleType = .ok identity)
    (h : ((Transition.execute (Providers.step t) (Interleaving.Guard fun _ _ _ => True)
      (Providers.start Unit pool none) actions).any fun s => decide
        ((s.processes ()).phase = .done .validated ∧ (s.processes ()).found = answers
          ∧ s.shared.chainId = some chainId)) = true) :
  Started t pool.endpoints answers identity
  where
  run := by
    obtain ⟨s, hrun, hphase, hfound, hchain⟩ :=
      Transition.exists_reaches_of_execute _ _ _ actions _ h
    rw [← hchain] at hidentity
    exact ⟨Unit, inferInstance, pool, s, (), moduleAddress, moduleType, hrun, hphase, rfl, hfound,
      hidentity⟩

theorem endpoints_of_accepted_twoProcesses :
  ∃ (identity identity' : RuntimeIdentity .ascii),
    identity = identity' ∧ ∀ endpoint ∈ [(⟨0, "wss://a"⟩ : RpcEndpoint)],
      ∀ endpoint' ∈ [(⟨0, "wss://b"⟩ : RpcEndpoint)],
      ∃ chainId chainId',
        (endpoint, Found.validated chainId) ∈ [(⟨0, "wss://a"⟩, Found.validated (.int 1))]
          ∧ (endpoint', Found.validated chainId') ∈ [(⟨0, "wss://b"⟩, Found.validated (.int 1))]
          ∧ chainId.value = chainId'.value
  := by
  let identity : RuntimeIdentity .ascii := ⟨1, "0xab", .curated, by decide, by decide, by decide⟩
  use identity, identity
  have hs : Started .ascii [⟨0, "wss://a"⟩] [(⟨0, "wss://a"⟩, .validated (.int 1))] identity :=
    started_of_execute ⟨[⟨0, "wss://a"⟩], 30, [{}], 0⟩
      [.process () .start, .process () .opened,
        .process () (.answered 1 (.str "0x1")), .process () .closed]
      (show runtimeIdentity (some (.int 1)) "0xAb" .curated = .ok identity from rfl) (by decide)
  have hs' : Started .ascii [⟨0, "wss://b"⟩] [(⟨0, "wss://b"⟩, .validated (.int 1))] identity :=
    started_of_execute ⟨[⟨0, "wss://b"⟩], 30, [{}], 0⟩
      [.process () .start, .process () .opened,
        .process () (.answered 1 (.int 1)), .process () .closed]
      (show runtimeIdentity (some (.int 1)) "0xaB" .curated = .ok identity from rfl) (by decide)
  have hmem :
      identity ∈ RuntimeIdentity.accepted .empty [.started identity, .started identity] := by
    decide
  apply endpoints_of_accepted hmem hmem hs hs'

end Sentinel
