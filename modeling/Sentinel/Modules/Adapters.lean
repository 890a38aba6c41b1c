import Sentinel.Modules.Registry

/-!
# The events of the two modules

The handlers that the community and the curated module register, the events that their
adapters list, and the aggregators and digests that follow from them.
-/

namespace Sentinel

/-! ### Groups -/

namespace AggregationGroups

def distributionReports : AggregationGroup := ⟨"distribution_reports", 1, Nat.one_pos⟩
def totalSigningKeyCounts : AggregationGroup := ⟨"total_signing_key_counts", 1, Nat.one_pos⟩
def validatorExitRequests : AggregationGroup := ⟨"validator_exit_requests", 1, Nat.one_pos⟩
def validatorWithdrawals : AggregationGroup := ⟨"validator_withdrawals", 5, Nat.succ_pos 4⟩
def operatorGroupChanges : AggregationGroup := ⟨"operator_group_changes", 1, Nat.one_pos⟩
def nodeOperatorEffectiveWeightChanges : AggregationGroup :=
  ⟨"node_operator_effective_weight_changes", 1, Nat.one_pos⟩
def bondCurveWeightChanges : AggregationGroup :=
  ⟨"bond_curve_weight_changes", 1, Nat.one_pos⟩

end AggregationGroups

/-- The digest of the deposits. -/
def DigestGroups.depositedSigningKeys : String := "deposited_signing_keys"

/-! ### Registered handlers -/

open EventHandler in
/-- The handlers that both modules register after those of their classes, up to the bond
debts. -/
def commonHandlers : List EventHandler :=
  [ digested "DepositedSigningKeysCountChanged" DigestGroups.depositedSigningKeys
  , aggregated "TotalSigningKeysCountChanged" AggregationGroups.totalSigningKeyCounts
  , plain "VettedSigningKeysCountDecreased"
  , plain "KeyRemovalChargeApplied"
  , plain "KeyAllocatedBalanceChanged"
  , plain "BondCurveSet"
  , plain "NodeOperatorManagerAddressChangeProposed"
  , plain "NodeOperatorManagerAddressChanged"
  , plain "NodeOperatorRewardAddressChangeProposed"
  , plain "NodeOperatorRewardAddressChanged"
  , plain "CustomRewardsClaimerSet"
  , plain "FeeSplitsSet"
  , plain "BondDebtIncreased"
  , plain "BondDebtCovered" ]

open EventHandler in
/-- The handlers that both modules register last. -/
def lastHandlers : List EventHandler :=
  [ plain "GeneralDelayedPenaltyReported"
  , plain "GeneralDelayedPenaltySettled"
  , plain "GeneralDelayedPenaltyCancelled"
  , plain "GeneralDelayedPenaltyCompensated"
  , plain "ValidatorSlashingReported"
  , aggregated "ValidatorExitRequest" AggregationGroups.validatorExitRequests
  , plain "TriggeredExitFeeRecorded"
  , plain "StrikesPenaltyProcessed"
  , aggregated "ValidatorWithdrawn" AggregationGroups.validatorWithdrawals
  , plain "DistributionLogUpdated" ]

open EventHandler in
/-- `COMMUNITY_EVENTS_TO_FOLLOW`, in the order of registration. -/
def communityHandlers : List EventHandler :=
  [plain "ValidatorExitDelayProcessed", plain "TargetValidatorsCountChanged"]
    ++ commonHandlers ++ [plain "BondLockRemoved"] ++ lastHandlers

open EventHandler in
/-- `CURATED_EVENTS_TO_FOLLOW`, in the order of registration. -/
def curatedHandlers : List EventHandler :=
  [ plain "TargetValidatorsCountChanged"
  , plain "ValidatorExitDelayProcessed"
  , plain "Resumed"
  , plain "BondDepositedETH"
  , plain "BondDepositedStETH"
  , plain "BondDepositedWstETH"
  , plain "BondClaimedUnstETH"
  , plain "BondClaimedStETH"
  , plain "BondClaimedWstETH"
  , plain "BondBurned"
  , plain "BondCharged"
  , plain "BondLockChanged"
  , plain "BondLockRemoved"
  , plain "BondLockCompensated"
  , plain "BondLockPeriodChanged"
  , plain "NodeOperatorEffectiveWeightChanged"
  , plain "OperatorGroupCreated"
  , plain "OperatorGroupUpdated"
  , plain "OperatorGroupCleared"
  , plain "BondCurveWeightSet"
  , plain "OperatorMetadataSet" ] ++ commonHandlers ++ lastHandlers

namespace ModuleType

/-- The handlers that a module registers. -/
def handlers : ModuleType → List EventHandler
  | .community => communityHandlers
  | .curated => curatedHandlers

/-- The registry of a module. -/
def eventsToFollow (m : ModuleType) : Registry :=
  .ofList m.handlers

end ModuleType

/-! ### Aggregators -/

/-- `DISTRIBUTION_REPORT_EVENTS` -/
def distributionReportEvents : Finset String :=
  {"ModuleFeeDistributed", "DistributionLogUpdated"}

/-- `DistributionReportAggregator()` -/
def distributionReportAggregator : EventAggregator where
  aggregatorClass := .distributionReport
  group := AggregationGroups.distributionReports
  eventNames := distributionReportEvents

/-- `GlobalEventAggregator(group, event_names)` -/
def globalEventAggregator (group : AggregationGroup) (eventNames : Finset String) :
    EventAggregator where
  aggregatorClass := .global
  group := group
  eventNames := eventNames

namespace ModuleType

/-- The aggregators of a module apart from those of its handlers. -/
def otherAggregators : ModuleType → List EventAggregator
  | .community => [distributionReportAggregator]
  | .curated =>
      [ distributionReportAggregator
      , { aggregatorClass := .operatorGroupChange
          group := AggregationGroups.operatorGroupChanges
          eventNames :=
            { EventAggregator.operatorGroupCreated, EventAggregator.operatorGroupUpdated
            , EventAggregator.operatorGroupCleared } }
      , globalEventAggregator AggregationGroups.nodeOperatorEffectiveWeightChanges
          {"NodeOperatorEffectiveWeightChanged"}
      , globalEventAggregator AggregationGroups.bondCurveWeightChanges {"BondCurveWeightSet"} ]

/-- `event_aggregators()` -/
def eventAggregators (m : ModuleType) : List EventAggregator :=
  nodeOperatorAggregatorsFromEventHandlers m.eventsToFollow ++ m.otherAggregators

/-- The digests of a module, `none` where building them raises. -/
def digests (m : ModuleType) : Option (Dict String Digest) :=
  buildDigests m.eventsToFollow

/-! ### Where the events of a module go -/

/-- The aggregated events of the handlers of a module. -/
def aggregatedEvents : Finset String :=
  {"TotalSigningKeysCountChanged", "ValidatorExitRequest", "ValidatorWithdrawn"}

/-- The handlers of both modules aggregate the same events. -/
theorem event_mem_aggregatedEvents {m : ModuleType} {handler : EventHandler}
    (h : handler ∈ m.handlers) (hgroup : handler.aggregationGroup ≠ none) :
  handler.event ∈ aggregatedEvents
  := by
  have hall : ∀ m : ModuleType, (m.handlers.filter fun handler =>
      handler.aggregationGroup.isSome).map EventHandler.event
        = ["TotalSigningKeysCountChanged", "ValidatorExitRequest", "ValidatorWithdrawn"] := by
    intro m
    cases m <;> rfl
  have hmem : handler.event ∈ (m.handlers.filter fun handler =>
      handler.aggregationGroup.isSome).map EventHandler.event := by
    apply List.mem_map_of_mem
    apply List.mem_filter.mpr
    use h, Option.isSome_iff_ne_none.mpr hgroup
  rw [hall] at hmem
  simpa [aggregatedEvents] using hmem

/-- The aggregators of the handlers of a module take aggregated events. -/
theorem eventNames_subset_aggregatedEvents {m : ModuleType} {aggregator : EventAggregator}
    (h : aggregator ∈ nodeOperatorAggregatorsFromEventHandlers m.eventsToFollow) :
  aggregator.eventNames ⊆ aggregatedEvents
  := by
  intro name hname
  obtain ⟨handler, hmem, hgroup, rfl⟩ := (mem_nodeOperatorAggregators h).mp hname
  apply event_mem_aggregatedEvents (Registry.mem_of_mem_ofList hmem)
  simp [hgroup]

/-- No name goes to two aggregators of a module. -/
theorem pairwise_disjoint_eventAggregators (m : ModuleType) :
  m.eventAggregators.Pairwise
    fun aggregator aggregator' => Disjoint aggregator.eventNames aggregator'.eventNames
  := by
  apply List.pairwise_append.mpr
  use disjoint_nodeOperatorAggregators m.eventsToFollow
  constructor
  · cases m <;> decide
  · intro aggregator h aggregator' h'
    apply Finset.disjoint_of_subset_left (eventNames_subset_aggregatedEvents h)
    revert aggregator' h'
    cases m <;> decide

/-- The groups of the aggregators of a module have distinct names. -/
theorem nodup_group_eventAggregators (m : ModuleType) :
  (m.eventAggregators.map fun aggregator => aggregator.group.name).Nodup
  := by
  cases m <;> decide

/-- The aggregator of the operator groups takes the events of operator groups. -/
theorem eventNames_subset_of_operatorGroupChange {m : ModuleType} {aggregator : EventAggregator}
    (h : aggregator ∈ m.eventAggregators)
    (hclass : aggregator.aggregatorClass = .operatorGroupChange) :
  aggregator.eventNames ⊆
    { EventAggregator.operatorGroupCreated, EventAggregator.operatorGroupUpdated
    , EventAggregator.operatorGroupCleared }
  := by
  rcases List.mem_append.mp h with h | h
  · rw [class_of_mem_nodeOperatorAggregators h] at hclass
    cases hclass
  · revert aggregator
    cases m <;> decide

/-- No aggregator of a module takes the event of its digest. -/
theorem deposited_notMem_eventNames {m : ModuleType} {aggregator : EventAggregator}
    (h : aggregator ∈ m.eventAggregators) :
  "DepositedSigningKeysCountChanged" ∉ aggregator.eventNames
  := by
  rcases List.mem_append.mp h with h | h
  · intro hname
    apply absurd (eventNames_subset_aggregatedEvents h hname)
    decide
  · revert aggregator
    cases m <;> decide

/-- A module has one digest. -/
theorem exists_digests (m : ModuleType) :
  ∃ digests, m.digests = some digests
    ∧ digests.values = [⟨DigestGroups.depositedSigningKeys, "DepositedSigningKeysCountChanged"⟩]
  := by
  cases m <;> exact ⟨_, rfl, rfl⟩

end ModuleType

end Sentinel
