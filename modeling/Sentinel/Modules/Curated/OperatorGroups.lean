import Sentinel.Modules.OperatorIds
import Mathlib.Data.Finset.SymmDiff

/-!
# Updates of operator groups

An update of an operator group is shown as its difference: the node operators that were added,
removed or given another share, each with the allocation before the update, after it, or both.
Each chat gets the changes of the node operators that it follows. When the group is renamed, the
followers of its node operators learn this also where their own shares are the same.
-/

namespace Sentinel

open Python TelegramNotificationHandler

/-! ### Fields of decoded values -/

/-- A field of a decoded value, by name or by position, `none` where it raises. -/
def readField (value : Value) (field : String) (index : ℕ) : Option Value :=
  match value with
  | .dict items => items.lookup field
  | .list values => values[index]?
  | .str s => s.toList[index]?.map fun c => .str (String.singleton c)
  | .bytes b => b[index]?.map fun byte => .int byte.toNat
  | .int _ | .bool _ => none

/-- The values that a loop over a value goes through, `none` where it raises. -/
def Value.iterate : Value → Option (List Value)
  | .list values => some values
  | .dict items => some (items.map fun item => .str item.1)
  | .str s => some (s.toList.map fun c => .str (String.singleton c))
  | .bytes b => some (b.map fun byte => .int byte.toNat)
  | .int _ | .bool _ => none

/-! ### Groups -/

namespace Curated

/-- The name of a group, if it has one, `none` where it raises. -/
def operatorGroupName (groupInfo : Value) : Option (Option String) :=
  (readField groupInfo "name" 0).map fun name =>
    match name with
    | .str name => if name = "" then none else some name
    | _ => none

/-- The node operators of a group, `none` where it raises. -/
def subNodeOperators (groupInfo : Value) : Option (List Value) :=
  (readField groupInfo "subNodeOperators" 1).bind Value.iterate

def nodeOperatorId (operator : Value) : Option ℤ :=
  (readField operator "nodeOperatorId" 0).bind Value.toInt

def share (operator : Value) : Option ℤ :=
  (readField operator "share" 1).bind Value.toInt

/-- A share of a total in hundredths of a percent. -/
def weightBasisPoints (weight totalWeight : ℤ) : ℤ :=
  if totalWeight ≤ 0 then 0 else weight * 10000 / totalWeight

/-- What a node operator has in a group. -/
structure OperatorAllocation where
  nodeOperatorId : ℤ
  share : ℤ
  effectiveWeight : ℤ
  weightedShare : ℤ
deriving DecidableEq

/-- A change of a node operator in a group. -/
structure OperatorGroupChange where
  nodeOperatorId : ℤ
  nodeOperatorLabel : String
  oldAllocation : Option OperatorAllocation
  newAllocation : Option OperatorAllocation
  some_allocation : oldAllocation ≠ none ∨ newAllocation ≠ none

end Curated

/-- What the handlers of the curated module work with: the contracts at a block, the labels of
node operators, the texts, and the order in which sets are visited. -/
structure CuratedModule where
  getOperatorGroup : Value → ℤ → Value
  getOperatorWeights : List ℤ → ℤ → List ℤ
  length_getOperatorWeights : ∀ ids block, (getOperatorWeights ids block).length = ids.length
  nodeOperatorLabel : ℤ → ℤ → String
  /-- the group, its changes and its name, and the old and the new name of a renamed group -/
  operatorGroupUpdatedMessage : Value → List Curated.OperatorGroupChange → Option String →
    Option String → Option String → String
  notificationFooter : EventNotification → String
  operatorOrder : SetOrder String

namespace CuratedModule

open Curated

/-! ### Allocations -/

/-- The weights of node operators at a block. -/
def fetchNodeOperatorWeights (m : CuratedModule) (nodeOperatorIds : List ℤ) (block : ℤ) :
    Dict ℤ ℤ :=
  if nodeOperatorIds = [] then .empty
  else
    (nodeOperatorIds.zip (m.getOperatorWeights nodeOperatorIds block)).foldl
      (fun weights pair => weights.set pair.1 pair.2) .empty

/-- The allocations of a group at a block, `none` where it raises. -/
def subNodeOperatorAllocations (m : CuratedModule) (groupInfo : Value) (block : ℤ) :
    Option (List OperatorAllocation) := do
  let operators ← subNodeOperators groupInfo
  let nodeOperatorIds ← operators.mapM nodeOperatorId
  let weights := m.fetchNodeOperatorWeights nodeOperatorIds block
  let totalWeight := weights.values.sum
  (operators.zip nodeOperatorIds).mapM fun operator => do
    let share ← share operator.1
    let weight ← weights.get? operator.2
    return ⟨operator.2, share, weight, weightBasisPoints weight totalWeight⟩

/-- The allocations of a group by node operator, `none` where it raises. -/
def allocationsByOperator (m : CuratedModule) (groupInfo : Value) (block : ℤ) :
    Option (Dict ℤ OperatorAllocation) :=
  (m.subNodeOperatorAllocations groupInfo block).map
    (Dict.collect OperatorAllocation.nodeOperatorId)

/-! ### The update of a group -/

/-- The node operators that were added, removed or given another share. -/
def changedOperatorIds (previousOperators currentOperators : Dict ℤ OperatorAllocation) :
    Finset ℤ :=
  let previousIds := previousOperators.keys.toFinset
  let currentIds := currentOperators.keys.toFinset
  symmDiff previousIds currentIds ∪ (previousIds ∩ currentIds).filter fun id =>
    (previousOperators.get? id).map OperatorAllocation.share
      ≠ (currentOperators.get? id).map OperatorAllocation.share

/-- The change of a node operator, `none` where it raises. -/
def groupChange (nodeOperatorId : ℤ) (label : String)
    (previousOperators currentOperators : Dict ℤ OperatorAllocation) :
    Option OperatorGroupChange :=
  match previousOperators.get? nodeOperatorId, currentOperators.get? nodeOperatorId with
  | none, none => none
  | none, some new => some ⟨nodeOperatorId, label, none, some new, .inr nofun⟩
  | some old, none => some ⟨nodeOperatorId, label, some old, none, .inl nofun⟩
  | some old, some new => some ⟨nodeOperatorId, label, some old, some new, .inl nofun⟩

/-- The changes of a group, `none` where it raises. -/
def changesByOperator (m : CuratedModule) (block : ℤ)
    (previousOperators currentOperators : Dict ℤ OperatorAllocation) :
    Option (Dict ℤ OperatorGroupChange) :=
  ((changedOperatorIds previousOperators currentOperators).sort (· ≤ ·)).foldlM
    (fun changes id =>
      (groupChange id (m.nodeOperatorLabel id block) previousOperators currentOperators).map
        (changes.set id)) .empty

/-- The message about some changes of a group. -/
def groupMessage (m : CuratedModule) (event : EventNotification) (groupId : Value)
    (previousName currentName : Option String) (changes : List OperatorGroupChange) : String :=
  m.operatorGroupUpdatedMessage groupId changes currentName
      (if previousName ≠ currentName then previousName else none)
      (if previousName ≠ currentName then currentName else none)
    ++ m.notificationFooter event

/-- The message for a chat, `none` where it raises. -/
def renderGroup (m : CuratedModule) (event : EventNotification) (groupId : Value)
    (previousName currentName : Option String) (changes : Dict ℤ OperatorGroupChange)
    (nodeOperatorIds : Finset String) : Option (List String) := do
  let ids ← (m.operatorOrder.toList nodeOperatorIds).mapM int
  return [m.groupMessage event groupId previousName currentName
    ((sortBy id ids).filterMap changes.get?)]

/-- The handler of an update of a group, `none` where it raises. -/
def operatorGroupUpdated (m : CuratedModule) (event : EventNotification) :
    Option HandlerResult := do
  let block : ℤ := event.primaryEvent.block
  let groupId ← event.primaryEvent.args.get? "groupId"
  let previousGroup := m.getOperatorGroup groupId (block - 1)
  let currentGroup ← event.primaryEvent.args.get? "groupInfo"
  let previousName ← operatorGroupName previousGroup
  let currentName ← operatorGroupName currentGroup
  let previousOperators ← m.allocationsByOperator previousGroup (block - 1)
  let currentOperators ← m.allocationsByOperator currentGroup block
  let changedIds := changedOperatorIds previousOperators currentOperators
  if changedIds = ∅ ∧ previousName = currentName then return .nothing
  let targetIds := changedIds ∪
    if previousName ≠ currentName then currentOperators.keys.toFinset else ∅
  if targetIds = ∅ then return .nothing
  let changes ← m.changesByOperator block previousOperators currentOperators
  (NotificationPlan.perChat toString targetIds
    (m.renderGroup event groupId previousName currentName changes)).map .plan

/-! ### The shares of a group -/

/-- The node operators of a group with their shares, `none` where they cannot be read. -/
def readGroup (groupInfo : Value) : Option (List (ℤ × ℤ)) := do
  let operators ← subNodeOperators groupInfo
  operators.mapM fun operator => do
    let id ← nodeOperatorId operator
    let share ← share operator
    return (id, share)

variable {m : CuratedModule}

section Changes

variable {previous current : Dict ℤ OperatorAllocation}

/-- The share of a node operator, if it is in the group. -/
def shareOf (operators : Dict ℤ OperatorAllocation) (id : ℤ) : Option ℤ :=
  (operators.get? id).map OperatorAllocation.share

/-- A node operator is changed when its membership or its share is. -/
theorem mem_changedOperatorIds {id : ℤ} :
  id ∈ changedOperatorIds previous current ↔ shareOf previous id ≠ shareOf current id
  := by
  simp only [changedOperatorIds, Finset.mem_union, Finset.mem_symmDiff, Finset.mem_filter,
    Finset.mem_inter, List.mem_toFinset, Dict.mem_keys_iff, shareOf]
  cases previous.get? id <;> cases current.get? id <;> simp

end Changes

/-! ### The update -/

/-- An update of a group that can be read, before the update and after it. -/
structure GroupUpdate (m : CuratedModule) (event : EventNotification) where
  groupId : Value
  currentGroup : Value
  previousName : Option String
  currentName : Option String
  previousShares : Dict ℤ ℤ
  currentShares : Dict ℤ ℤ
  groupId_eq : event.primaryEvent.args.get? "groupId" = some groupId
  groupInfo_eq : event.primaryEvent.args.get? "groupInfo" = some currentGroup
  previousName_eq :
    operatorGroupName (m.getOperatorGroup groupId (event.primaryEvent.block - 1))
      = some previousName
  currentName_eq : operatorGroupName currentGroup = some currentName
  previousShares_eq :
    readGroup (m.getOperatorGroup groupId (event.primaryEvent.block - 1))
      = some previousShares.items
  currentShares_eq : readGroup currentGroup = some currentShares.items
  uint256_previous : ∀ id ∈ previousShares.keys, IsUint256 id
  uint256_current : ∀ id ∈ currentShares.keys, IsUint256 id

namespace GroupUpdate

variable {event : EventNotification} (u : GroupUpdate m event)

/-- The membership or the share of a node operator changed. -/
def Changed (id : ℤ) : Prop :=
  u.previousShares.get? id ≠ u.currentShares.get? id

def Renamed : Prop :=
  u.previousName ≠ u.currentName

/-- The followers of a node operator are to learn of the update. -/
def Concerns (id : ℤ) : Prop :=
  u.Changed id ∨ u.Renamed ∧ u.currentShares.get? id ≠ none

/-- The allocations of the group before the update and after it. -/
structure Allocations (previous current : Dict ℤ OperatorAllocation) : Prop where
  previous_eq :
    m.allocationsByOperator (m.getOperatorGroup u.groupId (event.primaryEvent.block - 1))
        (event.primaryEvent.block - 1)
      = some previous
  current_eq : m.allocationsByOperator u.currentGroup event.primaryEvent.block = some current
  shareOf_previous : shareOf previous = u.previousShares.get?
  shareOf_current : shareOf current = u.currentShares.get?

variable {u} {previous current : Dict ℤ OperatorAllocation}

/-- The changed node operators are those whose membership or share changed. -/
theorem Allocations.mem_changedOperatorIds (h : u.Allocations previous current) {id : ℤ} :
  id ∈ changedOperatorIds previous current ↔ u.Changed id
  := by
  rw [CuratedModule.mem_changedOperatorIds, h.shareOf_previous, h.shareOf_current]
  rfl

theorem Allocations.mem_keys (h : u.Allocations previous current) {id : ℤ} :
  id ∈ current.keys ↔ u.currentShares.get? id ≠ none
  := by
  rw [Dict.mem_keys_iff, ← h.shareOf_current, shareOf, ne_eq, ne_eq, Option.map_eq_none_iff]

/-- The node operators whose followers are to learn of the update. -/
def targetIds (u : GroupUpdate m event) (previous current : Dict ℤ OperatorAllocation) :
    Finset ℤ :=
  changedOperatorIds previous current ∪
    if u.previousName ≠ u.currentName then current.keys.toFinset else ∅

theorem Allocations.mem_targetIds (h : u.Allocations previous current) {id : ℤ} :
  id ∈ u.targetIds previous current ↔ u.Concerns id
  := by
  rw [targetIds, Finset.mem_union, h.mem_changedOperatorIds, Concerns, Renamed, ← h.mem_keys]
  by_cases hrenamed : u.previousName ≠ u.currentName <;> simp [hrenamed]

/-- The node operators of an update are numbered with 256 bits. -/
theorem Allocations.isUint256 (h : u.Allocations previous current) :
  ∀ id ∈ u.targetIds previous current, IsUint256 id
  := by
  intro id hid
  have hmem : id ∈ u.previousShares.keys ∨ id ∈ u.currentShares.keys := by
    by_contra hnot
    rw [not_or, Dict.mem_keys_iff, Dict.mem_keys_iff, not_not, not_not] at hnot
    rcases h.mem_targetIds.mp hid with hchanged | ⟨-, hcurrent⟩
    · exact hchanged (hnot.1.trans hnot.2.symm)
    · exact hcurrent hnot.2
  rcases hmem with hmem | hmem
  · exact u.uint256_previous id hmem
  · exact u.uint256_current id hmem

/-- An active chat follows a node operator whose followers are to learn of the update. -/
def Reaches (u : GroupUpdate m event) (storage : BotStorage) (c : ℤ) : Prop :=
  ∃ id, u.Concerns id ∧ storage.ActiveFollower (toString id) c

end GroupUpdate

end CuratedModule

end Sentinel
