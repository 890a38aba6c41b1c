import Sentinel.Chain
import Sentinel.Dict
import Mathlib.Order.Monotone.Basic

/-!
# The caches of the node operators

An adapter caches the number of node operators and their labels. A task that misses a cache
reads the contracts through the shared connection to the chain and stores what it gets. The
processors of events write the same caches without the connection, so they run while a task
awaits the answer to its read.
-/

namespace Sentinel.Operators

/-! ### The contracts -/

/-- What the contracts of a module say at the end of every block. Operators are only added.
The names of an operator are numbered in the order in which they were set; its name number 0
is the one it had before the first. -/
structure ModuleHistory where
  /-- `getNodeOperatorsCount()` -/
  count : ℕ → ℕ
  count_mono : Monotone count
  /-- the names of an operator -/
  name : ℕ → ℕ → String
  /-- the number of the name of an operator -/
  version : ℕ → ℕ → ℕ
  version_mono : ∀ operatorId, Monotone (version operatorId)

/-- The name in `getOperatorMetadata(operatorId)` at the end of a block. -/
def ModuleHistory.nameAt (h : ModuleHistory) (operatorId block : ℕ) : String :=
  h.name operatorId (h.version operatorId block)

/-! ### The adapter -/

/-- The events that the processors of the caches do not ignore. -/
inductive ModuleEvent where
  | nodeOperatorAdded (nodeOperatorId : ℕ)
  | operatorMetadataSet (nodeOperatorId : ℕ) (name : String)

/-- The methods of the adapter that read through the caches. -/
inductive Call where
  | isValidOperatorId (operatorId : ℤ)
  | nodeOperatorsCount
  | nodeOperatorLabel (operatorId : ℕ)
  | nodeOperatorOptions
deriving DecidableEq

/-- What the methods return. -/
inductive Result where
  | valid (valid : Bool)
  | count (count : ℕ)
  | label (label : String)
  | options (options : List (ℕ × String))
deriving DecidableEq

/-- What a method has to read. -/
inductive Read where
  | count
  /-- the labels of some operators, one after the other -/
  | labels (operatorIds : List ℕ)

/-- `name or None` -/
def orNone (name : String) : Option String :=
  if name = "" then none else some name

/-- The label of an operator. -/
def formatNodeOperatorLabel (operatorId : ℕ) (name : Option String) : String :=
  match orNone (name.getD "") with
  | none => "#" ++ toString operatorId
  | some name => "#" ++ toString operatorId ++ " - " ++ name

/-- The caches of an adapter. -/
structure CuratedModuleAdapter where
  nodeOperatorsCountCache : Option ℕ
  nodeOperatorLabelCache : Dict ℕ String

namespace CuratedModuleAdapter

/-- A new adapter. -/
def new : CuratedModuleAdapter where
  nodeOperatorsCountCache := none
  nodeOperatorLabelCache := Dict.empty

/-- The label of an operator is cached. -/
def HasLabel (adapter : CuratedModuleAdapter) (operatorId : ℕ) : Prop :=
  (adapter.nodeOperatorLabelCache.get? operatorId).isSome = true

instance (adapter : CuratedModuleAdapter) (operatorId : ℕ) :
    Decidable (adapter.HasLabel operatorId) :=
  inferInstanceAs (Decidable (_ = true))

/-- The end of `_fetch_node_operators_count` and its store. -/
def storeNodeOperatorsCount (adapter : CuratedModuleAdapter) (count : ℕ) :
    CuratedModuleAdapter :=
  { adapter with nodeOperatorsCountCache := some count }

/-- `remember_node_operator_added` -/
def rememberNodeOperatorAdded (adapter : CuratedModuleAdapter) (operatorId : ℕ) :
    CuratedModuleAdapter :=
  { adapter with
    nodeOperatorsCountCache :=
      some (max (adapter.nodeOperatorsCountCache.getD 0) (operatorId + 1)) }

/-- `remember_node_operator_label`, and the store of `_fetch_node_operator_label`. -/
def rememberNodeOperatorLabel (adapter : CuratedModuleAdapter) (operatorId : ℕ)
    (name : Option String) :
    CuratedModuleAdapter :=
  { adapter with
    nodeOperatorLabelCache :=
      adapter.nodeOperatorLabelCache.set operatorId (formatNodeOperatorLabel operatorId name) }

/-- `CuratedMetadataCacheProcessor.process_event` -/
def curatedMetadataCacheProcessor (adapter : CuratedModuleAdapter) :
    ModuleEvent → CuratedModuleAdapter
  | .operatorMetadataSet nodeOperatorId name =>
      adapter.rememberNodeOperatorLabel nodeOperatorId (orNone name)
  | .nodeOperatorAdded _ => adapter

/-- `NodeOperatorCountProcessor.process_event` -/
def nodeOperatorCountProcessor (adapter : CuratedModuleAdapter) :
    ModuleEvent → CuratedModuleAdapter
  | .nodeOperatorAdded nodeOperatorId => adapter.rememberNodeOperatorAdded nodeOperatorId
  | .operatorMetadataSet _ _ => adapter

/-- `ModuleEventSideEffects.process_event` -/
def processEvent (adapter : CuratedModuleAdapter) (event : ModuleEvent) :
    CuratedModuleAdapter :=
  (adapter.curatedMetadataCacheProcessor event).nodeOperatorCountProcessor event

/-- The operators whose labels `node_operator_options` fetches. -/
def missingLabelIds (adapter : CuratedModuleAdapter) (count : ℕ) : List ℕ :=
  (List.range count).filter fun operatorId => ¬ adapter.HasLabel operatorId

/-- What a method has to read next, `none` when the caches have what it returns. -/
def pending (adapter : CuratedModuleAdapter) : Call → Option Read
  | .isValidOperatorId operatorId =>
      -- the comparison is chained: a negative identifier is rejected without a read
      if 0 ≤ operatorId ∧ adapter.nodeOperatorsCountCache = none then some .count else none
  | .nodeOperatorsCount => if adapter.nodeOperatorsCountCache = none then some .count else none
  | .nodeOperatorLabel operatorId =>
      if adapter.HasLabel operatorId then none else some (.labels [operatorId])
  | .nodeOperatorOptions =>
      match adapter.nodeOperatorsCountCache with
      | none => some .count
      | some count =>
          if adapter.missingLabelIds count = [] then none
          else some (.labels (adapter.missingLabelIds count))

/-- The cached label of an operator, or the label without a name. -/
def labelOrDefault (adapter : CuratedModuleAdapter) (operatorId : ℕ) : String :=
  adapter.nodeOperatorLabelCache.getD operatorId (formatNodeOperatorLabel operatorId none)

/-- What a method returns once it has nothing more to read. -/
def result (adapter : CuratedModuleAdapter) : Call → Result
  | .isValidOperatorId operatorId =>
      .valid (decide (0 ≤ operatorId ∧
        operatorId < (adapter.nodeOperatorsCountCache.getD 0 : ℕ)))
  | .nodeOperatorsCount => .count (adapter.nodeOperatorsCountCache.getD 0)
  | .nodeOperatorLabel operatorId => .label (adapter.labelOrDefault operatorId)
  | .nodeOperatorOptions =>
      .options ((List.range (adapter.nodeOperatorsCountCache.getD 0)).map fun operatorId =>
        (operatorId, adapter.labelOrDefault operatorId))

/-- What a method returns at once, `none` when it has to read. -/
def answer (adapter : CuratedModuleAdapter) (call : Call) : Option Result :=
  match adapter.pending call with
  | none => some (adapter.result call)
  | some _ => none

end CuratedModuleAdapter

/-! ### The log of the chain -/

/-- An entry of the log of the chain, with the block that it is in. -/
inductive Log where
  | nodeOperatorAdded (nodeOperatorId block : ℕ)
  /-- the name of an operator is set to the one with the number `version` -/
  | operatorMetadataSet (nodeOperatorId version block : ℕ)
deriving DecidableEq

namespace Log

/-- The block of an entry. -/
def block : Log → ℕ
  | nodeOperatorAdded _ block | operatorMetadataSet _ _ block => block

/-- The event that an entry is decoded to. -/
def event (h : ModuleHistory) : Log → ModuleEvent
  | nodeOperatorAdded nodeOperatorId _ => .nodeOperatorAdded nodeOperatorId
  | operatorMetadataSet nodeOperatorId version _ =>
      .operatorMetadataSet nodeOperatorId (h.name nodeOperatorId version)

/-- The contracts emit an entry in the block in which they change. -/
def Emitted (h : ModuleHistory) : Log → Prop
  | nodeOperatorAdded nodeOperatorId block =>
      nodeOperatorId < h.count block ∧ ∀ b < block, h.count b ≤ nodeOperatorId
  | operatorMetadataSet nodeOperatorId version block =>
      version ≤ h.version nodeOperatorId block ∧
        ∀ b < block, h.version nodeOperatorId b < version

instance (h : ModuleHistory) : DecidablePred (Emitted h)
  | nodeOperatorAdded nodeOperatorId block =>
      inferInstanceAs (Decidable (nodeOperatorId < h.count block ∧ ∀ b < block, _))
  | operatorMetadataSet nodeOperatorId version block =>
      inferInstanceAs (Decidable (version ≤ h.version nodeOperatorId block ∧ ∀ b < block, _))

/-- The entry says that an operator was added. -/
def Adds : Log → Prop
  | nodeOperatorAdded _ _ => True
  | operatorMetadataSet _ _ _ => False

/-- The entry says that the name of an operator was set. -/
def Renames (operatorId : ℕ) : Log → Prop
  | nodeOperatorAdded _ _ => False
  | operatorMetadataSet nodeOperatorId _ _ => nodeOperatorId = operatorId

instance : DecidablePred Adds
  | nodeOperatorAdded _ _ => inferInstanceAs (Decidable True)
  | operatorMetadataSet _ _ _ => inferInstanceAs (Decidable False)

instance (operatorId : ℕ) : DecidablePred (Renames operatorId)
  | nodeOperatorAdded _ _ => inferInstanceAs (Decidable False)
  | operatorMetadataSet _ _ _ => inferInstanceAs (Decidable (_ = _))

end Log

/-! ### The tasks -/

/-- Where a task is in a method of the adapter. -/
inductive Reader where
  /-- outside of the methods; the last one returned, or raised -/
  | idle (result : Option Result)
  /-- awaits the connection in `async with self.chain`, from inside `outer` other blocks -/
  | entering (call : Call) (read : Read) (outer : ℕ)
  /-- awaits `getNodeOperatorsCount()`, called when the chain was at the block `issued` -/
  | fetchingCount (call : Call) (issued : ℕ)
  /-- awaits `getOperatorMetadata(operatorId)`, with the operators `rest` still to read -/
  | fetchingLabel (call : Call) (operatorId : ℕ) (rest : List ℕ) (issued : ℕ)

/-- The chain, the caches, and the log entries whose events were processed. -/
structure Known where
  head : ℕ
  adapter : CuratedModuleAdapter
  processed : List Log

/-- The adapter and the tasks that use it. -/
structure State (Task : Type*) where
  known : Known
  chain : SharedChainConnection Task
  reader : Task → Reader

/-- What happens, from one await to the next. -/
inductive Action (Task : Type*) where
  /-- the chain gets a block -/
  | block
  /-- the event of a log entry is processed -/
  | event (log : Log)
  /-- a task calls a method of the adapter -/
  | call (task : Task) (call : Call)
  /-- the node answers the read of a task with what the contracts say at a block -/
  | answered (task : Task) (block : ℕ)
  /-- the read of a task raises -/
  | failed (task : Task)
  /-- a task is cancelled in its read -/
  | cancelled (task : Task)
  /-- a task goes on in the connection, or uses it for other reads -/
  | chain (action : ChainAction Task)

namespace State

variable {Task : Type*}

/-- Nothing was read or processed yet. -/
def initial : State Task where
  known := { head := 0, adapter := .new, processed := [] }
  chain := .new
  reader _ := .idle none

variable [DecidableEq Task]

/-- A task moves on to another place. -/
def goto (s : State Task) (task : Task) (reader : Reader) : State Task :=
  { s with reader := Function.update s.reader task reader }

/-- A task leaves the block of its reads and the method. -/
def leave (s : State Task) (task : Task) (result : Option Result) : State Task :=
  { s with chain := s.chain.aexit task }.goto task (.idle result)

/-- The loop of `node_operator_options` over the labels to fetch: a label that is cached by
now is not read. -/
def fetchLabels (s : State Task) (task : Task) (call : Call) : List ℕ → State Task
  | [] => s.leave task (some (s.known.adapter.result call))
  | operatorId :: rest =>
      if s.known.adapter.HasLabel operatorId then s.fetchLabels task call rest
      else s.goto task (.fetchingLabel call operatorId rest s.known.head)

/-- What a task that entered the connection does first. -/
def issue (s : State Task) (task : Task) (call : Call) : Read → State Task
  | .count => s.goto task (.fetchingCount call s.known.head)
  | .labels operatorIds => s.fetchLabels task call operatorIds

/-- A task that awaits the connection goes on when the connection returns or raises. -/
def goOn (s : State Task) (task : Task) : State Task :=
  match s.reader task with
  | .entering call read outer =>
      if s.chain.control task = .running then
        if outer < s.chain.entries task then s.issue task call read
        else s.goto task (.idle none)
      else s
  | .idle _ | .fetchingCount _ _ | .fetchingLabel _ _ _ _ => s

/-- `async with self.chain` -/
def acquire (s : State Task) (task : Task) (call : Call) (read : Read) : State Task :=
  ({ s with chain := s.chain.aenter task }.goto task
    (.entering call read (s.chain.entries task))).goOn task

/-- A method until its first await that waits. -/
def begin (s : State Task) (task : Task) (call : Call) : State Task :=
  match s.known.adapter.pending call with
  | none => s.goto task (.idle (some (s.known.adapter.result call)))
  | some read => s.acquire task call read

/-- The caches change. -/
def setAdapter (s : State Task) (adapter : CuratedModuleAdapter) : State Task :=
  { s with known := { s.known with adapter := adapter } }

/-- The answer to the read of the number of operators is stored, and the method goes on
outside of the block. -/
def receivedCount (s : State Task) (task : Task) (call : Call) (count : ℕ) : State Task :=
  { s.setAdapter (s.known.adapter.storeNodeOperatorsCount count) with
    chain := s.chain.aexit task }.begin task call

/-- The answer to the read of a label is stored, and the loop goes on. -/
def receivedLabel (s : State Task) (task : Task) (call : Call) (operatorId : ℕ)
    (rest : List ℕ) (name : String) :
    State Task :=
  (s.setAdapter (s.known.adapter.rememberNodeOperatorLabel operatorId (orNone name))).fetchLabels
    task call rest

/-- The read of a label raises: the label without a name is returned, and not stored. -/
def failedLabel (s : State Task) (task : Task) (call : Call) (operatorId : ℕ)
    (rest : List ℕ) :
    State Task :=
  match call with
  | .nodeOperatorLabel _ =>
      s.leave task (some (.label (formatNodeOperatorLabel operatorId none)))
  | .isValidOperatorId _ | .nodeOperatorsCount | .nodeOperatorOptions =>
      s.fetchLabels task call rest

/-- One step. -/
def step (h : ModuleHistory) (s : State Task) : Action Task → Option (State Task)
  | .block => some { s with known := { s.known with head := s.known.head + 1 } }
  | .event log =>
      if log.Emitted h ∧ log.block ≤ s.known.head then
        some { s with known := { s.known with
          adapter := s.known.adapter.processEvent (log.event h)
          processed := log :: s.known.processed } }
      else none
  | .call task call =>
      match s.reader task with
      | .idle _ => if s.chain.control task = .running then some (s.begin task call) else none
      | _ => none
  | .answered task block =>
      match s.reader task with
      | .fetchingCount call issued =>
          if issued ≤ block ∧ block ≤ s.known.head then
            some (s.receivedCount task call (h.count block))
          else none
      | .fetchingLabel call operatorId rest issued =>
          if issued ≤ block ∧ block ≤ s.known.head then
            some (s.receivedLabel task call operatorId rest (h.nameAt operatorId block))
          else none
      | _ => none
  | .failed task =>
      match s.reader task with
      | .fetchingCount _ _ => some (s.leave task none)
      | .fetchingLabel call operatorId rest _ => some (s.failedLabel task call operatorId rest)
      | _ => none
  | .cancelled task =>
      match s.reader task with
      | .fetchingCount _ _ | .fetchingLabel _ _ _ _ => some (s.leave task none)
      | _ => none
  | .chain action =>
      match s.reader action.task with
      | .idle _ | .entering _ _ _ =>
          (s.chain.step action).map fun chain => { s with chain := chain }.goOn action.task
      | _ => none

end State

end Sentinel.Operators
