import Sentinel.App.TelegramAdapters
import Sentinel.Loops
import Sentinel.Sorting
import Mathlib.Data.Rat.Floor
import Mathlib.Data.String.Basic
import Mathlib.Data.Sum.Order

/-!
# Distribution reports

A report of a distribution of rewards names a log, a JSON text which has, for each frame, the
node operators and the strikes of their validators. Each node operator with strikes gets a
message of its own, whether or not there were rewards. When there were rewards, the others get
the message about the rewards.
-/

namespace Sentinel

open Python

/-! ### Values of a log -/

/-- A number with a fraction or an exponent. -/
inductive LogFloat where
  | finite (q : ℚ)
  | infinite
  | nan

/-- A value of a log, which is a JSON text. -/
inductive LogValue where
  | null
  | bool (b : Bool)
  | int (n : ℤ)
  | float (x : LogFloat)
  | str (s : String)
  | list (values : List LogValue)
  | dict (items : List (String × LogValue))

namespace LogValue

/-- The truth value of a value. -/
def isTruthy : LogValue → Bool
  | null => false
  | bool b => b
  | int n => n ≠ 0
  | float (.finite q) => q ≠ 0
  | float _ => true
  | str s => s ≠ ""
  | list values => !values.isEmpty
  | dict items => !items.isEmpty

/-- A rational number without its fraction. -/
def truncate (q : ℚ) : ℤ :=
  if 0 ≤ q then ⌊q⌋ else ⌈q⌉

/-- `int(value)`, `none` where it raises. -/
def toInt : LogValue → Option ℤ
  | bool b => some (if b then 1 else 0)
  | int n => some n
  | float (.finite q) => some (truncate q)
  | str s => Python.int s
  | null | float _ | list _ | dict _ => none

/-- The values that a loop over a value goes through, `none` where it raises. -/
def iterate : LogValue → Option (List LogValue)
  | list values => some values
  | dict items => some (items.map fun item => .str item.1)
  | str s => some (s.toList.map fun c => .str (String.singleton c))
  | null | bool _ | int _ | float _ => none

/-- The items of the object at a key, none when there is no true value, `none` where it
raises. -/
def objectAt (key : String) : LogValue → Option (List (String × LogValue))
  | dict items =>
      match items.lookup key with
      | none => some []
      | some value =>
          if value.isTruthy then
            match value with
            | dict items => some items
            | _ => none
          else some []
  | _ => none

end LogValue

/-! ### Reading a log -/

/-- What a log says: its node operators, and the strikes of those that have any. -/
structure DistributionStrikeSummary where
  allOperatorIds : Finset String
  strikesPerOperator : Dict String (List (String × ℤ))

namespace DistributionLog

/-- The shares of the last fee of a report, `none` where it raises. -/
def distributionReportRewards (event : EventNotification) : Option ℤ := do
  let fee ← event.sourceEvents.reverse.find? fun e => e.event = "ModuleFeeDistributed"
  let shares ← fee.args.get? "shares"
  shares.toInt

/-- The key by which validators are sorted, `none` where it raises. -/
def validatorSortKey (validatorId : String) : Option (ℤ ⊕ₗ String) :=
  if isDigit validatorId then (int validatorId).map fun n => toLex (.inl n)
  else some (toLex (.inr validatorId))

/-- The frames of a log, `none` where it raises. -/
def distributionLogEntries (payload : LogValue) : Option (List LogValue) :=
  match payload with
  | .list values => some values
  | .dict items =>
      match items.lookup "frames" with
      | some frames => frames.iterate
      | none => some [payload]
  -- a text is looked for, or is a frame that has no operators to get: both raise
  | .null | .bool _ | .int _ | .float _ | .str _ => none

/-- The strikes of a validator, `none` where it raises. -/
def strikesOf : LogValue → Option ℤ
  | .dict items =>
      match items.lookup "strikes" with
      | none => some 0
      | some value => value.toInt
  | _ => none

/-- Add the strikes of a validator. -/
def addStrikes (operatorId : String) (strikesPerOperator : Dict String (List (String × ℤ)))
    (validator : String × LogValue) : Option (Dict String (List (String × ℤ))) := do
  let strikes ← strikesOf validator.2
  if strikes ≤ 0 then return strikesPerOperator
  else
    return strikesPerOperator.set operatorId
      (strikesPerOperator.getD operatorId [] ++ [(validator.1, strikes)])

/-- Add a node operator of a frame. -/
def addOperator (summary : DistributionStrikeSummary) (operator : String × LogValue) :
    Option DistributionStrikeSummary := do
  if isDecimal operator.1 then
    let validators ← operator.2.objectAt "validators"
    let strikesPerOperator ← validators.foldlM (addStrikes operator.1) summary.strikesPerOperator
    return ⟨insert operator.1 summary.allOperatorIds, strikesPerOperator⟩
  else none

/-- Add a frame. -/
def addEntry (summary : DistributionStrikeSummary) (entry : LogValue) :
    Option DistributionStrikeSummary := do
  let operators ← entry.objectAt "operators"
  operators.foldlM addOperator summary

/-- Read a log, `none` where it raises. -/
def parseDistributionLog (payload : LogValue) : Option DistributionStrikeSummary := do
  let entries ← distributionLogEntries payload
  entries.foldlM addEntry ⟨∅, .empty⟩

/-! ### What a log says -/

/-- The node operators of the frames of a log, each with the strikes of its validators. -/
abbrev Log :=
  List (String × List (String × ℤ))

/-- A node operator of a frame, `none` where it cannot be read. -/
def readOperator (operator : String × LogValue) : Option (String × List (String × ℤ)) := do
  if isDecimal operator.1 then
    let validators ← operator.2.objectAt "validators"
    let strikes ← validators.mapM fun validator =>
      (strikesOf validator.2).map fun strikes => (validator.1, strikes)
    return (operator.1, strikes)
  else none

/-- The node operators of a frame, `none` where it cannot be read. -/
def readEntry (entry : LogValue) : Option Log := do
  let operators ← entry.objectAt "operators"
  operators.mapM readOperator

/-- The node operators of a log, `none` where it cannot be read. -/
def readLog (payload : LogValue) : Option Log := do
  let entries ← distributionLogEntries payload
  let frames ← entries.mapM readEntry
  return frames.flatten

namespace Log

/-- The node operators of a log. -/
def operatorIds (log : Log) : Finset String :=
  (log.map Prod.fst).toFinset

/-- The validators of a node operator with a positive strike count in some frame. -/
def flagged (log : Log) (operatorId : String) : List (String × ℤ) :=
  (log.filter fun operator => operator.1 = operatorId).flatMap fun operator =>
    operator.2.filter fun validator => 0 < validator.2

/-- The node operators that have a validator with a positive strike count. -/
def flaggedIds (log : Log) : Finset String :=
  log.operatorIds.filter fun id => log.flagged id ≠ []

/-- A node operator with strikes is one of the log. -/
theorem mem_operatorIds_of_flagged {log : Log} {operatorId : String}
    (h : log.flagged operatorId ≠ []) :
  operatorId ∈ log.operatorIds
  := by
  obtain ⟨validator, hvalidator⟩ := List.exists_mem_of_ne_nil _ h
  obtain ⟨operator, hoperator, -⟩ := List.mem_flatMap.mp hvalidator
  obtain ⟨hmem, hid⟩ := List.mem_filter.mp hoperator
  apply List.mem_toFinset.mpr
  apply List.mem_map.mpr ⟨operator, hmem, of_decide_eq_true hid⟩

theorem mem_flaggedIds {log : Log} {operatorId : String} :
  operatorId ∈ log.flaggedIds ↔ log.flagged operatorId ≠ []
  := by
  rw [flaggedIds, Finset.mem_filter]
  constructor
  · exact fun h => h.2
  · exact fun h => ⟨mem_operatorIds_of_flagged h, h⟩

end Log

/-! ### The summary of a log -/

/-- Add the strikes that were read for a validator. -/
def putStrikes (operatorId : String) (strikesPerOperator : Dict String (List (String × ℤ)))
    (validator : String × ℤ) : Dict String (List (String × ℤ)) :=
  if validator.2 ≤ 0 then strikesPerOperator
  else strikesPerOperator.set operatorId (strikesPerOperator.getD operatorId [] ++ [validator])

/-- Add a node operator that was read. -/
def putOperator (summary : DistributionStrikeSummary)
    (operator : String × List (String × ℤ)) : DistributionStrikeSummary where
  allOperatorIds := insert operator.1 summary.allOperatorIds
  strikesPerOperator := operator.2.foldl (putStrikes operator.1) summary.strikesPerOperator

/-- The summary of a log. -/
def summarise (log : Log) : DistributionStrikeSummary :=
  log.foldl putOperator ⟨∅, .empty⟩

theorem addOperator_eq (summary : DistributionStrikeSummary) (operator : String × LogValue) :
  addOperator summary operator = (readOperator operator).map (putOperator summary)
  := by
  have hstrikes : ∀ d validator, addStrikes operator.1 d validator
      = ((strikesOf validator.2).map fun strikes => (validator.1, strikes)).map
        (putStrikes operator.1 d) := by
    intro d validator
    rw [addStrikes]
    cases strikesOf validator.2 with
    | none => rfl
    | some strikes =>
        simp only [Option.bind_eq_bind, Option.bind_some, Option.map_some, putStrikes]
        split <;> rfl
  rw [addOperator, readOperator]
  split
  · cases operator.2.objectAt "validators" with
    | none => rfl
    | some validators =>
        simp only [Option.bind_eq_bind, Option.bind_some]
        rw [Loops.foldlM_eq_map_mapM hstrikes]
        cases validators.mapM fun validator =>
          (strikesOf validator.2).map fun strikes => (validator.1, strikes) <;> rfl
  · rfl

/-- Reading a log stops where the log cannot be read, and otherwise gives its summary. -/
theorem parseDistributionLog_eq (payload : LogValue) :
  parseDistributionLog payload = (readLog payload).map summarise
  := by
  have hentry : ∀ summary entry,
      addEntry summary entry
        = (readEntry entry).map fun read => read.foldl putOperator summary := by
    intro summary entry
    rw [addEntry, readEntry]
    cases entry.objectAt "operators" with
    | none => rfl
    | some operators => apply Loops.foldlM_eq_map_mapM addOperator_eq
  rw [parseDistributionLog, readLog]
  cases distributionLogEntries payload with
  | none => rfl
  | some entries =>
      simp only [Option.bind_eq_bind, Option.bind_some]
      rw [Loops.foldlM_eq_map_mapM hentry]
      cases entries.mapM readEntry with
      | none => rfl
      | some frames =>
          simp only [Option.map_some, Option.bind_some, Option.pure_def, summarise,
            List.foldl_flatten]

/-- The three shapes of a log: a frame, a list of frames, and an object with frames. -/
theorem distributionLogEntries_shapes (frames : List LogValue)
    (items : List (String × LogValue)) :
  distributionLogEntries (.list frames) = some frames
    ∧ distributionLogEntries (.dict (("frames", .list frames) :: items)) = some frames
    ∧ (items.lookup "frames" = none → distributionLogEntries (.dict items) = some [.dict items])
  := by
  refine ⟨rfl, rfl, ?_⟩
  intro hnone
  rw [distributionLogEntries, hnone]

/-- The strikes of an operator after those of its validators in a frame are added. -/
theorem get?_foldl_putStrikes (operatorId : String) (validators : List (String × ℤ))
    (d : Dict String (List (String × ℤ))) (id : String) :
  (validators.foldl (putStrikes operatorId) d).get? id
    = if id = operatorId ∧ (validators.filter fun validator => 0 < validator.2) ≠ [] then
        some (d.getD id [] ++ validators.filter fun validator => 0 < validator.2)
      else d.get? id
  := by
  induction validators generalizing d with
  | nil => simp
  | cons validator validators ih =>
      rw [List.foldl_cons, ih, putStrikes]
      by_cases hpositive : 0 < validator.2
      · rw [if_neg (not_le.mpr hpositive), Dict.getD, Dict.get?_set, List.filter_cons,
          if_pos (decide_eq_true hpositive)]
        by_cases hid : id = operatorId
        · subst hid
          cases hrest : validators.filter fun validator => 0 < validator.2 with
          | nil => simp
          | cons => simp
        · simp [hid]
      · have hskip : (validator :: validators).filter (fun validator => 0 < validator.2)
            = validators.filter fun validator => 0 < validator.2 := by
          rw [List.filter_cons, if_neg (by simpa using hpositive)]
        rw [if_pos (not_lt.mp hpositive), hskip]

/-- The summary has the node operators of a log, and the strikes of those that have any. -/
theorem get?_summarise (log : Log) (id : String) :
  (summarise log).allOperatorIds = log.operatorIds
    ∧ (summarise log).strikesPerOperator.get? id
      = if log.flagged id ≠ [] then some (log.flagged id) else none
  := by
  induction log using List.reverseRecOn with
  | nil => exact ⟨rfl, rfl⟩
  | append_singleton log operator ih =>
      rw [summarise, List.foldl_append, List.foldl_cons, List.foldl_nil, ← summarise]
      constructor
      · rw [putOperator, ih.1, Log.operatorIds, Log.operatorIds]
        ext id
        simp
      · have hflagged : Log.flagged (log ++ [operator]) id
            = Log.flagged log id ++ if operator.1 = id then
                operator.2.filter fun validator => 0 < validator.2
              else [] := by
          rw [Log.flagged, List.filter_append, List.flatMap_append, ← Log.flagged]
          by_cases hid : operator.1 = id <;> simp [hid]
        rw [putOperator, get?_foldl_putStrikes, Dict.getD, ih.2, hflagged]
        by_cases hid : operator.1 = id
        · rw [if_pos hid]
          subst hid
          by_cases hnew : (operator.2.filter fun validator => 0 < validator.2) = []
          · simp [hnew]
          · by_cases hold : Log.flagged log operator.1 = [] <;> simp [hnew, hold]
        · simp [hid, Ne.symm hid]

/-! ### The messages about a report -/

/-- How a module shows a node operator of a log. -/
inductive OperatorLabel where
  /-- by its id, as in the base module -/
  | id
  /-- by the label of its number, as in the curated module -/
  | named (label : ℤ → String)

/-- The label of a node operator, `none` where it raises. -/
def OperatorLabel.of (label : OperatorLabel) (operatorId : String) : Option String :=
  match label with
  | .id => some operatorId
  | .named label => (int operatorId).map label

end DistributionLog

/-- What the handler of a module works with: the texts, the log of a CID, `none` where fetching
it raises, and the order in which sets are visited. -/
structure DistributionModule where
  baseMessage : String
  strikesMessage : String → List (String × ℤ) → Bool → String
  footer : EventNotification → String
  fetchDistributionLog : Value → Option LogValue
  operatorLabel : DistributionLog.OperatorLabel
  operatorOrder : SetOrder String

namespace DistributionModule

open DistributionLog

/-- The message that is not about strikes. -/
def fallbackMessage (m : DistributionModule) (event : EventNotification) : String :=
  m.baseMessage ++ m.footer event

/-- The truth value of an argument. -/
def isTruthy : Value → Bool
  | .int n => n ≠ 0
  | .str s => s ≠ ""
  | .bool b => b
  | .bytes b => !b.isEmpty
  | .list values => !values.isEmpty
  | .dict items => !items.isEmpty

/-- The log of a report, `none` where fetching it raises. -/
def fetchLog (m : DistributionModule) (event : EventNotification) : Option LogValue :=
  match event.primaryEvent.args.get? "logCid" with
  | none => none
  | some logCid => if isTruthy logCid then m.fetchDistributionLog logCid else none

/-- The validators with strikes by number, then the others by name, `none` where it raises. -/
def sortFlagged (flagged : List (String × ℤ)) : Option (List (String × ℤ)) :=
  (flagged.mapM fun item => (validatorSortKey item.1).map fun key => (key, item)).map
    fun keyed => (sortBy Prod.fst keyed).map Prod.snd

/-- The message about the strikes of a node operator, `none` where it raises. -/
def operatorMessage (m : DistributionModule) (event : EventNotification)
    (rewardsDistributed : Bool) (operatorId : String) (flagged : List (String × ℤ)) :
    Option String := do
  let flaggedSorted ← sortFlagged flagged
  let operatorLabel ← m.operatorLabel.of operatorId
  return m.strikesMessage operatorLabel flaggedSorted rewardsDistributed ++ m.footer event

/-- The messages about strikes, `none` where it raises. -/
def operatorMessages (m : DistributionModule) (event : EventNotification)
    (rewardsDistributed : Bool) (strikesPerOperator : Dict String (List (String × ℤ))) :
    Option (Dict String String) :=
  strikesPerOperator.items.foldlM (fun messages item =>
    (m.operatorMessage event rewardsDistributed item.1 item.2).map (messages.set item.1)) .empty

/-- The messages for a chat, `none` where it raises. -/
def render (m : DistributionModule) (event : EventNotification) (messages : Dict String String)
    (nodeOperatorIds : Finset String) : Option (List String) := do
  let keyed ← (m.operatorOrder.toList nodeOperatorIds).mapM fun id =>
    (int id).map fun n => (n, id)
  let found := ((sortBy Prod.fst keyed).map Prod.snd).filterMap messages.get?
  return if found = [] then [m.fallbackMessage event] else found

/-- The handler of a report, `none` where it raises. -/
def distributionLogUpdated (m : DistributionModule) (event : EventNotification) :
    Option HandlerResult := do
  let rewards ← distributionReportRewards event
  let rewardsDistributed := decide (rewards > 0)
  match (m.fetchLog event).bind parseDistributionLog with
  | none =>
      if !rewardsDistributed then return .nothing
      else return .plan (.broadcast (m.fallbackMessage event))
  | some summary => do
      let messages ← m.operatorMessages event rewardsDistributed summary.strikesPerOperator
      if !rewardsDistributed then
        if messages.items = [] then return .nothing
        else (NotificationPlan.perOperator messages).map .plan
      else if messages.items = [] then
        if summary.allOperatorIds.Nonempty then
          return .plan (.broadcastToOperators id (m.fallbackMessage event) summary.allOperatorIds)
        else return .plan (.broadcast (m.fallbackMessage event))
      else
        (NotificationPlan.perChat id summary.allOperatorIds (m.render event messages)).map .plan

/-! ### What the messages are -/

variable {m : DistributionModule} {event : EventNotification}

/-- The message about the strikes of a node operator of a log, `none` where it raises. -/
def messageFor (m : DistributionModule) (event : EventNotification) (rewardsDistributed : Bool)
    (log : Log) (operatorId : String) : Option String :=
  m.operatorMessage event rewardsDistributed operatorId (log.flagged operatorId)

/-- The node operators with strikes, in the order of the summary. -/
theorem items_strikesPerOperator (log : Log) :
  ∃ ids : List String, ids.Nodup ∧ (∀ id, id ∈ ids ↔ id ∈ log.flaggedIds)
    ∧ (summarise log).strikesPerOperator.items = ids.map fun id => (id, log.flagged id)
  := by
  have hitem : ∀ item ∈ (summarise log).strikesPerOperator.items,
      log.flagged item.1 ≠ [] ∧ log.flagged item.1 = item.2 := by
    intro item hmem
    have hget := Dict.get?_eq_some_iff.mpr hmem
    rw [(get?_summarise log item.1).2] at hget
    split at hget
    next hne => exact ⟨hne, Option.some.inj hget⟩
    next => cases hget
  refine ⟨_, (summarise log).strikesPerOperator.nodup, ?_, ?_⟩
  · intro id
    rw [Log.mem_flaggedIds]
    constructor
    · intro hmem
      obtain ⟨item, hmem, rfl⟩ := List.mem_map.mp hmem
      apply (hitem item ‹_›).1
    · intro hne
      have hget := (get?_summarise log id).2
      rw [if_pos hne] at hget
      apply List.mem_map.mpr ⟨_, Dict.get?_eq_some_iff.mp hget, rfl⟩
  · rw [List.map_map]
    apply Eq.symm
    apply List.map_congr_left (g := id) _ |>.trans (List.map_id _)
    intro item hmem
    exact Prod.ext rfl (hitem item hmem).2

/-- The messages are read for one node operator after the other. -/
theorem operatorMessages_eq (rewardsDistributed : Bool)
    (d : Dict String (List (String × ℤ))) :
  m.operatorMessages event rewardsDistributed d
    = (d.items.mapM fun item => (m.operatorMessage event rewardsDistributed item.1 item.2).map
        fun message => (item.1, message)).map
      fun pairs => pairs.foldl (fun messages pair => messages.set pair.1 pair.2) .empty
  := by
  apply Loops.foldlM_eq_map_mapM
  intro messages item
  rw [Option.map_map]
  rfl

/-- There is no message when one of the node operators has none. -/
theorem operatorMessages_eq_none_iff (rewardsDistributed : Bool) (log : Log) :
  m.operatorMessages event rewardsDistributed (summarise log).strikesPerOperator = none
    ↔ ∃ id ∈ log.flaggedIds, m.messageFor event rewardsDistributed log id = none
  := by
  obtain ⟨ids, -, hids, hitems⟩ := items_strikesPerOperator log
  rw [operatorMessages_eq, Option.map_eq_none_iff, Loops.mapM_eq_none_iff, hitems]
  simp only [List.mem_map, Option.map_eq_none_iff]
  constructor
  · rintro ⟨item, ⟨id, hid, rfl⟩, hnone⟩
    exact ⟨id, (hids id).mp hid, hnone⟩
  · rintro ⟨id, hid, hnone⟩
    exact ⟨_, ⟨id, (hids id).mpr hid, rfl⟩, hnone⟩

/-- The messages of the node operators with strikes. -/
theorem items_operatorMessages {rewardsDistributed : Bool} {log : Log}
    {messages : Dict String String}
    (h : m.operatorMessages event rewardsDistributed (summarise log).strikesPerOperator
      = some messages) :
  ∃ ids : List String, ids.Nodup ∧ (∀ id, id ∈ ids ↔ id ∈ log.flaggedIds)
    ∧ messages.items.map (fun item => (item.1, some item.2))
      = ids.map fun id => (id, m.messageFor event rewardsDistributed log id)
  := by
  obtain ⟨ids, hnodup, hids, hitems⟩ := items_strikesPerOperator log
  refine ⟨ids, hnodup, hids, ?_⟩
  rw [operatorMessages_eq, hitems] at h
  obtain ⟨pairs, hpairs, rfl⟩ := Option.map_eq_some_iff.mp h
  have hread := Loops.map_of_mapM_key hpairs
  rw [List.map_map] at hread
  have hkeys : pairs.map Prod.fst = ids := by
    have hfst := congrArg (List.map Prod.fst) hread
    rw [List.map_map, List.map_map] at hfst
    exact hfst.trans (List.map_id ids)
  rw [Dict.items_foldl_set]
  · exact hread
  · exact hkeys ▸ hnodup

/-- Of the messages of a summary, those of some node operators. -/
theorem map_filter_operatorMessages {rewardsDistributed : Bool} {log : Log}
    {messages : Dict String String}
    (h : m.operatorMessages event rewardsDistributed (summarise log).strikesPerOperator
      = some messages) (P : String → Prop) [DecidablePred P] :
  (((messages.items.filter fun item => P item.1).map fun item => some item.2 :
      List (Option String)) : Multiset (Option String))
    = (log.flaggedIds.filter P).val.map (m.messageFor event rewardsDistributed log)
  := by
  obtain ⟨ids, hnodup, hids, hitems⟩ := items_operatorMessages h
  have hlist : (messages.items.filter fun item => P item.1).map (fun item => some item.2)
      = (ids.filter P).map (m.messageFor event rewardsDistributed log) := by
    have hfilter := congrArg
      (fun pairs => (pairs.filter fun pair => P pair.1).map Prod.snd) hitems
    simpa [List.filter_map, Function.comp_def] using hfilter
  rw [hlist, ← Multiset.map_coe, coe_filter_eq_filter_val hnodup hids]

/-- The message of a node operator in the messages of a summary. -/
theorem get?_operatorMessages {rewardsDistributed : Bool} {log : Log}
    {messages : Dict String String}
    (h : m.operatorMessages event rewardsDistributed (summarise log).strikesPerOperator
      = some messages) (id : String) :
  messages.get? id
    = if id ∈ log.flaggedIds then m.messageFor event rewardsDistributed log id else none
  := by
  obtain ⟨ids, -, hids, hitems⟩ := items_operatorMessages h
  have hmem : ∀ message, (id, message) ∈ messages.items
      ↔ id ∈ ids ∧ m.messageFor event rewardsDistributed log id = some message := by
    intro message
    have hpair : (id, some message) ∈ messages.items.map (fun item => (item.1, some item.2))
        ↔ (id, message) ∈ messages.items := by
      simp
    rw [← hpair, hitems, List.mem_map]
    constructor
    · rintro ⟨id', hid', heq⟩
      obtain ⟨rfl, hmessage⟩ := Prod.mk.inj heq
      exact ⟨hid', hmessage⟩
    · rintro ⟨hid', hmessage⟩
      exact ⟨id, hid', by rw [hmessage]⟩
  apply Option.ext
  intro message
  rw [Dict.get?_eq_some_iff, hmem, hids]
  split <;> simp [*]

/-- There are messages when a node operator has strikes. -/
theorem operatorMessages_eq_nil_iff {rewardsDistributed : Bool} {log : Log}
    {messages : Dict String String}
    (h : m.operatorMessages event rewardsDistributed (summarise log).strikesPerOperator
      = some messages) :
  messages.items = [] ↔ log.flaggedIds = ∅
  := by
  obtain ⟨ids, -, hids, hitems⟩ := items_operatorMessages h
  have hlength : messages.items.length = ids.length := by
    have hlengths := congrArg List.length hitems
    simpa using hlengths
  rw [← List.length_eq_zero_iff, hlength, List.length_eq_zero_iff, List.eq_nil_iff_forall_not_mem,
    Finset.eq_empty_iff_forall_notMem]
  simp only [hids]

/-! ### Where the messages raise -/

/-- The numbers of a log that the handler reads can be read: those of the validators with strikes
that are written in digits, those of the node operators with strikes where they are shown by
label, and, when some get the message about the rewards only, those of all node operators. -/
structure Readable (m : DistributionModule) (rewards : ℤ) (log : Log) : Prop where
  validators : ∀ id ∈ log.flaggedIds, ∀ validator ∈ log.flagged id,
    isDigit validator.1 → (int validator.1).isSome
  labels : ∀ label, m.operatorLabel = .named label → ∀ id ∈ log.flaggedIds, (int id).isSome
  operators : 0 < rewards → log.flaggedIds.Nonempty → ∀ id ∈ log.operatorIds, (int id).isSome

/-- Sorting the validators raises where the number of one of them cannot be read. -/
theorem sortFlagged_eq_none_iff {flagged : List (String × ℤ)} :
  sortFlagged flagged = none
    ↔ ∃ validator ∈ flagged, isDigit validator.1 ∧ int validator.1 = none
  := by
  rw [sortFlagged, Option.map_eq_none_iff, Loops.mapM_eq_none_iff]
  simp only [Option.map_eq_none_iff, validatorSortKey]
  constructor
  · rintro ⟨validator, hmem, hnone⟩
    refine ⟨validator, hmem, ?_⟩
    split at hnone
    next hdigit => exact ⟨hdigit, Option.map_eq_none_iff.mp hnone⟩
    next => cases hnone
  · rintro ⟨validator, hmem, hdigit, hnone⟩
    refine ⟨validator, hmem, ?_⟩
    rw [if_pos hdigit, hnone]
    rfl

/-- The message of a node operator raises where one of its numbers cannot be read. -/
theorem messageFor_eq_none_iff {rewardsDistributed : Bool} {log : Log} {id : String} :
  m.messageFor event rewardsDistributed log id = none
    ↔ (∃ validator ∈ log.flagged id, isDigit validator.1 ∧ int validator.1 = none)
      ∨ ∃ label, m.operatorLabel = .named label ∧ int id = none
  := by
  rw [messageFor, operatorMessage, ← sortFlagged_eq_none_iff]
  cases sortFlagged (log.flagged id) with
  | none => simp
  | some flaggedSorted =>
      simp only [Option.bind_eq_bind, Option.bind_some, reduceCtorEq, false_or]
      cases m.operatorLabel with
      | id => simp [OperatorLabel.of]
      | named label =>
          cases hid : int id <;> simp [OperatorLabel.of, hid]

/-- No message raises when the numbers can be read, and conversely. -/
theorem forall_messageFor_iff {rewardsDistributed : Bool} {log : Log} :
  (∀ id ∈ log.flaggedIds, m.messageFor event rewardsDistributed log id ≠ none)
    ↔ (∀ id ∈ log.flaggedIds, ∀ validator ∈ log.flagged id,
        isDigit validator.1 → (int validator.1).isSome)
      ∧ ∀ label, m.operatorLabel = .named label → ∀ id ∈ log.flaggedIds, (int id).isSome
  := by
  simp only [ne_eq, messageFor_eq_none_iff, Option.isSome_iff_ne_none, not_or, not_exists,
    not_and]
  constructor
  · intro h
    exact ⟨fun id hid => (h id hid).1, fun label hlabel id hid => (h id hid).2 label hlabel⟩
  · rintro ⟨hvalidators, hlabels⟩ id hid
    exact ⟨hvalidators id hid, fun label hlabel => hlabels label hlabel id hid⟩

/-- Rendering raises where the number of a node operator cannot be read. -/
theorem render_eq_none_iff {messages : Dict String String} {ids : Finset String} :
  m.render event messages ids = none ↔ ∃ id ∈ ids, int id = none
  := by
  have hkeyed : (m.operatorOrder.toList ids).mapM (fun id => (int id).map fun n => (n, id)) = none
      ↔ ∃ id ∈ ids, int id = none := by
    rw [Loops.mapM_eq_none_iff]
    simp only [m.operatorOrder.mem_toList, Option.map_eq_none_iff]
  rw [← hkeyed, render]
  cases (m.operatorOrder.toList ids).mapM fun id => (int id).map fun n => (n, id) <;> simp

/-- The messages found for ids are those of the node operators with strikes among them. -/
theorem map_filterMap_get? {rewardsDistributed : Bool} {log : Log}
    {messages : Dict String String}
    (h : m.operatorMessages event rewardsDistributed (summarise log).strikesPerOperator
      = some messages) (ids : List String) :
  (ids.filterMap messages.get?).map some
    = (ids.filter (· ∈ log.flaggedIds)).map (m.messageFor event rewardsDistributed log)
  := by
  induction ids with
  | nil => rfl
  | cons id ids ih =>
      have hget := get?_operatorMessages h id
      rw [List.filterMap_cons, List.filter_cons]
      by_cases hid : id ∈ log.flaggedIds
      · rw [if_pos hid] at hget
        have hsome : messages.get? id ≠ none := by
          rw [hget]
          intro hnone
          have hall := (operatorMessages_eq_none_iff rewardsDistributed log).mpr ⟨id, hid, hnone⟩
          rw [hall] at h
          cases h
        obtain ⟨message, hmessage⟩ := Option.ne_none_iff_exists'.mp hsome
        rw [hmessage, if_pos (decide_eq_true hid), List.map_cons, List.map_cons, ih, ← hget,
          hmessage]
      · rw [hget, if_neg hid, if_neg (by simpa using hid)]
        apply ih

/-- What is rendered for node operators: their messages, or the message about the rewards when
they have none. -/
theorem render_eq {rewardsDistributed : Bool} {log : Log} {messages : Dict String String}
    (h : m.operatorMessages event rewardsDistributed (summarise log).strikesPerOperator
      = some messages) {ids : Finset String} {rendered : List String}
    (hrender : m.render event messages ids = some rendered) :
  ((rendered.map some : List (Option String)) : Multiset (Option String))
    = if ∃ id ∈ ids, id ∈ log.flaggedIds then
        (ids.filter (· ∈ log.flaggedIds)).val.map (m.messageFor event rewardsDistributed log)
      else {some (m.fallbackMessage event)}
  := by
  obtain ⟨keyed, hkeyed, hrendered⟩ := Option.bind_eq_some_iff.mp hrender
  obtain rfl := Option.some.inj hrendered
  have hids : keyed.map Prod.snd = m.operatorOrder.toList ids := Loops.map_snd_of_mapM hkeyed
  have hsorted : ((sortBy Prod.fst keyed).map Prod.snd).Perm (m.operatorOrder.toList ids) :=
    hids ▸ (sortBy_perm Prod.fst keyed).map Prod.snd
  have hmem : ∀ id, id ∈ (sortBy Prod.fst keyed).map Prod.snd ↔ id ∈ ids := by
    intro id
    rw [hsorted.mem_iff, m.operatorOrder.mem_toList]
  have hval := coe_filter_eq_filter_val
    (hsorted.nodup_iff.mpr (m.operatorOrder.nodup ids)) hmem (· ∈ log.flaggedIds)
  have hmessages := map_filterMap_get? h ((sortBy Prod.fst keyed).map Prod.snd)
  by_cases hflagged : ∃ id ∈ ids, id ∈ log.flaggedIds
  · obtain ⟨id, hid, hidflagged⟩ := hflagged
    have hne : ((sortBy Prod.fst keyed).map Prod.snd).filterMap messages.get? ≠ [] := by
      intro hnil
      rw [hnil, List.map_nil] at hmessages
      have hempty := List.map_eq_nil_iff.mp hmessages.symm
      have hfiltered : id ∈ ((sortBy Prod.fst keyed).map Prod.snd).filter
          (· ∈ log.flaggedIds) := by
        exact List.mem_filter.mpr ⟨(hmem id).mpr hid, decide_eq_true hidflagged⟩
      rw [hempty] at hfiltered
      cases hfiltered
    rw [if_neg hne, if_pos ⟨id, hid, hidflagged⟩, hmessages, ← Multiset.map_coe, hval]
  · have hempty : ids.filter (· ∈ log.flaggedIds) = ∅ := by
      apply Finset.filter_eq_empty_iff.mpr
      intro id hid hidflagged
      exact hflagged ⟨id, hid, hidflagged⟩
    rw [hempty, Finset.empty_val, Multiset.coe_eq_zero] at hval
    rw [hval, List.map_nil] at hmessages
    rw [if_pos (List.map_eq_nil_iff.mp hmessages), if_neg hflagged]
    rfl

/-! ### What each chat is due -/

/-- The messages about strikes that a chat is due, one for each node operator with strikes that
it follows. -/
def dueStrikes (m : DistributionModule) (event : EventNotification) (rewards : ℤ)
    (storage : BotStorage) (log : Log) (c : ℤ) : Multiset (Option String) :=
  (log.flaggedIds.filter fun id => storage.ActiveFollower id c).val.map
    (m.messageFor event (decide (rewards > 0)) log)

/-- Whether a chat is due the message about the rewards: there are rewards, and the log has no
node operators, or the chat follows some of them but none with strikes. -/
def DueRewards (rewards : ℤ) (storage : BotStorage) (log : Log) (c : ℤ) : Prop :=
  rewards > 0 ∧ (log.operatorIds = ∅ ∧ c ∈ storage.actualChatIds
    ∨ (∃ id ∈ log.operatorIds, storage.ActiveFollower id c)
      ∧ ∀ id ∈ log.flaggedIds, ¬ storage.ActiveFollower id c)

instance (rewards : ℤ) (storage : BotStorage) (log : Log) (c : ℤ) :
    Decidable (DueRewards rewards storage log c) :=
  inferInstanceAs (Decidable (_ ∧ _))

/-- The messages that a chat is due. A message is `none` where making it raises. -/
def due (m : DistributionModule) (event : EventNotification) (rewards : ℤ)
    (storage : BotStorage) (log : Option Log) (c : ℤ) : Multiset (Option String) :=
  match log with
  | none =>
      if rewards > 0 ∧ c ∈ storage.actualChatIds then {some (m.fallbackMessage event)} else 0
  | some log =>
      m.dueStrikes event rewards storage log c
        + if DueRewards rewards storage log c then {some (m.fallbackMessage event)} else 0

end DistributionModule

end Sentinel
