import Sentinel.Models
import Mathlib.Algebra.Order.Field.Rat
import Mathlib.Data.Finset.Sort
import Mathlib.Data.String.Basic

/-!
# Event logs

Events come from logs on two paths. Live, a subscription of each event source hands on the
events of the logs that the node sends. In a backfill, the reader requests the logs of each
source in batches of blocks. The node applies the address and the topics of a filter, and
decoding is a function of the ABI of an event and the log.
-/

namespace Sentinel

/-- The ABI of an event: its name and what decoding reads. -/
structure EventAbi (ι : Type) where
  name : String
  inputs : ι

/-- A log: what the filters of nodes and the handlers read of it, and its data. -/
structure LogReceipt (τ δ : Type) where
  address : ChecksumAddress
  topics : List τ
  blockNumber : ℕ
  removed : Bool
  data : δ

/-- A contract whose events are followed. -/
structure EventSource where
  name : String
  address : ChecksumAddress
  eventNames : Option (Finset String)
  predicate : Option (Event → Bool)

/-- A topic in a filter. -/
inductive TopicFilter (τ : Type) where
  | one (topic : τ)
  | anyOf (topics : List τ)

/-- The filter of a request for logs. -/
structure FilterParams (τ : Type) where
  address : ChecksumAddress
  topics : Option (List (TopicFilter τ))

/-- Why no events are returned: the stop event is set, or an error is raised. -/
inductive Interrupt where
  | stopped
  | runtimeError (message : String)
  | indexError
  | rpcError (message : String)

variable {τ ι δ : Type} [DecidableEq τ]

/-! ### Nodes -/

namespace TopicFilter

/-- The topic meets the filter. -/
def admits : TopicFilter τ → τ → Bool
  | one topic, t => t = topic
  | anyOf topics, t => t ∈ topics

/-- The topics of a log meet the filter of each position. -/
def admitsAll : List (TopicFilter τ) → List τ → Bool
  | [], _ => true
  | filter :: filters, t :: topics => filter.admits t && admitsAll filters topics
  | _ :: _, [] => false

end TopicFilter

/-- A node finds the log under the filter. -/
def FilterParams.admits (f : FilterParams τ) (log : LogReceipt τ δ) : Bool :=
  log.address = f.address && f.topics.all fun filters => TopicFilter.admitsAll filters log.topics

/-- The logs of a chain, in the order of its blocks. -/
structure ChainLogs (τ δ : Type) where
  logs : List (LogReceipt τ δ)
  ordered : OrderedBy LogReceipt.blockNumber logs
  topics_ne_nil : ∀ log ∈ logs, log.topics ≠ []
  not_removed : ∀ log ∈ logs, log.removed = false

namespace ChainLogs

/-- The logs of a range of blocks. -/
def range (chain : ChainLogs τ δ) (startBlock endBlock : ℕ) : List (LogReceipt τ δ) :=
  chain.logs.filter fun log => startBlock ≤ log.blockNumber ∧ log.blockNumber ≤ endBlock

/-- `eth_getLogs` -/
def getLogs (chain : ChainLogs τ δ) (f : FilterParams τ) (fromBlock toBlock : ℕ) :
    List (LogReceipt τ δ) :=
  (chain.range fromBlock toBlock).filter f.admits

end ChainLogs

/-! ### Filters -/

/-- `topic_filter_for_events` -/
def topicFilterForEvents (abiByTopics : Dict τ (EventAbi ι)) (eventNames : Finset String) :
    Except Interrupt (List (TopicFilter τ)) :=
  let topics := (abiByTopics.items.filter fun item => item.2.name ∈ eventNames).map (·.1)
  match topics with
  | [] => .error (.runtimeError ("No ABI topics configured for events: ["
      ++ ", ".intercalate ((eventNames.sort (· ≤ ·)).map Python.reprText) ++ "]"))
  | [topic] => .ok [.one topic]
  | topics => .ok [.anyOf topics]

/-- `log_filter_for_source` -/
def logFilterForSource (source : EventSource) (abiByTopics : Dict τ (EventAbi ι)) :
    Except Interrupt (Option (FilterParams τ)) :=
  match source.eventNames with
  | none => .ok (some ⟨source.address, none⟩)
  | some eventNames =>
      if eventNames = ∅ then .ok none
      else do
        let topics ← topicFilterForEvents abiByTopics eventNames
        return some ⟨source.address, some topics⟩

/-! ### The live path -/

/-- A subscription to the logs of a source. -/
structure LogsSubscription (τ : Type) where
  filter : FilterParams τ
  predicate : Option (Event → Bool)

/-- `_build_subscriptions`, without the subscription to new heads. -/
def buildSubscriptions (abiByTopics : Dict τ (EventAbi ι)) :
    List EventSource → Except Interrupt (List (LogsSubscription τ))
  | [] => .ok []
  | source :: sources => do
      match ← logFilterForSource source abiByTopics with
      | none => buildSubscriptions abiByTopics sources
      | some filter =>
          let subscriptions ← buildSubscriptions abiByTopics sources
          return ⟨filter, source.predicate⟩ :: subscriptions

section Live

variable (decode : EventAbi ι → LogReceipt τ δ → Event) (abiByTopics : Dict τ (EventAbi ι))

/-- `_handle_event_log_subscription`: the event that is handed on, if any. -/
def LogsSubscription.handle (s : LogsSubscription τ) (log : LogReceipt τ δ) :
    Except Interrupt (Option Event) :=
  if log.removed then .ok none
  else
    match log.topics with
    | [] => .error .indexError
    | topic :: _ =>
        match abiByTopics.get? topic with
        | none => .ok none
        | some eventAbi =>
            let event := decode eventAbi log
            if s.predicate.any fun predicate => !predicate event then .ok none
            else .ok (some event)

/-- What a subscription hands on of the logs that the node sends to it. -/
def LogsSubscription.handAll (s : LogsSubscription τ) :
    List (LogReceipt τ δ) → Except Interrupt (List Event)
  | [] => .ok []
  | log :: logs => do
      if s.filter.admits log then
        let event ← s.handle decode abiByTopics log
        let events ← s.handAll logs
        return event.toList ++ events
      else s.handAll logs

end Live

/-! ### The backfill path -/

/-- What the awaits of a reader meet, moment by moment: whether the stop event is set and the
provider connected, the error that a call of the provider raises, and the time of the loop. -/
structure Environment where
  stopSet : ℕ → Bool
  connected : ℕ → Bool
  failure : ℕ → Option String
  time : ℕ → ℚ

/-- The moment that a reader has come to, and the time of its last request. -/
structure ReaderState where
  moment : ℕ
  lastRequestTs : Option ℚ

/-- What a reader does until it is interrupted. -/
abbrev Fetch :=
  StateT ReaderState (Except Interrupt)

namespace Fetch

variable (env : Environment)

/-- Wait for something. -/
def await : Fetch Unit :=
  modify fun s => { s with moment := s.moment + 1 }

/-- Stop when the stop event is set. -/
def stopIfSet : Fetch Unit := do
  if env.stopSet (← get).moment then throw .stopped

/-- The result of a call of the provider, unless it raises. -/
def result {α : Type} (a : α) : Fetch α := do
  match env.failure (← get).moment with
  | some message => throw (.rpcError message)
  | none => return a

/-- `_run_or_stop` -/
def runOrStop {α : Type} (a : α) : Fetch α := do
  stopIfSet env
  await
  stopIfSet env
  result env a

/-- `connected_w3` -/
def connectedW3 : Fetch Unit := do
  stopIfSet env
  await
  let connected ← result env (env.connected (← get).moment)
  if !connected then runOrStop env ()

/-- `throttle` -/
def throttle (requestIntervalSeconds : Option ℚ) : Fetch Unit := do
  match requestIntervalSeconds with
  | none => return
  | some interval =>
      let now := env.time (← get).moment
      match (← get).lastRequestTs with
      | none => modify fun s => { s with lastRequestTs := some now }
      | some last =>
          if interval - (now - last) > 0 then
            await
            stopIfSet env
            modify fun s => { s with lastRequestTs := some (env.time s.moment) }
          else modify fun s => { s with lastRequestTs := some now }

end Fetch

structure Web3EventLogReader (τ ι : Type) where
  eventSources : List EventSource
  abiByTopics : Dict τ (EventAbi ι)
  requestIntervalSeconds : Option ℚ
  blockBatchSize : Option ℕ
  blockBatchSize_pos : ∀ n, blockBatchSize = some n → 1 ≤ n

/-- `range(start, stop, step)` for a positive step. -/
def steps (start stop step : ℕ) : List ℕ :=
  if _h : start < stop ∧ 0 < step then start :: steps (start + step) stop step else []
  termination_by stop - start

namespace Web3EventLogReader

open Fetch

variable (decode : EventAbi ι → LogReceipt τ δ → Event) (chain : ChainLogs τ δ)
  (env : Environment) (r : Web3EventLogReader τ ι)

/-- `_block_ranges` -/
def blockRanges (startBlock endBlock : ℕ) : List (ℕ × ℕ) :=
  let batchSize := r.blockBatchSize.getD (max (endBlock + 1 - startBlock) 1)
  (steps startBlock (endBlock + 1) batchSize).map fun batchStart =>
    (batchStart, min (batchStart + batchSize - 1) endBlock)

/-- `get_logs` -/
def getLogs (f : FilterParams τ) (fromBlock toBlock : ℕ) : Fetch (List (LogReceipt τ δ)) := do
  stopIfSet env
  throttle env r.requestIntervalSeconds
  runOrStop env (chain.getLogs f fromBlock toBlock)

/-- The events of a source among logs. -/
def sourceEvents (source : EventSource) :
    List (LogReceipt τ δ) → Except Interrupt (List Event)
  | [] => .ok []
  | log :: logs =>
      match log.topics with
      | [] => .error .indexError
      | topic :: _ =>
          match r.abiByTopics.get? topic with
          | none => sourceEvents source logs
          | some eventAbi =>
              if source.eventNames.any fun eventNames => eventAbi.name ∉ eventNames then
                sourceEvents source logs
              else
                let event := decode eventAbi log
                if source.predicate.any fun predicate => !predicate event then
                  sourceEvents source logs
                else do
                  let events ← sourceEvents source logs
                  return event :: events

/-- The events of a source in some ranges of blocks. -/
def fetchRanges (source : EventSource) (f : FilterParams τ) :
    List (ℕ × ℕ) → Fetch (List Event)
  | [] => return []
  | (batchStart, batchEnd) :: ranges => do
      let logs ← r.getLogs chain env f batchStart batchEnd
      let events ← r.sourceEvents decode source logs
      let events' ← fetchRanges source f ranges
      return events ++ events'

/-- The events of some sources. -/
def fetchSources (ranges : List (ℕ × ℕ)) : List EventSource → Fetch (List Event)
  | [] => return []
  | source :: sources => do
      match ← logFilterForSource source r.abiByTopics with
      | none => fetchSources ranges sources
      | some f =>
          let events ← r.fetchRanges decode chain env source f ranges
          let events' ← fetchSources ranges sources
          return events ++ events'

/-- The events of the blocks from `startBlock` to `endBlock`, sorted. -/
def fetchSorted (startBlock endBlock : ℕ) : Fetch (List Event) := do
  connectedW3 env
  let events ← r.fetchSources decode chain env (r.blockRanges startBlock endBlock) r.eventSources
  return sortBy Event.chainPosition events

/-- `fetch_events`: `none` when the reader was stopped. -/
def fetchEvents (startBlock endBlock : ℕ) (s : ReaderState) :
    Except Interrupt (Option (List Event)) :=
  match r.fetchSorted decode chain env startBlock endBlock s with
  | .ok (events, _) => .ok (some events)
  | .error .stopped => .ok none
  | .error e => .error e

end Web3EventLogReader

/-! ### Batches -/

/-- Of an ordered list, the members up to a bound come before those after it. -/
theorem filter_append_filter {α : Type} {key : α → ℕ} {l : List α} (h : OrderedBy key l)
    {a m b : ℕ} (ham : a ≤ m + 1) (hmb : m ≤ b) :
  l.filter (fun x => a ≤ key x ∧ key x ≤ m) ++ l.filter (fun x => m + 1 ≤ key x ∧ key x ≤ b)
    = l.filter fun x => a ≤ key x ∧ key x ≤ b
  := by
  have hordered : OrderedBy (fun x => decide (m + 1 ≤ key x))
      (l.filter fun x => a ≤ key x ∧ key x ≤ b) := by
    apply (h.sublist List.filter_sublist).imp
    intro x y hxy
    by_cases hx : m + 1 ≤ key x
    · have hy : m + 1 ≤ key y := hx.trans hxy
      simp [hx, hy]
    · simp [hx]
  rw [hordered.eq_append, List.filter_filter, List.filter_filter]
  congr 1 <;>
  · apply List.filter_congr
    intro x _
    apply Bool.eq_iff_iff.mpr
    simp only [decide_eq_true_eq, Bool.and_eq_true, Bool.not_eq_true', decide_eq_false_iff_not]
    omega

omit [DecidableEq τ] in
/-- A range of blocks is empty when it ends before it starts. -/
theorem ChainLogs.range_eq_nil (chain : ChainLogs τ δ) {startBlock endBlock : ℕ}
    (h : endBlock < startBlock) :
  chain.range startBlock endBlock = []
  := by
  apply List.filter_eq_nil_iff.mpr
  intro log _
  simp only [decide_eq_true_eq]
  omega

omit [DecidableEq τ] in
/-- The batches of a range of blocks make up the range. -/
theorem ChainLogs.flatMap_steps (chain : ChainLogs τ δ) (startBlock endBlock : ℕ) {step : ℕ}
    (hstep : 0 < step) :
  ((steps startBlock (endBlock + 1) step).flatMap fun batchStart =>
      chain.range batchStart (min (batchStart + step - 1) endBlock))
    = chain.range startBlock endBlock
  := by
  fun_induction steps startBlock (endBlock + 1) step with
  | case1 startBlock h ih =>
      rw [List.flatMap_cons, ih]
      by_cases hlast : startBlock + step ≤ endBlock
      · have hmin : min (startBlock + step - 1) endBlock = startBlock + step - 1 := by omega
        have hnext : startBlock + step - 1 + 1 = startBlock + step := by omega
        have happend := filter_append_filter chain.ordered (a := startBlock)
          (m := startBlock + step - 1) (b := endBlock) (by omega) (by omega)
        rw [hnext] at happend
        rw [hmin]
        apply happend
      · -- this batch is the last one
        have hmin : min (startBlock + step - 1) endBlock = endBlock := by omega
        have hrest : chain.range (startBlock + step) endBlock = [] := by
          apply chain.range_eq_nil
          omega
        rw [hmin, hrest, List.append_nil]
  | case2 startBlock h =>
      rw [chain.range_eq_nil (by omega)]
      rfl

/-! ### One log -/

/-- A topic that meets the filter for some events is the topic of one of them. -/
theorem exists_of_admitsAll {abiByTopics : Dict τ (EventAbi ι)} {eventNames : Finset String}
    {filters : List (TopicFilter τ)}
    (hfilters : topicFilterForEvents abiByTopics eventNames = .ok filters) {topic : τ}
    {topics : List τ} (h : TopicFilter.admitsAll filters (topic :: topics) = true) :
  ∃ eventAbi, (topic, eventAbi) ∈ abiByTopics.items ∧ eventAbi.name ∈ eventNames
  := by
  have hmem : topic ∈
      (abiByTopics.items.filter fun item => decide (item.2.name ∈ eventNames)).map (·.1) := by
    simp only [topicFilterForEvents] at hfilters
    split at hfilters
    · contradiction
    · next topic' htopics =>
        obtain rfl := Except.ok.inj hfilters
        simp only [TopicFilter.admitsAll, TopicFilter.admits, Bool.and_true,
          decide_eq_true_eq] at h
        rw [htopics, h]
        apply List.mem_cons_self
    · obtain rfl := Except.ok.inj hfilters
      simpa only [TopicFilter.admitsAll, TopicFilter.admits, Bool.and_true,
        decide_eq_true_eq] using h
  obtain ⟨item, hitem, rfl⟩ := List.mem_map.mp hmem
  use item.2, List.mem_of_mem_filter hitem
  simpa only [decide_eq_true_eq] using List.of_mem_filter hitem

/-- The name of an event whose log a node finds for a source is a name of the source. -/
theorem name_mem_of_admits {source : EventSource} {abiByTopics : Dict τ (EventAbi ι)}
    {f : FilterParams τ} (hf : logFilterForSource source abiByTopics = .ok (some f))
    {log : LogReceipt τ δ} (hlog : f.admits log = true) {topic : τ} {topics : List τ}
    (htopics : log.topics = topic :: topics) {eventAbi : EventAbi ι}
    (habi : abiByTopics.get? topic = some eventAbi) {eventNames : Finset String}
    (hnames : source.eventNames = some eventNames) :
  eventAbi.name ∈ eventNames
  := by
  simp only [logFilterForSource, hnames] at hf
  split at hf
  · cases hf
  · cases hfilters : topicFilterForEvents abiByTopics eventNames with
    | error e =>
        rw [hfilters] at hf
        contradiction
    | ok filters =>
        rw [hfilters] at hf
        obtain rfl := Option.some.inj (Except.ok.inj hf)
        simp only [FilterParams.admits, htopics, Option.all_some, Bool.and_eq_true] at hlog
        obtain ⟨eventAbi', hitem, hname⟩ := exists_of_admitsAll hfilters hlog.2
        rw [abiByTopics.eq_of_mem (Dict.get?_eq_some_iff.mp habi) hitem]
        apply hname

omit [DecidableEq τ] in
/-- A source without a filter raises an error of its own. -/
theorem exists_of_logFilterForSource_eq_error {source : EventSource}
    {abiByTopics : Dict τ (EventAbi ι)} {e : Interrupt}
    (h : logFilterForSource source abiByTopics = .error e) :
  ∃ message, e = .runtimeError message
  := by
  simp only [logFilterForSource] at h
  split at h
  · contradiction
  · split at h
    · contradiction
    · next eventNames _ _ =>
        simp only [topicFilterForEvents] at h
        split at h
        · obtain rfl := Except.error.inj h
          exact ⟨_, rfl⟩
        · contradiction
        · contradiction

section Handed

variable (decode : EventAbi ι → LogReceipt τ δ → Event) (abiByTopics : Dict τ (EventAbi ι))

/-- The event that a subscription hands on of a log, if the node sends the log to it. -/
def LogsSubscription.handed (s : LogsSubscription τ) (log : LogReceipt τ δ) : Option Event :=
  if s.filter.admits log then
    ((log.topics.head?.bind abiByTopics.get?).map fun eventAbi => decode eventAbi log).filter
      fun event => s.predicate.all fun predicate => predicate event
  else none

/-- A log that has topics and is not removed is handled. -/
theorem LogsSubscription.handle_eq_ok (s : LogsSubscription τ) {log : LogReceipt τ δ}
    (hadmits : s.filter.admits log = true) (htopics : log.topics ≠ [])
    (hremoved : log.removed = false) :
  s.handle decode abiByTopics log = .ok (s.handed decode abiByTopics log)
  := by
  obtain ⟨topic, topics, htopics⟩ := List.exists_cons_of_ne_nil htopics
  simp only [handle, handed, hadmits, hremoved, htopics, List.head?_cons, Option.bind_some,
    if_true, Bool.false_eq_true, if_false]
  cases abiByTopics.get? topic with
  | none => rfl
  | some eventAbi =>
      cases s.predicate with
      | none => rfl
      | some predicate =>
          cases h : predicate (decode eventAbi log) <;> simp [h, Option.filter_some]

/-- Logs that have topics and are not removed are all handled. -/
theorem LogsSubscription.handAll_eq_ok (s : LogsSubscription τ) {logs : List (LogReceipt τ δ)}
    (htopics : ∀ log ∈ logs, log.topics ≠ []) (hremoved : ∀ log ∈ logs, log.removed = false) :
  s.handAll decode abiByTopics logs = .ok (logs.filterMap (s.handed decode abiByTopics))
  := by
  induction logs with
  | nil => rfl
  | cons log logs ih =>
      rw [List.forall_mem_cons] at htopics hremoved
      rw [handAll, ih htopics.2 hremoved.2, List.filterMap_cons]
      by_cases hadmits : s.filter.admits log = true
      · rw [if_pos hadmits, s.handle_eq_ok decode abiByTopics hadmits htopics.1 hremoved.1]
        cases s.handed decode abiByTopics log <;> rfl
      · simp [handed, hadmits]

/-- The reader gets of the logs that a node finds for a source the events that the subscription
of the source hands on. -/
theorem Web3EventLogReader.sourceEvents_eq_ok (r : Web3EventLogReader τ ι) {source : EventSource}
    {f : FilterParams τ} (hf : logFilterForSource source r.abiByTopics = .ok (some f))
    {logs : List (LogReceipt τ δ)} (htopics : ∀ log ∈ logs, log.topics ≠ []) :
  r.sourceEvents decode source (logs.filter f.admits)
    = .ok (logs.filterMap
        (LogsSubscription.handed decode r.abiByTopics ⟨f, source.predicate⟩))
  := by
  induction logs with
  | nil => rfl
  | cons log logs ih =>
      rw [List.forall_mem_cons] at htopics
      obtain ⟨topic, topics, hlog⟩ := List.exists_cons_of_ne_nil htopics.1
      by_cases hadmits : f.admits log = true
      · rw [List.filter_cons_of_pos hadmits, List.filterMap_cons, sourceEvents, hlog]
        simp only [LogsSubscription.handed, hadmits, hlog, List.head?_cons, Option.bind_some,
          if_true]
        cases habi : r.abiByTopics.get? topic with
        | none => apply ih htopics.2
        | some eventAbi =>
            have hnames : (source.eventNames.any fun eventNames =>
                decide (eventAbi.name ∉ eventNames)) = false := by
              rw [Option.any_eq_false]
              intro eventNames heventNames
              simpa using name_mem_of_admits hf hadmits hlog habi heventNames
            simp only [hnames, ih htopics.2, Bool.false_eq_true, if_false]
            cases source.predicate with
            | none => rfl
            | some predicate =>
                cases h : predicate (decode eventAbi log) <;> simp [h, Option.filter_some]
      · rw [List.filter_cons_of_neg hadmits, List.filterMap_cons, ih htopics.2]
        simp [LogsSubscription.handed, hadmits]

end Handed

/-! ### What reading yields -/

/-- Why a reader is interrupted from a moment on: the stop event is set, a call of the provider
fails, or there is an error that does not depend on the environment. -/
inductive Interrupt.Explained (env : Environment) (raised : String → Prop) (n : ℕ) :
    Interrupt → Prop where
  | stopped {m : ℕ} (hm : n ≤ m) (h : env.stopSet m = true) : Explained env raised n .stopped
  | rpcError {m : ℕ} {message : String} (hm : n ≤ m) (h : env.failure m = some message) :
      Explained env raised n (.rpcError message)
  | runtimeError {message : String} (h : raised message) :
      Explained env raised n (.runtimeError message)

/-- What happens later happens from an earlier moment on. -/
theorem Interrupt.Explained.mono {env : Environment} {raised raised' : String → Prop} {n n' : ℕ}
    {e : Interrupt} (h : e.Explained env raised n') (hn : n ≤ n')
    (hraised : ∀ message, raised message → raised' message) :
  e.Explained env raised' n
  := by
  cases h with
  | stopped hm h => apply stopped (hn.trans hm) h
  | rpcError hm h => apply rpcError (hn.trans hm) h
  | runtimeError h => apply runtimeError (hraised _ h)

namespace Fetch

/-- What a reader yields, unless it is interrupted for a reason. -/
def Yields {α : Type} (env : Environment) (raised : String → Prop) (x : Fetch α) (P : α → Prop) :
    Prop :=
  ∀ s, match x s with
    | .ok (a, s') => P a ∧ s.moment ≤ s'.moment
    | .error e => e.Explained env raised s.moment

variable {α β : Type} {env : Environment} {raised : String → Prop} {P : α → Prop} {Q : β → Prop}

theorem yields_pure {a : α} (h : P a) :
  Yields env raised (pure a) P
  := fun _ => ⟨h, le_rfl⟩

/-- One after the other. -/
theorem Yields.bind {x : Fetch α} {f : α → Fetch β} (h : Yields env raised x P)
    (hf : ∀ a, P a → Yields env raised (f a) Q) :
  Yields env raised (x >>= f) Q
  := by
  intro s
  have hx := h s
  change match x s >>= fun p => f p.1 p.2 with
    | .ok (b, s') => Q b ∧ s.moment ≤ s'.moment
    | .error e => e.Explained env raised s.moment
  cases hresult : x s with
  | error e =>
      rw [hresult] at hx
      apply hx
  | ok p =>
      rw [hresult] at hx
      have hy := hf p.1 hx.1 p.2
      change match f p.1 p.2 with
        | .ok (b, s') => Q b ∧ s.moment ≤ s'.moment
        | .error e => e.Explained env raised s.moment
      cases hresult' : f p.1 p.2 with
      | error e =>
          rw [hresult'] at hy
          apply hy.mono hx.2
          intro _ h
          apply h
      | ok q =>
          rw [hresult'] at hy
          use hy.1, hx.2.trans hy.2

/-- Less may be said of what is yielded, and more errors allowed. -/
theorem Yields.mono {x : Fetch α} {P' : α → Prop} {raised' : String → Prop}
    (h : Yields env raised x P) (hP : ∀ a, P a → P' a)
    (hraised : ∀ message, raised message → raised' message) :
  Yields env raised' x P'
  := by
  intro s
  have hx := h s
  cases hresult : x s with
  | error e =>
      rw [hresult] at hx
      apply hx.mono le_rfl hraised
  | ok p =>
      rw [hresult] at hx
      exact ⟨hP _ hx.1, hx.2⟩

/-- Waiting takes time. -/
theorem yields_await :
  Yields env raised await fun _ => True
  := fun s => ⟨trivial, Nat.le_succ s.moment⟩

/-- `stopIfSet` at a state. -/
theorem stopIfSet_eq (s : ReaderState) :
  stopIfSet env s = if env.stopSet s.moment then .error .stopped else .ok ((), s)
  := by
  change (if env.stopSet s.moment then throw Interrupt.stopped else pure () : Fetch Unit) s = _
  split
  · rfl
  · rfl

/-- `result` at a state. -/
theorem result_eq (a : α) (s : ReaderState) :
  result env a s = match env.failure s.moment with
    | some message => .error (.rpcError message)
    | none => .ok (a, s)
  := by
  change (match env.failure s.moment with
    | some message => throw (Interrupt.rpcError message)
    | none => pure a : Fetch α) s = _
  cases env.failure s.moment with
  | none => rfl
  | some message => rfl

/-- A reader stops only when the stop event is set. -/
theorem yields_stopIfSet :
  Yields env raised (stopIfSet env) fun _ => True
  := by
  intro s
  rw [stopIfSet_eq]
  by_cases h : env.stopSet s.moment = true
  · rw [if_pos h]
    apply Interrupt.Explained.stopped le_rfl h
  · rw [if_neg h]
    exact ⟨trivial, le_rfl⟩

/-- A call of the provider fails only with its own error. -/
theorem yields_result (a : α) :
  Yields env raised (result env a) fun b => b = a
  := by
  intro s
  rw [result_eq]
  cases h : env.failure s.moment with
  | none => exact ⟨rfl, le_rfl⟩
  | some message => apply Interrupt.Explained.rpcError le_rfl h

/-- Reading the state. -/
theorem yields_get_bind {f : ReaderState → Fetch β} (h : ∀ s, Yields env raised (f s) Q) :
  Yields env raised (get >>= f) Q
  := fun s => h s s

/-- Changing the time of the last request. -/
theorem yields_modify {f : ReaderState → ReaderState} (h : ∀ s, s.moment ≤ (f s).moment) :
  Yields env raised (modify f) fun _ => True
  := fun s => ⟨trivial, h s⟩

/-- `_run_or_stop` yields the result of the call. -/
theorem yields_runOrStop (a : α) :
  Yields env raised (runOrStop env a) fun b => b = a
  := by
  apply yields_stopIfSet.bind
  intro _ _
  apply yields_await.bind
  intro _ _
  apply yields_stopIfSet.bind
  intro _ _
  apply yields_result

/-- `connected_w3` -/
theorem yields_connectedW3 :
  Yields env raised (connectedW3 env) fun _ => True
  := by
  apply yields_stopIfSet.bind
  intro _ _
  apply yields_await.bind
  intro _ _
  apply yields_get_bind
  intro s
  apply (yields_result _).bind
  rintro _ rfl
  cases env.connected s.moment with
  | true => apply yields_pure trivial
  | false =>
      apply (yields_runOrStop ()).mono
      · intro _ _
        trivial
      · intro _ h
        apply h

/-- `throttle` -/
theorem yields_throttle (requestIntervalSeconds : Option ℚ) :
  Yields env raised (throttle env requestIntervalSeconds) fun _ => True
  := by
  cases requestIntervalSeconds with
  | none => apply yields_pure trivial
  | some interval =>
      apply yields_get_bind
      intro s
      apply yields_get_bind
      intro s'
      have hset (f : ReaderState → Option ℚ) : Yields env raised
          (modify fun s => { s with lastRequestTs := f s }) fun _ => True := by
        apply yields_modify
        intro _
        rfl
      cases s'.lastRequestTs with
      | none => apply hset
      | some last =>
          by_cases hwait : interval - (env.time s.moment - last) > 0
          · simp only [if_pos hwait]
            apply yields_await.bind
            intro _ _
            apply yields_stopIfSet.bind
            intro _ _
            apply hset
          · simp only [if_neg hwait]
            apply hset

end Fetch

namespace Web3EventLogReader

open Fetch

variable (decode : EventAbi ι → LogReceipt τ δ → Event) (chain : ChainLogs τ δ)
  (env : Environment) (r : Web3EventLogReader τ ι)

omit [DecidableEq τ] in
/-- The logs of a range have topics. -/
theorem topics_ne_nil_of_mem_range {startBlock endBlock : ℕ} :
  ∀ log ∈ chain.range startBlock endBlock, log.topics ≠ []
  := by
  intro log hlog
  apply chain.topics_ne_nil log (List.mem_of_mem_filter hlog)

/-- `get_logs` yields what the node finds. -/
theorem yields_getLogs {raised : String → Prop} (f : FilterParams τ) (fromBlock toBlock : ℕ) :
  Yields env raised (r.getLogs chain env f fromBlock toBlock)
    fun logs => logs = chain.getLogs f fromBlock toBlock
  := by
  apply yields_stopIfSet.bind
  intro _ _
  apply (yields_throttle _).bind
  intro _ _
  apply yields_runOrStop

/-- The events of a source in some ranges are those that its subscription hands on there. -/
theorem yields_fetchRanges {raised : String → Prop} {source : EventSource} {f : FilterParams τ}
    (hf : logFilterForSource source r.abiByTopics = .ok (some f)) (ranges : List (ℕ × ℕ)) :
  Yields env raised (r.fetchRanges decode chain env source f ranges)
    fun events => events = (ranges.flatMap fun batch => chain.range batch.1 batch.2).filterMap
      (LogsSubscription.handed decode r.abiByTopics ⟨f, source.predicate⟩)
  := by
  induction ranges with
  | nil =>
      unfold fetchRanges
      exact yields_pure rfl
  | cons batch ranges ih =>
      apply (r.yields_getLogs chain env f batch.1 batch.2).bind
      rintro _ rfl
      have hevents : Yields env raised
          (monadLift (r.sourceEvents decode source (chain.getLogs f batch.1 batch.2)))
          fun events => events = (chain.range batch.1 batch.2).filterMap
            (LogsSubscription.handed decode r.abiByTopics ⟨f, source.predicate⟩) := by
        rw [ChainLogs.getLogs, r.sourceEvents_eq_ok decode hf (topics_ne_nil_of_mem_range chain)]
        exact yields_pure rfl
      apply hevents.bind
      rintro _ rfl
      apply ih.bind
      rintro _ rfl
      apply yields_pure
      rw [List.flatMap_cons, List.filterMap_append]

omit [DecidableEq τ] in
/-- The batches of `_block_ranges` make up the range of blocks. -/
theorem flatMap_blockRanges (startBlock endBlock : ℕ) :
  (r.blockRanges startBlock endBlock).flatMap (fun batch => chain.range batch.1 batch.2)
    = chain.range startBlock endBlock
  := by
  have hstep : 0 < r.blockBatchSize.getD (max (endBlock + 1 - startBlock) 1) := by
    cases h : r.blockBatchSize with
    | none =>
        apply lt_max_of_lt_right Nat.one_pos
    | some n => apply r.blockBatchSize_pos n h
  rw [blockRanges, List.flatMap_map]
  apply chain.flatMap_steps startBlock endBlock hstep

/-- The events of some sources are those that the subscriptions built for them hand on. -/
theorem yields_fetchSources (startBlock endBlock : ℕ) (sources : List EventSource) :
  Yields env
    (fun message => buildSubscriptions r.abiByTopics sources = .error (.runtimeError message))
    (r.fetchSources decode chain env (r.blockRanges startBlock endBlock) sources)
    fun events => ∃ subscriptions,
      buildSubscriptions r.abiByTopics sources = .ok subscriptions ∧
      events = subscriptions.flatMap fun s =>
        (chain.range startBlock endBlock).filterMap (s.handed decode r.abiByTopics)
  := by
  induction sources with
  | nil =>
      unfold fetchSources
      apply yields_pure
      use [], rfl
      rfl
  | cons source sources ih =>
      unfold fetchSources
      cases hf : logFilterForSource source r.abiByTopics with
      | error e =>
          obtain ⟨message, rfl⟩ := exists_of_logFilterForSource_eq_error hf
          have hbuilt : buildSubscriptions r.abiByTopics (source :: sources)
              = .error (.runtimeError message) := by
            rw [buildSubscriptions, hf]
            rfl
          intro s
          apply Interrupt.Explained.runtimeError hbuilt
      | ok filter =>
          cases filter with
          | none =>
              have hbuilt : buildSubscriptions r.abiByTopics (source :: sources)
                  = buildSubscriptions r.abiByTopics sources := by
                rw [buildSubscriptions, hf]
                rfl
              rw [hbuilt]
              apply ih
          | some f =>
              have hbuilt : buildSubscriptions r.abiByTopics (source :: sources)
                  = (buildSubscriptions r.abiByTopics sources).map
                      (⟨f, source.predicate⟩ :: ·) := by
                rw [buildSubscriptions, hf]
                cases buildSubscriptions r.abiByTopics sources <;> rfl
              rw [hbuilt]
              change Yields env _ (do
                let events ← r.fetchRanges decode chain env source f
                  (r.blockRanges startBlock endBlock)
                let events' ← r.fetchSources decode chain env (r.blockRanges startBlock endBlock)
                  sources
                return events ++ events') _
              apply (r.yields_fetchRanges decode chain env hf _).bind
              rintro _ rfl
              apply (ih.mono (fun _ h => h) _).bind
              · rintro _ ⟨subscriptions, hsubscriptions, rfl⟩
                apply yields_pure
                rw [hsubscriptions]
                use ⟨f, source.predicate⟩ :: subscriptions, rfl
                rw [List.flatMap_cons, flatMap_blockRanges]
              · intro message hmessage
                rw [hmessage]
                rfl

/-- `fetch_events` returns the sorted events that the subscriptions hand on of the logs of the
range, and is interrupted only for a reason. -/
theorem yields_fetchSorted (startBlock endBlock : ℕ) :
  Yields env
    (fun message => buildSubscriptions r.abiByTopics r.eventSources
      = .error (.runtimeError message))
    (r.fetchSorted decode chain env startBlock endBlock)
    fun events => ∃ subscriptions handed,
      buildSubscriptions r.abiByTopics r.eventSources = .ok subscriptions ∧
      (subscriptions.mapM fun s => s.handAll decode r.abiByTopics (chain.range startBlock endBlock))
        = .ok handed ∧
      events = sortBy Event.chainPosition handed.flatten
  := by
  apply yields_connectedW3.bind
  intro _ _
  apply (r.yields_fetchSources decode chain env startBlock endBlock r.eventSources).bind
  rintro _ ⟨subscriptions, hsubscriptions, rfl⟩
  apply yields_pure
  use subscriptions, subscriptions.map fun s =>
    (chain.range startBlock endBlock).filterMap (s.handed decode r.abiByTopics)
  use hsubscriptions
  constructor
  · have hhand : (fun s : LogsSubscription τ =>
          s.handAll decode r.abiByTopics (chain.range startBlock endBlock))
        = fun s => pure
            ((chain.range startBlock endBlock).filterMap (s.handed decode r.abiByTopics)) := by
      funext s
      apply s.handAll_eq_ok decode r.abiByTopics (topics_ne_nil_of_mem_range chain)
      intro log hlog
      apply chain.not_removed log (List.mem_of_mem_filter hlog)
    rw [hhand, List.mapM_pure]
    rfl
  · rw [List.flatMap_def]

/-- What `fetch_events` returns. -/
theorem fetchEvents_spec (startBlock endBlock : ℕ) (s : ReaderState) :
  match r.fetchEvents decode chain env startBlock endBlock s with
  | .ok (some events) => ∃ subscriptions handed,
      buildSubscriptions r.abiByTopics r.eventSources = .ok subscriptions ∧
      (subscriptions.mapM fun s => s.handAll decode r.abiByTopics (chain.range startBlock endBlock))
        = .ok handed ∧
      events = sortBy Event.chainPosition handed.flatten
  | .ok none => ∃ n, s.moment ≤ n ∧ env.stopSet n = true
  | .error e => e.Explained env
      (fun message => buildSubscriptions r.abiByTopics r.eventSources
        = .error (.runtimeError message)) s.moment
  := by
  have h := r.yields_fetchSorted decode chain env startBlock endBlock s
  rw [fetchEvents]
  cases hresult : r.fetchSorted decode chain env startBlock endBlock s with
  | ok p =>
      rw [hresult] at h
      apply h.1
  | error e =>
      rw [hresult] at h
      cases h with
      | stopped hm hstop => exact ⟨_, hm, hstop⟩
      | rpcError hm hfailure => apply Interrupt.Explained.rpcError hm hfailure
      | runtimeError hraised => apply Interrupt.Explained.runtimeError hraised

/-- The backfill path returns the events of the live path: source by source and as often, sorted
by their place in the chain, whatever the batch size. It returns nothing only when the stop event
is set, and raises only the error of a call of the provider or the one with which the
subscriptions are refused. -/
theorem fetchEvents_agrees_with_subscriptions (startBlock endBlock : ℕ) (s : ReaderState) :
  (match r.fetchEvents decode chain env startBlock endBlock s with
    | .ok (some events) => ∃ subscriptions handed,
        buildSubscriptions r.abiByTopics r.eventSources = .ok subscriptions ∧
        (subscriptions.mapM fun s =>
            s.handAll decode r.abiByTopics (chain.range startBlock endBlock)) = .ok handed ∧
        OrderedBy Event.chainPosition events ∧
        events = sortBy Event.chainPosition handed.flatten ∧
        events.Perm handed.flatten
    | .ok none => ∃ n, s.moment ≤ n ∧ env.stopSet n = true
    | .error e => e.Explained env
        (fun message => buildSubscriptions r.abiByTopics r.eventSources
          = .error (.runtimeError message)) s.moment) ∧
  ∀ (r' : Web3EventLogReader τ ι) (env' : Environment) (s' : ReaderState) (events events'),
    r'.eventSources = r.eventSources → r'.abiByTopics = r.abiByTopics →
    r.fetchEvents decode chain env startBlock endBlock s = .ok (some events) →
    r'.fetchEvents decode chain env' startBlock endBlock s' = .ok (some events') →
    events' = events
  := by
  have hspec := r.fetchEvents_spec decode chain env startBlock endBlock s
  constructor
  · split
    · next events hfetch =>
        rw [hfetch] at hspec
        obtain ⟨subscriptions, handed, hbuilt, hhanded, rfl⟩ := hspec
        use subscriptions, handed, hbuilt, hhanded
        use orderedBy_sortBy _ _, rfl
        apply sortBy_perm
    · next hfetch =>
        rw [hfetch] at hspec
        apply hspec
    · next e hfetch =>
        rw [hfetch] at hspec
        apply hspec
  · intro r' env' s' events events' hsources habis hfetch hfetch'
    have hspec' := r'.fetchEvents_spec decode chain env' startBlock endBlock s'
    rw [hfetch] at hspec
    rw [hfetch', hsources, habis] at hspec'
    obtain ⟨subscriptions, handed, hbuilt, hhanded, rfl⟩ := hspec
    obtain ⟨subscriptions', handed', hbuilt', hhanded', rfl⟩ := hspec'
    obtain rfl := Except.ok.inj (hbuilt'.symm.trans hbuilt)
    obtain rfl := Except.ok.inj (hhanded'.symm.trans hhanded)
    rfl

end Web3EventLogReader

end Sentinel
