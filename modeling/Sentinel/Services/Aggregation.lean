import Sentinel.Storage.AggregationWindows

/-!
# The aggregation coordinator

The `AggregationCoordinator` puts each aggregated event into a pending window and flushes the
windows that end at or before a processed block: it aggregates a window, emits its
notifications one by one, and then discards it. The events of a window are in its persisted
record until all of its notifications are emitted, so an emission that raises, or a restart
of the process, loses none of them.

The steps of a `State` are the iterations of the flush loop and what happens between two
`await`s. One call is made at a time; the process may be restarted at any point.
-/

namespace Sentinel

open Transition

/-- The aggregators of a coordinator. -/
structure AggregationCoordinator where
  aggregators : List EventAggregator

namespace AggregationCoordinator

/-- The aggregators by the names of their groups. -/
def aggregatorsByGroup (coordinator : AggregationCoordinator) : Dict String EventAggregator :=
  .collect (fun aggregator => aggregator.group.name) coordinator.aggregators

/-- The aggregators by the names of their events, each with the name. -/
def aggregatorsByEvent (coordinator : AggregationCoordinator) :
    Dict String (String × EventAggregator) :=
  .collect Prod.fst <| coordinator.aggregators.flatMap fun aggregator =>
    (aggregator.eventNames.sort (· ≤ ·)).map fun name => (name, aggregator)

/-- The aggregator of an event name. -/
def aggregatorFor (coordinator : AggregationCoordinator) (eventName : String) :
    Option EventAggregator :=
  (coordinator.aggregatorsByEvent.get? eventName).map Prod.snd

/-- The aggregator of an event name has the name. -/
theorem mem_of_aggregatorFor {coordinator : AggregationCoordinator} {eventName : String}
    {aggregator : EventAggregator} (h : coordinator.aggregatorFor eventName = some aggregator) :
  aggregator ∈ coordinator.aggregators ∧ eventName ∈ aggregator.eventNames
  := by
  obtain ⟨⟨name, aggregator'⟩, hget, rfl⟩ := Option.map_eq_some_iff.mp h
  obtain ⟨hmem, rfl⟩ := Dict.mem_of_mem_collect (Dict.get?_eq_some_iff.mp hget)
  obtain ⟨aggregator, haggregator, hname⟩ := List.mem_flatMap.mp hmem
  obtain ⟨name', hname', heq⟩ := List.mem_map.mp hname
  cases heq
  use haggregator, (Finset.mem_sort _).mp hname'

/-- Every event name of an aggregator has an aggregator. -/
theorem exists_aggregatorFor {coordinator : AggregationCoordinator} {eventName : String}
    {aggregator : EventAggregator} (h : aggregator ∈ coordinator.aggregators)
    (hname : eventName ∈ aggregator.eventNames) :
  ∃ registered, coordinator.aggregatorFor eventName = some registered
  := by
  have hpair : (eventName, aggregator) ∈ coordinator.aggregators.flatMap fun aggregator =>
      (aggregator.eventNames.sort (· ≤ ·)).map fun name => (name, aggregator) := by
    apply List.mem_flatMap.mpr
    use aggregator, h
    apply List.mem_map_of_mem ((Finset.mem_sort _).mpr hname)
  obtain ⟨registered, hmem, hkey⟩ := Dict.exists_mem_values_collect Prod.fst hpair
  obtain ⟨⟨name, registered⟩, hitem, rfl⟩ := List.mem_map.mp hmem
  obtain ⟨-, rfl⟩ := Dict.mem_of_mem_collect hitem
  use registered.2
  simp only at hkey
  rw [hkey] at hitem
  rw [aggregatorFor, aggregatorsByEvent, Dict.get?_eq_some_iff.mpr hitem]
  rfl

/-- Every aggregator has its group registered. -/
theorem exists_aggregatorsByGroup {coordinator : AggregationCoordinator}
    {aggregator : EventAggregator} (h : aggregator ∈ coordinator.aggregators) :
  ∃ registered, coordinator.aggregatorsByGroup.get? aggregator.group.name = some registered
  := by
  obtain ⟨registered, hmem, hname⟩ := Dict.exists_mem_values_collect
    (fun aggregator : EventAggregator => aggregator.group.name) h
  obtain ⟨⟨name, registered⟩, hitem, rfl⟩ := List.mem_map.mp hmem
  obtain ⟨-, rfl⟩ := Dict.mem_of_mem_collect hitem
  use registered
  apply Dict.get?_eq_some_iff.mpr
  rw [← hname]
  apply hitem

/-! ### Preparing an event and choosing the windows to flush -/

/-- The window that takes an event: the first pending one of its group and key that contains
its block, or a new one. -/
def windowOf (store : AggregationWindowStore) (aggregator : EventAggregator) (e : Event) :
    Option AggregationWindow := do
  let key ← aggregator.aggregationKey e
  match store.pendingFor aggregator.group.name key e.block with
  | some window => some window
  | none => aggregator.windowFor e

/-- The notifications to emit for an event and the store after it, `none` where preparing the
event raises. -/
def prepare (coordinator : AggregationCoordinator) (store : AggregationWindowStore)
    (e : Event) : Option (List EventNotification × AggregationWindowStore) :=
  match coordinator.aggregatorFor e.event with
  | none => some ([.fromEvent e], store)
  | some aggregator =>
      (windowOf store aggregator e).map fun window =>
        ([], store.upsertPending (window.withEvent e))

/-- The order in which windows are flushed. -/
def flushKey (window : AggregationWindow) : ℕ ×ₗ ℕ ×ₗ String ×ₗ String ×ₗ String :=
  toLex (window.endBlock, toLex (window.startBlock, toLex (window.group,
    toLex (window.aggregationKey.kind, window.aggregationKey.value))))

/-- The pending windows that end at or before a block. -/
def readyWindows (store : AggregationWindowStore) (block : ℕ) : List AggregationWindow :=
  sortBy flushKey (store.pending.filter fun window => window.endBlock ≤ block)

/-! ### The steps of the coordinator -/

/-- What a call of the coordinator is at. -/
inductive Call where
  /-- `handle_event` awaits the emission of an event that is not aggregated -/
  | event (notification : EventNotification)
  /-- `handle_block` goes on with the windows that are left -/
  | loop (block : ℕ) (windows : List AggregationWindow)
  /-- `handle_block` awaits the emission of a notification of a window, more notifications
  and more windows are left -/
  | flush (block : ℕ) (window : AggregationWindow) (notification : EventNotification)
      (notifications : List EventNotification) (windows : List AggregationWindow)

/-- What a coordinator did. -/
inductive Effect where
  /-- an event was put into a window of a group and a key -/
  | accepted (group : String) (key : AggregationKey) (e : Event)
  /-- a notification was emitted -/
  | emitted (notification : EventNotification)
  /-- a window was discarded -/
  | discarded (window : AggregationWindow)
  /-- `handle_block` returned -/
  | returned (block : ℕ)

/-- The persisted windows, the call that is made, and what was done, newest first. -/
structure State where
  store : AggregationWindowStore
  call : Option Call
  history : List Effect

/-- What can happen next to a coordinator. -/
inductive Action where
  | handleEvent (e : Event)
  | handleBlock (block : ℕ)
  /-- the flush loop takes the next window -/
  | proceed
  /-- the awaited emission returns -/
  | emitted
  /-- the awaited emission raises -/
  | raised
  /-- the process is restarted over the same records -/
  | restarted

/-- What is noted of an aggregated event: its group and its key. -/
def acceptance (coordinator : AggregationCoordinator) (e : Event) : Option Effect := do
  let aggregator ← coordinator.aggregatorFor e.event
  let key ← aggregator.aggregationKey e
  return .accepted aggregator.group.name key e

/-- The coordinator before its first call, over some persisted records. -/
def start (records : Dict String WindowRecord) : State where
  store := .normaliseWindows records
  call := none
  history := []

/-- Discard the window that is flushed and go on with the windows that are left. -/
def State.discard (s : State) (block : ℕ) (window : AggregationWindow)
    (windows : List AggregationWindow) : State where
  store := s.store.discard window
  call := some (.loop block windows)
  history := .discarded window :: s.history

/-- One iteration of the flush loop, up to the first emission. -/
def flushNext (coordinator : AggregationCoordinator) (s : State) (block : ℕ) :
    List AggregationWindow → State
  | [] => { s with call := none, history := .returned block :: s.history }
  | window :: windows =>
      match coordinator.aggregatorsByGroup.get? window.group with
      | none => s.discard block window windows
      | some aggregator =>
          match aggregator.aggregate window.events with
          | none => { s with call := none }
          | some [] => s.discard block window windows
          | some (notification :: notifications) =>
              { s with call := some (.flush block window notification notifications windows) }

/-- A step of the coordinator, `none` where the call is not at it. -/
def step (coordinator : AggregationCoordinator) (s : State) : Action → Option State
  | .handleEvent e =>
      match s.call with
      | some _ => none
      | none =>
          match coordinator.prepare s.store e with
          | none => some s
          | some (notification :: _, _) => some { s with call := some (.event notification) }
          | some ([], store) =>
              some { s with
                store := store
                history := (coordinator.acceptance e).toList ++ s.history }
  | .handleBlock block =>
      match s.call with
      | some _ => none
      | none => some { s with call := some (.loop block (readyWindows s.store block)) }
  | .proceed =>
      match s.call with
      | some (.loop block windows) => some (coordinator.flushNext s block windows)
      | _ => none
  | .emitted =>
      match s.call with
      | some (.event notification) =>
          some { s with call := none, history := .emitted notification :: s.history }
      | some (.flush block window notification notifications windows) =>
          let s := { s with history := .emitted notification :: s.history }
          match notifications with
          | [] => some (s.discard block window windows)
          | next :: rest => some { s with call := some (.flush block window next rest windows) }
      | _ => none
  | .raised =>
      match s.call with
      | some (.event _) | some (.flush _ _ _ _ _) => some { s with call := none }
      | _ => none
  | .restarted => some { s with store := .normaliseWindows s.store.records, call := none }

/-! ### What a step can do -/

/-- The window `window` takes an event of a key: it is the first pending window of the group
and the key that contains the block of the event, or a new window that no pending window of
the group and the key makes unnecessary. -/
structure Takes (store : AggregationWindowStore) (aggregator : EventAggregator)
    (key : AggregationKey) (e : Event) (window : AggregationWindow) : Prop where
  group_eq : window.group = aggregator.group.name
  key_eq : window.aggregationKey = key
  contains : window.Contains e.block
  found : store.pendingFor aggregator.group.name key e.block = some window
    ∨ store.pendingFor aggregator.group.name key e.block = none ∧ window.events = []
      ∧ window.startBlock = e.block

/-- What a step does. -/
inductive StepTo (coordinator : AggregationCoordinator) (s : State) : Action → State → Prop
  | accepted (e : Event) (aggregator : EventAggregator) (key : AggregationKey)
      (window : AggregationWindow) (hidle : s.call = none)
      (haggregator : coordinator.aggregatorFor e.event = some aggregator)
      (hkey : aggregator.aggregationKey e = some key)
      (htakes : Takes s.store aggregator key e window) :
    StepTo coordinator s (.handleEvent e)
      { store := s.store.upsertPending (window.withEvent e)
        call := none
        history := .accepted aggregator.group.name key e :: s.history }
  | forwarding (e : Event) (hidle : s.call = none) :
    StepTo coordinator s (.handleEvent e)
      { s with call := some (.event (.fromEvent e)) }
  | flushing (block : ℕ) (hidle : s.call = none) :
    StepTo coordinator s (.handleBlock block)
      { s with call := some (.loop block (readyWindows s.store block)) }
  | returned (block : ℕ) (hcall : s.call = some (.loop block [])) :
    StepTo coordinator s .proceed
      { s with call := none, history := .returned block :: s.history }
  | passed (block : ℕ) (window : AggregationWindow) (windows : List AggregationWindow)
      (hcall : s.call = some (.loop block (window :: windows)))
      (hsilent : ∀ aggregator, coordinator.aggregatorsByGroup.get? window.group = some aggregator →
        aggregator.aggregate window.events = some []) :
    StepTo coordinator s .proceed (s.discard block window windows)
  | failed (block : ℕ) (windows : List AggregationWindow)
      (hcall : s.call = some (.loop block windows)) :
    StepTo coordinator s .proceed { s with call := none }
  | emitting (block : ℕ) (window : AggregationWindow) (aggregator : EventAggregator)
      (notification : EventNotification) (notifications : List EventNotification)
      (windows : List AggregationWindow)
      (hcall : s.call = some (.loop block (window :: windows)))
      (haggregator : coordinator.aggregatorsByGroup.get? window.group = some aggregator)
      (haggregate : aggregator.aggregate window.events = some (notification :: notifications)) :
    StepTo coordinator s .proceed
      { s with call := some (.flush block window notification notifications windows) }
  | forwarded (notification : EventNotification)
      (hcall : s.call = some (.event notification)) :
    StepTo coordinator s .emitted
      { s with call := none, history := .emitted notification :: s.history }
  | continued (block : ℕ) (window : AggregationWindow) (notification next : EventNotification)
      (rest : List EventNotification) (windows : List AggregationWindow)
      (hcall : s.call = some (.flush block window notification (next :: rest) windows)) :
    StepTo coordinator s .emitted
      { s with
        call := some (.flush block window next rest windows)
        history := .emitted notification :: s.history }
  | flushed (block : ℕ) (window : AggregationWindow) (notification : EventNotification)
      (windows : List AggregationWindow)
      (hcall : s.call = some (.flush block window notification [] windows)) :
    StepTo coordinator s .emitted
      { store := s.store.discard window
        call := some (.loop block windows)
        history := .discarded window :: .emitted notification :: s.history }
  | raised (call : Call) (hcall : s.call = some call) :
    StepTo coordinator s .raised { s with call := none }
  | restarted :
    StepTo coordinator s .restarted { s with call := none }
  | refused (e : Event) :
    StepTo coordinator s (.handleEvent e) s

/-- The window that is chosen for an event takes it. -/
theorem exists_takes_of_windowOf {store : AggregationWindowStore} {aggregator : EventAggregator}
    {e : Event} {window : AggregationWindow} (h : windowOf store aggregator e = some window) :
  ∃ key, aggregator.aggregationKey e = some key ∧ Takes store aggregator key e window
  := by
  obtain ⟨key, hkey, h⟩ := Option.bind_eq_some_iff.mp h
  use key, hkey
  cases hfound : store.pendingFor aggregator.group.name key e.block with
  | some found =>
      obtain rfl : found = window := by simpa [hfound] using h
      have hprop := List.find?_some hfound
      simp only [decide_eq_true_eq] at hprop
      use hprop.1, hprop.2.1, hprop.2.2, Or.inl hfound
  | none =>
      have hwindow : aggregator.windowFor e = some window := by simpa [hfound] using h
      obtain ⟨hgroup, hkey', hstart, hcontains, hevents⟩ :=
        EventAggregator.windowFor_eq_some hwindow
      rw [hkey] at hkey'
      use hgroup, (Option.some.inj hkey').symm, hcontains, Or.inr ⟨hfound, hevents, hstart⟩

/-- Every step is one of these. -/
theorem stepTo_of_step {coordinator : AggregationCoordinator} {s t : State} {a : Action}
    (h : step coordinator s a = some t) :
  StepTo coordinator s a t
  := by
  cases a with
  | handleEvent e =>
      cases hcall : s.call with
      | some call => simp [step, hcall] at h
      | none =>
          cases haggregator : coordinator.aggregatorFor e.event with
          | none =>
              obtain rfl : _ = t := by simpa [step, hcall, prepare, haggregator] using h
              apply StepTo.forwarding e hcall
          | some aggregator =>
              cases hwindow : windowOf s.store aggregator e with
              | none =>
                  obtain rfl : s = t := by
                    simpa [step, hcall, prepare, haggregator, hwindow] using h
                  apply StepTo.refused
              | some window =>
                  obtain ⟨key, hkey, htakes⟩ := exists_takes_of_windowOf hwindow
                  obtain rfl : _ = t := by
                    simpa [step, hcall, prepare, haggregator, hwindow, acceptance, hkey] using h
                  apply StepTo.accepted e aggregator key window hcall haggregator hkey htakes
  | handleBlock block =>
      cases hcall : s.call with
      | some call => simp [step, hcall] at h
      | none =>
          obtain rfl : _ = t := by simpa [step, hcall] using h
          apply StepTo.flushing block hcall
  | proceed =>
      simp only [step] at h
      split at h
      next block windows hcall =>
          obtain rfl := Option.some.inj h
          rcases windows with - | ⟨window, windows⟩
          · apply StepTo.returned block hcall
          · rw [flushNext]
            cases haggregator : coordinator.aggregatorsByGroup.get? window.group with
            | none =>
                apply StepTo.passed block window windows hcall
                simp [haggregator]
            | some aggregator =>
                rcases haggregate : aggregator.aggregate window.events with - | - | ⟨n, ns⟩
                · simp only [haggregate]
                  apply StepTo.failed block (window :: windows) hcall
                · simp only [haggregate]
                  apply StepTo.passed block window windows hcall
                  intro aggregator' haggregator'
                  rw [haggregator] at haggregator'
                  rw [← Option.some.inj haggregator', haggregate]
                · simp only [haggregate]
                  apply StepTo.emitting block window aggregator n ns windows hcall haggregator
                    haggregate
      next => cases h
  | emitted =>
      simp only [step] at h
      split at h
      next notification hcall =>
          obtain rfl := Option.some.inj h
          apply StepTo.forwarded notification hcall
      next block window notification notifications windows hcall =>
          rcases notifications with - | ⟨next, rest⟩
          · obtain rfl := Option.some.inj h
            apply StepTo.flushed block window notification windows hcall
          · obtain rfl := Option.some.inj h
            apply StepTo.continued block window notification next rest windows hcall
      next => cases h
  | raised =>
      simp only [step] at h
      split at h
      next notification hcall =>
          obtain rfl := Option.some.inj h
          apply StepTo.raised _ hcall
      next hcall =>
          obtain rfl := Option.some.inj h
          apply StepTo.raised _ hcall
      next => cases h
  | restarted =>
      obtain rfl : _ = t := by simpa [step] using h
      apply StepTo.restarted

/-! ### Windows that are taken -/

/-- A pending window of the identity of the window that takes an event is that window. -/
theorem Takes.eq_of_identity_eq {store : AggregationWindowStore} {aggregator : EventAggregator}
    {key : AggregationKey} {e : Event} {window window' : AggregationWindow}
    (h : Takes store aggregator key e window) (hmem : window' ∈ store.pending)
    (hid : window'.identity = window.identity) :
  window' = window
  := by
  rcases h.found with hfound | ⟨hnone, -⟩
  · apply AggregationWindowStore.eq_of_identity_eq hmem (List.mem_of_find?_eq_some hfound) hid
  · exfalso
    -- the window would have been found
    simp only [AggregationWindow.identity, AggregationWindow.Identity.mk.injEq] at hid
    obtain ⟨hgroup, hkind, hvalue, hstart, hend⟩ := hid
    have hnot := List.find?_eq_none.mp hnone window' hmem
    apply hnot
    have hcontains : window'.Contains e.block := by
      rw [AggregationWindow.Contains, hstart, hend]
      apply h.contains
    have hkey : window'.aggregationKey = key := by
      rw [← h.key_eq]
      rcases window' with ⟨_, ⟨kind, value⟩⟩
      rcases window with ⟨_, ⟨kind', value'⟩⟩
      simp only at hkind hvalue
      rw [hkind, hvalue]
    simp only [decide_eq_true_eq]
    use by rw [hgroup, h.group_eq], hkey

/-- A window of a group and a key is pending and has a log identity. -/
def Holds (store : AggregationWindowStore) (group : String) (key : AggregationKey)
    (identity : String × String × ℕ) : Prop :=
  ∃ window ∈ store.pending,
    window.group = group ∧ window.aggregationKey = key ∧ window.Has identity

/-- The window that takes an event holds it. -/
theorem Takes.holds {store : AggregationWindowStore} {aggregator : EventAggregator}
    {key : AggregationKey} {e : Event} {window : AggregationWindow}
    (h : Takes store aggregator key e window) :
  Holds (store.upsertPending (window.withEvent e)) aggregator.group.name key e.logIdentity
  := by
  use window.withEvent e
  constructor
  · apply AggregationWindowStore.mem_pending_upsertPending.mpr
    apply Or.inl rfl
  · use by rw [AggregationWindow.group_withEvent, h.group_eq]
    use by rw [AggregationWindow.aggregationKey_withEvent, h.key_eq]
    apply window.has_withEvent_self

/-- Taking an event, the windows keep the logs they hold. -/
theorem Takes.holds_of_holds {store : AggregationWindowStore} {aggregator : EventAggregator}
    {key : AggregationKey} {e : Event} {window : AggregationWindow}
    (h : Takes store aggregator key e window) {group : String} {key' : AggregationKey}
    {identity : String × String × ℕ} (hholds : Holds store group key' identity) :
  Holds (store.upsertPending (window.withEvent e)) group key' identity
  := by
  obtain ⟨window', hmem, hgroup, hkey, hhas⟩ := hholds
  by_cases hid : window'.identity = window.identity
  · obtain rfl := h.eq_of_identity_eq hmem hid
    use window'.withEvent e
    constructor
    · apply AggregationWindowStore.mem_pending_upsertPending.mpr
      apply Or.inl rfl
    · use by rw [AggregationWindow.group_withEvent, hgroup]
      use by rw [AggregationWindow.aggregationKey_withEvent, hkey]
      obtain ⟨stored, hstored, hidentity⟩ := hhas
      use stored, AggregationWindow.mem_withEvent hstored
  · use window'
    constructor
    · apply AggregationWindowStore.mem_pending_upsertPending.mpr
      right
      rw [AggregationWindow.identity_withEvent]
      use hid
    · use hgroup, hkey

/-- Discarding a window, the windows keep the logs they hold, unless the discarded window
holds them. -/
theorem Holds.discard {store : AggregationWindowStore} {group : String} {key : AggregationKey}
    {identity : String × String × ℕ} (h : Holds store group key identity)
    {window : AggregationWindow} (hwindow : window ∈ store.pending) :
  Holds (store.discard window) group key identity
    ∨ window.group = group ∧ window.aggregationKey = key ∧ window.Has identity
  := by
  obtain ⟨window', hmem, hprop⟩ := h
  by_cases hid : window'.identity = window.identity
  · obtain rfl := AggregationWindowStore.eq_of_identity_eq hmem hwindow hid
    apply Or.inr hprop
  · left
    use window', AggregationWindowStore.mem_pending_discard.mpr ⟨hmem, hid⟩

/-! ### The flush loop -/

/-- The windows that a flush has left, the one whose notifications are emitted first. -/
def Call.windows : Call → Option (ℕ × List AggregationWindow)
  | .event _ => none
  | .loop block windows => some (block, windows)
  | .flush block window _ _ windows => some (block, window :: windows)

/-- The windows that a flush up to a block has left are distinct and pending, and they are
all of the pending windows that end at or before the block. -/
structure Left (store : AggregationWindowStore) (block : ℕ) (windows : List AggregationWindow) :
    Prop where
  nodup : (windows.map AggregationWindow.identity).Nodup
  pending : ∀ window ∈ windows, window ∈ store.pending
  covers : ∀ window ∈ store.pending, window.endBlock ≤ block → window ∈ windows

/-- The windows that are ready are those a flush begins with. -/
theorem left_readyWindows (store : AggregationWindowStore) (block : ℕ) :
  Left store block (readyWindows store block)
  where
  nodup := by
    apply ((sortBy_perm flushKey _).map AggregationWindow.identity).nodup_iff.mpr
    apply List.Nodup.sublist _ store.nodup_identity
    apply List.filter_sublist.map
  pending window hmem := (List.mem_filter.mp (mem_sortBy.mp hmem)).1
  covers window hmem hend := mem_sortBy.mpr (List.mem_filter.mpr ⟨hmem, decide_eq_true hend⟩)

/-- Discarding the first of the windows leaves the others. -/
theorem Left.discard {store : AggregationWindowStore} {block : ℕ} {window : AggregationWindow}
    {windows : List AggregationWindow} (h : Left store block (window :: windows)) :
  Left (store.discard window) block windows
  where
  nodup := (List.nodup_cons.mp h.nodup).2
  pending window' hmem := by
    apply AggregationWindowStore.mem_pending_discard.mpr
    use h.pending window' (List.mem_cons_of_mem _ hmem)
    intro hid
    apply (List.nodup_cons.mp h.nodup).1
    rw [← hid]
    apply List.mem_map_of_mem hmem
  covers window' hmem hend := by
    obtain ⟨hpending, hid⟩ := AggregationWindowStore.mem_pending_discard.mp hmem
    rcases List.mem_cons.mp (h.covers window' hpending hend) with rfl | hwindows
    · apply absurd rfl hid
    · apply hwindows

/-- The windows that the call has left are those of a flush. -/
def Flushing (s : State) : Prop :=
  ∀ call ∈ s.call, ∀ block windows, call.windows = some (block, windows) →
    Left s.store block windows

/-- The windows that a flush has left, at its call. -/
theorem Flushing.left {s : State} (h : Flushing s) {call : Call} (hcall : s.call = some call)
    {block : ℕ} {windows : List AggregationWindow}
    (hwindows : call.windows = some (block, windows)) :
  Left s.store block windows
  := h call hcall block windows hwindows

/-- A call that has the given windows left. -/
theorem flushing_of_left {store : AggregationWindowStore} {call : Call} {history : List Effect}
    {block : ℕ} {windows : List AggregationWindow} (hcall : call.windows = some (block, windows))
    (h : Left store block windows) :
  Flushing ⟨store, some call, history⟩
  := by
  intro call' hcall' block' windows' hwindows'
  obtain rfl := Option.some.inj hcall'
  rw [hcall] at hwindows'
  cases hwindows'
  apply h

/-- A step keeps the windows of the flush. -/
theorem Flushing.of_step {coordinator : AggregationCoordinator} {s t : State} {a : Action}
    (hs : Flushing s) (h : step coordinator s a = some t) :
  Flushing t
  := by
  have hidle : ∀ store history, Flushing ⟨store, none, history⟩ := by
    rintro store history call ⟨⟩
  cases stepTo_of_step h with
  | accepted | returned | failed | forwarded | raised | restarted => apply hidle
  | forwarding e =>
      rintro call ⟨⟩ block windows ⟨⟩
  | flushing block =>
      apply flushing_of_left rfl
      apply left_readyWindows
  | passed block window windows hcall =>
      apply flushing_of_left rfl
      apply (hs.left hcall rfl).discard
  | emitting block window aggregator n ns windows hcall =>
      apply flushing_of_left rfl
      apply hs.left hcall rfl
  | continued block window n next rest windows hcall =>
      apply flushing_of_left rfl
      apply hs.left hcall rfl
  | flushed block window n windows hcall =>
      apply flushing_of_left rfl
      apply (hs.left hcall rfl).discard
  | refused => apply hs

/-! ### Windows that are flushed -/

/-- Every window that was discarded and whose group has an aggregator was aggregated, and all
of its notifications were emitted right before it was discarded. -/
def Flushed (coordinator : AggregationCoordinator) (history : List Effect) : Prop :=
  ∀ later window earlier aggregator, history = later ++ .discarded window :: earlier →
    coordinator.aggregatorsByGroup.get? window.group = some aggregator →
    ∃ notifications before, aggregator.aggregate window.events = some notifications
      ∧ earlier = notifications.reverse.map .emitted ++ before

/-- The notifications that were emitted for the window that is flushed, and those that are
left, are those of its aggregator. -/
def Emitting (coordinator : AggregationCoordinator) (s : State) : Prop :=
  ∀ block window notification rest windows,
    s.call = some (.flush block window notification rest windows) →
    ∃ aggregator emitted before,
      coordinator.aggregatorsByGroup.get? window.group = some aggregator
        ∧ aggregator.aggregate window.events = some (emitted ++ notification :: rest)
        ∧ s.history = emitted.reverse.map .emitted ++ before

/-- One more effect, which discards no window unless it was flushed. -/
theorem Flushed.cons {coordinator : AggregationCoordinator} {history : List Effect}
    (h : Flushed coordinator history) {effect : Effect}
    (hnew : ∀ window aggregator, effect = .discarded window →
      coordinator.aggregatorsByGroup.get? window.group = some aggregator →
      ∃ notifications before, aggregator.aggregate window.events = some notifications
        ∧ history = notifications.reverse.map .emitted ++ before) :
  Flushed coordinator (effect :: history)
  := by
  intro later window earlier aggregator hhistory haggregator
  rcases later with - | ⟨last, later⟩
  · obtain ⟨rfl, rfl⟩ := List.cons.inj hhistory
    apply hnew window aggregator rfl haggregator
  · apply h later window earlier aggregator (List.cons.inj hhistory).2 haggregator

/-- A step keeps the windows flushed and the emission in order. -/
theorem flushed_of_step {coordinator : AggregationCoordinator} {s t : State} {a : Action}
    (hs : Flushed coordinator s.history) (hemitting : Emitting coordinator s)
    (h : step coordinator s a = some t) :
  Flushed coordinator t.history ∧ Emitting coordinator t
  := by
  have hidle : ∀ store history, Emitting coordinator ⟨store, none, history⟩ := by
    rintro store history block window n rest windows ⟨⟩
  have hloop : ∀ store block windows history,
      Emitting coordinator ⟨store, some (.loop block windows), history⟩ := by
    rintro store block windows history block' window n rest windows' ⟨⟩
  cases stepTo_of_step h with
  | accepted e =>
      use hs.cons nofun
      apply hidle
  | forwarding e =>
      use hs
      rintro block window n rest windows ⟨⟩
  | flushing block =>
      use hs
      apply hloop
  | returned block =>
      use hs.cons nofun
      apply hidle
  | passed block window windows hcall hsilent =>
      constructor
      · apply hs.cons
        rintro window' aggregator ⟨⟩ haggregator
        use [], s.history, hsilent aggregator haggregator
        rfl
      · apply hloop
  | failed =>
      use hs
      apply hidle
  | emitting block window aggregator n ns windows hcall haggregator haggregate =>
      use hs
      rintro block' window' n' rest windows' ⟨⟩
      use aggregator, [], s.history, haggregator, haggregate
      rfl
  | forwarded n =>
      use hs.cons nofun
      apply hidle
  | continued block window n next rest windows hcall =>
      use hs.cons nofun
      rintro block' window' n' rest' windows' ⟨⟩
      obtain ⟨aggregator, emitted, before, haggregator, haggregate, hhistory⟩ :=
        hemitting block window n (next :: rest) windows hcall
      use aggregator, emitted ++ [n], before, haggregator
      constructor
      · rw [haggregate, List.append_assoc]
        rfl
      · rw [hhistory]
        simp
  | flushed block window n windows hcall =>
      have hemitted : Flushed coordinator (.emitted n :: s.history) := hs.cons nofun
      constructor
      · apply hemitted.cons
        rintro window' aggregator ⟨⟩ haggregator
        obtain ⟨aggregator', emitted, before, haggregator', haggregate, hhistory⟩ :=
          hemitting block window n [] windows hcall
        rw [haggregator] at haggregator'
        obtain rfl := Option.some.inj haggregator'
        use emitted ++ [n], before, haggregate
        rw [hhistory]
        simp
      · apply hloop
  | raised =>
      use hs
      apply hidle
  | restarted =>
      use hs
      apply hidle
  | refused => use hs

/-! ### Events that are conserved -/

/-- Every event that was accepted into a group and a key is in a pending window of the group
and the key, or it was in such a window that was discarded after the event was accepted. The
group has an aggregator. -/
def Conserved (coordinator : AggregationCoordinator) (s : State) : Prop :=
  ∀ later earlier group key e, s.history = later ++ .accepted group key e :: earlier →
    (∃ aggregator, coordinator.aggregatorsByGroup.get? group = some aggregator)
      ∧ (Holds s.store group key e.logIdentity
        ∨ ∃ window, .discarded window ∈ later ∧ window.group = group
            ∧ window.aggregationKey = key ∧ window.Has e.logIdentity)

/-- Conservation over a step that adds effects and keeps every held log that it does not
discard with its window. -/
theorem Conserved.append {coordinator : AggregationCoordinator} {s : State}
    (hs : Conserved coordinator s) {store : AggregationWindowStore} {call : Option Call}
    (effects : List Effect) (hnew : ∀ group key e, .accepted group key e ∉ effects)
    (hkept : ∀ group key identity, Holds s.store group key identity →
      Holds store group key identity
        ∨ ∃ window, .discarded window ∈ effects ∧ window.group = group
            ∧ window.aggregationKey = key ∧ window.Has identity) :
  Conserved coordinator ⟨store, call, effects ++ s.history⟩
  := by
  intro later earlier group key e hhistory
  -- the effects are not the accepted event, so they come after it
  obtain ⟨later', rfl, hearlier⟩ : ∃ later', later = effects ++ later'
      ∧ s.history = later' ++ .accepted group key e :: earlier := by
    rcases List.append_eq_append_iff.mp hhistory with ⟨l, rfl, hl⟩ | ⟨l, heffects, hl⟩
    · use l, rfl, hl
    · rcases l with - | ⟨effect, l⟩
      · use [], by simpa using heffects.symm, hl.symm
      · exfalso
        apply hnew group key e
        rw [heffects, (List.cons.inj hl).1]
        simp
  obtain ⟨hregistered, hheld⟩ := hs later' earlier group key e hearlier
  use hregistered
  rcases hheld with hholds | ⟨window, hmem, hwindow⟩
  · rcases hkept group key _ hholds with hholds | ⟨window, hmem, hwindow⟩
    · apply Or.inl hholds
    · right
      use window, List.mem_append_left _ hmem
  · right
    use window, List.mem_append_right _ hmem

/-- A step conserves the accepted events. -/
theorem Conserved.of_step {coordinator : AggregationCoordinator} {s t : State} {a : Action}
    (hs : Conserved coordinator s) (hflushing : Flushing s)
    (h : step coordinator s a = some t) :
  Conserved coordinator t
  := by
  cases stepTo_of_step h with
  | accepted e aggregator key window hidle haggregator hkey htakes =>
      intro later earlier group key' e' hhistory
      rcases later with - | ⟨last, later⟩
      · obtain ⟨heffect, -⟩ := List.cons.inj hhistory
        cases heffect
        use exists_aggregatorsByGroup (mem_of_aggregatorFor haggregator).1
        apply Or.inl htakes.holds
      · obtain ⟨rfl, htail⟩ := List.cons.inj hhistory
        obtain ⟨hregistered, hheld⟩ := hs later earlier group key' e' htail
        use hregistered
        rcases hheld with hholds | ⟨window', hmem, hwindow'⟩
        · apply Or.inl (htakes.holds_of_holds hholds)
        · right
          use window', List.mem_cons_of_mem _ hmem
  | returned block =>
      apply hs.append [.returned block] (by simp)
      intro group key identity hholds
      apply Or.inl hholds
  | passed block window windows hcall =>
      apply hs.append [.discarded window] (by simp)
      intro group key identity hholds
      have hpending := (hflushing.left hcall rfl).pending window List.mem_cons_self
      rcases hholds.discard hpending with hholds | hwindow
      · apply Or.inl hholds
      · right
        use window, List.mem_cons_self
  | forwarded n =>
      apply hs.append [.emitted n] (by simp)
      intro group key identity hholds
      apply Or.inl hholds
  | continued block window n =>
      apply hs.append [.emitted n] (by simp)
      intro group key identity hholds
      apply Or.inl hholds
  | flushed block window n windows hcall =>
      apply hs.append [.discarded window, .emitted n] (by simp)
      intro group key identity hholds
      have hpending := (hflushing.left hcall rfl).pending window List.mem_cons_self
      rcases hholds.discard hpending with hholds | hwindow
      · apply Or.inl hholds
      · right
        use window, List.mem_cons_self
  | forwarding | flushing | failed | emitting | raised | restarted | refused => apply hs

/-! ### Blocks that are handled -/

/-- When handling a block was the last thing done, no pending window ends at or before it. -/
def Returned (s : State) : Prop :=
  ∀ block earlier, s.history = .returned block :: earlier →
    ∀ window ∈ s.store.pending, block < window.endBlock

/-- A step keeps the windows of handled blocks flushed. -/
theorem Returned.of_step {coordinator : AggregationCoordinator} {s t : State} {a : Action}
    (hs : Returned s) (hflushing : Flushing s) (h : step coordinator s a = some t) :
  Returned t
  := by
  cases stepTo_of_step h with
  | returned block hcall =>
      rintro block' earlier ⟨⟩ window hmem
      by_contra hend
      have hwindows := (hflushing.left hcall rfl).covers window hmem (Nat.le_of_not_lt hend)
      cases hwindows
  | accepted | passed | forwarded | continued | flushed => rintro block earlier ⟨⟩
  | forwarding | flushing | failed | emitting | raised | restarted | refused => apply hs

/-! ### Emissions that raise -/

/-- The steps of a flush. -/
def InFlush (_ : State) (a : Action) : Prop :=
  a = .proceed ∨ a = .emitted

/-- The windows that are pending stay pending, apart from those that the given effects
discard. -/
def Kept (effects : List Effect) (before after : AggregationWindowStore) : Prop :=
  ∀ window ∈ before.pending, window ∈ after.pending ∨ .discarded window ∈ effects

/-- Discarding a pending window keeps the others. -/
theorem kept_discard {store : AggregationWindowStore} {window : AggregationWindow}
    (h : window ∈ store.pending) {effects : List Effect} (hmem : .discarded window ∈ effects) :
  Kept effects store (store.discard window)
  := by
  intro window' hmem'
  by_cases hid : window'.identity = window.identity
  · right
    rw [AggregationWindowStore.eq_of_identity_eq hmem' h hid]
    apply hmem
  · left
    apply AggregationWindowStore.mem_pending_discard.mpr ⟨hmem', hid⟩

/-- A step of a flush keeps the windows it does not discard. -/
theorem exists_kept_of_step {coordinator : AggregationCoordinator} {s t : State} {a : Action}
    (hflushing : Flushing s) (ha : InFlush s a) (h : step coordinator s a = some t) :
  ∃ new, t.history = new ++ s.history ∧ Kept new s.store t.store
  := by
  have hsame : ∀ new, Kept new s.store s.store := fun new window hmem => Or.inl hmem
  cases stepTo_of_step h with
  | passed block window windows hcall =>
      use [.discarded window], rfl
      apply kept_discard _ List.mem_cons_self
      apply (hflushing.left hcall rfl).pending window List.mem_cons_self
  | flushed block window n windows hcall =>
      use [.discarded window, .emitted n], rfl
      apply kept_discard _ List.mem_cons_self
      apply (hflushing.left hcall rfl).pending window List.mem_cons_self
  | returned block => use [.returned block], rfl, hsame _
  | forwarded n => use [.emitted n], rfl, hsame _
  | continued block window n => use [.emitted n], rfl, hsame _
  | failed | emitting => use [], rfl, hsame _
  | accepted | forwarding | flushing | raised | restarted | refused => simp [InFlush] at ha

/-- The windows stay as they are while a flush runs. -/
theorem Flushing.of_reaches {coordinator : AggregationCoordinator}
    {ok : State → Action → Prop} {s t : State} (h : Reaches (step coordinator) ok s t)
    (hs : Flushing s) :
  Flushing t
  := by
  apply h.invariant _ hs
  intro s a t hs _ hstep
  apply hs.of_step hstep

/-- A flush keeps the windows it does not discard. -/
theorem exists_kept_of_reaches {coordinator : AggregationCoordinator} {s t : State}
    (hflushing : Flushing s) (h : Reaches (step coordinator) InFlush s t) :
  ∃ meanwhile, t.history = meanwhile ++ s.history ∧ Kept meanwhile s.store t.store
  := by
  induction h with
  | refl =>
      use [], rfl
      intro window hmem
      apply Or.inl hmem
  | tail hreach hstep ih =>
      obtain ⟨a, ha, hstep⟩ := hstep
      obtain ⟨meanwhile, hhistory, hkept⟩ := ih
      obtain ⟨new, hnew, hkept'⟩ := exists_kept_of_step (hflushing.of_reaches hreach) ha hstep
      use new ++ meanwhile
      constructor
      · rw [hnew, hhistory, List.append_assoc]
      · intro window hmem
        rcases hkept window hmem with hmem | hdiscarded
        · rcases hkept' window hmem with hmem | hdiscarded
          · apply Or.inl hmem
          · apply Or.inr (List.mem_append_left _ hdiscarded)
        · apply Or.inr (List.mem_append_right _ hdiscarded)

/-- A flush whose emission raises leaves every window pending that it did not discard before:
the window whose notification was emitted and the windows that were left among them. -/
def RaiseKeeps (coordinator : AggregationCoordinator) (s : State) : Prop :=
  ∀ block flushing awaiting after, step coordinator s (.handleBlock block) = some flushing →
    Reaches (step coordinator) InFlush flushing awaiting →
    step coordinator awaiting .raised = some after →
    ∃ meanwhile, after.history = meanwhile ++ s.history
      ∧ Kept meanwhile s.store after.store
      ∧ ∀ call ∈ awaiting.call, ∀ block' windows, call.windows = some (block', windows) →
          ∀ window ∈ windows, window ∈ after.store.pending

theorem raiseKeeps_of_flushing {coordinator : AggregationCoordinator} {s : State}
    (hs : Flushing s) :
  RaiseKeeps coordinator s
  := by
  intro block flushing awaiting after hbegin hreach hraise
  have hflushing : Flushing flushing := hs.of_step hbegin
  have hawaiting : Flushing awaiting := hflushing.of_reaches hreach
  obtain ⟨meanwhile, hhistory, hkept⟩ := exists_kept_of_reaches hflushing hreach
  have hbegin' : flushing.store = s.store ∧ flushing.history = s.history := by
    cases stepTo_of_step hbegin
    constructor <;> rfl
  have hraise' : after.store = awaiting.store ∧ after.history = awaiting.history := by
    cases stepTo_of_step hraise
    constructor <;> rfl
  use meanwhile
  rw [hraise'.1, hraise'.2, ← hbegin'.1, ← hbegin'.2]
  use hhistory, hkept
  intro call hcall block' windows hwindows
  apply (hawaiting call hcall block' windows hwindows).pending

/-! ### Every run -/

/-- What holds of a coordinator after any run. -/
structure Sound (coordinator : AggregationCoordinator) (s : State) : Prop where
  conserved : Conserved coordinator s
  flushed : Flushed coordinator s.history
  keeps : RaiseKeeps coordinator s
  returned : Returned s

/-- Runs of a coordinator. -/
abbrev Run (coordinator : AggregationCoordinator) : State → State → Prop :=
  Reaches (step coordinator) fun _ _ => True

/-- Aggregation conserves the events it accepts. -/
theorem coordinator_sound_of_run {coordinator : AggregationCoordinator}
    {records : Dict String WindowRecord} {s : State} (h : Run coordinator (start records) s) :
  Sound coordinator s
  := by
  have hinvariant : Flushing s ∧ Conserved coordinator s ∧ Flushed coordinator s.history
      ∧ Emitting coordinator s ∧ Returned s := by
    apply h.invariant
    · rintro s a t ⟨hflushing, hconserved, hflushed, hemitting, hreturned⟩ - hstep
      use hflushing.of_step hstep, hconserved.of_step hflushing hstep
      obtain ⟨hflushed, hemitting⟩ := flushed_of_step hflushed hemitting hstep
      use hflushed, hemitting, hreturned.of_step hflushing hstep
    · use by rintro call ⟨⟩
      constructor
      · intro later earlier group key e hhistory
        simp [start] at hhistory
      · constructor
        · intro later window earlier aggregator hhistory
          simp [start] at hhistory
        · use by rintro block window n rest windows ⟨⟩
          rintro block earlier ⟨⟩
  obtain ⟨hflushing, hconserved, hflushed, -, hreturned⟩ := hinvariant
  use hconserved, hflushed, raiseKeeps_of_flushing hflushing

/-! ### A coordinator with one aggregator -/

/-- An aggregator of windows of one block. -/
def bondLocks : EventAggregator where
  aggregatorClass := .global
  group := ⟨"bond_locks", 1, Nat.one_pos⟩
  eventNames := {"BondLockChanged"}

/-- The window that the first log of a block opens. -/
def firstWindow (number : ℕ) : AggregationWindow where
  group := "bond_locks"
  aggregationKey := .globalKey
  startBlock := number
  endBlock := number
  eventNames := {"BondLockChanged"}
  events := [Event.first number]

/-- The only aggregator with an event name is the one of the name. -/
theorem aggregatorFor_of_unique {coordinator : AggregationCoordinator}
    {aggregator : EventAggregator} {eventName : String}
    (hmem : aggregator ∈ coordinator.aggregators) (hname : eventName ∈ aggregator.eventNames)
    (hunique : ∀ other ∈ coordinator.aggregators, eventName ∈ other.eventNames →
      other = aggregator) :
  coordinator.aggregatorFor eventName = some aggregator
  := by
  obtain ⟨registered, hregistered⟩ := exists_aggregatorFor hmem hname
  obtain ⟨hmem', hname'⟩ := mem_of_aggregatorFor hregistered
  rw [hregistered, hunique registered hmem' hname']

theorem aggregatorFor_bondLocks :
  aggregatorFor ⟨[bondLocks]⟩ "BondLockChanged" = some bondLocks
  := by
  apply aggregatorFor_of_unique List.mem_cons_self (Finset.mem_singleton_self _)
  intro other hmem _
  apply List.mem_singleton.mp hmem

/-- A log whose block no pending window contains opens a window. -/
theorem step_handleEvent_first {coordinator : AggregationCoordinator} {s : State} {number : ℕ}
    (haggregator : coordinator.aggregatorFor "BondLockChanged" = some bondLocks)
    (hidle : s.call = none)
    (hnone : s.store.pendingFor "bond_locks" .globalKey number = none) :
  step coordinator s (.handleEvent (Event.first number))
    = some
      { store := s.store.upsertPending (firstWindow number)
        call := none
        history := .accepted "bond_locks" .globalKey (Event.first number) :: s.history }
  := by
  have haggregator : coordinator.aggregatorFor (Event.first number).event = some bondLocks :=
    haggregator
  have hkey : bondLocks.aggregationKey (Event.first number) = some .globalKey := rfl
  have hwindow : (bondLocks.windowFor (Event.first number)).map
      (fun window => window.withEvent (Event.first number)) = some (firstWindow number) := by
    rw [EventAggregator.windowFor, hkey]
    simp [AggregationWindow.withEvent, firstWindow, EventAggregator.endBlock, bondLocks,
      Event.first]
  obtain ⟨window, hwindow, hwith⟩ := Option.map_eq_some_iff.mp hwindow
  have hof : windowOf s.store bondLocks (Event.first number) = some window := by
    rw [windowOf, hkey, Option.bind_eq_bind, Option.bind_some]
    change (match s.store.pendingFor "bond_locks" .globalKey number with
      | some window => some window
      | none => bondLocks.windowFor (Event.first number)) = some window
    rw [hnone]
    apply hwindow
  simp only [step, hidle, prepare, haggregator, hof, hwith, Option.map_some, acceptance, hkey,
    Option.bind_eq_bind, Option.bind_some, Option.pure_def]
  rfl

/-- The coordinator after its first event. -/
def accepted : State where
  store := AggregationWindowStore.empty.upsertPending (firstWindow 1)
  call := none
  history := [.accepted "bond_locks" .globalKey (Event.first 1)]

theorem run_accepted {coordinator : AggregationCoordinator}
    (haggregator : coordinator.aggregatorFor "BondLockChanged" = some bondLocks) :
  Run coordinator (start .empty) accepted
  := Reaches.head (a := .handleEvent (Event.first 1)) trivial
    (step_handleEvent_first haggregator rfl rfl) (Reaches.refl _)

/-- The notification about the first log of a block. -/
def firstNotification (number : ℕ) : EventNotification where
  sourceEvents := [Event.first number]
  nonempty := List.cons_ne_nil _ _

theorem aggregate_firstWindow (number : ℕ) :
  bondLocks.aggregate (firstWindow number).events = some [firstNotification number]
  := by
  have hrelevant : bondLocks.relevant (firstWindow number).events = [Event.first number] := by
    apply OrderedBy.sortBy_eq
    apply List.pairwise_singleton
  have hne : bondLocks.relevant (firstWindow number).events ≠ [] := by simp [hrelevant]
  change bondLocks.aggregateAll (firstWindow number).events = some [firstNotification number]
  rw [EventAggregator.aggregateAll, if_neg hne, hrelevant]
  rfl

/-- A flush begins to tell of a window with one log. -/
theorem step_proceed_first {s : State} {block number : ℕ} {windows : List AggregationWindow}
    (hcall : s.call = some (.loop block (firstWindow number :: windows))) :
  step ⟨[bondLocks]⟩ s .proceed
    = some { s with
        call := some (.flush block (firstWindow number) (firstNotification number) [] windows) }
  := by
  have hget : (mk [bondLocks]).aggregatorsByGroup.get? (firstWindow number).group
      = some bondLocks := rfl
  simp only [step, hcall, flushNext, hget, aggregate_firstWindow]

/-- The coordinator after the first logs of two blocks. -/
def acceptedTwice : State where
  store := accepted.store.upsertPending (firstWindow 3)
  call := none
  history := .accepted "bond_locks" .globalKey (Event.first 3) :: accepted.history

theorem pending_accepted :
  accepted.store.pending = [firstWindow 1]
  := by
  rw [accepted, AggregationWindowStore.pending_upsertPending]
  rfl

theorem run_acceptedTwice :
  Run ⟨[bondLocks]⟩ (start .empty) acceptedTwice
  := by
  have hnone : accepted.store.pendingFor "bond_locks" .globalKey 3 = none := by
    rw [AggregationWindowStore.pendingFor, pending_accepted]
    rfl
  apply (run_accepted aggregatorFor_bondLocks).tail (a := .handleEvent (Event.first 3)) trivial
  apply step_handleEvent_first aggregatorFor_bondLocks rfl hnone

/-- The coordinator after the first of the two windows was told of and emitting the notification
of the second one has raised. -/
def interrupted : State where
  store := acceptedTwice.store.discard (firstWindow 1)
  call := none
  history :=
    .discarded (firstWindow 1) :: .emitted (firstNotification 1) :: acceptedTwice.history

theorem readyWindows_acceptedTwice :
  readyWindows acceptedTwice.store 3 = [firstWindow 1, firstWindow 3]
  := by
  have hpending : acceptedTwice.store.pending = [firstWindow 1, firstWindow 3] := by
    rw [acceptedTwice, AggregationWindowStore.pending_upsertPending, pending_accepted]
    rfl
  rw [readyWindows, hpending]
  apply OrderedBy.sortBy_eq
  apply List.pairwise_pair.mpr
  apply Prod.Lex.le_iff.mpr
  left
  decide

theorem run_interrupted :
  Run ⟨[bondLocks]⟩ (start .empty) interrupted
  := by
  apply run_acceptedTwice.trans
  apply Reaches.head (a := .handleBlock 3) trivial rfl
  rw [readyWindows_acceptedTwice]
  apply Reaches.head (a := .proceed) trivial (step_proceed_first rfl)
  apply Reaches.head (a := .emitted) trivial rfl
  apply Reaches.head (a := .proceed) trivial (step_proceed_first rfl)
  apply Reaches.head (a := .raised) trivial rfl (Reaches.refl _)

theorem sound_interrupted :
  Sound ⟨[bondLocks]⟩ interrupted
  := coordinator_sound_of_run run_interrupted

end AggregationCoordinator

end Sentinel
