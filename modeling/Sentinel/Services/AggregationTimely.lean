import Sentinel.Modules.AggregationResults
import Sentinel.Services.AggregationInvariant

/-!
# When aggregated events are sent

An event is put into a window that contains its block, and such a window ends at most as
late as the one that the event would open. So when a block is handled that is as late as
that, the window is flushed: the event is in a notification that was emitted. Only a
distribution report may be dropped.
-/

namespace Sentinel

open Transition

/-! ### Events in the notifications of an aggregator -/

namespace EventAggregator

/-- The notifications tell of an event: one of them has an event with its log. -/
def Tells (notifications : List EventNotification) (identity : String × String × ℕ) : Prop :=
  ∃ notification ∈ notifications, ∃ e ∈ notification.sourceEvents, e.logIdentity = identity

/-- Every member of a list is in a group. -/
theorem exists_group_of_mem {κ : Type*} [DecidableEq κ] {key : Event → Option κ}
    {events : List Event} {d : Dict κ (List Event)} (h : groupBy key events = some d)
    {e : Event} (he : e ∈ events) :
  ∃ item ∈ d.items, e ∈ item.2
  := by
  cases hkey : key e with
  | none =>
      have hnone : groupBy key events = none := groupBy_eq_none_iff.mpr ⟨e, he, hkey⟩
      rw [hnone] at h
      cases h
  | some k =>
      have hmem : e ∈ events.filter fun e' => key e' = some k :=
        List.mem_filter.mpr ⟨he, decide_eq_true hkey⟩
      use (k, events.filter fun e' => key e' = some k)
      constructor
      · apply (mem_items_groupBy h).mpr
        use rfl, List.ne_nil_of_mem hmem
      · apply hmem

/-- A notification about a group has the events of the group. -/
theorem mem_of_collapsesTo {groupEvents : List Event} {last : Event} {n : EventNotification}
    (h : CollapsesTo groupEvents last n) {e : Event} (he : e ∈ groupEvents) :
  e ∈ n.sourceEvents
  := by
  rcases h.sources with hsources | ⟨name, -, hsources⟩
  · rw [hsources]
    apply he
  · rw [hsources]
    apply List.mem_append_left _ he

/-- The notifications of the groups of a grouping have the grouped events. -/
theorem exists_notificationForGroup {d : Dict ℤ (List Event)}
    {notifications : List (Option EventNotification)}
    (h : d.values.mapM notificationForGroup = some notifications)
    (hgroups : ∀ item ∈ d.items, item.2 ≠ [] ∧
      ∀ e ∈ item.2, e.event ∈ operatorGroupChangeAggregator.eventNames)
    {item : ℤ × List Event} (hitem : item ∈ d.items) {e : Event} (he : e ∈ item.2) :
  ∃ n ∈ notifications.filterMap id, e ∈ n.sourceEvents
  := by
  obtain ⟨ns, hns, hall⟩ := mapM_notificationForGroup hgroups
  obtain rfl : ns.map some = notifications := by
    have heq : d.values.mapM notificationForGroup = some (ns.map some) := hns
    rw [h] at heq
    apply (Option.some.inj heq).symm
  obtain ⟨i, hi, rfl⟩ := List.getElem_of_mem hitem
  have hi' : i < ns.length := by
    rwa [← hall.length_eq]
  obtain ⟨last, hcollapses⟩ := hall.get hi hi'
  use ns.get ⟨i, hi'⟩
  constructor
  · simp
  · apply mem_of_collapsesTo hcollapses he

/-- An aggregator that is not of distribution reports tells of each of its events. -/
theorem tells_of_aggregate {aggregator : EventAggregator} {events : List Event}
    {notifications : List EventNotification}
    (h : aggregator.aggregate events = some notifications)
    (hclass : aggregator.aggregatorClass ≠ .distributionReport)
    (hnames : aggregator.aggregatorClass = .operatorGroupChange →
      aggregator.eventNames ⊆ operatorGroupChangeAggregator.eventNames)
    {e : Event} (he : e ∈ events) (hname : e.event ∈ aggregator.eventNames) :
  Tells notifications e.logIdentity
  := by
  have hrelevant : e ∈ aggregator.relevant events := mem_relevant.mpr ⟨he, hname⟩
  cases hcase : aggregator.aggregatorClass with
  | distributionReport => apply absurd hcase hclass
  | nodeOperator =>
      rw [aggregate, hcase] at h
      rcases aggregateByOperator_eq aggregator events with ⟨-, hnone⟩ | ⟨d, ns, hd, hns, hsources⟩
      · simp [hnone] at h
      · obtain rfl : ns = notifications := by simpa [hns] using h
        obtain ⟨item, hitem, hmem⟩ := exists_group_of_mem hd hrelevant
        have hsource : item.2 ∈ ns.map EventNotification.sourceEvents := by
          rw [hsources]
          apply List.mem_map_of_mem (mem_sortBy.mpr hitem)
        obtain ⟨n, hn, hn'⟩ := List.mem_map.mp hsource
        use n, hn, e, hn' ▸ hmem
  | global =>
      rw [aggregate, hcase, aggregateAll, if_neg (List.ne_nil_of_mem hrelevant)] at h
      obtain ⟨n, hn, rfl⟩ := Option.map_eq_some_iff.mp h
      rw [EventNotification.ofEvents, dif_pos (List.ne_nil_of_mem hrelevant)] at hn
      obtain rfl := Option.some.inj hn
      use ⟨aggregator.relevant events, List.ne_nil_of_mem hrelevant⟩,
        List.mem_singleton_self _, e, hrelevant
  | operatorGroupChange =>
      rw [aggregate, hcase] at h
      obtain ⟨d, hd, h⟩ := Option.bind_eq_some_iff.mp h
      obtain ⟨ns, hns, h⟩ := Option.bind_eq_some_iff.mp h
      obtain rfl := Option.some.inj h
      obtain ⟨item, hitem, hmem⟩ := exists_group_of_mem hd hrelevant
      have hgroups : ∀ item ∈ d.items, item.2 ≠ [] ∧
          ∀ e ∈ item.2, e.event ∈ operatorGroupChangeAggregator.eventNames := by
        intro item hitem
        obtain ⟨hgroup, hne⟩ := (mem_items_groupBy hd).mp hitem
        use hne
        intro e' he'
        rw [hgroup] at he'
        apply hnames hcase
        apply (mem_relevant.mp (List.mem_of_mem_filter he')).2
      obtain ⟨n, hn, hn'⟩ := exists_notificationForGroup hns hgroups hitem hmem
      use n, mem_sortBy.mpr hn, e, hn'

/-- An event that is not later than another one opens a window that does not end later. -/
theorem endBlock_mono (aggregator : EventAggregator) {e e' : Event} (h : e.block ≤ e'.block) :
  aggregator.endBlock e ≤ aggregator.endBlock e'
  := by
  rw [endBlock, endBlock]
  split <;> omega

end EventAggregator

namespace AggregationCoordinator

/-! ### Windows that keep an event -/

/-- The window is of the group and the key, contains the block of the event, and has its
log. -/
structure Keeps (window : AggregationWindow) (group : String) (key : AggregationKey)
    (e : Event) : Prop where
  group_eq : window.group = group
  key_eq : window.aggregationKey = key
  contains : window.Contains e.block
  has : window.Has e.logIdentity

/-- A window that keeps an event keeps it when it takes another one. -/
theorem Keeps.withEvent {window : AggregationWindow} {group : String} {key : AggregationKey}
    {e : Event} (h : Keeps window group key e) (e' : Event) :
  Keeps (window.withEvent e') group key e
  where
  group_eq := by rw [AggregationWindow.group_withEvent, h.group_eq]
  key_eq := by rw [AggregationWindow.aggregationKey_withEvent, h.key_eq]
  contains := by
    rw [AggregationWindow.Contains, AggregationWindow.startBlock_withEvent,
      AggregationWindow.endBlock_withEvent]
    apply h.contains
  has := by
    obtain ⟨stored, hstored, hidentity⟩ := h.has
    use stored, AggregationWindow.mem_withEvent hstored

/-- The window that takes an event keeps it. -/
theorem Takes.keeps {store : AggregationWindowStore} {aggregator : EventAggregator}
    {key : AggregationKey} {e : Event} {window : AggregationWindow}
    (h : Takes store aggregator key e window) :
  Keeps (window.withEvent e) aggregator.group.name key e
  where
  group_eq := by rw [AggregationWindow.group_withEvent, h.group_eq]
  key_eq := by rw [AggregationWindow.aggregationKey_withEvent, h.key_eq]
  contains := by
    rw [AggregationWindow.Contains, AggregationWindow.startBlock_withEvent,
      AggregationWindow.endBlock_withEvent]
    apply h.contains
  has := window.has_withEvent_self e

/-- A pending window keeps the event. -/
def KeptIn (store : AggregationWindowStore) (group : String) (key : AggregationKey)
    (e : Event) : Prop :=
  ∃ window ∈ store.pending, Keeps window group key e

/-- Taking an event, the windows keep the events they keep. -/
theorem Takes.keptIn_of_keptIn {store : AggregationWindowStore} {aggregator : EventAggregator}
    {key : AggregationKey} {e : Event} {window : AggregationWindow}
    (h : Takes store aggregator key e window) {group : String} {key' : AggregationKey}
    {e' : Event} (hkept : KeptIn store group key' e') :
  KeptIn (store.upsertPending (window.withEvent e)) group key' e'
  := by
  obtain ⟨window', hmem, hkeeps⟩ := hkept
  by_cases hid : window'.identity = window.identity
  · obtain rfl := h.eq_of_identity_eq hmem hid
    use window'.withEvent e, AggregationWindowStore.mem_pending_upsertPending.mpr (Or.inl rfl)
    apply hkeeps.withEvent
  · use window'
    constructor
    · apply AggregationWindowStore.mem_pending_upsertPending.mpr
      right
      rw [AggregationWindow.identity_withEvent]
      use hid
    · apply hkeeps

/-- Discarding a window, the windows keep the events that it does not keep. -/
theorem KeptIn.discard {store : AggregationWindowStore} {group : String} {key : AggregationKey}
    {e : Event} (h : KeptIn store group key e) {window : AggregationWindow}
    (hwindow : window ∈ store.pending) :
  KeptIn (store.discard window) group key e ∨ Keeps window group key e
  := by
  obtain ⟨window', hmem, hkeeps⟩ := h
  by_cases hid : window'.identity = window.identity
  · obtain rfl := AggregationWindowStore.eq_of_identity_eq hmem hwindow hid
    apply Or.inr hkeeps
  · left
    use window', AggregationWindowStore.mem_pending_discard.mpr ⟨hmem, hid⟩

/-! ### The length of the windows -/

/-- A pending window ends at most as late as the window that an event in it would open. -/
def Short (coordinator : AggregationCoordinator) (store : AggregationWindowStore) : Prop :=
  ∀ window ∈ store.pending, ∀ aggregator,
    coordinator.aggregatorsByGroup.get? window.group = some aggregator →
    ∀ e : Event, window.startBlock ≤ e.block → window.endBlock ≤ aggregator.endBlock e

/-- The window that takes an event is a pending one, or the one that the event opens. -/
theorem endBlock_of_windowOf {store : AggregationWindowStore} {aggregator : EventAggregator}
    {e : Event} {window : AggregationWindow} (h : windowOf store aggregator e = some window) :
  window ∈ store.pending
    ∨ window.startBlock = e.block ∧ window.endBlock = aggregator.endBlock e
  := by
  obtain ⟨key, -, h⟩ := Option.bind_eq_some_iff.mp h
  cases hfound : store.pendingFor aggregator.group.name key e.block with
  | some found =>
      obtain rfl : found = window := by simpa [hfound] using h
      apply Or.inl (List.mem_of_find?_eq_some hfound)
  | none =>
      have hwindow : aggregator.windowFor e = some window := by simpa [hfound] using h
      obtain ⟨key', -, rfl⟩ := Option.map_eq_some_iff.mp hwindow
      right
      constructor <;> rfl

/-- Handling an event changes the store by the window that takes it, or not at all. -/
theorem store_of_handleEvent {coordinator : AggregationCoordinator} {s t : State} {e : Event}
    (h : step coordinator s (.handleEvent e) = some t) :
  t.store = s.store ∨ ∃ aggregator window, coordinator.aggregatorFor e.event = some aggregator
    ∧ windowOf s.store aggregator e = some window
    ∧ t.store = s.store.upsertPending (window.withEvent e)
  := by
  cases hcall : s.call with
  | some call => simp [step, hcall] at h
  | none =>
      cases haggregator : coordinator.aggregatorFor e.event with
      | none =>
          obtain rfl : _ = t := by simpa [step, hcall, prepare, haggregator] using h
          apply Or.inl rfl
      | some aggregator =>
          cases hwindow : windowOf s.store aggregator e with
          | none =>
              obtain rfl : s = t := by simpa [step, hcall, prepare, haggregator, hwindow] using h
              apply Or.inl rfl
          | some window =>
              obtain rfl : _ = t := by simpa [step, hcall, prepare, haggregator, hwindow] using h
              right
              use aggregator, window, rfl, hwindow

/-- Discarding a window keeps the others short. -/
theorem Short.discard {coordinator : AggregationCoordinator} {store : AggregationWindowStore}
    (h : Short coordinator store) (window : AggregationWindow) :
  Short coordinator (store.discard window)
  := by
  intro window' hmem
  apply h window' (AggregationWindowStore.mem_pending_discard.mp hmem).1

/-- A step keeps the windows short. -/
theorem Short.of_step {coordinator : AggregationCoordinator} (hgroups : coordinator.DistinctGroups)
    {s t : State} {a : Action} (hs : Short coordinator s.store)
    (h : step coordinator s a = some t) :
  Short coordinator t.store
  := by
  cases stepTo_of_step h with
  | accepted e =>
      rcases store_of_handleEvent h with hstore | ⟨aggregator, window, haggregator, hof, hstore⟩
      · rw [hstore]
        apply hs
      · rw [hstore]
        intro window' hmem aggregator' haggregator' e' he'
        rcases AggregationWindowStore.mem_pending_upsertPending.mp hmem with rfl | ⟨-, hmem⟩
        · rw [AggregationWindow.startBlock_withEvent] at he'
          rw [AggregationWindow.group_withEvent] at haggregator'
          rw [AggregationWindow.endBlock_withEvent]
          rcases endBlock_of_windowOf hof with hpending | ⟨hstart, hend⟩
          · apply hs window hpending aggregator' haggregator' e' he'
          · obtain ⟨key, -, htakes⟩ := exists_takes_of_windowOf hof
            rw [htakes.group_eq, hgroups.get?_group (mem_of_aggregatorFor haggregator).1]
              at haggregator'
            obtain rfl := Option.some.inj haggregator'
            rw [hend]
            apply aggregator.endBlock_mono
            rw [← hstart]
            apply he'
        · apply hs window' hmem aggregator' haggregator' e' he'
  | passed | flushed => apply hs.discard
  | forwarding | flushing | returned | failed | emitting | forwarded | continued | raised
  | restarted | refused => apply hs

/-! ### Accepted events -/

/-- Every event that was accepted is kept by a pending window, or by a window that was
discarded after the event was accepted. -/
def Accepted (s : State) : Prop :=
  ∀ later earlier group key e, s.history = later ++ .accepted group key e :: earlier →
    KeptIn s.store group key e
      ∨ ∃ window, .discarded window ∈ later ∧ Keeps window group key e

/-- One more thing that is done and accepts no event. -/
theorem Accepted.cons {s : State} (hs : Accepted s) {store : AggregationWindowStore}
    {call : Option Call} {effect : Effect} (hnew : ∀ group key e, effect ≠ .accepted group key e)
    (hkept : ∀ group key e, KeptIn s.store group key e → KeptIn store group key e
      ∨ ∃ window, effect = .discarded window ∧ Keeps window group key e) :
  Accepted ⟨store, call, effect :: s.history⟩
  := by
  intro later earlier group key e hhistory
  rcases later with - | ⟨last, later⟩
  · apply absurd (List.cons.inj hhistory).1 (hnew group key e)
  · obtain ⟨rfl, htail⟩ := List.cons.inj hhistory
    rcases hs later earlier group key e htail with hkeptIn | ⟨window, hmem, hkeeps⟩
    · rcases hkept group key e hkeptIn with hkeptIn | ⟨window, rfl, hkeeps⟩
      · apply Or.inl hkeptIn
      · right
        use window, List.mem_cons_self
    · right
      use window, List.mem_cons_of_mem _ hmem

/-- A step keeps the accepted events. -/
theorem Accepted.of_step {coordinator : AggregationCoordinator} {s t : State} {a : Action}
    (hs : Accepted s) (hflushing : Flushing s) (h : step coordinator s a = some t) :
  Accepted t
  := by
  have hdiscard : ∀ block window windows,
      Left s.store block (window :: windows) → ∀ call, ∀ history : List Effect,
        Accepted ⟨s.store, s.call, history⟩ →
        Accepted ⟨s.store.discard window, call, .discarded window :: history⟩ := by
    intro block window windows hleft call history haccepted
    apply Accepted.cons haccepted (by simp)
    intro group key e hkept
    rcases hkept.discard (hleft.pending window List.mem_cons_self) with hkept | hkeeps
    · apply Or.inl hkept
    · apply Or.inr ⟨window, rfl, hkeeps⟩
  have hemit : ∀ n call, Accepted ⟨s.store, call, .emitted n :: s.history⟩ := by
    intro n call
    apply hs.cons (by simp)
    intro group key e hkept
    apply Or.inl hkept
  cases stepTo_of_step h with
  | accepted e aggregator key window hidle haggregator hkey htakes =>
      intro later earlier group key' e' hhistory
      rcases later with - | ⟨last, later⟩
      · cases (List.cons.inj hhistory).1
        left
        use window.withEvent e, AggregationWindowStore.mem_pending_upsertPending.mpr (Or.inl rfl)
        apply htakes.keeps
      · obtain ⟨rfl, htail⟩ := List.cons.inj hhistory
        rcases hs later earlier group key' e' htail with hkept | ⟨window', hmem, hkeeps⟩
        · apply Or.inl (htakes.keptIn_of_keptIn hkept)
        · right
          use window', List.mem_cons_of_mem _ hmem
  | returned block =>
      apply hs.cons (by simp)
      intro group key e hkept
      apply Or.inl hkept
  | passed block window windows hcall =>
      apply hdiscard block window windows (hflushing.left hcall rfl) _ _ hs
  | forwarded n => apply hemit
  | continued block window n => apply hemit
  | flushed block window n windows hcall =>
      apply hdiscard block window windows (hflushing.left hcall rfl)
      apply hemit
  | forwarding | flushing | failed | emitting | raised | restarted | refused => apply hs

/-! ### Blocks that were handled -/

/-- When a block was handled, each event that was accepted before, and whose window ends at
or before the block, was in a window that was discarded. -/
def OnTime (coordinator : AggregationCoordinator) (history : List Effect) : Prop :=
  ∀ later block earlier group key e aggregator, history = later ++ .returned block :: earlier →
    .accepted group key e ∈ earlier →
    coordinator.aggregatorsByGroup.get? group = some aggregator →
    aggregator.endBlock e ≤ block →
    ∃ window, .discarded window ∈ earlier ∧ Keeps window group key e

/-- One more thing that is done, which is not the end of a flush. -/
theorem OnTime.cons {coordinator : AggregationCoordinator} {history : List Effect}
    (h : OnTime coordinator history) {effect : Effect}
    (heffect : ∀ block, effect ≠ .returned block) :
  OnTime coordinator (effect :: history)
  := by
  intro later block earlier group key e aggregator hhistory
  rcases later with - | ⟨last, later⟩
  · apply absurd (List.cons.inj hhistory).1 (heffect block)
  · apply h later block earlier group key e aggregator (List.cons.inj hhistory).2

/-- A step keeps the flushed windows on time. -/
theorem OnTime.of_step {coordinator : AggregationCoordinator} {s t : State} {a : Action}
    (hs : OnTime coordinator s.history) (hflushing : Flushing s) (haccepted : Accepted s)
    (hshort : Short coordinator s.store) (h : step coordinator s a = some t) :
  OnTime coordinator t.history
  := by
  cases stepTo_of_step h with
  | returned block hcall =>
      intro later block' earlier group key e aggregator hhistory hmem haggregator hend
      rcases later with - | ⟨last, later⟩
      · obtain ⟨heffect, rfl⟩ := List.cons.inj hhistory
        cases heffect
        obtain ⟨after, before, hsplit⟩ := List.append_of_mem hmem
        rcases haccepted after before group key e hsplit with hkept | ⟨window, hwindow, hkeeps⟩
        · -- no window that ends this early is left
          obtain ⟨window, hpending, hkeeps⟩ := hkept
          have hwindowEnd := hshort window hpending aggregator
            (by rw [hkeeps.group_eq, haggregator]) e hkeeps.contains.1
          have hleft := (hflushing.left hcall rfl).covers window hpending (by omega)
          cases hleft
        · use window
          rw [hsplit]
          use List.mem_append_left _ hwindow
      · apply hs later block' earlier group key e aggregator (List.cons.inj hhistory).2 hmem
          haggregator hend
  | accepted | passed | forwarded | continued => apply hs.cons (by simp)
  | flushed block window n =>
      have hemitted : OnTime coordinator (.emitted n :: s.history) := hs.cons (by simp)
      apply hemitted.cons (by simp)
  | forwarding | flushing | failed | emitting | raised | restarted | refused => apply hs

/-! ### Discarded windows -/

/-- Every window that was discarded was well formed. -/
def DiscardsWellFormed (coordinator : AggregationCoordinator) (history : List Effect) : Prop :=
  ∀ window, .discarded window ∈ history → WellFormed coordinator window

/-- A step discards well formed windows. -/
theorem DiscardsWellFormed.of_step {coordinator : AggregationCoordinator} {s t : State}
    {a : Action} (hs : DiscardsWellFormed coordinator s.history) (hflushing : Flushing s)
    (hrepresented : Represented coordinator s.store) (h : step coordinator s a = some t) :
  DiscardsWellFormed coordinator t.history
  := by
  have hleft : ∀ block window windows, Left s.store block (window :: windows) →
      WellFormed coordinator window := by
    intro block window windows hleft
    apply hrepresented.wellFormed
    apply hleft.pending window List.mem_cons_self
  intro window' hmem
  cases stepTo_of_step h with
  | passed block window windows hcall =>
      rcases List.mem_cons.mp hmem with heq | hmem
      · cases heq
        apply hleft _ _ _ (hflushing.left hcall rfl)
      · apply hs window' hmem
  | flushed block window n windows hcall =>
      rcases List.mem_cons.mp hmem with heq | hmem
      · cases heq
        apply hleft _ _ _ (hflushing.left hcall rfl)
      · apply hs window'
        simpa using hmem
  | accepted | returned | forwarded | continued =>
      apply hs window'
      simpa using hmem
  | forwarding | flushing | failed | emitting | raised | restarted | refused =>
      apply hs window' hmem

/-! ### Every run -/

/-- What holds of the history of a coordinator, with what its steps rely on. -/
structure Timely (coordinator : AggregationCoordinator) (s : State) : Prop where
  flushing : Flushing s
  accepted : Accepted s
  represented : Represented coordinator s.store
  short : Short coordinator s.store
  onTime : OnTime coordinator s.history
  discards : DiscardsWellFormed coordinator s.history
  flushed : Flushed coordinator s.history
  emitting : Emitting coordinator s

/-- A coordinator without windows. -/
theorem timely_start (coordinator : AggregationCoordinator) :
  Timely coordinator (start .empty)
  where
  flushing := by rintro call ⟨⟩
  accepted := by
    intro later earlier group key e hhistory
    simp [start] at hhistory
  represented := represented_empty coordinator
  short := by rintro window ⟨⟩
  onTime := by
    intro later block earlier group key e aggregator hhistory
    simp [start] at hhistory
  discards := by rintro window ⟨⟩
  flushed := by
    intro later window earlier aggregator hhistory
    simp [start] at hhistory
  emitting := by rintro block window n rest windows ⟨⟩

/-- A step of a coordinator whose groups are distinct. -/
theorem Timely.of_step {coordinator : AggregationCoordinator} (hgroups : coordinator.DistinctGroups)
    {s t : State} {a : Action} (hs : Timely coordinator s)
    (h : step coordinator s a = some t) :
  Timely coordinator t
  where
  flushing := hs.flushing.of_step h
  accepted := hs.accepted.of_step hs.flushing h
  represented := hs.represented.of_step h
  short := hs.short.of_step hgroups h
  onTime := hs.onTime.of_step hs.flushing hs.accepted hs.short h
  discards := hs.discards.of_step hs.flushing hs.represented h
  flushed := (flushed_of_step hs.flushed hs.emitting h).1
  emitting := (flushed_of_step hs.flushed hs.emitting h).2

/-- What a run keeps. -/
theorem timely_of_run {coordinator : AggregationCoordinator} (hgroups : coordinator.DistinctGroups)
    {s : State} (h : Run coordinator (start .empty) s) :
  Timely coordinator s
  := by
  apply h.invariant (I := Timely coordinator) _ (timely_start coordinator)
  intro s a t hs _ hstep
  apply hs.of_step hgroups hstep

/-- The aggregators of operator groups take the events of operator groups. -/
def GroupNames (coordinator : AggregationCoordinator) : Prop :=
  ∀ aggregator ∈ coordinator.aggregators, aggregator.aggregatorClass = .operatorGroupChange →
    aggregator.eventNames ⊆ EventAggregator.operatorGroupChangeAggregator.eventNames

/-- A discarded window that keeps an event was told of before, unless it was a window of
distribution reports. -/
theorem Timely.exists_emitted {coordinator : AggregationCoordinator}
    (hgroups : coordinator.DistinctGroups) (hnames : coordinator.GroupNames) {s : State}
    (h : Timely coordinator s)
    {later earlier : List Effect} {window : AggregationWindow}
    (hhistory : s.history = later ++ .discarded window :: earlier) {group : String}
    {key : AggregationKey} {e : Event} (hkeeps : Keeps window group key e)
    {aggregator : EventAggregator}
    (haggregator : coordinator.aggregatorsByGroup.get? group = some aggregator)
    (hclass : aggregator.aggregatorClass ≠ .distributionReport) :
  ∃ n, .emitted n ∈ earlier ∧ ∃ e' ∈ n.sourceEvents, e'.logIdentity = e.logIdentity
  := by
  have hregistered : coordinator.aggregatorsByGroup.get? window.group = some aggregator := by
    rw [hkeeps.group_eq, haggregator]
  have hwellFormed := h.discards window (by simp [hhistory])
  obtain ⟨aggregator', haggregator', hevents⟩ := hwellFormed.registered hgroups
  rw [hregistered] at haggregator'
  obtain rfl := Option.some.inj haggregator'
  obtain ⟨notifications, before, haggregate, hbefore⟩ :=
    h.flushed later window earlier aggregator hhistory hregistered
  obtain ⟨e', he', hid⟩ := hkeeps.has
  have hmem := (Dict.mem_of_mem_collect (Dict.get?_eq_some_iff.mp haggregator)).1
  obtain ⟨n, hn, e'', he'', hid'⟩ := EventAggregator.tells_of_aggregate haggregate hclass
    (hnames aggregator hmem) he' (hevents e' he').1
  use n
  constructor
  · rw [hbefore]
    apply List.mem_append_left
    apply List.mem_map_of_mem (List.mem_reverse.mpr hn)
  · use e'', he''
    rw [hid', hid]

/-- When a block was handled, an event that was accepted before it was told of before it, if
the window that the event would open ends at or before the block. -/
theorem Timely.exists_emitted_of_returned {coordinator : AggregationCoordinator}
    (hgroups : coordinator.DistinctGroups) (hnames : coordinator.GroupNames) {s : State}
    (h : Timely coordinator s)
    {later earlier : List Effect} {block : ℕ}
    (hhistory : s.history = later ++ .returned block :: earlier) {group : String}
    {key : AggregationKey} {e : Event} (haccepted : .accepted group key e ∈ earlier)
    {aggregator : EventAggregator}
    (haggregator : coordinator.aggregatorsByGroup.get? group = some aggregator)
    (hclass : aggregator.aggregatorClass ≠ .distributionReport)
    (hend : aggregator.endBlock e ≤ block) :
  ∃ n, .emitted n ∈ earlier ∧ ∃ e' ∈ n.sourceEvents, e'.logIdentity = e.logIdentity
  := by
  obtain ⟨window, hwindow, hkeeps⟩ :=
    h.onTime later block earlier group key e aggregator hhistory haccepted haggregator hend
  obtain ⟨after, before, rfl⟩ := List.append_of_mem hwindow
  have hsplit : s.history
      = (later ++ .returned block :: after) ++ .discarded window :: before := by
    rw [hhistory]
    simp
  obtain ⟨n, hn, htells⟩ := h.exists_emitted hgroups hnames hsplit hkeeps haggregator hclass
  use n
  use List.mem_append_right _ (List.mem_cons_of_mem _ hn)

/-- Every aggregated event is sent on time, in every run of a coordinator whose groups are
distinct. When a block was handled, each event that was accepted before it is in a notification
that was emitted before it, if the window that the event would open ends at or before the
block. -/
theorem emitted_on_time {coordinator : AggregationCoordinator}
    (hgroups : coordinator.DistinctGroups) (hnames : coordinator.GroupNames) {s : State}
    (h : Run coordinator (start .empty) s) {later earlier : List Effect} {block : ℕ}
    (hhistory : s.history = later ++ .returned block :: earlier) {group : String}
    {key : AggregationKey} {e : Event} (haccepted : .accepted group key e ∈ earlier)
    {aggregator : EventAggregator}
    (haggregator : coordinator.aggregatorsByGroup.get? group = some aggregator)
    (hclass : aggregator.aggregatorClass ≠ .distributionReport)
    (hend : aggregator.endBlock e ≤ block) :
  ∃ n, .emitted n ∈ earlier ∧ ∃ e' ∈ n.sourceEvents, e'.logIdentity = e.logIdentity
  := (timely_of_run hgroups h).exists_emitted_of_returned hgroups hnames hhistory haccepted
    haggregator hclass hend

/-- The coordinator after its first event and the block of the event. -/
def handled : State where
  store := accepted.store.discard (firstWindow 1)
  call := none
  history :=
    [ .returned 1
    , .discarded (firstWindow 1)
    , .emitted (firstNotification 1)
    , .accepted "bond_locks" .globalKey (Event.first 1) ]

theorem readyWindows_accepted :
  readyWindows accepted.store 1 = [firstWindow 1]
  := by
  rw [readyWindows, pending_accepted]
  apply OrderedBy.sortBy_eq
  apply List.pairwise_singleton

theorem run_handled :
  Run ⟨[bondLocks]⟩ (start .empty) handled
  := by
  apply (run_accepted aggregatorFor_bondLocks).trans
  apply Reaches.head (a := .handleBlock 1) trivial rfl
  rw [readyWindows_accepted]
  apply Reaches.head (a := .proceed) trivial (step_proceed_first rfl)
  apply Reaches.head (a := .emitted) trivial rfl
  apply Reaches.head (a := .proceed) trivial rfl (Reaches.refl _)

/-- The first log of a block is told of when the block has been handled. -/
theorem emitted_on_time_first :
  ∃ n, Effect.emitted n ∈ handled.history
    ∧ ∃ e ∈ n.sourceEvents, e.logIdentity = (Event.first 1).logIdentity
  := by
  have hgroups : DistinctGroups ⟨[bondLocks]⟩ := List.nodup_singleton _
  have hnames : GroupNames ⟨[bondLocks]⟩ := by
    intro aggregator hmem hclass
    rw [List.mem_singleton.mp hmem] at hclass
    cases hclass
  have hhistory : handled.history = [] ++ .returned 1 :: handled.history.tail := rfl
  have haccepted : .accepted "bond_locks" .globalKey (Event.first 1) ∈ handled.history.tail :=
    List.mem_cons_of_mem _ (List.mem_cons_of_mem _ List.mem_cons_self)
  have hget : (mk [bondLocks]).aggregatorsByGroup.get? "bond_locks" = some bondLocks := rfl
  obtain ⟨n, hn, htells⟩ := emitted_on_time hgroups hnames run_handled hhistory haccepted hget
    (by simp [bondLocks]) (by decide)
  use n, List.mem_of_mem_tail hn

end AggregationCoordinator

end Sentinel
