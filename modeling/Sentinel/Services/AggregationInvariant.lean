import Sentinel.Services.Aggregation

/-!
# The representation of the pending windows

The pending windows of a coordinator that began with an empty store are well formed, and two
windows of one group and one key are told apart by their order: no event of a window is in
the range of a window that was opened before it. Windows may overlap when events arrive out
of block order, yet a log that is always in the same block is in one of them only.
-/

namespace Sentinel

open Transition

namespace AggregationCoordinator

/-! ### Well formed windows -/

/-- The windows are of one group and one key. -/
def Alike (window window' : AggregationWindow) : Prop :=
  window.group = window'.group ∧ window.aggregationKey = window'.aggregationKey

/-- A window with events of aggregators of its group and of its key, in its range, each log
once. -/
structure WellFormed (coordinator : AggregationCoordinator) (window : AggregationWindow) :
    Prop where
  nonempty : window.events ≠ []
  named : ∀ e ∈ window.events, ∃ aggregator ∈ coordinator.aggregators,
    aggregator.group.name = window.group ∧ e.event ∈ aggregator.eventNames
      ∧ aggregator.aggregationKey e = some window.aggregationKey
  contains : ∀ e ∈ window.events, window.Contains e.block
  nodup : (window.events.map Event.logIdentity).Nodup

/-- The aggregators have distinct groups. -/
def DistinctGroups (coordinator : AggregationCoordinator) : Prop :=
  (coordinator.aggregators.map fun aggregator => aggregator.group.name).Nodup

/-- An aggregator among aggregators of distinct groups is the one of its group. -/
theorem DistinctGroups.get?_group {coordinator : AggregationCoordinator}
    (h : coordinator.DistinctGroups) {aggregator : EventAggregator}
    (hmem : aggregator ∈ coordinator.aggregators) :
  coordinator.aggregatorsByGroup.get? aggregator.group.name = some aggregator
  := by
  obtain ⟨registered, hregistered⟩ := exists_aggregatorsByGroup hmem
  obtain ⟨hmem', hname⟩ := Dict.mem_of_mem_collect (Dict.get?_eq_some_iff.mp hregistered)
  rw [hregistered, List.inj_on_of_nodup_map h hmem' hmem hname]

/-- Where groups are distinct, the events of a well formed window are of the aggregator that
flushes it. -/
theorem WellFormed.registered {coordinator : AggregationCoordinator}
    (hgroups : coordinator.DistinctGroups) {window : AggregationWindow}
    (h : WellFormed coordinator window) :
  ∃ aggregator, coordinator.aggregatorsByGroup.get? window.group = some aggregator
    ∧ ∀ e ∈ window.events, e.event ∈ aggregator.eventNames
      ∧ aggregator.aggregationKey e = some window.aggregationKey
  := by
  obtain ⟨first, hfirst⟩ := List.exists_mem_of_ne_nil _ h.nonempty
  obtain ⟨aggregator, hmem, hgroup, -⟩ := h.named first hfirst
  have hregistered := hgroups.get?_group hmem
  rw [hgroup] at hregistered
  use aggregator, hregistered
  intro e he
  obtain ⟨aggregator', hmem', hgroup', hevent⟩ := h.named e he
  have hregistered' := hgroups.get?_group hmem'
  rw [hgroup', hregistered] at hregistered'
  obtain rfl := Option.some.inj hregistered'
  apply hevent

/-- A window that takes an event is well formed with it, if it is empty or well formed. -/
theorem Takes.wellFormed_withEvent {coordinator : AggregationCoordinator}
    {store : AggregationWindowStore}
    {aggregator : EventAggregator} {key : AggregationKey} {e : Event}
    {window : AggregationWindow} (h : Takes store aggregator key e window)
    (haggregator : coordinator.aggregatorFor e.event = some aggregator)
    (hkey : aggregator.aggregationKey e = some key)
    (hwindow : window.events = [] ∨ WellFormed coordinator window) :
  WellFormed coordinator (window.withEvent e)
  := by
  have hnodup : (window.events.map Event.logIdentity).Nodup := by
    rcases hwindow with hnil | hwindow
    · simp [hnil]
    · apply hwindow.nodup
  constructor
  · apply window.withEvent_events_ne_nil
  · rw [AggregationWindow.group_withEvent, AggregationWindow.aggregationKey_withEvent]
    intro e' hmem'
    rcases AggregationWindow.of_mem_withEvent hmem' with hold | rfl
    · rcases hwindow with hnil | hwindow
      · rw [hnil] at hold
        cases hold
      · apply hwindow.named e' hold
    · obtain ⟨hmem, hname⟩ := mem_of_aggregatorFor haggregator
      use aggregator, hmem, h.group_eq.symm, hname
      rw [hkey, h.key_eq]
  · intro e' hmem'
    rw [AggregationWindow.Contains, AggregationWindow.startBlock_withEvent,
      AggregationWindow.endBlock_withEvent]
    rcases AggregationWindow.of_mem_withEvent hmem' with hold | rfl
    · rcases hwindow with hnil | hwindow
      · rw [hnil] at hold
        cases hold
      · apply hwindow.contains e' hold
    · apply h.contains
  · apply AggregationWindow.nodup_withEvent e hnodup

/-! ### The order of the windows -/

/-- No event of the later one of two windows of one group and one key is in the range of the
earlier one, and they do not start at the same block. -/
def Before (window window' : AggregationWindow) : Prop :=
  Alike window window' →
    (∀ e ∈ window'.events, ¬ window.Contains e.block) ∧ window.startBlock ≠ window'.startBlock

/-- The pending windows are well formed, and in order. -/
structure Represented (coordinator : AggregationCoordinator) (store : AggregationWindowStore) :
    Prop where
  wellFormed : ∀ window ∈ store.pending, WellFormed coordinator window
  ordered : store.pending.Pairwise Before

/-- The first window that contains the block of an event, in its place with the event. -/
theorem pending_upsertPending_found {store : AggregationWindowStore} {group : String}
    {key : AggregationKey} {e : Event} {window : AggregationWindow}
    (h : store.pendingFor group key e.block = some window) :
  ∃ earlier later, store.pending = earlier ++ window :: later
    ∧ (store.upsertPending (window.withEvent e)).pending
      = earlier ++ window.withEvent e :: later
    ∧ ∀ window' ∈ earlier, window'.group = group → window'.aggregationKey = key →
        ¬ window'.Contains e.block
  := by
  obtain ⟨-, earlier, later, hpending, hearlier⟩ := List.find?_eq_some_iff_append.mp h
  use earlier, later, hpending
  constructor
  · have hnodup := store.nodup_identity
    rw [hpending, List.map_append, List.map_cons] at hnodup
    rw [AggregationWindowStore.pending_upsertPending, hpending]
    apply Dict.upsertBy_append
    · intro window' hmem hid
      rw [AggregationWindow.identity_withEvent] at hid
      have hdisjoint := List.disjoint_of_nodup_append hnodup
      apply hdisjoint (List.mem_map_of_mem hmem)
      rw [hid]
      apply List.mem_cons_self
    · simp
  · intro window' hmem hgroup hkey hcontains
    have hnot := hearlier window' hmem
    simp [hgroup, hkey, hcontains] at hnot

/-- A new window is put after the pending ones. -/
theorem pending_upsertPending_new {store : AggregationWindowStore} {aggregator : EventAggregator}
    {key : AggregationKey} {e : Event} {window : AggregationWindow}
    (h : Takes store aggregator key e window)
    (hnone : store.pendingFor aggregator.group.name key e.block = none) :
  (store.upsertPending (window.withEvent e)).pending = store.pending ++ [window.withEvent e]
  := by
  rw [AggregationWindowStore.pending_upsertPending]
  apply Dict.upsertBy_of_forall_ne
  intro window' hmem hid
  rw [AggregationWindow.identity_withEvent] at hid
  obtain rfl := h.eq_of_identity_eq hmem hid
  apply List.find?_eq_none.mp hnone window' hmem
  apply decide_eq_true ⟨h.group_eq, h.key_eq, h.contains⟩

/-- A window stays before a window that takes an event outside its range. -/
theorem Before.withEvent_right {window window' : AggregationWindow} {e : Event}
    (h : Before window window')
    (he : Alike window window' → ¬ window.Contains e.block) :
  Before window (window'.withEvent e)
  := by
  intro halike
  rw [Alike, AggregationWindow.group_withEvent, AggregationWindow.aggregationKey_withEvent]
    at halike
  constructor
  · intro e' hmem
    rcases AggregationWindow.of_mem_withEvent hmem with hold | rfl
    · apply (h halike).1 e' hold
    · apply he halike
  · rw [AggregationWindow.startBlock_withEvent]
    apply (h halike).2

/-- A window that takes an event stays before the same windows. -/
theorem Before.withEvent_left {window window' : AggregationWindow} (h : Before window window')
    (e : Event) :
  Before (window.withEvent e) window'
  := by
  intro halike
  rw [Alike, AggregationWindow.group_withEvent, AggregationWindow.aggregationKey_withEvent]
    at halike
  rw [AggregationWindow.startBlock_withEvent]
  simp only [AggregationWindow.Contains, AggregationWindow.startBlock_withEvent,
    AggregationWindow.endBlock_withEvent]
  apply h halike

/-- A well formed window starts at or before its end. -/
theorem WellFormed.startBlock_le_endBlock {coordinator : AggregationCoordinator}
    {window : AggregationWindow} (h : WellFormed coordinator window) :
  window.startBlock ≤ window.endBlock
  := by
  obtain ⟨e, hmem⟩ := List.exists_mem_of_ne_nil _ h.nonempty
  obtain ⟨hstart, hend⟩ := h.contains e hmem
  apply le_trans hstart hend

/-- Taking an event keeps the windows well formed and in order. -/
theorem Represented.upsertPending {coordinator : AggregationCoordinator}
    {store : AggregationWindowStore}
    {aggregator : EventAggregator} {key : AggregationKey} {e : Event}
    {window : AggregationWindow} (hstore : Represented coordinator store)
    (h : Takes store aggregator key e window)
    (haggregator : coordinator.aggregatorFor e.event = some aggregator)
    (hkey : aggregator.aggregationKey e = some key) :
  Represented coordinator (store.upsertPending (window.withEvent e))
  := by
  have hwindow : window.events = [] ∨ WellFormed coordinator window := by
    rcases h.found with hfound | ⟨-, hnil, -⟩
    · right
      apply hstore.wellFormed window (List.mem_of_find?_eq_some hfound)
    · apply Or.inl hnil
  constructor
  · intro window' hmem
    rcases AggregationWindowStore.mem_pending_upsertPending.mp hmem with rfl | ⟨-, hmem⟩
    · apply h.wellFormed_withEvent haggregator hkey hwindow
    · apply hstore.wellFormed window' hmem
  · have hordered := hstore.ordered
    rcases h.found with hfound | ⟨hnone, hnil, hstart⟩
    · obtain ⟨earlier, later, hpending, hupsert, hearlier⟩ := pending_upsertPending_found hfound
      rw [hpending, List.pairwise_append, List.pairwise_cons] at hordered
      obtain ⟨hfirst, ⟨hnext, hlast⟩, hcross⟩ := hordered
      rw [hupsert, List.pairwise_append, List.pairwise_cons]
      use hfirst
      constructor
      · use fun window' hmem => (hnext window' hmem).withEvent_left e
      · intro window' hmem window'' hmem'
        rcases List.mem_cons.mp hmem' with rfl | hmem'
        · apply (hcross window' hmem window List.mem_cons_self).withEvent_right
          rintro ⟨hgroup, hkey'⟩
          apply hearlier window' hmem
          · rw [hgroup, h.group_eq]
          · rw [hkey', h.key_eq]
        · apply hcross window' hmem window'' (List.mem_cons_of_mem _ hmem')
    · rw [pending_upsertPending_new h hnone, List.pairwise_append]
      use hordered, List.pairwise_singleton _ _
      intro window' hmem window'' hmem'
      rw [List.mem_singleton.mp hmem']
      -- no pending window of the group and the key contains the block of the event
      have hnot : Alike window' window → ¬ window'.Contains e.block := by
        rintro ⟨hgroup, hkey'⟩ hcontains
        apply List.find?_eq_none.mp hnone window' hmem
        simp only [decide_eq_true_eq]
        use by rw [hgroup, h.group_eq], by rw [hkey', h.key_eq]
      apply Before.withEvent_right _ hnot
      intro halike
      constructor
      · rw [hnil]
        rintro e' ⟨⟩
      · intro hstart'
        apply hnot halike
        rw [hstart] at hstart'
        have hle := (hstore.wellFormed window' hmem).startBlock_le_endBlock
        rw [AggregationWindow.Contains, ← hstart']
        use le_refl _

/-- Discarding a window keeps the windows well formed and in order. -/
theorem Represented.discard {coordinator : AggregationCoordinator}
    {store : AggregationWindowStore} (h : Represented coordinator store)
    (window : AggregationWindow) :
  Represented coordinator (store.discard window)
  where
  wellFormed window' hmem :=
    h.wellFormed window' (AggregationWindowStore.mem_pending_discard.mp hmem).1
  ordered := by
    rw [AggregationWindowStore.pending_discard]
    apply List.Pairwise.sublist List.filter_sublist h.ordered

/-- A step keeps the windows well formed and in order. -/
theorem Represented.of_step {coordinator : AggregationCoordinator} {s t : State} {a : Action}
    (hs : Represented coordinator s.store) (h : step coordinator s a = some t) :
  Represented coordinator t.store
  := by
  cases stepTo_of_step h with
  | accepted e aggregator key window hidle haggregator hkey htakes =>
      apply hs.upsertPending htakes haggregator hkey
  | passed block window => apply hs.discard
  | flushed block window => apply hs.discard
  | forwarding | flushing | returned | failed | emitting | forwarded | continued | raised
  | restarted | refused => apply hs

/-- A store without windows. -/
theorem represented_empty (coordinator : AggregationCoordinator) :
  Represented coordinator .empty
  where
  wellFormed := by rintro window ⟨⟩
  ordered := List.Pairwise.nil

/-! ### Logs -/

/-- The events of the pending windows were accepted. -/
def Recorded (s : State) : Prop :=
  ∀ window ∈ s.store.pending, ∀ e ∈ window.events,
    .accepted window.group window.aggregationKey e ∈ s.history

/-- Events stay recorded over a step that puts nothing into a window. -/
theorem Recorded.append {s : State} (hs : Recorded s) {store : AggregationWindowStore}
    (call : Option Call) (effects : List Effect)
    (hstore : ∀ window ∈ store.pending, window ∈ s.store.pending) :
  Recorded ⟨store, call, effects ++ s.history⟩
  := by
  intro window hmem e he
  apply List.mem_append_right
  apply hs window (hstore window hmem) e he

/-- A step records the event that it puts into a window. -/
theorem Recorded.of_step {coordinator : AggregationCoordinator} {s t : State} {a : Action}
    (hs : Recorded s) (h : step coordinator s a = some t) :
  Recorded t
  := by
  have hdiscard (window : AggregationWindow) :
      ∀ window' ∈ (s.store.discard window).pending, window' ∈ s.store.pending :=
    fun _ hmem => (AggregationWindowStore.mem_pending_discard.mp hmem).1
  cases stepTo_of_step h with
  | accepted e aggregator key window hidle haggregator hkey htakes =>
      intro window' hmem e' he'
      rcases AggregationWindowStore.mem_pending_upsertPending.mp hmem with rfl | ⟨-, hmem⟩
      · rw [AggregationWindow.group_withEvent, AggregationWindow.aggregationKey_withEvent]
        rcases AggregationWindow.of_mem_withEvent he' with hold | rfl
        · apply List.mem_cons_of_mem
          rcases htakes.found with hfound | ⟨-, hnil, -⟩
          · apply hs window (List.mem_of_find?_eq_some hfound) e' hold
          · rw [hnil] at hold
            cases hold
        · rw [htakes.group_eq, htakes.key_eq]
          apply List.mem_cons_self
      · apply List.mem_cons_of_mem _ (hs window' hmem e' he')
  | returned block => apply hs.append _ [.returned block] fun _ hmem => hmem
  | passed block window => apply hs.append _ [.discarded window] (hdiscard window)
  | forwarded n => apply hs.append _ [.emitted n] fun _ hmem => hmem
  | continued block window n => apply hs.append _ [.emitted n] fun _ hmem => hmem
  | flushed block window n => apply hs.append _ [.discarded window, .emitted n] (hdiscard window)
  | forwarding | flushing | failed | emitting | raised | restarted | refused => apply hs

/-- The events of one log that were accepted for a group and a key have one block. -/
def OneBlock (history : List Effect) (group : String) (key : AggregationKey)
    (identity : String × String × ℕ) : Prop :=
  ∀ e e', .accepted group key e ∈ history → .accepted group key e' ∈ history →
    e.logIdentity = identity → e'.logIdentity = identity → e.block = e'.block

/-! ### Every run -/

/-- What holds of the pending windows of a coordinator after any run. -/
structure WindowInvariant (coordinator : AggregationCoordinator) (s : State) : Prop where
  wellFormed : ∀ window ∈ s.store.pending, WellFormed coordinator window
  starts : ∀ window ∈ s.store.pending, ∀ window' ∈ s.store.pending, Alike window window' →
    window.startBlock = window'.startBlock → window = window'
  /-- an event changes no window but the one that takes it -/
  upserts : ∀ e t, step coordinator s (.handleEvent e) = some t →
    ∀ window ∈ s.store.pending, window ∈ t.store.pending
      ∨ window.withEvent e ∈ t.store.pending
  /-- the events are of the aggregator that flushes the window -/
  registered : coordinator.DistinctGroups → ∀ window ∈ s.store.pending, ∃ aggregator,
    coordinator.aggregatorsByGroup.get? window.group = some aggregator
      ∧ ∀ e ∈ window.events, e.event ∈ aggregator.eventNames
        ∧ aggregator.aggregationKey e = some window.aggregationKey
  /-- no report is aggregated without events -/
  reports : coordinator.DistinctGroups → ∀ window ∈ s.store.pending, ∀ aggregator,
    coordinator.aggregatorsByGroup.get? window.group = some aggregator →
    (aggregator.aggregateReport window.events).isSome
  /-- a log whose events have one block is in one window of its group and key -/
  logs : ∀ window ∈ s.store.pending, ∀ window' ∈ s.store.pending, Alike window window' →
    ∀ identity, OneBlock s.history window.group window.aggregationKey identity →
    window.Has identity → window'.Has identity → window = window'

/-- One of two different pending windows is before the other. -/
theorem Represented.before_or_before {coordinator : AggregationCoordinator}
    {store : AggregationWindowStore} (h : Represented coordinator store)
    {window window' : AggregationWindow} (hmem : window ∈ store.pending)
    (hmem' : window' ∈ store.pending) (hne : window ≠ window') :
  Before window window' ∨ Before window' window
  := by
  have hsymm : Std.Symm fun w w' : AggregationWindow => Before w w' ∨ Before w' w :=
    ⟨fun _ _ => Or.symm⟩
  have hordered : store.pending.Pairwise fun w w' => Before w w' ∨ Before w' w := by
    apply h.ordered.imp
    intro w w' hbefore
    apply Or.inl hbefore
  apply hordered.forall hmem hmem' hne

theorem Alike.symm {window window' : AggregationWindow} (h : Alike window window') :
  Alike window' window
  := ⟨h.1.symm, h.2.symm⟩

/-- Two windows of one group and one key, one before the other, share no log whose events have
one block. -/
theorem Before.not_has {coordinator : AggregationCoordinator} {s : State} (hs : Recorded s)
    {window window' : AggregationWindow} (h : Before window window') (halike : Alike window window')
    (hmem : window ∈ s.store.pending) (hmem' : window' ∈ s.store.pending)
    (hwindow : WellFormed coordinator window) {identity : String × String × ℕ}
    (hblock : OneBlock s.history window.group window.aggregationKey identity)
    (hhas : window.Has identity) :
  ¬ window'.Has identity
  := by
  obtain ⟨e, he, hid⟩ := hhas
  rintro ⟨e', he', hid'⟩
  apply (h halike).1 e' he'
  have haccepted := hs window' hmem' e' he'
  rw [← halike.1, ← halike.2] at haccepted
  rw [← hblock e e' (hs window hmem e he) haccepted hid hid']
  apply hwindow.contains e he

/-- A report of a well formed window is aggregated. -/
theorem WellFormed.isSome_aggregateReport {coordinator : AggregationCoordinator}
    (hgroups : coordinator.DistinctGroups) {window : AggregationWindow}
    (h : WellFormed coordinator window)
    {aggregator : EventAggregator}
    (haggregator : coordinator.aggregatorsByGroup.get? window.group = some aggregator) :
  (aggregator.aggregateReport window.events).isSome
  := by
  obtain ⟨registered, hregistered, hevents⟩ := h.registered hgroups
  rw [haggregator] at hregistered
  obtain rfl := Option.some.inj hregistered
  obtain ⟨e, hmem⟩ := List.exists_mem_of_ne_nil _ h.nonempty
  have hrelevant : e ∈ aggregator.relevant window.events := by
    apply mem_sortBy.mpr
    apply List.mem_filter.mpr ⟨hmem, decide_eq_true (hevents e hmem).1⟩
  have hne : aggregator.relevant window.events ≠ [] := List.ne_nil_of_mem hrelevant
  have hhead : ((aggregator.relevant window.events).head?).isSome := by
    rw [List.isSome_head?]
    simpa using hne
  simp only [EventAggregator.aggregateReport]
  split_ifs
  · rw [Option.isSome_map]
    apply hhead
  · rw [Option.isSome_map]
    apply hhead
  · rw [Option.isSome_map, EventNotification.ofEvents, dif_pos hne]
    rfl

/-- An event changes no pending window but the one that takes it. -/
theorem mem_or_withEvent_mem_of_step {coordinator : AggregationCoordinator} {s t : State}
    {e : Event} (h : step coordinator s (.handleEvent e) = some t) {window : AggregationWindow}
    (hmem : window ∈ s.store.pending) :
  window ∈ t.store.pending ∨ window.withEvent e ∈ t.store.pending
  := by
  cases stepTo_of_step h with
  | accepted e aggregator key taken hidle haggregator hkey htakes =>
      by_cases hid : window.identity = taken.identity
      · right
        rw [htakes.eq_of_identity_eq hmem hid]
        apply AggregationWindowStore.mem_pending_upsertPending.mpr
        apply Or.inl rfl
      · left
        apply AggregationWindowStore.mem_pending_upsertPending.mpr
        right
        rw [AggregationWindow.identity_withEvent]
        use hid
  | forwarding | refused => apply Or.inl hmem

/-- The pending windows of a coordinator that began with an empty store represent the events
that it accepted, in every run. -/
theorem windowInvariant_of_run {coordinator : AggregationCoordinator} {s : State}
    (h : Run coordinator (start .empty) s) :
  WindowInvariant coordinator s
  := by
  obtain ⟨hrepresented, hrecorded⟩ : Represented coordinator s.store ∧ Recorded s := by
    apply h.invariant (I := fun s => Represented coordinator s.store ∧ Recorded s)
    · rintro s a t ⟨hrepresented, hrecorded⟩ - hstep
      use hrepresented.of_step hstep, hrecorded.of_step hstep
    · use represented_empty coordinator
      rintro window ⟨⟩
  constructor
  · apply hrepresented.wellFormed
  · intro window hmem window' hmem' halike hstart
    by_contra hne
    rcases hrepresented.before_or_before hmem hmem' hne with hbefore | hbefore
    · apply (hbefore halike).2 hstart
    · apply (hbefore halike.symm).2 hstart.symm
  · intro e t hstep window hmem
    apply mem_or_withEvent_mem_of_step hstep hmem
  · intro hgroups window hmem
    apply (hrepresented.wellFormed window hmem).registered hgroups
  · intro hgroups window hmem aggregator haggregator
    apply (hrepresented.wellFormed window hmem).isSome_aggregateReport hgroups haggregator
  · intro window hmem window' hmem' halike identity hblock hhas hhas'
    by_contra hne
    rcases hrepresented.before_or_before hmem hmem' hne with hbefore | hbefore
    · apply hbefore.not_has hrecorded halike hmem hmem' (hrepresented.wellFormed window hmem)
        hblock hhas hhas'
    · rw [halike.1, halike.2] at hblock
      apply hbefore.not_has hrecorded halike.symm hmem' hmem
        (hrepresented.wellFormed window' hmem') hblock hhas' hhas

theorem windowInvariant_interrupted :
  WindowInvariant ⟨[bondLocks]⟩ interrupted
  := windowInvariant_of_run run_interrupted

/-- A log that is given in two blocks, as after a reorganisation of the chain, is in two
pending windows of one group and one key. -/
theorem exists_log_in_two_windows :
  ∃ s, Run ⟨[bondLocks]⟩ (start .empty) s
    ∧ ∃ window ∈ s.store.pending, ∃ window' ∈ s.store.pending,
      Alike window window' ∧ window ≠ window'
        ∧ ∃ identity, window.Has identity ∧ window'.Has identity
  := by
  use acceptedTwice, run_acceptedTwice, firstWindow 1
  constructor
  · apply AggregationWindowStore.mem_pending_upsertPending.mpr
    right
    rw [pending_accepted]
    use by decide, List.mem_cons_self
  · use firstWindow 3, AggregationWindowStore.mem_pending_upsertPending.mpr (Or.inl rfl)
    use ⟨rfl, rfl⟩, by decide, (Event.first 1).logIdentity
    use ⟨Event.first 1, List.mem_cons_self, rfl⟩, Event.first 3, List.mem_cons_self
    rfl

/-- An aggregator of reports under the name of another group. -/
def bondLockReports : EventAggregator where
  aggregatorClass := .distributionReport
  group := bondLocks.group
  eventNames := {"DistributionLogUpdated"}

/-- The aggregator that flushes a window need not be one of its events when two groups have one
name, and a report is then aggregated without events. -/
theorem exists_report_without_events :
  ∃ s, Run ⟨[bondLocks, bondLockReports]⟩ (start .empty) s
    ∧ ∃ window ∈ s.store.pending, ∃ aggregator,
      (mk [bondLocks, bondLockReports]).aggregatorsByGroup.get? window.group = some aggregator
        ∧ aggregator.aggregateReport window.events = none
  := by
  have haggregator : aggregatorFor ⟨[bondLocks, bondLockReports]⟩ "BondLockChanged"
      = some bondLocks := by
    apply aggregatorFor_of_unique List.mem_cons_self (Finset.mem_singleton_self _)
    intro other hmem hname
    rcases List.mem_cons.mp hmem with rfl | hmem
    · rfl
    · rw [List.mem_singleton.mp hmem] at hname
      apply absurd (Finset.mem_singleton.mp hname) (by decide)
  use accepted, run_accepted haggregator, firstWindow 1
  constructor
  · rw [pending_accepted]
    apply List.mem_cons_self
  · use bondLockReports, rfl
    have hrelevant : bondLockReports.relevant (firstWindow 1).events = [] := by
      simp [EventAggregator.relevant, bondLockReports, firstWindow, Event.first]
    simp [EventAggregator.aggregateReport, hrelevant]

/-- The windows tell neither the blocks of one log apart nor the groups of one name. -/
theorem exists_windows_not_apart :
  (∃ s, Run ⟨[bondLocks]⟩ (start .empty) s
    ∧ ∃ window ∈ s.store.pending, ∃ window' ∈ s.store.pending,
      Alike window window' ∧ window ≠ window'
        ∧ ∃ identity, window.Has identity ∧ window'.Has identity)
  ∧ ∃ s, Run ⟨[bondLocks, bondLockReports]⟩ (start .empty) s
    ∧ ∃ window ∈ s.store.pending, ∃ aggregator,
      (mk [bondLocks, bondLockReports]).aggregatorsByGroup.get? window.group = some aggregator
        ∧ aggregator.aggregateReport window.events = none
  := ⟨exists_log_in_two_windows, exists_report_without_events⟩

end AggregationCoordinator

end Sentinel
