import Sentinel.Models

/-!
# The digest store

`DigestStore` persists, for each digest, the list of the events it has not sent yet. Every
change of a list rewrites it: one event is kept for each log identity, the events are put in
chain order, and their records are stored. The list of a digest is `Canonical` when it is in
chain order and has one event for each log identity; every change makes it so.
-/

namespace Sentinel

/-- Records read back from events, `none` where reading one of them raises. -/
def readEvents (records : List EventRecord) : Option (List Event) :=
  records.mapM Event.fromDict

/-- The records of a list of events are read back as the list. -/
@[simp]
theorem readEvents_map_toDict (events : List Event) :
  readEvents (events.map Event.toDict) = some events
  := by
  rw [readEvents]
  induction events with
  | nil => rfl
  | cons e events ih =>
      rw [List.map_cons, List.mapM_cons, ih, Event.fromDict_toDict]
      rfl

/-- The events of the records that can be read. -/
def parseEvents (records : List EventRecord) : List Event :=
  records.filterMap Event.fromDict

/-- The records of events are parsed as the events. -/
@[simp]
theorem parseEvents_map_toDict (events : List Event) :
  parseEvents (events.map Event.toDict) = events
  := by
  induction events with
  | nil => rfl
  | cons e events ih =>
      rw [parseEvents] at ih
      simp [parseEvents, ih]

/-! ### Canonical lists -/

/-- A list of events in chain order, with one event for each log identity. -/
structure Canonical (events : List Event) : Prop where
  ordered : OrderedBy Event.chainPosition events
  nodup : (events.map Event.logIdentity).Nodup

/-- The events of a list, the last one of each log identity, in chain order. -/
def canonical (events : List Event) : List Event :=
  sortBy Event.chainPosition (Dict.collect Event.logIdentity events).values

theorem Canonical.nil :
  Canonical []
  where
  ordered := List.Pairwise.nil
  nodup := List.nodup_nil

/-- A sublist of a canonical list is canonical. -/
theorem Canonical.sublist {events events' : List Event} (h : Canonical events)
    (hsub : events'.Sublist events) :
  Canonical events'
  where
  ordered := h.ordered.sublist hsub
  nodup := h.nodup.sublist (hsub.map Event.logIdentity)

theorem canonical_canonical (events : List Event) :
  Canonical (canonical events)
  where
  ordered := orderedBy_sortBy Event.chainPosition _
  nodup := by
    apply ((sortBy_perm Event.chainPosition _).map Event.logIdentity).nodup_iff.mpr
    apply Dict.nodup_map_values_collect

/-- A canonical list is left as it is. -/
theorem Canonical.canonical_eq {events : List Event} (h : Canonical events) :
  canonical events = events
  := by
  rw [canonical, Dict.values_collect_of_nodup h.nodup, h.ordered.sortBy_eq]

theorem mem_of_mem_canonical {events : List Event} {e : Event} (h : e ∈ canonical events) :
  e ∈ events
  := Dict.mem_of_mem_values_collect (mem_sortBy.mp h)

/-- Every log identity of a list is kept. -/
theorem exists_mem_canonical {events : List Event} {e : Event} (h : e ∈ events) :
  ∃ e' ∈ canonical events, e'.logIdentity = e.logIdentity
  := by
  obtain ⟨e', hmem, hid⟩ := Dict.exists_mem_values_collect Event.logIdentity h
  use e', mem_sortBy.mpr hmem, hid

/-- Adding an event to a canonical list leaves the events of the other log identities as
they are. -/
theorem Canonical.filter_canonical_concat {events : List Event} (h : Canonical events)
    {e : Event} {p : Event → Bool} (hp : ∀ e', e'.logIdentity = e.logIdentity → p e' = false) :
  (canonical (events ++ [e])).filter p = events.filter p
  := by
  have hvalues : ((Dict.collect Event.logIdentity (events ++ [e])).values).filter p
      = events.filter p := by
    rw [Dict.collect_concat, Dict.filter_values_set p _ (hp e rfl),
      Dict.values_collect_of_nodup h.nodup]
    intro e' hmem
    apply hp e' (Dict.mem_of_mem_collect hmem).2
  rw [canonical, filter_sortBy, hvalues]
  rw [hvalues]
  apply h.ordered.sublist List.filter_sublist

/-! ### The store -/

/-- The records of the events of each digest. All of them can be read. -/
structure DigestStore where
  records : Dict String (List EventRecord)
  readable : ∀ item ∈ records.items, ∃ events : List Event, item.2 = events.map Event.toDict

namespace DigestStore

/-- The store without digests. -/
def empty : DigestStore where
  records := .empty
  readable := by simp

theorem readable_getD (store : DigestStore) (name : String) :
  ∃ events : List Event, store.records.getD name [] = events.map Event.toDict
  := by
  rw [Dict.getD]
  cases hget : store.records.get? name with
  | none => use []; rfl
  | some records =>
      apply store.readable (name, records)
      apply Dict.get?_eq_some_iff.mp hget

/-- Reading the events of a digest does not raise. -/
theorem isSome_readEvents (store : DigestStore) (name : String) :
  (readEvents (store.records.getD name [])).isSome
  := by
  obtain ⟨events, hevents⟩ := store.readable_getD name
  rw [hevents, readEvents_map_toDict]
  rfl

/-- The events of a digest. -/
def events (store : DigestStore) (name : String) : List Event :=
  (readEvents (store.records.getD name [])).get (store.isSome_readEvents name)

/-- Rewrite the events of a digest. -/
def replace (store : DigestStore) (name : String) (events : List Event) : DigestStore where
  records := store.records.set name ((canonical events).map Event.toDict)
  readable := by
    rintro ⟨name', records⟩ hmem
    rcases Dict.mem_items_set_iff.mp hmem with ⟨-, rfl⟩ | ⟨-, hmem⟩
    · use canonical events
    · apply store.readable _ hmem

/-- Add an event to a digest. -/
def append (store : DigestStore) (name : String) (e : Event) : DigestStore :=
  store.replace name (store.events name ++ [e])

/-- Remove the log identities of the given events from a digest. -/
def discard (store : DigestStore) (name : String) (events : List Event) : DigestStore :=
  store.replace name
    ((store.events name).filter fun e => e.logIdentity ∉ events.map Event.logIdentity)

/-- The store over the records that are persisted, whose unreadable ones are skipped. -/
def normalise (records : Dict String (List EventRecord)) : DigestStore where
  records := records.mapValues fun records => (parseEvents records).map Event.toDict
  readable := by
    intro item hmem
    obtain ⟨⟨name, records'⟩, -, rfl⟩ := List.mem_map.mp hmem
    use parseEvents records'

/-! ### The events after an operation -/

@[simp]
theorem events_empty (name : String) :
  empty.events name = []
  := rfl

/-- The events of a digest are those whose records it has. -/
theorem events_eq_of_records {store : DigestStore} {name : String} {events : List Event}
    (h : store.records.getD name [] = events.map Event.toDict) :
  store.events name = events
  := by
  have hread : readEvents (store.records.getD name []) = some events := by
    rw [h, readEvents_map_toDict]
  simp only [DigestStore.events, hread, Option.get_some]

/-- The records of a digest are those of its events. -/
theorem map_toDict_events (store : DigestStore) (name : String) :
  (store.events name).map Event.toDict = store.records.getD name []
  := by
  obtain ⟨events, hevents⟩ := store.readable_getD name
  rw [events_eq_of_records hevents, hevents]

/-- Rewriting the events of a digest. -/
theorem events_replace (store : DigestStore) (name name' : String) (events : List Event) :
  (store.replace name events).events name'
    = if name' = name then canonical events else store.events name'
  := by
  apply events_eq_of_records
  simp only [replace, Dict.getD, Dict.get?_set]
  split
  · rfl
  · rw [map_toDict_events, Dict.getD]

theorem events_append (store : DigestStore) (name name' : String) (e : Event) :
  (store.append name e).events name'
    = if name' = name then canonical (store.events name ++ [e]) else store.events name'
  := store.events_replace name name' _

theorem events_discard (store : DigestStore) (name name' : String) (events : List Event) :
  (store.discard name events).events name'
    = if name' = name
      then canonical
        ((store.events name).filter fun e => e.logIdentity ∉ events.map Event.logIdentity)
      else store.events name'
  := store.events_replace name name' _

/-- Opening the store over its own records changes nothing. -/
@[simp]
theorem normalise_records (store : DigestStore) :
  normalise store.records = store
  := by
  obtain ⟨⟨items, hnodup⟩, hreadable⟩ := store
  have hitems : (items.map fun item : String × List EventRecord =>
      (item.1, (parseEvents item.2).map Event.toDict)) = items := by
    rw [List.map_congr_left (g := id), List.map_id]
    rintro ⟨name, records⟩ hmem
    obtain ⟨events, rfl⟩ := hreadable (name, records) hmem
    simp
  simp only [normalise, mk.injEq]
  apply Dict.ext hitems

/-- Every digest of the store is canonical. -/
def IsCanonical (store : DigestStore) : Prop :=
  ∀ name, Canonical (store.events name)

theorem isCanonical_empty :
  empty.IsCanonical
  := by
  intro name
  rw [events_empty]
  apply Canonical.nil

/-- Rewriting a digest keeps the store canonical. -/
theorem IsCanonical.replace {store : DigestStore} (h : store.IsCanonical) (name : String)
    (events : List Event) :
  (store.replace name events).IsCanonical
  := by
  intro name'
  rw [events_replace]
  split
  · apply canonical_canonical
  · apply h name'

/-! ### What an operation keeps -/

/-- A digest of the store has an event of a log identity. -/
def Holds (store : DigestStore) (name : String) (identity : String × String × ℕ) : Prop :=
  ∃ e ∈ store.events name, e.logIdentity = identity

theorem holds_append_self (store : DigestStore) (name : String) (e : Event) :
  (store.append name e).Holds name e.logIdentity
  := by
  rw [Holds, events_append, if_pos rfl]
  apply exists_mem_canonical
  simp

/-- Appending an event loses no log identity. -/
theorem Holds.append {store : DigestStore} {name : String} {identity : String × String × ℕ}
    (h : store.Holds name identity) (name' : String) (e : Event) :
  (store.append name' e).Holds name identity
  := by
  obtain ⟨e', hmem, rfl⟩ := h
  rw [Holds, events_append]
  split
  next heq =>
      subst heq
      apply exists_mem_canonical
      apply List.mem_append_left _ hmem
  next => use e', hmem

/-- Discarding events loses only their log identities. -/
theorem Holds.discard {store : DigestStore} {name : String} {identity : String × String × ℕ}
    (h : store.Holds name identity) (name' : String) (events : List Event) :
  (store.discard name' events).Holds name identity
    ∨ name' = name ∧ ∃ e ∈ events, e.logIdentity = identity
  := by
  obtain ⟨e', hmem, rfl⟩ := h
  rw [Holds, events_discard]
  split
  next heq =>
      subst heq
      by_cases hid : e'.logIdentity ∈ events.map Event.logIdentity
      · apply Or.inr ⟨rfl, List.mem_map.mp hid⟩
      · left
        apply exists_mem_canonical
        apply List.mem_filter.mpr ⟨hmem, decide_eq_true hid⟩
  next =>
      left
      use e', hmem

/-- An event of a digest after an append is an event from before or the appended one. -/
theorem mem_events_append {store : DigestStore} {name name' : String} {e e' : Event}
    (h : e' ∈ (store.append name e).events name') :
  e' ∈ store.events name' ∨ name' = name ∧ e' = e
  := by
  rw [events_append] at h
  split at h
  next heq =>
      subst heq
      rcases List.mem_append.mp (mem_of_mem_canonical h) with hold | hnew
      · apply Or.inl hold
      · apply Or.inr ⟨rfl, List.mem_singleton.mp hnew⟩
  next => apply Or.inl h

/-- An event of a digest after a discard is an event from before. -/
theorem mem_events_discard {store : DigestStore} {name name' : String} {events : List Event}
    {e : Event} (h : e ∈ (store.discard name events).events name') :
  e ∈ store.events name'
  := by
  rw [events_discard] at h
  split at h
  next heq =>
      subst heq
      apply (List.mem_filter.mp (mem_of_mem_canonical h)).1
  next => apply h

/-- Appending an event leaves the events of the other log identities in place. -/
theorem filter_events_append {store : DigestStore} (hstore : store.IsCanonical)
    {name name' : String} {e : Event} {p : Event → Bool}
    (hp : name' = name → ∀ e', e'.logIdentity = e.logIdentity → p e' = false) :
  ((store.append name e).events name').filter p = (store.events name').filter p
  := by
  rw [events_append]
  split
  next heq =>
      subst heq
      apply (hstore name').filter_canonical_concat (hp rfl)
  next => rfl

/-- Discarding events leaves the events of the other log identities in place. -/
theorem filter_events_discard {store : DigestStore} (hstore : store.IsCanonical)
    {name name' : String} {events : List Event} {p : Event → Bool}
    (hp : name' = name → ∀ e', e'.logIdentity ∈ events.map Event.logIdentity → p e' = false) :
  ((store.discard name events).events name').filter p = (store.events name').filter p
  := by
  rw [events_discard]
  split
  next heq =>
      subst heq
      rw [((hstore name').sublist List.filter_sublist).canonical_eq, List.filter_filter]
      apply List.filter_congr
      intro e' _
      by_cases hid : e'.logIdentity ∈ events.map Event.logIdentity
      · simp [hp rfl e' hid]
      · simp [hid]
  next => rfl

end DigestStore

end Sentinel
