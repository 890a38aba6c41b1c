import Sentinel.Effect
import Sentinel.Storage.PersistedEvents

/-!
# Migrating legacy storage

Older versions kept the events of deposits in a list of their own and in aggregation windows.
The migration takes them from both places and adds them to the digest of deposits. It leaves the
other windows as they are, and the other digests keep the events that can be read.
-/

namespace Sentinel

/-- The persisted data of the bot. -/
abbrev BotData :=
  Dict String PyObject

/-- A program that changes the persisted data. -/
abbrev Migrating :=
  Effect BotData ReadError

namespace Migration

def legacyDepositAggregationGroup : String := "deposited_signing_key_counts"

def legacyDigestEventsKey : String := "digest_events"

/-- `AggregationWindowStore.KEY`. -/
def windowsKey : String := "aggregation_windows"

/-- `DigestStore.KEY`. -/
def digestsKey : String := "digests"

/-- `DigestGroups.DEPOSITED_SIGNING_KEYS`. -/
def depositedSigningKeys : String := "deposited_signing_keys"

variable (conv : Conversions)

/-- What is read, or the error that it raises. -/
def ofExcept {α : Type} : Except ReadError α → Migrating α
  | .ok a => return a
  | .error error => throw error

/-! ### The windows of a group -/

/-- Whether a value is the record of a window of a group. -/
def isOfGroup (group : String) : PyObject → Bool
  | .dict items =>
      match PyObject.lookupStr "group" items with
      | some (.str g) => g = group
      | _ => false
  | _ => false

/-- The value of the events of a record of a window. -/
def eventsOf : PyObject → PyObject
  | .dict items => (PyObject.lookupStr "events" items).getD .none
  | _ => .none

/-- Remove the windows of a group from the items that are left, after those that are kept. -/
def popWindows (group : String) (kept : List (PyObject × PyObject)) :
    List (PyObject × PyObject) → Migrating (List PersistedEvent)
  | [] => return []
  | (key, record) :: items =>
      if isOfGroup group record then do
        modify fun botData => botData.set windowsKey (.dict (kept ++ items))
        let events ← ofExcept (parsePersisted conv (eventsOf record))
        let later ← popWindows group kept items
        return events ++ later
      else popWindows group (kept ++ [(key, record)]) items

/-- `AggregationWindowStore.pop_group_events(bot_data, group)`. -/
def popGroupEvents (group : String) : Migrating (List PersistedEvent) := do
  let botData ← get
  match botData.get? windowsKey with
  | some (.dict items) => popWindows conv group [] items
  | _ => return []

/-! ### The digests -/

/-- The records of the digests that are persisted, those of events that can be read. -/
def normaliseDigests (value : PyObject) : Except ReadError (Dict String (List PyObject)) :=
  if value.isTruthy then
    match value with
    | .dict items =>
        items.foldlM (fun records item => do
          let name ← conv.str item.1
          let events ← parsePersisted conv item.2
          return records.set name (events.map (PersistedEvent.toDict conv))) .empty
    | _ => .ok .empty
  else .ok .empty

/-- The value of the records of digests. -/
def ofRecords (records : Dict String (List PyObject)) : PyObject :=
  .dict (records.items.map fun item => (.str item.1, .list item.2))

/-- The events of a list, the last one of each log identity, in chain order. -/
def canonicalPersisted (events : List PersistedEvent) : List PersistedEvent :=
  sortBy PersistedEvent.chainPosition (Dict.collect PersistedEvent.logIdentity events).values

/-- `DigestStore(bot_data).extend(name, events)`. -/
def extendDigest (name : String) (events : List PersistedEvent) : Migrating PUnit := do
  let botData ← get
  let records ← ofExcept (normaliseDigests conv (botData.getD digestsKey .none))
  modify fun botData => botData.set digestsKey (ofRecords records)
  let current ← ofExcept ((records.getD name []).mapM (PersistedEvent.fromDict conv))
  modify fun botData => botData.set digestsKey (ofRecords (records.set name
    ((canonicalPersisted (current ++ events)).map (PersistedEvent.toDict conv))))

/-- `migrate_legacy_storage(bot_data)`. -/
def migrateLegacyStorage : Migrating PUnit := do
  let botData ← get
  modify fun botData => botData.erase legacyDigestEventsKey
  let digestEvents ← ofExcept
    (parsePersisted conv (botData.getD legacyDigestEventsKey .none))
  let windowEvents ← popGroupEvents conv legacyDepositAggregationGroup
  let events := digestEvents ++ windowEvents
  if events.isEmpty then return ⟨⟩
  else extendDigest conv depositedSigningKeys events

/-! ### Taking the windows of a group -/

variable {conv} {botData : BotData}

theorem ends_ofExcept {α : Type} {x : Except ReadError α} {a : α} (h : x = .ok a)
    {Q : α → BotData → Prop} {E : ReadError → BotData → Prop} :
  (ofExcept x).Ends botData Q E ↔ Q a botData
  := by
  rw [h]
  rfl

/-- The events of the windows of a group. -/
def groupEvents (conv : Conversions) (group : String) (items : List (PyObject × PyObject)) :
    List PersistedEvent :=
  (items.filter fun item => isOfGroup group item.2).flatMap fun item =>
    parseable conv (eventsOf item.2)

/-- The windows of the other groups. -/
def otherWindows (group : String) (items : List (PyObject × PyObject)) :
    List (PyObject × PyObject) :=
  items.filter fun item => !isOfGroup group item.2

/-- The windows of a group are removed, and their events are read. -/
theorem ends_popWindows {group : String} {kept items : List (PyObject × PyObject)}
    (hwindows : botData.get? windowsKey = some (.dict (kept ++ items)))
    (hfinite : ∀ item ∈ items, isOfGroup group item.2 → FiniteRecords (eventsOf item.2)) :
  (popWindows conv group kept items).Ends botData
    (fun events after => events = groupEvents conv group items
      ∧ after = botData.set windowsKey (.dict (kept ++ otherWindows group items)))
    fun _ _ => False
  := by
  induction items generalizing kept botData with
  | nil =>
      rw [popWindows, Effect.ends_pure]
      exact ⟨rfl, (Dict.set_eq_self hwindows).symm⟩
  | cons item items ih =>
      obtain ⟨key, record⟩ := item
      obtain ⟨hrecord, hitems⟩ := List.forall_mem_cons.mp hfinite
      rw [popWindows]
      by_cases hgroup : isOfGroup group record
      · rw [if_pos hgroup]
        simp only [Effect.ends_bind, Effect.ends_modify, Effect.ends_pure,
          ends_ofExcept (parsePersisted_eq conv (hrecord hgroup))]
        apply (ih (Dict.get?_set_self _ _ _) hitems).mono
        · rintro _ after ⟨rfl, rfl⟩
          simp [groupEvents, otherWindows, hgroup, Dict.set_set]
        · exact fun _ _ h => h
      · rw [if_neg hgroup]
        have hsplit : kept ++ (key, record) :: items = kept ++ [(key, record)] ++ items := by
          simp
        apply (ih (hsplit ▸ hwindows) hitems).mono
        · rintro _ after ⟨rfl, rfl⟩
          simp [groupEvents, otherWindows, hgroup]
        · exact fun _ _ h => h

/-! ### The digests after a migration -/

/-- The events of a digest in the persisted value of the digests. -/
def digestOf (conv : Conversions) (value : PyObject) (name : String) : List PersistedEvent :=
  match value with
  | .dict items =>
      match items.reverse.find? fun item => (conv.str item.1).toOption = some name with
      | some item => parseable conv item.2
      | none => []
  | _ => []

/-- The names and the records of the digests can be read. -/
def ReadableDigests (conv : Conversions) (value : PyObject) : Prop :=
  ∀ items, value = .dict items →
    ∀ item ∈ items, (∃ name, conv.str item.1 = .ok name) ∧ FiniteRecords item.2

/-- Each digest has the records of its events that can be read. -/
theorem exists_normaliseDigests {value : PyObject} (h : ReadableDigests conv value) :
  ∃ records, normaliseDigests conv value = .ok records
    ∧ ∀ name, records.getD name []
      = (digestOf conv value name).map (PersistedEvent.toDict conv)
  := by
  have hitems : ∀ items : List (PyObject × PyObject),
      (∀ item ∈ items, (∃ name, conv.str item.1 = .ok name) ∧ FiniteRecords item.2) →
      ∃ records, (items.foldlM (fun records item => do
            let name ← conv.str item.1
            let events ← parsePersisted conv item.2
            return records.set name (events.map (PersistedEvent.toDict conv)))
          Dict.empty) = Except.ok records
        ∧ ∀ name, records.getD name []
          = (digestOf conv (.dict items) name).map (PersistedEvent.toDict conv) := by
    intro items
    induction items using List.reverseRecOn with
    | nil => exact fun _ => ⟨.empty, rfl, fun name => rfl⟩
    | append_singleton items item ih =>
        intro hread
        obtain ⟨records, hrecords, hget⟩ := ih fun item hitem =>
          hread item (List.mem_append_left _ hitem)
        obtain ⟨⟨name, hname⟩, hfinite⟩ := hread item (by simp)
        refine ⟨records.set name ((parseable conv item.2).map (PersistedEvent.toDict conv)), ?_, ?_⟩
        · rw [List.foldlM_append, hrecords, ok_bind, List.foldlM_cons, hname, ok_bind,
            parsePersisted_eq conv hfinite]
          rfl
        · intro name'
          rw [Dict.getD, Dict.get?_set, digestOf, List.reverse_append, List.reverse_singleton,
            List.singleton_append, List.find?_cons, hname]
          by_cases hsame : name' = name
          · simp [hsame, Except.toOption]
          · have hrest := hget name'
            rw [Dict.getD, digestOf] at hrest
            simp [hsame, Ne.symm hsame, Except.toOption, hrest]
  unfold normaliseDigests
  cases value with
  | dict items =>
      cases items with
      | nil => exact ⟨.empty, rfl, fun name => rfl⟩
      | cons item items => exact hitems _ (h _ rfl)
  | _ => exact ⟨.empty, ite_id _, fun name => rfl⟩

/-- The events of a digest were read. -/
theorem wasRead_of_mem_digestOf {value : PyObject} {name : String} {e : PersistedEvent}
    (h : e ∈ digestOf conv value name) :
  e.WasRead conv
  := by
  cases value with
  | dict items =>
      rw [digestOf] at h
      split at h
      · apply wasRead_of_mem_parseable h
      · cases h
  | _ => cases h

/-- The events of a digest whose records are those of events that were read. -/
theorem digestOf_ofRecords {records : Dict String (List PyObject)} {name : String}
    {events : List PersistedEvent} (hread : ∀ e ∈ events, e.WasRead conv)
    (h : records.getD name [] = events.map (PersistedEvent.toDict conv)) :
  digestOf conv (ofRecords records) name = events
  := by
  rw [ofRecords, digestOf]
  simp only [← List.map_reverse, List.find?_map, Function.comp_def, conv.str_str, Except.toOption,
    Option.some.injEq]
  cases hfind : records.items.reverse.find? fun item => item.1 = name with
  | none =>
      have hget : records.get? name = none := by
        rw [Dict.get?_eq_none_iff]
        intro value hmem
        have hne := List.find?_eq_none.mp hfind (name, value) (List.mem_reverse.mpr hmem)
        simp at hne
      rw [Dict.getD, hget, Option.getD_none] at h
      obtain rfl := List.map_eq_nil_iff.mp h.symm
      rfl
  | some item =>
      obtain ⟨name', value⟩ := item
      obtain rfl : name' = name := by
        have hname := List.find?_some hfind
        exact of_decide_eq_true hname
      have hmem := List.mem_reverse.mp (List.mem_of_find?_eq_some hfind)
      rw [Dict.getD, Dict.get?_eq_some_iff.mpr hmem, Option.getD_some] at h
      rw [Option.map_some, h]
      exact parseable_map_toDict hread

/-- The records of events that were read are read back. -/
theorem mapM_fromDict_toDict {events : List PersistedEvent} (h : ∀ e ∈ events, e.WasRead conv) :
  (events.map (PersistedEvent.toDict conv)).mapM (PersistedEvent.fromDict conv) = .ok events
  := by
  induction events with
  | nil => rfl
  | cons e events ih =>
      obtain ⟨he, hevents⟩ := List.forall_mem_cons.mp h
      rw [List.map_cons, List.mapM_cons, PersistedEvent.fromDict_toDict he, ih hevents]
      rfl

/-- Adding events to a digest rewrites this digest, and the other ones keep their events. -/
theorem ends_extendDigest {name : String} {events : List PersistedEvent}
    (h : ReadableDigests conv (botData.getD digestsKey .none)) :
  (extendDigest conv name events).Ends botData
    (fun _ after => ∃ records, after = botData.set digestsKey (ofRecords records)
      ∧ ∀ name', records.getD name' []
        = (if name' = name then
            canonicalPersisted (digestOf conv (botData.getD digestsKey .none) name ++ events)
          else digestOf conv (botData.getD digestsKey .none) name').map
            (PersistedEvent.toDict conv))
    fun _ _ => False
  := by
  obtain ⟨records, hrecords, hget⟩ := exists_normaliseDigests h
  have hcurrent : (records.getD name []).mapM (PersistedEvent.fromDict conv)
      = .ok (digestOf conv (botData.getD digestsKey .none) name) := by
    rw [hget, mapM_fromDict_toDict fun _ => wasRead_of_mem_digestOf]
  rw [extendDigest]
  simp only [Effect.ends_bind, Effect.ends_get, Effect.ends_modify, ends_ofExcept hrecords,
    ends_ofExcept hcurrent]
  refine ⟨_, Dict.set_set _ _ _ _, ?_⟩
  intro name'
  rw [Dict.getD, Dict.get?_set]
  split
  · rfl
  · exact hget name'

/-! ### Migrating -/

/-- The items of the windows. -/
def windowItems (botData : BotData) : List (PyObject × PyObject) :=
  match botData.get? windowsKey with
  | some (.dict items) => items
  | _ => []

/-- The legacy events that can be read, those of the list before those of the windows. -/
def legacyEvents (conv : Conversions) (botData : BotData) : List PersistedEvent :=
  parseable conv (botData.getD legacyDigestEventsKey .none)
    ++ groupEvents conv legacyDepositAggregationGroup (windowItems botData)

/-- The windows without those of the legacy group. -/
def withoutLegacy : PyObject → PyObject
  | .dict items => .dict (otherWindows legacyDepositAggregationGroup items)
  | value => value

/-- The events of a digest. -/
def digestEvents (conv : Conversions) (botData : BotData) (name : String) :
    List PersistedEvent :=
  digestOf conv (botData.getD digestsKey .none) name

/-- The legacy events were read. -/
theorem wasRead_of_mem_legacyEvents {e : PersistedEvent} (h : e ∈ legacyEvents conv botData) :
  e.WasRead conv
  := by
  rcases List.mem_append.mp h with h | h
  · apply wasRead_of_mem_parseable h
  · obtain ⟨item, -, he⟩ := List.mem_flatMap.mp h
    apply wasRead_of_mem_parseable he

/-- The numbers of the records that a migration reads are not infinite, and the names of the
digests have texts. -/
structure Readable (conv : Conversions) (botData : BotData) : Prop where
  legacy : FiniteRecords (botData.getD legacyDigestEventsKey .none)
  windows : ∀ item ∈ windowItems botData,
    isOfGroup legacyDepositAggregationGroup item.2 → FiniteRecords (eventsOf item.2)
  digests : ReadableDigests conv (botData.getD digestsKey .none)

/-- Events in chain order, one for each log identity. -/
structure CanonicalPersisted (events : List PersistedEvent) : Prop where
  ordered : OrderedBy PersistedEvent.chainPosition events
  nodup : (events.map PersistedEvent.logIdentity).Nodup

theorem canonicalPersisted_canonical (events : List PersistedEvent) :
  CanonicalPersisted (canonicalPersisted events)
  where
  ordered := orderedBy_sortBy PersistedEvent.chainPosition _
  nodup := by
    apply ((sortBy_perm PersistedEvent.chainPosition _).map
      PersistedEvent.logIdentity).nodup_iff.mpr
    apply Dict.nodup_map_values_collect

theorem mem_of_mem_canonicalPersisted {events : List PersistedEvent} {e : PersistedEvent}
    (h : e ∈ canonicalPersisted events) :
  e ∈ events
  := Dict.mem_of_mem_values_collect (mem_sortBy.mp h)

/-- Every log identity of a list is kept. -/
theorem exists_mem_canonicalPersisted {events : List PersistedEvent} {e : PersistedEvent}
    (h : e ∈ events) :
  ∃ e' ∈ canonicalPersisted events, e'.logIdentity = e.logIdentity
  := by
  obtain ⟨e', hmem, hid⟩ := Dict.exists_mem_values_collect PersistedEvent.logIdentity h
  use e', mem_sortBy.mpr hmem, hid

/-- What a migration makes of the persisted data. -/
structure Migrated (conv : Conversions) (before after : BotData) : Prop where
  /-- the digest of deposits has the log identities of the union -/
  identities : ∀ identity,
    (∃ e ∈ digestEvents conv after depositedSigningKeys, e.logIdentity = identity)
      ↔ ∃ e ∈ digestEvents conv before depositedSigningKeys ++ legacyEvents conv before,
          e.logIdentity = identity
  /-- and no event that is not in the union -/
  union : ∀ e ∈ digestEvents conv after depositedSigningKeys,
    e ∈ digestEvents conv before depositedSigningKeys ++ legacyEvents conv before
  /-- in chain order, if there is a legacy event or it was so before -/
  canonical : legacyEvents conv before ≠ []
      ∨ CanonicalPersisted (digestEvents conv before depositedSigningKeys) →
    CanonicalPersisted (digestEvents conv after depositedSigningKeys)
  otherDigests : ∀ name, name ≠ depositedSigningKeys →
    digestEvents conv after name = digestEvents conv before name
  /-- without legacy events the digests stay as they are persisted -/
  digests : legacyEvents conv before = [] → after.get? digestsKey = before.get? digestsKey
  legacyDigestEvents : after.get? legacyDigestEventsKey = none
  windows : after.get? windowsKey = (before.get? windowsKey).map withoutLegacy
  others : ∀ key, key ≠ digestsKey → key ≠ legacyDigestEventsKey → key ≠ windowsKey →
    after.get? key = before.get? key

/-- The persisted data without the legacy events. -/
def removeLegacy (botData : BotData) : BotData :=
  match botData.get? windowsKey with
  | some (.dict items) => (botData.erase legacyDigestEventsKey).set windowsKey
      (.dict (otherWindows legacyDepositAggregationGroup items))
  | _ => botData.erase legacyDigestEventsKey

theorem get?_removeLegacy (botData : BotData) (key : String) :
  (removeLegacy botData).get? key
    = if key = legacyDigestEventsKey then none
      else if key = windowsKey then (botData.get? windowsKey).map withoutLegacy
      else botData.get? key
  := by
  have hne : windowsKey ≠ legacyDigestEventsKey := by decide
  rw [removeLegacy]
  split
  next items hitems =>
      rw [Dict.get?_set, Dict.get?_erase, hitems]
      by_cases hkey : key = windowsKey
      · subst hkey
        simp [hne, withoutLegacy]
      · simp [hkey]
  next hitems =>
      rw [Dict.get?_erase]
      by_cases hkey : key = windowsKey
      · subst hkey
        rw [if_neg hne, if_neg hne, if_pos rfl]
        cases hvalue : botData.get? windowsKey with
        | none => rfl
        | some value =>
            rw [Option.map_some]
            cases value <;> first | rfl | exact absurd hvalue (hitems _)
      · simp [hkey]

theorem get?_removeLegacy_legacyDigestEvents :
  (removeLegacy botData).get? legacyDigestEventsKey = none
  := by
  rw [get?_removeLegacy, if_pos rfl]

theorem get?_removeLegacy_windows :
  (removeLegacy botData).get? windowsKey = (botData.get? windowsKey).map withoutLegacy
  := by
  rw [get?_removeLegacy, if_neg (by decide), if_pos rfl]

theorem get?_removeLegacy_of_ne {key : String} (hlegacy : key ≠ legacyDigestEventsKey)
    (hwindows : key ≠ windowsKey) :
  (removeLegacy botData).get? key = botData.get? key
  := by
  rw [get?_removeLegacy, if_neg hlegacy, if_neg hwindows]

/-- The legacy windows are removed, and their events are read. -/
theorem ends_popGroupEvents
    (hfinite : ∀ item ∈ windowItems botData,
      isOfGroup legacyDepositAggregationGroup item.2 → FiniteRecords (eventsOf item.2)) :
  (popGroupEvents conv legacyDepositAggregationGroup).Ends (botData.erase legacyDigestEventsKey)
    (fun events after =>
      events = groupEvents conv legacyDepositAggregationGroup (windowItems botData)
      ∧ after = removeLegacy botData)
    fun _ _ => False
  := by
  have hget : (botData.erase legacyDigestEventsKey).get? windowsKey = botData.get? windowsKey := by
    rw [Dict.get?_erase, if_neg (by decide)]
  rw [popGroupEvents]
  simp only [Effect.ends_bind, Effect.ends_get, hget]
  rw [windowItems] at hfinite ⊢
  rw [removeLegacy]
  split
  next items hitems =>
      simp only [hitems] at hfinite ⊢
      have hwindows : (botData.erase legacyDigestEventsKey).get? windowsKey
          = some (.dict ([] ++ items)) := hget.trans hitems
      exact ends_popWindows hwindows hfinite
  next hitems => exact ⟨rfl, rfl⟩

/-- The digests are rewritten, with the legacy events in that of deposits. -/
def ExtendsDeposits (conv : Conversions) (before after : BotData) : Prop :=
  ∃ records, after = (removeLegacy before).set digestsKey (ofRecords records)
    ∧ ∀ name, records.getD name []
      = (if name = depositedSigningKeys then
          canonicalPersisted
            (digestEvents conv before depositedSigningKeys ++ legacyEvents conv before)
        else digestEvents conv before name).map (PersistedEvent.toDict conv)

/-- A migration adds the legacy events to the digest of deposits, if there are any. -/
theorem ends_migrateLegacyStorage (h : Readable conv botData) :
  (migrateLegacyStorage conv).Ends botData
    (fun _ after =>
      if legacyEvents conv botData = [] then after = removeLegacy botData
      else ExtendsDeposits conv botData after)
    fun _ _ => False
  := by
  have hdigests : (removeLegacy botData).getD digestsKey .none = botData.getD digestsKey .none := by
    rw [Dict.getD, get?_removeLegacy_of_ne (by decide) (by decide), Dict.getD]
  rw [migrateLegacyStorage]
  simp only [Effect.ends_bind, Effect.ends_get, Effect.ends_modify,
    ends_ofExcept (parsePersisted_eq conv h.legacy)]
  apply (ends_popGroupEvents h.windows).mono
  · rintro _ _ ⟨rfl, rfl⟩
    rw [← legacyEvents]
    by_cases hempty : legacyEvents conv botData = []
    · rw [if_pos (List.isEmpty_iff.mpr hempty), Effect.ends_pure, if_pos hempty]
    · rw [if_neg (mt List.isEmpty_iff.mp hempty)]
      have hread : ReadableDigests conv ((removeLegacy botData).getD digestsKey .none) :=
        hdigests ▸ h.digests
      apply (ends_extendDigest hread).mono
      · rintro _ after ⟨records, rfl, hrecords⟩
        rw [if_neg hempty]
        rw [hdigests] at hrecords
        exact ⟨records, rfl, hrecords⟩
      · exact fun _ _ h => h
  · exact fun _ _ h => h

/-- Where there are no legacy events, a migration removes what it finds of them. -/
theorem migrated_removeLegacy (hempty : legacyEvents conv botData = []) :
  Migrated conv botData (removeLegacy botData)
  := by
  have hdigests : (removeLegacy botData).get? digestsKey = botData.get? digestsKey :=
    get?_removeLegacy_of_ne (by decide) (by decide)
  have hevents : ∀ name,
      digestEvents conv (removeLegacy botData) name = digestEvents conv botData name := by
    intro name
    rw [digestEvents, digestEvents, Dict.getD, Dict.getD, hdigests]
  exact {
    identities := by
      intro identity
      rw [hevents, hempty, List.append_nil]
    union := by
      intro e he
      rw [hempty, List.append_nil, ← hevents]
      exact he
    canonical := by
      intro hcanonical
      rw [hevents]
      exact hcanonical.resolve_left (not_not_intro hempty)
    otherDigests := fun name _ => hevents name
    digests := fun _ => hdigests
    legacyDigestEvents := get?_removeLegacy_legacyDigestEvents
    windows := get?_removeLegacy_windows
    others := fun _ _ hlegacy hwindows => get?_removeLegacy_of_ne hlegacy hwindows }

/-- Where there are legacy events, the digest of deposits becomes the union in chain order. -/
theorem ExtendsDeposits.migrated {after : BotData} (h : ExtendsDeposits conv botData after)
    (hne : legacyEvents conv botData ≠ []) :
  Migrated conv botData after
  := by
  obtain ⟨records, rfl, hrecords⟩ := h
  have hevents : ∀ name, digestEvents conv
        ((removeLegacy botData).set digestsKey (ofRecords records)) name
      = if name = depositedSigningKeys then
          canonicalPersisted
            (digestEvents conv botData depositedSigningKeys ++ legacyEvents conv botData)
        else digestEvents conv botData name := by
    intro name
    rw [digestEvents, Dict.getD, Dict.get?_set_self, Option.getD_some]
    apply digestOf_ofRecords _ (hrecords name)
    intro e he
    split at he
    · rcases List.mem_append.mp (mem_of_mem_canonicalPersisted he) with he | he
      · apply wasRead_of_mem_digestOf he
      · apply wasRead_of_mem_legacyEvents he
    · apply wasRead_of_mem_digestOf he
  have hdeposits := hevents depositedSigningKeys
  rw [if_pos rfl] at hdeposits
  exact {
    identities := by
      intro identity
      rw [hdeposits]
      constructor
      · rintro ⟨e, he, rfl⟩
        exact ⟨e, mem_of_mem_canonicalPersisted he, rfl⟩
      · rintro ⟨e, he, rfl⟩
        exact exists_mem_canonicalPersisted he
    union := by
      rw [hdeposits]
      exact fun e he => mem_of_mem_canonicalPersisted he
    canonical := by
      rw [hdeposits]
      exact fun _ => canonicalPersisted_canonical _
    otherDigests := by
      intro name hname
      rw [hevents, if_neg hname]
    digests := fun hempty => absurd hempty hne
    legacyDigestEvents := by
      rw [Dict.get?_set_of_ne _ _ (by decide), get?_removeLegacy_legacyDigestEvents]
    windows := by
      rw [Dict.get?_set_of_ne _ _ (by decide), get?_removeLegacy_windows]
    others := by
      intro key hkey hlegacy hwindows
      rw [Dict.get?_set_of_ne _ _ hkey, get?_removeLegacy_of_ne hlegacy hwindows] }

/-- What a migration makes of the data. -/
theorem migrated_of_ends {after : BotData}
    (h : if legacyEvents conv botData = [] then after = removeLegacy botData
      else ExtendsDeposits conv botData after) :
  Migrated conv botData after
  := by
  by_cases hempty : legacyEvents conv botData = []
  · rw [if_pos hempty] at h
    exact h ▸ migrated_removeLegacy hempty
  · rw [if_neg hempty] at h
    exact h.migrated hempty

/-- No legacy events are left. -/
structure WithoutLegacy (botData : BotData) : Prop where
  legacyDigestEvents : botData.get? legacyDigestEventsKey = none
  windows : ∀ item ∈ windowItems botData, isOfGroup legacyDepositAggregationGroup item.2 = false

theorem Migrated.withoutLegacy {before after : BotData} (h : Migrated conv before after) :
  WithoutLegacy after
  := by
  apply WithoutLegacy.mk h.legacyDigestEvents
  rw [windowItems, h.windows]
  intro item hitem
  cases hvalue : before.get? windowsKey with
  | none =>
      rw [hvalue] at hitem
      cases hitem
  | some value =>
      rw [hvalue, Option.map_some] at hitem
      cases value with
      | dict items =>
          have hother := (List.mem_filter.mp hitem).2
          simpa using hother
      | _ => cases hitem

theorem removeLegacy_eq_self (h : WithoutLegacy botData) :
  removeLegacy botData = botData
  := by
  have herase := Dict.erase_eq_self h.legacyDigestEvents
  have hwindows := h.windows
  rw [windowItems] at hwindows
  rw [removeLegacy, herase]
  split
  next items hitems =>
      simp only [hitems] at hwindows
      have hall : otherWindows legacyDepositAggregationGroup items = items := by
        apply List.filter_eq_self.mpr
        intro item hitem
        rw [hwindows item hitem]
        rfl
      rw [hall, Dict.set_eq_self hitems]
  next => rfl

/-- Data without legacy events is left as it is, whatever its digests are. -/
theorem exec_migrateLegacyStorage_eq_self (h : WithoutLegacy botData) :
  (migrateLegacyStorage conv).exec botData = (.ok ⟨⟩, botData)
  := by
  have hnone : botData.getD legacyDigestEventsKey .none = .none := by
    rw [Dict.getD, h.legacyDigestEvents, Option.getD_none]
  have hgroup : groupEvents conv legacyDepositAggregationGroup (windowItems botData) = [] := by
    rw [groupEvents, List.filter_eq_nil_iff.mpr]
    · rfl
    · intro item hitem
      rw [h.windows item hitem]
      exact Bool.false_ne_true
  have hends : (migrateLegacyStorage conv).Ends botData (fun _ after => after = botData)
      fun _ _ => False := by
    rw [migrateLegacyStorage]
    simp only [Effect.ends_bind, Effect.ends_get, Effect.ends_modify, hnone,
      ends_ofExcept (show parsePersisted conv .none = .ok [] from rfl)]
    apply (ends_popGroupEvents _).mono
    · rintro _ _ ⟨rfl, rfl⟩
      rw [hgroup, removeLegacy_eq_self h]
      rfl
    · exact fun _ _ h => h
    · intro item hitem hof
      rw [h.windows item hitem] at hof
      cases hof
  obtain ⟨_, _, hexec, rfl⟩ := hends.exists_exec
  exact hexec

/-- For all persisted data in which no number of a record is infinite and the names of the
digests have texts, a migration does not raise. The digest of deposits has, by log identity,
exactly the events that it had and the legacy ones, in chain order if there is a legacy event or
it was so before. The legacy list and windows are gone, the other windows stay as they are and the
other digests keep the events that can be read. A second migration changes nothing. -/
theorem migrateLegacyStorage_migrates (h : Readable conv botData) :
  ∃ after, (migrateLegacyStorage conv).exec botData = (.ok ⟨⟩, after)
    ∧ Migrated conv botData after
    ∧ (migrateLegacyStorage conv).exec after = (.ok ⟨⟩, after)
  := by
  obtain ⟨_, after, hexec, hafter⟩ := (ends_migrateLegacyStorage h).exists_exec
  have hmigrated := migrated_of_ends hafter
  exact ⟨after, hexec, hmigrated, exec_migrateLegacyStorage_eq_self hmigrated.withoutLegacy⟩

/-! ### One deposit -/

/-- Texts, hex texts and addresses without letters are read as they are. -/
def plainConversions : Conversions where
  str
    | .str s => .ok s
    | _ => .error .valueError
  str_str _ := rfl
  str_error value error h := by
    cases value <;> cases h <;> trivial
  hexBytes
    | .str s =>
        match HexBytes.ofString s with
        | some h => .ok h
        | none => .error .valueError
    | _ => .error .typeError
  hexBytes_to0xHex h := by simp
  hexBytes_error value error h := by
    cases value with
    | str s =>
        simp only at h
        split at h <;> cases h
        trivial
    | _ => cases h; trivial
  toChecksumAddress
    | .str s => .ok ⟨s⟩
    | _ => .error .typeError
  spelling a := a.lower
  toChecksumAddress_spelling _ _ _ := rfl
  toChecksumAddress_error value error h := by
    cases value <;> cases h <;> trivial

def deposit (logIndex : ℤ) : PersistedEvent where
  event := "DepositedSigningKeysCountChanged"
  args := []
  block := 1
  tx := ⟨[]⟩
  address := ⟨"0x0000000000000000000000000000000000000000"⟩
  logIndex := logIndex
  transactionIndex := 0

/-- A deposit in the legacy list, and another one in a legacy window. -/
def twoDeposits : BotData :=
  (Dict.empty.set legacyDigestEventsKey (.list [(deposit 2).toDict plainConversions])).set
    windowsKey (.dict [(.str "first", .dict
      [ (.str "group", .str legacyDepositAggregationGroup),
        (.str "events", .list [(deposit 1).toDict plainConversions]) ])])

theorem migrateLegacyStorage_migrates_two :
  ∃ after, (migrateLegacyStorage plainConversions).exec twoDeposits = (.ok ⟨⟩, after)
    ∧ Migrated plainConversions twoDeposits after
    ∧ (migrateLegacyStorage plainConversions).exec after = (.ok ⟨⟩, after)
  := by
  apply migrateLegacyStorage_migrates
  have hfinite : ∀ logIndex,
      FiniteRecords (.list [(deposit logIndex).toDict plainConversions]) := by
    intro logIndex records hrecords record hrecord
    cases hrecords
    obtain rfl := List.mem_singleton.mp hrecord
    apply PersistedEvent.finiteNumbers_toDict
  constructor
  · exact hfinite 2
  · intro item hitem _
    obtain rfl := List.mem_singleton.mp hitem
    exact hfinite 1
  · nofun

/-- The persisted value of a digest. -/
def persistedDigest (botData : BotData) (name : String) : Option PyObject :=
  match botData.get? digestsKey with
  | some (.dict items) => PyObject.lookupStr name items
  | _ => none

theorem lookupStr_ofRecords (items : List (String × List PyObject)) (name : String) :
  PyObject.lookupStr name (items.map fun item => (.str item.1, .list item.2))
    = (items.lookup name).map .list
  := by
  induction items with
  | nil => rfl
  | cons item items ih =>
      rw [List.map_cons, PyObject.lookupStr, ih, List.lookup_cons]
      by_cases hname : item.1 = name
      · simp [hname]
      · simp [hname, beq_false_of_ne (Ne.symm hname)]

/-- A deposit in the legacy list, and another digest with a record that cannot be read. -/
def unreadableDigest : BotData :=
  (Dict.empty.set legacyDigestEventsKey (.list [(deposit 1).toDict plainConversions])).set
    digestsKey (.dict [(.str "other", .list [.none])])

/-- A record in the legacy list with an infinite block. -/
def infiniteBlock : BotData :=
  Dict.empty.set legacyDigestEventsKey (.list [.dict
    [ (.str "event", .str "DepositedSigningKeysCountChanged"),
      (.str "args", .dict []),
      (.str "block", .float (.infinite false)) ]])

/-- A migration drops the record of another digest that cannot be read, and it raises at an
infinite block. -/
theorem not_preserved_and_raises :
  (∃ after, (migrateLegacyStorage plainConversions).exec unreadableDigest = (.ok ⟨⟩, after)
      ∧ persistedDigest unreadableDigest "other" = some (.list [.none])
      ∧ persistedDigest after "other" ≠ some (.list [.none]))
    ∧ ∃ after, (migrateLegacyStorage plainConversions).exec infiniteBlock
      = (.error .overflowError, after)
  := by
  constructor
  · have hreadable : Readable plainConversions unreadableDigest := by
      constructor
      · intro records hrecords record hrecord
        cases hrecords
        obtain rfl := List.mem_singleton.mp hrecord
        apply PersistedEvent.finiteNumbers_toDict
      · nofun
      · intro items hitems item hitem
        cases hitems
        obtain rfl := List.mem_singleton.mp hitem
        refine ⟨⟨"other", rfl⟩, ?_⟩
        intro records hrecords record hrecord
        cases hrecords
        obtain rfl := List.mem_singleton.mp hrecord
        exact fun _ _ _ => nofun
    obtain ⟨_, after, hexec, hafter⟩ := (ends_migrateLegacyStorage hreadable).exists_exec
    refine ⟨after, hexec, rfl, ?_⟩
    have hlegacy : legacyEvents plainConversions unreadableDigest = [deposit 1] := by
      have hread : ∀ e ∈ [deposit 1], e.WasRead plainConversions := by
        intro e he
        rw [List.mem_singleton.mp he]
        use (deposit 1).toDict plainConversions
        rfl
      exact congrArg (· ++ []) (parseable_map_toDict hread)
    rw [hlegacy, if_neg (List.cons_ne_nil _ _)] at hafter
    obtain ⟨records, rfl, hrecords⟩ := hafter
    have hother := hrecords "other"
    rw [if_neg (by decide)] at hother
    change records.getD "other" [] = [] at hother
    rw [persistedDigest, Dict.get?_set_self, ofRecords]
    simp only [lookupStr_ofRecords]
    change (records.get? "other").map PyObject.list ≠ _
    rw [Dict.getD] at hother
    cases hget : records.get? "other" with
    | none => nofun
    | some value =>
        rw [hget, Option.getD_some] at hother
        subst hother
        nofun
  · exact ⟨_, rfl⟩

end Migration

end Sentinel
