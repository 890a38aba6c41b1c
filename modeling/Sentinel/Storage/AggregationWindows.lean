import Sentinel.Json
import Sentinel.Modules.Aggregation
import Sentinel.Storage.DigestStore
import Sentinel.Transition

/-!
# The aggregation window store

`AggregationWindowStore` persists the pending aggregation windows as records under a text
key made of what identifies a window: its group, the kind and the value of its key, and its
first and its last block. Different identities have different keys and a window is read back
from its record, so the store is a finite map from identities to windows that remembers the
order in which they were inserted.
-/

namespace Sentinel

/-! ### Records -/

/-- The persisted form of an aggregation window. -/
structure WindowRecord where
  group : String
  kind : String
  value : String
  startBlock : ℕ
  endBlock : ℕ
  eventNames : List String
  events : List EventRecord

namespace AggregationWindow

/-- What identifies a window. -/
structure Identity where
  group : String
  kind : String
  value : String
  startBlock : ℕ
  endBlock : ℕ
deriving DecidableEq

/-- The identity of a window. -/
def identity (window : AggregationWindow) : Identity where
  group := window.group
  kind := window.aggregationKey.kind
  value := window.aggregationKey.value
  startBlock := window.startBlock
  endBlock := window.endBlock

@[simp]
theorem identity_withEvent (window : AggregationWindow) (e : Event) :
  (window.withEvent e).identity = window.identity
  := by
  simp [identity]

/-- The key of the record of a window of a group, a kind and a value of its key, and its first
and its last block, whose texts are code points. -/
def recordKey (group kind value : List Json.CodePoint) (startBlock endBlock : ℕ) : String :=
  Json.dumps [.str group, .str kind, .str value, .num startBlock, .num endBlock]

/-- Windows share a record key when their blocks are the same and their texts have the same UTF-16
code units. -/
theorem recordKey_eq_iff {group group' kind kind' value value' : List Json.CodePoint}
    {startBlock startBlock' endBlock endBlock' : ℕ} :
  recordKey group kind value startBlock endBlock
      = recordKey group' kind' value' startBlock' endBlock'
    ↔ Json.utf16 group = Json.utf16 group' ∧ Json.utf16 kind = Json.utf16 kind'
      ∧ Json.utf16 value = Json.utf16 value' ∧ startBlock = startBlock' ∧ endBlock = endBlock'
  := by
  rw [recordKey, recordKey, Json.dumps_eq_iff]
  simp [Json.Atom.view]

/-- The key of the record of a window. -/
def keyFor (window : AggregationWindow) : String :=
  recordKey (Json.points window.group) (Json.points window.aggregationKey.kind)
    (Json.points window.aggregationKey.value) window.startBlock window.endBlock

/-- Two windows share a record key only if they have the same identity. -/
theorem keyFor_inj {window window' : AggregationWindow} :
  window.keyFor = window'.keyFor ↔ window.identity = window'.identity
  := by
  rw [keyFor, keyFor, recordKey_eq_iff]
  simp [identity, Json.utf16_points_inj]

/-- The surrogates of a pair are two code points, and the character of the pair is one. Groups of
these names share their record keys, so that storing a window of one of them overwrites the
window of the other. -/
theorem exists_recordKey_eq :
  ∃ group group' : List Json.CodePoint, group ≠ group'
    ∧ recordKey group (Json.points "global") (Json.points "all") 1 1
      = recordKey group' (Json.points "global") (Json.points "all") 1 1
    ∧ ((Dict.empty.set (recordKey group (Json.points "global") (Json.points "all") 1 1) group).set
        (recordKey group' (Json.points "global") (Json.points "all") 1 1) group').values
      = [group']
  := by
  have hkeys (kind value : List Json.CodePoint) (startBlock endBlock : ℕ) :
      recordKey [0xD83D, 0xDE00] kind value startBlock endBlock
        = recordKey [0x1F600] kind value startBlock endBlock := by
    rw [recordKey_eq_iff]
    simp [Json.utf16, Json.units]
  use [0xD83D, 0xDE00], [0x1F600]
  rw [hkeys, Dict.set_set]
  use by decide, rfl
  rfl

/-- The record of a window. -/
def toDict (window : AggregationWindow) : WindowRecord where
  group := window.group
  kind := window.aggregationKey.kind
  value := window.aggregationKey.value
  startBlock := window.startBlock
  endBlock := window.endBlock
  eventNames := window.eventNames.sort (· ≤ ·)
  events := window.events.map Event.toDict

/-- The window of a record, `none` where reading the record raises. -/
def fromDict (record : WindowRecord) : Option AggregationWindow :=
  (readEvents record.events).map fun events =>
    { group := record.group
      aggregationKey := ⟨record.kind, record.value⟩
      startBlock := record.startBlock
      endBlock := record.endBlock
      eventNames := record.eventNames.toFinset
      events := events }

/-- A window is read back from its record. -/
@[simp]
theorem fromDict_toDict (window : AggregationWindow) :
  fromDict window.toDict = some window
  := by
  simp [fromDict, toDict]

end AggregationWindow

/-! ### The store -/

/-- The records of the pending windows. Each can be read, and is stored at its key. -/
structure AggregationWindowStore where
  records : Dict String WindowRecord
  keyed : ∀ item ∈ records.items,
    ∃ window : AggregationWindow, item = (window.keyFor, window.toDict)

namespace AggregationWindowStore

/-- The store without windows. -/
def empty : AggregationWindowStore where
  records := .empty
  keyed := by simp

/-- The windows of the records that can be read. -/
def recordsFrom (records : Dict String WindowRecord) : List AggregationWindow :=
  records.values.filterMap AggregationWindow.fromDict

/-- Store a window, in the place of the window of its key if there is one. -/
def upsertPending (store : AggregationWindowStore) (window : AggregationWindow) :
    AggregationWindowStore where
  records := store.records.set window.keyFor window.toDict
  keyed := by
    rintro ⟨key, record⟩ hmem
    rcases Dict.mem_items_set_iff.mp hmem with ⟨rfl, rfl⟩ | ⟨-, hmem⟩
    · use window
    · apply store.keyed _ hmem

/-- Remove the window of the key of a window. -/
def discard (store : AggregationWindowStore) (window : AggregationWindow) :
    AggregationWindowStore where
  records := store.records.erase window.keyFor
  keyed := by
    rintro ⟨key, record⟩ hmem
    apply store.keyed _ (Dict.mem_items_erase_iff.mp hmem).2

/-- The pending windows. -/
def pending (store : AggregationWindowStore) : List AggregationWindow :=
  recordsFrom store.records

/-- The first pending window of a group and a key that contains a block. -/
def pendingFor (store : AggregationWindowStore) (group : String)
    (aggregationKey : AggregationKey) (block : ℕ) : Option AggregationWindow :=
  store.pending.find? fun window =>
    window.group = group ∧ window.aggregationKey = aggregationKey ∧ window.Contains block

/-- The store over the records that are persisted, those that can be read. -/
def normaliseWindows (records : Dict String WindowRecord) : AggregationWindowStore where
  records := (Dict.collect AggregationWindow.keyFor (recordsFrom records)).mapValues
    AggregationWindow.toDict
  keyed := by
    intro item hmem
    obtain ⟨⟨key, window⟩, hcollected, rfl⟩ := List.mem_map.mp hmem
    obtain ⟨-, rfl⟩ := Dict.mem_of_mem_collect hcollected
    use window

/-! ### The pending windows -/

@[simp]
theorem pending_empty :
  empty.pending = []
  := rfl

/-- The store whose items are those of some windows has these windows pending. -/
theorem pending_eq_of_items {store : AggregationWindowStore} {windows : List AggregationWindow}
    (h : store.records.items = windows.map fun window => (window.keyFor, window.toDict)) :
  store.pending = windows
  := by
  rw [pending, recordsFrom, Dict.values, h, List.map_map, List.filterMap_map]
  simp [Function.comp_def]

/-- The items of the store are those of its pending windows. -/
theorem items_records (store : AggregationWindowStore) :
  store.records.items = store.pending.map fun window => (window.keyFor, window.toDict)
  := by
  have hwindows : ∃ windows : List AggregationWindow,
      store.records.items = windows.map fun window => (window.keyFor, window.toDict) := by
    have hkeyed := store.keyed
    generalize store.records.items = items at hkeyed
    induction items with
    | nil => use []; rfl
    | cons item items ih =>
        obtain ⟨window, rfl⟩ := hkeyed item List.mem_cons_self
        obtain ⟨windows, rfl⟩ := ih fun item hmem => hkeyed item (List.mem_cons_of_mem _ hmem)
        use window :: windows
        rfl
  obtain ⟨windows, hitems⟩ := hwindows
  rw [pending_eq_of_items hitems, hitems]

/-- The pending windows have distinct record keys. -/
theorem nodup_keyFor (store : AggregationWindowStore) :
  (store.pending.map AggregationWindow.keyFor).Nodup
  := by
  have hkeys := store.records.nodup
  rw [items_records, List.map_map] at hkeys
  apply hkeys

/-- The pending windows have distinct identities. -/
theorem nodup_identity (store : AggregationWindowStore) :
  (store.pending.map AggregationWindow.identity).Nodup
  := by
  apply List.Nodup.map_on
  · intro window hwindow window' hwindow' hid
    apply List.inj_on_of_nodup_map store.nodup_keyFor hwindow hwindow'
    apply AggregationWindow.keyFor_inj.mpr hid
  · apply List.Nodup.of_map _ store.nodup_keyFor

/-- Two pending windows of one identity are the same. -/
theorem eq_of_identity_eq {store : AggregationWindowStore} {window window' : AggregationWindow}
    (h : window ∈ store.pending) (h' : window' ∈ store.pending)
    (hid : window.identity = window'.identity) :
  window = window'
  := List.inj_on_of_nodup_map store.nodup_identity h h' hid

/-- Storing a window puts it in the place of the window of its identity, or at the end. -/
theorem pending_upsertPending (store : AggregationWindowStore) (window : AggregationWindow) :
  (store.upsertPending window).pending
    = Dict.upsertBy AggregationWindow.identity window store.pending
  := by
  apply pending_eq_of_items
  change Dict.setItems window.keyFor window.toDict store.records.items = _
  rw [items_records, Dict.setItems_map]
  apply congrArg (List.map _)
  apply Dict.upsertBy_congr
  intro a b
  apply AggregationWindow.keyFor_inj

/-- Discarding a window removes the window of its identity and no other. -/
theorem pending_discard (store : AggregationWindowStore) (window : AggregationWindow) :
  (store.discard window).pending
    = store.pending.filter fun window' => window'.identity ≠ window.identity
  := by
  apply pending_eq_of_items
  change store.records.items.filter (fun item => item.1 ≠ window.keyFor) = _
  rw [items_records, List.filter_map]
  apply congrArg (List.map _)
  apply List.filter_congr
  intro window' _
  simp [AggregationWindow.keyFor_inj]

/-- Opening the store over its own records changes nothing. -/
@[simp]
theorem normaliseWindows_records (store : AggregationWindowStore) :
  normaliseWindows store.records = store
  := by
  have hitems : (normaliseWindows store.records).records.items = store.records.items := by
    change (Dict.collect AggregationWindow.keyFor store.pending).items.map
      (fun item => (item.1, item.2.toDict)) = store.records.items
    rw [Dict.items_collect, Dict.values_collect_of_nodup store.nodup_keyFor, items_records,
      List.map_map]
    rfl
  obtain ⟨records, hkeyed⟩ := store
  simp only [normaliseWindows, mk.injEq]
  apply Dict.ext hitems

/-- The pending windows after a window is stored: it and those of another identity. -/
theorem mem_pending_upsertPending {store : AggregationWindowStore}
    {window window' : AggregationWindow} :
  window' ∈ (store.upsertPending window).pending
    ↔ window' = window ∨ window'.identity ≠ window.identity ∧ window' ∈ store.pending
  := by
  rw [pending_upsertPending]
  apply Dict.mem_upsertBy store.nodup_identity

/-- The pending windows after a window is discarded: those of another identity. -/
theorem mem_pending_discard {store : AggregationWindowStore}
    {window window' : AggregationWindow} :
  window' ∈ (store.discard window).pending
    ↔ window' ∈ store.pending ∧ window'.identity ≠ window.identity
  := by
  rw [pending_discard, List.mem_filter, decide_eq_true_eq]

/-! ### The store as a finite map -/

/-- The windows of the store by their identities. -/
def asMap (store : AggregationWindowStore) :
    Dict AggregationWindow.Identity AggregationWindow where
  items := store.pending.map fun window => (window.identity, window)
  nodup := by
    rw [List.map_map]
    apply store.nodup_identity

/-- An operation on the store. -/
inductive Operation where
  | upsertPending (window : AggregationWindow)
  | discard (window : AggregationWindow)
  /-- the store is opened again over its records -/
  | reopened

/-- The identity of the window that an operation stores or discards. -/
def Operation.target : Operation → Option AggregationWindow.Identity
  | .upsertPending window | .discard window => some window.identity
  | .reopened => none

/-- The store after an operation. -/
def apply (store : AggregationWindowStore) : Operation → AggregationWindowStore
  | .upsertPending window => store.upsertPending window
  | .discard window => store.discard window
  | .reopened => normaliseWindows store.records

/-- What an operation does to a map from identities to windows. -/
def applyMap (map : Dict AggregationWindow.Identity AggregationWindow) :
    Operation → Dict AggregationWindow.Identity AggregationWindow
  | .upsertPending window => map.set window.identity window
  | .discard window => map.erase window.identity
  | .reopened => map

@[simp]
theorem values_asMap (store : AggregationWindowStore) :
  store.asMap.values = store.pending
  := by
  simp [asMap, Dict.values, Function.comp_def]

/-- An operation on the store is one on its map. -/
theorem asMap_apply (store : AggregationWindowStore) (op : Operation) :
  (store.apply op).asMap = applyMap store.asMap op
  := by
  apply Dict.ext
  cases op with
  | upsertPending window =>
      change (store.upsertPending window).pending.map _
        = Dict.setItems window.identity window (store.pending.map _)
      rw [pending_upsertPending, Dict.setItems_map _ (fun window => window)]
  | discard window =>
      change (store.discard window).pending.map _ = (store.pending.map _).filter _
      rw [pending_discard, List.filter_map]
      rfl
  | reopened => rw [apply, normaliseWindows_records, applyMap]

/-- A run of operations on the store is one on its map. -/
theorem asMap_foldl_apply (store : AggregationWindowStore) (ops : List Operation) :
  (ops.foldl apply store).asMap = ops.foldl applyMap store.asMap
  := by
  induction ops generalizing store with
  | nil => rfl
  | cons op ops ih => rw [List.foldl_cons, List.foldl_cons, ih, asMap_apply]

/-- A window is pending after an operation that stores it, and after one about another
identity if it was pending before. -/
theorem mem_pending_apply {store : AggregationWindowStore} {op : Operation}
    {window : AggregationWindow} :
  window ∈ (store.apply op).pending
    ↔ op = .upsertPending window
      ∨ op.target ≠ some window.identity ∧ window ∈ store.pending
  := by
  cases op with
  | upsertPending window' =>
      rw [apply, mem_pending_upsertPending]
      simp [Operation.target, eq_comm]
  | discard window' =>
      rw [apply, mem_pending_discard]
      simp [Operation.target, eq_comm, and_comm]
  | reopened => simp [apply, Operation.target]

/-- A window was pending before some operations and none of them is about its identity, or
it is what the last of them about its identity stored. -/
def LastVersion (store : AggregationWindowStore) (ops : List Operation)
    (window : AggregationWindow) : Prop :=
  window ∈ store.pending ∧ (∀ op ∈ ops, op.target ≠ some window.identity)
    ∨ ∃ before after, ops = before ++ .upsertPending window :: after
        ∧ ∀ op ∈ after, op.target ≠ some window.identity

/-- What the last version is after one more operation. -/
theorem lastVersion_concat {store : AggregationWindowStore} {ops : List Operation}
    {op : Operation} {window : AggregationWindow} :
  store.LastVersion (ops ++ [op]) window
    ↔ op = .upsertPending window
      ∨ op.target ≠ some window.identity ∧ store.LastVersion ops window
  := by
  constructor
  · rintro (⟨hpending, hops⟩ | ⟨before, after, hops, hafter⟩)
    · right
      use hops op (List.mem_append_right _ List.mem_cons_self)
      left
      use hpending
      intro op' hmem
      apply hops op' (List.mem_append_left _ hmem)
    · rcases List.eq_nil_or_concat after with rfl | ⟨after, last, rfl⟩
      · left
        apply (List.append_inj' hops rfl).2 |> List.head_eq_of_cons_eq
      · right
        rw [List.concat_eq_append, ← List.cons_append, ← List.append_assoc] at hops
        obtain ⟨hinit, hlast⟩ := List.append_inj' hops rfl
        obtain rfl := List.head_eq_of_cons_eq hlast
        rw [List.concat_eq_append] at hafter
        use hafter op (List.mem_append_right _ List.mem_cons_self)
        right
        use before, after, hinit
        intro op' hmem
        apply hafter op' (List.mem_append_left _ hmem)
  · rintro (rfl | ⟨hop, hlast⟩)
    · right
      use ops, [], rfl
      simp
    · have hconcat : ∀ l : List Operation, (∀ op' ∈ l, op'.target ≠ some window.identity) →
          ∀ op' ∈ l ++ [op], op'.target ≠ some window.identity := by
        intro l hl op' hmem
        rcases List.mem_append.mp hmem with hmem | hmem
        · apply hl op' hmem
        · rw [List.mem_singleton.mp hmem]
          apply hop
      rcases hlast with ⟨hpending, hops⟩ | ⟨before, after, rfl, hafter⟩
      · left
        use hpending, hconcat ops hops
      · right
        use before, after ++ [op]
        constructor
        · simp
        · apply hconcat after hafter

/-- The pending windows after a run of operations are the last versions. -/
theorem mem_pending_foldl_apply (store : AggregationWindowStore) (ops : List Operation)
    (window : AggregationWindow) :
  window ∈ (ops.foldl apply store).pending ↔ store.LastVersion ops window
  := by
  induction ops using List.reverseRecOn with
  | nil => simp [LastVersion]
  | append_singleton ops op ih =>
      rw [List.foldl_append, List.foldl_cons, List.foldl_nil, mem_pending_apply, ih,
        lastVersion_concat]

/-- The store is a finite map from identities to windows: its operations are those of the
map, its pending windows are the last versions in the order of the map, its record keys tell
exactly the identities apart, and discarding a window changes no other. -/
theorem refines_map (store : AggregationWindowStore) (ops : List Operation) :
  (ops.foldl apply store).pending = (ops.foldl applyMap store.asMap).values
    ∧ (∀ window, window ∈ (ops.foldl apply store).pending ↔ store.LastVersion ops window)
    ∧ (∀ window window' : AggregationWindow,
        window.keyFor = window'.keyFor ↔ window.identity = window'.identity)
    ∧ ∀ window, ((ops.foldl apply store).discard window).pending
        = (ops.foldl apply store).pending.filter fun window' =>
            window'.identity ≠ window.identity
  := by
  use by rw [← asMap_foldl_apply, values_asMap], store.mem_pending_foldl_apply ops
  use fun window window' => AggregationWindow.keyFor_inj
  apply pending_discard

end AggregationWindowStore

end Sentinel
