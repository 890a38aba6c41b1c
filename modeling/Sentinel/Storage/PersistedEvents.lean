import Sentinel.Models
import Mathlib.Data.Rat.Floor

/-!
# Events in persisted data of any shape

The persisted data of the bot may come from older versions and from anywhere else. A record of an
event is a value of any shape, and reading it raises where it is malformed. The numbers of an
event that is read may have any sign.
-/

namespace Sentinel

/-! ### Values of any shape -/

/-- A floating point number. -/
inductive PyFloat where
  | finite (q : ℚ)
  | infinite (negative : Bool)
  | nan

/-- A persisted value. -/
inductive PyObject where
  | none
  | bool (b : Bool)
  | int (n : ℤ)
  | float (x : PyFloat)
  | str (s : String)
  | bytes (b : List UInt8)
  | list (values : List PyObject)
  | tuple (values : List PyObject)
  | set (values : List PyObject)
  | dict (items : List (PyObject × PyObject))
  /-- a value of another type, which is no number and has no members -/
  | object (type : String)

/-- The errors that reading a value raises. -/
inductive ReadError where
  | keyError
  | typeError
  | valueError
  | overflowError
deriving DecidableEq

/-- The errors for which a record is skipped. -/
def ReadError.IsSkipped : ReadError → Prop
  | .keyError | .typeError | .valueError => True
  | .overflowError => False

@[simp]
theorem ok_bind {ε α β : Type} (a : α) (f : α → Except ε β) :
  (Except.ok a >>= f) = f a
  := rfl

@[simp]
theorem error_bind {ε α β : Type} (error : ε) (f : α → Except ε β) :
  (Except.error error >>= f) = .error error
  := rfl

/-- What was returned before something was returned. -/
theorem exists_of_bind_eq_ok {ε α β : Type} {x : Except ε α} {f : α → Except ε β} {b : β}
    (h : (x >>= f) = .ok b) :
  ∃ a, x = .ok a ∧ f a = .ok b
  := by
  cases x with
  | ok a => use a, rfl, h
  | error error => cases h

instance (error : ReadError) : Decidable error.IsSkipped := by
  cases error <;> rw [ReadError.IsSkipped] <;> infer_instance

namespace PyObject

/-- Whether a value counts as true. -/
def isTruthy : PyObject → Bool
  | none => false
  | bool b => b
  | int n => n ≠ 0
  | float (.finite q) => q ≠ 0
  | float _ => true
  | str s => s ≠ ""
  | bytes b => b ≠ []
  | list values | tuple values | set values => !values.isEmpty
  | dict items => !items.isEmpty
  | object _ => true

/-- The value of a dictionary at a text. -/
def lookupStr (key : String) : List (PyObject × PyObject) → Option PyObject
  | [] => Option.none
  | (.str k, value) :: items => if k = key then some value else lookupStr key items
  | _ :: items => lookupStr key items

/-- `value[key]` for a text `key`. -/
def subscript (value : PyObject) (key : String) : Except ReadError PyObject :=
  match value with
  | dict items =>
      match lookupStr key items with
      | some v => .ok v
      | Option.none => .error .keyError
  | _ => .error .typeError

/-- `int(text)`. -/
def intOfText (text : String) : Except ReadError ℤ :=
  match Python.int text with
  | some n => .ok n
  | Option.none => .error .valueError

/-- `int(value)`. -/
def toInt : PyObject → Except ReadError ℤ
  | int n => .ok n
  | bool b => .ok (if b then 1 else 0)
  | float (.finite q) => .ok (q.num.tdiv q.den)
  | float (.infinite _) => .error .overflowError
  | float .nan => .error .valueError
  | str s => intOfText s
  | bytes b =>
      -- white space of bytes is that of ASCII
      if b.all fun byte => byte < 128 ∧ ¬ (28 ≤ byte ∧ byte ≤ 31) then
        intOfText (String.ofList (b.map fun byte => Char.ofNat byte.toNat))
      else .error .valueError
  | _ => .error .typeError

/-- The members that a loop over a value goes through. -/
def iterate : PyObject → Except ReadError (List PyObject)
  | list values | tuple values | set values => .ok values
  | dict items => .ok (items.map Prod.fst)
  | str s => .ok (s.toList.map fun c => .str (String.singleton c))
  | bytes b => .ok (b.map fun byte => .int byte.toNat)
  | _ => .error .typeError

/-- The number that a value is, if it is one. -/
def number : PyObject → Option ℚ
  | bool b => some (if b then 1 else 0)
  | int n => some n
  | float (.finite q) => some q
  | _ => Option.none

mutual

/-- Whether two keys of a dictionary are the same. -/
def sameKey : (a b : PyObject) → Bool
  | none, none => true
  | str s, str t => s = t
  | bytes b, bytes c => b = c
  | float (.infinite n), float (.infinite m) => n = m
  | tuple as, tuple bs => sameKeys as bs
  | a, b =>
      match a.number, b.number with
      | some p, some q => p = q
      | _, _ => false

def sameKeys : (as bs : List PyObject) → Bool
  | [], [] => true
  | a :: as, b :: bs => sameKey a b && sameKeys as bs
  | [], _ :: _ | _ :: _, [] => false

end

mutual

/-- Whether a value can be a key of a dictionary. -/
def isHashable : PyObject → Bool
  | list _ | set _ | dict _ => false
  | tuple values => areHashable values
  | _ => true

def areHashable : List PyObject → Bool
  | [] => true
  | value :: values => isHashable value && areHashable values

end

/-- Set the value of a key. -/
def setKey (key value : PyObject) : List (PyObject × PyObject) → List (PyObject × PyObject)
  | [] => [(key, value)]
  | (k, v) :: items =>
      if sameKey k key then (k, value) :: items else (k, v) :: setKey key value items

/-- Set the key and the value that a member of a sequence of pairs is. -/
def setPair (items : List (PyObject × PyObject)) (pair : PyObject) :
    Except ReadError (List (PyObject × PyObject)) := do
  match ← pair.iterate with
  | [key, value] => if key.isHashable then .ok (setKey key value items) else .error .typeError
  | _ => .error .valueError

/-- `dict(value)`. -/
def toDict : PyObject → Except ReadError (List (PyObject × PyObject))
  | dict items => .ok items
  | value => do (← value.iterate).foldlM setPair []

end PyObject

/-! ### Records of events -/

/-- The functions that reading and writing a record calls: `str`, `HexBytes`,
`to_checksum_address`, and the spelling of a checksum address, which is read as the address if
anything is. -/
structure Conversions where
  str : PyObject → Except ReadError String
  str_str : ∀ s, str (.str s) = .ok s
  str_error : ∀ value error, str value = .error error → error.IsSkipped
  hexBytes : PyObject → Except ReadError HexBytes
  hexBytes_to0xHex : ∀ h : HexBytes, hexBytes (.str h.to0xHex) = .ok h
  hexBytes_error : ∀ value error, hexBytes value = .error error → error.IsSkipped
  toChecksumAddress : PyObject → Except ReadError ChecksumAddress
  spelling : ChecksumAddress → String
  toChecksumAddress_spelling :
    ∀ value a, toChecksumAddress value = .ok a → toChecksumAddress (.str (spelling a)) = .ok a
  toChecksumAddress_error :
    ∀ value error, toChecksumAddress value = .error error → error.IsSkipped

/-- An event that was read from persisted data. -/
structure PersistedEvent where
  event : String
  args : List (PyObject × PyObject)
  block : ℤ
  tx : HexBytes
  address : ChecksumAddress
  logIndex : ℤ
  transactionIndex : ℤ

namespace PersistedEvent

/-- The address, transaction and log index that identify the log of an event. -/
def logIdentity (e : PersistedEvent) : String × String × ℤ :=
  (e.address.lower, e.tx.to0xHex, e.logIndex)

/-- The position of an event on the chain: block, transaction index, log index. -/
def chainPosition (e : PersistedEvent) : ℤ ×ₗ ℤ ×ₗ ℤ :=
  toLex (e.block, toLex (e.transactionIndex, e.logIndex))

/-- The record of an event. -/
def toDict (conv : Conversions) (e : PersistedEvent) : PyObject :=
  .dict
    [ (.str "event", .str e.event),
      (.str "args", .dict e.args),
      (.str "block", .int e.block),
      (.str "tx", .str e.tx.to0xHex),
      (.str "address", .str (conv.spelling e.address)),
      (.str "log_index", .int e.logIndex),
      (.str "transaction_index", .int e.transactionIndex) ]

/-- The event of a record. -/
def fromDict (conv : Conversions) (record : PyObject) : Except ReadError PersistedEvent := do
  let event ← conv.str (← record.subscript "event")
  let args ← (← record.subscript "args").toDict
  let block ← (← record.subscript "block").toInt
  let tx ← conv.hexBytes (← record.subscript "tx")
  let address ← conv.toChecksumAddress (← record.subscript "address")
  let logIndex ← (← record.subscript "log_index").toInt
  let transactionIndex ← (← record.subscript "transaction_index").toInt
  return ⟨event, args, block, tx, address, logIndex, transactionIndex⟩

/-- The event was read from a record. -/
def WasRead (conv : Conversions) (e : PersistedEvent) : Prop :=
  ∃ record, fromDict conv record = .ok e

/-- The address of an event that was read is what reading an address returns. -/
theorem WasRead.address {conv : Conversions} {e : PersistedEvent} (h : e.WasRead conv) :
  ∃ value, conv.toChecksumAddress value = .ok e.address
  := by
  obtain ⟨record, h⟩ := h
  obtain ⟨event, -, h⟩ := exists_of_bind_eq_ok h
  obtain ⟨text, -, h⟩ := exists_of_bind_eq_ok h
  obtain ⟨args, -, h⟩ := exists_of_bind_eq_ok h
  obtain ⟨items, -, h⟩ := exists_of_bind_eq_ok h
  obtain ⟨block, -, h⟩ := exists_of_bind_eq_ok h
  obtain ⟨number, -, h⟩ := exists_of_bind_eq_ok h
  obtain ⟨tx, -, h⟩ := exists_of_bind_eq_ok h
  obtain ⟨hash, -, h⟩ := exists_of_bind_eq_ok h
  obtain ⟨value, -, h⟩ := exists_of_bind_eq_ok h
  obtain ⟨address, haddress, h⟩ := exists_of_bind_eq_ok h
  obtain ⟨logIndex, -, h⟩ := exists_of_bind_eq_ok h
  obtain ⟨number', -, h⟩ := exists_of_bind_eq_ok h
  obtain ⟨transactionIndex, -, h⟩ := exists_of_bind_eq_ok h
  obtain ⟨number'', -, h⟩ := exists_of_bind_eq_ok h
  obtain rfl := Except.ok.inj h
  use value, haddress

/-- An event that was read is read back from its record. -/
theorem fromDict_toDict {conv : Conversions} {e : PersistedEvent} (h : e.WasRead conv) :
  fromDict conv (e.toDict conv) = .ok e
  := by
  obtain ⟨value, haddress⟩ := h.address
  have hsubscript : ∀ key value, PyObject.lookupStr key
        [ (.str "event", .str e.event),
          (.str "args", .dict e.args),
          (.str "block", .int e.block),
          (.str "tx", .str e.tx.to0xHex),
          (.str "address", .str (conv.spelling e.address)),
          (.str "log_index", .int e.logIndex),
          (.str "transaction_index", .int e.transactionIndex) ] = some value →
      (e.toDict conv).subscript key = .ok value := by
    intro key value hvalue
    rw [toDict, PyObject.subscript, hvalue]
  rw [fromDict, hsubscript "event" _ rfl, hsubscript "args" _ rfl, hsubscript "block" _ rfl,
    hsubscript "tx" _ rfl, hsubscript "address" _ rfl, hsubscript "log_index" _ rfl,
    hsubscript "transaction_index" _ rfl]
  simp only [ok_bind, conv.str_str, conv.hexBytes_to0xHex,
    conv.toChecksumAddress_spelling value _ haddress, PyObject.toDict, PyObject.toInt]
  rfl

end PersistedEvent

/-! ### Reading raises -/

/-- Reading raises only errors for which a record is skipped. -/
def RaisesSkipped {α : Type} (x : Except ReadError α) : Prop :=
  ∀ error, x = .error error → error.IsSkipped

theorem raisesSkipped_ok {α : Type} (a : α) :
  RaisesSkipped (.ok a : Except ReadError α)
  := nofun

theorem raisesSkipped_error {α : Type} {error : ReadError} (h : error.IsSkipped) :
  RaisesSkipped (.error error : Except ReadError α)
  := by
  intro error' heq
  cases heq
  exact h

theorem RaisesSkipped.bind {α β : Type} {x : Except ReadError α} {f : α → Except ReadError β}
    (hx : RaisesSkipped x) (hf : ∀ a, x = .ok a → RaisesSkipped (f a)) :
  RaisesSkipped (x >>= f)
  := by
  cases x with
  | ok a => exact hf a rfl
  | error error => exact raisesSkipped_error (hx error rfl)

namespace PyObject

theorem raisesSkipped_subscript (value : PyObject) (key : String) :
  RaisesSkipped (value.subscript key)
  := by
  cases value with
  | dict items =>
      rw [subscript]
      cases lookupStr key items with
      | none => exact raisesSkipped_error trivial
      | some v => exact raisesSkipped_ok v
  | _ => exact raisesSkipped_error trivial

/-- A number that is infinite. -/
def Infinite (value : PyObject) : Prop :=
  ∃ negative, value = .float (.infinite negative)

theorem raisesSkipped_intOfText (text : String) :
  RaisesSkipped (intOfText text)
  := by
  rw [intOfText]
  cases Python.int text with
  | none => exact raisesSkipped_error trivial
  | some n => exact raisesSkipped_ok n

/-- Reading an integer from a value that is not infinite. -/
theorem raisesSkipped_toInt {value : PyObject} (h : ¬ value.Infinite) :
  RaisesSkipped value.toInt
  := by
  cases value with
  | int n => exact raisesSkipped_ok _
  | bool b => exact raisesSkipped_ok _
  | float x =>
      cases x with
      | finite q => exact raisesSkipped_ok _
      | infinite negative => exact absurd ⟨negative, rfl⟩ h
      | nan => exact raisesSkipped_error trivial
  | str s => exact raisesSkipped_intOfText s
  | bytes b =>
      change RaisesSkipped (if _ then _ else _)
      split
      · exact raisesSkipped_intOfText _
      · exact raisesSkipped_error trivial
  | _ => exact raisesSkipped_error trivial

theorem raisesSkipped_iterate (value : PyObject) :
  RaisesSkipped value.iterate
  := by
  cases value with
  | list values => exact raisesSkipped_ok _
  | tuple values => exact raisesSkipped_ok _
  | set values => exact raisesSkipped_ok _
  | dict items => exact raisesSkipped_ok _
  | str s => exact raisesSkipped_ok _
  | bytes b => exact raisesSkipped_ok _
  | _ => exact raisesSkipped_error trivial

theorem raisesSkipped_setPair (items : List (PyObject × PyObject)) (pair : PyObject) :
  RaisesSkipped (setPair items pair)
  := by
  apply (raisesSkipped_iterate pair).bind
  intro members _
  split
  · split
    · exact raisesSkipped_ok _
    · exact raisesSkipped_error trivial
  · exact raisesSkipped_error trivial

theorem raisesSkipped_toDict (value : PyObject) :
  RaisesSkipped value.toDict
  := by
  unfold toDict
  split
  · exact raisesSkipped_ok _
  next =>
      apply (raisesSkipped_iterate value).bind
      rintro pairs -
      generalize ([] : List (PyObject × PyObject)) = items
      induction pairs generalizing items with
      | nil => exact raisesSkipped_ok items
      | cons pair pairs ih =>
          rw [List.foldlM_cons]
          apply (raisesSkipped_setPair items pair).bind
          intro items' _
          apply ih

end PyObject

/-- The numbers of a record are not infinite. -/
def FiniteNumbers (record : PyObject) : Prop :=
  ∀ key ∈ ["block", "log_index", "transaction_index"], ∀ value,
    record.subscript key = .ok value → ¬ value.Infinite

theorem PersistedEvent.finiteNumbers_toDict (conv : Conversions) (e : PersistedEvent) :
  FiniteNumbers (e.toDict conv)
  := by
  intro key hkey value hvalue
  simp only [List.mem_cons, List.not_mem_nil, or_false] at hkey
  rintro ⟨negative, rfl⟩
  rcases hkey with rfl | rfl | rfl <;> cases hvalue

/-- A record whose numbers are not infinite is read or skipped. -/
theorem raisesSkipped_fromDict (conv : Conversions) {record : PyObject}
    (h : FiniteNumbers record) :
  RaisesSkipped (PersistedEvent.fromDict conv record)
  := by
  have hfinite : ∀ key ∈ ["block", "log_index", "transaction_index"], ∀ value,
      record.subscript key = .ok value → RaisesSkipped value.toInt :=
    fun key hkey value hvalue => PyObject.raisesSkipped_toInt (h key hkey value hvalue)
  apply (record.raisesSkipped_subscript "event").bind
  intro event _
  apply RaisesSkipped.bind (conv.str_error event)
  intro event _
  apply (record.raisesSkipped_subscript "args").bind
  intro args _
  apply (PyObject.raisesSkipped_toDict args).bind
  intro args _
  apply (record.raisesSkipped_subscript "block").bind
  intro block hblock
  apply (hfinite "block" (by simp) block hblock).bind
  intro block _
  apply (record.raisesSkipped_subscript "tx").bind
  intro tx _
  apply RaisesSkipped.bind (conv.hexBytes_error tx)
  intro tx _
  apply (record.raisesSkipped_subscript "address").bind
  intro address _
  apply RaisesSkipped.bind (conv.toChecksumAddress_error address)
  intro address _
  apply (record.raisesSkipped_subscript "log_index").bind
  intro logIndex hlogIndex
  apply (hfinite "log_index" (by simp) logIndex hlogIndex).bind
  intro logIndex _
  apply (record.raisesSkipped_subscript "transaction_index").bind
  intro transactionIndex htransactionIndex
  apply (hfinite "transaction_index" (by simp) transactionIndex htransactionIndex).bind
  intro transactionIndex _
  exact raisesSkipped_ok _

/-! ### Lists of records -/

/-- The events of records, those that are malformed skipped. -/
def parseRecords (conv : Conversions) : List PyObject → Except ReadError (List PersistedEvent)
  | [] => .ok []
  | record :: records =>
      match PersistedEvent.fromDict conv record with
      | .ok e => do
          let events ← parseRecords conv records
          return e :: events
      | .error error =>
          if error.IsSkipped then parseRecords conv records else .error error

/-- `DigestStore.parse_events(value)`. -/
def parsePersisted (conv : Conversions) (value : PyObject) :
    Except ReadError (List PersistedEvent) :=
  if value.isTruthy then
    match value with
    | .list records => parseRecords conv records
    | _ => .ok []
  else .ok []

/-- The events of a persisted value that can be read. -/
def parseable (conv : Conversions) : PyObject → List PersistedEvent
  | .list records => records.filterMap fun record => (PersistedEvent.fromDict conv record).toOption
  | _ => []

/-- The numbers of the records of a persisted value are not infinite. -/
def FiniteRecords (value : PyObject) : Prop :=
  ∀ records, value = .list records → ∀ record ∈ records, FiniteNumbers record

/-- Reading records whose numbers are not infinite gives the events that can be read. -/
theorem parseRecords_eq (conv : Conversions) {records : List PyObject}
    (h : ∀ record ∈ records, FiniteNumbers record) :
  parseRecords conv records = .ok (parseable conv (.list records))
  := by
  induction records with
  | nil => rfl
  | cons record records ih =>
      obtain ⟨hrecord, hrecords⟩ := List.forall_mem_cons.mp h
      have hrest := ih hrecords
      rw [parseable] at hrest ⊢
      rw [parseRecords, List.filterMap_cons]
      cases hread : PersistedEvent.fromDict conv record with
      | ok e =>
          simp only [hrest]
          rfl
      | error error =>
          have hskipped := raisesSkipped_fromDict conv hrecord error hread
          simp only [if_pos hskipped, hrest]
          rfl

/-- Reading a persisted value gives the events that can be read. -/
theorem parsePersisted_eq (conv : Conversions) {value : PyObject} (h : FiniteRecords value) :
  parsePersisted conv value = .ok (parseable conv value)
  := by
  unfold parsePersisted
  cases value with
  | list records =>
      cases records with
      | nil => rfl
      | cons record records => exact parseRecords_eq conv (h _ rfl)
  | _ => exact ite_id _

/-- The events that can be read were read. -/
theorem wasRead_of_mem_parseable {conv : Conversions} {value : PyObject} {e : PersistedEvent}
    (h : e ∈ parseable conv value) :
  e.WasRead conv
  := by
  cases value with
  | list records =>
      obtain ⟨record, -, hread⟩ := List.mem_filterMap.mp h
      use record
      cases hrecord : PersistedEvent.fromDict conv record with
      | ok e' =>
          rw [hrecord] at hread
          rw [Option.some.inj hread]
      | error error =>
          rw [hrecord] at hread
          cases hread
  | _ => cases h

/-- Events that were read are read back from the list of their records. -/
theorem parseable_map_toDict {conv : Conversions} {events : List PersistedEvent}
    (h : ∀ e ∈ events, e.WasRead conv) :
  parseable conv (.list (events.map (PersistedEvent.toDict conv))) = events
  := by
  rw [parseable, List.filterMap_map]
  have hread : ∀ e ∈ events, ((fun record => (PersistedEvent.fromDict conv record).toOption)
      ∘ PersistedEvent.toDict conv) e = some e := by
    intro e he
    rw [Function.comp_apply, PersistedEvent.fromDict_toDict (h e he)]
    rfl
  rw [List.filterMap_congr hread, List.filterMap_some]

end Sentinel
