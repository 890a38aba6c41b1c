import Sentinel.Dict
import Sentinel.Hex
import Sentinel.Sorting
import Sentinel.Text
import Mathlib.Data.Prod.Lex

/-!
# Events, blocks and notifications

The data the watcher passes around: an `Event` decoded from a log, a `Block` that is
complete, and an `EventNotification`, a nonempty sequence of source events. Events are
persisted as records (`Event.toDict`) and read back (`Event.fromDict`).
-/

namespace Sentinel

/-! ### Values -/

/-- A value of a decoded event argument. -/
inductive Value where
  | int (n : ℤ)
  | str (s : String)
  | bool (b : Bool)
  | bytes (b : List UInt8)
  | list (values : List Value)
  | dict (items : List (String × Value))

namespace Value

mutual

/-- Values have decidable equality, decided along the two values. -/
def decEq : (v w : Value) → Decidable (v = w)
  | int n, int m => decidable_of_iff (n = m) (by rw [int.injEq])
  | str s, str t => decidable_of_iff (s = t) (by rw [str.injEq])
  | bool b, bool c => decidable_of_iff (b = c) (by rw [bool.injEq])
  | bytes b, bytes c => decidable_of_iff (b = c) (by rw [bytes.injEq])
  | list vs, list ws =>
      match decEqList vs ws with
      | isTrue h => isTrue (by rw [h])
      | isFalse h => isFalse fun heq => h (list.inj heq)
  | dict is, dict js =>
      match decEqItems is js with
      | isTrue h => isTrue (by rw [h])
      | isFalse h => isFalse fun heq => h (dict.inj heq)
  | int _, str _ | int _, bool _ | int _, bytes _ | int _, list _ | int _, dict _
  | str _, int _ | str _, bool _ | str _, bytes _ | str _, list _ | str _, dict _
  | bool _, int _ | bool _, str _ | bool _, bytes _ | bool _, list _ | bool _, dict _
  | bytes _, int _ | bytes _, str _ | bytes _, bool _ | bytes _, list _ | bytes _, dict _
  | list _, int _ | list _, str _ | list _, bool _ | list _, bytes _ | list _, dict _
  | dict _, int _ | dict _, str _ | dict _, bool _ | dict _, bytes _ | dict _, list _ =>
      isFalse nofun

def decEqList : (vs ws : List Value) → Decidable (vs = ws)
  | [], [] => isTrue rfl
  | v :: vs, w :: ws =>
      match decEq v w, decEqList vs ws with
      | isTrue h, isTrue h' => isTrue (by rw [h, h'])
      | isFalse h, _ => isFalse fun heq => h (List.cons.inj heq).1
      | _, isFalse h => isFalse fun heq => h (List.cons.inj heq).2
  | [], _ :: _ | _ :: _, [] => isFalse nofun

def decEqItems : (is js : List (String × Value)) → Decidable (is = js)
  | [], [] => isTrue rfl
  | (k, v) :: is, (k', w) :: js =>
      match (inferInstance : Decidable (k = k')), decEq v w, decEqItems is js with
      | isTrue h, isTrue h', isTrue h'' => isTrue (by rw [h, h', h''])
      | isFalse h, _, _ => isFalse fun heq => h (Prod.mk.inj (List.cons.inj heq).1).1
      | _, isFalse h, _ => isFalse fun heq => h (Prod.mk.inj (List.cons.inj heq).1).2
      | _, _, isFalse h => isFalse fun heq => h (List.cons.inj heq).2
  | [], _ :: _ | _ :: _, [] => isFalse nofun

end

instance : DecidableEq Value := decEq

mutual

/-- `repr(value)`. -/
def repr : Value → String
  | int n => toString n
  | str s => Python.reprText s
  | bool b => if b then "True" else "False"
  | bytes b => Python.reprBytes b
  | list values => "[" ++ ", ".intercalate (reprList values) ++ "]"
  | dict items => Python.braced (", ".intercalate (reprItems items))

def reprList : List Value → List String
  | [] => []
  | v :: values => repr v :: reprList values

def reprItems : List (String × Value) → List String
  | [] => []
  | (k, v) :: items => (Python.reprText k ++ ": " ++ repr v) :: reprItems items

end

/-- `str(value)`. -/
def toText : Value → String
  | str s => s
  | v => v.repr

/-- `int(value)`, `none` where it raises. -/
def toInt : Value → Option ℤ
  | int n => some n
  | bool b => some (if b then 1 else 0)
  | str s => Python.int s
  | bytes b => Python.int (String.ofList (b.map fun b => Char.ofNat b.toNat))
  | list _ | dict _ => none

end Value

/-! ### Hashes and addresses -/

/-- A byte string, written as a `0x` hex string. -/
structure HexBytes where
  bytes : List UInt8
deriving DecidableEq

namespace HexBytes

/-- The `0x` hex string of a byte string. -/
def to0xHex (h : HexBytes) : String :=
  String.ofList ('0' :: 'x' :: h.bytes.flatMap hexDigits)

/-- The hex digits of a text without its `0x` prefix, an odd number of them padded with
a leading zero. -/
def digitsOf (text : List Char) : List Char :=
  let digits := match text with
    | '0' :: 'x' :: cs => cs
    | '0' :: 'X' :: cs => cs
    | cs => cs
  if digits.length % 2 = 0 then digits else '0' :: digits

/-- `HexBytes(text)`, `none` where the text is not a hex string. -/
def ofString (text : String) : Option HexBytes :=
  (unhexlify (digitsOf text.toList)).map HexBytes.mk

end HexBytes

/-- A byte string is read back from its hex string. -/
@[simp]
theorem HexBytes.ofString_to0xHex (h : HexBytes) :
  HexBytes.ofString h.to0xHex = some h
  := by
  have heven : (h.bytes.flatMap hexDigits).length % 2 = 0 := by
    rw [length_flatMap_hexDigits]
    omega
  have hdigits : digitsOf ('0' :: 'x' :: h.bytes.flatMap hexDigits)
      = h.bytes.flatMap hexDigits := by
    simp only [digitsOf]
    rw [if_pos heven]
  rw [ofString, to0xHex, String.toList_ofList, hdigits, unhexlify_flatMap_hexDigits]
  rfl

/-- A checksum address. Its spelling is determined by its lower case spelling, which is
what `lower` holds. -/
structure ChecksumAddress where
  lower : String
deriving DecidableEq

/-! ### Blocks and events -/

/-- A block all of whose logs were delivered. -/
structure Block where
  number : ℕ
deriving DecidableEq

/-- An event decoded from a log. -/
structure Event where
  event : String
  args : Dict String Value
  block : ℕ
  tx : HexBytes
  address : ChecksumAddress
  logIndex : ℕ
  transactionIndex : ℕ
deriving DecidableEq

namespace Event

/-- The address, transaction and log index that identify the log of an event. -/
def logIdentity (e : Event) : String × String × ℕ :=
  (e.address.lower, e.tx.to0xHex, e.logIndex)

instance lawfulBEq_logIdentity : LawfulBEq (String × String × ℕ) := inferInstance

/-- The position of an event on the chain: block, transaction index, log index. -/
def chainPosition (e : Event) : ℕ ×ₗ ℕ ×ₗ ℕ :=
  toLex (e.block, toLex (e.transactionIndex, e.logIndex))

end Event

/-- The persisted form of an event. -/
structure EventRecord where
  event : String
  args : Dict String Value
  block : ℕ
  tx : String
  address : ChecksumAddress
  logIndex : ℕ
  transactionIndex : ℕ

namespace Event

/-- The record of an event. -/
def toDict (e : Event) : EventRecord where
  event := e.event
  args := e.args
  block := e.block
  tx := e.tx.to0xHex
  address := e.address
  logIndex := e.logIndex
  transactionIndex := e.transactionIndex

/-- The event of a record, `none` where reading the record raises. -/
def fromDict (record : EventRecord) : Option Event :=
  (HexBytes.ofString record.tx).map fun tx =>
    { event := record.event
      args := record.args
      block := record.block
      tx := tx
      address := record.address
      logIndex := record.logIndex
      transactionIndex := record.transactionIndex }

/-- An event is read back from its record. -/
@[simp]
theorem fromDict_toDict (e : Event) :
  fromDict e.toDict = some e
  := by
  simp [fromDict, toDict]

/-- A matching log, the first one of its block. -/
def first (number : ℕ) : Event where
  event := "BondLockChanged"
  args := .empty
  block := number
  tx := ⟨[]⟩
  address := ⟨"0x"⟩
  logIndex := 0
  transactionIndex := 0

end Event

/-! ### Notifications -/

/-- A notification about a nonempty sequence of source events. -/
structure EventNotification where
  sourceEvents : List Event
  nonempty : sourceEvents ≠ []

namespace EventNotification

/-- The notification about a single event. -/
def fromEvent (e : Event) : EventNotification where
  sourceEvents := [e]
  nonempty := List.cons_ne_nil e []

/-- The event a notification is reported as: its last source event. -/
def primaryEvent (n : EventNotification) : Event :=
  n.sourceEvents.getLast n.nonempty

end EventNotification

end Sentinel
