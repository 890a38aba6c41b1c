import Sentinel.Dict
import Sentinel.Text

/-!
# The identity of a runtime

The persisted data of the bot belongs to one runtime: a chain, a module address and a module
type. A process binds the data to its identity when no identity is stored, and otherwise goes
on only when the stored identity is its own. The stored value is of any shape, as the data
may come from anywhere.
-/

namespace Sentinel

open Python (LowerCase)

/-! ### Values of any shape -/

/-- A value of persisted data. -/
inductive Object where
  | none
  | bool (b : Bool)
  | int (n : ℤ)
  | str (s : String)
  | dict (items : List (Object × Object))
  /-- a value of another type, such as a list, a number that is no integer or bytes, none of
  which has values at texts -/
  | other (type : String) (values : List Object)

/-- The errors that are raised. -/
inductive PyError where
  | keyError
  | typeError
  | valueError (message : String)
  | runtimeError (message : String)
  /-- `RuntimeIdentityMismatch`, a `RuntimeError` -/
  | runtimeIdentityMismatch (message : String)
deriving DecidableEq

/-- The value of a dictionary at a text. -/
def lookupStr (key : String) : List (Object × Object) → Option Object
  | [] => Option.none
  | (.str k, value) :: items => if k = key then some value else lookupStr key items
  | _ :: items => lookupStr key items

/-- `value[key]` for a text `key`. -/
def Object.subscript (value : Object) (key : String) : Except PyError Object :=
  match value with
  | .dict items =>
      match lookupStr key items with
      | some v => .ok v
      | Option.none => .error .keyError
  | _ => .error .typeError

/-- Subscripting a value by a text raises nothing but a `KeyError` or a `TypeError`. -/
theorem Object.error_subscript {value : Object} {key : String} {error : PyError}
    (h : value.subscript key = .error error) :
  error = .keyError ∨ error = .typeError
  := by
  rcases value with - | b | n | s | items | ⟨type, values⟩
  case dict =>
      rw [Object.subscript] at h
      cases hlookup : lookupStr key items with
      | none =>
          rw [hlookup] at h
          cases h
          apply Or.inl rfl
      | some v =>
          rw [hlookup] at h
          cases h
  all_goals
    cases h
    apply Or.inr rfl

/-! ### Identities -/

inductive ModuleType where
  | community
  | curated
deriving DecidableEq

/-- The text of a module type. -/
def ModuleType.value : ModuleType → String
  | .community => "community-onchain-v1"
  | .curated => "curated-onchain-v2"

/-- `ModuleType(text)`, `none` where it raises. -/
def ModuleType.ofValue (text : String) : Option ModuleType :=
  if text = ModuleType.community.value then some .community
  else if text = ModuleType.curated.value then some .curated
  else Option.none

theorem ModuleType.ofValue_eq_some_iff {text : String} {t : ModuleType} :
  ModuleType.ofValue text = some t ↔ text = t.value
  := by
  rw [ModuleType.ofValue]
  constructor
  · intro h
    split_ifs at h with hcommunity hcurated
    · rw [hcommunity, ← Option.some.inj h]
    · rw [hcurated, ← Option.some.inj h]
  · rintro rfl
    cases t <;> decide

/-- The chain, the address and the type of a module. The address is in lower case. -/
@[ext]
structure RuntimeIdentity (c : LowerCase) where
  chainId : ℤ
  moduleAddress : String
  moduleType : ModuleType
  chainId_pos : 0 < chainId
  nonempty : moduleAddress ≠ ""
  lowered : c.lower moduleAddress = moduleAddress
deriving DecidableEq

namespace RuntimeIdentity

variable {c : LowerCase}

def key : String := "runtime_identity"

def schemaVersion : ℤ := 1

/-- `RuntimeIdentity(chain_id, module_address, module_type)`. -/
def new (chainId : ℤ) (moduleAddress : String) (moduleType : ModuleType) :
    Except PyError (RuntimeIdentity c) :=
  if hchain : chainId ≤ 0 then .error (.valueError "chain_id must be a positive integer")
  else if haddress : moduleAddress = "" then
    .error (.valueError "module_address must not be empty")
  else .ok
    { chainId := chainId
      moduleAddress := c.lower moduleAddress
      moduleType := moduleType
      chainId_pos := by omega
      nonempty := fun h => haddress (c.eq_empty _ h)
      lowered := c.lower_lower _ }

example : (new 1 "0xAbC" .curated : Except _ (RuntimeIdentity .ascii)).map (·.moduleAddress)
    = .ok "0xabc" := by
  rfl

/-- The persisted form of an identity. -/
def toDict (identity : RuntimeIdentity c) : Object :=
  .dict
    [(.str "schema_version", .int schemaVersion),
      (.str "chain_id", .int identity.chainId),
      (.str "module_address", .str identity.moduleAddress),
      (.str "module_type", .str identity.moduleType.value)]

/-- The text of the persisted form of an identity. -/
def reprDict (identity : RuntimeIdentity c) : String :=
  Python.braced ("'schema_version': " ++ toString schemaVersion ++ ", 'chain_id': "
    ++ toString identity.chainId ++ ", 'module_address': "
    ++ Python.reprText identity.moduleAddress ++ ", 'module_type': "
    ++ Python.reprText identity.moduleType.value)

/-- The error of a stored value that is no identity. -/
def malformed : PyError := .runtimeError "Persisted runtime identity is malformed"

/-- The values of the fields of a stored value. -/
def readFields (value : Object) : Except PyError (Object × Object × Object × Object) := do
  let schemaVersion ← value.subscript "schema_version"
  let chainId ← value.subscript "chain_id"
  let moduleAddress ← value.subscript "module_address"
  let moduleType ← value.subscript "module_type"
  return (schemaVersion, chainId, moduleAddress, moduleType)

/-- The identity of the values of its fields. -/
def ofFields : Object × Object × Object × Object → Except PyError (RuntimeIdentity c)
  | (.int version, .int chainId, .str moduleAddress, .str moduleType) =>
      if version ≠ schemaVersion ∨ chainId ≤ 0 ∨ moduleAddress = "" then .error malformed
      else
        match ModuleType.ofValue moduleType with
        | none => .error malformed
        | some parsedModuleType => new chainId moduleAddress parsedModuleType
  | _ => .error malformed

/-- The identity of a stored value. -/
def fromDict (value : Object) : Except PyError (RuntimeIdentity c) :=
  match readFields value with
  | .ok fields => ofFields fields
  | .error error =>
      if error = .keyError ∨ error = .typeError then .error malformed else .error error

/-- Bind the data of the bot to an identity, or verify that it is bound to it. Whether the
data was bound now, and the data after it. -/
def bind (identity : RuntimeIdentity c) (botData : Dict String Object) :
    Except PyError Bool × Dict String Object :=
  match botData.get? key with
  | none => (.ok true, botData.set key identity.toDict)
  | some value =>
      match (fromDict value : Except PyError (RuntimeIdentity c)) with
      | .error error => (.error error, botData)
      | .ok persisted =>
          if persisted ≠ identity then
            (.error (.runtimeIdentityMismatch ("Persisted runtime identity "
              ++ persisted.reprDict ++ " does not match configured runtime "
              ++ identity.reprDict)), botData)
          else (.ok false, botData)

/-! ### Stored values -/

/-- A stored value with the fields of an identity of the current schema. -/
structure Stores (value : Object) (chainId : ℤ) (moduleAddress : String)
    (moduleType : ModuleType) : Prop where
  schema_eq : value.subscript "schema_version" = .ok (.int schemaVersion)
  chain_eq : value.subscript "chain_id" = .ok (.int chainId)
  address_eq : value.subscript "module_address" = .ok (.str moduleAddress)
  type_eq : value.subscript "module_type" = .ok (.str moduleType.value)
  chainId_pos : 0 < chainId
  nonempty : moduleAddress ≠ ""

/-- A well formed stored value is read as its identity. -/
theorem Stores.fromDict_eq {value : Object} {chainId : ℤ} {moduleAddress : String}
    {moduleType : ModuleType} (h : Stores value chainId moduleAddress moduleType) :
  (fromDict value : Except PyError (RuntimeIdentity c)) = new chainId moduleAddress moduleType
  := by
  have hfields : readFields value = .ok (.int RuntimeIdentity.schemaVersion, .int chainId,
      .str moduleAddress, .str moduleType.value) := by
    rw [readFields, h.schema_eq, h.chain_eq, h.address_eq, h.type_eq]
    rfl
  have hcheck : ¬ (RuntimeIdentity.schemaVersion ≠ RuntimeIdentity.schemaVersion ∨ chainId ≤ 0
      ∨ moduleAddress = "") := by
    have hpos := h.chainId_pos
    simp [h.nonempty, hpos]
  rw [fromDict, hfields]
  simp only [ofFields]
  rw [if_neg hcheck, ModuleType.ofValue_eq_some_iff.mpr rfl]

/-- A well formed stored value is read without an error. -/
theorem Stores.exists_fromDict {value : Object} {chainId : ℤ} {moduleAddress : String}
    {moduleType : ModuleType} (h : Stores value chainId moduleAddress moduleType) :
  ∃ identity : RuntimeIdentity c, fromDict value = .ok identity
    ∧ identity.chainId = chainId ∧ identity.moduleAddress = c.lower moduleAddress
    ∧ identity.moduleType = moduleType
  := by
  have hchain : ¬ chainId ≤ 0 := by
    have := h.chainId_pos
    omega
  rw [h.fromDict_eq, new, dif_neg hchain, dif_neg h.nonempty]
  refine ⟨_, rfl, ?_, ?_, ?_⟩ <;> rfl

/-- Reading the fields raises nothing but a `KeyError` or a `TypeError`. -/
theorem error_readFields {value : Object} {error : PyError}
    (h : readFields value = .error error) :
  error = .keyError ∨ error = .typeError
  := by
  rw [readFields] at h
  cases hversion : value.subscript "schema_version" with
  | error e =>
      rw [hversion] at h
      cases h
      apply Object.error_subscript hversion
  | ok version =>
      cases hchain : value.subscript "chain_id" with
      | error e =>
          rw [hversion, hchain] at h
          cases h
          apply Object.error_subscript hchain
      | ok chainId =>
          cases haddress : value.subscript "module_address" with
          | error e =>
              rw [hversion, hchain, haddress] at h
              cases h
              apply Object.error_subscript haddress
          | ok moduleAddress =>
              cases htype : value.subscript "module_type" with
              | error e =>
                  rw [hversion, hchain, haddress, htype] at h
                  cases h
                  apply Object.error_subscript htype
              | ok moduleType =>
                  rw [hversion, hchain, haddress, htype] at h
                  cases h

/-- The fields that are read are the values at their names. -/
theorem readFields_eq_ok {value version chainId moduleAddress moduleType : Object}
    (h : readFields value = .ok (version, chainId, moduleAddress, moduleType)) :
  value.subscript "schema_version" = .ok version ∧ value.subscript "chain_id" = .ok chainId
    ∧ value.subscript "module_address" = .ok moduleAddress
    ∧ value.subscript "module_type" = .ok moduleType
  := by
  rw [readFields] at h
  cases hversion : value.subscript "schema_version" <;> rw [hversion] at h
  · cases h
  cases hchain : value.subscript "chain_id" <;> rw [hchain] at h
  · cases h
  cases haddress : value.subscript "module_address" <;> rw [haddress] at h
  · cases h
  cases htype : value.subscript "module_type" <;> rw [htype] at h
  · cases h
  cases h
  use rfl, rfl, rfl

/-- A stored value is well formed, or reading it raises the error of a malformed one. -/
theorem stores_or_fromDict_eq (c : LowerCase) (value : Object) :
  (∃ chainId moduleAddress moduleType, Stores value chainId moduleAddress moduleType)
    ∨ (fromDict value : Except PyError (RuntimeIdentity c)) = .error malformed
  := by
  cases hread : readFields value with
  | error error =>
      right
      rw [fromDict, hread]
      apply if_pos (error_readFields hread)
  | ok fields =>
      rw [fromDict, hread]
      simp only [ofFields]
      split
      next version chainId moduleAddress moduleType =>
          obtain ⟨hversion, hchain, haddress, htype⟩ := readFields_eq_ok hread
          split
          next => apply Or.inr rfl
          next hcheck =>
              simp only [not_or, not_not] at hcheck
              obtain ⟨rfl, hpos, hnonempty⟩ := hcheck
              cases hparsed : ModuleType.ofValue moduleType with
              | none => apply Or.inr rfl
              | some parsed =>
                  obtain rfl := ModuleType.ofValue_eq_some_iff.mp hparsed
                  left
                  use chainId, moduleAddress, parsed, hversion, hchain, haddress, htype
                  omega
      next => apply Or.inr rfl

/-- The persisted form of an identity is well formed. -/
theorem stores_toDict (identity : RuntimeIdentity c) :
  Stores identity.toDict identity.chainId identity.moduleAddress identity.moduleType
  where
  schema_eq := rfl
  chain_eq := rfl
  address_eq := rfl
  type_eq := rfl
  chainId_pos := identity.chainId_pos
  nonempty := identity.nonempty

/-- An identity is read back from its persisted form. -/
theorem fromDict_toDict (identity : RuntimeIdentity c) :
  fromDict identity.toDict = .ok identity
  := by
  obtain ⟨persisted, hread, hchain, haddress, htype⟩ := identity.stores_toDict.exists_fromDict
    (c := c)
  rw [identity.lowered] at haddress
  rw [hread, RuntimeIdentity.ext hchain haddress htype]

/-! ### Binding -/

/-- Data without an identity is bound. -/
theorem bind_of_none (identity : RuntimeIdentity c) {botData : Dict String Object}
    (h : botData.get? key = none) :
  identity.bind botData = (.ok true, botData.set key identity.toDict)
  := by
  rw [bind, h]

/-- Data with an identity is left as it is. -/
theorem bind_snd_of_some (identity : RuntimeIdentity c) {botData : Dict String Object}
    {value : Object} (h : botData.get? key = some value) :
  (identity.bind botData).2 = botData
  := by
  simp only [bind, h]
  split
  · rfl
  · split <;> rfl

/-- Data is accepted exactly when the stored value is read as the identity. -/
theorem bind_fst_eq_ok_iff (identity : RuntimeIdentity c) {botData : Dict String Object}
    {value : Object} (h : botData.get? key = some value) (b : Bool) :
  (identity.bind botData).1 = .ok b ↔ b = false ∧ fromDict value = .ok identity
  := by
  simp only [bind, h]
  cases hread : (fromDict value : Except PyError (RuntimeIdentity c)) with
  | error error => simp
  | ok persisted =>
      by_cases heq : persisted = identity
      · simp [heq, eq_comm]
      · simp [heq]

/-! ### Starts of processes -/

/-- What happens to the data of the bot. -/
inductive Event (c : LowerCase) where
  /-- a process starts with an identity -/
  | started (identity : RuntimeIdentity c)
  /-- another value is stored -/
  | stored (name : String) (value : Object) (h : name ≠ key)

/-- The identities of the processes that are accepted, in order. -/
def accepted (botData : Dict String Object) : List (Event c) → List (RuntimeIdentity c)
  | [] => []
  | .started identity :: events =>
      match identity.bind botData with
      | (.ok _, botData) => identity :: accepted botData events
      | (.error _, botData) => accepted botData events
  | .stored name value _ :: events => accepted (botData.set name value) events

/-- Over data with an identity, only processes of this identity are accepted. -/
theorem fromDict_of_mem_accepted {botData : Dict String Object} {value : Object}
    (h : botData.get? key = some value) {events : List (Event c)} {identity : RuntimeIdentity c}
    (hmem : identity ∈ accepted botData events) :
  fromDict value = .ok identity
  := by
  induction events generalizing botData with
  | nil => cases hmem
  | cons event events ih =>
      cases event with
      | started identity' =>
          rw [accepted] at hmem
          have hsame := identity'.bind_snd_of_some h
          rcases hbind : identity'.bind botData with ⟨error | b, botData'⟩
          · rw [hbind] at hmem hsame
            subst hsame
            apply ih h hmem
          · rw [hbind] at hmem hsame
            subst hsame
            rcases List.mem_cons.mp hmem with rfl | hmem
            · apply ((identity.bind_fst_eq_ok_iff h b).mp (by rw [hbind])).2
            · apply ih h hmem
      | stored name value' hname =>
          apply ih _ hmem
          rw [Dict.get?_set_of_ne _ _ hname.symm, h]

/-- All processes that are accepted have the same identity. -/
theorem eq_of_mem_accepted {botData : Dict String Object} {events : List (Event c)}
    {identity identity' : RuntimeIdentity c} (h : identity ∈ accepted botData events)
    (h' : identity' ∈ accepted botData events) :
  identity = identity'
  := by
  induction events generalizing botData with
  | nil => cases h
  | cons event events ih =>
      cases hget : botData.get? key with
      | some value =>
          have hread := fromDict_of_mem_accepted hget h
          rw [fromDict_of_mem_accepted hget h'] at hread
          apply (Except.ok.inj hread).symm
      | none =>
          cases event with
          | started first =>
              rw [accepted, first.bind_of_none hget] at h h'
              -- the data is bound to the first identity
              have hfirst : ∀ i ∈ first :: accepted (botData.set key first.toDict) events,
                  i = first := by
                intro i hi
                rcases List.mem_cons.mp hi with rfl | hi
                · rfl
                · have hread := fromDict_of_mem_accepted (Dict.get?_set_self _ _ _) hi
                  rw [fromDict_toDict] at hread
                  apply (Except.ok.inj hread).symm
              rw [hfirst identity h, hfirst identity' h']
          | stored name value hname => apply ih h h'

/-- What binding the data of the bot to an identity does. -/
structure Binds (identity : RuntimeIdentity c) (botData : Dict String Object) : Prop where
  writes : botData.get? key = none →
    identity.bind botData = (.ok true, botData.set key identity.toDict)
  keeps : ∀ value, botData.get? key = some value → (identity.bind botData).2 = botData
  accepts : ∀ value, botData.get? key = some value → ∀ b, (identity.bind botData).1 = .ok b →
    b = false ∧ ∃ moduleAddress,
      Stores value identity.chainId moduleAddress identity.moduleType
        ∧ c.lower moduleAddress = identity.moduleAddress
  malformed : ∀ value, botData.get? key = some value →
    (∀ chainId moduleAddress moduleType, ¬ Stores value chainId moduleAddress moduleType) →
    (identity.bind botData).1 = .error malformed

theorem binds (identity : RuntimeIdentity c) (botData : Dict String Object) :
  identity.Binds botData
  where
  writes := identity.bind_of_none
  keeps value := identity.bind_snd_of_some
  accepts value hget b hok := by
    obtain ⟨rfl, hread⟩ := (identity.bind_fst_eq_ok_iff hget b).mp hok
    use rfl
    rcases stores_or_fromDict_eq c value with ⟨chainId, moduleAddress, moduleType, hstores⟩
      | hmalformed
    · obtain ⟨persisted, hpersisted, rfl, haddress, rfl⟩ := hstores.exists_fromDict (c := c)
      rw [hread] at hpersisted
      obtain rfl := Except.ok.inj hpersisted
      use moduleAddress, hstores, haddress.symm
    · rw [hread] at hmalformed
      cases hmalformed
  malformed value hget hnot := by
    rcases stores_or_fromDict_eq c value with ⟨chainId, moduleAddress, moduleType, hstores⟩
      | hmalformed
    · apply absurd hstores (hnot chainId moduleAddress moduleType)
    · simp only [bind, hget, hmalformed]

/-- A persisted store belongs to one identity. -/
theorem store_belongs_to_one_identity (c : LowerCase) :
  (∀ (identity : RuntimeIdentity c) (botData : Dict String Object), identity.Binds botData)
    ∧ (∀ identity : RuntimeIdentity c, fromDict identity.toDict = .ok identity)
    ∧ ∀ (botData : Dict String Object) (events : List (Event c)),
        ∀ identity ∈ accepted botData events, ∀ identity' ∈ accepted botData events,
          identity = identity'
  := by
  use binds, fromDict_toDict
  intro botData events identity hmem identity' hmem'
  apply eq_of_mem_accepted hmem hmem'

end RuntimeIdentity

end Sentinel
