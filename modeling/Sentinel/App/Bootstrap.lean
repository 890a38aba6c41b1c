import Sentinel.Literals
import Sentinel.Storage.Migrations
import Sentinel.Supervisor.State

/-!
# The persisted block at startup

A process reads the persisted block twice. The start of the backfill is resolved from it, where a
text may be any integer literal. The storage of the bot reads it as well, where a text is plainly a
decimal number. The two agree on the texts without a prefix that have no separators of ASCII around
them.
-/

namespace Sentinel

/-! ### The start of the backfill -/

/-- `normalize_block_number(value)`. -/
def normalizeBlockNumber : PyObject → Except ReadError ℤ
  | .int n => .ok n
  | .bool b => .ok (if b then 1 else 0)
  | .str text =>
      let s := Python.strip text
      if s = "" then .error .valueError
      else
        match Python.intLiteral s with
        | some n => .ok n
        | none => PyObject.intOfText s
  | value => value.toInt

namespace Bootstrap

/-- `_resolve_backfill_start_block(configured_block, persisted_block)`. -/
def resolveBackfillStartBlock (configuredBlock : Option ℤ) (persistedBlock : PyObject) :
    Except ReadError ℤ :=
  match configuredBlock, persistedBlock with
  | some block, _ => .ok block
  | none, .none => .ok 0
  | none, value => do
      let checkpoint ← normalizeBlockNumber value
      return if checkpoint > 0 then checkpoint + 1 else 0

/-- The persisted block of a process. -/
def persistedBlock : Option ℕ → PyObject
  | none => .none
  | some block => .int block

/-- The start of the backfill of a process is resolved from its persisted block. -/
theorem resolveBackfillStartBlock_eq_blockFrom (cfg : RunConfig) :
  resolveBackfillStartBlock (cfg.configuredBlock.map Int.ofNat) (persistedBlock cfg.persistedBlock)
    = .ok cfg.blockFrom
  := by
  rw [RunConfig.blockFrom]
  cases cfg.configuredBlock with
  | some block => rfl
  | none =>
      cases cfg.persistedBlock with
      | none => rfl
      | some block =>
          rw [Sentinel.resolveBackfillStartBlock]
          simp only [resolveBackfillStartBlock, persistedBlock, normalizeBlockNumber,
            Option.map_none, ok_bind, gt_iff_lt, Nat.cast_pos]
          split <;> rfl

end Bootstrap

/-! ### The storage of the bot -/

/-- The key of the persisted block. -/
def blockKey : String := "block"

namespace BlockState

/-- `int(value or 0)`. -/
def blockOf (value : PyObject) : Except ReadError ℤ :=
  (if value.isTruthy then value else .int 0).toInt

/-- `BlockState(bot_data)`. -/
def init : Migrating PUnit := do
  let botData ← get
  let block ← Migration.ofExcept (blockOf (botData.getD blockKey (.int 0)))
  modify fun botData => botData.set blockKey (.int block)

/-- `BlockState.value`. -/
def value (botData : BotData) : Option PyObject :=
  botData.get? blockKey

end BlockState

/-- The integers that are members of a container. Other members are skipped, but an infinite float
raises. -/
def intsOf : List PyObject → Except ReadError (List ℤ)
  | [] => .ok []
  | item :: items =>
      match item.toInt with
      | .ok n => do return n :: (← intsOf items)
      | .error .overflowError => .error .overflowError
      | .error _ => intsOf items

/-- `isinstance(value, int)`. -/
def PyObject.isInt : PyObject → Bool
  | int _ | bool _ => true
  | _ => false

/-- `ensure_int_set(values)`. -/
def ensureIntSet : PyObject → Except ReadError PyObject
  | .none => .ok (.set [])
  | .set items =>
      if items.all PyObject.isInt then .ok (.set items)
      else (intsOf items).map fun ids => .set (ids.dedup.map .int)
  | values =>
      match values.iterate with
      | .ok items =>
          if items.all PyObject.isHashable then
            (intsOf items).map fun ids => .set (ids.dedup.map .int)
          else .ok (.set [])
      | .error _ => .ok (.set [])

/-- `normalise_node_operator_map(mapping)`. -/
def normaliseNodeOperatorMap (conv : Conversions) : PyObject → Except ReadError PyObject
  | .dict items => do
      let normalised ← items.foldlM (fun normalised item => do
        let key ← conv.str item.1
        let chats ← ensureIntSet item.2
        return Dict.set normalised key chats) Dict.empty
      return .dict (normalised.items.map fun item => (.str item.1, item.2))
  | _ => .ok (.dict [])

/-- A store of the bot: its key, and what it makes of the value of the key. -/
structure Store where
  key : String
  normalise : PyObject → Except ReadError PyObject

/-- Construct a store. -/
def Store.init (store : Store) : Migrating PUnit := do
  let botData ← get
  let value ← Migration.ofExcept (store.normalise (botData.getD store.key .none))
  modify fun botData => botData.set store.key value

namespace BotStorage

/-- The stores besides the block, for any reading of the windows and the scheduled jobs. -/
def stores (conv : Conversions)
    (normaliseWindows normaliseJobs : PyObject → Except ReadError PyObject) : List Store :=
  [
    ⟨"user_ids", ensureIntSet⟩,
    ⟨"group_ids", ensureIntSet⟩,
    ⟨"channel_ids", ensureIntSet⟩,
    ⟨"no_ids_to_chats", normaliseNodeOperatorMap conv⟩,
    ⟨Migration.digestsKey,
      fun value => (Migration.normaliseDigests conv value).map Migration.ofRecords⟩,
    ⟨Migration.windowsKey, normaliseWindows⟩,
    ⟨"scheduled_jobs", normaliseJobs⟩]

/-- `BotStorage(bot_data)`. -/
def init (stores : List Store) : Migrating PUnit := do
  BlockState.init
  stores.forM Store.init

end BotStorage

namespace BlockState

/-- Without a persisted block the block is zero. -/
theorem blockOf_getD (botData : BotData) :
  blockOf (botData.getD blockKey (.int 0)) = blockOf (botData.getD blockKey .none)
  := by
  rw [Dict.getD, Dict.getD]
  cases botData.get? blockKey <;> rfl

end BlockState

/-! ### Constructing the storage -/

/-- The stores with values that can be read. -/
def Readable (stores : List Store) (botData : BotData) : Prop :=
  ∀ store ∈ stores, ∃ value, store.normalise (botData.getD store.key .none) = .ok value

/-- Stores with keys of their own change nothing else. -/
theorem ends_forM_init {stores : List Store} {botData : BotData}
    (hnodup : (stores.map Store.key).Nodup) (hreadable : Readable stores botData) :
  (stores.forM Store.init).Ends botData
    (fun _ after => ∀ key, key ∉ stores.map Store.key → after.get? key = botData.get? key)
    fun _ _ => False
  := by
  induction stores generalizing botData with
  | nil => exact fun _ _ => rfl
  | cons store stores ih =>
      obtain ⟨hkey, hnodup⟩ := List.nodup_cons.mp hnodup
      obtain ⟨⟨value, hvalue⟩, hstores⟩ := List.forall_mem_cons.mp hreadable
      have hforM : (store :: stores).forM Store.init
          = store.init >>= fun _ => stores.forM Store.init := rfl
      rw [hforM, Store.init]
      simp only [Effect.ends_bind, Effect.ends_get, Effect.ends_modify,
        Migration.ends_ofExcept hvalue]
      have hreadable' : Readable stores (botData.set store.key value) := by
        intro other hother
        have hne : other.key ≠ store.key := by
          intro heq
          apply hkey (heq ▸ List.mem_map_of_mem hother)
        rw [Dict.getD, Dict.get?_set_of_ne _ _ hne]
        apply hstores other hother
      apply (ih hnodup hreadable').mono
      · intro _ after hafter key hmem
        rw [List.map_cons, List.mem_cons, not_or] at hmem
        rw [hafter key hmem.2, Dict.get?_set_of_ne _ _ hmem.1]
      · exact fun _ _ h => h

/-- The storage of the bot can be constructed exactly when its block can be read. -/
theorem exec_init_iff {stores : List Store} {botData : BotData}
    (hnodup : (blockKey :: stores.map Store.key).Nodup) (hreadable : Readable stores botData)
    {block : ℤ} :
  (∃ after, (BotStorage.init stores).exec botData = (.ok ⟨⟩, after)
      ∧ BlockState.value after = some (.int block))
    ↔ BlockState.blockOf (botData.getD blockKey .none) = .ok block
  := by
  obtain ⟨hkey, hnodup⟩ := List.nodup_cons.mp hnodup
  rw [← BlockState.blockOf_getD]
  cases hblock : BlockState.blockOf (botData.getD blockKey (.int 0)) with
  | ok read =>
      have hreadable' : Readable stores (botData.set blockKey (.int read)) := by
        intro store hstore
        have hne : store.key ≠ blockKey := by
          intro heq
          apply hkey (heq ▸ List.mem_map_of_mem hstore)
        rw [Dict.getD, Dict.get?_set_of_ne _ _ hne]
        apply hreadable store hstore
      have hends : (BotStorage.init stores).Ends botData
          (fun _ after => BlockState.value after = some (.int read)) fun _ _ => False := by
        rw [BotStorage.init, BlockState.init]
        simp only [Effect.ends_bind, Effect.ends_get, Effect.ends_modify,
          Migration.ends_ofExcept hblock]
        apply (ends_forM_init hnodup hreadable').mono
        · intro _ after hafter
          rw [BlockState.value, hafter blockKey hkey, Dict.get?_set_self]
        · exact fun _ _ h => h
      obtain ⟨_, after, hexec, hvalue⟩ := hends.exists_exec
      constructor
      · rintro ⟨after', hexec', hvalue'⟩
        rw [hexec] at hexec'
        obtain rfl := (Prod.mk.inj hexec').2
        rw [hvalue] at hvalue'
        cases hvalue'
        rfl
      · rintro heq
        cases heq
        use after, hexec, hvalue
  | error error =>
      have hends : (BotStorage.init stores).Ends botData (fun _ _ => False) fun _ _ => True := by
        rw [BotStorage.init, BlockState.init]
        simp only [Effect.ends_bind, Effect.ends_get, hblock]
        trivial
      constructor
      · rintro ⟨after, hexec, -⟩
        rw [Effect.Ends, hexec] at hends
        exact hends.elim
      · nofun

/-! ### Two readings of a block -/

/-- A value in a form that a block may have been persisted in: nothing, an integer or a text. -/
inductive IsBlock : PyObject → Prop
  | none : IsBlock .none
  | bool (b : Bool) : IsBlock (.bool b)
  | int (n : ℤ) : IsBlock (.int n)
  | str (text : String) : IsBlock (.str text)

/-- A minus sign and the digits of a number greater than one. -/
def IsBelow (text : String) : Prop :=
  (Python.strip text).toList.head? = some '-'
    ∧ ∃ n, 1 < n ∧ Python.numeralFrom 0
      ((Python.unsigned (Python.strip text).toList).filter (· ≠ '_')) = some n

/-- A persisted block without a prefix, without separators of ASCII around it and without a number
below minus one. -/
def IsReadAlike : PyObject → Prop
  | .int n => -1 ≤ n
  | .str text => Python.IsPlainNumber text ∧ ¬ IsBelow text
  | _ => True

/-- The checkpoint that a persisted block stands for, zero without one. -/
def checkpoint : PyObject → Except ReadError ℤ
  | .none => .ok 0
  | value => normalizeBlockNumber value

/-- The number of a text that is normalised is what `int` reads when the text is a plain number. -/
theorem int_eq_some_iff {text : String} {n : ℤ}
    (h : normalizeBlockNumber (.str text) = .ok n) :
  Python.int text = some n ↔ Python.IsPlainNumber text
  := by
  constructor
  · intro hint
    have hstrip := Python.stripBy_of_int hint
    refine ⟨?_, hstrip⟩
    rw [Python.int_eq_signed, hstrip, Python.signed_eq] at hint
    cases hbase : Python.baseOf (Python.unsigned (Python.strip text).toList) with
    | none => rfl
    | some base =>
        rw [Python.readNumber_of_baseOf hbase] at hint
        cases hint
  · rintro ⟨hbase, hstrip⟩
    have hint : Python.int text = Python.int (Python.strip text) := by
      rw [Python.int_strip_eq, Python.int_eq_signed, hstrip]
    simp only [normalizeBlockNumber] at h
    split at h
    next => cases h
    next =>
        split at h
        next m hliteral =>
            cases h
            rw [Python.intLiteral_strip_eq, Python.signed_eq] at hliteral
            obtain ⟨k, hread, rfl⟩ := Option.map_eq_some_iff.mp hliteral
            rw [hint, Python.int_strip_eq, Python.signed_eq,
              Python.readNumber_of_readLiteral hbase hread]
            rfl
        next =>
            rw [PyObject.intOfText] at h
            split at h
            next m hm =>
                cases h
                rw [hint, hm]
            next => cases h

/-- The number of a plain text is below minus one when its digits say so. -/
theorem not_isBelow_iff {text : String} {n : ℤ} (hplain : Python.IsPlainNumber text)
    (h : Python.int text = some n) :
  ¬ IsBelow text ↔ -1 ≤ n
  := by
  rw [Python.int_eq_signed, hplain.stripBy_eq, Python.signed_eq] at h
  obtain ⟨k, hread, rfl⟩ := Option.map_eq_some_iff.mp h
  have hnumeral := (Python.readNumber_eq_some hread).2
  rw [IsBelow, hnumeral]
  split
  next hminus =>
      simp only [hminus, Option.some.injEq, exists_eq_right', true_and]
      omega
  next hplus =>
      simp only [hplus, false_and, not_false_eq_true, true_iff]
      omega

/-- From a checkpoint on, the backfill starts at the next block, and at zero from zero. -/
theorem start_eq_iff {n : ℤ} :
  (if n > 0 then n + 1 else 0) = (if n = 0 then 0 else n + 1) ↔ -1 ≤ n
  := by
  split <;> split <;> omega

/-- A start that is resolved from a persisted block is resolved from its checkpoint. -/
theorem exists_checkpoint {value : PyObject} {start : ℤ}
    (h : Bootstrap.resolveBackfillStartBlock none value = .ok start) :
  ∃ n, checkpoint value = .ok n ∧ start = if n > 0 then n + 1 else 0
  := by
  have hbind : ∀ x : Except ReadError ℤ,
      (do
        let n ← x
        return if n > 0 then n + 1 else 0) = .ok start →
      ∃ n, x = .ok n ∧ start = if n > 0 then n + 1 else 0 := by
    intro x hx
    cases x with
    | ok n =>
        cases hx
        exact ⟨n, rfl, rfl⟩
    | error error => cases hx
  cases value with
  | none =>
      cases h
      exact ⟨0, rfl, rfl⟩
  | _ => apply hbind _ h

/-- A text that is normalised is read as the same number when it is a plain number. -/
theorem blockOf_str_iff {text : String} {n : ℤ} (h : normalizeBlockNumber (.str text) = .ok n) :
  BlockState.blockOf (.str text) = .ok n ↔ Python.IsPlainNumber text
  := by
  have htext : text ≠ "" := by
    rintro rfl
    cases h
  have hread : BlockState.blockOf (.str text) = PyObject.intOfText text := by
    rw [BlockState.blockOf, PyObject.isTruthy, if_pos (decide_eq_true htext), PyObject.toInt]
  rw [hread, ← int_eq_some_iff h, PyObject.intOfText]
  cases Python.int text with
  | none => simp
  | some m => simp

/-- The storage reads the checkpoint of a persisted block, and it is not below minus one, exactly
when the block is read alike. -/
theorem isReadAlike_iff {value : PyObject} {n : ℤ} (hblock : IsBlock value)
    (h : checkpoint value = .ok n) :
  BlockState.blockOf value = .ok n ∧ -1 ≤ n ↔ IsReadAlike value
  := by
  cases hblock with
  | none =>
      cases h
      exact iff_of_true ⟨rfl, by decide⟩ trivial
  | bool b =>
      cases h
      cases b
      · exact iff_of_true ⟨rfl, by decide⟩ trivial
      · exact iff_of_true ⟨rfl, by decide⟩ trivial
  | int m =>
      cases h
      have hread : BlockState.blockOf (.int n) = .ok n := by
        rw [BlockState.blockOf]
        split
        next => rfl
        next hfalse =>
            have hzero : n = 0 := by simpa [PyObject.isTruthy] using hfalse
            rw [hzero]
            rfl
      rw [IsReadAlike]
      exact and_iff_right hread
  | str text =>
      have hnormalize : normalizeBlockNumber (.str text) = .ok n := by
        simpa only [checkpoint] using h
      rw [blockOf_str_iff hnormalize, IsReadAlike]
      apply and_congr_right
      intro hplain
      rw [not_isBelow_iff hplain ((int_eq_some_iff hnormalize).mpr hplain)]

/-- Of the values in which a block may be persisted, and from which the start of the backfill is
resolved, exactly those that are read alike let the storage be constructed, have it return the same
checkpoint, and start the backfill behind that. -/
theorem resolveBackfillStartBlock_agrees_iff {conv : Conversions}
    {normaliseWindows normaliseJobs : PyObject → Except ReadError PyObject} {botData : BotData}
    {start : ℤ}
    (hreadable : Readable (BotStorage.stores conv normaliseWindows normaliseJobs) botData)
    (hblock : IsBlock (botData.getD blockKey .none))
    (haccepts : Bootstrap.resolveBackfillStartBlock none (botData.getD blockKey .none)
      = .ok start) :
  (∃ after block,
      (BotStorage.init (BotStorage.stores conv normaliseWindows normaliseJobs)).exec botData
        = (.ok ⟨⟩, after)
      ∧ BlockState.value after = some (.int block)
      ∧ checkpoint (botData.getD blockKey .none) = .ok block
      ∧ start = if block = 0 then 0 else block + 1)
    ↔ IsReadAlike (botData.getD blockKey .none)
  := by
  have hnodup : (blockKey ::
      (BotStorage.stores conv normaliseWindows normaliseJobs).map Store.key).Nodup := by
    rw [BotStorage.stores]
    simp only [List.map_cons, List.map_nil]
    decide
  obtain ⟨n, hcheckpoint, hstart⟩ := exists_checkpoint haccepts
  rw [← isReadAlike_iff hblock hcheckpoint]
  constructor
  · rintro ⟨after, block, hexec, hvalue, hblock, hformula⟩
    rw [hcheckpoint] at hblock
    cases hblock
    use (exec_init_iff hnodup hreadable).mp ⟨after, hexec, hvalue⟩
    apply start_eq_iff.mp (hstart.symm.trans hformula)
  · rintro ⟨hread, hbound⟩
    obtain ⟨after, hexec, hvalue⟩ := (exec_init_iff hnodup hreadable).mpr hread
    exact ⟨after, n, hexec, hvalue, hcheckpoint, hstart.trans (start_eq_iff.mpr hbound)⟩

/-! ### A decimal and a hexadecimal block -/

/-- The stores of a bot without windows and scheduled jobs. -/
def plainStores : List Store :=
  BotStorage.stores Migration.plainConversions (fun _ => .ok (.dict [])) fun _ => .ok (.dict [])

/-- The data of a bot that has persisted only a block. -/
def onlyBlock (text : String) : BotData :=
  Dict.empty.set blockKey (.str text)

/-- A decimal block between spaces. -/
theorem resolveBackfillStartBlock_agrees_decimal :
  ∃ after block, (BotStorage.init plainStores).exec (onlyBlock " 42\n") = (.ok ⟨⟩, after)
    ∧ BlockState.value after = some (.int block)
    ∧ checkpoint (.str " 42\n") = .ok block
    ∧ (43 : ℤ) = if block = 0 then 0 else block + 1
  := by
  have hvalue : (onlyBlock " 42\n").getD blockKey .none = .str " 42\n" := rfl
  have haccepts : Bootstrap.resolveBackfillStartBlock none ((onlyBlock " 42\n").getD blockKey .none)
      = .ok 43 := rfl
  have hreadable : Readable plainStores (onlyBlock " 42\n") := by
    simp only [Readable, plainStores, BotStorage.stores, List.forall_mem_cons]
    exact ⟨⟨_, rfl⟩, ⟨_, rfl⟩, ⟨_, rfl⟩, ⟨_, rfl⟩, ⟨_, rfl⟩, ⟨_, rfl⟩, ⟨_, rfl⟩, by simp⟩
  rw [← hvalue]
  apply (resolveBackfillStartBlock_agrees_iff hreadable (.str _) haccepts).mpr
  rw [hvalue]
  refine ⟨⟨by decide, by decide⟩, ?_⟩
  rintro ⟨hminus, -⟩
  revert hminus
  decide

/-- The backfill starts behind a hexadecimal block, but constructing the storage raises. -/
theorem init_raises_hexadecimal :
  Bootstrap.resolveBackfillStartBlock none ((onlyBlock "0x2a").getD blockKey .none) = .ok 43
    ∧ ((BotStorage.init plainStores).exec (onlyBlock "0x2a")).1 = .error .valueError
  := ⟨rfl, rfl⟩

end Sentinel
