import Sentinel.Modules.OperatorReads

/-!
# What the caches of the node operators keep

Once the event of a new operator was processed, the operator is valid; once the event of a
name was processed, the cached label is not that of an older name. A read that was issued
before the event and is answered with what the contracts said before it takes both back, as
it stores its answer over what the event stored. The answers that take nothing back are those
from a block that is not before any event processed by then.
-/

namespace Sentinel.Operators

/-! ### The contracts and the log -/

/-- At the block of an entry and later the contracts have the operator that it adds. -/
theorem ModuleHistory.lt_count {h : ModuleHistory} {operatorId block b : ℕ}
    (hlog : (Log.nodeOperatorAdded operatorId block).Emitted h) (hb : block ≤ b) :
  operatorId < h.count b
  := by
  apply lt_of_lt_of_le hlog.1 (h.count_mono hb)

/-- At the block of an entry and later the contracts have its name or a newer one. -/
theorem ModuleHistory.le_version {h : ModuleHistory} {operatorId version block b : ℕ}
    (hlog : (Log.operatorMetadataSet operatorId version block).Emitted h) (hb : block ≤ b) :
  version ≤ h.version operatorId b
  := by
  apply le_trans hlog.1 (h.version_mono operatorId hb)

/-! ### The caches -/

namespace CuratedModuleAdapter

/-- An operator is valid at once when a larger number of operators is cached. -/
theorem answer_isValidOperatorId_iff {adapter : CuratedModuleAdapter} {operatorId : ℕ} :
  adapter.answer (.isValidOperatorId operatorId) = some (.valid true)
    ↔ ∃ count, adapter.nodeOperatorsCountCache = some count ∧ operatorId < count
  := by
  cases hcache : adapter.nodeOperatorsCountCache with
  | none => simp [answer, pending, hcache]
  | some count => simp [answer, pending, result, hcache]

/-- A new operator never lowers the cached number. -/
theorem exists_count_processEvent_nodeOperatorAdded (adapter : CuratedModuleAdapter)
    (operatorId : ℕ) :
  ∃ count, (adapter.processEvent (.nodeOperatorAdded operatorId)).nodeOperatorsCountCache
    = some count ∧ operatorId < count ∧ adapter.nodeOperatorsCountCache.getD 0 ≤ count
  := by
  use max (adapter.nodeOperatorsCountCache.getD 0) (operatorId + 1), rfl
  constructor
  · apply lt_of_lt_of_le (Nat.lt_succ_self operatorId) (le_max_right _ _)
  · apply le_max_left

/-- The label that is cached when a name is remembered. -/
theorem get?_rememberNodeOperatorLabel_self (adapter : CuratedModuleAdapter) (operatorId : ℕ)
    (name : Option String) :
  (adapter.rememberNodeOperatorLabel operatorId name).nodeOperatorLabelCache.get? operatorId
    = some (formatNodeOperatorLabel operatorId name)
  := Dict.get?_set_self _ _ _

/-- The labels of the other operators stay. -/
theorem get?_rememberNodeOperatorLabel_of_ne (adapter : CuratedModuleAdapter)
    {operatorId operatorId' : ℕ} (name : Option String) (hne : operatorId' ≠ operatorId) :
  (adapter.rememberNodeOperatorLabel operatorId name).nodeOperatorLabelCache.get? operatorId'
    = adapter.nodeOperatorLabelCache.get? operatorId'
  := Dict.get?_set_of_ne _ _ hne

end CuratedModuleAdapter

/-- What follows the identifier in a label. -/
theorem formatNodeOperatorLabel_orNone (operatorId : ℕ) (name : String) :
  formatNodeOperatorLabel operatorId (orNone name)
    = "#" ++ toString operatorId ++ (if name = "" then "" else " - " ++ name)
  := by
  by_cases hname : name = ""
  · simp [formatNodeOperatorLabel, orNone, hname]
  · simp [formatNodeOperatorLabel, orNone, hname, String.append_assoc]

/-- Different names have different labels. -/
theorem formatNodeOperatorLabel_injective {operatorId : ℕ} {name name' : String}
    (hlabel : formatNodeOperatorLabel operatorId (orNone name)
      = formatNodeOperatorLabel operatorId (orNone name')) :
  name = name'
  := by
  simp only [formatNodeOperatorLabel_orNone, String.append_right_inj] at hlabel
  split_ifs at hlabel with hname hname' hname'
  · rw [hname, hname']
  · simpa using congrArg String.toList hlabel
  · simpa using congrArg String.toList hlabel
  · apply (String.append_right_inj _).mp hlabel

/-! ### What a step does to the caches -/

/-- A task calls a method, goes on in the connection, or its read raises. -/
def Action.Quiet {Task : Type*} : Action Task → Prop
  | .call _ _ | .failed _ | .cancelled _ | .chain _ => True
  | .block | .event _ | .answered _ _ => False

namespace State

variable {Task : Type*} [DecidableEq Task] {h : ModuleHistory}

@[simp]
theorem known_goto (s : State Task) (task : Task) (reader : Reader) :
  (s.goto task reader).known = s.known
  := rfl

@[simp]
theorem known_leave (s : State Task) (task : Task) (result : Option Result) :
  (s.leave task result).known = s.known
  := rfl

@[simp]
theorem known_fetchLabels (s : State Task) (task : Task) (call : Call) (operatorIds : List ℕ) :
  (s.fetchLabels task call operatorIds).known = s.known
  := by
  induction operatorIds with
  | nil => rfl
  | cons operatorId rest ih =>
      rw [fetchLabels]
      split
      · apply ih
      · rfl

@[simp]
theorem known_issue (s : State Task) (task : Task) (call : Call) (read : Read) :
  (s.issue task call read).known = s.known
  := by
  cases read with
  | count => rfl
  | labels operatorIds => apply known_fetchLabels

@[simp]
theorem known_goOn (s : State Task) (task : Task) :
  (s.goOn task).known = s.known
  := by
  rw [goOn]
  split
  · split
    · split
      · apply known_issue
      · rfl
    · rfl
  all_goals rfl

@[simp]
theorem known_acquire (s : State Task) (task : Task) (call : Call) (read : Read) :
  (s.acquire task call read).known = s.known
  := by
  rw [acquire, known_goOn]
  rfl

@[simp]
theorem known_begin (s : State Task) (task : Task) (call : Call) :
  (s.begin task call).known = s.known
  := by
  rw [begin]
  split
  · rfl
  · apply known_acquire

@[simp]
theorem known_failedLabel (s : State Task) (task : Task) (call : Call) (operatorId : ℕ)
    (rest : List ℕ) :
  (s.failedLabel task call operatorId rest).known = s.known
  := by
  cases call with
  | nodeOperatorLabel => rfl
  | isValidOperatorId | nodeOperatorsCount | nodeOperatorOptions => apply known_fetchLabels

/-- What an action does to the chain, the caches and the processed entries. -/
inductive Change (h : ModuleHistory) (s : State Task) : Action Task → Known → Prop
  | block : Change h s .block { s.known with head := s.known.head + 1 }
  | event {log : Log} (hlog : log.Emitted h) (hle : log.block ≤ s.known.head) :
      Change h s (.event log) { s.known with
        adapter := s.known.adapter.processEvent (log.event h)
        processed := log :: s.known.processed }
  | count {task : Task} {call : Call} {issued block : ℕ}
      (hreader : s.reader task = .fetchingCount call issued) (hle : block ≤ s.known.head) :
      Change h s (.answered task block) { s.known with
        adapter := s.known.adapter.storeNodeOperatorsCount (h.count block) }
  | label {task : Task} {call : Call} {operatorId : ℕ} {rest : List ℕ} {issued block : ℕ}
      (hreader : s.reader task = .fetchingLabel call operatorId rest issued)
      (hle : block ≤ s.known.head) :
      Change h s (.answered task block) { s.known with
        adapter := s.known.adapter.rememberNodeOperatorLabel operatorId
          (orNone (h.nameAt operatorId block)) }
  | quiet {a : Action Task} (ha : a.Quiet) : Change h s a s.known

/-- A quiet step leaves the chain, the caches and the processed entries as they are. -/
theorem known_of_quiet {s t : State Task} {a : Action Task} (ha : a.Quiet)
    (hstep : s.step h a = some t) :
  t.known = s.known
  := by
  cases a with
  | block | event | answered => cases ha
  | call task call =>
      simp only [step] at hstep
      split at hstep
      · obtain ⟨-, ⟨⟩⟩ := Option.ite_none_right_eq_some.mp hstep
        apply known_begin
      · cases hstep
  | failed task =>
      simp only [step] at hstep
      split at hstep
      · obtain rfl := Option.some.inj hstep
        apply known_leave
      · obtain rfl := Option.some.inj hstep
        apply known_failedLabel
      · cases hstep
  | cancelled task =>
      simp only [step] at hstep
      split at hstep
      · obtain rfl := Option.some.inj hstep
        apply known_leave
      · obtain rfl := Option.some.inj hstep
        apply known_leave
      · cases hstep
  | chain action =>
      simp only [step] at hstep
      split at hstep
      · obtain ⟨chain, -, rfl⟩ := Option.map_eq_some_iff.mp hstep
        apply known_goOn
      · obtain ⟨chain, -, rfl⟩ := Option.map_eq_some_iff.mp hstep
        apply known_goOn
      · cases hstep

/-- Every step is one of these changes. -/
theorem change_of_step {s t : State Task} {a : Action Task} (hstep : s.step h a = some t) :
  Change h s a t.known
  := by
  cases a with
  | block =>
      obtain rfl := Option.some.inj hstep
      apply Change.block
  | event log =>
      obtain ⟨hlog, ⟨⟩⟩ := Option.ite_none_right_eq_some.mp hstep
      apply Change.event hlog.1 hlog.2
  | answered task block =>
      simp only [step] at hstep
      split at hstep
      next call issued hreader =>
          obtain ⟨hle, ⟨⟩⟩ := Option.ite_none_right_eq_some.mp hstep
          rw [receivedCount, known_begin]
          apply Change.count hreader hle.2
      next call operatorId rest issued hreader =>
          obtain ⟨hle, ⟨⟩⟩ := Option.ite_none_right_eq_some.mp hstep
          rw [receivedLabel, known_fetchLabels]
          apply Change.label hreader hle.2
      next => cases hstep
  | call | failed | cancelled | chain =>
      have hknown := known_of_quiet (by trivial) hstep
      rw [hknown]
      apply Change.quiet
      trivial

end State

/-! ### What the caches keep -/

/-- What the claims of the processed events are: the operator is valid, and the label is
that of the name or of a newer one. -/
structure Known.Kept (h : ModuleHistory) (k : Known) : Prop where
  valid : ∀ operatorId block : ℕ, .nodeOperatorAdded operatorId block ∈ k.processed →
    k.adapter.answer (.isValidOperatorId operatorId) = some (.valid true)
  label : ∀ operatorId version block : ℕ,
    .operatorMetadataSet operatorId version block ∈ k.processed →
    ∃ version', version ≤ version' ∧ version' ≤ h.version operatorId k.head ∧
      k.adapter.nodeOperatorLabelCache.get? operatorId
        = some (formatNodeOperatorLabel operatorId (orNone (h.name operatorId version')))

/-- The processed entries are in the log of the chain. -/
def Known.Logged (h : ModuleHistory) (k : Known) : Prop :=
  ∀ log ∈ k.processed, log.Emitted h ∧ log.block ≤ k.head

/-- An entry is not one of an older name of the same operator. -/
def Log.NotAfter : Log → Log → Prop
  | operatorMetadataSet operatorId version _, operatorMetadataSet operatorId' version' _ =>
      operatorId = operatorId' → version ≤ version'
  | _, _ => True

instance : ∀ log log' : Log, Decidable (log.NotAfter log')
  | .operatorMetadataSet _ _ _, .operatorMetadataSet _ _ _ =>
      inferInstanceAs (Decidable (_ = _ → _))
  | .nodeOperatorAdded _ _, _ => inferInstanceAs (Decidable True)
  | .operatorMetadataSet _ _ _, .nodeOperatorAdded _ _ => inferInstanceAs (Decidable True)

/-- The event of an entry keeps what the caches keep. -/
theorem Known.Kept.event {h : ModuleHistory} {k : Known} (hk : k.Kept h) {log : Log}
    (hemitted : log.Emitted h) (hle : log.block ≤ k.head)
    (hafter : ∀ log' ∈ k.processed, log'.NotAfter log) :
  Known.Kept h { k with
    adapter := k.adapter.processEvent (log.event h)
    processed := log :: k.processed }
  := by
  cases log with
  | nodeOperatorAdded operatorId block =>
      constructor
      · intro operatorId' block' hlog
        obtain ⟨count, hcount, hlt, hge⟩ :=
          k.adapter.exists_count_processEvent_nodeOperatorAdded operatorId
        apply CuratedModuleAdapter.answer_isValidOperatorId_iff.mpr
        use count, hcount
        obtain heq | hlog := List.mem_cons.mp hlog
        · obtain ⟨rfl, -⟩ := Log.nodeOperatorAdded.inj heq
          apply hlt
        · obtain ⟨count', hcount', hlt'⟩ :=
            CuratedModuleAdapter.answer_isValidOperatorId_iff.mp (hk.valid _ _ hlog)
          rw [hcount', Option.getD_some] at hge
          apply lt_of_lt_of_le hlt' hge
      · intro operatorId' version block' hlog
        obtain heq | hlog := List.mem_cons.mp hlog
        · cases heq
        · apply hk.label operatorId' version block' hlog
  | operatorMetadataSet operatorId version block =>
      constructor
      · intro operatorId' block' hlog
        obtain heq | hlog := List.mem_cons.mp hlog
        · cases heq
        · apply hk.valid operatorId' block' hlog
      · intro operatorId' version' block' hlog
        obtain rfl | hne := eq_or_ne operatorId' operatorId
        · use version
          constructor
          · obtain heq | hlog := List.mem_cons.mp hlog
            · obtain ⟨-, rfl, -⟩ := Log.operatorMetadataSet.inj heq
              apply le_refl
            · apply hafter _ hlog rfl
          · use ModuleHistory.le_version hemitted hle
            apply CuratedModuleAdapter.get?_rememberNodeOperatorLabel_self
        · obtain heq | hlog := List.mem_cons.mp hlog
          · cases hne (Log.operatorMetadataSet.inj heq).1
          · obtain ⟨newer, hnewer, hhead, hlabel⟩ := hk.label operatorId' version' block' hlog
            use newer, hnewer, hhead
            apply Eq.trans _ hlabel
            apply CuratedModuleAdapter.get?_rememberNodeOperatorLabel_of_ne _ _ hne

/-- The block that a read is answered from is not before an event that was processed for
what is read. -/
def Reader.AnsweredInTime (processed : List Log) (block : ℕ) : Reader → Prop
  | .fetchingCount _ _ => ∀ log ∈ processed, log.Adds → log.block ≤ block
  | .fetchingLabel _ operatorId _ _ =>
      ∀ log ∈ processed, log.Renames operatorId → log.block ≤ block
  | .idle _ | .entering _ _ _ => True

instance (processed : List Log) (block : ℕ) :
    DecidablePred (Reader.AnsweredInTime processed block)
  | .fetchingCount _ _ =>
      inferInstanceAs (Decidable (∀ log ∈ processed, log.Adds → log.block ≤ block))
  | .fetchingLabel _ operatorId _ _ =>
      inferInstanceAs
        (Decidable (∀ log ∈ processed, log.Renames operatorId → log.block ≤ block))
  | .idle _ | .entering _ _ _ => inferInstanceAs (Decidable True)

namespace State

variable {Task : Type*} [DecidableEq Task] {h : ModuleHistory}

/-- Reads are answered in time, and the events of the names of an operator are processed in
their order. -/
def InTime (s : State Task) : Action Task → Prop
  | .answered task block => (s.reader task).AnsweredInTime s.known.processed block
  | .event log => ∀ log' ∈ s.known.processed, log'.NotAfter log
  | .block | .call _ _ | .failed _ | .cancelled _ | .chain _ => True

instance (s : State Task) : DecidablePred s.InTime
  | .answered task block =>
      inferInstanceAs (Decidable ((s.reader task).AnsweredInTime s.known.processed block))
  | .event log => inferInstanceAs (Decidable (∀ log' ∈ s.known.processed, log'.NotAfter log))
  | .block | .call _ _ | .failed _ | .cancelled _ | .chain _ =>
      inferInstanceAs (Decidable True)

omit [DecidableEq Task] in
/-- A change leaves the processed entries in the log of the chain. -/
theorem Change.logged {s : State Task} {a : Action Task} {k : Known} (hchange : Change h s a k)
    (hs : s.known.Logged h) :
  k.Logged h
  := by
  cases hchange with
  | block =>
      intro log hlog
      use (hs log hlog).1, Nat.le_succ_of_le (hs log hlog).2
  | event hemitted hle =>
      intro log hlog
      obtain rfl | hlog := List.mem_cons.mp hlog
      · use hemitted, hle
      · apply hs log hlog
  | count | label | quiet => apply hs

omit [DecidableEq Task] in
/-- A change in time keeps what the caches keep. -/
theorem Change.kept {s : State Task} {a : Action Task} {k : Known} (hchange : Change h s a k)
    (hlogged : s.known.Logged h) (hs : s.known.Kept h) (ha : s.InTime a) :
  k.Kept h
  := by
  cases hchange with
  | block =>
      use hs.valid
      intro operatorId version block hlog
      obtain ⟨version', hle, hhead, hlabel⟩ := hs.label operatorId version block hlog
      use version', hle, le_trans hhead (h.version_mono operatorId (Nat.le_succ _)), hlabel
  | event hemitted hle => apply hs.event hemitted hle ha
  | @count task call issued block hreader hle =>
      simp only [InTime, hreader] at ha
      use ?_, hs.label
      intro operatorId block' hlog
      apply CuratedModuleAdapter.answer_isValidOperatorId_iff.mpr
      use h.count block, rfl
      apply ModuleHistory.lt_count (hlogged _ hlog).1
      apply ha _ hlog trivial
  | @label task call operatorId rest issued block hreader hle =>
      simp only [InTime, hreader] at ha
      use hs.valid
      intro operatorId' version block' hlog
      obtain rfl | hne := eq_or_ne operatorId' operatorId
      · use h.version operatorId' block
        use ModuleHistory.le_version (hlogged _ hlog).1 (ha _ hlog rfl)
        use h.version_mono operatorId' hle
        apply CuratedModuleAdapter.get?_rememberNodeOperatorLabel_self
      · obtain ⟨version', hle', hhead, hlabel⟩ := hs.label operatorId' version block' hlog
        use version', hle', hhead
        apply Eq.trans _ hlabel
        apply CuratedModuleAdapter.get?_rememberNodeOperatorLabel_of_ne _ _ hne
  | quiet => apply hs

omit [DecidableEq Task] in
/-- A change that is not in time takes back what an event stored, when the names of an
operator differ. -/
theorem Change.inTime {s : State Task} {a : Action Task} {k : Known} (hchange : Change h s a k)
    (hname : ∀ operatorId, Function.Injective (h.name operatorId))
    (hlogged : s.known.Logged h) (hk : k.Kept h) :
  s.InTime a
  := by
  cases hchange with
  | block => trivial
  | @event log hemitted hle =>
      intro log' hlog'
      cases log with
      | nodeOperatorAdded => cases log' <;> trivial
      | operatorMetadataSet operatorId version block =>
          cases log' with
          | nodeOperatorAdded => trivial
          | operatorMetadataSet operatorId' version' block' =>
              rintro rfl
              obtain ⟨newer, hnewer, -, hlabel⟩ :=
                hk.label operatorId' version' block' (List.mem_cons_of_mem _ hlog')
              have heq := (CuratedModuleAdapter.get?_rememberNodeOperatorLabel_self
                s.known.adapter operatorId' (orNone (h.name operatorId' version))).symm.trans hlabel
              rw [hname _ (formatNodeOperatorLabel_injective (Option.some.inj heq))]
              apply hnewer
  | @count task call issued block hreader hle =>
      simp only [InTime, hreader, Reader.AnsweredInTime]
      intro log hlog hadds
      cases log with
      | operatorMetadataSet => cases hadds
      | nodeOperatorAdded operatorId block' =>
          obtain ⟨count, hcount, hlt⟩ :=
            CuratedModuleAdapter.answer_isValidOperatorId_iff.mp (hk.valid _ _ hlog)
          obtain rfl := Option.some.inj hcount
          by_contra hbefore
          apply Nat.not_le_of_lt hlt
          apply (hlogged _ hlog).1.2 block (Nat.lt_of_not_le hbefore)
  | @label task call operatorId rest issued block hreader hle =>
      simp only [InTime, hreader, Reader.AnsweredInTime]
      intro log hlog hrenames
      cases log with
      | nodeOperatorAdded => cases hrenames
      | operatorMetadataSet operatorId' version block' =>
          obtain rfl : operatorId' = operatorId := hrenames
          obtain ⟨newer, hnewer, -, hlabel⟩ := hk.label operatorId' version block' hlog
          have heq := (CuratedModuleAdapter.get?_rememberNodeOperatorLabel_self
            s.known.adapter operatorId' (orNone (h.nameAt operatorId' block))).symm.trans hlabel
          rw [← hname _ (formatNodeOperatorLabel_injective (Option.some.inj heq))] at hnewer
          by_contra hbefore
          apply Nat.not_le_of_lt ((hlogged _ hlog).1.2 block (Nat.lt_of_not_le hbefore)) hnewer
  | @quiet a ha =>
      cases a with
      | call | failed | cancelled | chain => trivial
      | block | event | answered => cases ha

omit [DecidableEq Task] in
theorem logged_initial :
  (initial : State Task).known.Logged h
  := nofun

omit [DecidableEq Task] in
theorem kept_initial :
  (initial : State Task).known.Kept h
  where
  valid := nofun
  label := nofun

/-- When the names of an operator differ, a step keeps what the caches keep exactly if it is
in time. -/
theorem kept_iff_inTime {s t : State Task} {a : Action Task}
    (hname : ∀ operatorId, Function.Injective (h.name operatorId))
    (hlogged : s.known.Logged h) (hs : s.known.Kept h) (hstep : s.step h a = some t) :
  t.known.Kept h ↔ s.InTime a
  := by
  constructor
  · apply (change_of_step hstep).inTime hname hlogged
  · apply (change_of_step hstep).kept hlogged hs

/-- In a run whose steps are in time the processed entries are in the log of the chain, and
the caches keep what their events stored. -/
theorem logged_and_kept_of_reaches {s : State Task}
    (hs : Transition.Reaches (step h) InTime initial s) :
  s.known.Logged h ∧ s.known.Kept h
  := by
  apply hs.invariant (I := fun s => s.known.Logged h ∧ s.known.Kept h)
  · rintro s a t ⟨hlogged, hkept⟩ ha hstep
    use (change_of_step hstep).logged hlogged
    apply (change_of_step hstep).kept hlogged hkept ha
  · exact ⟨logged_initial, kept_initial⟩

/-- The caches never take back what a processed event stored, in a run whose reads are
answered from blocks that are not before the events processed by then. -/
theorem processed_events_kept {s : State Task}
    (hs : Transition.Reaches (step h) InTime initial s) :
  s.known.Kept h
  := (logged_and_kept_of_reaches hs).2

end State

/-! ### A read that is answered from before an event -/

/-- An operator is added in every block, and the name of every operator is set in every
block: first it is `A`, and later `B`. -/
def growing : ModuleHistory where
  count block := block + 1
  count_mono := fun _ _ => Nat.succ_le_succ
  name _ version := if version = 0 then "A" else "B"
  version _ block := block
  version_mono := fun _ _ _ => id

/-- A task calls a method, awaits the answer to its read while the chain gets a block and an
event of that block is processed, and gets an answer. -/
def overtaken (call : Call) (log : Log) (block : ℕ) : List (Action ℕ) :=
  [.call 0 call, .chain (.answered 0 true), .block, .event log, .answered 0 block]

/-- Reads that are answered from before the event take back the operator and the name. -/
theorem exists_event_taken_back :
  (∃ s : State ℕ, Transition.Reaches (State.step growing) (fun _ _ => True) State.initial s ∧
    .nodeOperatorAdded 1 1 ∈ s.known.processed ∧
      s.known.adapter.answer (.isValidOperatorId 1) = some (.valid false)) ∧
  (∃ s : State ℕ, Transition.Reaches (State.step growing) (fun _ _ => True) State.initial s ∧
    .operatorMetadataSet 0 1 1 ∈ s.known.processed ∧ growing.name 0 1 = "B" ∧
      s.known.adapter.nodeOperatorLabelCache.get? 0 = some "#0 - A")
  := by
  constructor
  · apply Transition.exists_reaches_of_execute _ _ _
      (overtaken .nodeOperatorsCount (.nodeOperatorAdded 1 1) 0)
    decide
  · apply Transition.exists_reaches_of_execute _ _ _
      (overtaken (.nodeOperatorLabel 0) (.operatorMetadataSet 0 1 1) 0)
    decide

/-- An answer from the block of the event is in time. -/
theorem processed_events_kept_growing :
  ∃ s : State ℕ, Transition.Reaches (State.step growing) State.InTime State.initial s ∧
    .nodeOperatorAdded 1 1 ∈ s.known.processed ∧ s.known.Kept growing
  := by
  obtain ⟨s, hs, hlog⟩ := Transition.exists_reaches_of_execute (State.step growing)
    State.InTime State.initial (overtaken .nodeOperatorsCount (.nodeOperatorAdded 1 1) 1)
    (fun s => .nodeOperatorAdded 1 1 ∈ s.known.processed) (by decide)
  use s, hs, hlog
  apply State.processed_events_kept hs

end Sentinel.Operators
