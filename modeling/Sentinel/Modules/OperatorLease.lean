import Sentinel.Modules.OperatorCaches

/-!
# One read at a time

A task that awaits the answer to a read of the operators is in a block of the shared
connection, and the connection has one owner. So no two reads of an adapter are in flight at
once: what overtakes a read is the processing of an event, and never another read.
-/

namespace Sentinel.Operators

/-- The task awaits the answer to a read. -/
def Reader.Fetching : Reader → Prop
  | .fetchingCount _ _ | .fetchingLabel _ _ _ _ => True
  | .idle _ | .entering _ _ _ => False

namespace State

variable {Task : Type*} [DecidableEq Task] {h : ModuleHistory}

/-- The connection has a holder, and a task that awaits an answer is in a block. -/
structure Leased (s : State Task) : Prop where
  represents : ∃ holder, s.chain.Represents holder
  fetching : ∀ task, (s.reader task).Fetching →
    s.chain.control task = .running ∧ 0 < s.chain.entries task

/-- A task goes where it awaits no answer. -/
theorem Leased.goto {s : State Task} (hs : s.Leased) {task : Task} {reader : Reader}
    (hreader : ¬ reader.Fetching) :
  (s.goto task reader).Leased
  := by
  use hs.represents
  intro other hother
  obtain rfl | hne := eq_or_ne other task
  · simp only [State.goto, Function.update_self] at hother
    apply absurd hother hreader
  · simp only [State.goto, Function.update_of_ne hne] at hother
    apply hs.fetching other hother

/-- A task in a block goes where it awaits an answer. -/
theorem Leased.goto_of_entries_pos {s : State Task} (hs : s.Leased) {task : Task}
    {reader : Reader} (hcontrol : s.chain.control task = .running)
    (hpos : 0 < s.chain.entries task) :
  (s.goto task reader).Leased
  := by
  use hs.represents
  intro other hother
  obtain rfl | hne := eq_or_ne other task
  · use hcontrol, hpos
  · simp only [State.goto, Function.update_of_ne hne] at hother
    apply hs.fetching other hother

/-- A task that awaits no answer afterwards takes a step in the connection. -/
theorem Leased.chain {s : State Task} (hs : s.Leased) {a : ChainAction Task}
    {chain : SharedChainConnection Task} (hstep : s.chain.step a = some chain) {reader : Reader}
    (hreader : ¬ reader.Fetching) :
  ({ s with chain := chain }.goto a.task reader).Leased
  := by
  obtain ⟨⟨holder, hholder⟩, hfetching⟩ := hs
  obtain ⟨holder', hholder', hchange⟩ := hholder.exists_step hstep
  use ⟨holder', hholder'⟩
  intro other hother
  obtain rfl | hne := eq_or_ne other a.task
  · simp only [State.goto, Function.update_self] at hother
    apply absurd hother hreader
  · simp only [State.goto, Function.update_of_ne hne] at hother
    obtain ⟨hcontrol, hpos⟩ := hfetching other hother
    obtain ⟨outer, rfl⟩ := hholder.exists_eq_inside
      (hholder.owner.trans (SharedChainConnection.Holder.owner_of_entries_pos
        (by rwa [← hholder.entries])))
      (by rw [hcontrol]; nofun)
    obtain rfl := hchange.eq_inside_of_ne hne.symm
    constructor
    · apply (SharedChainConnection.control_of_step hstep hne).trans hcontrol
    · change 0 < chain.entries other
      rw [hholder'.entries, ← hholder.entries]
      apply hpos

/-- A task leaves its block. -/
theorem Leased.leave {s : State Task} (hs : s.Leased) {task : Task}
    (hcontrol : s.chain.control task = .running) (result : Option Result) :
  (s.leave task result).Leased
  := by
  have hstep : s.chain.step (.exit task) = some (s.chain.aexit task) := if_pos hcontrol
  apply hs.chain hstep
  nofun

/-- A task in a block goes on with the labels to fetch. -/
theorem Leased.fetchLabels {s : State Task} (hs : s.Leased) {task : Task}
    (hcontrol : s.chain.control task = .running) (hpos : 0 < s.chain.entries task)
    (call : Call) (operatorIds : List ℕ) :
  (s.fetchLabels task call operatorIds).Leased
  := by
  induction operatorIds with
  | nil => apply hs.leave hcontrol
  | cons operatorId rest ih =>
      rw [State.fetchLabels]
      split
      · apply ih
      · apply hs.goto_of_entries_pos hcontrol hpos

/-- A task that awaits the connection goes on. -/
theorem Leased.goOn {s : State Task} (hs : s.Leased) (task : Task) :
  (s.goOn task).Leased
  := by
  rw [State.goOn]
  split
  · rename_i call read outer _
    split
    · rename_i hcontrol
      split
      · rename_i hentered
        have hpos := Nat.zero_lt_of_lt hentered
        cases read with
        | count => apply hs.goto_of_entries_pos hcontrol hpos
        | labels operatorIds => apply hs.fetchLabels hcontrol hpos
      · apply hs.goto
        exact not_false
    · apply hs
  all_goals apply hs

/-- A method until its first await. -/
theorem Leased.begin {s : State Task} (hs : s.Leased) {task : Task}
    (hcontrol : s.chain.control task = .running) (call : Call) :
  (s.begin task call).Leased
  := by
  rw [State.begin]
  split
  · apply hs.goto
    exact not_false
  · have hstep : s.chain.step (.enter task) = some (s.chain.aenter task) := if_pos hcontrol
    apply Leased.goOn
    apply hs.chain hstep
    exact not_false

theorem leased_initial :
  (initial : State Task).Leased
  where
  represents := ⟨.nobody, SharedChainConnection.represents_new⟩
  fetching := nofun

/-- A task whose read is answered or fails runs, in a block. -/
theorem Leased.of_fetching {s : State Task} (hs : s.Leased) {task : Task} {reader : Reader}
    (hreader : s.reader task = reader) (hfetching : reader.Fetching) :
  s.chain.control task = .running ∧ 0 < s.chain.entries task
  := by
  apply hs.fetching
  rw [hreader]
  apply hfetching

/-- Where a task was does not matter once it begins a method. -/
theorem begin_goto (s : State Task) (task : Task) (reader : Reader) (call : Call) :
  (s.goto task reader).begin task call = s.begin task call
  := by
  have hgoto : ∀ (s : State Task) reader',
      (s.goto task reader).goto task reader' = s.goto task reader' := by
    intro s reader'
    simp only [State.goto, Function.update_idem]
  rw [State.begin, State.begin]
  split
  next hpending =>
      rw [known_goto] at hpending
      rw [hpending]
      apply hgoto
  next read hpending =>
      rw [known_goto] at hpending
      rw [hpending]
      apply congrArg (fun s : State Task => s.goOn task)
      apply hgoto { s with chain := s.chain.aenter task }

/-- The answer to the read of the number of operators. -/
theorem Leased.receivedCount {s : State Task} (hs : s.Leased) {task : Task}
    (hcontrol : s.chain.control task = .running) (call : Call) (count : ℕ) :
  (s.receivedCount task call count).Leased
  := by
  have hs' : (s.setAdapter (s.known.adapter.storeNodeOperatorsCount count)).Leased := by
    use hs.represents, hs.fetching
  rw [State.receivedCount, ← begin_goto _ task (.idle none)]
  apply (hs'.leave hcontrol none).begin
  apply (s.chain.control_aexit task task).trans hcontrol

/-- Every step keeps the connection with one holder. -/
theorem Leased.step {s t : State Task} {a : Action Task} (hs : s.Leased)
    (hstep : s.step h a = some t) :
  t.Leased
  := by
  cases a with
  | block =>
      obtain rfl := Option.some.inj hstep
      use hs.represents, hs.fetching
  | event log =>
      obtain ⟨-, ⟨⟩⟩ := Option.ite_none_right_eq_some.mp hstep
      use hs.represents, hs.fetching
  | call task call =>
      simp only [State.step] at hstep
      split at hstep
      · obtain ⟨hcontrol, ⟨⟩⟩ := Option.ite_none_right_eq_some.mp hstep
        apply hs.begin hcontrol
      · cases hstep
  | answered task block =>
      simp only [State.step] at hstep
      split at hstep
      · rename_i call issued hreader
        obtain ⟨-, ⟨⟩⟩ := Option.ite_none_right_eq_some.mp hstep
        apply hs.receivedCount (hs.of_fetching hreader trivial).1
      · rename_i call operatorId rest issued hreader
        obtain ⟨-, ⟨⟩⟩ := Option.ite_none_right_eq_some.mp hstep
        obtain ⟨hcontrol, hpos⟩ := hs.of_fetching hreader trivial
        have hs' : (s.setAdapter (s.known.adapter.rememberNodeOperatorLabel operatorId
            (orNone (h.nameAt operatorId block)))).Leased := by
          use hs.represents, hs.fetching
        apply hs'.fetchLabels hcontrol hpos
      · cases hstep
  | failed task =>
      simp only [State.step] at hstep
      split at hstep
      · rename_i call issued hreader
        cases hstep
        apply hs.leave (hs.of_fetching hreader trivial).1
      · rename_i call operatorId rest issued hreader
        cases hstep
        obtain ⟨hcontrol, hpos⟩ := hs.of_fetching hreader trivial
        cases call with
        | nodeOperatorLabel => apply hs.leave hcontrol
        | isValidOperatorId | nodeOperatorsCount | nodeOperatorOptions =>
            apply hs.fetchLabels hcontrol hpos
      · cases hstep
  | cancelled task =>
      simp only [State.step] at hstep
      split at hstep
      · rename_i call issued hreader
        cases hstep
        apply hs.leave (hs.of_fetching hreader trivial).1
      · rename_i call operatorId rest issued hreader
        cases hstep
        apply hs.leave (hs.of_fetching hreader trivial).1
      · cases hstep
  | chain action =>
      have hchain : ∀ chain, s.chain.step action = some chain →
          ¬ (s.reader action.task).Fetching → { s with chain := chain }.Leased := by
        intro chain hchain hreader
        have hgoto := hs.chain hchain hreader
        rwa [State.goto, Function.update_eq_self] at hgoto
      simp only [State.step] at hstep
      split at hstep
      · rename_i hreader
        obtain ⟨chain, hchainStep, rfl⟩ := Option.map_eq_some_iff.mp hstep
        apply (hchain chain hchainStep (by rw [hreader]; exact not_false)).goOn
      · rename_i hreader
        obtain ⟨chain, hchainStep, rfl⟩ := Option.map_eq_some_iff.mp hstep
        apply (hchain chain hchainStep (by rw [hreader]; exact not_false)).goOn
      · cases hstep

/-- In every run at most one task awaits the answer to a read. -/
theorem eq_of_fetching {s : State Task} {ok : State Task → Action Task → Prop}
    (hs : Transition.Reaches (State.step h) ok initial s) {task task' : Task}
    (htask : (s.reader task).Fetching) (htask' : (s.reader task').Fetching) :
  task = task'
  := by
  have hleased : s.Leased :=
    hs.invariant (I := Leased) (fun _ _ _ hs _ hstep => hs.step hstep) leased_initial
  obtain ⟨holder, hholder⟩ := hleased.represents
  have howner : ∀ task, (s.reader task).Fetching → holder.owner = some task := by
    intro task htask
    apply SharedChainConnection.Holder.owner_of_entries_pos
    rw [← hholder.entries]
    apply (hleased.fetching task htask).2
  apply Option.some.inj ((howner task htask).symm.trans (howner task' htask'))

end State

end Sentinel.Operators
