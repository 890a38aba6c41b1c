import Sentinel.Modules.OperatorChanges
import Sentinel.Services.Digest
import Sentinel.Tiles

/-!
# The digests of deposited keys over time

Every digest of deposited keys tells of the change since the digest before it. Where the events
are handled before their block is flushed, whatever flushes fail and however often the store is
opened again, the digests tile the history of the contract: for each node operator the first one
starts at the count where the watch began, each one starts where the one before it ended, and the
last one ends at the count of the last flushed block.
-/

namespace Sentinel

open Transition OperatorChangesModule

/-! ### The history of the contract -/

/-- The logs after a block, and how the counts of deposited keys follow them. -/
structure KeysHistory (m : OperatorChangesModule) (start : ℕ) (logs : List Event) : Prop where
  ordered : logs.Pairwise fun e e' => e.chainPosition < e'.chainPosition
  nodup : (logs.map Event.logIdentity).Nodup
  later : ∀ e ∈ logs, start < e.block
  operatorId : ∀ e ∈ logs, ∃ id, e.operatorId = some id ∧ IsUint256 id
  count : ∀ e ∈ logs, e.intArg "depositedKeysCount" ≠ none
  /-- without a log of a node operator its count stays -/
  same : ∀ (id : ℤ) (a b : ℕ), start ≤ a → a ≤ b →
    (∀ e ∈ logs, e.operatorId = some id → a < e.block → ¬ e.block ≤ b) →
    m.totalDepositedKeys id b = m.totalDepositedKeys id a
  /-- the last log of a node operator up to a block has the count at the block -/
  last : ∀ (id : ℤ) (b : ℕ) (e : Event),
    (operatorEventsOf (logs.filter fun e => e.block ≤ b) id).getLast? = some e →
    e.intArg "depositedKeysCount" = some (m.totalDepositedKeys id b)

variable {m : OperatorChangesModule} {start : ℕ} {logs : List Event}

/-- A log is told by its identity. -/
theorem KeysHistory.eq_of_logIdentity (h : KeysHistory m start logs) {e e' : Event}
    (he : e ∈ logs) (he' : e' ∈ logs) (heq : e.logIdentity = e'.logIdentity) :
  e = e'
  := List.inj_on_of_nodup_map h.nodup he he' heq

/-- A list of logs has the same members when it is made canonical. -/
theorem KeysHistory.mem_canonical_iff (h : KeysHistory m start logs) {events : List Event}
    (hlogs : ∀ e ∈ events, e ∈ logs) {e : Event} :
  e ∈ canonical events ↔ e ∈ events
  := by
  constructor
  · apply mem_of_mem_canonical
  · intro hmem
    obtain ⟨e', hmem', heq⟩ := exists_mem_canonical hmem
    rw [← h.eq_of_logIdentity (hlogs e' (mem_of_mem_canonical hmem')) (hlogs e hmem) heq]
    apply hmem'

/-- An ordered list of logs is determined by its members. -/
theorem KeysHistory.eq_filter (h : KeysHistory m start logs) {events : List Event}
    (hcanonical : Canonical events) {p : Event → Bool}
    (hmem : ∀ e, e ∈ events ↔ e ∈ logs ∧ p e = true) :
  events = logs.filter p
  := by
  have hlt := h.ordered.filter p
  have hne : ∀ e e' : Event, e.chainPosition < e'.chainPosition → e ≠ e' := by
    intro e e' hlt heq
    rw [heq] at hlt
    apply lt_irrefl _ hlt
  have hperm : events.Perm (logs.filter p) := by
    apply (List.perm_ext_iff_of_nodup hcanonical.nodup.of_map (hlt.imp (hne _ _))).mpr
    intro e
    rw [hmem, List.mem_filter]
  have hordered : OrderedBy Event.chainPosition (logs.filter p) := hlt.imp le_of_lt
  rw [← hcanonical.ordered.sortBy_eq, ← hordered.sortBy_eq]
  apply sortBy_eq_of_perm _ hperm
  apply List.Pairwise.map _ _ hlt
  intro e e' hlt
  apply ne_of_lt hlt

/-- An event is in no later block than an event that is not before it. -/
theorem block_le_of_chainPosition_le {e e' : Event} (h : e.chainPosition ≤ e'.chainPosition) :
  e.block ≤ e'.block
  := by
  simp only [Event.chainPosition, Prod.Lex.toLex_le_toLex] at h
  omega

/-- The last event of an ordered list is also the last one after a block, if there is one after
the block. -/
theorem getLast?_filter_block {events : List Event}
    (hordered : events.Pairwise fun e e' => e.chainPosition < e'.chainPosition) {prev : ℕ}
    (hne : events.filter (fun e => prev < e.block) ≠ []) :
  events.getLast? = (events.filter fun e => prev < e.block).getLast?
  := by
  rcases List.eq_nil_or_concat events with rfl | ⟨before, last, rfl⟩
  · rfl
  · rw [List.concat_eq_append] at hordered hne ⊢
    obtain ⟨e, hmem⟩ := List.exists_mem_of_ne_nil _ hne
    obtain ⟨hmem, hlt⟩ := List.mem_filter.mp hmem
    rw [decide_eq_true_eq] at hlt
    have hle : e.block ≤ last.block := by
      rcases List.mem_append.mp hmem with hmem | hmem
      · have hposition := (List.pairwise_append.mp hordered).2.2 e hmem last
          (List.mem_singleton_self _)
        apply block_le_of_chainPosition_le (le_of_lt hposition)
      · rw [List.mem_singleton.mp hmem]
    have hlast : [last].filter (fun e => prev < e.block) = [last] := by
      simp [lt_of_lt_of_le hlt hle]
    rw [List.filter_append, hlast, List.getLast?_concat, List.getLast?_concat]

/-! ### The digest of a range of blocks -/

/-- A notification of all logs after a block up to another one. -/
structure Covers (logs : List Event) (prev block : ℕ) (notification : EventNotification) :
    Prop where
  lt : prev < block
  sourceEvents : notification.sourceEvents = logs.filter fun e => prev < e.block ∧ e.block ≤ block

/-- What a notification tells of a node operator: the counts before and after it. -/
def keysChange (m : OperatorChangesModule) (notification : EventNotification) (id : ℤ) :
    Option (ℤ × ℤ) :=
  (changeOf m.compareDeposited notification.sourceEvents id).map fun change =>
    (change.before, change.after)

/-- The events of a digest can be read. -/
theorem Covers.readable (h : KeysHistory m start logs) {prev block : ℕ}
    {notification : EventNotification} (hcovers : Covers logs prev block notification) :
  Comparable m.compareDeposited notification.sourceEvents
  := by
  have hmem : ∀ e ∈ notification.sourceEvents, e ∈ logs := by
    intro e he
    rw [hcovers.sourceEvents] at he
    apply List.mem_of_mem_filter he
  constructor
  · intro e he
    apply h.operatorId e (hmem e he)
  · intro id first last _ hlast hnone
    apply h.count last (hmem last hlast)
    simpa [compareDeposited] using hnone

/-- A digest tells of a node operator what became of its count in the blocks of the digest, and
does not tell of a node operator whose count stayed for lack of logs. -/
theorem Covers.keysChange_cases (h : KeysHistory m start logs) {prev block : ℕ}
    (hprev : start ≤ prev) {notification : EventNotification}
    (hcovers : Covers logs prev block notification) (id : ℤ) :
  keysChange m notification id = none
      ∧ m.totalDepositedKeys id block = m.totalDepositedKeys id prev
    ∨ keysChange m notification id
      = some (m.totalDepositedKeys id prev, m.totalDepositedKeys id block)
  := by
  have hmem : ∀ e, e ∈ operatorEventsOf notification.sourceEvents id
      ↔ e ∈ logs ∧ (prev < e.block ∧ e.block ≤ block) ∧ e.operatorId = some id := by
    intro e
    rw [operatorEventsOf, hcovers.sourceEvents, List.mem_filter, List.mem_filter, decide_eq_true_eq,
      decide_eq_true_eq, and_assoc]
  by_cases hnil : operatorEventsOf notification.sourceEvents id = []
  · left
    constructor
    · rw [keysChange, changeOf, hnil]
      rfl
    · apply h.same id prev block hprev (le_of_lt hcovers.lt)
      intro e he hid hlt hle
      have hmem' := (hmem e).mpr ⟨he, ⟨hlt, hle⟩, hid⟩
      rw [hnil] at hmem'
      cases hmem'
  · right
    have hordered : (operatorEventsOf notification.sourceEvents id).Pairwise
        fun e e' => e.chainPosition < e'.chainPosition := by
      rw [operatorEventsOf, hcovers.sourceEvents]
      apply (h.ordered.filter _).filter
    have hevents : operatorEventsOf notification.sourceEvents id
        = (operatorEventsOf (logs.filter fun e => e.block ≤ block) id).filter
          fun e => prev < e.block := by
      rw [operatorEventsOf, operatorEventsOf, hcovers.sourceEvents, List.filter_filter,
        List.filter_filter, List.filter_filter]
      apply List.filter_congr
      intro e _
      simp only [← Bool.decide_and, decide_eq_decide]
      tauto
    obtain ⟨first, rest, hcons⟩ := List.exists_cons_of_ne_nil hnil
    have hlast : (operatorEventsOf (logs.filter fun e => e.block ≤ block) id).getLast?
        = (first :: rest).getLast? := by
      rw [getLast?_filter_block _ (by rw [← hevents]; apply hnil), ← hevents, hcons]
      apply (h.ordered.filter _).filter
    rw [List.getLast?_eq_some_getLast (List.cons_ne_nil first rest)] at hlast
    have hafter := h.last id block _ hlast
    -- no log of the node operator is between the digest before and the first event
    have hbefore : m.totalDepositedKeys id ((first.block : ℤ) - 1)
        = m.totalDepositedKeys id prev := by
      obtain ⟨-, ⟨hlt, hle⟩, -⟩ := (hmem first).mp (by rw [hcons]; apply List.mem_cons_self)
      rw [show ((first.block : ℤ) - 1) = ((first.block - 1 : ℕ) : ℤ) by omega]
      apply h.same id prev (first.block - 1) hprev (by omega)
      intro e he hid hlt' hle'
      have hmem' := (hmem e).mpr ⟨he, ⟨hlt', by omega⟩, hid⟩
      rw [hcons] at hordered hmem'
      have hblock : first.block ≤ e.block := by
        rcases List.mem_cons.mp hmem' with rfl | hrest
        · rfl
        · apply block_le_of_chainPosition_le
          apply le_of_lt (List.rel_of_pairwise_cons hordered hrest)
      omega
    rw [keysChange, changeOf, hcons, compareEvents, List.head?_cons,
      List.getLast?_eq_some_getLast (List.cons_ne_nil first rest)]
    simp only [compareDeposited, hafter, Option.map_some, Option.join_some, hbefore]

/-! ### The digests of a run -/

/-- The notification that an effect emits, with the block that it is flushed through. -/
def DigestEffect.emission {ι : Type*} : DigestEffect ι → Option (ℕ × EventNotification)
  | .appended _ _ => none
  | .emitted _ block notification => some (block, notification)

namespace Digests

variable {ι : Type*} [DecidableEq ι]

/-- The notifications that were emitted, in order. -/
def emissions (s : Digests ι) : List (ℕ × EventNotification) :=
  (s.history.filterMap DigestEffect.emission).reverse

/-- The block through which the digest was emitted last. -/
def lastBlock (start : ℕ) (s : Digests ι) : ℕ :=
  (s.emissions.getLast?.map Prod.fst).getD start

/-- No flush is awaited. -/
def Resting (s : Digests ι) : Prop :=
  ∀ i, s.flushing i = none

/-- The digest is flushed through a block only when all logs up to it were handled, a log is not
handled again after it was emitted, and only one instance is at it at a time. -/
def InOrder (digest : Digest) (logs : List Event) (s : Digests ι) : DigestAction ι → Prop
  | .handleEvent _ e => e.event = digest.eventName →
      s.Resting ∧ e ∈ logs ∧ ∀ emission ∈ s.emissions, emission.1 < e.block
  | .flushThrough _ block =>
      s.Resting ∧ ∀ e ∈ logs, e.block ≤ block → ∃ i, .appended i e ∈ s.history
  | .emitted _ | .raised _ | .reopened => True

/-- The notifications cover the logs after a block, each where the one before it ended. -/
def CoversAll (logs : List Event) (prev : ℕ) : List (ℕ × EventNotification) → Prop
  | [] => True
  | emission :: emissions =>
      Covers logs prev emission.1 emission.2 ∧ CoversAll logs emission.1 emissions

/-- What holds while the digest is flushed in order. -/
structure Tiled (digest : Digest) (start : ℕ) (logs : List Event) (s : Digests ι) : Prop where
  canonical : s.store.IsCanonical
  appended : ∀ i e, .appended i e ∈ s.history → e ∈ logs
  /-- the logs that were handled since the last emission are stored -/
  pending : ∀ e, e ∈ s.store.events digest.name
    ↔ (∃ i, .appended i e ∈ s.history) ∧ s.lastBlock start < e.block
  emitted : CoversAll logs start s.emissions
  flushing : ∀ i, ∀ flush ∈ s.flushing i,
    Covers logs (s.lastBlock start) flush.block flush.notification
  alone : ∀ i j, s.flushing i ≠ none → s.flushing j ≠ none → i = j

omit [DecidableEq ι] in
/-- The last notification starts where the ones before it end. -/
theorem CoversAll.concat {start : ℕ} {emissions : List (ℕ × EventNotification)}
    (h : CoversAll logs start emissions) {block : ℕ} {notification : EventNotification}
    (hcovers : Covers logs ((emissions.getLast?.map Prod.fst).getD start) block notification) :
  CoversAll logs start (emissions ++ [(block, notification)])
  := by
  induction emissions generalizing start with
  | nil => exact ⟨hcovers, trivial⟩
  | cons emission emissions ih =>
      use h.1
      apply ih h.2
      cases emissions with
      | nil => apply hcovers
      | cons next rest =>
          rw [List.getLast?_cons_cons, List.getLast?_eq_some_getLast (List.cons_ne_nil next rest)]
            at hcovers
          rw [List.getLast?_eq_some_getLast (List.cons_ne_nil next rest)]
          apply hcovers

section Steps

variable {digest : Digest} {s t : Digests ι}

omit [DecidableEq ι] in
/-- A log that is handled is after the last emission. -/
theorem lastBlock_lt (h : KeysHistory m start logs) {e : Event} (hmem : e ∈ logs)
    (hemitted : ∀ emission ∈ s.emissions, emission.1 < e.block) :
  s.lastBlock start < e.block
  := by
  rw [lastBlock]
  cases hlast : s.emissions.getLast? with
  | none => apply h.later e hmem
  | some emission => apply hemitted emission (List.mem_of_getLast? hlast)

omit [DecidableEq ι] in
/-- What is ready covers the logs since the last emission, when they were all handled. -/
theorem Tiled.covers_ready (hs : Tiled digest start logs s) (h : KeysHistory m start logs)
    {block : ℕ} (hhandled : ∀ e ∈ logs, e.block ≤ block → ∃ i, .appended i e ∈ s.history)
    (hready : digest.ready s.store block ≠ []) :
  Covers logs (s.lastBlock start) block ⟨digest.ready s.store block, hready⟩
  where
  lt := by
    obtain ⟨e, hmem⟩ := List.exists_mem_of_ne_nil _ hready
    obtain ⟨hmem, hle⟩ := List.mem_filter.mp hmem
    apply lt_of_lt_of_le ((hs.pending e).mp hmem).2 (of_decide_eq_true hle)
  sourceEvents := by
    apply h.eq_filter ((hs.canonical digest.name).sublist List.filter_sublist)
    intro e
    rw [List.mem_filter, hs.pending, decide_eq_true_eq, decide_eq_true_eq]
    constructor
    · rintro ⟨⟨⟨i, hmem⟩, hlt⟩, hle⟩
      exact ⟨hs.appended i e hmem, hlt, hle⟩
    · rintro ⟨hmem, hlt, hle⟩
      exact ⟨⟨hhandled e hmem hle, hlt⟩, hle⟩

omit [DecidableEq ι] in
/-- Handling a log. -/
theorem Tiled.append (hs : Tiled digest start logs s) (h : KeysHistory m start logs) (i : ι)
    {e : Event} (hresting : s.Resting) (hmem : e ∈ logs)
    (hemitted : ∀ emission ∈ s.emissions, emission.1 < e.block) :
  Tiled digest start logs
    { s with
      store := s.store.append digest.name e
      history := .appended i e :: s.history }
  where
  canonical := hs.canonical.replace _ _
  appended := by
    intro j e' hmem'
    rcases List.mem_cons.mp hmem' with heq | hmem'
    · cases heq
      apply hmem
    · apply hs.appended j e' hmem'
  pending := by
    intro e'
    have hlogs : ∀ e' ∈ s.store.events digest.name ++ [e], e' ∈ logs := by
      intro e' hmem'
      rcases List.mem_append.mp hmem' with hmem' | hmem'
      · obtain ⟨⟨j, hmem'⟩, -⟩ := (hs.pending e').mp hmem'
        apply hs.appended j e' hmem'
      · rw [List.mem_singleton.mp hmem']
        apply hmem
    have hlt := lastBlock_lt h hmem hemitted
    rw [DigestStore.events_append, if_pos rfl, h.mem_canonical_iff hlogs, List.mem_append,
      List.mem_singleton, hs.pending]
    constructor
    · rintro (⟨⟨j, hmem'⟩, hlt'⟩ | rfl)
      · exact ⟨⟨j, List.mem_cons_of_mem _ hmem'⟩, hlt'⟩
      · exact ⟨⟨i, List.mem_cons_self⟩, hlt⟩
    · rintro ⟨⟨j, hmem'⟩, hlt'⟩
      rcases List.mem_cons.mp hmem' with heq | hmem'
      · cases heq
        apply Or.inr rfl
      · exact Or.inl ⟨⟨j, hmem'⟩, hlt'⟩
  emitted := hs.emitted
  flushing := by
    intro j flush hflush
    rw [hresting j] at hflush
    cases hflush
  alone := hs.alone

/-- Starting a flush. -/
theorem Tiled.flush (hs : Tiled digest start logs s) (i : ι) (hresting : s.Resting)
    {flush : Flush}
    (hcovers : Covers logs (s.lastBlock start) flush.block flush.notification) :
  Tiled digest start logs { s with flushing := Function.update s.flushing i (some flush) }
  where
  canonical := hs.canonical
  appended := hs.appended
  pending := hs.pending
  emitted := hs.emitted
  flushing := by
    intro j flush' hflush
    by_cases hj : j = i
    · subst hj
      simp only [Function.update_self, Option.mem_some_iff] at hflush
      subst hflush
      apply hcovers
    · simp only [Function.update_of_ne hj, hresting j, Option.mem_def, reduceCtorEq] at hflush
  alone := by
    have honly : ∀ j, Function.update s.flushing i (some flush) j ≠ none → j = i := by
      intro j hne
      by_contra hj
      apply hne
      rw [Function.update_of_ne hj, hresting j]
    intro j k hj hk
    rw [honly j hj, honly k hk]

/-- A flush that ends leaves none. -/
theorem Tiled.ended (hs : Tiled digest start logs s) {i : ι} (hflush : s.flushing i ≠ none)
    (j : ι) :
  Function.update s.flushing i none j = none
  := by
  by_cases hj : j = i
  · rw [hj, Function.update_self]
  · rw [Function.update_of_ne hj]
    by_contra hne
    apply hj (hs.alone j i hne hflush)

/-- The state after a flush whose emission returned. -/
def endFlush (digest : Digest) (s : Digests ι) (i : ι) (flush : Flush) : Digests ι where
  store := s.store.discard digest.name flush.notification.sourceEvents
  flushing := Function.update s.flushing i none
  history := .emitted i flush.block flush.notification :: s.history

theorem emissions_endFlush (digest : Digest) (s : Digests ι) (i : ι) (flush : Flush) :
  (endFlush digest s i flush).emissions = s.emissions ++ [(flush.block, flush.notification)]
  := List.reverse_cons

theorem lastBlock_endFlush (start : ℕ) (digest : Digest) (s : Digests ι) (i : ι) (flush : Flush) :
  (endFlush digest s i flush).lastBlock start = flush.block
  := by
  rw [lastBlock, emissions_endFlush, List.getLast?_concat]
  rfl

/-- Ending a flush whose emission returned. -/
theorem Tiled.emit (hs : Tiled digest start logs s) (h : KeysHistory m start logs) {i : ι}
    {flush : Flush} (hflush : s.flushing i = some flush) :
  Tiled digest start logs (endFlush digest s i flush)
  := by
  have hcovers := hs.flushing i flush hflush
  have hended : ∀ j, (endFlush digest s i flush).flushing j = none :=
    hs.ended (by rw [hflush]; apply Option.some_ne_none)
  have hsent : ∀ e, e ∈ flush.notification.sourceEvents
      ↔ e ∈ logs ∧ s.lastBlock start < e.block ∧ e.block ≤ flush.block := by
    intro e
    rw [hcovers.sourceEvents, List.mem_filter, decide_eq_true_eq]
  have hpending : ∀ e ∈ s.store.events digest.name, e ∈ logs := by
    intro e hmem
    obtain ⟨⟨j, hmem⟩, -⟩ := (hs.pending e).mp hmem
    apply hs.appended j e hmem
  have happended : ∀ j e, .appended j e ∈ (endFlush digest s i flush).history
      ↔ .appended j e ∈ s.history := by
    intro j e
    simp [endFlush]
  constructor
  · apply hs.canonical.replace
  · intro j e hmem
    apply hs.appended j e ((happended j e).mp hmem)
  · intro e
    change e ∈ (s.store.discard digest.name flush.notification.sourceEvents).events digest.name
      ↔ _
    rw [lastBlock_endFlush, DigestStore.events_discard, if_pos rfl, h.mem_canonical_iff
      fun e hmem => hpending e (List.mem_of_mem_filter hmem), List.mem_filter,
      decide_eq_true_eq]
    simp only [happended]
    constructor
    · rintro ⟨hmem, hnot⟩
      obtain ⟨hhandled, hlt⟩ := (hs.pending e).mp hmem
      use hhandled
      by_contra hle
      apply hnot
      apply List.mem_map_of_mem
      apply (hsent e).mpr ⟨hpending e hmem, hlt, not_lt.mp hle⟩
    · rintro ⟨⟨j, hmem⟩, hlt⟩
      use (hs.pending e).mpr ⟨⟨j, hmem⟩, lt_trans hcovers.lt hlt⟩
      intro hmem'
      obtain ⟨e', hmem', heq⟩ := List.mem_map.mp hmem'
      obtain ⟨hlogs, -, hle⟩ := (hsent e').mp hmem'
      rw [h.eq_of_logIdentity hlogs (hs.appended j e hmem) heq] at hle
      apply absurd hlt (not_lt.mpr hle)
  · rw [emissions_endFlush]
    apply hs.emitted.concat hcovers
  · intro j flush' hflush'
    rw [hended j] at hflush'
    cases hflush'
  · intro j k hj
    cases hj (hended j)

/-- A flush whose emission raised. -/
theorem Tiled.raise (hs : Tiled digest start logs s) {i : ι} (hflush : s.flushing i ≠ none) :
  Tiled digest start logs { s with flushing := Function.update s.flushing i none }
  where
  canonical := hs.canonical
  appended := hs.appended
  pending := hs.pending
  emitted := hs.emitted
  flushing := by
    intro j flush hflush'
    simp only [hs.ended hflush j, Option.mem_def, reduceCtorEq] at hflush'
  alone := by
    intro j k hj
    cases hj (hs.ended hflush j)

/-- A step in order. -/
theorem Tiled.step (hs : Tiled digest start logs s) (h : KeysHistory m start logs)
    {a : DigestAction ι} (hok : InOrder digest logs s a)
    (hstep : step (fun _ => digest) s a = some t) :
  Tiled digest start logs t
  := by
  cases stepTo_of_step hstep with
  | appended i e hevent hfree =>
      obtain ⟨hresting, hmem, hemitted⟩ := hok hevent
      apply hs.append h i hresting hmem hemitted
  | flushing i block hfree hready =>
      obtain ⟨hresting, hhandled⟩ := hok
      apply hs.flush i hresting (hs.covers_ready h hhandled hready)
  | emitted i flush hflush => apply hs.emit h hflush
  | raised i flush hflush =>
      apply hs.raise
      rw [hflush]
      apply Option.some_ne_none
  | unchanged => apply hs

/-- A run in order. -/
theorem Tiled.run (hs : Tiled digest start logs s) (h : KeysHistory m start logs)
    (hrun : Reaches (Digests.step fun _ => digest) (InOrder digest logs) s t) :
  Tiled digest start logs t
  := by
  apply hrun.invariant _ hs
  intro u a v hu hok hstep
  apply hu.step h hok hstep

omit [DecidableEq ι] in
/-- The digest before its first event. -/
theorem tiled_start {store : DigestStore} (hstore : store.IsCanonical)
    (hempty : store.events digest.name = []) (start : ℕ) (logs : List Event) :
  Tiled digest start logs (Digests.start store : Digests ι)
  where
  canonical := hstore
  appended := by
    intro i e hmem
    cases hmem
  pending := by
    intro e
    change e ∈ store.events digest.name ↔ _
    rw [hempty]
    simp [Digests.start]
  emitted := trivial
  flushing := by
    intro i flush hflush
    cases hflush
  alone := by
    intro i j hi
    cases hi rfl

end Steps

/-! ### What the digests tell -/

/-- What the digests tell of a node operator, one after the other. -/
def keysChanges (m : OperatorChangesModule) (emissions : List (ℕ × EventNotification)) (id : ℤ) :
    List (ℤ × ℤ) :=
  emissions.filterMap fun emission => keysChange m emission.2 id

omit [DecidableEq ι] in
/-- Notifications that cover the logs tile the history of each node operator. -/
theorem CoversAll.tiles (h : KeysHistory m start logs) {prev : ℕ} (hprev : start ≤ prev)
    {emissions : List (ℕ × EventNotification)} (hcovers : CoversAll logs prev emissions) (id : ℤ) :
  Tiles (m.totalDepositedKeys id prev) (keysChanges m emissions id)
    (m.totalDepositedKeys id ((emissions.getLast?.map Prod.fst).getD prev : ℕ))
  := by
  induction emissions generalizing prev with
  | nil => rfl
  | cons emission emissions ih =>
      obtain ⟨hfirst, hrest⟩ := hcovers
      have htiles := ih (le_trans hprev (le_of_lt hfirst.lt)) hrest
      have hlast : ((emission :: emissions).getLast?.map Prod.fst).getD prev
          = (emissions.getLast?.map Prod.fst).getD emission.1 := by
        cases emissions with
        | nil => rfl
        | cons next rest =>
            rw [List.getLast?_cons_cons, List.getLast?_eq_some_getLast (List.cons_ne_nil next rest)]
            rfl
      rw [hlast, keysChanges, List.filterMap_cons]
      rcases hfirst.keysChange_cases h hprev id with ⟨hnone, hsame⟩ | hsome
      · rw [hnone, ← hsame]
        apply htiles
      · rw [hsome]
        exact ⟨rfl, htiles⟩

/-- A notification that covers logs is one of a range of blocks. -/
theorem CoversAll.exists_covers {prev : ℕ} {emissions : List (ℕ × EventNotification)}
    (hcovers : CoversAll logs prev emissions) {emission : ℕ × EventNotification}
    (hmem : emission ∈ emissions) :
  ∃ prev, Covers logs prev emission.1 emission.2
  := by
  induction emissions generalizing prev with
  | nil => cases hmem
  | cons first rest ih =>
      rcases List.mem_cons.mp hmem with rfl | hmem
      · exact ⟨prev, hcovers.1⟩
      · apply ih hcovers.2 hmem

/-- Over every run in order, with any flushes that fail and any reopenings of the store, the
digests that were sent tile the history of the deposited keys of each node operator, from the
block where the watch began to the last flushed block, and their changes add up to the whole
one. Of each digest, a chat gets the changes of exactly the node operators that it follows. -/
theorem keysChanges_tile {digest : Digest} (h : KeysHistory m start logs) {store : DigestStore}
    (hstore : store.IsCanonical) (hempty : store.events digest.name = []) {s : Digests ι}
    (hrun : Reaches (step fun _ => digest) (InOrder digest logs) (Digests.start store) s) :
  (∀ id : ℤ,
    Tiles (m.totalDepositedKeys id start) (keysChanges m s.emissions id)
        (m.totalDepositedKeys id (s.lastBlock start))
      ∧ ((keysChanges m s.emissions id).map fun change => change.2 - change.1).sum
        = m.totalDepositedKeys id (s.lastBlock start) - m.totalDepositedKeys id start)
    ∧ ∀ emission ∈ s.emissions, ∀ engine : EventMessageEngine,
      engine.IsHandler emission.2 m.depositedSigningKeysCountChanged →
      ∀ telegram storage c,
        (TelegramNotificationHandler.attempts telegram storage engine emission.2).received c
          = if changesFor m.compareDeposited emission.2
                (fun id => storage.ActiveFollower (toString id) c) = [] then []
            else [m.depositedSigningKeysMessage (changesFor m.compareDeposited emission.2
              fun id => storage.ActiveFollower (toString id) c) ++ m.blockRangeFooter emission.2]
  := by
  have htiled := (tiled_start hstore hempty start logs).run h hrun
  constructor
  · intro id
    have htiles := htiled.emitted.tiles h le_rfl id
    exact ⟨htiles, htiles.sum_eq⟩
  · intro emission hmem engine hhandler telegram storage c
    obtain ⟨prev, hcovers⟩ := htiled.emitted.exists_covers hmem
    apply received_depositedSigningKeys (hcovers.readable h) hhandler

/-! ### Two logs, and a flush that raises -/

/-- A log of the first node operator. -/
def depositedKeys (block : ℕ) (count : ℤ) : Event :=
  { Event.first block with
    event := "DepositedSigningKeysCountChanged"
    args := (Dict.empty.set "nodeOperatorId" (.int 0)).set "depositedKeysCount" (.int count)
    logIndex := block }

def fiveKeys : Event := depositedKeys 2 5

def eightKeys : Event := depositedKeys 4 8

/-- A module whose first node operator has five deposited keys from a block on, and eight from
another one on. -/
def keysModule : OperatorChangesModule where
  totalDepositedKeys id block :=
    if id = 0 then if block < 2 then 0 else if block < 4 then 5 else 8 else 0
  digestOperatorLabel id _ := toString id
  nodeOperatorLabel id _ := toString id
  depositedSigningKeysMessage _ := "Keys deposited"
  effectiveWeightMessage _ := ""
  blockRangeFooter _ := ""
  operatorOrder := .sorted

def keysEngine : EventMessageEngine where
  notifiableEvents := {"DepositedSigningKeysCountChanged"}
  eventHandlers := Dict.empty.set "DepositedSigningKeysCountChanged"
    keysModule.depositedSigningKeysCountChanged

def keysDigest : Digest where
  name := "deposited_signing_keys"
  eventName := "DepositedSigningKeysCountChanged"

theorem keysHistory_twoLogs :
  KeysHistory keysModule 1 [fiveKeys, eightKeys]
  where
  ordered := by
    apply List.pairwise_pair.mpr
    decide
  nodup := by decide
  later := by
    intro e he
    rcases List.mem_pair.mp he with rfl | rfl
    · decide
    · decide
  operatorId := by
    intro e he
    rcases List.mem_pair.mp he with rfl | rfl
    · exact ⟨0, rfl, by decide⟩
    · exact ⟨0, rfl, by decide⟩
  count := by
    intro e he
    rcases List.mem_pair.mp he with rfl | rfl
    · decide
    · decide
  same := by
    intro id a b _ hle hnot
    simp only [keysModule]
    by_cases hid : id = 0
    · subst hid
      have hfive : a < 2 → ¬ 2 ≤ b := hnot fiveKeys (by simp) rfl
      have height : a < 4 → ¬ 4 ≤ b := hnot eightKeys (by simp) rfl
      split_ifs
      all_goals omega
    · rw [if_neg hid, if_neg hid]
  last := by
    intro id b e hlast
    have hoperators : ∀ e ∈ [fiveKeys, eightKeys], e.operatorId = some 0 := by
      intro e he
      rcases List.mem_pair.mp he with rfl | rfl
      · rfl
      · rfl
    obtain ⟨hmem, hid⟩ := List.mem_filter.mp (List.mem_of_getLast? hlast)
    rw [hoperators e (List.mem_of_mem_filter hmem), decide_eq_true_eq] at hid
    cases hid
    have hfive : fiveKeys.block = 2 := rfl
    have height : eightKeys.block = 4 := rfl
    have hall : ∀ e ∈ [fiveKeys, eightKeys].filter fun e => e.block ≤ b,
        decide (e.operatorId = some 0) = true := by
      intro e he
      apply decide_eq_true (hoperators e (List.mem_of_mem_filter he))
    rw [operatorEventsOf, List.filter_eq_self.mpr hall, List.filter_cons, List.filter_cons,
      List.filter_nil, hfive, height] at hlast
    simp only [decide_eq_true_eq] at hlast
    have hcases : b < 2 ∨ 2 ≤ b ∧ b < 4 ∨ 4 ≤ b := by omega
    rcases hcases with hb | ⟨hb, hb'⟩ | hb
    · rw [if_neg (by omega), if_neg (by omega)] at hlast
      cases hlast
    · have htotal : keysModule.totalDepositedKeys 0 b = 5 := by
        simp only [keysModule, if_true]
        rw [if_neg (by omega), if_pos (by omega)]
      rw [if_pos hb, if_neg (by omega)] at hlast
      cases hlast
      rw [htotal]
      rfl
    · have htotal : keysModule.totalDepositedKeys 0 b = 8 := by
        simp only [keysModule, if_true]
        rw [if_neg (by omega), if_neg (by omega)]
      rw [if_pos (by omega), if_pos hb] at hlast
      cases hlast
      rw [htotal]
      rfl

/-- A flush of a digest that has one event to send. -/
theorem step_flushThrough_of_events {digest : Digest} {s : Digests Unit} {block : ℕ} {e : Event}
    (hevents : s.store.events digest.name = [e]) (hle : e.block ≤ block)
    (hfree : s.flushing () = none) :
  step (fun _ => digest) s (.flushThrough () block)
    = some { s with flushing := Function.update s.flushing () (some ⟨block, .fromEvent e⟩) }
  := by
  have hready : digest.ready s.store block = [e] := by
    rw [Digest.ready, hevents]
    apply List.filter_eq_self.mpr
    intro e' he'
    rw [List.mem_singleton.mp he']
    apply decide_eq_true hle
  simp [step, hfree, hready, EventNotification.fromEvent]

/-- The digest with the first log, before it is flushed. -/
def fiveKeysHandled : Digests Unit where
  store := DigestStore.empty.append keysDigest.name fiveKeys
  flushing := fun _ => none
  history := [.appended () fiveKeys]

/-- The digest after the first log was sent. -/
def fiveKeysSent : Digests Unit :=
  endFlush keysDigest fiveKeysHandled () ⟨3, .fromEvent fiveKeys⟩

/-- The digest with the second log, before it is flushed. -/
def eightKeysHandled : Digests Unit :=
  { fiveKeysSent with
    store := fiveKeysSent.store.append keysDigest.name eightKeys
    history := .appended () eightKeys :: fiveKeysSent.history }

/-- The digest after both logs were sent. -/
def eightKeysSent : Digests Unit :=
  endFlush keysDigest eightKeysHandled () ⟨5, .fromEvent eightKeys⟩

theorem events_fiveKeysHandled :
  fiveKeysHandled.store.events keysDigest.name = [fiveKeys]
  := by
  rw [fiveKeysHandled, DigestStore.events_append, if_pos rfl, DigestStore.events_empty,
    List.nil_append, Canonical.canonical_eq]
  constructor <;> simp [OrderedBy]

theorem events_fiveKeysSent :
  fiveKeysSent.store.events keysDigest.name = []
  := by
  change (fiveKeysHandled.store.discard keysDigest.name [fiveKeys]).events _ = []
  rw [DigestStore.events_discard, if_pos rfl, events_fiveKeysHandled]
  simp [canonical, Dict.values]

theorem events_eightKeysHandled :
  eightKeysHandled.store.events keysDigest.name = [eightKeys]
  := by
  rw [eightKeysHandled, DigestStore.events_append, if_pos rfl, events_fiveKeysSent,
    List.nil_append, Canonical.canonical_eq]
  constructor <;> simp [OrderedBy]

/-- The first flush of the first log raises, the process is restarted after the second one, and
the second log is sent by a third one. -/
theorem run_eightKeysSent :
  Reaches (step fun _ => keysDigest) (InOrder keysDigest [fiveKeys, eightKeys])
    (Digests.start .empty) eightKeysSent
  := by
  have hfive : ∀ e ∈ [fiveKeys, eightKeys], e.block ≤ 3 →
      ∃ i, .appended i e ∈ fiveKeysHandled.history := by
    intro e he hle
    rcases List.mem_pair.mp he with rfl | rfl
    · exact ⟨(), List.mem_singleton_self _⟩
    · cases not_le_of_gt (by decide : 3 < eightKeys.block) hle
  have height : ∀ e ∈ [fiveKeys, eightKeys], e.block ≤ 5 →
      ∃ i, .appended i e ∈ eightKeysHandled.history := by
    intro e he _
    use ()
    rcases List.mem_pair.mp he with rfl | rfl
    · apply List.mem_cons_of_mem _ (List.mem_cons_of_mem _ List.mem_cons_self)
    · apply List.mem_cons_self
  have hflush := step_flushThrough_of_events events_fiveKeysHandled (by decide : 2 ≤ 3) rfl
  have hflush' := step_flushThrough_of_events events_eightKeysHandled (by decide : 4 ≤ 5) rfl
  apply Reaches.head (a := .handleEvent () fiveKeys) _ (t := fiveKeysHandled) rfl
  · apply Reaches.head (a := .flushThrough () 3) ⟨fun _ => rfl, hfive⟩ hflush
    apply Reaches.head (a := .raised ()) trivial (t := fiveKeysHandled) rfl
    apply Reaches.head (a := .flushThrough () 3) ⟨fun _ => rfl, hfive⟩ hflush
    apply Reaches.head (a := .emitted ()) trivial (t := fiveKeysSent) rfl
    apply Reaches.head (a := .reopened) trivial (t := fiveKeysSent)
    · rw [step, DigestStore.normalise_records]
    apply Reaches.head (a := .handleEvent () eightKeys) _ (t := eightKeysHandled) rfl
    · apply Reaches.head (a := .flushThrough () 5) ⟨fun _ => rfl, height⟩ hflush'
      apply Reaches.head (a := .emitted ()) trivial (t := eightKeysSent) rfl
      apply Reaches.refl
    · intro _
      use fun _ => rfl, List.mem_cons_of_mem _ List.mem_cons_self
      intro emission hmem
      rw [List.mem_singleton.mp hmem]
      decide
  · intro _
    use fun _ => rfl, List.mem_cons_self
    intro emission hmem
    cases hmem

/-- Two digests, the first of which is sent by its second flush, tile the history of the node
operator, and its follower gets both. -/
theorem keysChanges_tile_raised :
  ∃ s : Digests Unit, s.emissions = [(3, .fromEvent fiveKeys), (5, .fromEvent eightKeys)]
    ∧ keysChanges keysModule s.emissions 0 = [(0, 5), (5, 8)]
    ∧ Tiles (keysModule.totalDepositedKeys 0 1) (keysChanges keysModule s.emissions 0)
        (keysModule.totalDepositedKeys 0 (s.lastBlock 1))
    ∧ ∀ emission ∈ s.emissions,
      (TelegramNotificationHandler.attempts .reliable (.follower "0") keysEngine
        emission.2).received 1 = ["Keys deposited"]
  := by
  obtain ⟨htiles, hreceived⟩ := keysChanges_tile keysHistory_twoLogs
    DigestStore.isCanonical_empty (DigestStore.events_empty _) run_eightKeysSent
  have hemissions : ∀ emission ∈ eightKeysSent.emissions,
      keysEngine.IsHandler emission.2 keysModule.depositedSigningKeysCountChanged
        ∧ 0 ∈ changedOperators keysModule.compareDeposited emission.2.sourceEvents := by
    intro emission hmem
    rcases List.mem_pair.mp hmem with rfl | rfl
    · exact ⟨⟨Finset.mem_singleton_self _, rfl⟩, by decide⟩
    · exact ⟨⟨Finset.mem_singleton_self _, rfl⟩, by decide⟩
  use eightKeysSent, rfl, by decide, (htiles 0).1
  intro emission hmem
  obtain ⟨hhandler, hchanged⟩ := hemissions emission hmem
  rw [hreceived emission hmem keysEngine hhandler, if_neg]
  · rfl
  · intro hnone
    apply changesFor_eq_nil_iff.mp hnone 0 hchanged
    apply BotStorage.activeFollower_follower.mpr ⟨rfl, rfl⟩

end Digests

end Sentinel
