import Sentinel.Storage.DigestStore
import Sentinel.Transition
import Mathlib.Logic.Function.Basic

/-!
# Digests over one store

A `Digest` collects the events of one name in the list of one digest of a store, and sends
the collected events when it is flushed. Several instances may work over the same store, as
when a runtime is replaced. The lock of an instance keeps its own operations apart, but not
those of another instance, so between the start of the emission of a flush and its end the
other instances may append to the store, and send and discard what it has.

The steps of `Digests` are what happens between two `await`s. An operation that waits for
the lock of its instance takes its step when it has the lock.
-/

namespace Sentinel

open Transition

/-- An instance of a digest. -/
structure Digest where
  name : String
  eventName : String

namespace Digest

/-- Whether an event is one of the digest, and the store after it is handled. -/
def handleEvent (digest : Digest) (store : DigestStore) (e : Event) : Bool × DigestStore :=
  if e.event ≠ digest.eventName then (false, store)
  else (true, store.append digest.name e)

/-- The events of the digest up to a block. -/
def ready (digest : Digest) (store : DigestStore) (block : ℕ) : List Event :=
  (store.events digest.name).filter fun e => e.block ≤ block

end Digest

/-- A flush whose emission is awaited. Its instance holds its lock meanwhile. -/
structure Flush where
  block : ℕ
  notification : EventNotification

/-- What the instances of a digest did. -/
inductive DigestEffect (ι : Type*) where
  /-- an event was handled and appended -/
  | appended (i : ι) (e : Event)
  /-- a notification was emitted by a flush up to a block -/
  | emitted (i : ι) (block : ℕ) (notification : EventNotification)

/-- The log identities whose stored event in a digest an effect changes. -/
def DigestEffect.identities {ι : Type*} (digest : ι → Digest) (name : String) :
    DigestEffect ι → List (String × String × ℕ)
  | .appended i e => if (digest i).name = name then [e.logIdentity] else []
  | .emitted i _ notification =>
      if (digest i).name = name then notification.sourceEvents.map Event.logIdentity else []

/-- Instances of digests, indexed by `ι`, over one store. -/
structure Digests (ι : Type*) where
  store : DigestStore
  /-- the flush of each instance whose emission is awaited -/
  flushing : ι → Option Flush
  /-- what was done, newest first -/
  history : List (DigestEffect ι)

/-- What can happen next to digests over one store. -/
inductive DigestAction (ι : Type*) where
  /-- `handle_event` -/
  | handleEvent (i : ι) (e : Event)
  /-- `flush_through`, up to its emission -/
  | flushThrough (i : ι) (block : ℕ)
  /-- the emission of a flush returns, and the flush goes on to its end -/
  | emitted (i : ι)
  /-- the emission of a flush raises -/
  | raised (i : ι)
  /-- the store is opened again over the same records -/
  | reopened

namespace Digests

variable {ι : Type*} [DecidableEq ι]

/-- The digests before the first step. -/
def start (store : DigestStore) : Digests ι where
  store := store
  flushing := fun _ => none
  history := []

/-- A step of the digests, `none` where the instance is not at it or waits for its lock. -/
def step (digest : ι → Digest) (s : Digests ι) : DigestAction ι → Option (Digests ι)
  | .handleEvent i e =>
      match (digest i).handleEvent s.store e with
      | (false, _) => some s
      | (true, store) =>
          if (s.flushing i).isSome then none
          else some { s with store := store, history := .appended i e :: s.history }
  | .flushThrough i block =>
      if (s.flushing i).isSome then none
      else if h : (digest i).ready s.store block = [] then some s
      else
        let flush := ⟨block, ⟨(digest i).ready s.store block, h⟩⟩
        some { s with flushing := Function.update s.flushing i (some flush) }
  | .emitted i =>
      (s.flushing i).map fun flush =>
        { store := s.store.discard (digest i).name flush.notification.sourceEvents
          flushing := Function.update s.flushing i none
          history := .emitted i flush.block flush.notification :: s.history }
  | .raised i =>
      (s.flushing i).map fun _ => { s with flushing := Function.update s.flushing i none }
  | .reopened => some { s with store := .normalise s.store.records }

/-! ### What a step can do -/

/-- What a step does: it appends an event, it starts a flush, it emits and discards the
events of a flush, it ends a flush, or it changes nothing. -/
inductive StepTo (digest : ι → Digest) (s : Digests ι) : DigestAction ι → Digests ι → Prop
  | appended (i : ι) (e : Event) (hevent : e.event = (digest i).eventName)
      (hfree : s.flushing i = none) :
    StepTo digest s (.handleEvent i e)
      { s with
        store := s.store.append (digest i).name e
        history := .appended i e :: s.history }
  | flushing (i : ι) (block : ℕ) (hfree : s.flushing i = none)
      (h : (digest i).ready s.store block ≠ []) :
    StepTo digest s (.flushThrough i block)
      { s with
        flushing := Function.update s.flushing i
          (some ⟨block, ⟨(digest i).ready s.store block, h⟩⟩) }
  | emitted (i : ι) (flush : Flush) (hflush : s.flushing i = some flush) :
    StepTo digest s (.emitted i)
      { store := s.store.discard (digest i).name flush.notification.sourceEvents
        flushing := Function.update s.flushing i none
        history := .emitted i flush.block flush.notification :: s.history }
  | raised (i : ι) (flush : Flush) (hflush : s.flushing i = some flush) :
    StepTo digest s (.raised i) { s with flushing := Function.update s.flushing i none }
  | unchanged (a : DigestAction ι) :
    StepTo digest s a s

/-- Every step is one of these. -/
theorem stepTo_of_step {digest : ι → Digest} {s t : Digests ι} {a : DigestAction ι}
    (h : step digest s a = some t) :
  StepTo digest s a t
  := by
  cases a with
  | handleEvent i e =>
      simp only [step, Digest.handleEvent] at h
      by_cases hevent : e.event = (digest i).eventName
      · cases hflush : s.flushing i with
        | none =>
            obtain rfl : _ = t := by simpa [hevent, hflush] using h
            apply StepTo.appended i e hevent hflush
        | some flush => simp [hevent, hflush] at h
      · obtain rfl : s = t := by simpa [hevent] using h
        apply StepTo.unchanged
  | flushThrough i block =>
      simp only [step] at h
      cases hflush : s.flushing i with
      | none =>
          by_cases hready : (digest i).ready s.store block = []
          · obtain rfl : s = t := by simpa [hflush, hready] using h
            apply StepTo.unchanged
          · obtain rfl : _ = t := by simpa [hflush, hready] using h
            apply StepTo.flushing i block hflush hready
      | some flush => simp [hflush] at h
  | emitted i =>
      obtain ⟨flush, hflush, rfl⟩ := Option.map_eq_some_iff.mp h
      apply StepTo.emitted i flush hflush
  | raised i =>
      obtain ⟨flush, hflush, rfl⟩ := Option.map_eq_some_iff.mp h
      apply StepTo.raised i flush hflush
  | reopened =>
      obtain rfl : s = t := by simpa [step] using h
      apply StepTo.unchanged

/-- Runs of the digests. -/
abbrev Run (digest : ι → Digest) : Digests ι → Digests ι → Prop :=
  Reaches (step digest) fun _ _ => True

/-! ### The stored lists -/

/-- A step keeps the store canonical. -/
theorem isCanonical_of_step {digest : ι → Digest} {s t : Digests ι} {a : DigestAction ι}
    (hs : s.store.IsCanonical) (h : step digest s a = some t) :
  t.store.IsCanonical
  := by
  cases stepTo_of_step h with
  | appended i e => apply hs.replace
  | flushing => apply hs
  | emitted i flush => apply hs.replace
  | raised => apply hs
  | unchanged => apply hs

/-- The store stays canonical along a run. -/
theorem isCanonical_of_reaches {digest : ι → Digest} {ok : Digests ι → DigestAction ι → Prop}
    {s t : Digests ι} (h : Reaches (step digest) ok s t) (hs : s.store.IsCanonical) :
  t.store.IsCanonical
  := by
  apply h.invariant (I := fun s => s.store.IsCanonical) _ hs
  intro s a t hs _ hstep
  apply isCanonical_of_step hs hstep

/-! ### Notifications -/

/-- A notification about events up to a block, in chain order. -/
structure SentThrough (block : ℕ) (notification : EventNotification) : Prop where
  block_le : ∀ e ∈ notification.sourceEvents, e.block ≤ block
  ordered : OrderedBy Event.chainPosition notification.sourceEvents

/-- The notifications that were emitted and those that are awaited. -/
structure SendsThrough (s : Digests ι) : Prop where
  flushing : ∀ i, ∀ flush ∈ s.flushing i, SentThrough flush.block flush.notification
  emitted : ∀ i block notification,
    .emitted i block notification ∈ s.history → SentThrough block notification

/-- The ready events of a canonical store are up to the block and in chain order. -/
theorem sentThrough_ready {digest : Digest} {store : DigestStore} (hstore : store.IsCanonical)
    {block : ℕ} (h : digest.ready store block ≠ []) :
  SentThrough block ⟨digest.ready store block, h⟩
  where
  block_le := by
    intro e he
    simpa using (List.mem_filter.mp he).2
  ordered := (hstore digest.name).ordered.sublist List.filter_sublist

/-- A step keeps the notifications about events up to their block. -/
theorem SendsThrough.of_step {digest : ι → Digest} {s t : Digests ι} {a : DigestAction ι}
    (hs : s.SendsThrough) (hstore : s.store.IsCanonical) (h : step digest s a = some t) :
  t.SendsThrough
  := by
  -- an instance that ends its flush awaits nothing
  have hended : ∀ i j, ∀ flush ∈ Function.update s.flushing i none j,
      SentThrough flush.block flush.notification := by
    intro i j flush hflush
    by_cases hj : j = i
    · subst hj
      simp at hflush
    · rw [Function.update_of_ne hj] at hflush
      apply hs.flushing j flush hflush
  cases stepTo_of_step h with
  | appended i e =>
      constructor
      · apply hs.flushing
      · intro j block notification hmem
        apply hs.emitted j
        simpa using hmem
  | flushing i block hfree hready =>
      constructor
      · intro j flush hflush
        by_cases hj : j = i
        · subst hj
          simp only [Function.update_self, Option.mem_some_iff] at hflush
          subst hflush
          apply sentThrough_ready hstore hready
        · simp only [Function.update_of_ne hj] at hflush
          apply hs.flushing j flush hflush
      · apply hs.emitted
  | emitted i flush hflush =>
      constructor
      · apply hended i
      · intro j block notification hmem
        rcases List.mem_cons.mp hmem with heq | hmem
        · cases heq
          apply hs.flushing i flush hflush
        · apply hs.emitted j block notification hmem
  | raised i =>
      constructor
      · apply hended i
      · apply hs.emitted
  | unchanged => apply hs

/-! ### Conservation -/

/-- Every log identity that was appended to a digest is stored, or it is in a notification of
the digest that was emitted after the append. -/
def Conserved (digest : ι → Digest) (s : Digests ι) : Prop :=
  ∀ later earlier i e, s.history = later ++ .appended i e :: earlier →
    s.store.Holds (digest i).name e.logIdentity
      ∨ ∃ j block notification, .emitted j block notification ∈ later
          ∧ (digest j).name = (digest i).name
          ∧ ∃ e' ∈ notification.sourceEvents, e'.logIdentity = e.logIdentity

omit [DecidableEq ι] in
/-- Conservation over a step that does one more thing and keeps every stored log identity
that the thing it does does not send. -/
theorem Conserved.cons {digest : ι → Digest} {s : Digests ι} (hs : s.Conserved digest)
    {store : DigestStore} {flushing : ι → Option Flush} {effect : DigestEffect ι}
    (hnew : ∀ i e, effect = .appended i e → store.Holds (digest i).name e.logIdentity)
    (hkept : ∀ name identity, s.store.Holds name identity → store.Holds name identity
      ∨ ∃ j block notification, effect = .emitted j block notification
          ∧ (digest j).name = name
          ∧ ∃ e' ∈ notification.sourceEvents, e'.logIdentity = identity) :
  Conserved digest ⟨store, flushing, effect :: s.history⟩
  := by
  intro later earlier i e hhistory
  rcases later with - | ⟨last, later⟩
  · obtain ⟨rfl, -⟩ := List.cons.inj hhistory
    left
    apply hnew i e rfl
  · obtain ⟨rfl, htail⟩ := List.cons.inj hhistory
    rcases hs later earlier i e htail with hstored | ⟨j, block, notification, hmem, hsent⟩
    · rcases hkept _ _ hstored with hkept | ⟨j, block, notification, rfl, hsent⟩
      · apply Or.inl hkept
      · right
        use j, block, notification, List.mem_cons_self
    · right
      use j, block, notification, List.mem_cons_of_mem _ hmem

/-- A step conserves the appended events. -/
theorem Conserved.of_step {digest : ι → Digest} {s t : Digests ι} {a : DigestAction ι}
    (hs : s.Conserved digest) (h : step digest s a = some t) :
  t.Conserved digest
  := by
  cases stepTo_of_step h with
  | appended i e =>
      apply hs.cons
      · rintro j e' heq
        cases heq
        apply s.store.holds_append_self
      · intro name identity hholds
        left
        apply hholds.append
  | flushing => apply hs
  | emitted i flush =>
      apply hs.cons
      · rintro j e' heq
        cases heq
      · intro name identity hholds
        rcases hholds.discard (digest i).name flush.notification.sourceEvents with hkept | hsent
        · apply Or.inl hkept
        · right
          use i, flush.block, flush.notification, rfl
  | raised => apply hs
  | unchanged => apply hs

/-! ### What a flush that raises leaves -/

/-- An event of a digest that none of the effects is about. -/
def untouched (digest : ι → Digest) (name : String) (effects : List (DigestEffect ι)) (e : Event) :
    Bool :=
  effects.all fun effect => e.logIdentity ∉ DigestEffect.identities digest name effect

/-- The store `after` differs from the store `before` by the given effects: what none of them
is about is in place, and what is new was appended. -/
structure ChangedBy (digest : ι → Digest) (effects : List (DigestEffect ι))
    (before after : DigestStore) : Prop where
  kept : ∀ name, (after.events name).filter (untouched digest name effects)
    = (before.events name).filter (untouched digest name effects)
  origin : ∀ name, ∀ e ∈ after.events name,
    e ∈ before.events name ∨ ∃ i, (digest i).name = name ∧ .appended i e ∈ effects

/-- The steps at which the emission of a flush of the instance does not end. -/
def AwaitsEmission (i : ι) (_ : Digests ι) (a : DigestAction ι) : Prop :=
  a ≠ .emitted i ∧ a ≠ .raised i

omit [DecidableEq ι] in
/-- Nothing changes a store. -/
theorem ChangedBy.refl (digest : ι → Digest) (store : DigestStore) :
  ChangedBy digest [] store store
  where
  kept _ := rfl
  origin _ _ he := Or.inl he

omit [DecidableEq ι] in
/-- Events untouched by more effects are untouched by fewer. -/
theorem filter_untouched_cons (digest : ι → Digest) (name : String) (effect : DigestEffect ι)
    (effects : List (DigestEffect ι)) (events : List Event) :
  events.filter (untouched digest name (effect :: effects))
    = (events.filter (untouched digest name effects)).filter
        (untouched digest name (effect :: effects))
  := by
  rw [List.filter_filter]
  apply List.filter_congr
  intro e _
  simp only [untouched, List.all_cons]
  cases effects.all fun effect =>
      decide (e.logIdentity ∉ DigestEffect.identities digest name effect) <;>
    simp

omit [DecidableEq ι] in
/-- Changes after which one more effect changes the store. -/
theorem ChangedBy.cons {digest : ι → Digest} {effects : List (DigestEffect ι)}
    {before store after : DigestStore} (h : ChangedBy digest effects before store)
    {effect : DigestEffect ι}
    (hkept : ∀ name, (after.events name).filter (untouched digest name (effect :: effects))
      = (store.events name).filter (untouched digest name (effect :: effects)))
    (horigin : ∀ name, ∀ e ∈ after.events name,
      e ∈ store.events name ∨ ∃ i, (digest i).name = name ∧ effect = .appended i e) :
  ChangedBy digest (effect :: effects) before after
  where
  kept name := by
    rw [hkept name, filter_untouched_cons, h.kept name, ← filter_untouched_cons]
  origin name e he := by
    rcases horigin name e he with hstore | ⟨i, hname, rfl⟩
    · rcases h.origin name e hstore with hbefore | ⟨i, hname, hmem⟩
      · apply Or.inl hbefore
      · apply Or.inr ⟨i, hname, List.mem_cons_of_mem _ hmem⟩
    · apply Or.inr ⟨i, hname, List.mem_cons_self⟩

omit [DecidableEq ι] in
/-- An event that an effect is about is touched. -/
theorem untouched_cons_eq_false {digest : ι → Digest} {name : String} {effect : DigestEffect ι}
    {effects : List (DigestEffect ι)} {e : Event}
    (h : e.logIdentity ∈ DigestEffect.identities digest name effect) :
  untouched digest name (effect :: effects) e = false
  := by
  simp [untouched, h]

/-- A step changes the store by what it adds to the history. -/
theorem exists_changedBy_of_step {digest : ι → Digest} {s t : Digests ι} {a : DigestAction ι}
    {effects : List (DigestEffect ι)} {before : DigestStore} (hstore : s.store.IsCanonical)
    (hs : ChangedBy digest effects before s.store) (h : step digest s a = some t) :
  ∃ new, t.history = new ++ s.history ∧ ChangedBy digest (new ++ effects) before t.store
    ∧ ∀ i block notification, .emitted i block notification ∈ new → a = .emitted i
  := by
  cases stepTo_of_step h with
  | appended i e =>
      use [.appended i e], rfl
      constructor
      · apply hs.cons
        · intro name
          apply DigestStore.filter_events_append hstore
          rintro rfl e' hid
          apply untouched_cons_eq_false
          simp [DigestEffect.identities, hid]
        · intro name e' he'
          rcases DigestStore.mem_events_append he' with hold | ⟨rfl, rfl⟩
          · apply Or.inl hold
          · apply Or.inr ⟨i, rfl, rfl⟩
      · simp
  | emitted i flush =>
      use [.emitted i flush.block flush.notification], rfl
      constructor
      · apply hs.cons
        · intro name
          apply DigestStore.filter_events_discard hstore
          rintro rfl e' hid
          apply untouched_cons_eq_false
          simpa [DigestEffect.identities] using hid
        · intro name e' he'
          apply Or.inl (DigestStore.mem_events_discard he')
      · intro j block notification hmem
        cases List.mem_singleton.mp hmem
        rfl
  | flushing | raised | unchanged =>
      use [], rfl, hs
      simp

/-- While the emission of a flush is awaited, the store changes by what the other instances
do. -/
theorem exists_changedBy_of_reaches {digest : ι → Digest} {i : ι} {s t : Digests ι}
    (hstore : s.store.IsCanonical) (h : Reaches (step digest) (AwaitsEmission i) s t) :
  ∃ meanwhile, t.history = meanwhile ++ s.history
    ∧ ChangedBy digest meanwhile s.store t.store
    ∧ ∀ j block notification, .emitted j block notification ∈ meanwhile → j ≠ i
  := by
  induction h with
  | refl =>
      use [], rfl, ChangedBy.refl digest s.store
      simp
  | tail hreach hstep ih =>
      obtain ⟨a, hok, hstep⟩ := hstep
      obtain ⟨meanwhile, hhistory, hchanged, hother⟩ := ih
      obtain ⟨new, hnew, hchanged', hemitted⟩ :=
        exists_changedBy_of_step (isCanonical_of_reaches hreach hstore) hchanged hstep
      use new ++ meanwhile
      rw [hnew, hhistory, List.append_assoc]
      use rfl, hchanged'
      intro j block notification hmem
      rcases List.mem_append.mp hmem with hmem | hmem
      · rintro rfl
        apply hok.1 (hemitted j block notification hmem)
      · apply hother j block notification hmem

/-- A flush whose emission raises leaves the store as it was when the flush began, apart from
the events that were appended meanwhile and those that another instance emitted and
discarded meanwhile. -/
def RaiseRestores (digest : ι → Digest) (s : Digests ι) : Prop :=
  ∀ i block flushing awaiting after, step digest s (.flushThrough i block) = some flushing →
    Reaches (step digest) (AwaitsEmission i) flushing awaiting →
    step digest awaiting (.raised i) = some after →
    ∃ meanwhile, after.history = meanwhile ++ s.history
      ∧ ChangedBy digest meanwhile s.store after.store
      ∧ ∀ j block' notification, .emitted j block' notification ∈ meanwhile → j ≠ i

/-- Beginning a flush changes neither the store nor the history. -/
theorem eq_of_flushThrough {digest : ι → Digest} {s t : Digests ι} {i : ι} {block : ℕ}
    (h : step digest s (.flushThrough i block) = some t) :
  t.store = s.store ∧ t.history = s.history
  := by
  cases stepTo_of_step h <;> constructor <;> rfl

/-- An emission that raises changes neither the store nor the history. -/
theorem eq_of_raised {digest : ι → Digest} {s t : Digests ι} {i : ι}
    (h : step digest s (.raised i) = some t) :
  t.store = s.store ∧ t.history = s.history
  := by
  cases stepTo_of_step h <;> constructor <;> rfl

theorem raiseRestores_of_isCanonical {digest : ι → Digest} {s : Digests ι}
    (hstore : s.store.IsCanonical) :
  s.RaiseRestores digest
  := by
  intro i block flushing awaiting after hbegin hreach hraise
  obtain ⟨hbeginStore, hbeginHistory⟩ := eq_of_flushThrough hbegin
  obtain ⟨hraiseStore, hraiseHistory⟩ := eq_of_raised hraise
  rw [← hbeginStore] at hstore
  obtain ⟨meanwhile, hhistory, hchanged, hother⟩ := exists_changedBy_of_reaches hstore hreach
  use meanwhile
  rw [hraiseStore, hraiseHistory, ← hbeginStore, ← hbeginHistory]
  use hhistory, hchanged

/-! ### Every interleaving -/

/-- What holds of digests over one store after any interleaving of their operations. -/
structure Sound (digest : ι → Digest) (s : Digests ι) : Prop where
  conserved : s.Conserved digest
  sent : ∀ i block notification,
    .emitted i block notification ∈ s.history → SentThrough block notification
  restores : s.RaiseRestores digest
  canonical : s.store.IsCanonical

/-- Digests over one store conserve the events they are given, under every interleaving. -/
theorem digests_sound_of_run {digest : ι → Digest} {store : DigestStore} {s : Digests ι}
    (hstore : store.IsCanonical) (h : Run digest (start store) s) :
  s.Sound digest
  := by
  have hcanonical := isCanonical_of_reaches h hstore
  have hinvariant : s.store.IsCanonical ∧ s.SendsThrough ∧ s.Conserved digest := by
    apply h.invariant
    · rintro s a t ⟨hcanonical, hsends, hconserved⟩ - hstep
      use isCanonical_of_step hcanonical hstep, hsends.of_step hcanonical hstep
      apply hconserved.of_step hstep
    · use hstore
      constructor
      · constructor
        · rintro i flush ⟨⟩
        · rintro i block notification ⟨⟩
      · rintro later earlier i e hhistory
        simp [start] at hhistory
  obtain ⟨-, hsends, hconserved⟩ := hinvariant
  use hconserved, hsends.emitted, raiseRestores_of_isCanonical hcanonical

/-- Two instances of one digest, as after a replacement of the runtime. -/
def replaced (_ : Bool) : Digest where
  name := "deposits"
  eventName := (Event.first 1).event

/-- The digests after one event is appended. -/
def appended : Digests Bool where
  store := DigestStore.empty.append "deposits" (Event.first 1)
  flushing := fun _ => none
  history := [.appended true (Event.first 1)]

theorem run_appended :
  Run replaced (start .empty) appended
  := Reaches.head (a := .handleEvent true (Event.first 1)) trivial rfl (Reaches.refl _)

theorem events_appended :
  appended.store.events "deposits" = [Event.first 1]
  := by
  rw [appended, DigestStore.events_append, if_pos rfl, DigestStore.events_empty,
    List.nil_append, Canonical.canonical_eq]
  constructor <;> simp [OrderedBy]

/-- A flush of one event. -/
def flush (block : ℕ) : Flush where
  block := block
  notification := .fromEvent (Event.first block)

/-- A flush where one event is stored. -/
theorem step_flushThrough_first (i : Bool) {s : Digests Bool} {block : ℕ}
    (hevents : s.store.events "deposits" = [Event.first block]) (hfree : s.flushing i = none) :
  step replaced s (.flushThrough i block)
    = some { s with flushing := Function.update s.flushing i (some (flush block)) }
  := by
  have hready : (replaced i).ready s.store block = [Event.first block] := by
    simp [Digest.ready, replaced, hevents, Event.first]
  simp [step, hfree, hready, flush, EventNotification.fromEvent]

/-- The digests after the event was sent. -/
def sentFirst : Digests Bool where
  store := appended.store.discard "deposits" (flush 1).notification.sourceEvents
  flushing := Function.update (Function.update (fun _ => none) true (some (flush 1))) true none
  history := .emitted true 1 (flush 1).notification :: appended.history

/-- The digests after another event is appended. -/
def appendedTwice : Digests Bool where
  store := sentFirst.store.append "deposits" (Event.first 2)
  flushing := sentFirst.flushing
  history := .appended false (Event.first 2) :: sentFirst.history

theorem events_sentFirst :
  sentFirst.store.events "deposits" = []
  := by
  change (appended.store.discard "deposits" [Event.first 1]).events "deposits" = []
  rw [DigestStore.events_discard, if_pos rfl, events_appended]
  simp [canonical, Dict.values]

theorem events_appendedTwice :
  appendedTwice.store.events "deposits" = [Event.first 2]
  := by
  rw [appendedTwice, DigestStore.events_append, if_pos rfl, events_sentFirst, List.nil_append,
    Canonical.canonical_eq]
  constructor <;> simp [OrderedBy]

/-- One instance sends the first event, and the emission of the second one by the other instance
raises. -/
theorem run_raised :
  Run replaced (start .empty)
    { appendedTwice with
      flushing := Function.update
        (Function.update appendedTwice.flushing false (some (flush 2))) false none }
  := by
  apply run_appended.trans
  apply Reaches.head (a := .flushThrough true 1) trivial
    (step_flushThrough_first true events_appended rfl)
  apply Reaches.head (a := .emitted true) (t := sentFirst) trivial rfl
  apply Reaches.head (a := .handleEvent false (Event.first 2)) (t := appendedTwice) trivial rfl
  apply Reaches.head (a := .flushThrough false 2) trivial
    (step_flushThrough_first false events_appendedTwice rfl)
  apply Reaches.head (a := .raised false) trivial rfl
  apply Reaches.refl

theorem sound_raisedFlush :
  ∃ s : Digests Bool, s.Sound replaced ∧ s.store.events "deposits" = [Event.first 2]
    ∧ s.history = [.appended false (Event.first 2),
      .emitted true 1 (.fromEvent (Event.first 1)), .appended true (Event.first 1)]
  := ⟨_, digests_sound_of_run DigestStore.isCanonical_empty run_raised, events_appendedTwice, rfl⟩

/-- A flush can raise and leave the store without an event that it had when the flush began,
although nothing is appended meanwhile: the other instance sent the event. -/
theorem exists_raised_without_event :
  ∃ s flushing awaiting after : Digests Bool, Run replaced (start .empty) s
    ∧ step replaced s (.flushThrough false 1) = some flushing
    ∧ Reaches (step replaced) (AwaitsEmission false) flushing awaiting
    ∧ step replaced awaiting (.raised false) = some after
    ∧ (∀ i e, .appended i e ∈ after.history → .appended i e ∈ s.history)
    ∧ s.store.events "deposits" = [Event.first 1]
    ∧ after.store.events "deposits" = []
  := by
  let flushing : Digests Bool :=
    { appended with flushing := Function.update appended.flushing false (some (flush 1)) }
  let awaiting : Digests Bool :=
    { sentFirst with
      flushing := Function.update (Function.update flushing.flushing true (some (flush 1)))
        true none }
  use appended, flushing, awaiting,
    { awaiting with flushing := Function.update awaiting.flushing false none }
  use run_appended, step_flushThrough_first false events_appended rfl
  constructor
  · apply Reaches.head (a := .flushThrough true 1) ⟨nofun, nofun⟩
      (step_flushThrough_first true (s := flushing) events_appended rfl)
    apply Reaches.head (a := .emitted true) ⟨nofun, nofun⟩ rfl
    apply Reaches.refl
  · use rfl
    constructor
    · intro i e hmem
      simpa [awaiting, sentFirst] using hmem
    · exact ⟨events_appended, events_sentFirst⟩

end Digests

end Sentinel
