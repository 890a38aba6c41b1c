import Sentinel.Modules.Adapters
import Sentinel.Services.AggregationTimely

/-!
# The runtime of a module

A `ModuleRuntime` gives each event to the digest that collects its name, or else to the
aggregation, and handles a block by flushing the windows that are due before it raises the
checkpoint. The flush of a digest is a job of its own, and a runtime may be replaced by
another one over the same storage while a flush of the old one is awaited.

The steps of a `State` are what happens between two `await`s. The subscription makes one call
of its consumer at a time. What a call awaits may raise, or the call may be cancelled.
-/

namespace Sentinel

open Transition

/-- What is put together for a module. -/
structure ModuleRuntime where
  coordinator : AggregationCoordinator
  digests : Dict String Digest

namespace ModuleRuntime

deriving instance DecidableEq for Digest

/-- `build_module_runtime`, `none` where it raises. -/
def build (m : ModuleType) : Option ModuleRuntime :=
  m.digests.map fun digests => { coordinator := ⟨m.eventAggregators⟩, digests := digests }

/-- The digest that handles an event of a name: the first one that does not refuse it. -/
def digestFor (runtime : ModuleRuntime) (eventName : String) : Option Digest :=
  runtime.digests.values.find? fun digest => digest.eventName = eventName

/-- The instance of a digest in a generation of the runtime. -/
abbrev Instance : Type := ℕ × Digest

/-- What the consumer of the subscription is at. -/
inductive Consumer where
  | idle
  /-- `handle_event` awaits the processors of the side effects -/
  | processing (e : Event)
  /-- `handle_event` awaits the lock of a digest -/
  | appending (e : Event) (digest : Digest)
  /-- `handle_event` awaits the aggregation -/
  | aggregating (e : Event)
  /-- `handle_block` awaits the aggregation -/
  | flushing (block : ℕ)
  /-- `resume_pending_aggregations` awaits the aggregation -/
  | resuming

/-- A runtime over its storage. -/
structure State where
  aggregation : AggregationCoordinator.State
  digests : Digests Instance
  /-- the checkpoint -/
  block : ℕ
  consumer : Consumer
  /-- how many runtimes there were before -/
  generation : ℕ
  /-- how many there were before the process was started -/
  started : ℕ
  /-- the events whose handling returned, newest first -/
  handled : List Event

/-- What can happen next. -/
inductive Action where
  | handleEvent (e : Event)
  /-- the processors of the side effects return -/
  | processed
  /-- the lock of the digest is free -/
  | append
  | handleBlock (block : ℕ)
  | resumePendingAggregations
  /-- the flush loop takes the next window -/
  | proceed
  /-- the awaited emission of the aggregation returns -/
  | emitted
  /-- what the consumer awaits raises, or the call is cancelled -/
  | raised
  | flushDigest (name : String) (throughBlock : ℕ)
  /-- the emission of a flush of a digest returns -/
  | digestEmitted (i : Instance)
  /-- the emission of a flush of a digest raises -/
  | digestRaised (i : Instance)
  /-- the supervisor replaces the runtime -/
  | replaced
  /-- the process is restarted over the same records -/
  | restarted

/-- A runtime over an empty storage and a checkpoint. -/
def start (block : ℕ) : State where
  aggregation := AggregationCoordinator.start .empty
  digests := Digests.start .empty
  block := block
  consumer := .idle
  generation := 0
  started := 0
  handled := []

/-- `_advance_block` -/
def State.advanceBlock (s : State) (block : ℕ) : State :=
  { s with block := max s.block block }

/-- The events of a name go on to the digest that collects them, or to the aggregation. -/
def route (runtime : ModuleRuntime) (s : State) (e : Event) : Option State :=
  match runtime.digestFor e.event with
  | some digest => some { s with consumer := .appending e digest }
  | none =>
      (runtime.coordinator.step s.aggregation (.handleEvent e)).map fun aggregation =>
        match aggregation.call, runtime.coordinator.prepare s.aggregation.store e with
        | some _, _ => { s with aggregation := aggregation, consumer := .aggregating e }
        -- the aggregation has raised
        | none, none => { s with aggregation := aggregation, consumer := .idle }
        | none, some _ =>
            { s with aggregation := aggregation, consumer := .idle, handled := e :: s.handled }

/-- The aggregation goes on. The consumer is idle when it does not await it any more. -/
def State.continueWith (s : State) (aggregation : AggregationCoordinator.State) : State :=
  match aggregation.call with
  | none => { s with aggregation := aggregation, consumer := .idle }
  | some _ => { s with aggregation := aggregation }

/-- The next iteration of the flush loop. When no window is left, the block is handled. -/
def proceed (runtime : ModuleRuntime) (s : State) : Option State :=
  (runtime.coordinator.step s.aggregation .proceed).map fun aggregation =>
    match s.consumer, s.aggregation.call with
    | .flushing block, some (.loop _ []) =>
        { s.advanceBlock block with aggregation := aggregation, consumer := .idle }
    | _, _ => s.continueWith aggregation

/-- A step, `none` where the consumer, the digest or the job is not at it. -/
def step (runtime : ModuleRuntime) (s : State) : Action → Option State
  | .handleEvent e =>
      match s.consumer with
      | .idle => some { s with consumer := .processing e }
      | _ => none
  | .processed =>
      match s.consumer with
      | .processing e => runtime.route s e
      | _ => none
  | .append =>
      match s.consumer with
      | .appending e digest =>
          (Digests.step Prod.snd s.digests (.handleEvent (s.generation, digest) e)).map
            fun digests =>
              { s with digests := digests, consumer := .idle, handled := e :: s.handled }
      | _ => none
  | .handleBlock block =>
      match s.consumer with
      | .idle =>
          (runtime.coordinator.step s.aggregation (.handleBlock block)).map fun aggregation =>
            { s with aggregation := aggregation, consumer := .flushing block }
      | _ => none
  | .resumePendingAggregations =>
      match s.consumer with
      | .idle =>
          (runtime.coordinator.step s.aggregation (.handleBlock s.block)).map fun aggregation =>
            { s with aggregation := aggregation, consumer := .resuming }
      | _ => none
  | .proceed =>
      match s.consumer with
      | .flushing _ | .resuming => runtime.proceed s
      | _ => none
  | .emitted =>
      match s.consumer with
      | .aggregating e =>
          (runtime.coordinator.step s.aggregation .emitted).map fun aggregation =>
            { s with aggregation := aggregation, consumer := .idle, handled := e :: s.handled }
      | .flushing _ | .resuming =>
          (runtime.coordinator.step s.aggregation .emitted).map s.continueWith
      | _ => none
  | .raised =>
      match s.consumer with
      | .idle => none
      | .processing _ | .appending _ _ => some { s with consumer := .idle }
      | .aggregating _ | .flushing _ | .resuming =>
          (runtime.coordinator.step s.aggregation .raised).map fun aggregation =>
            { s with aggregation := aggregation, consumer := .idle }
  | .flushDigest name throughBlock =>
      (runtime.digests.get? name).bind fun digest =>
        (Digests.step Prod.snd s.digests (.flushThrough (s.generation, digest) throughBlock)).map
          fun digests => { s with digests := digests }
  | .digestEmitted i =>
      if i.1 < s.started then none
      else (Digests.step Prod.snd s.digests (.emitted i)).map fun digests =>
        { s with digests := digests }
  | .digestRaised i =>
      if i.1 < s.started then none
      else (Digests.step Prod.snd s.digests (.raised i)).map fun digests =>
        { s with digests := digests }
  | .replaced =>
      some { s with
        aggregation := { s.aggregation with call := none }
        consumer := .idle
        generation := s.generation + 1 }
  | .restarted =>
      (runtime.coordinator.step s.aggregation .restarted).bind fun aggregation =>
        (Digests.step Prod.snd s.digests .reopened).map fun digests =>
          { s with
            aggregation := aggregation
            digests := digests
            consumer := .idle
            generation := s.generation + 1
            started := s.generation + 1 }

/-! ### What a step can do -/

/-- What a step does. -/
inductive StepTo (runtime : ModuleRuntime) (s : State) : State → Prop
  | called (e : Event) (hconsumer : s.consumer = .idle) :
    StepTo runtime s { s with consumer := .processing e }
  | collecting (e : Event) (digest : Digest) (hconsumer : s.consumer = .processing e)
      (hdigest : runtime.digestFor e.event = some digest) :
    StepTo runtime s { s with consumer := .appending e digest }
  | accepted (e : Event) (aggregation : AggregationCoordinator.State)
      (hconsumer : s.consumer = .processing e) (hdigest : runtime.digestFor e.event = none)
      (hstep : runtime.coordinator.step s.aggregation (.handleEvent e) = some aggregation)
      (hcall : aggregation.call = none)
      (hprepare : (runtime.coordinator.prepare s.aggregation.store e).isSome) :
    StepTo runtime s
      { s with aggregation := aggregation, consumer := .idle, handled := e :: s.handled }
  | forwarding (e : Event) (aggregation : AggregationCoordinator.State)
      (hconsumer : s.consumer = .processing e) (hdigest : runtime.digestFor e.event = none)
      (hstep : runtime.coordinator.step s.aggregation (.handleEvent e) = some aggregation)
      (hcall : aggregation.call ≠ none) :
    StepTo runtime s { s with aggregation := aggregation, consumer := .aggregating e }
  | appended (e : Event) (digest : Digest) (digests : Digests Instance)
      (hconsumer : s.consumer = .appending e digest)
      (hstep : s.digests.step Prod.snd (.handleEvent (s.generation, digest) e) = some digests) :
    StepTo runtime s { s with digests := digests, consumer := .idle, handled := e :: s.handled }
  | flushing (block : ℕ) (aggregation : AggregationCoordinator.State)
      (hconsumer : s.consumer = .idle)
      (hstep : runtime.coordinator.step s.aggregation (.handleBlock block) = some aggregation) :
    StepTo runtime s { s with aggregation := aggregation, consumer := .flushing block }
  | resuming (aggregation : AggregationCoordinator.State) (hconsumer : s.consumer = .idle)
      (hstep : runtime.coordinator.step s.aggregation (.handleBlock s.block) = some aggregation) :
    StepTo runtime s { s with aggregation := aggregation, consumer := .resuming }
  | advanced (block block' : ℕ) (aggregation : AggregationCoordinator.State)
      (hconsumer : s.consumer = .flushing block)
      (hcall : s.aggregation.call = some (.loop block' []))
      (hstep : runtime.coordinator.step s.aggregation .proceed = some aggregation) :
    StepTo runtime s
      { s with aggregation := aggregation, block := max s.block block, consumer := .idle }
  | continued (a : AggregationCoordinator.Action) (aggregation : AggregationCoordinator.State)
      (ha : a = .proceed ∨ a = .emitted) (hconsumer : ∀ e, s.consumer ≠ .aggregating e)
      (hstep : runtime.coordinator.step s.aggregation a = some aggregation)
      (hcall : aggregation.call ≠ none) :
    StepTo runtime s { s with aggregation := aggregation }
  | forwarded (e : Event) (aggregation : AggregationCoordinator.State)
      (hconsumer : s.consumer = .aggregating e)
      (hstep : runtime.coordinator.step s.aggregation .emitted = some aggregation) :
    StepTo runtime s
      { s with aggregation := aggregation, consumer := .idle, handled := e :: s.handled }
  | resumed (block : ℕ) (aggregation : AggregationCoordinator.State)
      (hconsumer : s.consumer = .resuming) (hcall : s.aggregation.call = some (.loop block []))
      (hstep : runtime.coordinator.step s.aggregation .proceed = some aggregation) :
    StepTo runtime s { s with aggregation := aggregation, consumer := .idle }
  | ended (a : AggregationCoordinator.Action) (aggregation : AggregationCoordinator.State)
      (hstep : runtime.coordinator.step s.aggregation a = some aggregation)
      (hcall : aggregation.call = none) (hhistory : aggregation.history = s.aggregation.history)
      (generation : ℕ) :
    StepTo runtime s
      { s with aggregation := aggregation, consumer := .idle, generation := generation }
  | given (hcall : s.aggregation.call = none) : StepTo runtime s { s with consumer := .idle }
  | digest (a : DigestAction Instance) (digests : Digests Instance)
      (ha : ∀ i e, a ≠ .handleEvent i e) (hstep : s.digests.step Prod.snd a = some digests) :
    StepTo runtime s { s with digests := digests }
  | restarted (aggregation : AggregationCoordinator.State) (digests : Digests Instance)
      (generation : ℕ)
      (haggregation : runtime.coordinator.step s.aggregation .restarted = some aggregation)
      (hdigests : s.digests.step Prod.snd .reopened = some digests) :
    StepTo runtime s
      { s with
        aggregation := aggregation, digests := digests, consumer := .idle
        generation := generation, started := generation }

/-- What the aggregation is at when the consumer is at the given point. -/
def Awaits (runtime : ModuleRuntime) (s : State) : Consumer → Prop
  | .idle | .processing _ => s.aggregation.call = none
  | .appending e digest =>
      s.aggregation.call = none ∧ runtime.digestFor e.event = some digest
  | .aggregating e =>
      s.aggregation.call = some (.event (.fromEvent e)) ∧ runtime.digestFor e.event = none
        ∧ runtime.coordinator.aggregatorFor e.event = none
  | .flushing block =>
      ∃ call windows, s.aggregation.call = some call ∧ call.windows = some (block, windows)
  | .resuming =>
      ∃ call windows, s.aggregation.call = some call ∧ call.windows = some (s.block, windows)

/-- The consumer and the aggregation agree on what is awaited. -/
def Consistent (runtime : ModuleRuntime) (s : State) : Prop :=
  runtime.Awaits s s.consumer

/-- The aggregation that cannot prepare an event stays as it is. -/
theorem eq_of_prepare_eq_none {coordinator : AggregationCoordinator}
    {s t : AggregationCoordinator.State} {e : Event}
    (hprepare : coordinator.prepare s.store e = none)
    (hstep : coordinator.step s (.handleEvent e) = some t) :
  t = s
  := by
  cases hcall : s.call with
  | some call => simp [AggregationCoordinator.step, hcall] at hstep
  | none => simpa [AggregationCoordinator.step, hcall, hprepare, eq_comm] using hstep

/-- The flush loop goes on. -/
theorem stepTo_proceed {runtime : ModuleRuntime} {s : State}
    (hconsumer : ∀ e, s.consumer ≠ .aggregating e)
    (hreturned : ∀ block, s.aggregation.call = some (.loop block []) → s.consumer = .resuming)
    {aggregation : AggregationCoordinator.State}
    (hstep : runtime.coordinator.step s.aggregation .proceed = some aggregation) :
  runtime.StepTo s (s.continueWith aggregation)
  := by
  have hcontinued : aggregation.call ≠ none →
      runtime.StepTo s { s with aggregation := aggregation } :=
    StepTo.continued .proceed aggregation (Or.inl rfl) hconsumer hstep
  cases AggregationCoordinator.stepTo_of_step hstep with
  | returned block hcall => apply StepTo.resumed block _ (hreturned block hcall) hcall hstep
  | failed => apply StepTo.ended .proceed _ hstep rfl rfl
  | passed | emitting => apply hcontinued (by simp [AggregationCoordinator.State.discard])

/-- An emission of a flush returns. -/
theorem stepTo_emitted {runtime : ModuleRuntime} {s : State}
    (hconsumer : ∀ e, s.consumer ≠ .aggregating e) {call : AggregationCoordinator.Call}
    (hcall : s.aggregation.call = some call) (hwindows : call.windows ≠ none)
    {aggregation : AggregationCoordinator.State}
    (hstep : runtime.coordinator.step s.aggregation .emitted = some aggregation) :
  runtime.StepTo s (s.continueWith aggregation)
  := by
  have hcontinued : aggregation.call ≠ none →
      runtime.StepTo s { s with aggregation := aggregation } :=
    StepTo.continued .emitted aggregation (Or.inr rfl) hconsumer hstep
  cases AggregationCoordinator.stepTo_of_step hstep with
  | forwarded n hevent =>
      exfalso
      rw [hevent] at hcall
      cases hcall
      apply hwindows rfl
  | continued | flushed => apply hcontinued (by simp)

/-- An event is routed to its digest, to the aggregation or past it. -/
theorem stepTo_of_processed {runtime : ModuleRuntime} {s t : State}
    (h : runtime.step s .processed = some t) :
  runtime.StepTo s t
  := by
  cases hconsumer : s.consumer with
  | processing e =>
      simp only [step, hconsumer, route] at h
      cases hdigest : runtime.digestFor e.event with
      | some digest =>
          obtain rfl : _ = t := by simpa [hdigest] using h
          apply StepTo.collecting e digest hconsumer hdigest
      | none =>
          simp only [hdigest] at h
          obtain ⟨aggregation, hstep, rfl⟩ := Option.map_eq_some_iff.mp h
          cases hcall : aggregation.call with
          | some call =>
              apply StepTo.forwarding e aggregation hconsumer hdigest hstep
              simp [hcall]
          | none =>
              cases hprepare : runtime.coordinator.prepare s.aggregation.store e with
              | none =>
                  apply StepTo.ended _ aggregation hstep hcall
                  rw [eq_of_prepare_eq_none hprepare hstep]
              | some prepared =>
                  apply StepTo.accepted e aggregation hconsumer hdigest hstep hcall
                  simp [hprepare]
  | _ => simp [step, hconsumer] at h

/-- The flush loop of a block or of a resumption goes on. -/
theorem stepTo_of_proceed {runtime : ModuleRuntime} {s t : State}
    (h : runtime.step s .proceed = some t) :
  runtime.StepTo s t
  := by
  cases hconsumer : s.consumer with
  | flushing block =>
      simp only [step, hconsumer, proceed] at h
      obtain ⟨aggregation, hstep, rfl⟩ := Option.map_eq_some_iff.mp h
      split
      next block' b heq hcall =>
          cases heq
          apply StepTo.advanced block b aggregation hconsumer hcall hstep
      next hnot =>
          apply stepTo_proceed (by simp [hconsumer]) _ hstep
          intro b hcall
          apply absurd hcall (hnot block b rfl)
  | resuming =>
      simp only [step, hconsumer, proceed] at h
      obtain ⟨aggregation, hstep, rfl⟩ := Option.map_eq_some_iff.mp h
      apply stepTo_proceed (by simp [hconsumer]) (fun _ _ => hconsumer) hstep
  | _ => simp [step, hconsumer] at h

/-- An emission returns. -/
theorem stepTo_of_emitted {runtime : ModuleRuntime} {s t : State}
    (hs : runtime.Consistent s) (h : runtime.step s .emitted = some t) :
  runtime.StepTo s t
  := by
  cases hconsumer : s.consumer with
  | aggregating e =>
      simp only [step, hconsumer] at h
      obtain ⟨aggregation, hstep, rfl⟩ := Option.map_eq_some_iff.mp h
      apply StepTo.forwarded e aggregation hconsumer hstep
  | flushing | resuming =>
      simp only [step, hconsumer] at h
      obtain ⟨aggregation, hstep, rfl⟩ := Option.map_eq_some_iff.mp h
      rw [Consistent, hconsumer] at hs
      obtain ⟨call, windows, hcall, hwindows⟩ := hs
      apply stepTo_emitted (by simp [hconsumer]) hcall (by simp [hwindows]) hstep
  | _ => simp [step, hconsumer] at h

/-- What the consumer awaits raises. -/
theorem stepTo_of_raised {runtime : ModuleRuntime} {s t : State}
    (hs : runtime.Consistent s) (h : runtime.step s .raised = some t) :
  runtime.StepTo s t
  := by
  cases hconsumer : s.consumer with
  | idle => simp [step, hconsumer] at h
  | processing e =>
      obtain rfl : _ = t := by simpa [step, hconsumer] using h
      rw [Consistent, hconsumer] at hs
      apply StepTo.given hs
  | appending e digest =>
      obtain rfl : _ = t := by simpa [step, hconsumer] using h
      rw [Consistent, hconsumer] at hs
      apply StepTo.given hs.1
  | aggregating | flushing | resuming =>
      simp only [step, hconsumer] at h
      obtain ⟨aggregation, hstep, rfl⟩ := Option.map_eq_some_iff.mp h
      apply StepTo.ended .raised aggregation hstep
      · cases AggregationCoordinator.stepTo_of_step hstep
        rfl
      · cases AggregationCoordinator.stepTo_of_step hstep
        rfl

/-- Every step is one of these. -/
theorem stepTo_of_step {runtime : ModuleRuntime} {s t : State} {a : Action}
    (hs : runtime.Consistent s) (h : runtime.step s a = some t) :
  runtime.StepTo s t
  := by
  cases a with
  | handleEvent e =>
      cases hconsumer : s.consumer with
      | idle =>
          obtain rfl : _ = t := by simpa [step, hconsumer] using h
          apply StepTo.called e hconsumer
      | _ => simp [step, hconsumer] at h
  | processed => apply stepTo_of_processed h
  | append =>
      cases hconsumer : s.consumer with
      | appending e digest =>
          simp only [step, hconsumer] at h
          obtain ⟨digests, hstep, rfl⟩ := Option.map_eq_some_iff.mp h
          apply StepTo.appended e digest digests hconsumer hstep
      | _ => simp [step, hconsumer] at h
  | handleBlock block =>
      cases hconsumer : s.consumer with
      | idle =>
          simp only [step, hconsumer] at h
          obtain ⟨aggregation, hstep, rfl⟩ := Option.map_eq_some_iff.mp h
          apply StepTo.flushing block aggregation hconsumer hstep
      | _ => simp [step, hconsumer] at h
  | resumePendingAggregations =>
      cases hconsumer : s.consumer with
      | idle =>
          simp only [step, hconsumer] at h
          obtain ⟨aggregation, hstep, rfl⟩ := Option.map_eq_some_iff.mp h
          apply StepTo.resuming aggregation hconsumer hstep
      | _ => simp [step, hconsumer] at h
  | proceed => apply stepTo_of_proceed h
  | emitted => apply stepTo_of_emitted hs h
  | raised => apply stepTo_of_raised hs h
  | flushDigest name throughBlock =>
      obtain ⟨digest, -, h⟩ := Option.bind_eq_some_iff.mp h
      obtain ⟨digests, hstep, rfl⟩ := Option.map_eq_some_iff.mp h
      apply StepTo.digest _ digests (by simp) hstep
  | digestEmitted i =>
      simp only [step] at h
      split at h
      next => cases h
      next =>
          obtain ⟨digests, hstep, rfl⟩ := Option.map_eq_some_iff.mp h
          apply StepTo.digest _ digests (by simp) hstep
  | digestRaised i =>
      simp only [step] at h
      split at h
      next => cases h
      next =>
          obtain ⟨digests, hstep, rfl⟩ := Option.map_eq_some_iff.mp h
          apply StepTo.digest _ digests (by simp) hstep
  | replaced =>
      obtain rfl := Option.some.inj h
      apply StepTo.ended .restarted { s.aggregation with call := none } _ rfl rfl
      simp [AggregationCoordinator.step]
  | restarted =>
      simp only [step] at h
      obtain ⟨aggregation, haggregation, h⟩ := Option.bind_eq_some_iff.mp h
      obtain ⟨digests, hdigests, rfl⟩ := Option.map_eq_some_iff.mp h
      apply StepTo.restarted aggregation digests _ haggregation hdigests

/-- Runs of a runtime. -/
abbrev Run (runtime : ModuleRuntime) : State → State → Prop :=
  Reaches runtime.step fun _ _ => True

/-! ### The parts of a runtime -/

/-- The aggregation takes a step, or none. -/
theorem aggregation_of_stepTo {runtime : ModuleRuntime} {s t : State} (h : runtime.StepTo s t) :
  t.aggregation = s.aggregation
    ∨ ∃ a, runtime.coordinator.step s.aggregation a = some t.aggregation
  := by
  cases h with
  | called | collecting | appended | given | digest => apply Or.inl rfl
  | accepted e aggregation hconsumer hdigest hstep => apply Or.inr ⟨_, hstep⟩
  | forwarding e aggregation hconsumer hdigest hstep => apply Or.inr ⟨_, hstep⟩
  | flushing block aggregation hconsumer hstep => apply Or.inr ⟨_, hstep⟩
  | resuming aggregation hconsumer hstep => apply Or.inr ⟨_, hstep⟩
  | advanced block block' aggregation hconsumer hcall hstep => apply Or.inr ⟨_, hstep⟩
  | continued a aggregation ha hconsumer hstep => apply Or.inr ⟨_, hstep⟩
  | forwarded e aggregation hconsumer hstep => apply Or.inr ⟨_, hstep⟩
  | resumed block aggregation hconsumer hcall hstep => apply Or.inr ⟨_, hstep⟩
  | ended a aggregation hstep => apply Or.inr ⟨_, hstep⟩
  | restarted aggregation digests generation hstep => apply Or.inr ⟨_, hstep⟩

/-- The digests take a step, or none. -/
theorem digests_of_stepTo {runtime : ModuleRuntime} {s t : State} (h : runtime.StepTo s t) :
  t.digests = s.digests ∨ ∃ a, s.digests.step Prod.snd a = some t.digests
  := by
  cases h with
  | appended e digest digests hconsumer hstep => apply Or.inr ⟨_, hstep⟩
  | digest a digests ha hstep => apply Or.inr ⟨_, hstep⟩
  | restarted aggregation digests generation haggregation hstep => apply Or.inr ⟨_, hstep⟩
  | called | collecting | accepted | forwarding | flushing | resuming | advanced | continued
  | forwarded | resumed | ended | given => apply Or.inl rfl

/-- Handling an event as the aggregation does it: the event is accepted, or its notification
is awaited. -/
theorem aggregation_of_handleEvent {coordinator : AggregationCoordinator}
    {s t : AggregationCoordinator.State} {e : Event}
    (h : coordinator.step s (.handleEvent e) = some t)
    (hprepare : t.call = none → (coordinator.prepare s.store e).isSome) :
  (∃ aggregator key, coordinator.aggregatorFor e.event = some aggregator ∧ t.call = none
      ∧ t.history = .accepted aggregator.group.name key e :: s.history)
    ∨ coordinator.aggregatorFor e.event = none ∧ t.call = some (.event (.fromEvent e))
      ∧ t.history = s.history
  := by
  cases hcall : s.call with
  | some call => simp [AggregationCoordinator.step, hcall] at h
  | none =>
      cases haggregator : coordinator.aggregatorFor e.event with
      | none =>
          obtain rfl : _ = t := by
            simpa [AggregationCoordinator.step, hcall, AggregationCoordinator.prepare,
              haggregator] using h
          apply Or.inr ⟨rfl, rfl, rfl⟩
      | some aggregator =>
          cases hwindow : AggregationCoordinator.windowOf s.store aggregator e with
          | none =>
              obtain rfl : s = t := by
                simpa [AggregationCoordinator.step, hcall, AggregationCoordinator.prepare,
                  haggregator, hwindow] using h
              simp [hcall, AggregationCoordinator.prepare, haggregator, hwindow] at hprepare
          | some window =>
              obtain ⟨key, hkey, -⟩ := AggregationCoordinator.exists_takes_of_windowOf hwindow
              obtain rfl : _ = t := by
                simpa [AggregationCoordinator.step, hcall, AggregationCoordinator.prepare,
                  haggregator, hwindow, AggregationCoordinator.acceptance, hkey] using h
              left
              use aggregator, key, rfl

/-- A flush that has no window left returns. -/
theorem eq_of_proceed_nil {coordinator : AggregationCoordinator}
    {s t : AggregationCoordinator.State} {block : ℕ} (hcall : s.call = some (.loop block []))
    (h : coordinator.step s .proceed = some t) :
  t = { s with call := none, history := .returned block :: s.history }
  := by
  simpa [AggregationCoordinator.step, hcall, AggregationCoordinator.flushNext, eq_comm] using h

/-- A flush that is at its end is up to the block that it was begun with. -/
theorem eq_of_windows {s : AggregationCoordinator.State} {block block' : ℕ}
    (hwindows : ∃ call windows, s.call = some call ∧ call.windows = some (block, windows))
    (hcall : s.call = some (.loop block' [])) :
  block = block'
  := by
  obtain ⟨call, windows, hcall', hblock⟩ := hwindows
  rw [hcall] at hcall'
  cases hcall'
  cases hblock
  rfl

/-- A flush goes on up to the same block. -/
theorem windows_of_step {coordinator : AggregationCoordinator}
    {s t : AggregationCoordinator.State} {a : AggregationCoordinator.Action}
    (ha : a = .proceed ∨ a = .emitted) (h : coordinator.step s a = some t) (ht : t.call ≠ none)
    {block : ℕ}
    (hs : ∃ call windows, s.call = some call ∧ call.windows = some (block, windows)) :
  ∃ call windows, t.call = some call ∧ call.windows = some (block, windows)
  := by
  obtain ⟨call, windows, hcall, hwindows⟩ := hs
  cases AggregationCoordinator.stepTo_of_step h with
  | passed block' window rest hcall' =>
      rw [hcall'] at hcall
      cases hcall
      cases hwindows
      exact ⟨_, _, rfl, rfl⟩
  | emitting block' window aggregator n ns rest hcall' =>
      rw [hcall'] at hcall
      cases hcall
      cases hwindows
      exact ⟨_, _, rfl, rfl⟩
  | continued block' window n next rest windows' hcall' =>
      rw [hcall'] at hcall
      cases hcall
      cases hwindows
      exact ⟨_, _, rfl, rfl⟩
  | flushed block' window n windows' hcall' =>
      rw [hcall'] at hcall
      cases hcall
      cases hwindows
      exact ⟨_, _, rfl, rfl⟩
  | returned | failed | forwarded => apply absurd rfl ht
  | accepted | forwarding | flushing | raised | restarted | refused => simp at ha

/-- A step keeps the consumer and the aggregation in agreement. -/
theorem Consistent.of_stepTo {runtime : ModuleRuntime} {s t : State} (hs : runtime.Consistent s)
    (h : runtime.StepTo s t) :
  runtime.Consistent t
  := by
  rw [Consistent] at hs
  cases h with
  | called e hconsumer =>
      rw [hconsumer] at hs
      apply hs
  | collecting e digest hconsumer hdigest =>
      rw [hconsumer] at hs
      apply And.intro hs hdigest
  | accepted e aggregation hconsumer hdigest hstep hcall => apply hcall
  | forwarding e aggregation hconsumer hdigest hstep hcall =>
      rcases aggregation_of_handleEvent hstep (fun h => absurd h hcall)
        with ⟨aggregator, key, -, hnone, -⟩ | ⟨haggregator, hevent, -⟩
      · apply absurd hnone hcall
      · apply And.intro hevent ⟨hdigest, haggregator⟩
  | appended e digest digests hconsumer hstep =>
      rw [hconsumer] at hs
      apply hs.1
  | flushing block aggregation hconsumer hstep =>
      cases AggregationCoordinator.stepTo_of_step hstep with
      | flushing => exact ⟨_, _, rfl, rfl⟩
  | resuming aggregation hconsumer hstep =>
      cases AggregationCoordinator.stepTo_of_step hstep with
      | flushing => exact ⟨_, _, rfl, rfl⟩
  | advanced block block' aggregation hconsumer hcall hstep =>
      obtain rfl := eq_of_proceed_nil hcall hstep
      rfl
  | continued a aggregation ha hconsumer hstep hcall =>
      have hnone : s.aggregation.call ≠ none := by
        intro hnone
        rcases ha with rfl | rfl
        · simp [AggregationCoordinator.step, hnone] at hstep
        · simp [AggregationCoordinator.step, hnone] at hstep
      rw [Consistent]
      cases hcase : s.consumer with
      | idle | processing =>
          rw [hcase] at hs
          apply absurd hs hnone
      | appending =>
          rw [hcase] at hs
          apply absurd hs.1 hnone
      | aggregating e => apply absurd hcase (hconsumer e)
      | flushing | resuming =>
          rw [hcase] at hs
          apply windows_of_step ha hstep hcall hs
  | forwarded e aggregation hconsumer hstep =>
      rw [hconsumer] at hs
      obtain rfl : _ = aggregation := by
        simpa [AggregationCoordinator.step, hs.1] using hstep
      rfl
  | resumed block aggregation hconsumer hcall hstep =>
      obtain rfl := eq_of_proceed_nil hcall hstep
      rfl
  | ended a aggregation hstep hcall => apply hcall
  | given hcall => apply hcall
  | digest a digests ha hstep => apply hs
  | restarted aggregation digests generation hstep =>
      cases AggregationCoordinator.stepTo_of_step hstep with
      | restarted => rfl

/-! ### What is done stays done -/

/-- A step of the aggregation adds to its history. -/
theorem suffix_of_aggregation {coordinator : AggregationCoordinator}
    {s t : AggregationCoordinator.State} {a : AggregationCoordinator.Action}
    (h : coordinator.step s a = some t) :
  s.history <:+ t.history
  := by
  cases AggregationCoordinator.stepTo_of_step h with
  | accepted | returned | forwarded | continued => apply List.suffix_cons
  | passed block window windows => apply List.suffix_cons
  | flushed block window n =>
      apply (List.suffix_cons (.emitted n) s.history).trans
      apply List.suffix_cons
  | forwarding | flushing | failed | emitting | raised | restarted | refused =>
      apply List.suffix_refl

/-- A step of the digests adds to their history. -/
theorem suffix_of_digests {s t : Digests Instance} {a : DigestAction Instance}
    (h : s.step Prod.snd a = some t) :
  s.history <:+ t.history
  := by
  cases Digests.stepTo_of_step h with
  | appended | emitted => apply List.suffix_cons
  | flushing | raised | unchanged => apply List.suffix_refl

/-- A step adds to both histories. -/
theorem suffix_of_stepTo {runtime : ModuleRuntime} {s t : State} (h : runtime.StepTo s t) :
  s.aggregation.history <:+ t.aggregation.history ∧ s.digests.history <:+ t.digests.history
  := by
  constructor
  · rcases aggregation_of_stepTo h with heq | ⟨a, hstep⟩
    · rw [heq]
    · apply suffix_of_aggregation hstep
  · rcases digests_of_stepTo h with heq | ⟨a, hstep⟩
    · rw [heq]
    · apply suffix_of_digests hstep

/-- A flush returns only when it has no window left. -/
theorem returned_of_step {coordinator : AggregationCoordinator}
    {s t : AggregationCoordinator.State} {a : AggregationCoordinator.Action}
    (h : coordinator.step s a = some t) {block : ℕ} (hmem : .returned block ∈ t.history) :
  .returned block ∈ s.history
    ∨ a = .proceed ∧ t.call = none ∧ s.call = some (.loop block [])
  := by
  cases AggregationCoordinator.stepTo_of_step h with
  | returned block' hcall =>
      rcases List.mem_cons.mp hmem with heq | hmem
      · cases heq
        apply Or.inr ⟨rfl, rfl, hcall⟩
      · apply Or.inl hmem
  | accepted | passed | forwarded | continued | flushed =>
      left
      simpa [AggregationCoordinator.State.discard] using hmem
  | forwarding | flushing | failed | emitting | raised | restarted | refused => apply Or.inl hmem

/-- An event is accepted by the aggregator of its name, when it is handled. -/
theorem accepted_of_step {coordinator : AggregationCoordinator}
    {s t : AggregationCoordinator.State} {a : AggregationCoordinator.Action}
    (h : coordinator.step s a = some t) {group : String} {key : AggregationKey} {e : Event}
    (hmem : .accepted group key e ∈ t.history) :
  .accepted group key e ∈ s.history ∨ a = .handleEvent e
    ∧ ∃ aggregator, coordinator.aggregatorFor e.event = some aggregator
        ∧ aggregator.group.name = group
  := by
  cases AggregationCoordinator.stepTo_of_step h with
  | accepted e' aggregator key' window hidle haggregator =>
      rcases List.mem_cons.mp hmem with heq | hmem
      · cases heq
        apply Or.inr ⟨rfl, aggregator, haggregator, rfl⟩
      · apply Or.inl hmem
  | returned | passed | forwarded | continued | flushed =>
      left
      simpa [AggregationCoordinator.State.discard] using hmem
  | forwarding | flushing | failed | emitting | raised | restarted | refused => apply Or.inl hmem

/-! ### Where handled events are -/

/-- What was done with an event goes with its name: it was appended to the digest of the name,
or accepted by the aggregator of the name, or sent. -/
structure Routed (runtime : ModuleRuntime) (s : State) (e : Event) : Prop where
  appended : ∀ digest, runtime.digestFor e.event = some digest →
    ∃ i : Instance, i.2 = digest ∧ .appended i e ∈ s.digests.history
  accepted : runtime.digestFor e.event = none → ∀ aggregator,
    runtime.coordinator.aggregatorFor e.event = some aggregator →
    ∃ key, .accepted aggregator.group.name key e ∈ s.aggregation.history
  sent : runtime.digestFor e.event = none →
    runtime.coordinator.aggregatorFor e.event = none →
    .emitted (.fromEvent e) ∈ s.aggregation.history

/-- An event stays where it is. -/
theorem Routed.of_stepTo {runtime : ModuleRuntime} {s t : State} {e : Event}
    (he : runtime.Routed s e) (h : runtime.StepTo s t) :
  runtime.Routed t e
  where
  appended digest hdigest := by
    obtain ⟨i, hi, hmem⟩ := he.appended digest hdigest
    use i, hi, (suffix_of_stepTo h).2.mem hmem
  accepted hdigest aggregator haggregator := by
    obtain ⟨key, hmem⟩ := he.accepted hdigest aggregator haggregator
    use key, (suffix_of_stepTo h).1.mem hmem
  sent hdigest haggregator := (suffix_of_stepTo h).1.mem (he.sent hdigest haggregator)

/-- Nothing was done with an event that does not go with its name. -/
structure Sorted (runtime : ModuleRuntime) (s : State) : Prop where
  handled : ∀ e ∈ s.handled, runtime.Routed s e
  appended : ∀ i e, .appended i e ∈ s.digests.history → runtime.digestFor e.event = some i.2
  accepted : ∀ group key e, .accepted group key e ∈ s.aggregation.history →
    runtime.digestFor e.event = none ∧ ∃ aggregator,
      runtime.coordinator.aggregatorFor e.event = some aggregator
        ∧ aggregator.group.name = group

/-- The digest of a name collects the name. -/
theorem eventName_of_digestFor {runtime : ModuleRuntime} {eventName : String} {digest : Digest}
    (h : runtime.digestFor eventName = some digest) :
  digest.eventName = eventName
  := of_decide_eq_true (List.find?_some (p := fun digest : Digest =>
    decide (digest.eventName = eventName)) h)

/-- A digest that is given an event of its name appends it. -/
theorem history_of_append {s t : Digests Instance} {i : Instance} {e : Event}
    (hevent : i.2.eventName = e.event) (h : s.step Prod.snd (.handleEvent i e) = some t) :
  t.history = .appended i e :: s.history
  := by
  cases Digests.stepTo_of_step h with
  | appended => rfl
  | unchanged =>
      exfalso
      cases hflush : s.flushing i with
      | some flush => simp [Digests.step, Digest.handleEvent, hevent, hflush] at h
      | none =>
          have hhistory := congrArg Digests.history
            (show _ = s by simpa [Digests.step, Digest.handleEvent, hevent, hflush] using h)
          simp at hhistory

/-- One more event is handled, if there is one. -/
theorem handled_of_stepTo {runtime : ModuleRuntime} {s t : State} (hs : runtime.Consistent s)
    (h : runtime.StepTo s t) {e : Event} (he : e ∈ t.handled) :
  e ∈ s.handled ∨ runtime.Routed t e
  := by
  rw [Consistent] at hs
  cases h with
  | accepted e' aggregation hconsumer hdigest hstep hcall hprepare =>
      rcases List.mem_cons.mp he with rfl | he
      · right
        rcases aggregation_of_handleEvent hstep (fun _ => hprepare)
          with ⟨aggregator, key, haggregator, -, hhistory⟩ | ⟨-, hevent, -⟩
        · constructor
          · simp [hdigest]
          · intro _ aggregator' haggregator'
            rw [haggregator] at haggregator'
            obtain rfl := Option.some.inj haggregator'
            use key
            simp [hhistory]
          · simp [haggregator]
        · simp [hcall] at hevent
      · apply Or.inl he
  | appended e' digest digests hconsumer hstep =>
      rcases List.mem_cons.mp he with rfl | he
      · right
        rw [hconsumer] at hs
        obtain ⟨-, hdigest⟩ := hs
        constructor
        · intro digest' hdigest'
          rw [hdigest] at hdigest'
          obtain rfl := Option.some.inj hdigest'
          use (s.generation, digest), rfl
          rw [history_of_append (eventName_of_digestFor hdigest) hstep]
          apply List.mem_cons_self
        · simp [hdigest]
        · simp [hdigest]
      · apply Or.inl he
  | forwarded e' aggregation hconsumer hstep =>
      rcases List.mem_cons.mp he with rfl | he
      · right
        rw [hconsumer] at hs
        obtain ⟨hcall, hdigest, haggregator⟩ := hs
        obtain rfl : _ = aggregation := by
          simpa [AggregationCoordinator.step, hcall] using hstep
        constructor
        · simp [hdigest]
        · simp [haggregator]
        · simp
      · apply Or.inl he
  | called | collecting | forwarding | flushing | resuming | advanced | continued | resumed
  | ended | given | digest | restarted => apply Or.inl he

/-- An event is appended when it is handled. -/
theorem appended_of_digests {s t : Digests Instance} {a : DigestAction Instance}
    (h : s.step Prod.snd a = some t) {i : Instance} {e : Event}
    (hmem : .appended i e ∈ t.history) :
  .appended i e ∈ s.history ∨ a = .handleEvent i e
  := by
  cases Digests.stepTo_of_step h with
  | appended i' e' =>
      rcases List.mem_cons.mp hmem with heq | hmem
      · cases heq
        apply Or.inr rfl
      · apply Or.inl hmem
  | emitted i' flush =>
      left
      simpa using hmem
  | flushing | raised | unchanged => apply Or.inl hmem

/-- Nothing is done before the first step. -/
theorem sorted_start (runtime : ModuleRuntime) (block : ℕ) :
  runtime.Sorted (start block)
  where
  handled := by rintro e ⟨⟩
  appended := by rintro i e ⟨⟩
  accepted := by rintro group key e ⟨⟩

/-- A step does with an event what goes with its name. -/
theorem Sorted.of_stepTo {runtime : ModuleRuntime} {s t : State} (hs : runtime.Sorted s)
    (hconsistent : runtime.Consistent s) (h : runtime.StepTo s t) :
  runtime.Sorted t
  where
  handled e he := by
    rcases handled_of_stepTo hconsistent h he with he | hrouted
    · apply (hs.handled e he).of_stepTo h
    · apply hrouted
  appended i e hmem := by
    rw [Consistent] at hconsistent
    cases h with
    | appended e' digest digests hconsumer hstep =>
        rcases appended_of_digests hstep hmem with hmem | heq
        · apply hs.appended i e hmem
        · cases heq
          rw [hconsumer] at hconsistent
          apply hconsistent.2
    | digest a digests ha hstep =>
        rcases appended_of_digests hstep hmem with hmem | heq
        · apply hs.appended i e hmem
        · apply absurd heq (ha i e)
    | restarted aggregation digests generation haggregation hstep =>
        rcases appended_of_digests hstep hmem with hmem | heq
        · apply hs.appended i e hmem
        · cases heq
    | called | collecting | accepted | forwarding | flushing | resuming | advanced | continued
    | forwarded | resumed | ended | given => apply hs.appended i e hmem
  accepted group key e hmem := by
    have hother : ∀ {a aggregation}, runtime.coordinator.step s.aggregation a = some aggregation →
        (∀ e, a ≠ .handleEvent e) → .accepted group key e ∈ aggregation.history →
        .accepted group key e ∈ s.aggregation.history := by
      intro a aggregation hstep ha hmem
      rcases accepted_of_step hstep hmem with hmem | ⟨heq, -⟩
      · apply hmem
      · apply absurd heq (ha e)
    have hevent : ∀ {e' aggregation}, runtime.digestFor e'.event = none →
        runtime.coordinator.step s.aggregation (.handleEvent e') = some aggregation →
        .accepted group key e ∈ aggregation.history →
        runtime.digestFor e.event = none ∧ ∃ aggregator,
          runtime.coordinator.aggregatorFor e.event = some aggregator
            ∧ aggregator.group.name = group := by
      intro e' aggregation hdigest hstep hmem
      rcases accepted_of_step hstep hmem with hmem | ⟨heq, haggregator⟩
      · apply hs.accepted group key e hmem
      · cases heq
        use hdigest
    cases h with
    | accepted e' aggregation hconsumer hdigest hstep => apply hevent hdigest hstep hmem
    | forwarding e' aggregation hconsumer hdigest hstep => apply hevent hdigest hstep hmem
    | flushing block aggregation hconsumer hstep =>
        apply hs.accepted group key e (hother hstep (by simp) hmem)
    | resuming aggregation hconsumer hstep =>
        apply hs.accepted group key e (hother hstep (by simp) hmem)
    | advanced block block' aggregation hconsumer hcall hstep =>
        apply hs.accepted group key e (hother hstep (by simp) hmem)
    | continued a aggregation ha hconsumer hstep =>
        apply hs.accepted group key e (hother hstep _ hmem)
        rintro e' rfl
        simp at ha
    | forwarded e' aggregation hconsumer hstep =>
        apply hs.accepted group key e (hother hstep (by simp) hmem)
    | resumed block aggregation hconsumer hcall hstep =>
        apply hs.accepted group key e (hother hstep (by simp) hmem)
    | ended a aggregation hstep hcall hhistory =>
        apply hs.accepted group key e
        rw [← hhistory]
        apply hmem
    | restarted aggregation digests generation hstep =>
        apply hs.accepted group key e (hother hstep (by simp) hmem)
    | called | collecting | appended | given | digest => apply hs.accepted group key e hmem

/-! ### The checkpoint -/

/-- The checkpoint is the one of the start or a block whose windows were flushed, and it is
below neither the start nor such a block. -/
structure Checkpointed (block : ℕ) (s : State) : Prop where
  start_le : block ≤ s.block
  returned : s.block = block ∨ .returned s.block ∈ s.aggregation.history
  le_block : ∀ b, .returned b ∈ s.aggregation.history → b ≤ s.block

/-- A step raises the checkpoint to the block that was handled, or keeps it. -/
theorem Checkpointed.of_stepTo {runtime : ModuleRuntime} {block : ℕ} {s t : State}
    (hs : Checkpointed block s) (hconsistent : runtime.Consistent s) (h : runtime.StepTo s t) :
  Checkpointed block t
  := by
  rw [Consistent] at hconsistent
  have hkept : t.block = s.block →
      (∀ b, .returned b ∈ t.aggregation.history → .returned b ∈ s.aggregation.history) →
      Checkpointed block t := by
    intro hblock hold
    constructor
    · rw [hblock]
      apply hs.start_le
    · rw [hblock]
      apply hs.returned.imp_right (suffix_of_stepTo h).1.mem
    · intro b hb
      rw [hblock]
      apply hs.le_block b (hold b hb)
  have hother : ∀ {a aggregation}, runtime.coordinator.step s.aggregation a = some aggregation →
      (a = .proceed → aggregation.call ≠ none) → ∀ b, .returned b ∈ aggregation.history →
      .returned b ∈ s.aggregation.history := by
    intro a aggregation hstep hcall b hb
    rcases returned_of_step hstep hb with hb | ⟨ha, hnone, -⟩
    · apply hb
    · apply absurd hnone (hcall ha)
  cases h with
  | advanced b b' aggregation hconsumer hcall hstep =>
      rw [hconsumer] at hconsistent
      obtain rfl := eq_of_windows hconsistent hcall
      obtain rfl := eq_of_proceed_nil hcall hstep
      constructor
      · apply le_trans hs.start_le (le_max_left _ _)
      · rcases max_choice s.block b with hmax | hmax
        · simp only [hmax]
          apply hs.returned.imp_right fun hmem => List.mem_cons_of_mem _ hmem
        · simp only [hmax]
          apply Or.inr List.mem_cons_self
      · intro b'' hb
        rcases List.mem_cons.mp hb with heq | hb
        · cases heq
          apply le_max_right
        · apply le_trans (hs.le_block b'' hb) (le_max_left _ _)
  | resumed b aggregation hconsumer hcall hstep =>
      rw [hconsumer] at hconsistent
      obtain rfl := eq_of_windows hconsistent hcall
      obtain rfl := eq_of_proceed_nil hcall hstep
      constructor
      · apply hs.start_le
      · apply Or.inr List.mem_cons_self
      · intro b hb
        rcases List.mem_cons.mp hb with heq | hb
        · cases heq
          apply le_refl
        · apply hs.le_block b hb
  | ended a aggregation hstep hcall hhistory =>
      apply hkept rfl
      intro b hb
      rw [← hhistory]
      apply hb
  | accepted e aggregation hconsumer hdigest hstep => apply hkept rfl (hother hstep (by simp))
  | forwarding e aggregation hconsumer hdigest hstep => apply hkept rfl (hother hstep (by simp))
  | flushing b aggregation hconsumer hstep => apply hkept rfl (hother hstep (by simp))
  | resuming aggregation hconsumer hstep => apply hkept rfl (hother hstep (by simp))
  | continued a aggregation ha hconsumer hstep hcall =>
      apply hkept rfl (hother hstep fun _ => hcall)
  | forwarded e aggregation hconsumer hstep => apply hkept rfl (hother hstep (by simp))
  | restarted aggregation digests generation hstep =>
      apply hkept rfl (hother hstep (by simp))
  | called | collecting | appended | given | digest => apply hkept rfl fun _ hb => hb

/-! ### Every run -/

/-- An event was told of: a notification with its log was emitted. -/
def Told (history : List AggregationCoordinator.Effect) (e : Event) : Prop :=
  ∃ n, .emitted n ∈ history ∧ ∃ e' ∈ n.sourceEvents, e'.logIdentity = e.logIdentity

/-- What holds of the parts of a runtime after a run. -/
structure Invariant (runtime : ModuleRuntime) (block : ℕ) (s : State) : Prop where
  consistent : runtime.Consistent s
  sorted : runtime.Sorted s
  checkpointed : Checkpointed block s
  aggregation : AggregationCoordinator.Run runtime.coordinator (AggregationCoordinator.start .empty)
    s.aggregation
  digests : Digests.Run Prod.snd (Digests.start .empty) s.digests

/-- What a run keeps. -/
theorem invariant_of_run {runtime : ModuleRuntime} {block : ℕ} {s : State}
    (h : runtime.Run (start block) s) :
  runtime.Invariant block s
  := by
  apply h.invariant (I := runtime.Invariant block)
  · intro s a t hs _ hstep
    have hto := stepTo_of_step hs.consistent hstep
    constructor
    case consistent => apply hs.consistent.of_stepTo hto
    case sorted => apply hs.sorted.of_stepTo hs.consistent hto
    case checkpointed => apply hs.checkpointed.of_stepTo hs.consistent hto
    case aggregation =>
      rcases aggregation_of_stepTo hto with heq | ⟨b, hb⟩
      · rw [heq]
        apply hs.aggregation
      · apply hs.aggregation.tail trivial hb
    case digests =>
      rcases digests_of_stepTo hto with heq | ⟨b, hb⟩
      · rw [heq]
        apply hs.digests
      · apply hs.digests.tail trivial hb
  · constructor
    case consistent => rfl
    case sorted => apply sorted_start
    case checkpointed =>
      constructor
      · apply le_refl
      · apply Or.inl rfl
      · rintro b ⟨⟩
    case aggregation => apply Reaches.refl
    case digests => apply Reaches.refl

/-- An event that was appended to a digest is stored, or it was sent with the digest. -/
theorem Invariant.stored_or_sent {runtime : ModuleRuntime} {block : ℕ} {s : State}
    (h : runtime.Invariant block s) {i : Instance} {e : Event}
    (hmem : .appended i e ∈ s.digests.history) :
  s.digests.store.Holds i.2.name e.logIdentity
    ∨ ∃ j b n, .emitted j b n ∈ s.digests.history ∧ j.2.name = i.2.name
        ∧ ∃ e' ∈ n.sourceEvents, e'.logIdentity = e.logIdentity
  := by
  have hconserved : s.digests.Conserved Prod.snd := by
    apply h.digests.invariant (I := fun s => s.Conserved Prod.snd)
    · intro s a t hs _ hstep
      apply hs.of_step hstep
    · intro later earlier i e hhistory
      simp [Digests.start] at hhistory
  obtain ⟨later, earlier, hhistory⟩ := List.append_of_mem hmem
  rcases hconserved later earlier i e hhistory with hstored | ⟨j, b, n, hsent, hname⟩
  · apply Or.inl hstored
  · right
    use j, b, n
    rw [hhistory]
    use List.mem_append_left _ hsent

/-- What holds of a runtime after any run. -/
structure Accounted (runtime : ModuleRuntime) (block : ℕ) (s : State) : Prop where
  /-- a handled event of a digest is stored, or it was sent with the digest -/
  collected : ∀ e ∈ s.handled, ∀ digest, runtime.digestFor e.event = some digest →
    s.digests.store.Holds digest.name e.logIdentity
      ∨ ∃ i b n, .emitted i b n ∈ s.digests.history ∧ i.2.name = digest.name
          ∧ ∃ e' ∈ n.sourceEvents, e'.logIdentity = e.logIdentity
  /-- a handled event that is aggregated is in a pending window, or its window was discarded
  after the event was told of, unless it is one of a distribution report -/
  aggregated : ∀ e ∈ s.handled, ∀ aggregator,
    runtime.coordinator.aggregatorFor e.event = some aggregator →
    ∃ key, AggregationCoordinator.KeptIn s.aggregation.store aggregator.group.name key e
      ∨ ∃ window later earlier, s.aggregation.history = later ++ .discarded window :: earlier
          ∧ AggregationCoordinator.Keeps window aggregator.group.name key e
          ∧ (aggregator.aggregatorClass ≠ .distributionReport → Told earlier e)
  /-- every other handled event was sent -/
  sent : ∀ e ∈ s.handled, runtime.digestFor e.event = none →
    runtime.coordinator.aggregatorFor e.event = none →
    .emitted (.fromEvent e) ∈ s.aggregation.history
  /-- no event is both in a digest and in a window -/
  apart : ∀ i e group key, .appended i e ∈ s.digests.history →
    .accepted group key e ∉ s.aggregation.history
  checkpointed : Checkpointed block s
  /-- the aggregated events whose windows end at or before the checkpoint were told of before
  the block of the checkpoint was handled -/
  onTime : ∀ later earlier, s.aggregation.history = later ++ .returned s.block :: earlier →
    ∀ group key e, .accepted group key e ∈ earlier → ∀ aggregator,
    runtime.coordinator.aggregatorFor e.event = some aggregator →
    aggregator.aggregatorClass ≠ .distributionReport → aggregator.endBlock e ≤ s.block →
    Told earlier e

/-- The groups of a module are distinct. -/
theorem distinctGroups_of_build {m : ModuleType} {runtime : ModuleRuntime}
    (h : build m = some runtime) :
  runtime.coordinator.DistinctGroups
  := by
  obtain ⟨digests, -, rfl⟩ := Option.map_eq_some_iff.mp h
  apply m.nodup_group_eventAggregators

/-- The aggregators of operator groups of a module take the events of operator groups. -/
theorem groupNames_of_build {m : ModuleType} {runtime : ModuleRuntime}
    (h : build m = some runtime) :
  runtime.coordinator.GroupNames
  := by
  obtain ⟨digests, -, rfl⟩ := Option.map_eq_some_iff.mp h
  intro aggregator hmem hclass
  apply ModuleType.eventNames_subset_of_operatorGroupChange hmem hclass

/-- A name that a digest of a module collects has no aggregator. -/
theorem aggregatorFor_of_digestFor {m : ModuleType} {runtime : ModuleRuntime}
    (h : build m = some runtime) {eventName : String} {digest : Digest}
    (hdigest : runtime.digestFor eventName = some digest) :
  runtime.coordinator.aggregatorFor eventName = none
  := by
  obtain ⟨digests, hdigests, rfl⟩ := Option.map_eq_some_iff.mp h
  obtain ⟨digests', hdigests', hvalues⟩ := m.exists_digests
  rw [hdigests] at hdigests'
  obtain rfl := Option.some.inj hdigests'
  have hname := eventName_of_digestFor hdigest
  have hmem : digest ∈ digests.values := List.mem_of_find?_eq_some hdigest
  rw [hvalues, List.mem_singleton] at hmem
  subst hmem
  subst hname
  cases haggregator : AggregationCoordinator.aggregatorFor ⟨m.eventAggregators⟩
      "DepositedSigningKeysCountChanged" with
  | none => rfl
  | some aggregator =>
      obtain ⟨hmem, hname⟩ := AggregationCoordinator.mem_of_aggregatorFor haggregator
      apply absurd hname (ModuleType.deposited_notMem_eventNames hmem)

/-- Every event that the runtime of a module has handled is accounted for, in any run over an
empty storage. -/
theorem accounted_of_run {m : ModuleType} {runtime : ModuleRuntime}
    (hbuild : build m = some runtime) {block : ℕ} {s : State}
    (h : runtime.Run (start block) s) :
  runtime.Accounted block s
  := by
  have hinvariant := invariant_of_run h
  have hgroups := distinctGroups_of_build hbuild
  have hnames := groupNames_of_build hbuild
  have htimely := AggregationCoordinator.timely_of_run hgroups hinvariant.aggregation
  have hregistered : ∀ {eventName aggregator},
      runtime.coordinator.aggregatorFor eventName = some aggregator →
      runtime.coordinator.aggregatorsByGroup.get? aggregator.group.name = some aggregator := by
    intro eventName aggregator haggregator
    apply hgroups.get?_group (AggregationCoordinator.mem_of_aggregatorFor haggregator).1
  constructor
  case collected =>
    intro e he digest hdigest
    obtain ⟨i, rfl, hmem⟩ := (hinvariant.sorted.handled e he).appended digest hdigest
    apply hinvariant.stored_or_sent hmem
  case aggregated =>
    intro e he aggregator haggregator
    have hdigest : runtime.digestFor e.event = none := by
      cases hdigest : runtime.digestFor e.event with
      | none => rfl
      | some digest =>
          rw [aggregatorFor_of_digestFor hbuild hdigest] at haggregator
          cases haggregator
    obtain ⟨key, hmem⟩ :=
      (hinvariant.sorted.handled e he).accepted hdigest aggregator haggregator
    use key
    obtain ⟨later, earlier, hhistory⟩ := List.append_of_mem hmem
    rcases htimely.accepted later earlier _ key e hhistory with hkept | ⟨window, hwindow, hkeeps⟩
    · apply Or.inl hkept
    · right
      have hdiscarded : .discarded window ∈ s.aggregation.history := by
        rw [hhistory]
        apply List.mem_append_left _ hwindow
      obtain ⟨later', earlier', hhistory'⟩ := List.append_of_mem hdiscarded
      use window, later', earlier', hhistory', hkeeps
      intro hclass
      apply htimely.exists_emitted hgroups hnames hhistory' hkeeps (hregistered haggregator) hclass
  case sent =>
    intro e he hdigest haggregator
    apply (hinvariant.sorted.handled e he).sent hdigest haggregator
  case apart =>
    intro i e group key happended haccepted
    have hdigest := hinvariant.sorted.appended i e happended
    rw [(hinvariant.sorted.accepted group key e haccepted).1] at hdigest
    cases hdigest
  case checkpointed => apply hinvariant.checkpointed
  case onTime =>
    intro later earlier hhistory group key e hmem aggregator haggregator hclass hend
    have hgroup : aggregator.group.name = group := by
      have haccepted : .accepted group key e ∈ s.aggregation.history := by
        rw [hhistory]
        apply List.mem_append_right _ (List.mem_cons_of_mem _ hmem)
      obtain ⟨-, aggregator', haggregator', hgroup⟩ :=
        hinvariant.sorted.accepted group key e haccepted
      rw [haggregator] at haggregator'
      rw [Option.some.inj haggregator', hgroup]
    subst hgroup
    obtain ⟨window, hwindow, hkeeps⟩ := htimely.onTime later s.block earlier _ key e aggregator
      hhistory hmem (hregistered haggregator) hend
    obtain ⟨after, before, rfl⟩ := List.append_of_mem hwindow
    have hsplit : s.aggregation.history
        = (later ++ .returned s.block :: after) ++ .discarded window :: before := by
      rw [hhistory]
      simp
    obtain ⟨n, hn, htells⟩ :=
      htimely.exists_emitted hgroups hnames hsplit hkeeps (hregistered haggregator) hclass
    use n
    use List.mem_append_right _ (List.mem_cons_of_mem _ hn)

/-- An event that is collected in a digest. -/
def depositsChanged : Event :=
  { Event.first 1 with event := "DepositedSigningKeysCountChanged" }

/-- A run in which an event of a digest is handled, and what is known after it. -/
theorem accounted_depositsChanged :
  ∃ runtime s, build .community = some runtime ∧ runtime.Run (start 0) s
    ∧ s.handled = [depositsChanged] ∧ runtime.Accounted 0 s
  := by
  obtain ⟨digests, hdigests, hvalues⟩ := ModuleType.exists_digests .community
  have hbuild : build .community = some ⟨⟨ModuleType.community.eventAggregators⟩, digests⟩ := by
    simp [build, hdigests]
  let digest : Digest :=
    ⟨DigestGroups.depositedSigningKeys, "DepositedSigningKeysCountChanged"⟩
  have hfor : digestFor ⟨⟨ModuleType.community.eventAggregators⟩, digests⟩ depositsChanged.event
      = some digest := by
    rw [digestFor, hvalues]
    rfl
  let s : State :=
    { start 0 with
      digests :=
        { (start 0).digests with
          store := (start 0).digests.store.append digest.name depositsChanged
          history := [.appended (0, digest) depositsChanged] }
      handled := [depositsChanged] }
  have hrun : Run ⟨⟨ModuleType.community.eventAggregators⟩, digests⟩ (start 0) s := by
    apply Reaches.head (a := .handleEvent depositsChanged) trivial rfl
    apply Reaches.head (a := .processed) trivial (t :=
      { start 0 with consumer := .appending depositsChanged digest })
    · simp [step, route, hfor]
    · apply Reaches.head (a := .append) trivial rfl
      apply Reaches.refl
  exact ⟨_, s, hbuild, hrun, rfl, accounted_of_run hbuild hrun⟩

end ModuleRuntime

end Sentinel
