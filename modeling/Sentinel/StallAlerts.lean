import Sentinel.Transition
import Mathlib.Data.Int.Notation
import Mathlib.Data.List.Basic
import Mathlib.Data.Nat.Notation
import Mathlib.Tactic.SplitIfs

/-!
# Alerts about a stalled chain

A job polls the head of the chain, and another one checks every half hour that it has moved. When
it has not, the admins are told, once until the head moves again. The polls go on while the
messages to the admins are sent, and a message that cannot be sent does not keep the others from
being sent.
-/

namespace Sentinel

open Transition

namespace StallAlerts

/-! ### The jobs -/

/-- What the jobs did. -/
inductive Effect where
  /-- the head was polled -/
  | polled (head : ℕ)
  /-- a known head was checked -/
  | checked (head : ℕ)
  /-- the alert about a head was sent to an admin, or could not be sent -/
  | attempted (adminId : ℤ) (block : ℕ)

/-- What the jobs know of the head, the alert that is sent, and what they did, newest first. -/
structure JobContext where
  chainHead : ℕ
  lastCheckedChainHead : ℕ
  alerted : Bool
  /-- the block of the alert, the admin whose message is awaited and the admins after it -/
  notifying : Option (ℕ × ℤ × List ℤ)
  history : List Effect

namespace JobContext

/-- A process before its jobs run. -/
def start : JobContext where
  chainHead := 0
  lastCheckedChainHead := 0
  alerted := false
  notifying := none
  history := []

/-- `_poll_chain_head`, when the head is answered. -/
def pollChainHead (s : JobContext) (head : ℕ) : JobContext :=
  { s with chainHead := head, history := .polled head :: s.history }

/-- `_notify_admins` goes on to the next admin, and the check ends when there is none. -/
def notifyAdmins (s : JobContext) (block : ℕ) : List ℤ → JobContext
  | [] => { s with notifying := none, alerted := true }
  | adminId :: adminIds => { s with notifying := some (block, adminId, adminIds) }

/-- `callback_block_processing_check`, up to its first message. -/
def callbackBlockProcessingCheck (adminIds : List ℤ) (s : JobContext) : JobContext :=
  if s.chainHead = 0 then s
  else
    let s := { s with history := .checked s.chainHead :: s.history }
    if s.lastCheckedChainHead = 0 then { s with lastCheckedChainHead := s.chainHead }
    else if s.chainHead ≤ s.lastCheckedChainHead then
      if s.alerted then s else s.notifyAdmins s.chainHead adminIds
    else { s with lastCheckedChainHead := s.chainHead, alerted := false }

end JobContext

/-- What can happen next. -/
inductive Action where
  /-- the head is polled -/
  | polled (head : ℕ)
  /-- polling the head raises -/
  | pollFailed
  /-- the head is checked -/
  | check
  /-- the awaited message is sent, or sending it raises -/
  | attempted

/-- A step, `none` where the action is not possible. One check runs at a time. -/
def step (adminIds : List ℤ) (s : JobContext) : Action → Option JobContext
  | .polled head => some (s.pollChainHead head)
  | .pollFailed => some s
  | .check => if s.notifying.isSome then none else some (s.callbackBlockProcessingCheck adminIds)
  | .attempted => s.notifying.map fun (block, adminId, rest) =>
      { s with history := .attempted adminId block :: s.history }.notifyAdmins block rest

/-- Runs of a process. -/
abbrev Run (adminIds : List ℤ) : JobContext → JobContext → Prop :=
  Reaches (step adminIds) fun _ _ => True

/-! ### What the admins are to be told -/

/-- The heads that were checked, newest first. -/
def checks (history : List Effect) : List ℕ :=
  history.filterMap fun
    | .checked head => some head
    | _ => none

/-- The head that was polled last, zero before the first poll. -/
def lastPolled : List Effect → ℕ
  | [] => 0
  | .polled head :: _ => head
  | _ :: history => lastPolled history

/-- The messages to the admins, oldest first. -/
def attempts (history : List Effect) : List (ℤ × ℕ) :=
  (history.filterMap fun
    | .attempted adminId block => some (adminId, block)
    | _ => none).reverse

/-- The newest head is not above all the heads that were checked before it. -/
def Stalled : List ℕ → Prop
  | [] => False
  | head :: earlier => head ≤ earlier.foldr max 0

instance : DecidablePred Stalled
  | [] => inferInstanceAs (Decidable False)
  | head :: earlier => inferInstanceAs (Decidable (head ≤ earlier.foldr max 0))

/-- The heads at which a stall begins, oldest first: the check before was of no stall. -/
def stalls : List ℕ → List ℕ
  | [] => []
  | head :: earlier =>
      if Stalled (head :: earlier) ∧ ¬ Stalled earlier then stalls earlier ++ [head]
      else stalls earlier

/-- The messages about some stalls. -/
def alerts (adminIds : List ℤ) (blocks : List ℕ) : List (ℤ × ℕ) :=
  blocks.flatMap fun block => adminIds.map fun adminId => (adminId, block)

/-- The messages that are left of the alert that is sent. -/
def JobContext.left (s : JobContext) : List (ℤ × ℕ) :=
  match s.notifying with
  | none => []
  | some (block, adminId, rest) => (adminId :: rest).map fun adminId => (adminId, block)

/-- The admins are told of every stall once, and of nothing else. -/
structure Monitored (adminIds : List ℤ) (s : JobContext) : Prop where
  /-- the messages that were sent, or could not be, and those that are left are one for each
  stall and each admin, in this order -/
  attempts : attempts s.history ++ s.left = alerts adminIds (stalls (checks s.history))
  /-- a check is of the head that was polled last -/
  checked : ∀ later earlier head, s.history = later ++ .checked head :: earlier →
    head = lastPolled earlier ∧ 0 < head
  /-- the highest head that was checked is kept -/
  lastChecked : s.lastCheckedChainHead = (checks s.history).foldr max 0

/-! ### What a step keeps -/

/-- What is kept, with what the flags are. -/
structure Inv (adminIds : List ℤ) (s : JobContext) : Prop extends Monitored adminIds s where
  chainHead : s.chainHead = lastPolled s.history
  /-- after a check the flag says whether the chain is stalled -/
  alerted : s.notifying = none → (s.alerted = true ↔ Stalled (checks s.history))
  notifying : s.notifying ≠ none → Stalled (checks s.history)

theorem inv_start (adminIds : List ℤ) :
  Inv adminIds .start
  where
  attempts := rfl
  checked := by simp [JobContext.start]
  lastChecked := rfl
  chainHead := rfl
  alerted := by simp [JobContext.start, checks, Stalled]
  notifying := by simp [JobContext.start]

/-- Going on with an alert leaves its messages. -/
theorem left_notifyAdmins (s : JobContext) (block : ℕ) (adminIds : List ℤ) :
  (s.notifyAdmins block adminIds).left = adminIds.map fun adminId => (adminId, block)
  := by
  cases adminIds <;> rfl

@[simp]
theorem history_notifyAdmins (s : JobContext) (block : ℕ) (adminIds : List ℤ) :
  (s.notifyAdmins block adminIds).history = s.history
  := by
  cases adminIds <;> rfl

/-- One more thing that is done and is no check keeps what holds of the checks. -/
theorem checked_cons {history : List Effect} {effect : Effect}
    (h : ∀ later earlier head, history = later ++ .checked head :: earlier →
      head = lastPolled earlier ∧ 0 < head)
    (hnew : ∀ head, effect = .checked head → head = lastPolled history ∧ 0 < head) :
  ∀ later earlier head, effect :: history = later ++ .checked head :: earlier →
    head = lastPolled earlier ∧ 0 < head
  := by
  intro later earlier head hsplit
  rcases later with - | ⟨last, later⟩
  · obtain ⟨heffect, rfl⟩ := List.cons.inj hsplit
    apply hnew head heffect
  · apply h later earlier head (List.cons.inj hsplit).2

/-- Polling the head keeps everything. -/
theorem Inv.pollChainHead {adminIds : List ℤ} {s : JobContext} (hs : Inv adminIds s)
    (head : ℕ) :
  Inv adminIds (s.pollChainHead head)
  where
  attempts := hs.attempts
  checked := by
    apply checked_cons hs.checked
    simp
  lastChecked := hs.lastChecked
  chainHead := rfl
  alerted := hs.alerted
  notifying := hs.notifying

/-- An alert that goes on with some messages left, as long as they are those that are left. -/
theorem inv_notifyAdmins {adminIds : List ℤ} {s : JobContext} {block : ℕ} {rest : List ℤ}
    (hattempts : attempts s.history ++ rest.map (fun adminId => (adminId, block))
      = alerts adminIds (stalls (checks s.history)))
    (hchecked : ∀ later earlier head, s.history = later ++ .checked head :: earlier →
      head = lastPolled earlier ∧ 0 < head)
    (hlastChecked : s.lastCheckedChainHead = (checks s.history).foldr max 0)
    (hchainHead : s.chainHead = lastPolled s.history) (hstalled : Stalled (checks s.history)) :
  Inv adminIds (s.notifyAdmins block rest)
  where
  attempts := by
    rw [left_notifyAdmins, history_notifyAdmins]
    apply hattempts
  checked := by
    rw [history_notifyAdmins]
    apply hchecked
  lastChecked := by
    rw [history_notifyAdmins, ← hlastChecked]
    cases rest <;> rfl
  chainHead := by
    rw [history_notifyAdmins, ← hchainHead]
    cases rest <;> rfl
  alerted := by
    intro hnone
    rw [history_notifyAdmins]
    cases rest with
    | nil => apply iff_of_true rfl hstalled
    | cons adminId rest => cases hnone
  notifying := by
    intro _
    rw [history_notifyAdmins]
    apply hstalled

/-- A message that is sent, or cannot be sent, is the next one. -/
theorem Inv.attempted {adminIds : List ℤ} {s : JobContext} (hs : Inv adminIds s) {block : ℕ}
    {adminId : ℤ} {rest : List ℤ} (h : s.notifying = some (block, adminId, rest)) :
  Inv adminIds ({ s with history := .attempted adminId block :: s.history }.notifyAdmins block
    rest)
  := by
  have hattempts := hs.attempts
  have hstalled : Stalled (checks s.history) := by
    apply hs.notifying
    simp [h]
  apply inv_notifyAdmins
  · have hcons : attempts (.attempted adminId block :: s.history)
        = attempts s.history ++ [(adminId, block)] := List.reverse_cons
    rw [JobContext.left, h] at hattempts
    rw [hcons, List.append_assoc]
    apply hattempts
  · apply checked_cons hs.checked
    simp
  · apply hs.lastChecked
  · apply hs.chainHead
  · apply hstalled

/-- A check that begins no stall is noted, and nothing is sent. -/
theorem inv_of_not_new {adminIds : List ℤ} {s : JobContext} (hs : Inv adminIds s)
    (hidle : s.notifying = none) (hknown : 0 < s.chainHead)
    (hnew : ¬ (Stalled (s.chainHead :: checks s.history) ∧ ¬ Stalled (checks s.history)))
    {lastChecked : ℕ} (hlast : lastChecked = max s.chainHead ((checks s.history).foldr max 0))
    {alerted : Bool} (halerted : alerted = true ↔ Stalled (s.chainHead :: checks s.history)) :
  Inv adminIds
    { s with
      history := .checked s.chainHead :: s.history
      lastCheckedChainHead := lastChecked
      alerted := alerted }
  where
  attempts := by
    have hstalls : stalls (checks (.checked s.chainHead :: s.history))
        = stalls (checks s.history) := if_neg hnew
    rw [hstalls, ← hs.attempts]
    rfl
  checked := by
    apply checked_cons hs.checked
    rintro head ⟨⟩
    use hs.chainHead
  lastChecked := hlast
  chainHead := hs.chainHead
  alerted := fun _ => halerted
  notifying := by
    intro hne
    apply absurd hidle hne

/-- The heads that were checked are positive. -/
theorem Inv.pos_of_mem_checks {adminIds : List ℤ} {s : JobContext} (hs : Inv adminIds s)
    {head : ℕ} (h : head ∈ checks s.history) :
  0 < head
  := by
  obtain ⟨effect, hmem, heffect⟩ := List.mem_filterMap.mp h
  obtain ⟨later, earlier, hsplit⟩ := List.append_of_mem hmem
  cases effect with
  | checked head' =>
      obtain rfl := Option.some.inj heffect
      apply (hs.checked later earlier head' hsplit).2
  | polled | attempted => cases heffect

/-- Before the first check no head is kept. -/
theorem Inv.checks_eq_nil {adminIds : List ℤ} {s : JobContext} (hs : Inv adminIds s)
    (h : s.lastCheckedChainHead = 0) :
  checks s.history = []
  := by
  cases hchecks : checks s.history with
  | nil => rfl
  | cons head earlier =>
      have hpos : 0 < head := by
        apply hs.pos_of_mem_checks
        simp [hchecks]
      have hlast := hs.lastChecked
      rw [h, hchecks, List.foldr_cons] at hlast
      omega

/-- A check keeps everything. -/
theorem Inv.check {adminIds : List ℤ} {s : JobContext} (hs : Inv adminIds s)
    (hidle : s.notifying = none) :
  Inv adminIds (s.callbackBlockProcessingCheck adminIds)
  := by
  have halerted := hs.alerted hidle
  have hlast := hs.lastChecked
  rw [JobContext.callbackBlockProcessingCheck]
  dsimp only
  split_ifs with hknown hfirst hstalled hflag
  · apply hs
  · -- the first check only keeps the head
    have hnil := hs.checks_eq_nil hfirst
    have hnot : ¬ Stalled (s.chainHead :: checks s.history) := by
      rw [hnil, Stalled, List.foldr_nil]
      omega
    have hflag : ¬ s.alerted = true := by
      rw [halerted, hnil]
      apply id
    apply inv_of_not_new hs hidle (Nat.pos_of_ne_zero hknown) (fun h => hnot h.1)
    · rw [hnil, List.foldr_nil, Nat.max_zero]
    · apply iff_of_false hflag hnot
  · -- the stall has been told of
    have hbefore := halerted.mp hflag
    have hstill : Stalled (s.chainHead :: checks s.history) := by
      rw [Stalled, ← hlast]
      apply hstalled
    apply inv_of_not_new hs hidle (Nat.pos_of_ne_zero hknown) (fun h => h.2 hbefore)
    · rw [← hlast, Nat.max_eq_right hstalled]
    · apply iff_of_true hflag hstill
  · -- a stall begins
    have hstill : Stalled (s.chainHead :: checks s.history) := by
      rw [Stalled, ← hlast]
      apply hstalled
    have hnew : ¬ Stalled (checks s.history) := fun h => hflag (halerted.mpr h)
    apply inv_notifyAdmins
    · have hattempts := hs.attempts
      have hstalls : stalls (checks (.checked s.chainHead :: s.history))
          = stalls (checks s.history) ++ [s.chainHead] := if_pos ⟨hstill, hnew⟩
      rw [JobContext.left, hidle, List.append_nil] at hattempts
      rw [hstalls, alerts, List.flatMap_append, List.flatMap_singleton, ← alerts, ← hattempts]
      rfl
    · apply checked_cons hs.checked
      rintro head ⟨⟩
      use hs.chainHead
      apply Nat.pos_of_ne_zero hknown
    · change s.lastCheckedChainHead = max s.chainHead ((checks s.history).foldr max 0)
      rw [← hlast, Nat.max_eq_right hstalled]
    · apply hs.chainHead
    · apply hstill
  · -- the head has moved
    have hmoved : (checks s.history).foldr max 0 < s.chainHead := by
      rw [← hlast]
      omega
    have hnot : ¬ Stalled (s.chainHead :: checks s.history) := Nat.not_le.mpr hmoved
    apply inv_of_not_new hs hidle (Nat.pos_of_ne_zero hknown) (fun h => hnot h.1)
    · rw [Nat.max_eq_left (Nat.le_of_lt hmoved)]
    · apply iff_of_false Bool.false_ne_true hnot

/-- Every step keeps everything. -/
theorem Inv.of_step {adminIds : List ℤ} {s t : JobContext} {a : Action} (hs : Inv adminIds s)
    (h : step adminIds s a = some t) :
  Inv adminIds t
  := by
  cases a with
  | polled head =>
      obtain rfl := Option.some.inj h
      apply hs.pollChainHead
  | pollFailed =>
      obtain rfl := Option.some.inj h
      apply hs
  | check =>
      rw [step] at h
      split at h
      next => cases h
      next hidle =>
          obtain rfl := Option.some.inj h
          apply hs.check
          simpa using hidle
  | attempted =>
      obtain ⟨⟨block, adminId, rest⟩, hnotifying, rfl⟩ := Option.map_eq_some_iff.mp h
      apply hs.attempted hnotifying

/-- The admins are told of every stall of the chain once, and of nothing else, in every run. -/
theorem monitored_of_run {adminIds : List ℤ} {s : JobContext} (h : Run adminIds .start s) :
  Monitored adminIds s
  := by
  have hinv : Inv adminIds s := by
    apply h.invariant (I := Inv adminIds) _ (inv_start adminIds)
    intro s a t hs _ hstep
    apply hs.of_step hstep
  apply hinv.toMonitored

/-- The head stays, moves and stays again, with two checks at each stay. -/
def twoStalls : List Action :=
  [ .polled 5, .check, .check, .attempted, .pollFailed, .check, .polled 6, .check, .polled 6
  , .check, .attempted, .check ]

/-- The states of a run over some actions. -/
def after : List Action → Option JobContext :=
  execute (step [7]) (fun _ _ => True) .start

theorem monitored_twoStalls :
  ∃ s, after twoStalls = some s ∧ Monitored [7] s ∧ attempts s.history = [(7, 5), (7, 6)]
  := by
  have hrun : ∃ s, after twoStalls = some s ∧ attempts s.history = [(7, 5), (7, 6)] := ⟨_, rfl, rfl⟩
  obtain ⟨s, hs, hattempts⟩ := hrun
  use s, hs, monitored_of_run (reaches_of_execute hs)

end StallAlerts

end Sentinel
