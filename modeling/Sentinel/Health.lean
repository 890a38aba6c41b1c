import Mathlib.Algebra.Order.Ring.Int

/-!
# Health

What the health endpoints report. `HealthState` holds the flags and the times of the last
heartbeat, progress and subscription, in milliseconds of a monotonic clock; the `mark`
operations update it, and `HealthState.snapshot` computes the answers of the endpoints.
-/

namespace Sentinel

/-- `LIVENESS_STALE_AFTER_SECONDS`, in milliseconds. -/
def livenessStaleAfter : ℤ := 30000

/-- `READINESS_PROGRESS_STALE_AFTER_SECONDS`, in milliseconds. -/
def readinessProgressStaleAfter : ℤ := 30 * 60000

structure HealthState where
  startupComplete : Bool
  pollingStarted : Bool
  subscriptionActive : Bool
  catchupActive : Bool
  warmupStarted : Bool
  warmupComplete : Bool
  warmupError : Option String
  shuttingDown : Bool
  fatalError : Option String
  lastHeartbeatAt : ℤ
  lastProgressAt : Option ℤ
  lastSubscriptionOkAt : Option ℤ

/-- What the health endpoints answer at one moment. -/
structure HealthSnapshot where
  startupComplete : Bool
  ready : Bool
  live : Bool
  pollingStarted : Bool
  subscriptionActive : Bool
  catchupActive : Bool
  warmupStarted : Bool
  warmupComplete : Bool
  warmupError : Option String
  shuttingDown : Bool
  fatalError : Option String
  heartbeatAge : ℤ
  progressAge : Option ℤ
  lastSubscriptionOkAge : Option ℤ

namespace HealthState

/-- The state before anything was marked. -/
def initial (now : ℤ) : HealthState where
  startupComplete := false
  pollingStarted := false
  subscriptionActive := false
  catchupActive := false
  warmupStarted := false
  warmupComplete := false
  warmupError := none
  shuttingDown := false
  fatalError := none
  lastHeartbeatAt := now
  lastProgressAt := none
  lastSubscriptionOkAt := none

/-! ### Marking -/

/-- Record progress, which counts as a heartbeat. -/
def markProgress (now : ℤ) (h : HealthState) : HealthState :=
  { h with lastProgressAt := some now, lastHeartbeatAt := now }

def markPollingStarted (now : ℤ) (h : HealthState) : HealthState :=
  { h with pollingStarted := true, lastHeartbeatAt := now }

def markSubscriptionActive (now : ℤ) (h : HealthState) : HealthState :=
  { h.markProgress now with subscriptionActive := true, lastSubscriptionOkAt := some now }

def markSubscriptionInactive (h : HealthState) : HealthState :=
  { h with subscriptionActive := false }

def markCatchupStarted (h : HealthState) : HealthState :=
  { h with catchupActive := true }

def markCatchupComplete (now : ℤ) (h : HealthState) : HealthState :=
  { h.markProgress now with catchupActive := false }

def markStartupComplete (now : ℤ) (h : HealthState) : HealthState :=
  { h.markProgress now with startupComplete := true }

/-! ### The snapshot -/

/-- The answers of the health endpoints. -/
def snapshot (now : ℤ) (h : HealthState) : HealthSnapshot where
  startupComplete := h.startupComplete
  ready := h.startupComplete
    && h.pollingStarted
    && h.subscriptionActive
    && !h.catchupActive
    && !h.shuttingDown
    && h.fatalError.isNone
    && h.lastProgressAt.any fun at' => decide (now - at' < readinessProgressStaleAfter)
  live := h.fatalError.isNone && decide (now - h.lastHeartbeatAt < livenessStaleAfter)
  pollingStarted := h.pollingStarted
  subscriptionActive := h.subscriptionActive
  catchupActive := h.catchupActive
  warmupStarted := h.warmupStarted
  warmupComplete := h.warmupComplete
  warmupError := h.warmupError
  shuttingDown := h.shuttingDown
  fatalError := h.fatalError
  heartbeatAge := now - h.lastHeartbeatAt
  progressAge := h.lastProgressAt.map fun at' => now - at'
  lastSubscriptionOkAge := h.lastSubscriptionOkAt.map fun at' => now - at'

/-- A ready process has completed its startup and is not catching up. -/
theorem of_ready {now : ℤ} {h : HealthState} (hready : (h.snapshot now).ready = true) :
  h.startupComplete = true ∧ h.catchupActive = false
  := by
  simp only [snapshot, Bool.and_eq_true, Bool.not_eq_true'] at hready
  obtain ⟨⟨⟨⟨⟨⟨hstartup, -⟩, -⟩, hcatchup⟩, -⟩, -⟩, -⟩ := hready
  apply And.intro hstartup hcatchup

end HealthState

end Sentinel
