import CpuAlert.Evaluator
import CpuAlert.Snapshot

/-!
# The alert status

## Main definitions

* `Status` — what callers see of the evaluator and the silence
* `Status.after` — the status once a snapshot has been evaluated
* `Status.seenAt` — the status as shown to a caller
-/

namespace CpuAlert

open Time (Instant)

/-- What callers see of the evaluator and the silence. -/
structure Status where
  currentState : Level := .none
  lastCpuPercent : Float := 0
  lastEvaluatedAt : Option Instant := none
  mutedUntil : Option Instant := none
  silenced : Bool := false
  lastWarningAt : Option Instant := none
  lastCriticalAt : Option Instant := none
  lastRecoveryAt : Option Instant := none
  readOnly : Bool := false
  deriving Inhabited

namespace Status

/-- The status of a service that has just been started. -/
def start (mutedUntil : Option Instant) (now : Instant) : Status :=
  { mutedUntil, silenced := silenceHolds mutedUntil now }

/-- The status once a snapshot has been evaluated. -/
def after (s : Status) (snapshot : Snapshot) (e : Evaluator) : Status :=
  { s with
    currentState := e.active
    lastCpuPercent := snapshot.cpuPercent
    lastEvaluatedAt := some snapshot.time
    silenced := silenceHolds s.mutedUntil snapshot.time
    lastWarningAt := e.lastWarningAt
    lastCriticalAt := e.lastCriticalAt
    lastRecoveryAt := e.lastRecoveryAt }

/-- The status as shown to a caller: whether notifications are silenced is
decided by the clock. -/
def seenAt (s : Status) (now : Instant) (readOnly : Bool) : Status :=
  { s with silenced := silenceHolds s.mutedUntil now, readOnly }

end Status

end CpuAlert
