import CpuAlert.Decimal.Fixed
import CpuAlert.Service
import CpuAlert.Time.Rfc3339

/-!
# Evaluating, notifying and recording

A snapshot is evaluated in one step. Every trigger is then delivered with the
configuration and the credentials of that moment, and recorded with what became
of it; a record that cannot be stored is lost without consequences.

## Main definitions

* `Service.observe` — evaluate a snapshot and deliver its triggers
* `Service.deliver` — deliver and record one trigger
* `Service.sendTest` — a test message
* `Service.cleanup` — delete what is older than the retention
-/

namespace CpuAlert.Service

open Program (perform)
open Time (Instant)

/-! ## Messages -/

/-- An instant in a message, in whole seconds. -/
def timeText (i : Instant) : String := Time.Rfc3339.write .seconds .letter i

/-- The message of a trigger. -/
def alertMessage (level : Level) (hostname : String) (cpuPercent : Float) (time : Instant) :
    String :=
  "[hostwatch][" ++ level.upperName ++ "] Host=" ++ hostname
    ++ " CPU=" ++ Decimal.fixed 2 cpuPercent ++ "% Time=" ++ timeText time

/-- The message of a test. -/
def testMessage (hostname : String) (time : Instant) : String :=
  "[hostwatch][TEST] Host=" ++ hostname ++ " Time=" ++ timeText time

/-! ## Snapshots -/

/-- Deliver and record one trigger. -/
def deliver (s : Service) (p : Pending) : Program Unit := do
  let message := alertMessage p.trigger.level s.hostname p.trigger.cpuPercent p.time
  let channels ←
    Delivery.notify s.channels p.config p.credentials p.trigger.level message
  let _ ← perform (.ask (.append
    { level := p.trigger.level
      message
      cpuPercent := p.trigger.cpuPercent
      channels
      createdAt := p.time }))
  return ()

/-- Deliver and record several triggers. -/
def deliverAll (s : Service) : List Pending → Program Unit
  | [] => return ()
  | p :: ps => do
    s.deliver p
    s.deliverAll ps

/-- Evaluate a snapshot and deliver its triggers. -/
def observe (s : Service) (snapshot : Snapshot) : Program (List Trigger) := do
  let pending ← perform (.evaluate snapshot)
  s.deliverAll pending
  return pending.map (·.trigger)

/-- Send a test message through the enabled channels and record it. -/
def sendTest (s : Service) : Program (Except ServiceError Event) := do
  let live ← perform .look
  if ¬ live.config.telegramEnabled ∧ ¬ live.config.emailEnabled then
    return .error .channelsDisabled
  let now ← perform .clock
  let message := testMessage s.hostname now
  let channels ← Delivery.notify s.channels live.config live.credentials .test message
  let draft : Event.Draft :=
    { level := .test, message, cpuPercent := 0, channels, createdAt := now }
  match persisted (← perform (.ask (.append draft))) with
  | .error e => return .error e
  | .ok id => return .ok (draft.numbered id)

/-! ## Cleanup -/

/-- Seconds in a day. -/
def secondsPerDay : Int := 86400

/-- Delete the events that are older than the retention. The number of deleted
events is unknown if the store failed. A retention that reaches past the calendar
deletes nothing. -/
def deleteOld (s : Service) : Program (Option Nat) := do
  let now ← perform .clock
  match now.shift? (-(s.retentionDays * secondsPerDay)) with
  -- no event can be that old
  | none => return some 0
  | some cutoff =>
    match ← perform (.ask (.deleteBefore cutoff)) with
    | .ok n => return some n
    | .error _ => return none

/-- Delete the events that are older than the retention, unless the last cleanup
was too recent. -/
def cleanup (s : Service) : Program (Option Nat) := do
  if ← perform (.claimCleanup s.cleanupInterval) then
    let deleted ← s.deleteOld
    perform .endCleanup
    return deleted
  else return none

end CpuAlert.Service
