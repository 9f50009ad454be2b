import CpuAlert.Config
import CpuAlert.Level
import CpuAlert.Time.Instant

/-!
# When a reading becomes a notification

The evaluator of one host sees a reading at a time. A window begins when the
readings enter a zone and is forgotten when they leave it: critical readings
keep both the critical and the warning window running, readings between the two
thresholds only the latter, and readings below the recovery threshold the
recovery window, while a level is active. A level is notified once its window is
long enough and its last notification is long enough ago.

Silence holds notifications back without hiding the level: the level still
moves, but nothing counts as sent, so the cooldown is not used up.

## Main definitions

* `Trigger` — a notification to be sent
* `Evaluator` — windows, level and what was sent last
* `Evaluator.evaluate` — one reading
* `Evaluator.run` — a sequence of readings
-/

namespace CpuAlert

open Time (Instant)

/-- A notification to be sent now. -/
structure Trigger where
  level : Level
  cpuPercent : Float

/-- A reading with what was in force when it was taken. -/
structure Sample where
  time : Instant
  cpuPercent : Float
  config : Config
  silenced : Bool

/-- The active level, the starts of the windows, when each level was last sent,
and the times of the last notifications as they are shown. -/
structure Evaluator where
  active : Level := .none
  warningSince : Option Instant := none
  criticalSince : Option Instant := none
  recoverySince : Option Instant := none
  sentAt : Level → Option Instant := fun _ => none
  lastWarningAt : Option Instant := none
  lastCriticalAt : Option Instant := none
  lastRecoveryAt : Option Instant := none

namespace Evaluator

/-- Nothing has been read yet. -/
def fresh : Evaluator := {}

instance : Inhabited Evaluator := ⟨fresh⟩

/-- Forget all windows. -/
def forgetWindows (e : Evaluator) : Evaluator :=
  { e with warningSince := none, criticalSince := none, recoverySince := none }

/-- The level has not been sent within the cooldown. -/
def isDue (e : Evaluator) (level : Level) (now : Instant) (cooldown : Int) : Bool :=
  match e.sentAt level with
  | none => true
  | some last => Instant.hasLasted last now cooldown

/-- The level is sent now. -/
def recordSending (e : Evaluator) (level : Level) (now : Instant) : Evaluator :=
  let e := { e with sentAt := fun l => if l = level then some now else e.sentAt l }
  match level with
  | .warning => { e with lastWarningAt := some now }
  | .critical => { e with lastCriticalAt := some now }
  | .recovery => { e with lastRecoveryAt := some now }
  | .none => e
  | .test => e

/-- A reading at or above the critical threshold. -/
def atCritical (e : Evaluator) (s : Sample) : List Trigger × Evaluator :=
  let since := e.criticalSince.getD s.time
  let e := { e with
    recoverySince := none
    warningSince := some (e.warningSince.getD s.time)
    criticalSince := some since }
  if Instant.hasLasted since s.time s.config.criticalWindow
      && e.isDue .critical s.time s.config.cooldown then
    let e := { e with active := .critical }
    -- silence keeps the level and leaves the cooldown unused
    if s.silenced then ([], e)
    else ([⟨.critical, s.cpuPercent⟩], e.recordSending .critical s.time)
  else ([], e)

/-- A reading at or above the warning threshold and not critical. Silence only
raises the level from rest, and never lowers a critical one. -/
def atWarning (e : Evaluator) (s : Sample) : List Trigger × Evaluator :=
  let since := e.warningSince.getD s.time
  let e := { e with recoverySince := none, warningSince := some since }
  if Instant.hasLasted since s.time s.config.warningWindow
      && e.isDue .warning s.time s.config.cooldown then
    if s.silenced then ([], if e.active = .none then { e with active := .warning } else e)
    else
      let e := e.recordSending .warning s.time
      ([⟨.warning, s.cpuPercent⟩],
        if e.active = .critical then e else { e with active := .warning })
  else ([], e)

/-- A reading below the warning threshold. -/
def atRest (e : Evaluator) (s : Sample) : List Trigger × Evaluator :=
  if e.active ≠ .none ∧ s.cpuPercent < s.config.recoveryPercent then
    let since := e.recoverySince.getD s.time
    let e := { e with recoverySince := some since }
    if Instant.hasLasted since s.time s.config.recoveryWindow
        && e.isDue .recovery s.time s.config.cooldown then
      -- a recovery is over at once, whether anybody hears of it or not
      let e := { e with active := .none }.forgetWindows
      if s.silenced then ([], e)
      else ([⟨.recovery, s.cpuPercent⟩], e.recordSending .recovery s.time)
    else ([], e)
  else ([], { e with recoverySince := none })

/-- One reading: the notifications to send, at most one, and what is known
afterwards. With alerting switched off there is no level and no window. -/
def evaluate (e : Evaluator) (s : Sample) : List Trigger × Evaluator :=
  if ¬ s.config.enabled then ([], { e.forgetWindows with active := .none })
  else if s.cpuPercent ≥ s.config.criticalPercent then e.atCritical s
  else
    let e := { e with criticalSince := none }
    if s.cpuPercent ≥ s.config.warningPercent then e.atWarning s
    else { e with warningSince := none }.atRest s

/-- A sequence of readings, with the notifications of each. -/
def run (e : Evaluator) : List Sample → List (List Trigger) × Evaluator
  | [] => ([], e)
  | s :: ss =>
    let (ts, e) := e.evaluate s
    let (rest, e) := run e ss
    (ts :: rest, e)

end Evaluator

/-- A silence that ends after an instant holds at it. -/
def silenceHolds (mutedUntil : Option Instant) (now : Instant) : Bool :=
  match mutedUntil with
  | none => false
  | some deadline => now < deadline

end CpuAlert
