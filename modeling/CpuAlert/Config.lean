import CpuAlert.Text.Blank

/-!
# The alert configuration

Three thresholds, each with the time a reading has to stay beyond it, the
spacing of notifications of one level, and where notifications go. A
configuration is usable if the recovery threshold lies below the warning
threshold and that below the critical one, all within 0 to 100 percent, the
windows are positive and the cooldown is not negative.

## Main definitions

* `Config` — the configuration
* `Config.Violation` — the conditions of a usable configuration, negated
* `Config.violation?` — the first condition that does not hold
* `keepNonBlank`, `usableDelays` — lists as a configuration may hold them
-/

namespace CpuAlert

/-- The pauses between attempts when nothing else is configured, in seconds. -/
def standardDelays : List Nat := [1, 5, 15]

/-- Thresholds in percent, windows, cooldown and pauses in seconds, and the
channels with their recipients. The number of pauses is the number of attempts
per channel. -/
structure Config where
  enabled : Bool := true
  warningPercent : Float := 75
  warningWindow : Int := 300
  criticalPercent : Float := 85
  criticalWindow : Int := 600
  recoveryPercent : Float := 70
  recoveryWindow : Int := 300
  cooldown : Int := 1800
  telegramEnabled : Bool := true
  emailEnabled : Bool := true
  recipients : List String := []
  chatIds : List String := []
  retryDelays : List Nat := standardDelays
  deriving Inhabited

namespace Config

/-- A condition of a usable configuration that does not hold. -/
inductive Violation
  | warningRange
  | criticalRange
  | recoveryRange
  | warningNotBelowCritical
  | recoveryNotBelowWarning
  | windowNotPositive
  | cooldownNegative
  deriving DecidableEq, Repr

/-- The wording of a violation. -/
def Violation.message : Violation → String
  | .warningRange => "warning_percent must be > 0 and <= 100"
  | .criticalRange => "critical_percent must be > 0 and <= 100"
  | .recoveryRange => "recovery_percent must be >= 0 and <= 100"
  | .warningNotBelowCritical => "warning_percent must be lower than critical_percent"
  | .recoveryNotBelowWarning => "recovery_percent must be lower than warning_percent"
  | .windowNotPositive => "window seconds must be > 0"
  | .cooldownNegative => "cooldown_sec must be >= 0"

/-- The first condition that does not hold. What is not a number is in no
range. -/
def violation? (c : Config) : Option Violation :=
  if ¬ (c.warningPercent > 0 ∧ c.warningPercent ≤ 100) then some .warningRange
  else if ¬ (c.criticalPercent > 0 ∧ c.criticalPercent ≤ 100) then some .criticalRange
  else if ¬ (c.recoveryPercent ≥ 0 ∧ c.recoveryPercent ≤ 100) then some .recoveryRange
  else if c.warningPercent ≥ c.criticalPercent then some .warningNotBelowCritical
  else if c.recoveryPercent ≥ c.warningPercent then some .recoveryNotBelowWarning
  else if c.warningWindow ≤ 0 ∨ c.criticalWindow ≤ 0 ∨ c.recoveryWindow ≤ 0 then
    some .windowNotPositive
  else if c.cooldown < 0 then some .cooldownNegative
  else none

/-- The pauses between attempts, which are the default ones if none are
configured. -/
def schedule (c : Config) : List Nat :=
  if c.retryDelays.isEmpty then standardDelays else c.retryDelays

end Config

/-! ## Lists as a configuration may hold them -/

/-- The entries without their outer blanks, and without those that are blank. -/
def keepNonBlank (items : List String) : List String := items.filterMap Text.nonBlank?

/-- The delays that are not negative, or the default ones if none are left. -/
def usableDelays (delays : List Int) : List Nat :=
  let kept := (delays.filter (0 ≤ ·)).map Int.toNat
  if kept.isEmpty then standardDelays else kept

/-- There is always a pause, so there is always an attempt. -/
theorem usableDelays_ne_nil (delays : List Int) : usableDelays delays ≠ [] := by
  simp only [usableDelays]
  split
  · decide
  · rename_i h
    simpa [List.isEmpty_iff] using h

end CpuAlert
