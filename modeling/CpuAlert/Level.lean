/-!
# Alert levels

## Main definitions

* `Level` — none, warning, critical, recovery and test
* `Level.name`, `Level.upperName` — its names
* `Level.ofName?` — the level of a name

## Main results

* `Level.ofName?_name` — every level is found by its name
-/

namespace CpuAlert

/-- What a notification is about. None is the rest state; a test is only ever
sent by hand. -/
inductive Level
  | none
  | warning
  | critical
  | recovery
  | test
  deriving DecidableEq, Repr, Inhabited

namespace Level

/-- The name under which a level is stored and sent. -/
def name : Level → String
  | none => "none"
  | warning => "warning"
  | critical => "critical"
  | recovery => "recovery"
  | test => "test"

/-- The name of a level in messages and subjects. -/
def upperName : Level → String
  | none => "NONE"
  | warning => "WARNING"
  | critical => "CRITICAL"
  | recovery => "RECOVERY"
  | test => "TEST"

/-- The level of a name. -/
def ofName? (s : String) : Option Level :=
  if s = "none" then some none
  else if s = "warning" then some warning
  else if s = "critical" then some critical
  else if s = "recovery" then some recovery
  else if s = "test" then some test
  else Option.none

/-- The wording for a name that no level has. -/
def unknownMessage (s : String) : String := "unknown alert level: " ++ s

/-- Every level is found by its name. -/
theorem ofName?_name (l : Level) : ofName? l.name = some l := by
  cases l <;> decide

end Level

end CpuAlert
