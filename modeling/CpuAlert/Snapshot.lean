import CpuAlert.Time.Instant

/-!
# Snapshots

## Main definitions

* `Snapshot` — one reading of the processor load
-/

namespace CpuAlert

/-- One reading of the processor load, in percent. -/
structure Snapshot where
  time : Time.Instant
  cpuPercent : Float
  deriving Inhabited

end CpuAlert
