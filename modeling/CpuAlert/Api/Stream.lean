import CpuAlert.Service
import CpuAlert.Snapshot
import CpuAlert.Wire.History

/-!
# The stream of snapshots

Whoever holds a connection to the stream is sent every snapshot that is
published, together with the status at the moment of sending.

## Main definitions

* `Stream.message` — what is sent for a snapshot
-/

namespace CpuAlert.Stream

/-- A snapshot and a status as one message. -/
def messageOf (snapshot : Snapshot) (status : Status) : Json.Value :=
  .object
    [("type", .text "snapshot"),
     ("timestamp", .text (Time.Rfc3339.write .fewest .numeric snapshot.time)),
     ("cpu_total_percent", .float snapshot.cpuPercent),
     ("alerts", status.toJson)]

/-- What is sent for a snapshot. -/
def message (readOnly : Bool) (snapshot : Snapshot) : Program Json.Value :=
  return messageOf snapshot (← Service.status readOnly)

end CpuAlert.Stream
