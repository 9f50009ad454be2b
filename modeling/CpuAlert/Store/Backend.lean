import CpuAlert.Store.Database
import CpuAlert.Store.Memory

/-!
# The two stores behind one interface

## Main definitions

* `Backend` — a store in memory or in a database file
* `Backend.perform` — a call to either
-/

namespace CpuAlert

open Time (Instant)

/-- A store in memory or in a database file. -/
inductive Backend
  | memory (m : Memory)
  | database (d : Database)

/-- The answer to a call, and the store afterwards. -/
def Backend.perform (now : Instant) (c : Store.Call) : Backend → c.Answer × Backend
  | .memory m =>
    let (reply, m) := m.perform c
    (.ok reply, .memory m)
  | .database d =>
    let (answer, d) := d.perform now c
    (answer, .database d)

end CpuAlert
