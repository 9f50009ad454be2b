import CpuAlert.Credentials
import CpuAlert.Status

/-!
# The live state

What a service holds in memory: the configuration in force, the credentials in
the clear and as stored, the status and the evaluator.

## Main definitions

* `Live` — the live state
* `Live.evaluate` — a snapshot is evaluated
* `Live.commit`, `Live.mute` — an update or a silence comes into force
* `Pending` — a notification that has still to be delivered
-/

namespace CpuAlert

open Time (Instant)

/-- What a service holds in memory. -/
structure Live where
  config : Config := {}
  credentials : Credentials := {}
  record : SealedCredentials := {}
  status : Status := {}
  evaluator : Evaluator := .fresh
  deriving Inhabited

/-- A notification that has still to be delivered, with the configuration and
the credentials of the moment it was decided. -/
structure Pending where
  trigger : Trigger
  config : Config
  credentials : Credentials
  time : Instant

namespace Live

/-- The reading that a snapshot is in the live state. -/
def sample (l : Live) (s : Snapshot) : Sample where
  time := s.time
  cpuPercent := s.cpuPercent
  config := l.config
  silenced := silenceHolds l.status.mutedUntil s.time

/-- A snapshot is evaluated. -/
def evaluate (l : Live) (s : Snapshot) : List Pending × Live :=
  let (triggers, evaluator) := l.evaluator.evaluate (l.sample s)
  (triggers.map fun trigger => ⟨trigger, l.config, l.credentials, s.time⟩,
    { l with evaluator, status := l.status.after s evaluator })

/-- An update comes into force. -/
def commit (l : Live) (config : Config) (credentials : Credentials) (record : SealedCredentials) :
    Live :=
  { l with config, credentials, record }

/-- A silence begins or ends. -/
def mute (l : Live) (deadline : Option Instant) : Live :=
  { l with status := { l.status with mutedUntil := deadline, silenced := deadline.isSome } }

end Live

end CpuAlert
