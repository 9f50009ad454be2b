import CpuAlert.Level
import CpuAlert.Time.Instant

/-!
# Recorded notifications

## Main definitions

* `ChannelOutcome` — what became of a message in one channel
* `Event.Draft` — a notification that has no number yet
* `Event` — a recorded notification
-/

namespace CpuAlert

/-- What became of a message in one channel. A failure has the wording of the
last attempt's error. -/
structure ChannelOutcome where
  channel : String
  success : Bool := false
  attempts : Nat := 0
  errorMessage : Option String := none
  deriving DecidableEq, Inhabited

/-- A notification that has no number yet. -/
structure Event.Draft where
  level : Level
  message : String
  cpuPercent : Float
  channels : List ChannelOutcome
  createdAt : Time.Instant
  deriving Inhabited

/-- A recorded notification. -/
structure Event extends Event.Draft where
  id : Int
  deriving Inhabited

/-- A draft with a number. -/
def Event.Draft.numbered (d : Event.Draft) (id : Int) : Event := { d with id }

end CpuAlert
