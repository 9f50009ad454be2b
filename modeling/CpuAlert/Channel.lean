import CpuAlert.Channel.Mailbox
import CpuAlert.Config
import CpuAlert.Credentials
import CpuAlert.Level

/-!
# Notification channels

A channel makes one attempt at a time to deliver a message. How an attempt goes
may depend on everything the channel was asked to send before. It takes some
time, and it may fire the cancellation of all deliveries before it ends.

## Main definitions

* `Notice` — what a channel needs to deliver one message
* `SendError` — why an attempt failed
* `Attempt` — how an attempt goes
* `Channel` — a channel
-/

namespace CpuAlert

/-- What a channel needs to deliver one message. -/
structure Notice where
  config : Config
  credentials : Credentials
  level : Level
  message : String

/-- Why an attempt failed. -/
inductive SendError
  | missingCredential (name : String)
  | noRecipients (name : String)
  | httpStatus (code : Nat)
  | request (reason : String)
  | address (fault : Mailbox.Fault)
  | build (reason : String)
  | smtp (reason : String)
  | cancelled
  deriving DecidableEq, Repr

/-- The wording of a failure. -/
def SendError.message : SendError → String
  | .missingCredential name => name ++ " is empty"
  | .noRecipients name => name ++ " is empty"
  | .httpStatus code => s!"send failed with status {code}"
  | .request reason => "request failed: " ++ reason
  | .address fault => "invalid email address: " ++ fault.message
  | .build reason => "email build failed: " ++ reason
  | .smtp reason => "smtp send failed: " ++ reason
  | .cancelled => "notification cancelled"

/-- How an attempt goes: how many milliseconds it lasts, whether it fires the
cancellation at its end, and what comes out. -/
structure Attempt where
  lasts : Nat := 0
  fires : Bool := false
  outcome : Except SendError Unit := .ok ()

/-- A channel: its name, the configurations that enable it, and how an attempt
goes after what it has been asked to send before. -/
structure Channel where
  name : String
  isEnabled : Config → Bool
  attempt : List Notice → Notice → Attempt

end CpuAlert
