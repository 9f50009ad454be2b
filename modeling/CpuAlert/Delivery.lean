import CpuAlert.Event
import CpuAlert.Program

/-!
# Deliveries

A message goes through every enabled channel, one after the other. A channel is
tried until an attempt succeeds, is cancelled, or was the last one; between two
attempts there is a pause, so the number of attempts is one more than the number
of pauses. A cancellation ends the channel that is under way and leaves out the
channels after it.

## Main definitions

* `Delivery.tries` — the attempts of one channel
* `Delivery.through` — the channels of a message
* `Delivery.notify` — a message through every enabled channel
-/

namespace CpuAlert.Delivery

open Program (perform)

/-- Milliseconds in a second. -/
def millisPerSecond : Nat := 1000

/-- What became of a message whose last attempt failed. -/
def failed (name : String) (attempts : Nat) (e : SendError) : ChannelOutcome :=
  { channel := name, attempts, errorMessage := some e.message }

/-- The attempts of one channel with these pauses between them, after some
attempts that failed. -/
def tries (place : Nat) (channel : Channel) (o : Notice) (made : Nat) :
    List Nat → Program ChannelOutcome
  -- the last attempt has no pause after it
  | [] => do
    match ← perform (.send place channel o) with
    | .ok () => return { channel := channel.name, success := true, attempts := made + 1 }
    | .error e => return failed channel.name (made + 1) e
  | pause :: pauses => do
    match ← perform (.send place channel o) with
    | .ok () => return { channel := channel.name, success := true, attempts := made + 1 }
    | .error .cancelled => return failed channel.name (made + 1) .cancelled
    | .error _ =>
      if ← perform (.pause (pause * millisPerSecond)) then
        return failed channel.name (made + 1) .cancelled
      else tries place channel o (made + 1) pauses

/-- The channels of a message, with their places, until a cancellation. -/
def through (o : Notice) (pauses : List Nat) : List (Channel × Nat) → Program (List ChannelOutcome)
  | [] => return []
  | (channel, place) :: rest => do
    let result ← tries place channel o 0 pauses
    -- the channels that are left out have no result
    if ← perform .isCancelled then return [result]
    else return result :: (← through o pauses rest)

/-- The enabled channels with their places. -/
def enabled (channels : List Channel) (config : Config) : List (Channel × Nat) :=
  channels.zipIdx.filter fun c => c.1.isEnabled config

/-- A message through every enabled channel. There is no pause after the last
attempt. -/
def notify (channels : List Channel) (config : Config) (credentials : Credentials) (level : Level)
    (message : String) : Program (List ChannelOutcome) :=
  through ⟨config, credentials.trimmed, level, message⟩ config.schedule.dropLast
    (enabled channels config)

end CpuAlert.Delivery
