import CpuAlert.Service.Observe
import CpuAlert.World

/-!
# The service's own loop

The loop takes snapshots from a feed and evaluates each as it comes. Triggers
are delivered beside the loop, so slow channels never hold up the next snapshot,
and the loop cleans up the history at regular times. It ends when deliveries are
cancelled or the feed is closed, and returns once every delivery has ended.

A feed holds only so many snapshots that have not been taken; beyond that the
oldest are lost.

Deliveries that wait stand in the order in which they began to wait. Whoever can
go on does so in turn, until it waits again or ends. Cancellation wakes all of
them; from then on nothing waits any more, so everybody takes at most one turn
before a cancellation and one after it.

## Main definitions

* `Loop` — the loop with its deliveries
* `Loop.Input` — what happens to the feed
* `Loop.play` — a loop fed with a list of inputs
-/

namespace CpuAlert

open Program (perform)

/-- A delivery that waits: until when, and how it goes on. -/
structure Waiting where
  until_ : Nat
  finish : World → Program Unit × World
  cancelled : Program Unit

/-- The loop with its deliveries: whether it still takes snapshots, when it
cleans up next, the deliveries that can go on, those that wait, and how often
the deliveries begun so far can wait at most. -/
structure Loop where
  world : World
  listening : Bool := true
  nextCleanup : Nat
  ready : List (World → Program Unit × World) := []
  waiting : List Waiting := []
  waits : Nat := 0

/-- A program until it waits or ends. -/
def Program.advance : Program Unit → World → Option Waiting × World
  | .pure _, w => (none, w)
  | .step e next, w =>
    match w.begin e with
    | (.done reply, w) => advance (next reply) w
    | (.waiting end_ finish cancelled, w) =>
      (some ⟨end_,
        fun w =>
          let (reply, w) := finish w
          (next reply, w),
        next cancelled⟩, w)

namespace Loop

/-- What happens to the feed: snapshots are published all at once, time passes,
or deliveries are cancelled. -/
inductive Input
  | publish (snapshots : List Snapshot)
  | sleep (milliseconds : Nat)
  | cancel

/-- The loop of a service that begins now. -/
def start (s : Service) (w : World) : Loop :=
  { world := w, listening := !w.isCancelled, nextCleanup := w.uptime + s.cleanupInterval }

/-- A delivery whose time has come. At the same moment a cancellation wins. -/
def Waiting.resume (p : CpuAlert.Waiting) (w : World) : Program Unit × World :=
  if w.isCancelled then (p.cancelled, w) else p.finish w

/-- Wake everybody if deliveries are cancelled. -/
def wakeCancelled (l : Loop) : Loop :=
  if l.world.isCancelled then
    { l with
      listening := false
      ready := l.ready ++ l.waiting.map fun p w => (p.cancelled, w)
      waiting := [] }
  else l

/-- Let everybody who can go on take a turn, as often as given. -/
def turns : Nat → Loop → Loop
  | 0, l => l
  | n + 1, l =>
    match l.ready with
    | [] => l
    | resume :: rest =>
      let (p, w) := resume l.world
      let (wait, w) := p.advance w
      let waiting := l.waiting ++ wait.toList
      turns n { l with world := w, ready := rest, waiting }.wakeCancelled

/-- Let everybody go on until all wait or have ended. -/
def settle (l : Loop) : Loop :=
  let l := l.wakeCancelled
  turns (2 * (l.ready.length + l.waiting.length)) l

/-- Somebody has still to be waited for before the loop returns. -/
def isRunning (l : Loop) : Bool := l.listening || !l.ready.isEmpty || !l.waiting.isEmpty

/-- The time of the next event, if there is one. -/
def nextTime (l : Loop) : Option Nat :=
  let times := l.waiting.map (·.until_) ++ (if l.listening then [l.nextCleanup] else [])
  times.min?

/-- Clean up if it is time to. -/
def cleanUp (s : Service) (l : Loop) : Loop :=
  if l.listening && l.nextCleanup ≤ l.world.uptime then
    { l with
      world := (s.cleanup.run l.world).2
      nextCleanup := l.nextCleanup + s.cleanupInterval }
  else l

/-- Move the clock to a time and let everybody go on whose time has come. -/
def moveTo (s : Service) (l : Loop) (time : Nat) : Loop :=
  let l := cleanUp s { l with world := { l.world with uptime := time } }
  let (due, later) := l.waiting.partition (·.until_ ≤ time)
  settle { l with ready := l.ready ++ due.map Waiting.resume, waiting := later }

/-- Let time pass up to a target. Every event moves the clock, so there are no
more events than milliseconds. -/
def passTo (s : Service) (target : Nat) : Nat → Loop → Loop
  | 0, l => { l with world := { l.world with uptime := max l.world.uptime target } }
  | n + 1, l =>
    match l.nextTime with
    -- everything before the target happens at its own time
    | some t =>
      if t ≤ target then passTo s target n (moveTo s l t)
      else { l with world := { l.world with uptime := max l.world.uptime target } }
    | none => { l with world := { l.world with uptime := max l.world.uptime target } }

/-- Let milliseconds pass. -/
def pass (s : Service) (l : Loop) (milliseconds : Nat) : Loop :=
  passTo s (l.world.uptime + milliseconds) (milliseconds + 1) l

/-- How often a delivery can wait: once in every attempt and once after it. -/
def waitsOf (s : Service) (p : Pending) : Nat := 2 * p.config.schedule.length * s.channels.length

/-- Take a snapshot and begin to deliver its triggers. -/
def take (s : Service) (l : Loop) (snapshot : Snapshot) : Loop :=
  let (pending, w) := l.world.perform (.evaluate snapshot)
  { l with
    world := w
    ready := l.ready ++ pending.map fun p w => (s.deliver p, w)
    waits := l.waits + pending.foldr (fun p n => waitsOf s p + n) 0 }

/-- The number of snapshots that a feed of some capacity holds, which is a power
of two. -/
def feedSize (capacity : Nat) : Nat := capacity.nextPowerOfTwo

/-- Publish snapshots; whether anybody received them comes first. -/
def publish (s : Service) (capacity : Nat) (l : Loop) (snapshots : List Snapshot) :
    List Bool × Loop :=
  let received := snapshots.map fun _ => l.isRunning
  -- the loop takes its turn after all of them, so it finds only the newest
  let held := snapshots.drop (snapshots.length - feedSize capacity)
  (received, if l.listening then settle (held.foldl (take s) l) else l)

/-- One input, and a millisecond after it. -/
def input (s : Service) (capacity : Nat) (l : Loop) : Input → List Bool × Loop
  | .publish snapshots =>
    let (received, l) := publish s capacity l snapshots
    (received, pass s l 1)
  | .sleep milliseconds => ([], pass s l (min milliseconds World.longestWait + 1))
  | .cancel => ([], pass s (settle { l with world := l.world.fire }) 1)

/-- Several inputs. -/
def inputs (s : Service) (capacity : Nat) (l : Loop) : List Input → List Bool × Loop
  | [] => ([], l)
  | i :: is =>
    let (received, l) := input s capacity l i
    let (more, l) := inputs s capacity l is
    (received ++ more, l)

/-- Wait for all deliveries; they wait no more often than given. -/
def drain (s : Service) : Nat → Loop → Loop
  | 0, l => l
  | n + 1, l =>
    match l.nextTime with
    | some t => drain s n (moveTo s l t)
    | none => l

/-- The feed is closed. -/
def close (s : Service) (l : Loop) : Loop := drain s l.waits { l with listening := false }

/-- A loop fed with a list of inputs, from its beginning, a millisecond before
the first of them, until it returns: for every snapshot whether anybody received
it, and the world afterwards. -/
def play (s : Service) (capacity : Nat) (is : List Input) (w : World) : List Bool × World :=
  let (received, l) := inputs s capacity (pass s (start s w) 1) is
  (received, (close s l).world)

end Loop

end CpuAlert
