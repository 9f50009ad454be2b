import CpuAlert.Program
import CpuAlert.Service
import CpuAlert.Store.Backend

/-!
# What effects mean

The world holds what programs act on: the live state, the locks of changes and of
cleanups, the store, the clocks, the cancellation of deliveries, and what the
channels were asked to send. Two clocks run independently: one on the wall, which
dates things, and one that only ever advances, which measures time.

Store calls may be refused before they reach the store; the world says which.
An effect is done at once, or it takes time, and then it ends either when its
time has come or when deliveries are cancelled, whichever is first. Nothing
takes longer than thirty years.

A cancellation may be planned for a time. It is planned while a program already
waits, so if both fall on the same moment that first wait still ends, and the
program goes on until it waits again; a later wait is cancelled.

## Main definitions

* `Cancellation` — a planned cancellation
* `World` — what programs act on
* `World.begin` — the first moment of an effect
* `Program.run` — a program on its own
* `World.start` — a service started on the world's store
-/

namespace CpuAlert

open Time (Instant)

/-- Something a channel was asked to send, and when. -/
structure Sending where
  place : Nat
  channel : String
  notice : Notice
  time : Nat

/-- A cancellation that is planned for a time, when so many waits had begun.
What was planned first comes first if both fall on the same moment. -/
structure Cancellation where
  time : Nat
  waitsBefore : Nat := 1
  deriving DecidableEq, Repr

/-- The cancellation comes before the end of the wait that is the last of so
many. -/
def Cancellation.precedes (c : Cancellation) (waits end_ : Nat) : Bool :=
  c.time < end_ || (c.time == end_ && c.waitsBefore < waits)

/-- What programs act on. Time is in milliseconds; `sent` has the newest
first; `outage` says whether the store call with this number is refused, and
`nonces` which nonce is drawn next. `waits` counts what has taken time so far. -/
structure World where
  store : Backend
  wall : Instant
  live : Live := {}
  locked : Bool := false
  outage : Nat → Store.Method → Option StoreError := fun _ _ => none
  asked : Nat := 0
  uptime : Nat := 0
  isCancelled : Bool := false
  planned : Option Cancellation := none
  waits : Nat := 0
  lastCleanup : Option Nat := none
  cleaning : Bool := false
  sent : List Sending := []
  nonces : Nat → Except String Gcm.Nonce
  drawn : Nat := 0

/-- How an effect begins: it is done, or it lasts until some time, ends in a
change of the world, or has another reply if it is cancelled. -/
inductive Progress (ρ : Type)
  | done (reply : ρ)
  | waiting (until_ : Nat) (finish : World → ρ × World) (cancelled : ρ)

namespace World

/-- Cancel deliveries now. -/
def fire (w : World) : World := { w with isCancelled := true }

/-- The longest that anything takes, in milliseconds: thirty years. -/
def longestWait : Nat := 30 * 365 * 24 * 60 * 60 * 1000

/-- Plan to cancel deliveries after milliseconds. Without any, that is now. -/
def plan (w : World) (milliseconds : Nat) : World :=
  if milliseconds = 0 then w.fire
  else { w with planned := some { time := w.uptime + min milliseconds longestWait } }

/-- Ask the store, unless the call is refused. -/
def ask (w : World) (c : Store.Call) : c.Answer × World :=
  let w' := { w with asked := w.asked + 1 }
  match w.outage w.asked c.method with
  | some e => (.error e, w')
  | none =>
    let (answer, store) := w.store.perform w.wall c
    (answer, { w' with store })

/-- What the channel at a place was asked to send, the oldest first. -/
def sentBy (w : World) (place : Nat) : List Notice :=
  (w.sent.reverse.filter (·.place = place)).map (·.notice)

/-- An attempt ends. -/
def finishSend (a : Attempt) (w : World) : Except SendError Unit × World :=
  (a.outcome, if a.fires then w.fire else w)

/-- An effect that takes milliseconds begins. -/
def wait {ρ : Type} (w : World) (milliseconds : Nat) (finish : World → ρ × World) (cancelled : ρ) :
    Progress ρ × World :=
  (.waiting (w.uptime + min milliseconds longestWait) finish cancelled,
    { w with waits := w.waits + 1 })

/-- The first moment of an effect. -/
def begin (w : World) : (e : Effect) → Progress e.Reply × World
  | .acquire => (.done (), { w with locked := true })
  | .release => (.done (), { w with locked := false })
  | .look => (.done w.live, w)
  | .ask call =>
    let (answer, w) := w.ask call
    (.done answer, w)
  | .commit config credentials record =>
    (.done (), { w with live := w.live.commit config credentials record })
  | .mute deadline => (.done (), { w with live := w.live.mute deadline })
  | .evaluate snapshot =>
    let (pending, live) := w.live.evaluate snapshot
    (.done pending, { w with live })
  | .clock => (.done w.wall, w)
  | .draw => (.done (w.nonces w.drawn), { w with drawn := w.drawn + 1 })
  | .claimCleanup interval =>
    if w.lastCleanup.all fun t => t + interval ≤ w.uptime then
      (.done true, { w with lastCleanup := some w.uptime, cleaning := true })
    else (.done false, w)
  | .endCleanup => (.done (), { w with cleaning := false })
  | .send place channel notice =>
    -- once deliveries are cancelled, nothing is sent any more
    if w.isCancelled then (.done (.error .cancelled), w)
    else
      let a := channel.attempt (w.sentBy place) notice
      let w := { w with sent := ⟨place, channel.name, notice, w.uptime⟩ :: w.sent }
      if a.lasts = 0 then
        let (outcome, w) := finishSend a w
        (.done outcome, w)
      else w.wait a.lasts (finishSend a) (.error .cancelled)
  | .pause milliseconds =>
    if w.isCancelled then (.done true, w)
    else if milliseconds = 0 then (.done false, w)
    else w.wait milliseconds (fun w => (false, w)) true
  | .isCancelled => (.done w.isCancelled, w)

/-- A whole effect, with nothing else going on. -/
def perform (w : World) (e : Effect) : e.Reply × World :=
  match w.begin e with
  | (.done reply, w) => (reply, w)
  | (.waiting end_ finish cancelled, w) =>
    match w.planned.filter (·.precedes w.waits end_) with
    -- what was planned may be due already, but only now does it happen
    | some c => (cancelled, { w with uptime := max w.uptime c.time, planned := none }.fire)
    | none => finish { w with uptime := end_ }

end World

/-- A program on its own. -/
def Program.run {α : Type} : Program α → World → α × World
  | .pure a, w => (a, w)
  | .step e next, w =>
    let (reply, w) := w.perform e
    run (next reply) w

/-- A service started on the world's store. What an earlier service left in
memory is gone. -/
def World.start (w : World) (o : Service.Options) : Except ServiceError Service × World :=
  let s := Service.ofOptions o
  let (loaded, w) := s.start.run w
  match loaded with
  | .error e => (.error e, w)
  | .ok live =>
    (.ok s, { w with live, locked := false, lastCleanup := none, cleaning := false, sent := [] })

end CpuAlert
