import CpuAlert.Config
import CpuAlert.Credentials
import CpuAlert.Event

/-!
# Stores

A store keeps one configuration, one record of credentials, the end of the
silence, and the history of events. It is asked by calls; each call has its own
type of reply, and any call may fail.

## Main definitions

* `StoreError` — why a call failed
* `Page` — which part of the history is wanted
* `Store.Call`, `Store.Call.Reply` — the calls and their replies
* `Store.Method` — the kinds of calls
-/

namespace CpuAlert

open Time (Instant)

/-- Why a call failed. -/
inductive StoreError
  | connectionFailed (reason : String)
  | queryFailed (reason : String)
  | migrationFailed (reason : String)
  | serialization (reason : String)
  | io (reason : String)
  deriving DecidableEq, Repr

/-- The wording of a failure. -/
def StoreError.message : StoreError → String
  | .connectionFailed reason => "failed to connect to alert store: " ++ reason
  | .queryFailed reason => "alert store query failed: " ++ reason
  | .migrationFailed reason => "database migration failed: " ++ reason
  | .serialization reason => "serialization error: " ++ reason
  | .io reason => "I/O error: " ++ reason

/-! ## Pages of the history -/

/-- The newest events, at most `limit` of them, with numbers below `before`. -/
structure Page where
  limit : Nat
  before : Option Int
  deriving DecidableEq, Repr

namespace Page

/-- The size of a page when none is asked for. -/
def defaultLimit : Nat := 50

/-- The size of the largest page. -/
def maxLimit : Nat := 500

/-- The page for what a caller asks. A size below one means the default size,
one above the largest is cut, and a number below one is no bound. -/
def of (limit : Int) (before : Option Int) : Page where
  limit := if limit ≤ 0 then defaultLimit else min limit.toNat maxLimit
  before := before.filter (0 < ·)

/-- A page is never empty by its size and never larger than the largest. -/
theorem limit_of (limit : Int) (before : Option Int) :
    0 < (of limit before).limit ∧ (of limit before).limit ≤ maxLimit := by
  simp only [of, defaultLimit, maxLimit]
  split <;> omega

/-- An event with this number may stand on the page. -/
def admits (p : Page) (id : Int) : Bool :=
  match p.before with
  | none => true
  | some bound => id < bound

end Page

/-! ## Calls -/

/-- Whether a store works, in words, and what is known about it. -/
structure Health where
  healthy : Bool
  message : String
  metadata : List (String × String)
  deriving DecidableEq, Repr

namespace Store

/-- What a store can be asked. -/
inductive Call
  | readConfig
  | writeConfig (config : Config)
  | readCredentials
  | writeCredentials (record : SealedCredentials)
  | append (draft : Event.Draft)
  | list (page : Page)
  | deleteBefore (cutoff : Instant)
  | mutedUntil
  | writeSilence (deadline : Option Instant)
  | health
  | close

/-- The reply to a call. An append is answered by the event's number, a cleanup
by the number of events deleted. -/
abbrev Call.Reply : Call → Type
  | .readConfig => Config
  | .writeConfig _ => Unit
  | .readCredentials => SealedCredentials
  | .writeCredentials _ => Unit
  | .append _ => Int
  | .list _ => List Event
  | .deleteBefore _ => Nat
  | .mutedUntil => Option Instant
  | .writeSilence _ => Unit
  | .health => Health
  | .close => Unit

/-- The answer to a call: its reply, or a failure. -/
abbrev Call.Answer (c : Call) : Type := Except StoreError c.Reply

/-- The kinds of calls. -/
inductive Method
  | readConfig
  | writeConfig
  | readCredentials
  | writeCredentials
  | append
  | list
  | deleteBefore
  | mutedUntil
  | writeSilence
  | health
  | close
  deriving DecidableEq, Repr

/-- The kind of a call. -/
def Call.method : Call → Method
  | .readConfig => .readConfig
  | .writeConfig _ => .writeConfig
  | .readCredentials => .readCredentials
  | .writeCredentials _ => .writeCredentials
  | .append _ => .append
  | .list _ => .list
  | .deleteBefore _ => .deleteBefore
  | .mutedUntil => .mutedUntil
  | .writeSilence _ => .writeSilence
  | .health => .health
  | .close => .close

end Store

end CpuAlert
