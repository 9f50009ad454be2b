import CpuAlert.Store

/-!
# The store in memory

Nothing survives the process. Events stand in the order of their numbers, and a
number is never given twice.

## Main definitions

* `Memory` — what is kept
* `Memory.perform` — a call, which never fails
-/

namespace CpuAlert

open Time (Instant)

/-- What is kept. Events stand in increasing order of their numbers, and
`lastId` is the last number given. -/
structure Memory where
  config : Config := {}
  credentials : SealedCredentials := {}
  mutedUntil : Option Instant := none
  events : List Event := []
  lastId : Int := 0

namespace Memory

/-- Nothing has been stored but a configuration. -/
def ofConfig (config : Config) : Memory := { config }

/-- Append an event under the next number. -/
def append (m : Memory) (draft : Event.Draft) : Int × Memory :=
  let id := m.lastId + 1
  (id, { m with events := m.events ++ [draft.numbered id], lastId := id })

/-- The events of a page, newest first. -/
def page (m : Memory) (p : Page) : List Event :=
  (m.events.reverse.filter fun e => p.admits e.id).take p.limit

/-- Delete the events from before an instant. -/
def cleanup (m : Memory) (cutoff : Instant) : Nat × Memory :=
  let kept := m.events.filter fun e => cutoff ≤ e.createdAt
  (m.events.length - kept.length, { m with events := kept })

/-- The store always works. -/
def health (m : Memory) : Health where
  healthy := true
  message := "in-memory alert store operational"
  metadata := [("backend", "memory"), ("events", toString m.events.length)]

/-- The reply to a call, and what is kept afterwards. -/
def perform (m : Memory) : (c : Store.Call) → c.Reply × Memory
  | .readConfig => (m.config, m)
  | .writeConfig config => ((), { m with config })
  | .readCredentials => (m.credentials, m)
  | .writeCredentials record => ((), { m with credentials := record })
  | .append draft => m.append draft
  | .list p => (m.page p, m)
  | .deleteBefore cutoff => m.cleanup cutoff
  | .mutedUntil => (m.mutedUntil, m)
  | .writeSilence deadline => ((), { m with mutedUntil := deadline })
  | .health => (m.health, m)
  | .close => ((), m)

end Memory

end CpuAlert
