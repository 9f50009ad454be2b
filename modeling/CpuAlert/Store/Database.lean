import CpuAlert.Store.Cell
import CpuAlert.Text.Blank
import CpuAlert.Wire.Config
import CpuAlert.Wire.History

/-!
# The store in a database file

Three tables of at most one row and the table of events. Lists are columns of
JSON text, instants whole milliseconds. A list column that cannot be read counts
as empty, an unknown level as none, and milliseconds outside the calendar as the
present, so damage stays where it is. A column of numbers that holds something
else cannot be read.

Saving changes the one row of a table and does nothing if that row is missing;
loading then gives the defaults. What is not a number is stored as nothing, and
no column of numbers may be empty. Zero has no sign. The number of an event is
one more than the greatest in the table or ever given.

## Main definitions

* `Database` — the tables
* `Database.perform` — a call
-/

namespace CpuAlert

open Time (Instant)
open Json

namespace Database

/-- The row of the settings. Columns of texts hold nothing else. -/
structure Settings where
  enabled : Cell := .int 1
  warningPercent : Cell := .real 75
  warningWindow : Cell := .int 300
  criticalPercent : Cell := .real 85
  criticalWindow : Cell := .int 600
  recoveryPercent : Cell := .real 70
  recoveryWindow : Cell := .int 300
  cooldown : Cell := .int 1800
  telegramEnabled : Cell := .int 1
  emailEnabled : Cell := .int 1
  recipients : String := "[]"
  chatIds : String := "[]"
  retryDelays : String := "[1,5,15]"

/-- The row of an event. -/
structure EventRow where
  id : Int
  level : String
  message : String
  cpuPercent : Cell
  channels : String
  createdAt : Cell

end Database

/-- The tables. Events stand in increasing order of their numbers, and `lastId`
is the greatest number ever given by the table itself. A file that has been
closed answers no call. -/
structure Database where
  path : String
  isOpen : Bool := true
  settings : Option Database.Settings := some {}
  credentials : Option SealedCredentials := some {}
  silence : Option Cell := some .null
  events : List Database.EventRow := []
  lastId : Int := 0

namespace Database

/-! ## Columns -/

/-- A list column read with a decoder. A blank text or one of another shape is
an empty list. -/
def listColumn {α : Type} (decode : Decoder α) (raw : String) : List α :=
  if Text.trim raw = "" then []
  else
    match decodeText (Decoder.list decode) raw with
    | .ok items => items
    | .error _ => []

/-- Milliseconds as an instant; outside the calendar, the present. -/
def instantColumn (now : Instant) (ms : Int) : Instant := (Instant.ofMillis? ms).getD now

/-! ## Rows -/

/-- The configuration of a row. There is always a pause between attempts. -/
def Settings.config (s : Settings) : Except StoreError Config := do
  let delays := listColumn (Decoder.natural 64) s.retryDelays
  return {
    enabled := ← s.enabled.readFlag "enabled"
    warningPercent := ← s.warningPercent.readReal "warning_percent"
    warningWindow := ← s.warningWindow.readInt "warning_for_sec"
    criticalPercent := ← s.criticalPercent.readReal "critical_percent"
    criticalWindow := ← s.criticalWindow.readInt "critical_for_sec"
    recoveryPercent := ← s.recoveryPercent.readReal "recovery_percent"
    recoveryWindow := ← s.recoveryWindow.readInt "recovery_for_sec"
    cooldown := ← s.cooldown.readInt "cooldown_sec"
    telegramEnabled := ← s.telegramEnabled.readFlag "telegram_enabled"
    emailEnabled := ← s.emailEnabled.readFlag "email_enabled"
    recipients := listColumn Decoder.text s.recipients
    chatIds := listColumn Decoder.text s.chatIds
    retryDelays := if delays.isEmpty then standardDelays else delays }

/-- The row of a configuration. -/
def Settings.ofConfig (c : Config) : Settings where
  enabled := .ofBool c.enabled
  warningPercent := .ofFloat c.warningPercent
  warningWindow := .int c.warningWindow
  criticalPercent := .ofFloat c.criticalPercent
  criticalWindow := .int c.criticalWindow
  recoveryPercent := .ofFloat c.recoveryPercent
  recoveryWindow := .int c.recoveryWindow
  cooldown := .int c.cooldown
  telegramEnabled := .ofBool c.telegramEnabled
  emailEnabled := .ofBool c.emailEnabled
  recipients := (textsToJson c.recipients).write
  chatIds := (textsToJson c.chatIds).write
  retryDelays := (numbersToJson c.retryDelays).write

/-- The event of a row. -/
def EventRow.event (now : Instant) (r : EventRow) : Except StoreError Event := do
  return {
    id := r.id
    level := (Level.ofName? r.level).getD .none
    message := r.message
    cpuPercent := ← r.cpuPercent.readReal "cpu_percent"
    channels := listColumn Wire.channelOutcome r.channels
    createdAt := instantColumn now (← r.createdAt.readInt "created_at") }

/-- The row of an event. -/
def EventRow.ofDraft (id : Int) (d : Event.Draft) : EventRow where
  id := id
  level := d.level.name
  message := d.message
  cpuPercent := .ofFloat d.cpuPercent
  channels := (Value.array (d.channels.map ChannelOutcome.toJson)).write
  createdAt := .int d.createdAt.toMillis

/-- The row stands before a time. A text is later than every number. -/
def EventRow.isBefore (r : EventRow) (ms : Int) : Bool :=
  match r.createdAt with
  | .null => false
  | .int n => n < ms
  | .real x => x < Float.ofInt ms
  | .text _ => false

/-! ## Failures -/

/-- A file that has been closed. -/
def closedReason : String := "attempted to acquire a connection on a closed pool"

/-- A refusal with its code. -/
def refusal (code : Nat) (reason : String) : StoreError :=
  .queryFailed s!"error returned from database: (code: {code}) {reason}"

/-- A column that may not be empty. -/
def emptyColumn (column : String) : StoreError :=
  refusal 1299 ("NOT NULL constraint failed: " ++ column)

/-- The greatest number of an event has been given. -/
def exhausted : StoreError := refusal 13 "database or disk is full"

/-- A file in a directory that does not exist. -/
def missingDirectory : StoreError :=
  .connectionFailed "error returned from database: (code: 14) unable to open database file"

/-- The first column that would be empty, among columns with their numbers. -/
def emptyColumn? (columns : List (String × Float)) : Option StoreError :=
  (columns.find? fun c => c.2.isNaN).map fun c => emptyColumn c.1

/-! ## Calls -/

/-- Store a configuration in the row of the settings. -/
def writeConfig (d : Database) (c : Config) : Except StoreError Unit × Database :=
  match d.settings with
  -- there is no row to change, and none is made
  | none => (.ok (), d)
  | some _ =>
    match emptyColumn?
      [("alert_settings.warning_percent", c.warningPercent),
       ("alert_settings.critical_percent", c.criticalPercent),
       ("alert_settings.recovery_percent", c.recoveryPercent)] with
    | some e => (.error e, d)
    | none => (.ok (), { d with settings := some (.ofConfig c) })

/-- The number of the next event, while there are numbers left. -/
def nextId? (d : Database) : Option Int :=
  let last := (d.events.map (·.id)).foldl max d.lastId
  if last < 0x7FFFFFFFFFFFFFFF then some (last + 1) else none

/-- Add a row under the next number. -/
def insert (d : Database) (cpuPercent : Float) (row : Int → EventRow) :
    Except StoreError Int × Database :=
  match d.nextId?, emptyColumn? [("alert_events.cpu_percent", cpuPercent)] with
  | none, _ => (.error exhausted, d)
  | some _, some e => (.error e, d)
  | some id, none => (.ok id, { d with events := d.events ++ [row id], lastId := id })

/-- Append an event under the next number. -/
def append (d : Database) (draft : Event.Draft) : Except StoreError Int × Database :=
  d.insert draft.cpuPercent fun id => .ofDraft id draft

/-- The events of a page, newest first. -/
def page (d : Database) (now : Instant) (p : Page) : Except StoreError (List Event) :=
  ((d.events.reverse.filter fun r => p.admits r.id).take p.limit).mapM (EventRow.event now)

/-- Delete the events from before an instant. -/
def cleanup (d : Database) (cutoff : Instant) : Nat × Database :=
  let kept := d.events.filter fun r => !r.isBefore cutoff.toMillis
  (d.events.length - kept.length, { d with events := kept })

/-- The configuration in the row of the settings; without the row, the
defaults. -/
def readConfig (d : Database) : Except StoreError Config :=
  match d.settings with
  | none => .ok {}
  | some s => s.config

/-- The end of the silence. -/
def mutedUntil (d : Database) (now : Instant) : Except StoreError (Option Instant) :=
  match d.silence with
  | none => .ok none
  | some c => c.readOptionalInt.map fun ms => ms.map (instantColumn now)

/-- Whether the file can be read. -/
def health (d : Database) : Health :=
  if d.isOpen then
    { healthy := true
      message := "SQLite alert store operational"
      metadata := [("backend", "sqlite"), ("db_path", d.path)] }
  else
    { healthy := false
      message := "health check failed: " ++ closedReason
      metadata := [] }

/-- A call to an open file. -/
def performOpen (d : Database) (now : Instant) : (c : Store.Call) → c.Answer × Database
  | .readConfig => (d.readConfig, d)
  | .writeConfig c => d.writeConfig c
  | .readCredentials => (.ok (d.credentials.getD {}), d)
  | .writeCredentials r => (.ok (), { d with credentials := d.credentials.map fun _ => r })
  | .append draft => d.append draft
  | .list p => (d.page now p, d)
  | .deleteBefore cutoff =>
    let (n, d) := d.cleanup cutoff
    (.ok n, d)
  | .mutedUntil => (d.mutedUntil now, d)
  | .writeSilence deadline =>
    let cell := (deadline.map fun t => Cell.int t.toMillis).getD .null
    (.ok (), { d with silence := d.silence.map fun _ => cell })
  | .health => (.ok d.health, d)
  | .close => (.ok (), { d with isOpen := false })

/-- The answer to a call, and the tables afterwards. A closed file can still be
asked for its health and closed again. -/
def perform (d : Database) (now : Instant) (c : Store.Call) : c.Answer × Database :=
  if d.isOpen then d.performOpen now c
  else
    match c with
    | .health => (.ok d.health, d)
    | .close => (.ok (), d)
    | _ => (.error (.queryFailed closedReason), d)

/-- Open the file again. Missing rows are not put back. -/
def reopen (d : Database) : Database := { d with isOpen := true }

end Database

end CpuAlert
