import CpuAlert.Environment
import CpuAlert.Service.Observe
import CpuAlert.Settings
import CpuAlert.Wire.History
import CpuAlert.World

/-!
# The command line

Snapshots are read from standard input, one JSON value a line, and for each the
notifications and the status are written. A file of settings may be named with
`--file`; the key and the name of the host come from the environment. The
history lasts as long as the program.
-/

namespace CpuAlert

open Json

/-- The file of settings that is named by the arguments, if they are well
formed. -/
def settingsFile? : List String → Option (Option String)
  | [] => some none
  | ["--file", path] => some (some path)
  | ["-f", path] => some (some path)
  | _ => none

/-- What is written for a snapshot. -/
def report (triggers : List Trigger) (status : Status) : Value :=
  .object
    [("triggers", .array (triggers.map fun t => t.level.toJson)), ("status", status.toJson)]

/-- The world of a service that has nothing stored yet. -/
def emptyWorld : World where
  store := .memory {}
  wall := Time.Instant.epoch
  nonces := fun _ => .error "no random source"

/-- A snapshot at its own time. -/
def World.observe (w : World) (s : Service) (snapshot : Snapshot) : Value × World :=
  let program := do
    let triggers ← s.observe snapshot
    return report triggers (← Service.status false)
  program.run { w with wall := snapshot.time }

/-- Snapshots line by line until the input ends. -/
partial def observeLines (s : Service) (input : IO.FS.Stream) (w : World) : IO Unit := do
  let line ← input.getLine
  if line.isEmpty then return
  match decodeText Wire.snapshot line with
  | .error _ =>
    IO.eprintln "not a snapshot"
    observeLines s input w
  | .ok snapshot =>
    let (v, w) := w.observe s snapshot
    IO.println v.write
    observeLines s input w

/-- The bytes of a file, if it can be read. -/
def fileBytes (path : String) : IO (Option (List UInt8)) := do
  try return some (← IO.FS.readBinFile path).data.toList
  catch _ => return none

/-- The settings of a file, or the default ones. -/
def loadSettings (path : Option String) : IO (Except SettingsError Settings) := do
  match path with
  | none => return .ok {}
  | some path => return Settings.ofFile (← fileBytes path)

/-- The variables of the environment. -/
def environment : IO Environment := do
  let bindings ← Environment.names.filterMapM fun name =>
    return (← IO.getEnv name).map fun value => (name, value)
  return .ofList bindings

/-- Observe snapshots with these settings. -/
def observe (settings : Settings) : IO UInt32 := do
  let env ← environment
  let started := emptyWorld.start
    { key := env.key
      hostname := env.hostname none
      retentionDays := settings.retentionDays
      cleanupInterval := settings.cleanupInterval * 1000 }
  match started with
  | (.error e, _) =>
    IO.eprintln e.message
    return 1
  | (.ok s, w) =>
    observeLines s (← IO.getStdin) w
    return 0

end CpuAlert

/-- Run the command line. -/
def main (args : List String) : IO UInt32 := do
  match CpuAlert.settingsFile? args with
  | none =>
    IO.eprintln "usage: cpualert [--file FILE]"
    return 2
  | some path =>
    match ← CpuAlert.loadSettings path with
    | .error e =>
      IO.eprintln e.message
      return 1
    | .ok settings => CpuAlert.observe settings
