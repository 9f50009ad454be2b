import CpuAlert.Json.Decode
import CpuAlert.Service
import CpuAlert.Settings.Address
import CpuAlert.Text.Utf8

/-!
# Settings of the agent

A file of settings says where the store is kept, how often the processor is
sampled and the history cleaned up, how long events are kept, and where requests
are answered. Everything has a default. The key and the tokens are no settings;
they come from the environment.

## Main definitions

* `Settings` — the settings
* `Settings.ofFile` — the settings in a file
-/

namespace CpuAlert

open Json

/-- Where the store is kept. -/
inductive StoreSettings
  | memory
  | database (path : String)
  deriving DecidableEq, Repr

/-- The path of a database when none is given. -/
def StoreSettings.defaultPath : String := "./hostwatch.db"

/-- Where requests are answered, and whether other sites may read responses. -/
structure WebSettings where
  address : Address := ⟨.four 127 0 0 1, 8080⟩
  crossOrigin : Bool := true
  deriving DecidableEq, Repr

/-- The settings of the agent. Times are in seconds. -/
structure Settings where
  store : StoreSettings := .database StoreSettings.defaultPath
  sampleSeconds : Nat := 5
  cleanupSeconds : Nat := 3600
  retentionDays : Nat := Service.standardRetention
  api : WebSettings := {}
  deriving DecidableEq, Repr

/-! ## Decoding -/

namespace Wire

open Decoder

/-- How many containers a member of the store's settings may have inside each
other: the settings and those of the store take two of the 127 levels. -/
def storeDepth : Nat := 125

/-- The kinds of stores. -/
inductive StoreKind
  | memory
  | database

/-- The kind of a store by its name. -/
def storeKind : Decoder StoreKind := ofText fun
  | "none" => some .memory
  | "sqlite" => some .database
  | _ => none

/-- The path of a database. -/
def pathFields : List (Json.Field String) := [.of "path" .defaulted text fun a _ => a]

/-- The settings of a store of some kind, from what else was given. -/
def storeOfKind (others : Doc) : StoreKind → Except Fault StoreSettings
  | .memory =>
    match others with
    -- named members of a store in memory are skipped, places are not
    | .array (_ :: _) _ => .error .mismatched
    | _ => .ok .memory
  | .database => (record pathFields StoreSettings.defaultPath others).map .database

/-- The members of the settings of a store: its kind, and the others, which are
taken whole and kept until the kind is known. -/
def storeMembers (kind : Option StoreKind) (kept : List (Key × Doc)) :
    List (Key × Doc) → Except Fault (Option StoreKind × List (Key × Doc))
  | [] => .ok (kind, kept.reverse)
  | (k, d) :: rest => do
    -- the kind may come after what belongs to it
    if (← k.name) = "backend" then
      if kind.isSome then throw .mismatched
      storeMembers (some (← storeKind d)) kept rest
    else
      d.whole storeDepth
      storeMembers kind ((k, d) :: kept) rest

/-- The settings of a store. Of an array the first item is the kind. -/
def storeSettings : Decoder StoreSettings
  | .object ms tail => do
    let (kind, kept) ← storeMembers none [] ms
    endOf tail
    match kind with
    | none => throw .mismatched
    | some kind => storeOfKind (.object kept none) kind
  | .array (d :: ds) tail => do
    let kind ← storeKind d
    Doc.wholeItems storeDepth ds
    endOf tail
    storeOfKind (.array ds none) kind
  | .array [] tail => do
    endOf tail
    throw .mismatched
  | d => .error d.mismatch

/-- The settings of the part that answers requests. -/
def webSettings : Decoder WebSettings :=
  record
    [.of "bind_addr" .defaulted (ofText Address.read?) fun a s => { s with address := a },
     .of "enable_cors" .defaulted bool fun a s => { s with crossOrigin := a }] {}

/-- The settings of the agent. -/
def settings : Decoder Settings :=
  record
    [.of "storage" .defaulted storeSettings fun a s => { s with store := a },
     .of "sample_interval_secs" .defaulted (natural 64) fun a s => { s with sampleSeconds := a },
     .of "cleanup_interval_secs" .defaulted (natural 64) fun a s => { s with cleanupSeconds := a },
     .of "history_retention_days" .defaulted (natural 32) fun a s => { s with retentionDays := a },
     .of "api" .defaulted webSettings fun a s => { s with api := a }] {}

end Wire

/-! ## Files -/

/-- Why settings cannot be had from a file: there is no such file, or it is no
text; the text is no settings; or an event would be kept too long. -/
inductive SettingsError
  | unreadable
  | invalid (fault : Fault)
  | retentionTooLong (days : Nat)
  deriving DecidableEq

/-- The wording of a failure. -/
def SettingsError.message : SettingsError → String
  | unreadable => "the configuration file cannot be read"
  | invalid .malformed => "Invalid configuration file provided: not JSON"
  | invalid .truncated => "Invalid configuration file provided: it ends too early"
  | invalid .mismatched => "Invalid configuration file provided: wrong type or missing field"
  | retentionTooLong days =>
    s!"history_retention_days must be at most {Service.maxRetention}, got {days}"

namespace Settings

/-- The time between two samples, in seconds. -/
def sampleInterval (s : Settings) : Nat := max s.sampleSeconds 1

/-- The time between two cleanups, in seconds. -/
def cleanupInterval (s : Settings) : Nat := max s.cleanupSeconds 1

/-- The settings in a text. -/
def ofText (text : String) : Except SettingsError Settings :=
  match decodeText Wire.settings text with
  | .error f => .error (.invalid f)
  | .ok s =>
    if Service.maxRetention < s.retentionDays then .error (.retentionTooLong s.retentionDays)
    else .ok s

/-- The settings in a file with these bytes, if there is one. -/
def ofFile (bytes : Option (List UInt8)) : Except SettingsError Settings :=
  match bytes.bind Text.ofBytes? with
  | none => .error .unreadable
  | some text => ofText text

end Settings

end CpuAlert
