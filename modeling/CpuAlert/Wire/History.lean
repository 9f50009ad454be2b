import CpuAlert.Credentials
import CpuAlert.Event
import CpuAlert.Json.Decode
import CpuAlert.Snapshot
import CpuAlert.Status
import CpuAlert.Time.Rfc3339

/-!
# Records of the history as JSON

Levels, instants, channel results, events, snapshots, statuses and credential
records. A missing error message and the missing times of a status have no
member, except the time of the last evaluation, which is `null`.

## Main definitions

* `Wire.level`, `Wire.instant`, `Wire.channelOutcome`, `Wire.event`,
  `Wire.snapshot`, `Wire.status`, `Wire.sealedCredentials` — the decoders
* the corresponding functions `toJson` — the written forms
-/

namespace CpuAlert

open Json Time

/-! ## Writing -/

/-- A level by its name. -/
def Level.toJson (l : Level) : Value := .text l.name

/-- An instant by its RFC 3339 form. -/
def instantToJson (i : Instant) : Value := .text (Rfc3339.write .fewest .letter i)

/-- A member that is left out if there is no value. -/
def optionalMember {α : Type} (name : String) (f : α → Value) : Option α → List (String × Value)
  | none => []
  | some a => [(name, f a)]

/-- A channel result as an object. -/
def ChannelOutcome.toJson (r : ChannelOutcome) : Value :=
  .object
    ([("channel", .text r.channel), ("success", .bool r.success), ("attempts", .int r.attempts)]
    ++ optionalMember "error_message" .text r.errorMessage)

/-- An event as an object. -/
def Event.toJson (e : Event) : Value :=
  .object
    [("id", .int e.id),
     ("level", e.level.toJson),
     ("message", .text e.message),
     ("cpu_percent", .float e.cpuPercent),
     ("channels", .array (e.channels.map ChannelOutcome.toJson)),
     ("created_at", instantToJson e.createdAt)]

/-- A snapshot as an object. -/
def Snapshot.toJson (s : Snapshot) : Value :=
  .object [("timestamp", instantToJson s.time), ("cpu_total_percent", .float s.cpuPercent)]

/-- A status as an object. -/
def Status.toJson (s : Status) : Value :=
  .object
    ([("current_state", s.currentState.toJson),
      ("last_cpu_percent", .float s.lastCpuPercent),
      ("last_evaluated_at", .ofOption instantToJson s.lastEvaluatedAt)]
      ++ optionalMember "muted_until" instantToJson s.mutedUntil
      ++ [("silenced", .bool s.silenced)]
      ++ optionalMember "last_warning_at" instantToJson s.lastWarningAt
      ++ optionalMember "last_critical_at" instantToJson s.lastCriticalAt
      ++ optionalMember "last_recovery_at" instantToJson s.lastRecoveryAt
      ++ [("read_only", .bool s.readOnly)])

/-- Stored credentials as an object. -/
def SealedCredentials.toJson (r : SealedCredentials) : Value :=
  .object
    [("telegram_token_cipher", .text r.telegramToken),
     ("gmail_address", .text r.gmailAddress),
     ("gmail_password_cipher", .text r.gmailPassword)]

/-! ## Reading -/

namespace Wire

open Decoder

/-- A level. -/
def level : Decoder Level := variant Level.ofName?

/-- An instant. -/
def instant : Decoder Instant := ofText Rfc3339.read?

/-- The fields of a channel result. -/
def channelOutcomeFields : List (Json.Field ChannelOutcome) :=
  [.of "channel" .required text fun a r => { r with channel := a },
   .of "success" .required bool fun a r => { r with success := a },
   .of "attempts" .required (natural 32) fun a r => { r with attempts := a },
   .of "error_message" .defaulted (optional text) fun a r => { r with errorMessage := a }]

/-- A channel result. -/
def channelOutcome : Decoder ChannelOutcome := record channelOutcomeFields default

/-- The fields of an event. -/
def eventFields : List (Json.Field Event) :=
  [.of "id" .required int64 fun a e => { e with id := a },
   .of "level" .required level fun a e => { e with level := a },
   .of "message" .required text fun a e => { e with message := a },
   .of "cpu_percent" .required float fun a e => { e with cpuPercent := a },
   .of "channels" .required (list channelOutcome) fun a e => { e with channels := a },
   .of "created_at" .required instant fun a e => { e with createdAt := a }]

/-- An event. -/
def event : Decoder Event := record eventFields default

/-- The fields of a snapshot. -/
def snapshotFields : List (Json.Field Snapshot) :=
  [.of "timestamp" .required instant fun a s => { s with time := a },
   .of "cpu_total_percent" .required float fun a s => { s with cpuPercent := a }]

/-- A snapshot. -/
def snapshot : Decoder Snapshot := record snapshotFields default

/-- The fields of a status. -/
def statusFields : List (Json.Field Status) :=
  [.of "current_state" .required level fun a s => { s with currentState := a },
   .of "last_cpu_percent" .required float fun a s => { s with lastCpuPercent := a },
   .of "last_evaluated_at" .optional (optional instant) fun a s => { s with lastEvaluatedAt := a },
   .of "muted_until" .optional (optional instant) fun a s => { s with mutedUntil := a },
   .of "silenced" .required bool fun a s => { s with silenced := a },
   .of "last_warning_at" .optional (optional instant) fun a s => { s with lastWarningAt := a },
   .of "last_critical_at" .optional (optional instant) fun a s => { s with lastCriticalAt := a },
   .of "last_recovery_at" .optional (optional instant) fun a s => { s with lastRecoveryAt := a },
   .of "read_only" .required bool fun a s => { s with readOnly := a }]

/-- A status. -/
def status : Decoder Status := record statusFields {}

/-- The fields of stored credentials. -/
def sealedCredentialsFields : List (Json.Field SealedCredentials) :=
  [.of "telegram_token_cipher" .required text fun a r => { r with telegramToken := a },
   .of "gmail_address" .required text fun a r => { r with gmailAddress := a },
   .of "gmail_password_cipher" .required text fun a r => { r with gmailPassword := a }]

/-- Stored credentials. -/
def sealedCredentials : Decoder SealedCredentials := record sealedCredentialsFields {}

end Wire

end CpuAlert
