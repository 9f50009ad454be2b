import CpuAlert.Delivery
import CpuAlert.ServiceError
import CpuAlert.View

/-!
# The alert service

A service is started on a store: it loads the configuration, the credentials and
the silence, and opens the credentials with its key. Without a usable key it
runs all the same, but cannot store secrets.

## Main definitions

* `Service` — what stays the same while a service runs
* `Service.Options` — how a service is started
* `Service.start` — the program that starts it
* `Service.status`, `Service.view`, `Service.history` and others — its reading
  operations
-/

namespace CpuAlert

open Program (perform)
open Time (Instant)

/-- What stays the same while a service runs. The interval of cleanups is in
milliseconds; a fault of the key is why secrets cannot be stored. -/
structure Service where
  hostname : String
  retentionDays : Nat
  cleanupInterval : Nat
  cipher : Cipher
  keyFault : Option SecretError
  channels : List Channel

namespace Service

/-- The days an event is kept when nothing else is configured. -/
def standardRetention : Nat := 30

/-- The longest time an event is kept, in days. -/
def maxRetention : Nat := 36500

/-- The time between two cleanups when nothing else is configured, in
milliseconds. -/
def standardCleanupInterval : Nat := 3600000

/-- The name of a host that has none. -/
def unknownHost : String := "unknown-host"

/-- How a service is started. -/
structure Options where
  key : Option String := none
  hostname : String := unknownHost
  retentionDays : Nat := standardRetention
  cleanupInterval : Nat := standardCleanupInterval
  channels : List Channel := []

/-- The days an event is kept: zero means the default, and there is a longest
time. -/
def retention (days : Nat) : Nat := if days = 0 then standardRetention else min days maxRetention

/-- The service of these options, before it knows its store. -/
def ofOptions (o : Options) : Service :=
  let cipher := Cipher.ofKey (o.key.getD "")
  { hostname := o.hostname
    retentionDays := retention o.retentionDays
    cleanupInterval := o.cleanupInterval
    cipher := cipher.toOption.getD .disabled
    keyFault := match cipher with
      | .ok _ => none
      | .error e => some e
    channels := o.channels }

/-- Secrets can be stored. -/
def secretsWritable (s : Service) : Bool := s.keyFault.isNone

/-- The credentials in the clear. A secret that cannot be decrypted is blank. -/
def reveal (s : Service) (record : SealedCredentials) : Credentials where
  telegramToken := s.cipher.reveal record.telegramToken
  gmailAddress := Text.trim record.gmailAddress
  gmailPassword := s.cipher.reveal record.gmailPassword

/-- The live state of a service that has just been started. -/
def initial (s : Service) (config : Config) (record : SealedCredentials)
    (mutedUntil : Option Instant) (now : Instant) : Live where
  config := config
  credentials := s.reveal record
  record := record
  status := .start mutedUntil now

/-- A reply of the store, or why there is none. -/
def persisted {c : Store.Call} (answer : c.Answer) : Except ServiceError c.Reply :=
  answer.mapError .persistence

/-- Load what is stored. -/
def start (s : Service) : Program (Except ServiceError Live) := do
  match persisted (← perform (.ask .readConfig)) with
  | .error e => return .error e
  | .ok config =>
    match persisted (← perform (.ask .readCredentials)) with
    | .error e => return .error e
    | .ok record =>
      match persisted (← perform (.ask .mutedUntil)) with
      | .error e => return .error e
      | .ok mutedUntil =>
        return .ok (s.initial config record mutedUntil (← perform .clock))

/-! ## Reading -/

/-- The status as shown to a caller. -/
def status (readOnly : Bool) : Program Status := do
  let live ← perform .look
  return live.status.seenAt (← perform .clock) readOnly

/-- The configuration as shown to a caller. -/
def view (s : Service) (readOnly : Bool) : Program View := do
  let live ← perform .look
  return .of live.config live.credentials live.record s.secretsWritable readOnly

/-- A page of the history. -/
def history (limit : Int) (before : Option Int) : Program (Except ServiceError (List Event)) :=
  return persisted (← perform (.ask (.list (.of limit before))))

/-- Whether alerting is switched on. -/
def isEnabled : Program Bool := return (← perform .look).config.enabled

/-- Whether the store works. -/
def health : Program (Except ServiceError Health) :=
  return persisted (← perform (.ask .health))

end Service

end CpuAlert
