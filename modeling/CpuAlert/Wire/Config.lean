import CpuAlert.Config.Update
import CpuAlert.Json.Decode
import CpuAlert.View

/-!
# Configurations as JSON

A configuration and its update are records. A view is flat: the members of the
configuration stand beside its own, so it has no form as an array, and its
foreign members have to be kept until the whole object has been read.

## Main definitions

* `Wire.config`, `Wire.update`, `Wire.view` — the decoders
* `Config.toJson`, `View.toJson` — the written forms
-/

namespace CpuAlert

open Json

/-! ## Writing -/

/-- A list of texts. -/
def textsToJson (items : List String) : Value := .array (items.map .text)

/-- A list of natural numbers. -/
def numbersToJson (items : List Nat) : Value := .array (items.map fun (n : Nat) => .int n)

/-- The members of a configuration. -/
def Config.members (c : Config) : List (String × Value) :=
  [("enabled", .bool c.enabled),
   ("warning_percent", .float c.warningPercent),
   ("warning_for_sec", .int c.warningWindow),
   ("critical_percent", .float c.criticalPercent),
   ("critical_for_sec", .int c.criticalWindow),
   ("recovery_percent", .float c.recoveryPercent),
   ("recovery_for_sec", .int c.recoveryWindow),
   ("cooldown_sec", .int c.cooldown),
   ("telegram_enabled", .bool c.telegramEnabled),
   ("email_enabled", .bool c.emailEnabled),
   ("recipient_emails", textsToJson c.recipients),
   ("telegram_chat_ids", textsToJson c.chatIds),
   ("retry_delays_sec", numbersToJson c.retryDelays)]

/-- A configuration as an object. -/
def Config.toJson (c : Config) : Value := .object c.members

/-- A view as one flat object. -/
def View.toJson (v : View) : Value :=
  .object (v.config.members ++
    [("has_telegram_token", .bool v.hasTelegramToken),
     ("telegram_token_mask", .text v.telegramTokenMask),
     ("has_gmail_password", .bool v.hasGmailPassword),
     ("gmail_password_mask", .text v.gmailPasswordMask),
     ("gmail_address", .text v.gmailAddress),
     ("secrets_writable", .bool v.secretsWritable),
     ("read_only", .bool v.readOnly)])

/-! ## Reading -/

namespace Wire

open Decoder

/-- The fields of a configuration. -/
def configFields : List (Json.Field Config) :=
  [.of "enabled" .required bool fun a c => { c with enabled := a },
   .of "warning_percent" .required float fun a c => { c with warningPercent := a },
   .of "warning_for_sec" .required int64 fun a c => { c with warningWindow := a },
   .of "critical_percent" .required float fun a c => { c with criticalPercent := a },
   .of "critical_for_sec" .required int64 fun a c => { c with criticalWindow := a },
   .of "recovery_percent" .required float fun a c => { c with recoveryPercent := a },
   .of "recovery_for_sec" .required int64 fun a c => { c with recoveryWindow := a },
   .of "cooldown_sec" .required int64 fun a c => { c with cooldown := a },
   .of "telegram_enabled" .required bool fun a c => { c with telegramEnabled := a },
   .of "email_enabled" .required bool fun a c => { c with emailEnabled := a },
   .of "recipient_emails" .defaulted (list text) fun a c => { c with recipients := a },
   .of "telegram_chat_ids" .defaulted (list text) fun a c => { c with chatIds := a },
   .of "retry_delays_sec" .defaulted (list (natural 64)) fun a c => { c with retryDelays := a }]

/-- A configuration. -/
def config : Decoder Config := record configFields {}

/-- The fields of an update. All of them may be missing. -/
def updateFields : List (Json.Field Config.Update) :=
  [.of "enabled" .defaulted (optional bool) fun a u => { u with enabled := a },
   .of "warning_percent" .defaulted (optional float) fun a u => { u with warningPercent := a },
   .of "warning_for_sec" .defaulted (optional int64) fun a u => { u with warningWindow := a },
   .of "critical_percent" .defaulted (optional float) fun a u => { u with criticalPercent := a },
   .of "critical_for_sec" .defaulted (optional int64) fun a u => { u with criticalWindow := a },
   .of "recovery_percent" .defaulted (optional float) fun a u => { u with recoveryPercent := a },
   .of "recovery_for_sec" .defaulted (optional int64) fun a u => { u with recoveryWindow := a },
   .of "cooldown_sec" .defaulted (optional int64) fun a u => { u with cooldown := a },
   .of "telegram_enabled" .defaulted (optional bool) fun a u => { u with telegramEnabled := a },
   .of "email_enabled" .defaulted (optional bool) fun a u => { u with emailEnabled := a },
   .of "recipient_emails" .defaulted (optional (list text)) fun a u => { u with recipients := a },
   .of "telegram_chat_ids" .defaulted (optional (list text)) fun a u => { u with chatIds := a },
   .of "retry_delays_sec" .defaulted (optional (list int64)) fun a u =>
    { u with retryDelays := a },
   .of "telegram_bot_token" .defaulted (optional text) fun a u => { u with telegramToken := a },
   .of "clear_telegram_bot_token" .defaulted bool fun a u => { u with clearTelegramToken := a },
   .of "gmail_address" .defaulted (optional text) fun a u => { u with gmailAddress := a },
   .of "gmail_app_password" .defaulted (optional text) fun a u => { u with gmailPassword := a },
   .of "clear_gmail_app_password" .defaulted bool fun a u => { u with clearGmailPassword := a }]

/-- An update. -/
def update : Decoder Config.Update := record updateFields {}

/-- The fields of a view that are not the configuration's. -/
def viewFields : List (Json.Field View) :=
  [.of "has_telegram_token" .required bool fun a v => { v with hasTelegramToken := a },
   .of "telegram_token_mask" .required text fun a v => { v with telegramTokenMask := a },
   .of "has_gmail_password" .required bool fun a v => { v with hasGmailPassword := a },
   .of "gmail_password_mask" .required text fun a v => { v with gmailPasswordMask := a },
   .of "gmail_address" .required text fun a v => { v with gmailAddress := a },
   .of "secrets_writable" .required bool fun a v => { v with secretsWritable := a },
   .of "read_only" .required bool fun a v => { v with readOnly := a }]

/-- How many containers a kept member of a view may have inside each other: an
object at the outside takes one of the 127 levels. -/
def keptDepth : Nat := 126

/-- The members of a view read in order: its own are stored, the others taken
whole and kept. -/
def readView (seen : List String) (v : View) (kept : List (Key × Doc)) :
    List (Key × Doc) → Except Fault (List String × View × List (Key × Doc))
  | [] => .ok (seen, v, kept.reverse)
  | (k, d) :: rest => do
    let name ← k.name
    match viewFields.find? (·.name == name) with
    | some f =>
      if seen.contains name then throw .mismatched
      readView (name :: seen) (← f.store d v) kept rest
    | none =>
      d.whole keptDepth
      readView seen v ((k, d) :: kept) rest

/-- A view, from an object only. -/
def view : Decoder View
  | .object ms tail => do
    let (seen, v, kept) ← readView [] {} [] ms
    endOf tail
    unless viewFields.all fun f => seen.contains f.name do throw .mismatched
    return { v with config := ← config (.object kept none) }
  | d => .error d.mismatch

end Wire

end CpuAlert
