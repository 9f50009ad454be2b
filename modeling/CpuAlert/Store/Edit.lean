import CpuAlert.Store.Database

/-!
# Editing the file behind the store's back

Another program may put a value into a column of every row of a table, delete
the rows, or insert an event. A column turns what is put into it into its own
kind where it can, and refuses to be empty unless it is the end of the silence.
Tables of one row keep the number one for it, and no two events have the same
number.

## Main definitions

* `Database.Table` — the tables with their columns
* `Database.setColumn`, `Database.deleteRows`, `Database.insertRow` — the edits
-/

namespace CpuAlert.Database

/-! ## Tables -/

/-- The tables. -/
inductive Table
  | settings
  | credentials
  | events
  | silence
  deriving DecidableEq, Repr

/-- The name of a table. -/
def Table.name : Table → String
  | settings => "alert_settings"
  | credentials => "alert_secrets"
  | events => "alert_events"
  | silence => "alert_silence"

/-- The table with a name. -/
def Table.ofName (name : String) : Except StoreError Table :=
  match name with
  | "alert_settings" => .ok .settings
  | "alert_secrets" => .ok .credentials
  | "alert_events" => .ok .events
  | "alert_silence" => .ok .silence
  | name => .error (refusal 1 ("no such table: " ++ name))

/-- The columns of a table. -/
def Table.columns : Table → List String
  | settings =>
    ["id", "enabled", "warning_percent", "warning_for_sec", "critical_percent",
      "critical_for_sec", "recovery_percent", "recovery_for_sec", "cooldown_sec",
      "telegram_enabled", "email_enabled", "recipient_emails", "telegram_chat_ids",
      "retry_delays_sec", "updated_at"]
  | credentials =>
    ["id", "telegram_token_cipher", "gmail_address", "gmail_password_cipher", "updated_at"]
  | events => ["id", "level", "message", "cpu_percent", "channels_json", "created_at"]
  | silence => ["id", "muted_until", "updated_at"]

/-! ## Numbers of rows -/

/-- A value as the number of a row. -/
def rowNumber (v : Cell) : Except StoreError Int :=
  match v.asWhole with
  | .int n => .ok n
  | _ => .error (refusal 20 "datatype mismatch")

/-- The number of the only row of a table. -/
def onlyRow (v : Cell) : Except StoreError Unit := do
  if (← rowNumber v) ≠ 1 then throw (refusal 275 "CHECK constraint failed: id = 1")

/-! ## Columns -/

/-- A value for a column that may not be empty. -/
def filled {α : Type} (table : Table) (column : String) (v : Cell) (f : Cell → α) :
    Except StoreError α :=
  match v with
  | .null => .error (emptyColumn (table.name ++ "." ++ column))
  | v => .ok (f v)

/-- A column of the settings. -/
def Settings.set (s : Settings) (column : String) (v : Cell) : Except StoreError Settings :=
  let whole := filled .settings column v Cell.asWhole
  let real := filled .settings column v Cell.asReal
  let text := filled .settings column v Cell.asText
  match column with
  | "id" => (onlyRow v).map fun _ => s
  | "enabled" => whole.map fun c => { s with enabled := c }
  | "warning_percent" => real.map fun c => { s with warningPercent := c }
  | "warning_for_sec" => whole.map fun c => { s with warningWindow := c }
  | "critical_percent" => real.map fun c => { s with criticalPercent := c }
  | "critical_for_sec" => whole.map fun c => { s with criticalWindow := c }
  | "recovery_percent" => real.map fun c => { s with recoveryPercent := c }
  | "recovery_for_sec" => whole.map fun c => { s with recoveryWindow := c }
  | "cooldown_sec" => whole.map fun c => { s with cooldown := c }
  | "telegram_enabled" => whole.map fun c => { s with telegramEnabled := c }
  | "email_enabled" => whole.map fun c => { s with emailEnabled := c }
  | "recipient_emails" => text.map fun t => { s with recipients := t }
  | "telegram_chat_ids" => text.map fun t => { s with chatIds := t }
  | "retry_delays_sec" => text.map fun t => { s with retryDelays := t }
  -- when a row was changed is never read
  | _ => whole.map fun _ => s

/-- A column of the credentials. -/
def setCredential (r : SealedCredentials) (column : String) (v : Cell) :
    Except StoreError SealedCredentials :=
  let text := filled .credentials column v Cell.asText
  match column with
  | "id" => (onlyRow v).map fun _ => r
  | "telegram_token_cipher" => text.map fun t => { r with telegramToken := t }
  | "gmail_address" => text.map fun t => { r with gmailAddress := t }
  | "gmail_password_cipher" => text.map fun t => { r with gmailPassword := t }
  | _ => text.map fun _ => r

/-- A column of an event. -/
def EventRow.set (r : EventRow) (column : String) (v : Cell) : Except StoreError EventRow :=
  let text := filled .events column v Cell.asText
  match column with
  | "id" => (rowNumber v).map fun n => { r with id := n }
  | "level" => text.map fun t => { r with level := t }
  | "message" => text.map fun t => { r with message := t }
  | "cpu_percent" => (filled .events column v Cell.asReal).map fun c => { r with cpuPercent := c }
  | "channels_json" => text.map fun t => { r with channels := t }
  | _ => (filled .events column v Cell.asWhole).map fun c => { r with createdAt := c }

/-- A column of the silence, whose end alone may be empty. -/
def setSilence (deadline : Cell) (column : String) (v : Cell) : Except StoreError Cell :=
  match column with
  | "id" => (onlyRow v).map fun _ => deadline
  | "muted_until" => .ok v.asWhole
  | _ => filled .silence column v fun _ => deadline

/-! ## Edits -/

/-- Change the only row of a table, if it is there. -/
def changeRow {α : Type} (row : Option α) (f : α → Except StoreError α) :
    Except StoreError (Nat × Option α) :=
  match row with
  | none => .ok (0, none)
  | some a => (f a).map fun a => (1, some a)

/-- Put a value into a column of every row of a table; the number of rows comes
first. -/
def setColumn (d : Database) (table column : String) (v : Cell) :
    Except StoreError (Nat × Database) := do
  let table ← Table.ofName table
  if ¬ table.columns.contains column then throw (refusal 1 ("no such column: " ++ column))
  match table with
  | .settings =>
    let (n, row) ← changeRow d.settings (·.set column v)
    return (n, { d with settings := row })
  | .credentials =>
    let (n, row) ← changeRow d.credentials (setCredential · column v)
    return (n, { d with credentials := row })
  | .silence =>
    let (n, row) ← changeRow d.silence (setSilence · column v)
    return (n, { d with silence := row })
  | .events =>
    let rows ← d.events.mapM (·.set column v)
    -- two rows would have the same number
    if column = "id" ∧ 1 < rows.length then
      throw (refusal 1555 "UNIQUE constraint failed: alert_events.id")
    return (rows.length, { d with events := rows })

/-- Delete every row of a table; their number comes first. -/
def deleteRows (d : Database) (table : String) : Except StoreError (Nat × Database) := do
  match ← Table.ofName table with
  | .settings => return (d.settings.toList.length, { d with settings := none })
  | .credentials => return (d.credentials.toList.length, { d with credentials := none })
  | .silence => return (d.silence.toList.length, { d with silence := none })
  | .events => return (d.events.length, { d with events := [] })

/-- Insert an event with the columns as they are given; the number of rows comes
first. -/
def insertRow (d : Database) (level message : String) (cpuPercent : Float) (channels : String)
    (createdAt : Int) : Except StoreError (Nat × Database) :=
  let (answer, d) := d.insert cpuPercent fun id =>
    { id, level, message, cpuPercent := .ofFloat cpuPercent, channels, createdAt := .int createdAt }
  answer.map fun _ => (1, d)

end CpuAlert.Database
