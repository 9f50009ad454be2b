import CpuAlert.Text.Blank
import CpuAlert.Text.Quoted

/-!
# Credentials

What the channels need to send: in the clear, held only in memory, and as kept
by a store, where the two secrets are tokens and the sender's address is not.

## Main definitions

* `Credentials` — in the clear
* `Credentials.describe` — for a person to read, without the secrets
* `SealedCredentials` — as kept by a store
-/

namespace CpuAlert

/-- Credentials in the clear. -/
structure Credentials where
  telegramToken : String := ""
  gmailAddress : String := ""
  gmailPassword : String := ""
  deriving DecidableEq, Inhabited

/-- Credentials without blanks around them. -/
def Credentials.trimmed (c : Credentials) : Credentials where
  telegramToken := Text.trim c.telegramToken
  gmailAddress := Text.trim c.gmailAddress
  gmailPassword := Text.trim c.gmailPassword

/-- What is shown for a secret. -/
def redacted (secret : String) : String := if secret = "" then "<empty>" else "<redacted>"

/-- Credentials for a person to read: the address as it is, of a secret only
whether it is there. -/
def Credentials.describe (c : Credentials) : String :=
  "Secrets \x7b telegram_bot_token: " ++ Text.quote (redacted c.telegramToken)
    ++ ", gmail_address: " ++ Text.quote c.gmailAddress
    ++ ", gmail_app_password: " ++ Text.quote (redacted c.gmailPassword) ++ " \x7d"

/-- Credentials as kept by a store: two tokens and the address. -/
structure SealedCredentials where
  telegramToken : String := ""
  gmailAddress : String := ""
  gmailPassword : String := ""
  deriving DecidableEq, Inhabited

end CpuAlert
