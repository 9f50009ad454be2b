import CpuAlert.Config
import CpuAlert.Credentials
import CpuAlert.Secret.Mask

/-!
# The configuration as shown

## Main definitions

* `View` — the configuration with what may be known about the credentials
* `View.of` — the view of a configuration and its credentials
-/

namespace CpuAlert

/-- The configuration with what may be known about the credentials. -/
structure View where
  config : Config := {}
  hasTelegramToken : Bool := false
  telegramTokenMask : String := ""
  hasGmailPassword : Bool := false
  gmailPasswordMask : String := ""
  gmailAddress : String := ""
  secretsWritable : Bool := false
  readOnly : Bool := false
  deriving Inhabited

/-- The view of a configuration and its credentials. Whether a secret is there
is read off the record, so a stored one that could not be decrypted is still
shown as present. -/
def View.of (config : Config) (credentials : Credentials) (record : SealedCredentials)
    (secretsWritable readOnly : Bool) : View :=
  let hasToken := Text.trim record.telegramToken != ""
  let hasPassword := Text.trim record.gmailPassword != ""
  { config
    hasTelegramToken := hasToken
    telegramTokenMask := secretMask credentials.telegramToken hasToken
    hasGmailPassword := hasPassword
    gmailPasswordMask := secretMask credentials.gmailPassword hasPassword
    gmailAddress := Text.trim record.gmailAddress
    secretsWritable
    readOnly }

end CpuAlert
