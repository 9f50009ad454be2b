import CpuAlert.Config

/-!
# Partial updates

An update names the values it changes. Lists are cleaned on the way: entries
are trimmed, blank ones and negative delays are dropped. Credentials travel
with the update but are not part of the configuration.

## Main definitions

* `Config.Update` — the values to change
* `Config.Update.apply` — the configuration with these values
-/

namespace CpuAlert.Config

/-- The values to change. A credential is stored if it is not blank and removed
if its flag is set; the flag comes last. -/
structure Update where
  enabled : Option Bool := none
  warningPercent : Option Float := none
  warningWindow : Option Int := none
  criticalPercent : Option Float := none
  criticalWindow : Option Int := none
  recoveryPercent : Option Float := none
  recoveryWindow : Option Int := none
  cooldown : Option Int := none
  telegramEnabled : Option Bool := none
  emailEnabled : Option Bool := none
  recipients : Option (List String) := none
  chatIds : Option (List String) := none
  retryDelays : Option (List Int) := none
  telegramToken : Option String := none
  clearTelegramToken : Bool := false
  gmailAddress : Option String := none
  gmailPassword : Option String := none
  clearGmailPassword : Bool := false
  deriving Inhabited

/-- The configuration with the values of an update. -/
def Update.apply (u : Update) (c : Config) : Config where
  enabled := u.enabled.getD c.enabled
  warningPercent := u.warningPercent.getD c.warningPercent
  warningWindow := u.warningWindow.getD c.warningWindow
  criticalPercent := u.criticalPercent.getD c.criticalPercent
  criticalWindow := u.criticalWindow.getD c.criticalWindow
  recoveryPercent := u.recoveryPercent.getD c.recoveryPercent
  recoveryWindow := u.recoveryWindow.getD c.recoveryWindow
  cooldown := u.cooldown.getD c.cooldown
  telegramEnabled := u.telegramEnabled.getD c.telegramEnabled
  emailEnabled := u.emailEnabled.getD c.emailEnabled
  recipients := (u.recipients.map keepNonBlank).getD c.recipients
  chatIds := (u.chatIds.map keepNonBlank).getD c.chatIds
  retryDelays := (u.retryDelays.map usableDelays).getD c.retryDelays

end CpuAlert.Config
