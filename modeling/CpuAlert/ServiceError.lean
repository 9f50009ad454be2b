import CpuAlert.Secret.Cipher
import CpuAlert.Store

/-!
# Why an operation of the service failed

## Main definitions

* `ServiceError` — the failures
* `ServiceError.message` — their wording
* `ServiceError.source` — the wording of what caused them
-/

namespace CpuAlert

/-- Why an operation of the service failed. -/
inductive ServiceError
  | configuration (reason : String)
  | secretsUnavailable (cause : SecretError)
  | crypto (cause : SecretError)
  | persistence (cause : StoreError)
  | channelsDisabled
  | invalidSilence (minutes : Int)
  deriving DecidableEq, Repr

namespace ServiceError

/-- The wording of a failure. -/
def message : ServiceError → String
  | configuration reason => "invalid alert configuration: " ++ reason
  | secretsUnavailable cause => "secrets unavailable: " ++ cause.message
  | crypto cause => "secret encryption failed: " ++ cause.message
  | persistence cause => "alert persistence failed: " ++ cause.message
  | channelsDisabled => "both notification channels are disabled"
  | invalidSilence minutes =>
    s!"silence duration must be between 1 and 1440 minutes, got {minutes}"

/-- The wording of the cause, where there is one. -/
def source : ServiceError → Option String
  | secretsUnavailable cause => some cause.message
  | crypto cause => some cause.message
  | persistence cause => some cause.message
  | _ => none

end ServiceError

end CpuAlert
