import CpuAlert.Config.Update
import CpuAlert.Service

/-!
# Changing the configuration and the silence

A change holds the lock from the moment it reads the live state until it has put
the new state into force, and the store comes first. If the credentials of an
update cannot be stored, the configuration that was stored before is put back,
so that either all of the update is in force or none of it.

## Main definitions

* `Service.update` — a partial update of the configuration
* `Service.silence`, `Service.endSilence` — begin and end a silence
-/

namespace CpuAlert.Service

open Program (perform)
open Time (Instant)

/-! ## Updates -/

/-- The token of a secret under a fresh nonce. -/
def sealSecret (s : Service) (plain : String) : Program (Except ServiceError String) :=
  match s.keyFault with
  | some reason => return .error (.secretsUnavailable reason)
  | none => do
    match ← perform .draw with
    | .error reason => return .error (.crypto (.randomSource reason))
    | .ok nonce => return (s.cipher.encrypt nonce plain).mapError .crypto

/-- A secret after an update: its token and the secret itself. A new value is
sealed first; the flag then removes both. -/
def changeSecret (s : Service) (given : Option String) (clear : Bool) (token plain : String) :
    Program (Except ServiceError (String × String)) := do
  match given.bind Text.nonBlank? with
  | none => return .ok (if clear then ("", "") else (token, plain))
  | some secret =>
    match ← s.sealSecret secret with
    | .error e => return .error e
    | .ok sealedSecret => return .ok (if clear then ("", "") else (sealedSecret, secret))

/-- The state that an update leads to: configuration, credentials and record. -/
abbrev Target := Config × Credentials × SealedCredentials

/-- The state that an update leads to from a live state, if it is acceptable. -/
def target (s : Service) (u : Config.Update) (live : Live) :
    Program (Except ServiceError Target) := do
  let config := u.apply live.config
  match config.violation? with
  | some v => return .error (.configuration v.message)
  | none =>
    match ← s.changeSecret u.telegramToken u.clearTelegramToken live.record.telegramToken
      live.credentials.telegramToken with
    | .error e => return .error e
    | .ok (sealedToken, token) =>
      match ← s.changeSecret u.gmailPassword u.clearGmailPassword live.record.gmailPassword
        live.credentials.gmailPassword with
      | .error e => return .error e
      | .ok (sealedPassword, password) =>
        let address := u.gmailAddress.bind Text.nonBlank?
        return .ok
          (config,
            ⟨token, address.getD live.credentials.gmailAddress, password⟩,
            ⟨sealedToken, address.getD live.record.gmailAddress, sealedPassword⟩)

/-- Store a configuration and a record. If the record cannot be stored, the
configuration from before is put back as far as possible. -/
def persist (before : Config) (config : Config) (record : SealedCredentials) :
    Program (Except ServiceError Unit) := do
  match persisted (← perform (.ask (.writeConfig config))) with
  | .error e => return .error e
  | .ok () =>
    match persisted (← perform (.ask (.writeCredentials record))) with
    | .ok () => return .ok ()
    | .error e =>
      -- whether this succeeds makes no difference to the caller
      let _ ← perform (.ask (.writeConfig before))
      return .error e

/-- An update, with the lock held. -/
def updateLocked (s : Service) (u : Config.Update) : Program (Except ServiceError View) := do
  let live ← perform .look
  match ← s.target u live with
  | .error e => return .error e
  | .ok (config, credentials, record) =>
    match ← persist live.config config record with
    | .error e => return .error e
    | .ok () =>
      perform (.commit config credentials record)
      return .ok (.of config credentials record s.secretsWritable false)

/-- A program between taking and giving back the lock. -/
def locked {α : Type} (p : Program α) : Program α := do
  perform .acquire
  let a ← p
  perform .release
  return a

/-- A partial update of the configuration. -/
def update (s : Service) (u : Config.Update) : Program (Except ServiceError View) :=
  locked (s.updateLocked u)

/-! ## Silence -/

/-- The longest silence, in minutes. -/
def maxSilence : Int := 1440

/-- Store the end of a silence and put it into force. -/
def setDeadline (deadline : Option Instant) : Program (Except ServiceError Unit) := do
  match persisted (← perform (.ask (.writeSilence deadline))) with
  | .error e => return .error e
  | .ok () =>
    perform (.mute deadline)
    return .ok ()

/-- The end of a silence of some minutes. No silence lasts longer than the
calendar. -/
def silenceEnd (now : Instant) (minutes : Int) : Instant :=
  (now.shift? (minutes * 60)).getD .ending

/-- Begin a silence, with the lock held. -/
def silenceLocked (minutes : Int) : Program (Except ServiceError Instant) := do
  let deadline := silenceEnd (← perform .clock) minutes
  return (← setDeadline (some deadline)).map fun _ => deadline

/-- Be silent for some minutes from now. -/
def silence (minutes : Int) : Program (Except ServiceError Instant) :=
  if 1 ≤ minutes ∧ minutes ≤ maxSilence then locked (silenceLocked minutes)
  else return .error (.invalidSilence minutes)

/-- End the silence. -/
def endSilence : Program (Except ServiceError Unit) := locked (setDeadline none)

end CpuAlert.Service
