import CpuAlert.Secret.Base64
import CpuAlert.Secret.Gcm
import CpuAlert.Text.Blank
import CpuAlert.Text.Utf8

/-!
# Credentials at rest

A credential is kept as a token: the nonce and the sealed text, in base
sixty-four. Every encryption takes a nonce of its own. A cipher without a key
refuses both directions.

## Main definitions

* `Cipher` — a key, or none
* `Cipher.ofKey` — the cipher of a written key
* `Cipher.encrypt`, `Cipher.decrypt` — credentials and tokens
* `SecretError` — why that failed
-/

namespace CpuAlert

/-- Why a key or a token was refused. -/
inductive SecretError
  | missingKey
  | invalidKey (reason : String)
  | initFailed
  | decodeFailed (reason : String)
  | truncated (length nonceLength : Nat)
  | authenticationFailed
  | randomSource (reason : String)
  | invalidUtf8
  deriving DecidableEq, Repr

/-- The wording of a refusal. -/
def SecretError.message : SecretError → String
  | .missingKey => "missing alert encryption key"
  | .invalidKey reason => "invalid alert encryption key: " ++ reason
  | .initFailed => "failed to initialise AES-256-GCM from key"
  | .decodeFailed reason => "failed to decode cipher text: " ++ reason
  | .truncated length nonceLength =>
    s!"cipher text too short: {length} bytes, nonce alone needs {nonceLength}"
  | .authenticationFailed => "cipher text failed authentication"
  | .randomSource reason => "random source failed: " ++ reason
  | .invalidUtf8 => "decrypted secret is not valid UTF-8"

/-- A key, or none. -/
structure Cipher where
  key : Option Aes.Key

namespace Cipher

/-- The bytes of a key. -/
def keyLength : Nat := 32

/-- The bytes of a nonce. -/
def nonceLength : Nat := 12

/-- The cipher without a key. -/
def disabled : Cipher := ⟨none⟩

/-- A list of bytes as a vector, if it has that length. -/
def vector? (n : Nat) (bytes : List UInt8) : Option (Vector UInt8 n) :=
  if h : bytes.toArray.size = n then some ⟨bytes.toArray, h⟩ else none

/-- The cipher of a key in base sixty-four. A blank key is none. -/
def ofKey (written : String) : Except SecretError Cipher :=
  match Text.nonBlank? written with
  | none => .error .missingKey
  | some written =>
    match Base64.decode (Text.toBytes written) with
    | .error cause => .error (.invalidKey ("decode alert key: " ++ cause.message))
    | .ok bytes =>
      match vector? keyLength bytes with
      | some key => .ok ⟨some key⟩
      | none => .error (.invalidKey s!"want {keyLength} bytes, got {bytes.length}")

/-- The cipher has a key. -/
def hasKey (c : Cipher) : Bool := c.key.isSome

/-- A cipher for a person to read: whether it has a key, and never the key. -/
def describe (c : Cipher) : String := s!"Cipher \x7b configured: {c.hasKey} \x7d"

/-- Bytes in base sixty-four, as a text. -/
def written (bytes : List UInt8) : String :=
  String.ofList ((Base64.encode bytes).map fun b => Char.ofNat b.toNat)

/-- The token of a credential under a nonce. Only a text beyond the length limit
cannot be sealed. -/
def encrypt (c : Cipher) (nonce : Gcm.Nonce) (plain : String) : Except SecretError String :=
  match c.key with
  | none => .error .missingKey
  | some key =>
    let bytes := Text.toBytes plain
    if Gcm.maxLength < bytes.length then .error .authenticationFailed
    else .ok (written (nonce.toList ++ Gcm.sealed key nonce bytes))

/-- The credential of a token. Blanks around the token do not matter. -/
def decrypt (c : Cipher) (token : String) : Except SecretError String :=
  match c.key with
  | none => .error .missingKey
  | some key =>
    match Base64.decode (Text.toBytes (Text.trim token)) with
    | .error cause => .error (.decodeFailed cause.message)
    | .ok bytes =>
      match vector? nonceLength (bytes.take nonceLength) with
      | none => .error (.truncated bytes.length nonceLength)
      | some nonce =>
        match Gcm.unsealed? key nonce (bytes.drop nonceLength) with
        | none => .error .authenticationFailed
        | some plain =>
          match Text.ofBytes? plain with
          | some s => .ok s
          | none => .error .invalidUtf8

/-- The credential of a token, or the empty text if there is no token or it
cannot be decrypted. -/
def reveal (c : Cipher) (token : String) : String :=
  if Text.trim token = "" then ""
  else
    match c.decrypt token with
    | .ok plain => plain
    | .error _ => ""

end Cipher

end CpuAlert
