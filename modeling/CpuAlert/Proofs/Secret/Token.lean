import CpuAlert.Proofs.Secret.Cipher
import CpuAlert.Proofs.Secret.Strict

/-!
# A token is decrypted exactly if it was encrypted

Every layer of a token is strict. A text in base sixty-four is the only written
form of its bytes, a text that opens is what sealing makes of it, and bytes are
the text they are read as. So the tokens that decrypt to a credential are those
that encrypting it makes, one for every nonce, with any blanks around them.

## Main definitions

* `Cipher.nonce?` — the nonce that a token begins with

## Main results

* `Gcm.unsealed?_eq_some_iff` — what opens is a sealed text
* `Cipher.decrypt_eq_ok_iff` — what decrypts is a token of the credential
* `Cipher.decrypts_encryptions_only` — the tokens of a credential
-/

namespace CpuAlert

/-! ## Blanks around a text -/

namespace Text

variable {front back : List Char}

/-- Blanks behind a text are trimmed away. -/
theorem trimList_append_blanks (cs : List Char) (hback : ∀ c ∈ back, isBlank c = true) :
    trimList (cs ++ back) = trimList cs := by
  have hnil : back.dropWhile isBlank = [] := by
    rw [← List.append_nil back, List.dropWhile_append_of_pos hback]
    rfl
  rw [trimList, trimStartList, List.dropWhile_append]
  split
  · rename_i hempty
    rw [trimList, trimStartList, List.isEmpty_iff.mp hempty, hnil]
  · -- what stands behind comes first when the end is trimmed
    have hreverse : ∀ c ∈ back.reverse, isBlank c = true := by
      intro c hc
      exact hback c (List.mem_reverse.mp hc)
    rw [trimEndList, List.reverse_append, List.dropWhile_append_of_pos hreverse]
    rfl

/-- Blanks around a text are trimmed away. -/
theorem trim_append_blanks {front back : String} (s : String)
    (hfront : ∀ c ∈ front.toList, isBlank c = true) (hback : ∀ c ∈ back.toList, isBlank c = true) :
    trim (front ++ s ++ back) = trim s := by
  rw [trim, String.toList_append, String.toList_append, List.append_assoc, trimList, trimStartList,
    List.dropWhile_append_of_pos hfront]
  exact congrArg String.ofList (trimList_append_blanks s.toList hback)

/-- Different texts have different bytes. -/
theorem toBytes_injective {s t : String} (h : toBytes s = toBytes t) : s = t := by
  have hs : ofBytes? (toBytes s) = some s := ofBytes?_eq_some_iff.mpr rfl
  have ht : ofBytes? (toBytes s) = some t := ofBytes?_eq_some_iff.mpr h
  exact Option.some.inj (hs.symm.trans ht)

end Text

/-! ## Sealed texts -/

namespace Gcm

open Aes (Key)

theorem length_tag (keys : List Aes.Block) (nonce : Nonce) (hidden : List UInt8) :
    (tag keys nonce hidden).length = tagLength :=
  Vector.length_toList

/-- What opens is a sealed text, and nothing else does. -/
theorem unsealed?_eq_some_iff {key : Key} {nonce : Nonce} {bytes plain : List UInt8} :
    unsealed? key nonce bytes = some plain ↔
      plain.length ≤ maxHidden ∧ bytes = sealed key nonce plain := by
  constructor
  · intro h
    unfold unsealed? at h
    split at h
    · cases h
    · rename_i hbounds
      dsimp only at h
      split at h
      · rename_i htag
        obtain rfl := Option.some.inj h
        constructor
        · rw [length_counterMode, List.length_take]
          omega
        · -- hiding the text again gives what it was hidden as
          rw [sealed, counterMode_counterMode, ← htag, List.take_append_drop]
      · cases h
  · rintro ⟨hlength, rfl⟩
    exact unsealed?_sealed nonce key hlength

end Gcm

/-! ## Tokens -/

namespace Cipher

/-- The nonce that a token begins with: the first bytes that it stands for. -/
def nonce? (token : String) : Option Gcm.Nonce :=
  match Base64.decode (Text.toBytes (Text.trim token)) with
  | .error _ => none
  | .ok bytes => vector? nonceLength (bytes.take nonceLength)

/-- A text stands for bytes exactly if it is their written form. -/
theorem decode_toBytes_eq_ok_iff {s : String} {bytes : List UInt8} :
    Base64.decode (Text.toBytes s) = .ok bytes ↔ s = written bytes := by
  rw [Base64.decode_eq_ok_iff, ← toBytes_written]
  constructor
  · exact Text.toBytes_injective
  · exact congrArg Text.toBytes

theorem vector?_eq_some_iff {n : Nat} {bytes : List UInt8} {v : Vector UInt8 n} :
    vector? n bytes = some v ↔ bytes = v.toList := by
  constructor
  · intro h
    rw [vector?] at h
    split at h
    · rw [← Option.some.inj h]
      rfl
    · cases h
  · rintro rfl
    exact vector?_toList v

variable {key : Aes.Key} {nonce : Gcm.Nonce} {plain token token' : String}

/-- What decrypts is a token of the credential under some nonce, up to blanks
around it. -/
theorem decrypt_eq_ok_iff :
    (Cipher.mk (some key)).decrypt token = .ok plain ↔
      (Text.toBytes plain).length ≤ Gcm.maxHidden ∧ ∃ nonce : Gcm.Nonce,
        Text.trim token = written (nonce.toList ++ Gcm.sealed key nonce (Text.toBytes plain)) := by
  constructor
  · intro h
    unfold decrypt at h
    dsimp only at h
    split at h
    · cases h
    · rename_i bytes hdecode
      split at h
      · cases h
      · rename_i nonce hnonce
        split at h
        · cases h
        · rename_i opened hopened
          split at h
          · rename_i s hs
            obtain rfl := Except.ok.inj h
            obtain rfl := Text.ofBytes?_eq_some_iff.mp hs
            obtain ⟨hlength, hrest⟩ := Gcm.unsealed?_eq_some_iff.mp hopened
            have hfirst : bytes.take nonceLength = nonce.toList := vector?_eq_some_iff.mp hnonce
            have hbytes : bytes = nonce.toList ++ Gcm.sealed key nonce (Text.toBytes s) := by
              rw [← hfirst, ← hrest, List.take_append_drop]
            exact ⟨hlength, nonce, decode_toBytes_eq_ok_iff.mp (hbytes ▸ hdecode)⟩
          · cases h
  · rintro ⟨hlength, nonce, htrim⟩
    exact decrypt_of_trim_eq rfl hlength htrim

/-- The nonce of a token is the one that it was made with. -/
theorem nonce?_eq_some {rest : List UInt8}
    (h : Text.trim token = written (nonce.toList ++ rest)) : nonce? token = some nonce := by
  have hnonce : nonce.toList.length = nonceLength := Vector.length_toList
  rw [nonce?, decode_toBytes_eq_ok_iff.mpr h]
  dsimp only
  rw [List.take_left' hnonce]
  exact vector?_toList nonce

/-- A token decrypts to a credential exactly if it is the credential's
encryption, character for character, under the nonce that it begins with. So
what encrypting returns is decrypted with any blanks around it, and for every
nonce there is only one token of a credential. -/
theorem decrypts_encryptions_only (key : Aes.Key) :
    (∀ (nonce : Gcm.Nonce) (plain token : String),
      (Text.toBytes plain).length ≤ Gcm.maxHidden →
      Text.trim token = written (nonce.toList ++ Gcm.sealed key nonce (Text.toBytes plain)) →
      (Cipher.mk (some key)).decrypt token = .ok plain) ∧
    (∀ token plain : String, (Cipher.mk (some key)).decrypt token = .ok plain →
      (Text.toBytes plain).length ≤ Gcm.maxHidden ∧ ∃ nonce, nonce? token = some nonce ∧
        Text.trim token = written (nonce.toList ++ Gcm.sealed key nonce (Text.toBytes plain))) ∧
    (∀ (nonce : Gcm.Nonce) (plain token front back : String),
      (Cipher.mk (some key)).encrypt nonce plain = .ok token →
      (∀ c ∈ front.toList, Text.isBlank c = true) → (∀ c ∈ back.toList, Text.isBlank c = true) →
      (Cipher.mk (some key)).decrypt (front ++ token ++ back) = .ok plain) ∧
    ∀ token token' plain : String, (Cipher.mk (some key)).decrypt token = .ok plain →
      (Cipher.mk (some key)).decrypt token' = .ok plain → nonce? token = nonce? token' →
      Text.trim token = Text.trim token' := by
  refine ⟨?_, ?_, ?_, ?_⟩
  · intro nonce plain token hlength htrim
    exact decrypt_eq_ok_iff.mpr ⟨hlength, nonce, htrim⟩
  · intro token plain h
    obtain ⟨hlength, nonce, htrim⟩ := decrypt_eq_ok_iff.mp h
    exact ⟨hlength, nonce, nonce?_eq_some htrim, htrim⟩
  · intro nonce plain token front back h hfront hback
    obtain ⟨key', hkey, hlength, rfl⟩ := encrypt_eq_ok_iff.mp h
    obtain rfl := Option.some.inj hkey
    refine decrypt_eq_ok_iff.mpr ⟨Nat.le_trans hlength Gcm.maxLength_le_maxHidden, nonce, ?_⟩
    rw [Text.trim_append_blanks _ hfront hback, trim_written]
  · intro token token' plain h h' hsame
    obtain ⟨-, nonce, htrim⟩ := decrypt_eq_ok_iff.mp h
    obtain ⟨-, nonce', htrim'⟩ := decrypt_eq_ok_iff.mp h'
    rw [nonce?_eq_some htrim, nonce?_eq_some htrim'] at hsame
    obtain rfl := Option.some.inj hsame
    rw [htrim, htrim']

/-- A key of thirty-two equal bytes. -/
def plainKey : Aes.Key := Vector.replicate 32 7

/-- A nonce of twelve equal bytes. -/
def plainNonce : Gcm.Nonce := Vector.replicate 12 9

/-- A token of a credential that is not of one byte for each character, with
blanks around it. -/
theorem decrypts_encryptions_only_spaced :
    ∃ token, (Cipher.mk (some plainKey)).encrypt plainNonce "schlüssel" = .ok token ∧
      (Cipher.mk (some plainKey)).decrypt ("\n " ++ token ++ "\t") = .ok "schlüssel" ∧
      (Cipher.mk (some plainKey)).decrypt (Text.trim token) = .ok "schlüssel" ∧
      nonce? ("\n " ++ token ++ "\t") = some plainNonce ∧
      Text.trim ("\n " ++ token ++ "\t") = Text.trim (Text.trim token) := by
  obtain ⟨hforward, hbackward, hspaced, hunique⟩ := decrypts_encryptions_only plainKey
  let token := written (plainNonce.toList ++
    Gcm.sealed plainKey plainNonce (Text.toBytes "schlüssel"))
  have hlength : (Text.toBytes "schlüssel").length ≤ Gcm.maxLength := by decide
  have hencrypt : (Cipher.mk (some plainKey)).encrypt plainNonce "schlüssel" = .ok token :=
    encrypt_eq_ok_iff.mpr ⟨plainKey, rfl, hlength, rfl⟩
  have hfront : ∀ c ∈ "\n ".toList, Text.isBlank c = true := List.all_eq_true.mp (by decide)
  have hback : ∀ c ∈ "\t".toList, Text.isBlank c = true := List.all_eq_true.mp (by decide)
  have hdecrypt := hspaced plainNonce "schlüssel" token "\n " "\t" hencrypt hfront hback
  have hopened := Nat.le_trans hlength Gcm.maxLength_le_maxHidden
  have hbare := hforward plainNonce "schlüssel" (Text.trim token) hopened (by
    rw [Text.trim_trim, trim_written])
  obtain ⟨-, nonce, hnonce, htrim⟩ := hbackward _ _ hdecrypt
  obtain ⟨-, nonce', hnonce', htrim'⟩ := hbackward _ _ hbare
  have htrimmed : Text.trim ("\n " ++ token ++ "\t") = token := by
    rw [Text.trim_append_blanks _ hfront hback, trim_written]
  have hfirst : nonce? ("\n " ++ token ++ "\t") = some plainNonce := nonce?_eq_some htrimmed
  have hsecond : nonce? (Text.trim token) = some plainNonce :=
    nonce?_eq_some (by rw [Text.trim_trim, trim_written])
  exact ⟨token, hencrypt, hdecrypt, hbare, hfirst,
    hunique _ _ _ hdecrypt hbare (hfirst.trans hsecond.symm)⟩

end Cipher

end CpuAlert
