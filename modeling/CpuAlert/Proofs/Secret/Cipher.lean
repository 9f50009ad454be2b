import CpuAlert.Proofs.Secret.Base64
import CpuAlert.Secret.Cipher

/-!
# Credentials come back from their tokens

Counter mode adds the same stream to a text twice, so it is its own inverse and
keeps lengths. A sealed text is therefore opened again by its key, a token
decrypted by its cipher, and since a token has no blanks around it, none of this
depends on how it is trimmed. None of it depends on the block cipher or on the
hash either, as long as both sides use the same.

## Main results

* `Gcm.counterMode_counterMode` — counter mode is its own inverse
* `Gcm.unsealed?_sealed` — a sealed text is opened again
* `Cipher.decrypt_encrypt`, `Cipher.reveal_encrypt` — a credential comes back
  from its token
-/

namespace CpuAlert

/-! ## Counter mode -/

namespace Gcm

open Aes (Block Key)

/-- Adding a stream twice changes nothing. -/
theorem zipWith_xor_zipWith_xor {bytes stream : List UInt8} (h : bytes.length ≤ stream.length) :
    List.zipWith (· ^^^ ·) (List.zipWith (· ^^^ ·) bytes stream) stream = bytes := by
  induction bytes generalizing stream with
  | nil => rfl
  | cons b bs ih =>
    cases stream with
    | nil => simp at h
    | cons s stream =>
      have hbs : bs.length ≤ stream.length := by simpa using h
      rw [List.zipWith_cons_cons, List.zipWith_cons_cons, ih hbs, UInt8.xor_assoc, UInt8.xor_self,
        UInt8.xor_zero]

variable (keys : List Block) (nonce : Nonce)

/-- The stream that hides the block with this number. -/
def stream (n : Nat) : List UInt8 := (Aes.encryptWith keys (counterBlock nonce n)).toList

theorem length_stream (n : Nat) : (stream keys nonce n).length = 16 := Vector.length_toList

theorem counterMode_nil (n : Nat) : counterMode keys nonce n [] = [] := by
  rw [counterMode]

/-- A block is hidden by its own stream, and what follows it by the later ones. -/
theorem counterMode_eq (n : Nat) (bytes : List UInt8) :
    counterMode keys nonce n bytes =
      List.zipWith (· ^^^ ·) (bytes.take 16) (stream keys nonce n) ++
        counterMode keys nonce (n + 1) (bytes.drop 16) := by
  cases bytes with
  | nil => rw [counterMode, List.drop_nil, counterMode_nil]; rfl
  | cons b bs => rw [counterMode]; rfl

/-- Hiding keeps the length of a text. -/
theorem length_counterMode (n : Nat) (bytes : List UInt8) :
    (counterMode keys nonce n bytes).length = bytes.length := by
  fun_induction counterMode keys nonce n bytes with
  | case1 n => rfl
  | case2 n b bs _ ih =>
    rw [List.length_append, ih, List.length_zipWith]
    have hstream := length_stream keys nonce n
    rw [stream] at hstream
    rw [hstream]
    simp only [List.length_take, List.length_drop, List.length_cons]
    omega

/-- What is hidden falls apart where the text does. -/
theorem take_drop_hidden (n : Nat) (bytes : List UInt8) :
    (counterMode keys nonce n bytes).take 16 =
        List.zipWith (· ^^^ ·) (bytes.take 16) (stream keys nonce n) ∧
      (counterMode keys nonce n bytes).drop 16 =
        counterMode keys nonce (n + 1) (bytes.drop 16) := by
  have hlength : (List.zipWith (· ^^^ ·) (bytes.take 16) (stream keys nonce n)).length =
      min 16 bytes.length := by
    rw [List.length_zipWith, length_stream, List.length_take]
    omega
  rw [counterMode_eq]
  by_cases hlong : 16 ≤ bytes.length
  · have hsixteen := hlength.trans (Nat.min_eq_left hlong)
    exact ⟨List.take_left' hsixteen, List.drop_left' hsixteen⟩
  · -- a last block that is not full has nothing behind it
    have hrest : counterMode keys nonce (n + 1) (bytes.drop 16) = [] := by
      rw [List.drop_eq_nil_of_le (by omega), counterMode_nil]
    rw [hrest, List.append_nil]
    exact ⟨List.take_of_length_le (by omega), List.drop_eq_nil_of_le (by omega)⟩

/-- Counter mode is its own inverse. -/
theorem counterMode_counterMode (n : Nat) (bytes : List UInt8) :
    counterMode keys nonce n (counterMode keys nonce n bytes) = bytes := by
  obtain ⟨htake, hdrop⟩ := take_drop_hidden keys nonce n bytes
  cases bytes with
  | nil => rw [counterMode_nil, counterMode_nil]
  | cons b bs =>
    have hblock : ((b :: bs).take 16).length ≤ (stream keys nonce n).length := by
      rw [length_stream, List.length_take]
      omega
    rw [counterMode_eq, htake, hdrop, zipWith_xor_zipWith_xor hblock,
      counterMode_counterMode (n + 1) ((b :: bs).drop 16), List.take_append_drop]
termination_by bytes.length
decreasing_by simp only [List.length_drop, List.length_cons]; omega

/-! ## Sealing -/

/-- What is hidden is not longer than what is opened. -/
theorem maxLength_le_maxHidden : maxLength ≤ maxHidden :=
  Nat.le_add_right ..

/-- A text within the limit is opened again by its key and its nonce. -/
theorem unsealed?_sealed (key : Key) {plain : List UInt8} (h : plain.length ≤ maxHidden) :
    unsealed? key nonce (sealed key nonce plain) = some plain := by
  have htag (hidden : List UInt8) : (tag (Aes.roundKeys key) nonce hidden).length = tagLength :=
    Vector.length_toList
  have hlength : (sealed key nonce plain).length = plain.length + tagLength := by
    rw [sealed, List.length_append, length_counterMode, htag]
  have hbounds : ¬ (plain.length + tagLength < tagLength ∨
      maxHidden + tagLength < plain.length + tagLength) := by omega
  have hhidden : (sealed key nonce plain).take plain.length =
      counterMode (Aes.roundKeys key) nonce 2 plain :=
    List.take_left' (length_counterMode ..)
  have hgiven : (sealed key nonce plain).drop plain.length =
      tag (Aes.roundKeys key) nonce (counterMode (Aes.roundKeys key) nonce 2 plain) :=
    List.drop_left' (length_counterMode ..)
  simp only [unsealed?, hlength, Nat.add_sub_cancel, if_neg hbounds, hhidden, hgiven, if_true,
    counterMode_counterMode]

end Gcm

/-! ## Tokens -/

namespace Cipher

/-- A byte that base sixty-four uses is a character by itself, and not blank. -/
theorem char_of_isSymbol {b : UInt8} (h : Base64.IsSymbol b) :
    String.utf8EncodeChar (Char.ofNat b.toNat) = [b] ∧
      Text.isBlank (Char.ofNat b.toNat) = false := by
  have hall : ∀ n < 64,
      String.utf8EncodeChar (Char.ofNat (Base64.symbol n).toNat) = [Base64.symbol n] ∧
        Text.isBlank (Char.ofNat (Base64.symbol n).toNat) = false := by decide
  rcases h with rfl | ⟨n, hn, rfl⟩
  · exact ⟨rfl, rfl⟩
  · exact hall n hn

/-- The bytes of a token are the symbols that were written. -/
theorem toBytes_written (bytes : List UInt8) :
    Text.toBytes (written bytes) = Base64.encode bytes := by
  have hchars {symbols : List UInt8} (h : ∀ b ∈ symbols, Base64.IsSymbol b) :
      (symbols.map fun b => Char.ofNat b.toNat).flatMap String.utf8EncodeChar = symbols := by
    induction symbols with
    | nil => rfl
    | cons b symbols ih =>
      obtain ⟨hfirst, hrest⟩ := List.forall_mem_cons.mp h
      rw [List.map_cons, List.flatMap_cons, (char_of_isSymbol hfirst).1, ih hrest]
      rfl
  rw [Text.toBytes, written, String.toByteArray_ofList, List.utf8Encode,
    hchars fun b hb => Base64.isSymbol_of_mem_encode hb]
  simp

/-- There are no blanks around a token. -/
theorem trim_written (bytes : List UInt8) : Text.trim (written bytes) = written bytes := by
  have hblank : ∀ c ∈ (Base64.encode bytes).map (fun b => Char.ofNat b.toNat),
      Text.isBlank c = false := by
    intro c hc
    obtain ⟨b, hb, rfl⟩ := List.mem_map.mp hc
    exact (char_of_isSymbol (Base64.isSymbol_of_mem_encode hb)).2
  have htrim : Text.trimList ((Base64.encode bytes).map fun b => Char.ofNat b.toNat) =
      (Base64.encode bytes).map fun b => Char.ofNat b.toNat :=
    Text.trimList_eq_self_iff.mpr ⟨fun c hc => hblank c (List.mem_of_mem_head? hc),
      fun c hc => hblank c (List.mem_of_mem_getLast? hc)⟩
  rw [Text.trim, written, String.toList_ofList, htrim]

theorem vector?_toList {n : Nat} (v : Vector UInt8 n) : vector? n v.toList = some v := by
  rw [vector?, dif_pos (by simp)]
  rfl

variable {c : Cipher} {nonce : Gcm.Nonce} {plain token : String}

/-- What a token is made of. -/
theorem encrypt_eq_ok_iff :
    c.encrypt nonce plain = .ok token ↔
      ∃ key, c.key = some key ∧ (Text.toBytes plain).length ≤ Gcm.maxLength ∧
        token = written (nonce.toList ++ Gcm.sealed key nonce (Text.toBytes plain)) := by
  rw [encrypt]
  cases hkey : c.key with
  | none => simp
  | some key =>
    by_cases hlength : Gcm.maxLength < (Text.toBytes plain).length
    · have hnot : ¬ (Text.toBytes plain).length ≤ Gcm.maxLength := by omega
      simp [hlength, hnot]
    · have hle : (Text.toBytes plain).length ≤ Gcm.maxLength := by omega
      simp [hlength, hle, eq_comm]

/-- What stands for a nonce and a text sealed under it decrypts to the text. -/
theorem decrypt_of_trim_eq {key : Aes.Key} (hkey : c.key = some key)
    (hlength : (Text.toBytes plain).length ≤ Gcm.maxHidden)
    (htrim : Text.trim token =
      written (nonce.toList ++ Gcm.sealed key nonce (Text.toBytes plain))) :
    c.decrypt token = .ok plain := by
  have hnonce : nonce.toList.length = nonceLength := Vector.length_toList
  have hvector : vector? nonceLength nonce.toList = some nonce := vector?_toList nonce
  rw [decrypt, hkey]
  simp only [htrim, toBytes_written, Base64.decode_encode, List.take_left' hnonce,
    List.drop_left' hnonce, hvector, Gcm.unsealed?_sealed nonce key hlength,
    Text.ofBytes?_eq_some_iff.mpr rfl]

/-- A credential comes back from its token. -/
theorem decrypt_encrypt (h : c.encrypt nonce plain = .ok token) : c.decrypt token = .ok plain := by
  obtain ⟨key, hkey, hlength, rfl⟩ := encrypt_eq_ok_iff.mp h
  exact decrypt_of_trim_eq hkey (Nat.le_trans hlength Gcm.maxLength_le_maxHidden)
    (trim_written _)

/-- A token is not blank. -/
theorem trim_ne_empty (h : c.encrypt nonce plain = .ok token) : Text.trim token ≠ "" := by
  obtain ⟨key, -, -, rfl⟩ := encrypt_eq_ok_iff.mp h
  intro hempty
  have hbytes := congrArg Text.toBytes hempty
  rw [trim_written, toBytes_written] at hbytes
  -- the empty text stands for no bytes at all, but a token has those of its nonce
  have hdecode := Base64.decode_encode (nonce.toList ++ Gcm.sealed key nonce (Text.toBytes plain))
  rw [hbytes] at hdecode
  have hlength := congrArg List.length (Except.ok.inj hdecode)
  rw [List.length_append, Vector.length_toList, List.length_nil] at hlength
  omega

/-- A credential is revealed by its token. -/
theorem reveal_encrypt (h : c.encrypt nonce plain = .ok token) : c.reveal token = plain := by
  rw [reveal, if_neg (trim_ne_empty h), decrypt_encrypt h]

/-- Without a token there is nothing to reveal. -/
@[simp] theorem reveal_empty (c : Cipher) : c.reveal "" = "" := rfl

end Cipher

end CpuAlert
