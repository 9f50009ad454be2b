import CpuAlert.Proofs.Secret.BlockCipher
import CpuAlert.Proofs.Secret.Field
import CpuAlert.Proofs.Secret.Token

/-!
# A changed token is refused

The tag of a token sees every byte in front of it. Another nonce is another block
to encipher, and different blocks are enciphered differently. Another byte of the
hidden text is another block of the hash, and what differs once differs until the
end, because each step multiplies by an element of a field other than zero. Only a
key that enciphers the zero block as itself gives the element zero. And a tag
itself is compared byte by byte.

## Main definitions

* `Gcm.absorb` — one step of the hash

## Main results

* `Gcm.foldl_blocks_set_ne` — the hash of a text with another byte
* `Gcm.tag_set_ne`, `Gcm.tag_nonce_ne` — the tag under another text or nonce
* `Cipher.changed_byte_refused` — a token with another byte is not decrypted
-/

namespace CpuAlert

namespace Gcm

open Aes (Block Key)

/-! ## Blocks and elements -/

/-- Bytes are read as the digits of a number. -/
theorem foldl_digits_inj {as bs : List UInt8} {n m : Nat} (hlength : as.length = bs.length)
    (h : as.foldl (fun n x => n * 256 + x.toNat) n = bs.foldl (fun n x => n * 256 + x.toNat) m) :
    n = m ∧ as = bs := by
  induction as generalizing n m bs with
  | nil =>
    cases bs with
    | nil => exact ⟨h, rfl⟩
    | cons b bs => cases hlength
  | cons a as ih =>
    cases bs with
    | nil => cases hlength
    | cons b bs =>
      obtain ⟨hnumber, hrest⟩ := ih (Nat.succ.inj hlength) h
      have hdigit : n * 256 + a.toNat = m * 256 + b.toNat := hnumber
      have ha := a.toNat_lt
      have hb := b.toNat_lt
      have hbyte : a = b := UInt8.toNat_inj.mp (by omega)
      exact ⟨by omega, by rw [hbyte, hrest]⟩

theorem foldl_digits_lt (as : List UInt8) (n : Nat) :
    as.foldl (fun n x => n * 256 + x.toNat) n < (n + 1) * 256 ^ as.length := by
  induction as generalizing n with
  | nil => simp
  | cons a as ih =>
    have ha := a.toNat_lt
    calc
      as.foldl (fun n x => n * 256 + x.toNat) (n * 256 + a.toNat)
        < (n * 256 + a.toNat + 1) * 256 ^ as.length := ih _
      _ ≤ ((n + 1) * 256) * 256 ^ as.length := Nat.mul_le_mul_right _ (by omega)
      _ = (n + 1) * 256 ^ (a :: as).length := by rw [List.length_cons, pow_succ']; ring

/-- Different blocks are different elements. -/
theorem toElement_injective : Function.Injective toElement := by
  intro s t h
  have hlt (r : Block) : r.toList.foldl (fun n x => n * 256 + x.toNat) 0 < 2 ^ 128 := by
    have hbound := foldl_digits_lt r.toList 0
    rw [Vector.length_toList] at hbound
    exact hbound.trans_le (by decide)
  have hnat := congrArg BitVec.toNat h
  rw [toElement, toElement, BitVec.toNat_ofNat, BitVec.toNat_ofNat, Nat.mod_eq_of_lt (hlt s),
    Nat.mod_eq_of_lt (hlt t)] at hnat
  have hlength : s.toList.length = t.toList.length := by
    rw [Vector.length_toList, Vector.length_toList]
  exact Vector.toList_inj.mp (foldl_digits_inj hlength hnat).2

/-- A number is known by its digits. -/
theorem eq_of_digits {n m k : Nat} (hn : n < 256 ^ k) (hm : m < 256 ^ k)
    (h : ∀ i < k, n / 256 ^ i % 256 = m / 256 ^ i % 256) : n = m := by
  induction k generalizing n m with
  | zero => omega
  | succ k ih =>
    rw [pow_succ] at hn hm
    have hrest : n / 256 = m / 256 := by
      apply ih (Nat.div_lt_of_lt_mul (by omega)) (Nat.div_lt_of_lt_mul (by omega))
      intro i hi
      have hdigit := h (i + 1) (by omega)
      rw [pow_succ', ← Nat.div_div_eq_div_mul, ← Nat.div_div_eq_div_mul] at hdigit
      exact hdigit
    have hlast := h 0 (by omega)
    rw [pow_zero, Nat.div_one, Nat.div_one] at hlast
    omega

/-- Different elements are different blocks. -/
theorem ofElement_injective : Function.Injective ofElement := by
  intro a b h
  apply BitVec.eq_of_toNat_eq
  apply eq_of_digits (k := 16) a.isLt b.isLt
  intro i hi
  have hlt : 15 - i < 16 := by omega
  have hplace := congrArg (fun s : Block => s[15 - i].toNat) h
  have hpower : 15 - (15 - i) = i := by omega
  simp only [ofElement, Vector.getElem_ofFn, UInt8.toNat_ofNat', hpower] at hplace
  exact hplace

/-! ## The hash -/

/-- One step of the hash. -/
def absorb (point y : Element) (b : Block) : Element := fieldMul (y ^^^ toElement b) point

variable {point : Element}

/-- What differs in front of some blocks differs behind them. -/
theorem foldl_absorb_injective (hpoint : point ≠ 0) (bs : List Block) :
    Function.Injective fun y => bs.foldl (absorb point) y := by
  induction bs with
  | nil =>
    intro y z h
    exact h
  | cons b bs ih =>
    intro y z h
    have hstep : fieldMul (y ^^^ toElement b) point = fieldMul (z ^^^ toElement b) point := ih h
    exact (BitVec.xor_left_inj _).mp (fieldMul_right_injective hpoint hstep)

/-- Different blocks are different when they have been absorbed. -/
theorem absorb_injective (hpoint : point ≠ 0) (y : Element) :
    Function.Injective (absorb point y) := by
  intro s t h
  exact toElement_injective ((BitVec.xor_right_inj _).mp (fieldMul_right_injective hpoint h))

theorem blocks_eq {bytes : List UInt8} (h : 0 < bytes.length) :
    blocks bytes = padBlock (bytes.take 16) :: blocks (bytes.drop 16) := by
  cases bytes with
  | nil => cases h
  | cons b bs => rw [blocks]

variable {bytes hidden given : List UInt8} {i : Nat} {b : UInt8}

/-- Another byte makes another text. -/
theorem set_ne_self (hi : i < bytes.length) (hb : b ≠ bytes[i]) : bytes.set i b ≠ bytes := by
  intro h
  have hplace : (bytes.set i b)[i]? = some b := List.getElem?_set_self hi
  rw [h, List.getElem?_eq_getElem hi] at hplace
  exact hb (Option.some.inj hplace).symm

/-- A text with another byte has another hash, whatever stands around it. -/
theorem foldl_blocks_set_ne (hpoint : point ≠ 0) (hi : i < bytes.length) (hb : b ≠ bytes[i])
    (y : Element) (rest : List Block) :
    (blocks (bytes.set i b) ++ rest).foldl (absorb point) y ≠
      (blocks bytes ++ rest).foldl (absorb point) y := by
  induction bytes using blocks.induct generalizing i y with
  | case1 => exact absurd hi (Nat.not_lt_zero i)
  | case2 first bytes ih =>
    have hlength : ((first :: bytes).set i b).length = (first :: bytes).length := List.length_set
    have hcut : blocks (first :: bytes) =
        padBlock ((first :: bytes).take 16) :: blocks ((first :: bytes).drop 16) :=
      blocks_eq (Nat.zero_lt_of_lt hi)
    rw [hcut, blocks_eq (hlength ▸ Nat.zero_lt_of_lt hi), List.cons_append, List.cons_append,
      List.foldl_cons, List.foldl_cons]
    by_cases hfirst : i < 16
    · -- the changed byte is in this block, and the blocks behind it stay
      rw [List.drop_set_of_lt hfirst]
      apply (foldl_absorb_injective hpoint _).ne
      apply (absorb_injective hpoint y).ne
      intro h
      have hplace := congrArg (fun s : Block => s[i]) h
      simp only [padBlock, Vector.getElem_ofFn, List.getD_eq_getElem?_getD,
        List.getElem?_take_of_lt hfirst, List.getElem?_set_self hi, List.getElem?_eq_getElem hi,
        Option.getD_some] at hplace
      exact hb hplace
    · -- this block is absorbed as before, and the changed byte is in one that follows
      have hlater : i - 16 < ((first :: bytes).drop 16).length := by
        rw [List.length_drop]
        omega
      have hsame : ((first :: bytes).drop 16)[i - 16] = (first :: bytes)[i] := by
        rw [List.getElem_drop]
        congr 1
        omega
      rw [List.take_set_of_le (by omega), List.drop_set, if_neg hfirst]
      exact ih hlater (hsame ▸ hb) _

/-! ## Tags -/

variable {keys : List Block} {nonce nonce' : Nonce} {key : Key}

/-- The tag of another hidden text is another one. -/
theorem tag_set_ne (hpoint : toElement (Aes.encryptWith keys (Vector.replicate 16 0)) ≠ 0)
    (hi : i < hidden.length) (hb : b ≠ hidden[i]) :
    tag keys nonce (hidden.set i b) ≠ tag keys nonce hidden := by
  intro h
  rw [tag, tag, List.length_set] at h
  have hdigest := ofElement_injective (Aes.add_left_injective _ (Vector.toList_inj.mp h))
  exact foldl_blocks_set_ne hpoint hi hb 0 _ hdigest

theorem counterBlock_injective (n : Nat) : Function.Injective (counterBlock · n) := by
  intro nonce nonce' h
  apply Vector.ext
  intro i hi
  have hlt : i < 16 := by omega
  have hplace := congrArg (fun s : Block => s[i]) h
  simp only [counterBlock, Vector.getElem_ofFn, dif_pos hi] at hplace
  exact hplace

/-- The tag under another nonce is another one. -/
theorem tag_nonce_ne (hnonce : nonce' ≠ nonce) :
    tag keys nonce' hidden ≠ tag keys nonce hidden := by
  apply Vector.toList_inj.ne.mpr
  apply (Aes.add_right_injective _).ne
  exact (Aes.encryptWith_injective keys).ne ((counterBlock_injective 1).ne hnonce)

/-- What does not end in its tag is not opened. -/
theorem unsealed?_append_eq_none (hlength : given.length = tagLength)
    (h : given ≠ tag (Aes.roundKeys key) nonce hidden) :
    unsealed? key nonce (hidden ++ given) = none := by
  have hhidden : (hidden ++ given).length - tagLength = hidden.length := by
    rw [List.length_append, hlength, Nat.add_sub_cancel]
  rw [unsealed?]
  split
  · rfl
  · simp only [hhidden, List.take_left, List.drop_left, if_neg h]

end Gcm

/-! ## Tokens -/

namespace Cipher

variable {key : Aes.Key} {nonce : Gcm.Nonce} {hidden given : List UInt8} {plain token : String}

/-- A token that does not end in its tag is refused. -/
theorem decrypt_written_eq_error (hlength : given.length = Gcm.tagLength)
    (h : given ≠ Gcm.tag (Aes.roundKeys key) nonce hidden) :
    (Cipher.mk (some key)).decrypt (written (nonce.toList ++ (hidden ++ given))) =
      .error .authenticationFailed := by
  have hnonce : nonce.toList.length = nonceLength := Vector.length_toList
  have hvector : vector? nonceLength nonce.toList = some nonce := vector?_toList nonce
  rw [decrypt]
  simp only [trim_written, toBytes_written, Base64.decode_encode, List.take_left' hnonce,
    List.drop_left' hnonce, hvector, Gcm.unsealed?_append_eq_none hlength h]

/-- If the key does not encipher the zero block as itself, then whatever byte of a
token is replaced by another one, in the nonce, in the hidden text or in the tag,
the token is refused. -/
theorem changed_byte_refused
    (hsubkey : Aes.encrypt key (Vector.replicate 16 0) ≠ Vector.replicate 16 0)
    (htoken : (Cipher.mk (some key)).encrypt nonce plain = .ok token) :
    ∃ bytes, Base64.decode (Text.toBytes token) = .ok bytes ∧
      bytes.length = nonceLength + (Text.toBytes plain).length + Gcm.tagLength ∧
      ∀ (i : Nat) (hi : i < bytes.length) (b : UInt8), b ≠ bytes[i] →
        (Cipher.mk (some key)).decrypt (written (bytes.set i b)) =
          .error .authenticationFailed := by
  obtain ⟨key', hkey, -, rfl⟩ := encrypt_eq_ok_iff.mp htoken
  obtain rfl := Option.some.inj hkey
  have hpoint : Gcm.toElement (Aes.encryptWith (Aes.roundKeys key) (Vector.replicate 16 0)) ≠ 0 :=
    Gcm.toElement_injective.ne hsubkey
  let hidden := Gcm.counterMode (Aes.roundKeys key) nonce 2 (Text.toBytes plain)
  let tag := Gcm.tag (Aes.roundKeys key) nonce hidden
  have hhidden : hidden.length = (Text.toBytes plain).length := Gcm.length_counterMode ..
  have htag : tag.length = Gcm.tagLength := Gcm.length_tag ..
  have hnonce : nonce.toList.length = nonceLength := Vector.length_toList
  refine ⟨nonce.toList ++ (hidden ++ tag), decode_toBytes_eq_ok_iff.mpr rfl, ?_, ?_⟩
  · rw [List.length_append, List.length_append, hhidden, htag, hnonce, Nat.add_assoc]
  intro i hi b hb
  rw [List.length_append, List.length_append] at hi
  by_cases hinNonce : i < nonce.toList.length
  · -- the hidden text and its tag stay, but under the other nonce the tag is another one
    rw [List.getElem_append_left hinNonce] at hb
    have hi' : i < 12 := hinNonce.trans_eq hnonce
    have hset : (nonce.set i b hi').toList = nonce.toList.set i b := Vector.toList_set hi'
    have hother : nonce.set i b hi' ≠ nonce := by
      apply Vector.toList_inj.ne.mp
      rw [hset]
      exact Gcm.set_ne_self hinNonce hb
    rw [List.set_append_left i b hinNonce, ← hset]
    exact decrypt_written_eq_error htag (Gcm.tag_nonce_ne hother.symm)
  · rw [List.getElem_append_right (by omega)] at hb
    rw [List.set_append_right i b (by omega)]
    by_cases hinHidden : i - nonce.toList.length < hidden.length
    · -- the tag stays, but it is not that of the other hidden text
      rw [List.getElem_append_left hinHidden] at hb
      rw [List.set_append_left _ b hinHidden]
      exact decrypt_written_eq_error htag (Gcm.tag_set_ne hpoint hinHidden hb).symm
    · -- the hidden text stays, and so does the tag that it would need
      rw [List.getElem_append_right (by omega)] at hb
      rw [List.set_append_right _ b (by omega)]
      exact decrypt_written_eq_error (List.length_set.trans htag) (Gcm.set_ne_self (by omega) hb)

/-- Every byte of a token whose text does not fill a block. -/
theorem changed_byte_refused_shortText :
    Aes.encrypt plainKey (Vector.replicate 16 0) ≠ Vector.replicate 16 0 ∧
      ∃ token, (Cipher.mk (some plainKey)).encrypt plainNonce "schlüssel" = .ok token ∧
        ∃ bytes, Base64.decode (Text.toBytes token) = .ok bytes ∧ bytes.length = 38 ∧
          ∀ (i : Nat) (hi : i < bytes.length) (b : UInt8), b ≠ bytes[i] →
            (Cipher.mk (some plainKey)).decrypt (written (bytes.set i b)) =
              .error .authenticationFailed := by
  have hsubkey : Aes.encrypt plainKey (Vector.replicate 16 0) ≠ Vector.replicate 16 0 := by
    decide +kernel
  have hlength : (Text.toBytes "schlüssel").length ≤ Gcm.maxLength := by decide
  let token := written (plainNonce.toList ++
    Gcm.sealed plainKey plainNonce (Text.toBytes "schlüssel"))
  have htoken : (Cipher.mk (some plainKey)).encrypt plainNonce "schlüssel" = .ok token :=
    encrypt_eq_ok_iff.mpr ⟨plainKey, rfl, hlength, rfl⟩
  exact ⟨hsubkey, token, htoken, changed_byte_refused hsubkey htoken⟩

end Cipher

end CpuAlert
