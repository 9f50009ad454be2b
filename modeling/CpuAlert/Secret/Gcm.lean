import CpuAlert.Secret.Aes

/-!
# Authenticated encryption

Counter mode hides a text, and a polynomial in a secret element of a field with
`2 ^ 128` elements authenticates what was written. Blocks are read as
polynomials whose constant term is the first bit, multiplied modulo
`x¹²⁸ + x⁷ + x² + x + 1`.

A sealed text is the hidden text followed by its tag. Opening checks the tag
before anything else is done with the text.

## Main definitions

* `Gcm.fieldMul` — multiplication in the field
* `Gcm.hash` — the polynomial hash
* `Gcm.counterMode` — hiding, which is its own inverse
* `Gcm.tag`, `Gcm.sealed`, `Gcm.unsealed?` — sealing and opening
-/

namespace CpuAlert.Gcm

open CpuAlert.Aes (Block Key)

/-- Twelve bytes, fresh for every text. -/
abbrev Nonce := Vector UInt8 12

/-- The bytes of a tag. -/
def tagLength : Nat := 16

/-- The longest text that can be sealed, in bytes. -/
def maxLength : Nat := 0x1000000000

/-- The longest hidden text that is opened, in bytes: its limit is that of a text with
its tag, although it is counted without. -/
def maxHidden : Nat := maxLength + tagLength

/-! ## The field -/

/-- An element of the field; the first bit is the constant term. -/
abbrev Element := BitVec 128

/-- What `x¹²⁸` is reduced to. -/
def reduction : Element := 0xe1#128 <<< 120

/-- Multiplication by `x`. -/
def timesX (a : Element) : Element :=
  (a >>> 1) ^^^ (if a.getLsbD 0 then reduction else 0)

/-- Multiplication, by the coefficients of the first factor from the highest
power on. -/
def fieldMul (a b : Element) : Element :=
  (List.range 128).foldl (fun z i => timesX z ^^^ (if a.getLsbD i then b else 0)) 0

/-- A block as an element. -/
def toElement (b : Block) : Element :=
  .ofNat 128 (b.toList.foldl (fun n x => n * 256 + x.toNat) 0)

/-- An element as a block. -/
def ofElement (a : Element) : Block :=
  Vector.ofFn fun i => .ofNat (a.toNat / Nat.pow 256 (15 - i.val))

/-! ## The hash -/

/-- A block from at most sixteen bytes, filled up with zeros. -/
def padBlock (bytes : List UInt8) : Block := Vector.ofFn fun i => bytes.getD i.val 0

/-- The blocks of a text, the last one filled up with zeros. -/
def blocks (bytes : List UInt8) : List Block :=
  match bytes with
  | [] => []
  | b :: bs => padBlock ((b :: bs).take 16) :: blocks ((b :: bs).drop 16)
termination_by bytes.length
decreasing_by simp only [List.length_drop, List.length_cons]; omega

/-- The length of a text in bits, as the last block. Nothing else is
authenticated, so the first half is zero. -/
def lengthBlock (length : Nat) : Block := ofElement (.ofNat 128 (8 * length))

/-- The hash of blocks at a point of the field. -/
def hash (point : Element) (bs : List Block) : Element :=
  bs.foldl (fun y b => fieldMul (y ^^^ toElement b) point) 0

/-! ## Counter mode -/

/-- The nonce with a counter of four bytes. -/
def counterBlock (nonce : Nonce) (n : Nat) : Block :=
  Vector.ofFn fun i =>
    if h : i.val < 12 then nonce[i.val] else .ofNat (n / Nat.pow 256 (15 - i.val))

/-- Add the enciphered counters, from `n` on, to a text. -/
def counterMode (keys : List Block) (nonce : Nonce) (n : Nat) (bytes : List UInt8) :
    List UInt8 :=
  match bytes with
  | [] => []
  | b :: bs =>
    let stream := (Aes.encryptWith keys (counterBlock nonce n)).toList
    List.zipWith (· ^^^ ·) ((b :: bs).take 16) stream
      ++ counterMode keys nonce (n + 1) ((b :: bs).drop 16)
termination_by bytes.length
decreasing_by simp only [List.length_drop, List.length_cons]; omega

/-! ## Sealing -/

/-- The tag of a hidden text. -/
def tag (keys : List Block) (nonce : Nonce) (hidden : List UInt8) : List UInt8 :=
  -- the point is the zero block enciphered, so it depends on the key alone
  let point := toElement (Aes.encryptWith keys (Vector.replicate 16 0))
  let digest := hash point (blocks hidden ++ [lengthBlock hidden.length])
  (Aes.add (ofElement digest) (Aes.encryptWith keys (counterBlock nonce 1))).toList

/-- A text under a key and a nonce: hidden, with its tag. -/
def sealed (key : Key) (nonce : Nonce) (plain : List UInt8) : List UInt8 :=
  let keys := Aes.roundKeys key
  -- the first counter is used up by the tag
  let hidden := counterMode keys nonce 2 plain
  hidden ++ tag keys nonce hidden

/-- The text in a sealed one, if its tag is right. -/
def unsealed? (key : Key) (nonce : Nonce) (bytes : List UInt8) : Option (List UInt8) :=
  if bytes.length < tagLength ∨ maxHidden + tagLength < bytes.length then none
  else
    let keys := Aes.roundKeys key
    let hidden := bytes.take (bytes.length - tagLength)
    let given := bytes.drop (bytes.length - tagLength)
    if given = tag keys nonce hidden then some (counterMode keys nonce 2 hidden) else none

end CpuAlert.Gcm
