/-!
# The block cipher

AES with a key of 256 bits, in the forward direction; counter mode needs no
other. A block is its sixteen bytes, column by column: byte `4c + r` stands in
row `r` of column `c`. Bytes are polynomials over two elements, multiplied
modulo `x⁸ + x⁴ + x³ + x + 1`.

## Main definitions

* `Aes.Block`, `Aes.Key` — blocks and keys
* `Aes.roundKeys` — the fifteen round keys of a key
* `Aes.encrypt` — the cipher
-/

namespace CpuAlert.Aes

/-- Sixteen bytes, column by column. -/
abbrev Block := Vector UInt8 16

/-- Thirty-two bytes. -/
abbrev Key := Vector UInt8 32

/-! ## Bytes as polynomials -/

/-- Multiplication by `x`. -/
def double (a : UInt8) : UInt8 :=
  (a <<< 1) ^^^ (if a.toNat < 128 then 0 else 0x1b)

/-- Multiplication, by the bits of the second factor from the highest on. -/
def mul (a b : UInt8) : UInt8 :=
  [7, 6, 5, 4, 3, 2, 1, 0].foldl
    (fun z i => double z ^^^ (if b.toNat.testBit i then a else 0)) 0

/-- The inverse of a byte, as its 254th power; zero is sent to zero. -/
def inverse (a : UInt8) : UInt8 :=
  let a2 := mul a a
  let a3 := mul a2 a
  let a6 := mul a3 a3
  let a12 := mul a6 a6
  let a15 := mul a12 a3
  let a30 := mul a15 a15
  let a60 := mul a30 a30
  let a120 := mul a60 a60
  let a126 := mul a120 a6
  let a127 := mul a126 a
  mul a127 a127

/-- Rotation to the left. -/
def rotate (a : UInt8) (n : UInt8) : UInt8 := (a <<< n) ||| (a >>> (8 - n))

/-- The substitution of one byte: its inverse, under an affine map. -/
def substituted (a : UInt8) : UInt8 :=
  let b := inverse a
  b ^^^ rotate b 1 ^^^ rotate b 2 ^^^ rotate b 3 ^^^ rotate b 4 ^^^ 0x63

/-- The substitutions of all bytes, in order. -/
def substitutions : Vector UInt8 256 := Vector.ofFn fun i => substituted (.ofNat i)

/-- The substitution of one byte. -/
def substitute (a : UInt8) : UInt8 := substitutions.get ⟨a.toNat, a.toNat_lt⟩

/-! ## Rounds -/

/-- The bytes of two blocks, added. -/
def add (a b : Block) : Block := Vector.zipWith (· ^^^ ·) a b

/-- Substitute every byte. -/
def subBytes (s : Block) : Block := s.map substitute

/-- Row `r` moves `r` columns to the left. -/
def shiftRows (s : Block) : Block :=
  Vector.ofFn fun i => s[i.val % 4 + 4 * ((i.val / 4 + i.val % 4) % 4)]

/-- Every column is multiplied by a fixed matrix, whose rows are the rotations
of `2 3 1 1`. -/
def mixColumns (s : Block) : Block :=
  Vector.ofFn fun i =>
    let column := 4 * (i.val / 4)
    let row := i.val % 4
    double s[column + row] ^^^ (double s[column + (row + 1) % 4] ^^^ s[column + (row + 1) % 4])
      ^^^ s[column + (row + 2) % 4] ^^^ s[column + (row + 3) % 4]

/-! ## Keys -/

/-- The word that is added to the first column of round key `k`, from the last
column of the one before it. -/
def keyWord (k : Nat) (last : Block) (row : Nat) (h : row < 4) : UInt8 :=
  if k % 2 = 0 then
    substitute last[12 + (row + 1) % 4]
      ^^^ (if row = 0 then .ofNat (Nat.pow 2 (k / 2 - 1)) else 0)
  else substitute last[12 + row]

/-- Round key `k` from the two before it: each column is the column before it,
added to the column two round keys back. -/
def nextKey (k : Nat) (back last : Block) : Block :=
  Vector.ofFn fun i =>
    (List.range (i.val / 4 + 1)).foldl
      (fun w j => w ^^^ back.getD (4 * j + i.val % 4) 0)
      (keyWord k last (i.val % 4) (Nat.mod_lt _ (by decide)))

/-- The round keys from number `k` on, `n` of them. -/
def keysFrom (back last : Block) (k : Nat) : Nat → List Block
  | 0 => []
  | n + 1 =>
    let next := nextKey k back last
    next :: keysFrom last next (k + 1) n

/-- The fifteen round keys. The first two are the key itself. -/
def roundKeys (key : Key) : List Block :=
  let first : Block := Vector.ofFn fun i => key[i.val]
  let second : Block := Vector.ofFn fun i => key[16 + i.val]
  first :: second :: keysFrom first second 2 13

/-- The rounds under the keys that are left. The last round does not mix. -/
def rounds (s : Block) : List Block → Block
  | [] => s
  | [k] => add (shiftRows (subBytes s)) k
  | k :: ks => rounds (add (mixColumns (shiftRows (subBytes s))) k) ks

/-- A block under a list of round keys. -/
def encryptWith (keys : List Block) (s : Block) : Block :=
  match keys with
  | [] => s
  | k :: ks => rounds (add s k) ks

/-- A block under a key. -/
def encrypt (key : Key) (s : Block) : Block := encryptWith (roundKeys key) s

end CpuAlert.Aes
