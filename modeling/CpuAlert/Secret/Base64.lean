/-!
# Base sixty-four

Three bytes are written as four symbols of six bits. A last group of one or two
bytes is filled up with padding, and the bits the padding stands for are zero,
so every list of bytes has exactly one written form, and only that form is read.

A text that is not such a form is refused for its first fault: a foreign symbol
in a full group, then what is wrong with the last group.

## Main definitions

* `Base64.encode`, `Base64.decode` — writing and reading
* `Base64.Error` — why a text was refused
-/

namespace CpuAlert.Base64

/-- The byte that fills up the last group. -/
def padding : UInt8 := 61

/-- Why a text was refused. Offsets count bytes from the start of the text. -/
inductive Error
  | symbol (byte : UInt8) (offset : Nat)
  | length (symbols : Nat)
  | lastSymbol (byte : UInt8) (offset : Nat)
  | padding
  deriving DecidableEq, Repr

/-- The wording of a refusal. -/
def Error.message : Error → String
  | .symbol byte offset => s!"Invalid symbol {byte.toNat}, offset {offset}."
  | .length symbols => s!"Invalid input length: {symbols}"
  | .lastSymbol byte offset => s!"Invalid last symbol {byte.toNat}, offset {offset}."
  | .padding => "Invalid padding"

/-- The symbol for six bits: capital letters, small letters, digits, plus and
slash. -/
def symbol (n : Nat) : UInt8 :=
  if n < 26 then .ofNat (n + 65)
  else if n < 52 then .ofNat (n + 71)
  else if n < 62 then .ofNat (n - 4)
  else if n = 62 then 43
  else 47

/-- The six bits that a symbol stands for. -/
def value? (b : UInt8) : Option Nat :=
  let n := b.toNat
  if 65 ≤ n ∧ n ≤ 90 then some (n - 65)
  else if 97 ≤ n ∧ n ≤ 122 then some (n - 71)
  else if 48 ≤ n ∧ n ≤ 57 then some (n + 4)
  else if n = 43 then some 62
  else if n = 47 then some 63
  else none

/-! ## Writing -/

/-- The symbols of a list of bytes. -/
def encode : List UInt8 → List UInt8
  | a :: b :: c :: rest =>
    symbol (a.toNat / 4) :: symbol (a.toNat % 4 * 16 + b.toNat / 16)
      :: symbol (b.toNat % 16 * 4 + c.toNat / 64) :: symbol (c.toNat % 64) :: encode rest
  | [a, b] =>
    [symbol (a.toNat / 4), symbol (a.toNat % 4 * 16 + b.toNat / 16), symbol (b.toNat % 16 * 4),
      padding]
  | [a] => [symbol (a.toNat / 4), symbol (a.toNat % 4 * 16), padding, padding]
  | [] => []

/-! ## Reading -/

/-- The value of the symbol at an offset. -/
def valueAt (b : UInt8) (offset : Nat) : Except Error Nat :=
  match value? b with
  | some n => .ok n
  | none => .error (.symbol b offset)

/-- The three bytes of four values. -/
def triple (p q r s : Nat) : List UInt8 :=
  [.ofNat (p * 4 + q / 16), .ofNat (q % 16 * 16 + r / 4), .ofNat (r % 4 * 64 + s)]

/-- Groups of four symbols without padding, from an offset on. -/
def decodeFull (offset : Nat) : List UInt8 → Except Error (List UInt8)
  | a :: b :: c :: d :: rest => do
    let p ← valueAt a offset
    let q ← valueAt b (offset + 1)
    let r ← valueAt c (offset + 2)
    let s ← valueAt d (offset + 3)
    return triple p q r s ++ (← decodeFull (offset + 4) rest)
  | _ => .ok []

/-- The values of the last group up to its padding, whose length comes second.
Padding begins no earlier than after two symbols, and only padding follows it. -/
def lastValues (start index : Nat) : List UInt8 → Except Error (List Nat × Nat)
  | [] => .ok ([], 0)
  | b :: rest => do
    if b = padding then
      if index < 2 then throw (.symbol b (start + index))
      -- the padding is at fault for what follows it
      if rest.any (· ≠ padding) then throw (.symbol padding (start + index))
      return ([], rest.length + 1)
    let v ← valueAt b (start + index)
    let (vs, pads) ← lastValues start (index + 1) rest
    return (v :: vs, pads)

/-- The bytes of the last group. It is full or filled up, and the bits that its
padding stands for are zero. -/
def decodeLast (start : Nat) (group : List UInt8) : Except Error (List UInt8) := do
  let (values, pads) ← lastValues start 0 group
  if values.length < 2 then throw (.length (start + values.length))
  if (values.length + pads) % 4 ≠ 0 then throw .padding
  match values with
  | [p, q, r, s] => return triple p q r s
  | [p, q, r] =>
    if r % 4 ≠ 0 then throw (.lastSymbol (group.getD 2 0) (start + 2))
    return (triple p q r 0).take 2
  | [p, q] =>
    if q % 16 ≠ 0 then throw (.lastSymbol (group.getD 1 0) (start + 1))
    return (triple p q 0 0).take 1
  | _ => return []

/-- The bytes that a text stands for. A single byte after the last full group
is looked at first. -/
def decode (text : List UInt8) : Except Error (List UInt8) := do
  let n := text.length
  if n = 0 then return []
  if n % 4 = 1 then
    let last := text.getLastD 0
    if last ≠ padding ∧ (value? last).isNone then throw (.symbol last (n - 1))
  let start := if n % 4 = 0 then n - 4 else n - n % 4
  let body ← decodeFull 0 (text.take start)
  let rest ← decodeLast start (text.drop start)
  return body ++ rest

end CpuAlert.Base64
