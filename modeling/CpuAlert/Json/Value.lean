import CpuAlert.Decimal.Shortest

/-!
# JSON values and their texts

A value is written without blanks, its members in the order they are given.

Doubles have the fewest digits that read back, and are always recognisable as
doubles: a whole one ends in `.0`. They are positional from `1e-5` up to, and
not including, `1e16`, and in scientific form outside. What is not a finite
number is written as `null`.

In a text the quote, the backslash and the controls are escaped, five controls
by a letter and the others by their number, and all else stands as it is.

## Main definitions

* `Json.Value` — a value
* `Json.Value.write` — its text
-/

namespace CpuAlert.Json

open CpuAlert.Decimal

/-- A value. Members of an object keep their order. -/
inductive Value
  | null
  | bool (b : Bool)
  | int (n : Int)
  | float (x : Float)
  | text (s : String)
  | array (items : List Value)
  | object (members : List (String × Value))

instance : Inhabited Value := ⟨.null⟩

/-! ## Numbers -/

/-- The position of the decimal point, counted from the first digit, above which
a double is written in scientific form. -/
def widestPoint : Int := 16

/-- The position of the decimal point at and below which a double is written in
scientific form. -/
def narrowestPoint : Int := -5

/-- The digits of a double around its decimal point. -/
def layout (d : Digits) : List Char :=
  let ds := Nat.toDigits 10 d.digits
  let point : Int := ds.length + d.exponent
  if 0 ≤ d.exponent ∧ point ≤ widestPoint then
    ds ++ List.replicate d.exponent.toNat '0' ++ ['.', '0']
  else if 0 < point ∧ point ≤ widestPoint then
    ds.take point.toNat ++ '.' :: ds.drop point.toNat
  else if narrowestPoint < point ∧ point ≤ 0 then
    '0' :: '.' :: List.replicate point.natAbs '0' ++ ds
  else
    let power := (toString (point - 1)).toList
    match ds with
    | [d] => d :: 'e' :: power
    | d :: rest => d :: '.' :: rest ++ 'e' :: power
    | [] => []

/-- A double as a number, or `null` if it is not finite. -/
def writeFloat (x : Float) : List Char :=
  match Magnitude.ofFloat x with
  | .finite b => (if b.negative then ['-'] else []) ++ layout (shortest b)
  | _ => ['n', 'u', 'l', 'l']

/-! ## Texts -/

/-- A digit to base sixteen, in lower case. -/
def hexDigit (n : Nat) : Char := Nat.digitChar n

/-- One character inside a text. -/
def writeChar (c : Char) : List Char :=
  if c = '"' then ['\\', '"']
  else if c = '\\' then ['\\', '\\']
  else if c = '\x08' then ['\\', 'b']
  else if c = '\x0c' then ['\\', 'f']
  else if c = '\n' then ['\\', 'n']
  else if c = '\r' then ['\\', 'r']
  else if c = '\t' then ['\\', 't']
  else if c.toNat < 0x20 then
    ['\\', 'u', '0', '0', hexDigit (c.toNat / 16), hexDigit (c.toNat % 16)]
  else [c]

/-- A text in quotes. -/
def writeText (s : String) : List Char := '"' :: s.toList.flatMap writeChar ++ ['"']

/-! ## Values -/

mutual

/-- The text of a value. -/
def Value.chars : Value → List Char
  | .null => ['n', 'u', 'l', 'l']
  | .bool true => ['t', 'r', 'u', 'e']
  | .bool false => ['f', 'a', 'l', 's', 'e']
  | .int n => (toString n).toList
  | .float x => writeFloat x
  | .text s => writeText s
  | .array items => '[' :: Value.itemChars items
  | .object members => '\x7b' :: Value.memberChars members

/-- The items of an array and the bracket that closes it. -/
def Value.itemChars : List Value → List Char
  | [] => [']']
  | [v] => v.chars ++ [']']
  | v :: vs => v.chars ++ ',' :: Value.itemChars vs

/-- The members of an object and the brace that closes it. -/
def Value.memberChars : List (String × Value) → List Char
  | [] => ['\x7d']
  | [(k, v)] => writeText k ++ ':' :: v.chars ++ ['\x7d']
  | (k, v) :: rest => writeText k ++ ':' :: v.chars ++ ',' :: Value.memberChars rest

end

/-- The text of a value, without blanks. -/
def Value.write (v : Value) : String := String.ofList v.chars

/-- The value of an optional member. -/
def Value.ofOption {α : Type} (f : α → Value) : Option α → Value
  | none => .null
  | some a => f a

/-- The member of an object with this name. -/
def Value.member? (name : String) : Value → Option Value
  | .object members => members.lookup name
  | _ => none

end CpuAlert.Json
