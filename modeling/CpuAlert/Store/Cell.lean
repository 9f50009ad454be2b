import CpuAlert.Decimal.Significant
import CpuAlert.Store

/-!
# Cells of a database file

A cell holds nothing, a whole number of sixty-four bits, a double or a text. A
column has a kind, and a value put into it is turned into that kind if that
loses nothing: a text that is a number becomes one in a column of numbers, and a
double without a fraction becomes a whole number where those are kept. A value
that cannot be turned stays as it is, so a column may hold a value of another
kind than its own; reading such a cell fails.

## Main definitions

* `Cell` — a cell
* `Cell.number?` — the number that a text is
* `Cell.asWhole`, `Cell.asReal`, `Cell.asText` — a value put into a column
* `Cell.readInt`, `Cell.readFlag`, `Cell.readReal` — reading a column
-/

namespace CpuAlert

open Decimal

/-- A cell of a table. -/
inductive Cell
  | null
  | int (n : Int)
  | real (x : Float)
  | text (s : String)

namespace Cell

/-- A double in a cell: what is not a number is nothing, and zero has no sign. -/
def ofFloat (x : Float) : Cell := if x.isNaN then null else real (if x == 0 then 0 else x)

/-- A truth value in a cell. -/
def ofBool (b : Bool) : Cell := int (if b then 1 else 0)

/-- The kind of what the cell holds. -/
def kind : Cell → String
  | null => "NULL"
  | int _ => "INTEGER"
  | real _ => "REAL"
  | text _ => "TEXT"

/-! ## Numbers in texts -/

/-- The blanks that may stand around a number. -/
def isPadding (c : Char) : Bool := c == ' ' || (9 ≤ c.toNat && c.toNat ≤ 13)

/-- A number as it is written: its sign, its digits without the point, the power
of ten of the last digit, and whether it has neither point nor exponent. -/
structure Numeral where
  negative : Bool
  digits : List Char
  exponent : Int
  plain : Bool

/-- The sign and what follows it. -/
def splitSign : List Char → Bool × List Char
  | '-' :: r => (true, r)
  | '+' :: r => (false, r)
  | r => (false, r)

/-- The value of digits. -/
def digitsValue (ds : List Char) : Nat := ds.foldl (fun n d => 10 * n + (d.toNat - 48)) 0

/-- The greatest exponent that makes a difference. -/
def greatestExponent : Nat := 10000

/-- An exponent and what follows it, if there is one; its letter needs a digit. -/
def readExponent? (cs : List Char) : Option (Int × Bool × List Char) :=
  match cs with
  | c :: r =>
    if c = 'e' ∨ c = 'E' then
      let (negative, r) := splitSign r
      let ds := r.takeWhile Char.isDigit
      let e : Nat := min (digitsValue ds) greatestExponent
      if ds.isEmpty then none
      else some (if negative then -e else e, false, r.dropWhile Char.isDigit)
    else some (0, true, cs)
  | [] => some (0, true, [])

/-- The numeral that a text is, with blanks around it. It has at least one digit
before its exponent. -/
def numeral? (s : String) : Option Numeral := do
  let (negative, cs) := splitSign (s.toList.dropWhile isPadding)
  let whole := cs.takeWhile Char.isDigit
  let rest := cs.dropWhile Char.isDigit
  let (fraction, rest, pointless) :=
    match rest with
    | '.' :: r => (r.takeWhile Char.isDigit, r.dropWhile Char.isDigit, false)
    | r => ([], r, true)
  if whole.isEmpty ∧ fraction.isEmpty then none
  let (e, bare, rest) ← readExponent? rest
  if (rest.dropWhile isPadding).isEmpty then
    some ⟨negative, whole ++ fraction, e - fraction.length, pointless && bare⟩
  else none

/-- The number has sixty-four bits. -/
def fitsInt64 (n : Int) : Bool := -0x8000000000000000 ≤ n && n < 0x8000000000000000

/-- A double as a whole number, if it is one strictly inside sixty-four bits. -/
def wholeOf? (x : Float) : Option Int :=
  match Magnitude.ofFloat x with
  | .finite b =>
    let n : Int := if b.negative then -(b.num / b.den : Nat) else (b.num / b.den : Nat)
    if b.num % b.den = 0 ∧ -0x8000000000000000 < n ∧ n < 0x7FFFFFFFFFFFFFFF then some n else none
  | _ => none

/-- The double of a numeral. -/
def Numeral.float (m : Numeral) : Float :=
  let x := Float.ofScientific (digitsValue m.digits) (m.exponent < 0) m.exponent.natAbs
  if m.negative then -x else x

/-- The number that a text is. Without point and exponent it is a whole number,
unless that has too many bits. -/
def number? (s : String) : Option Cell :=
  (numeral? s).map fun m =>
    let n : Int := if m.negative then -(digitsValue m.digits : Int) else digitsValue m.digits
    if m.plain && fitsInt64 n then int n else ofFloat m.float

/-! ## Putting values into columns -/

/-- A double becomes a whole number if it is one. -/
def tighten : Cell → Cell
  | real x => ((wholeOf? x).map int).getD (real x)
  | c => c

/-- A whole number becomes a double. -/
def widen : Cell → Cell
  | int n => real (Float.ofInt n)
  | c => c

/-- A text becomes the number that it is. -/
def parse : Cell → Cell
  | text s => (number? s).getD (text s)
  | c => c

/-- A value in a column of whole numbers. -/
def asWhole (c : Cell) : Cell := c.parse.tighten

/-- A value in a column of doubles. -/
def asReal (c : Cell) : Cell := c.parse.widen

/-- A value in a column of texts, which turns everything into a text. -/
def asText : Cell → String
  | null => ""
  | int n => toString n
  | real x => columnText x
  | text s => s

/-! ## Reading columns -/

/-- A cell in a column, given by its name in quotes or its place, that holds
another kind than wanted. -/
def mismatch (column wanted : String) (c : Cell) : StoreError :=
  .queryFailed ("error occurred while decoding column " ++ column
    ++ ": mismatched types; Rust type " ++ wanted ++ " is not compatible with SQL type \x60"
    ++ c.kind ++ "\x60")

/-- The name of a column in quotes. -/
def quotedName (column : String) : String := "\"" ++ column ++ "\""

/-- A whole number. -/
def readInt (column : String) : Cell → Except StoreError Int
  | int n => .ok n
  | c => .error (c.mismatch (quotedName column) "\x60i64\x60 (as SQL type \x60INTEGER\x60)")

/-- A truth value; every number but zero is true. -/
def readFlag (column : String) : Cell → Except StoreError Bool
  | int n => .ok (n != 0)
  | c => .error (c.mismatch (quotedName column) "\x60bool\x60 (as SQL type \x60BOOLEAN\x60)")

/-- A double. -/
def readReal (column : String) : Cell → Except StoreError Float
  | real x => .ok x
  | c => .error (c.mismatch (quotedName column) "\x60f64\x60 (as SQL type \x60REAL\x60)")

/-- A whole number or nothing, in the first column of an answer. -/
def readOptionalInt : Cell → Except StoreError (Option Int)
  | null => .ok none
  | int n => .ok (some n)
  | c => .error
    (c.mismatch "0" "\x60core::option::Option<i64>\x60 (as SQL type \x60INTEGER\x60)")

end Cell

end CpuAlert
