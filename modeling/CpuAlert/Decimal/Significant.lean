import CpuAlert.Decimal.Fixed
import CpuAlert.Decimal.Shortest

/-!
# A fixed number of significant digits

A column of texts keeps a double with fifteen significant digits. The exact
value is rounded, and half a unit goes up. Trailing zeros are dropped, but a
point always has a digit on both sides. Numbers below 0.0001 and numbers with
more than fifteen digits before the point have an exponent of at least two
digits with its sign.

## Main definitions

* `Decimal.significant` — a double rounded to so many digits
* `Decimal.columnText` — a double as the text of a column
-/

namespace CpuAlert.Decimal

/-- The double rounded to `count` significant digits, half a unit going up. -/
def significant (count : Nat) (b : Binary) : Digits :=
  let e := b.leading + 1 - count
  let (n, rest, step) := b.floor e
  Digits.strip (count + 1) ⟨if step ≤ 2 * rest then n + 1 else n, e⟩

/-- The digits that a column of texts keeps. -/
def columnDigits : Nat := 15

/-- Digits after a point, of which there is always one. -/
def afterPoint (ds : List Char) : List Char := '.' :: (if ds.isEmpty then ['0'] else ds)

/-- Digits with a point, or with an exponent. -/
def layout (d : Digits) : List Char :=
  let ds := Nat.toDigits 10 d.digits
  let lead : Int := d.exponent + ds.length - 1
  if lead < -4 ∨ columnDigits ≤ lead then
    ds.take 1 ++ afterPoint (ds.drop 1) ++ 'e' :: (if lead < 0 then '-' else '+')
      :: padded 2 lead.natAbs
  else if lead < 0 then
    '0' :: '.' :: List.replicate (lead.natAbs - 1) '0' ++ ds
  else
    let whole := lead.toNat + 1
    ds.take whole ++ List.replicate (whole - ds.length) '0' ++ afterPoint (ds.drop whole)

/-- A double as the text of a column. Zero has no sign. -/
def columnText (x : Float) : String :=
  match Magnitude.ofFloat x with
  | .nan => "NaN"
  | .infinite negative => if negative then "-Inf" else "Inf"
  | .finite b =>
    if b.significand = 0 then "0.0"
    else String.ofList ((if b.negative then ['-'] else []) ++ layout (significant columnDigits b))

end CpuAlert.Decimal
