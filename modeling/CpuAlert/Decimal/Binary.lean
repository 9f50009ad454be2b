/-!
# Doubles as exact numbers

A finite double is a signed whole number times a power of two. Printing works
on that exact number, in natural arithmetic, and never on rounded quotients.

## Main definitions

* `Decimal.Binary` — a finite double, taken apart
* `Decimal.Magnitude` — what a double can be
* `Decimal.Magnitude.ofFloat` — taking a double apart
-/

namespace CpuAlert.Decimal

/-- The number `± significand · 2 ^ exponent`. -/
structure Binary where
  negative : Bool
  significand : Nat
  exponent : Int
  deriving DecidableEq, Repr

/-- What a double can be. -/
inductive Magnitude
  | nan
  | infinite (negative : Bool)
  | finite (number : Binary)
  deriving DecidableEq, Repr

/-- A double is a sign, eleven bits of exponent and fifty-two of fraction; the
least exponent has no hidden leading one, the greatest marks what is not a
number. -/
def Magnitude.ofFloat (x : Float) : Magnitude :=
  let bits : Nat := x.toBits.toNat
  let negative := bits / 0x8000000000000000 == 1
  let exponent : Nat := bits / 0x10000000000000 % 0x800
  let fraction : Nat := bits % 0x10000000000000
  if exponent = 2047 then
    if fraction = 0 then .infinite negative else .nan
  else if exponent = 0 then .finite ⟨negative, fraction, -1074⟩
  else .finite ⟨negative, 0x10000000000000 + fraction, (exponent : Int) - 1075⟩

/-- The numerator of `significand · 2 ^ exponent` in lowest powers of two. -/
def Binary.num (b : Binary) : Nat := b.significand * Nat.pow 2 b.exponent.toNat

/-- The denominator that belongs to `Binary.num`. -/
def Binary.den (b : Binary) : Nat := Nat.pow 2 (-b.exponent).toNat

end CpuAlert.Decimal
