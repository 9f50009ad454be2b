/-!
# Decimals read as doubles

A decimal is read as its significand, a whole number of at most sixty-four
bits, and a power of ten. The significand becomes a double and is multiplied or
divided by that power once, so the result may be off by a unit in the last
place; a power below the smallest tabulated one is reached in steps. A number
too large for a double is refused, one too small becomes zero.

## Main definitions

* `Decimal.powerOfTen` — the double nearest to a power of ten
* `Decimal.scale?` — significand and exponent as a double
-/

namespace CpuAlert.Decimal

/-- The greatest power of ten that a double can hold. -/
def maxPower : Nat := 308

/-- The double nearest to `10 ^ e`. -/
def powerOfTen (e : Nat) : Float := Float.ofScientific 1 false e

/-- Divide by `10 ^ e`, in steps if that power is too large for a double. -/
def divide (x : Float) (e : Nat) : Float :=
  if e ≤ maxPower then x / powerOfTen e
  else if x == 0 then x
  else divide (x / powerOfTen maxPower) (e - maxPower)
termination_by e
decreasing_by simp only [maxPower] at *; omega

/-- The double for `significand · 10 ^ exponent`, unless it is too large. -/
def scale? (significand : Nat) (exponent : Int) : Option Float :=
  let x := Float.ofNat significand
  if exponent < 0 then some (divide x exponent.natAbs)
  else if exponent.natAbs ≤ maxPower then
    let y := x * powerOfTen exponent.natAbs
    if y.isInf then none else some y
  else if x == 0 then some x
  else none

end CpuAlert.Decimal
