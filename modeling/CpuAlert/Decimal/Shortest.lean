import CpuAlert.Decimal.Binary

/-!
# Shortest decimals

A double is written with the fewest decimal digits that read back to it; of
several such decimals with that many digits, with the nearest, and on an exact
tie with the one whose last digit is even.

The reals that read back to a double form an interval around it, half way to
each neighbour, whose ends belong to it exactly if the significand is even. For
one digit, two digits and so on, the two points of that decimal grid around the
double are tested against the interval. If any point of a grid lies in the
interval, so does one of these two.

## Main definitions

* `Decimal.Digits` — a whole number times a power of ten
* `Decimal.shortest` — the digits of a positive double
-/

namespace CpuAlert.Decimal

/-- The number `digits · 10 ^ exponent`. -/
structure Digits where
  digits : Nat
  exponent : Int
  deriving DecidableEq, Repr

/-- Move the trailing zeros of the digits into the exponent. -/
def Digits.strip : Nat → Digits → Digits
  | 0, d => d
  | fuel + 1, d =>
    if d.digits % 10 = 0 ∧ d.digits ≠ 0 then strip fuel ⟨d.digits / 10, d.exponent + 1⟩ else d

/-- The double's interval in units of a quarter of its last place: the lower
end, the double itself and the upper end. Below a power of two the neighbour is
only half as far. -/
def Binary.interval (b : Binary) : Nat × Nat × Nat :=
  let lower := if b.significand = 0x10000000000000 ∧ b.exponent > -1074 then 1 else 2
  (4 * b.significand - lower, 4 * b.significand, 4 * b.significand + 2)

/-- Whether `n · 10 ^ e` reads back to the double. -/
def Binary.readsBack (b : Binary) (n : Nat) (e : Int) : Bool :=
  let (low, _, high) := b.interval
  let scale := Nat.pow 2 (b.exponent - 2).toNat * Nat.pow 10 (-e).toNat
  let point := n * Nat.pow 10 e.toNat * Nat.pow 2 (2 - b.exponent).toNat
  if b.significand % 2 = 0 then low * scale ≤ point && point ≤ high * scale
  else low * scale < point && point < high * scale

/-- The greatest `n` with `n · 10 ^ e` at most the double, and what is left
over, as a fraction of the grid's step. -/
def Binary.floor (b : Binary) (e : Int) : Nat × Nat × Nat :=
  let num := b.num * Nat.pow 10 (-e).toNat
  let den := b.den * Nat.pow 10 e.toNat
  (num / den, num % den, den)

/-- The exponent of ten of the double's leading digit. -/
def Binary.leading (b : Binary) : Int :=
  ((Nat.toDigits 10 (b.num * Nat.pow 10 400 / b.den)).length : Int) - 401

/-- The better of the two points of the grid of step `10 ^ e` around the
double, if one of them reads back. -/
def Binary.onGrid (b : Binary) (e : Int) : Option Nat :=
  let (n, rest, step) := b.floor e
  match b.readsBack n e, b.readsBack (n + 1) e with
  | true, true =>
    -- both read back, so the nearer one is taken
    if 2 * rest < step then some n
    else if step < 2 * rest then some (n + 1)
    else some (if n % 2 = 0 then n else n + 1)
  | true, false => some n
  | false, true => some (n + 1)
  | false, false => none

/-- Seventeen digits always suffice, so the search stops there. -/
def Binary.search (b : Binary) (lead : Int) : Nat → Nat → Digits
  | 0, _ => ⟨0, 0⟩
  | fuel + 1, count =>
    let e := lead - count
    match b.onGrid e with
    | some n => ⟨n, e⟩
    | none => search b lead fuel (count + 1)

/-- The fewest digits that read back to the double. -/
def shortest (b : Binary) : Digits :=
  if b.significand = 0 then ⟨0, 0⟩
  else Digits.strip 20 (b.search b.leading 17 0)

end CpuAlert.Decimal
