import CpuAlert.Decimal.Binary

/-!
# Fixed decimals

A percentage in a message has a fixed number of decimals. The exact value of
the double is rounded, and an exact half goes to the even neighbour.

## Main definitions

* `Decimal.roundDiv` — a quotient rounded to the nearest whole number
* `Decimal.fixed` — a double with a fixed number of decimals
-/

namespace CpuAlert.Decimal

/-- The whole number nearest to `num / den`, the even one on a tie. -/
def roundDiv (num den : Nat) : Nat :=
  let q := num / den
  let r := num % den
  if 2 * r < den then q
  else if den < 2 * r then q + 1
  else if q % 2 = 0 then q else q + 1

/-- The digits of `n` with at least `width` of them. -/
def padded (width n : Nat) : List Char :=
  let ds := Nat.toDigits 10 n
  List.replicate (width - ds.length) '0' ++ ds

/-- A double with exactly `places` decimals, at least one. A negative zero
keeps its sign. -/
def fixed (places : Nat) (x : Float) : String :=
  match Magnitude.ofFloat x with
  | .nan => "NaN"
  | .infinite negative => if negative then "-inf" else "inf"
  | .finite b =>
    let ds := padded (places + 1) (roundDiv (b.num * Nat.pow 10 places) b.den)
    let whole := ds.take (ds.length - places)
    let rest := ds.drop (ds.length - places)
    String.ofList ((if b.negative then ['-'] else []) ++ whole ++ '.' :: rest)

end CpuAlert.Decimal
