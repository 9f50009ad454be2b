/-!
# Labels in ASCII letters

A label with characters outside ASCII is written with letters, digits and
hyphens: first its ASCII characters in order, then, after a hyphen, the others in
the order of their code points. Each of them is a number: how many possible
insertions lie between it and the one before it. Such a number is written to base
thirty-six, least digit first, and ends at the first digit below a threshold; the
thresholds follow the numbers written so far, so that numbers of their size
become short.

## Main definitions

* `Punycode.encode` — a label in ASCII letters
* `Punycode.decode?` — the label that ASCII letters stand for
-/

namespace CpuAlert.Punycode

/-! ## Digits and thresholds -/

/-- A digit: a letter below twenty-six, then a figure. -/
def digitChar (d : Nat) : Char :=
  if d < 26 then Char.ofNat (97 + d) else Char.ofNat (22 + d)

/-- The value of a digit. -/
def digitValue? (c : Char) : Option Nat :=
  if 'a' ≤ c ∧ c ≤ 'z' then some (c.toNat - 97)
  else if 'A' ≤ c ∧ c ≤ 'Z' then some (c.toNat - 65)
  else if '0' ≤ c ∧ c ≤ '9' then some (c.toNat - 22)
  else none

/-- The threshold of the digit at a place, which is a multiple of thirty-six. -/
def threshold (bias place : Nat) : Nat :=
  if place ≤ bias then 1 else if bias + 26 ≤ place then 26 else place - bias

theorem one_le_threshold (bias place : Nat) : 1 ≤ threshold bias place := by
  grind [threshold]

/-- A number brought below 456 by divisions by thirty-five, with thirty-six for
each of them. -/
def scaleDown (n place : Nat) : Nat × Nat :=
  if 455 < n then scaleDown (n / 35) (place + 36) else (n, place)
termination_by n
decreasing_by omega

/-- The bias after a number, when so many characters have been written. The first
number counts less, since it is usually the largest. -/
def adapt (n count : Nat) (first : Bool) : Nat :=
  let halved := if first then n / 700 else n / 2
  let (rest, place) := scaleDown (halved + halved / count) 0
  place + 36 * rest / (rest + 38)

/-! ## Writing -/

/-- A number from its digit at a place on. -/
def writeNumber (bias place n : Nat) : List Char :=
  let t := threshold bias place
  if n < t then [digitChar n]
  else digitChar (t + (n - t) % (36 - t)) :: writeNumber bias (place + 36) ((n - t) / (36 - t))
termination_by n
decreasing_by
  have := one_le_threshold bias place
  have := Nat.div_le_self (n - threshold bias place) (36 - threshold bias place)
  omega

/-- What has been written, the insertions passed since the last number, the bias,
and how many characters are in place. -/
structure Progress where
  written : List Char := []
  passed : Nat := 0
  bias : Nat := 72
  count : Nat

/-- Pass a character of the label while characters with code point `n` are put in
place; `first` says that none outside ASCII has been before. -/
def Progress.pass (basic n : Nat) (p : Progress) (c : Char) : Progress :=
  if c.toNat < n then { p with passed := p.passed + 1 }
  else if c.toNat = n then
    { written := p.written ++ writeNumber p.bias 36 p.passed
      passed := 0
      bias := adapt p.passed (p.count + 1) (p.count == basic)
      count := p.count + 1 }
  else p

/-- Put the characters with these code points in place, which increase from
`start` on. -/
def writeFrom (label : List Char) (basic : Nat) : Nat → List Nat → Progress → List Char
  | _, [], p => p.written
  | start, n :: ns, p =>
    let p := { p with passed := p.passed + (n - start) * (p.count + 1) }
    let p := label.foldl (Progress.pass basic n) p
    writeFrom label basic (n + 1) ns { p with passed := p.passed + 1 }

/-- The characters of ASCII. -/
def basics (label : List Char) : List Char := label.filter (·.toNat < 128)

/-- The code points outside ASCII, once each and increasing. -/
def codePoints (label : List Char) : List Nat :=
  (((label.map Char.toNat).filter (128 ≤ ·)).mergeSort (· ≤ ·)).eraseDups

/-- A label in ASCII letters. -/
def encode (label : List Char) : List Char :=
  let basic := basics label
  (if basic.isEmpty then [] else basic ++ ['-'])
    ++ writeFrom label basic.length 128 (codePoints label) { count := basic.length }

/-! ## Reading -/

/-- Read a number from its digit at a place on, which counts `weight`. -/
def readNumber? (bias place weight : Nat) : List Char → Option (Nat × List Char)
  | [] => none
  | c :: cs => do
    let d ← digitValue? c
    let t := threshold bias place
    if d < t then return (d * weight, cs)
    let (n, rest) ← readNumber? bias (place + 36) (weight * (36 - t)) cs
    return (d * weight + n, rest)

/-- Read insertions one after the other: the next may be of a character from `n`
on, at `position` in the label. The length of the text is fuel enough. -/
def insertAll (bias n position : Nat) (label : List Char) :
    Nat → List Char → Option (List Char)
  | _, [] => some label
  | 0, _ => none
  | fuel + 1, cs => do
    let (d, rest) ← readNumber? bias 36 1 cs
    let count := label.length + 1
    let n := n + (position + d) / count
    let position := (position + d) % count
    if n.isValidChar then
      insertAll (adapt d count (label.all (·.toNat < 128))) n (position + 1)
        (label.insertIdx position (Char.ofNat n)) fuel rest
    else none

/-- The label that ASCII letters stand for. What stands before the last hyphen is
taken as it is, and cannot be empty. -/
def decode? (cs : List Char) : Option (List Char) :=
  let digits := (cs.reverse.takeWhile (· != '-')).reverse
  let basic := cs.take (cs.length - digits.length - 1)
  if cs.any (128 ≤ ·.toNat) || (basic.isEmpty && digits.length < cs.length) then none
  else insertAll 72 128 0 basic digits.length digits

end CpuAlert.Punycode
