import CpuAlert.Text.Blank
import CpuAlert.Time.Instant

/-!
# Times in texts

Instants are written in the form of RFC 3339, in UTC, with the fewest of 0, 3,
6 or 9 fractional digits that lose nothing. Years outside 0 to 9999 carry a
sign.

Reading is more lenient than writing. Fields may have fewer digits, blanks may
stand before a number and after a field, the year may have a sign, the
separator may be a blank or a letter of either case, and the offset may be
written with colons or blanks between hours and minutes, or as `UTC`. The
second sixty is a leap second.

## Main definitions

* `Time.Rfc3339.write` — an instant as a text
* `Time.Rfc3339.read?` — a text as an instant
-/

namespace CpuAlert.Time.Rfc3339

open CpuAlert.Text

/-! ## Writing -/

/-- How the offset of UTC is written. -/
inductive Zone
  | letter
  | numeric

/-- How many fractional digits are written. -/
inductive Precision
  | seconds
  | fewest

/-- A number with at least `width` digits. -/
def pad (width n : Nat) : List Char :=
  let ds := Nat.toDigits 10 n
  List.replicate (width - ds.length) '0' ++ ds

/-- Four digits, with a sign outside 0 to 9999. -/
def writeYear (year : Int) : List Char :=
  if 0 ≤ year ∧ year ≤ 9999 then pad 4 year.natAbs
  else (if year < 0 then '-' else '+') :: pad 4 year.natAbs

/-- The fraction of a second with the fewest of 0, 3, 6 or 9 digits. -/
def writeFraction (nano : Nat) : List Char :=
  if nano = 0 then []
  else if nano % 1000000 = 0 then '.' :: pad 3 (nano / 1000000)
  else if nano % 1000 = 0 then '.' :: pad 6 (nano / 1000)
  else '.' :: pad 9 nano

/-- An instant as a text. A leap second is written as the second sixty. -/
def write (precision : Precision) (zone : Zone) (i : Instant) : String :=
  let date := Date.ofDays (i.sec / 86400)
  let tod := (i.sec % 86400).toNat
  let leap := nanosPerSecond ≤ i.nano
  let second := tod % 60 + (if leap then 1 else 0)
  let nano := if leap then i.nano - nanosPerSecond else i.nano
  String.ofList <|
    writeYear date.year ++ '-' :: pad 2 date.month ++ '-' :: pad 2 date.day
      ++ 'T' :: pad 2 (tod / 3600) ++ ':' :: pad 2 (tod / 60 % 60) ++ ':' :: pad 2 second
      ++ (match precision with | .seconds => [] | .fewest => writeFraction nano)
      ++ (match zone with | .letter => ['Z'] | .numeric => ['+', '0', '0', ':', '0', '0'])

/-! ## Reading -/

/-- The value of a run of digits. -/
def digitsValue (ds : List Char) : Nat := ds.foldl (fun n d => 10 * n + (d.toNat - 48)) 0

/-- At least one and at most `width` digits. -/
def digits? (width : Nat) (cs : List Char) : Option (Nat × List Char) :=
  let ds := (cs.take width).takeWhile Char.isDigit
  if ds.isEmpty then none else some (digitsValue ds, cs.drop ds.length)

/-- Blanks, then at most `width` digits. -/
def number? (width : Nat) (cs : List Char) : Option (Nat × List Char) :=
  digits? width (trimStartList cs)

/-- Blanks, then a year: four digits, or a sign and any number of them. -/
def year? (cs : List Char) : Option (Int × List Char) :=
  match trimStartList cs with
  | '-' :: r => (digits? r.length r).map fun (n, r) => (-(n : Int), r)
  | '+' :: r => (digits? r.length r).map fun (n, r) => ((n : Int), r)
  | r => (digits? 4 r).map fun (n, r) => ((n : Int), r)

/-- Blanks, then the given character. -/
def expect? (c : Char) (cs : List Char) : Option (List Char) :=
  match trimStartList cs with
  | d :: r => if d = c then some r else none
  | [] => none

/-- An optional fraction of a second. Digits after the ninth are dropped. -/
def fraction? : List Char → Option (Nat × List Char)
  | '.' :: r => (digits? 9 r).map fun (n, r') =>
      (n * Nat.pow 10 (9 - (r.length - r'.length)), r'.dropWhile Char.isDigit)
  | r => some (0, r)

/-- The letter or blank between date and time. -/
def separator? : List Char → Option (List Char)
  | 'T' :: r => some r
  | 't' :: r => some r
  | ' ' :: r => some r
  | _ => none

/-- Two digits, the first below `bound`. -/
def pair? (bound : Nat) : List Char → Option (Nat × List Char)
  | a :: b :: r =>
    if a.isDigit ∧ b.isDigit ∧ a.toNat - 48 < bound then some (digitsValue [a, b], r) else none
  | _ => none

/-- Hours, colons or blanks, and minutes, in seconds. -/
def offsetTime? (cs : List Char) : Option (Int × List Char) := do
  let (hours, r) ← pair? 10 cs
  let (minutes, r) ← pair? 6 (r.dropWhile fun c => c == ':' || isBlank c)
  return (((hours * 60 + minutes) * 60 : Nat), r)

/-- The distance from UTC in seconds. -/
def offset? : List Char → Option (Int × List Char)
  | 'Z' :: r => some (0, r)
  | 'z' :: r => some (0, r)
  | '+' :: r => offsetTime? r
  | '-' :: r => (offsetTime? r).map fun (n, r) => (-n, r)
  | '\u2212' :: r => (offsetTime? r).map fun (n, r) => (-n, r)
  | u :: t :: c :: r => if [u, t, c].map Char.toUpper = ['U', 'T', 'C'] then some (0, r) else none
  | _ => none

/-- The instant of a local time at a distance from UTC. The local date and the
instant must both be in range. -/
def instant? (date : Date) (hour minute second nano : Nat) (offset : Int) : Option Instant := do
  guard (date.IsValid ∧ hour ≤ 23 ∧ minute ≤ 59 ∧ second ≤ 60 ∧ offset.natAbs < 86400)
  let leap := second = 60
  let localSecond := date.toDays * 86400
    + ((hour * 60 + minute) * 60 + (if leap then 59 else second) : Nat)
  guard (firstSecond ≤ localSecond ∧ localSecond ≤ lastSecond)
  Instant.mk? (localSecond - offset) (if leap then nanosPerSecond + nano else nano)

/-- A text as an instant. Only blanks may follow it. -/
def read? (s : String) : Option Instant := do
  let (year, r) ← year? s.toList
  let r ← expect? '-' r
  let (month, r) ← number? 2 r
  let r ← expect? '-' r
  let (day, r) ← number? 2 r
  let r ← separator? r
  let (hour, r) ← number? 2 r
  let r ← expect? ':' r
  let (minute, r) ← number? 2 r
  let r ← expect? ':' r
  let (second, r) ← number? 2 r
  let (nano, r) ← fraction? r
  let (offset, r) ← offset? (trimStartList r)
  guard (trimStartList r).isEmpty
  instant? ⟨year, month, day⟩ hour minute second nano offset

end CpuAlert.Time.Rfc3339
