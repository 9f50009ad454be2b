import CpuAlert.Json.Doc

/-!
# Addresses to listen at

An address is four numbers up to 255, or eight groups of sixteen bits in square
brackets, and the number of a socket. Of the eight groups one run of zeros may be
left out, and the last two may be written like an address of four numbers.

An address has one written form: the longest run of at least two zeros is left
out, the first of several, and only groups that stand for an address of four
numbers end like one.

## Main definitions

* `Ip`, `Address` — addresses without and with a socket
* `Address.read?` — an address from its text
* `Address.write` — the written form
-/

namespace CpuAlert

/-- The address of a host: four numbers, or eight groups within a scope, where
zero is no scope. -/
inductive Ip
  | four (a b c d : Nat)
  | eight (groups : List Nat) (scope : Nat)
  deriving DecidableEq, Repr

/-- The address of a host and the number of a socket there. -/
structure Address where
  ip : Ip
  socket : Nat
  deriving DecidableEq, Repr

namespace Ip

/-! ## Reading -/

/-- A number of digits to a base and up to a bound, and what follows it. There
may be a bound on the digits, and zeros at its beginning may be refused. -/
def readNumber (base bound : Nat) (most : Option Nat) (padded : Bool) (cs : List Char) :
    Option (Nat × List Char) :=
  let isDigit (c : Char) : Bool := (Json.hexValue? c).any (· < base)
  let ds := cs.takeWhile isDigit
  let value := ds.foldl (fun n c => base * n + (Json.hexValue? c).getD 0) 0
  if ds.isEmpty ∨ most.any (· < ds.length) ∨ bound < value
      ∨ (¬ padded ∧ ds.head? = some '0' ∧ 1 < ds.length) then none
  else some (value, cs.dropWhile isDigit)

/-- What follows a character that has to come first. -/
def expect (c : Char) : List Char → Option (List Char)
  | x :: r => if x = c then some r else none
  | [] => none

/-- A number up to 255 without zeros at its beginning. -/
def readOctet (cs : List Char) : Option (Nat × List Char) := readNumber 10 255 (some 3) false cs

/-- Four numbers with points between them. -/
def readFour (cs : List Char) : Option ((Nat × Nat × Nat × Nat) × List Char) := do
  let (a, r) ← readOctet cs
  let (b, r) ← readOctet (← expect '.' r)
  let (c, r) ← readOctet (← expect '.' r)
  let (d, r) ← readOctet (← expect '.' r)
  return ((a, b, c, d), r)

/-- Groups with colons between them, as many as there are but no more than a
bound. Whether they end like an address of four numbers comes second. -/
def readGroups (first : Bool) : Nat → List Char → List Nat × Bool × List Char
  | 0, cs => ([], false, cs)
  | n + 1, cs =>
    let start := if first then some cs else expect ':' cs
    -- an address of four numbers takes the room of two groups
    match if n = 0 then none else start.bind readFour with
    | some ((a, b, c, d), r) => ([256 * a + b, 256 * c + d], true, r)
    | none =>
      match start.bind (readNumber 16 65535 (some 4) true) with
      | none => ([], false, cs)
      | some (g, r) =>
        let (gs, fourAtEnd, r) := readGroups false n r
        (g :: gs, fourAtEnd, r)

/-- Eight groups, or fewer around two colons that stand for zeros. -/
def readEight (cs : List Char) : Option (List Nat × List Char) :=
  let (head, fourAtEnd, r) := readGroups true 8 cs
  if head.length = 8 then some (head, r)
  else if fourAtEnd then none
  else do
    let (tail, _, r) := readGroups true (7 - head.length) (← expect ':' (← expect ':' r))
    return (head ++ List.replicate (8 - head.length - tail.length) 0 ++ tail, r)

/-! ## Writing -/

/-- Four numbers with points between them. -/
def writeFour (a b c d : Nat) : String :=
  ".".intercalate ([a, b, c, d].map toString)

/-- The longest run of zeros, the first of several: where it begins and how long
it is. -/
def longestZeros (groups : List Nat) : Nat × Nat :=
  let run (i : Nat) : Nat := ((groups.drop i).takeWhile (· == 0)).length
  (List.range groups.length).foldl
    (fun best i => if best.2 < run i then (i, run i) else best) (0, 0)

/-- Groups with colons between them, to base sixteen. -/
def writeGroups (groups : List Nat) : String :=
  ":".intercalate (groups.map fun g => String.ofList (Nat.toDigits 16 g))

/-- Eight groups. -/
def writeEight (groups : List Nat) : String :=
  match groups with
  | [0, 0, 0, 0, 0, 65535, x, y] => "::ffff:" ++ writeFour (x / 256) (x % 256) (y / 256) (y % 256)
  | groups =>
    let (start, length) := longestZeros groups
    if 1 < length then
      writeGroups (groups.take start) ++ "::" ++ writeGroups (groups.drop (start + length))
    else writeGroups groups

end Ip

namespace Address

/-- The socket after a colon. -/
def readSocket (cs : List Char) : Option (Nat × List Char) := do
  Ip.readNumber 10 65535 none true (← Ip.expect ':' cs)

/-- An address of four numbers and a socket. -/
def readFour (cs : List Char) : Option (Address × List Char) := do
  let ((a, b, c, d), r) ← Ip.readFour cs
  let (socket, r) ← readSocket r
  return (⟨.four a b c d, socket⟩, r)

/-- The scope after a percent sign, if there is one. -/
def readScope (cs : List Char) : Nat × List Char :=
  ((Ip.expect '%' cs).bind (Ip.readNumber 10 0xFFFFFFFF none true)).getD (0, cs)

/-- An address of eight groups and a socket. -/
def readEight (cs : List Char) : Option (Address × List Char) := do
  let (groups, r) ← Ip.readEight (← Ip.expect '[' cs)
  let (scope, r) := readScope r
  let (socket, r) ← readSocket (← Ip.expect ']' r)
  return (⟨.eight groups scope, socket⟩, r)

/-- An address from its text. -/
def read? (s : String) : Option Address :=
  match (readFour s.toList).or (readEight s.toList) with
  | some (a, []) => some a
  | _ => none

/-- The written form of an address. -/
def write (a : Address) : String :=
  match a.ip with
  | .four w x y z => Ip.writeFour w x y z ++ ":" ++ toString a.socket
  | .eight groups 0 => "[" ++ Ip.writeEight groups ++ "]:" ++ toString a.socket
  | .eight groups scope =>
    "[" ++ Ip.writeEight groups ++ "%" ++ toString scope ++ "]:" ++ toString a.socket

end Address

end CpuAlert
