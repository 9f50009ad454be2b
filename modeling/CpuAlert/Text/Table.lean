import CpuAlert.Text.Pieces

/-!
# Tables of characters

What a standard says of its characters is data, kept as text: entries between
blanks, whose numbers are written to base sixteen. Most of these properties
change seldom from one code point to the next, so a table of such a property
holds only the code points at which it changes, in increasing order, each with
the value that begins there.

## Main definitions

* `Text.hexNumber` — a number of a table
* `Text.entries` — the entries of a table
* `Text.Steps` — a property that changes at some code points
-/

namespace CpuAlert.Text

/-- The value of a digit to base sixteen, a capital letter from ten on. -/
def hexDigit (c : Char) : Nat := if c.isDigit then c.toNat - 48 else c.toNat - 55

/-- The number that digits to base sixteen stand for. -/
def hexNumber (cs : List Char) : Nat := cs.foldl (fun n c => 16 * n + hexDigit c) 0

/-- The entries of a table. -/
def entries (table : String) : List (List Char) :=
  (pieces ' ' (table.toList.map fun c => if c = '\n' then ' ' else c)).filter (!·.isEmpty)

/-- A property that changes at some code points, in increasing order. -/
abbrev Steps (α : Type) := List (Nat × α)

namespace Steps

variable {α : Type}

/-- The property of a code point; before the first change it is the default. -/
def value (steps : Steps α) (default : α) (n : Nat) : α :=
  steps.foldl (fun a step => if step.1 ≤ n then step.2 else a) default

/-- The changes of a table, whose entries are a code point, a colon and a
value. -/
def ofTable (readValue : List Char → α) (table : String) : Steps α :=
  (entries table).map fun entry =>
    (hexNumber (entry.takeWhile (· != ':')), readValue ((entry.dropWhile (· != ':')).drop 1))

end Steps

/-- The code point belongs to a class that begins and ends, in turn, at these
code points: an odd number of them lie at or below it. -/
def isBetween (changes : List Nat) (n : Nat) : Bool := changes.countP (· ≤ n) % 2 == 1

end CpuAlert.Text
