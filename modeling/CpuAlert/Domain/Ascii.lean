import CpuAlert.Domain.Composition
import CpuAlert.Domain.Direction
import CpuAlert.Domain.Joining
import CpuAlert.Domain.Mapping
import CpuAlert.Domain.Punycode

/-!
# Domain names in ASCII

A domain name in other scripts is looked up under a name in ASCII: its characters
are replaced and composed, and each label that is left with characters outside
ASCII is written in ASCII letters after a mark of four characters. A label that
already has that mark stands for what it was written from, which must be a label
that would be written so.

## Main definitions

* `Domain.label?` — a label in both forms
* `Domain.toAscii?` — a domain name in ASCII
-/

namespace CpuAlert.Domain

/-- What marks a label in ASCII letters. -/
def asciiMark : List Char := ['x', 'n', '-', '-']

/-- Nothing but ASCII. -/
def isAscii (cs : List Char) : Bool := cs.all (·.toNat < 128)

/-- The label may stand in a name: it begins with no mark and its joiners fit. -/
def isPermitted (label : List Char) : Bool := !label.head?.any isMark && joinersFit label

/-- The label is not changed by replacing and composing its characters. -/
def isSettled (label : List Char) : Bool :=
  match mapText? label with
  | some mapped => compose mapped = label
  | none => false

/-- A label as it is meant and as it is looked up, after its characters have been
replaced and composed. -/
def label? (label : List Char) : Option (List Char × List Char) :=
  match label with
  | 'x' :: 'n' :: '-' :: '-' :: rest => do
    let meant ← Punycode.decode? rest
    if isAscii meant || !isSettled meant || !isPermitted meant then none
    else some (meant, asciiMark ++ Punycode.encode meant)
  | label =>
    if isAscii label then some (label, label)
    else if !isPermitted label then none
    else some (label, asciiMark ++ Punycode.encode label)

/-- A domain name in ASCII, unless it cannot be written so. -/
def toAscii? (name : String) : Option String := do
  let mapped ← mapText? name.toList
  let labels ← (Text.pieces '.' (compose mapped)).mapM label?
  if directionsAgree (labels.map (·.1)) then
    some (String.ofList (Text.joinPieces '.' (labels.map (·.2))))
  else none

end CpuAlert.Domain
