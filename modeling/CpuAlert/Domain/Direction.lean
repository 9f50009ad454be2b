import CpuAlert.Domain.Mark

/-!
# The direction of labels

A name with letters that run from right to left can be read in only one way if
each of its labels runs in one direction: it begins with a letter of that
direction, holds no letter of the other, and ends in a letter or digit, after
which only marks may follow. A label that runs to the left has digits of one kind
only. The table holds the characters that a domain name may have.

## Main definitions

* `Domain.Direction`, `Domain.direction` — the direction of a character
* `Domain.directionsAgree` — the labels of a name run in one direction each
-/

namespace CpuAlert.Domain

open Text (Steps)

/-- The direction of a character: a letter to the right or to the left, a digit,
a digit of Arabic, a sign that follows its neighbours, or one that may not stand
in such a name. -/
inductive Direction
  | rightward
  | leftward
  | digit
  | arabicDigit
  | neutral
  | excluded
  deriving DecidableEq, Repr

/-- The code points at which the direction changes, marks that take no place left
out: `l` for letters that run on to the right of what is left of them, `r` for
those that run to the left, `d` and `a` for digits, `n` for signs. -/
def directions : String := "
  0:n 9:x E:n 1C:x 21:n 30:d 3A:n 61:l 7B:n DF:l F7:n F8:l 2B9:n 2BB:l 2C2:n 2D0:l 2D2:n 2EE:l
  2EF:n 371:l 375:n 377:l 3F6:n 3F8:l 58A:n 5BE:r 606:n 608:r 609:n 60B:r 60C:n 60D:r 60E:n 61B:r
  660:a 66A:n 66B:a 66D:r 6DE:n 6E5:r 6E9:n 6EE:r 6F0:d 6FA:r 7F6:n 7FA:r 903:l 9F2:n 9F4:l 9FB:n
  9FC:l AF1:n AF9:l BF3:n C01:l C78:n C7F:l E3F:n E40:l F3A:n F3E:l 1390:n 13A0:l 1400:n 1401:l
  169B:n 16A0:l 17DB:n 17DC:l 17F0:n 1810:l 1940:n 1946:l 19DE:n 1A00:l 200C:n 214E:l 218A:n
  2336:l 237B:n 2395:l 2396:n 2427:l 2440:n 26AC:l 26AD:n 2800:l 2900:n 2B96:l 2B97:n 2C30:l
  2CE5:n 2CEC:l 2CF9:n 2D00:l 2E00:n 3005:l 3008:n 3021:l 3030:n 3031:l 3037:n 303B:l 303D:n
  3041:l 30A0:n 30A1:l 30FB:n 30FC:l 31C0:n 31E4:l 4DC0:n 4E00:l A490:n A4D0:l A60D:n A610:l
  A673:n A681:l A700:n A723:l A788:n A789:l A828:n A830:l A838:n A840:l A874:n A880:l AB6A:n
  ABC0:l FBB2:r FD3E:n FD90:r FDCF:n FE73:r 10000:l 10101:n 10102:l 10140:n 1018D:l 10190:n
  101D0:l 102E1:d 10300:l 10800:r 1091F:n 10920:r 10B39:n 10B40:r 10D30:a 10D40:r 10E60:a 10E80:r
  11000:l 11052:n 11066:l 11660:n 11680:l 1171E:n 11720:l 11FD5:n 11FFF:l 16FE2:n 16FE3:l 1D1E9:n
  1D2C0:l 1D300:n 1D360:l 1E2FF:n 1E4D0:l 1E800:r 1EEF0:n 1F150:l 1F16D:n 1F170:l 1F1AD:n 1F1E6:l
  1F260:n 1F6D8:l 1F6DC:n 1F777:l 1F77B:n 1F8B2:l 1F900:n 1FA54:l 1FA60:n 1FA89:l 1FA90:n 1FABE:l
  1FABF:n 1FAC6:l 1FACE:n 1FADC:l 1FAE0:n 1FAE9:l 1FAF0:n 1FBCB:l"

/-- The changes of the direction. -/
def directionSteps : Steps Direction :=
  .ofTable
    (fun v =>
      if v = ['l'] then .rightward
      else if v = ['r'] then .leftward
      else if v = ['d'] then .digit
      else if v = ['a'] then .arabicDigit
      else if v = ['n'] then .neutral
      else .excluded)
    directions

/-- The direction of a character. -/
def direction (c : Char) : Direction :=
  if markKind c = .nonspacing then .neutral else directionSteps.value .neutral c.toNat

/-- The character runs to the left, or is a digit of Arabic. -/
def runsLeft (c : Char) : Bool := direction c == .leftward || direction c == .arabicDigit

/-- A label that is not empty runs in one direction. -/
def runsOneWay (label : List Char) : Bool :=
  let kinds := label.map direction
  -- marks may follow the last letter or digit
  let last := (label.reverse.dropWhile fun c => markKind c = .nonspacing).head?.map direction
  match kinds with
  | .rightward :: _ =>
    kinds.all (fun d => d == .rightward || d == .digit || d == .neutral)
      && (last == some .rightward || last == some .digit)
  | .leftward :: _ =>
    kinds.all (fun d => d != .rightward && d != .excluded)
      && !(kinds.contains .digit && kinds.contains .arabicDigit)
      && (last == some .leftward || last == some .digit || last == some .arabicDigit)
  | _ => false

/-- The labels of a name run in one direction each, or nothing in it runs to the
left. -/
def directionsAgree (labels : List (List Char)) : Bool :=
  !labels.any (·.any runsLeft) || labels.all fun l => l.isEmpty || runsOneWay l

end CpuAlert.Domain
