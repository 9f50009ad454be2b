import CpuAlert.Domain.Ascii
import CpuAlert.Text.Alphanumeric
import CpuAlert.Text.Blank

/-!
# Mailboxes

A recipient is an address, or a name before an address in angle brackets. The
parts of an address are atoms with dots between them; the part before the at
sign may also be quoted. Spaces and tabs before either part are dropped.
Alternatives are tried in order, and the first that fits is kept even if what
follows does not fit it.

What the grammar admits is then checked once more, the part before the at sign
first: its length, and that nothing but a dotted atom, or a quoted text, is left
of it. The domain consists of labels that begin and end with a letter or digit,
either as it stands or as it is looked up, in ASCII letters. Numeric addresses
with dots are such domains.

## Main definitions

* `Mailbox.Address` — the two parts of an address
* `Mailbox.Fault` — why a mailbox was refused
* `Mailbox.read` — a mailbox as an address
-/

namespace CpuAlert.Mailbox

/-- The two parts of an address. -/
structure Address where
  user : String
  domain : String
  deriving DecidableEq, Repr

/-- An address as it is used. -/
def Address.text (a : Address) : String := a.user ++ "@" ++ a.domain

/-- Why a mailbox was refused. -/
inductive Fault
  | input
  | user
  | domain
  deriving DecidableEq, Repr

/-- The wording of a refusal. -/
def Fault.message : Fault → String
  | .input => "Invalid input"
  | .user => "Invalid email user"
  | .domain => "Invalid email domain"

/-- What was read, and the rest. -/
abbrev Reading := Option (List Char × List Char)

/-! ## Characters -/

/-- Outside ASCII. -/
def isWide (c : Char) : Bool := 127 < c.toNat

/-- A sign that may stand in an atom. -/
def isAtomSign (c : Char) : Bool :=
  ['!', '#', '$', '%', '&', '\x27', '*', '+', '-', '/', '=', '?', '^', '_', '\x60', '\x7b', '|',
    '\x7d', '~'].contains c

/-- A character of an atom in the grammar, which admits everything outside
ASCII. -/
def isAtomChar (c : Char) : Bool := c.isAlphanum || isAtomSign c || isWide c

/-- A character of an atom in the checks: a letter or digit of some script, or a
sign. -/
def isCheckedChar (c : Char) : Bool := Text.isAlphanumeric c || isAtomSign c

/-- A space or tab. -/
def isSpace (c : Char) : Bool := c == ' ' || c == '\t'

/-- A control that is neither blank nor zero. -/
def isPlainControl (c : Char) : Bool :=
  let n := c.toNat
  (1 ≤ n && n ≤ 8) || n == 11 || n == 12 || (14 ≤ n && n ≤ 31) || n == 127

/-- A character that stands for itself between quotes. -/
def isQuotedChar (c : Char) : Bool :=
  let n := c.toNat
  n == 33 || (35 ≤ n && n ≤ 91) || (93 ≤ n && n ≤ 126) || isPlainControl c || isWide c

/-- A character that may follow a backslash. -/
def isEscapable (c : Char) : Bool :=
  let n := c.toNat
  1 ≤ n && n ≤ 127 && n != 10 && n != 13

/-! ## Grammar -/

/-- Spaces, of which the first is kept. -/
def spaces (cs : List Char) : List Char × List Char :=
  ((cs.takeWhile isSpace).take 1, cs.dropWhile isSpace)

/-- At least one character of an atom, after spaces that are dropped. -/
def atom? (cs : List Char) : Reading :=
  let r := cs.dropWhile isSpace
  let a := r.takeWhile isAtomChar
  if a.isEmpty then none else some (a, r.dropWhile isAtomChar)

/-- A dot and an atom that follows it at once, over and over. The length of the
text is fuel enough. -/
def dotted : Nat → List Char → List Char × List Char
  | 0, cs => ([], cs)
  | fuel + 1, cs =>
    match cs with
    | '.' :: r =>
      let a := r.takeWhile isAtomChar
      -- a dot without an atom is left for what follows
      if a.isEmpty then ([], cs)
      else
        let (as, rest) := dotted fuel (r.dropWhile isAtomChar)
        ('.' :: a ++ as, rest)
    | _ => ([], cs)

/-- Atoms with dots between them. -/
def dotAtom? (cs : List Char) : Reading := do
  let (a, r) ← atom? cs
  let (as, rest) := dotted r.length r
  return (a ++ as, rest)

/-- One character between quotes. -/
def quotedChar? : List Char → Option (Char × List Char)
  | '\\' :: c :: r => if isEscapable c then some (c, r) else none
  | c :: r => if isQuotedChar c then some (c, r) else none
  | [] => none

/-- Characters between quotes, each after spaces. -/
def quotedText : Nat → List Char → List Char × List Char
  | 0, cs => ([], cs)
  | fuel + 1, cs =>
    let (s, r) := spaces cs
    match quotedChar? r with
    -- spaces before the closing quote are not part of the text
    | some (c, r) =>
      let (as, r) := quotedText fuel r
      (s ++ c :: as, r)
    | none => ([], cs)

/-- A text in quotes, without them. -/
def quoted? : List Char → Reading
  | '"' :: r =>
    let (a, r) := quotedText r.length r
    match Text.trimStartList r with
    | '"' :: r => some (a, r)
    | _ => none
  | _ => none

/-- A quoted text or an atom. -/
def word? (cs : List Char) : Reading := quoted? cs <|> atom? cs

/-- An address: a part before the at sign, and a domain. -/
def address? (cs : List Char) : Option (Address × List Char) := do
  let (user, r) ← dotAtom? cs <|> quoted? cs
  match r with
  | '@' :: r =>
    let (domain, r) ← dotAtom? r
    return (⟨String.ofList user, String.ofList domain⟩, r)
  | _ => none

/-- The rest after words, dots and spaces. -/
def afterWords : Nat → List Char → List Char
  | 0, cs => cs
  | fuel + 1, cs =>
    match word? cs with
    | some (_, r) => afterWords fuel r
    | none =>
      match cs with
      | c :: r => if c = '.' ∨ isSpace c then afterWords fuel r else cs
      | [] => []

/-- The rest after a name, which begins with a word. -/
def afterName (cs : List Char) : List Char :=
  match word? cs with
  | some (_, r) => afterWords r.length r
  | none => cs

/-- An address in angle brackets, after a name or without one. -/
def namedAddress? (cs : List Char) : Option (Address × List Char) :=
  match afterName cs with
  | '<' :: r => do
    let (a, r) ← address? r
    match r with
    | '>' :: r => return (a, r)
    | _ => none
  | _ => none

/-- A mailbox with nothing but blanks around it. -/
def mailbox? (s : String) : Option Address := do
  let cs := Text.trimStartList s.toList
  let (a, r) ← address? cs <|> namedAddress? cs
  if (Text.trimStartList r).isEmpty then some a else none

/-! ## Checks -/

/-- The pieces of a text between its dots. -/
def labels (s : String) : List (List Char) := Text.pieces '.' s.toList

/-- Atoms with dots between them, and nothing else. -/
def isDottedAtom (s : String) : Bool :=
  (labels s).all fun l => !l.isEmpty && l.all isCheckedChar

/-- What may stand between the quotes of a quoted part. -/
def isQuotedContent : List Char → Bool
  | [] => true
  | ['\\'] => false
  | '\\' :: c :: r => 33 ≤ c.toNat && c.toNat ≤ 126 && isQuotedContent r
  | c :: r => (isSpace c || (isQuotedChar c && !isPlainControl c)) && isQuotedContent r

/-- The part before the at sign has at most 64 bytes and is a dotted atom, or a
text in quotes. -/
def isUser (s : String) : Bool :=
  s != "" && s.utf8ByteSize ≤ 64 &&
    (if s.toList.head? = some '"' ∧ s.toList.getLast? = some '"' then
      2 < s.utf8ByteSize && isQuotedContent (s.toList.drop 1).dropLast
    else isDottedAtom s)

/-- A label of a domain has at most 63 bytes, begins and ends with a letter or
digit and is an atom. -/
def isLabel (l : List Char) : Bool :=
  l.foldr (fun c n => c.utf8Size + n) 0 ≤ 63 && l.all isCheckedChar
    && l.head?.any Text.isAlphanumeric && l.getLast?.any Text.isAlphanumeric

/-- A domain has at most 254 bytes and consists of labels. -/
def isPlainDomain (s : String) : Bool := s.utf8ByteSize ≤ 254 && (labels s).all isLabel

/-- A domain as it stands, or as it is looked up. -/
def isDomain (s : String) : Bool := isPlainDomain s || (Domain.toAscii? s).any isPlainDomain

/-- A mailbox as an address. -/
def read (s : String) : Except Fault Address :=
  match mailbox? s with
  | none => .error .input
  | some a =>
    if !isUser a.user then .error .user
    else if !isDomain a.domain then .error .domain
    else .ok a

end CpuAlert.Mailbox
