import CpuAlert.Decimal.Scaled
import CpuAlert.Json.Value

/-!
# JSON texts as far as they can be read

Reading a text yields a document: a value, cut off at the first place where the
text stops being JSON. What a text is read *for* is decided afterwards, on the
document, in the order of the text; so whether a wrong type or a broken text is
reported depends on which comes first.

Some faults matter only if the value is wanted. A number too large for a double
and an unpaired surrogate make a value unusable, yet such a value may be
skipped. A number that ends too early is cut off when it is read and malformed
when it is skipped. Where a variant is wanted the first character decides, so a
number or a name is malformed there, however it ends.

## Main definitions

* `Json.Fault` — what can be wrong with a text
* `Json.Doc` — a value up to its first fault
* `Json.Doc.read` — a text as a document
* `Json.Doc.ofValue` — a value as a document without faults
-/

namespace CpuAlert.Json

open CpuAlert.Decimal

/-- What can be wrong with a text: it is not JSON, it ends too early, or it is
JSON of another shape than wanted. -/
inductive Fault
  | malformed
  | truncated
  | mismatched
  deriving DecidableEq, Repr

/-- A number is whole if it is written without point and exponent and fits
sixty-four bits. -/
inductive Number
  | whole (n : Int)
  | float (x : Float)

/-- The name of a member, as far as it can be read. Something else than a text
may stand in its place, and that is malformed from its first character on. -/
inductive Key
  | text (name : Option String)
  | broken (whenRead whenSkipped : Fault)
  | other

/-- A value up to its first fault. A number or text without a value is one that
can only be skipped. The tail of a container is the fault that stands where a
comma or the closing bracket was expected. -/
inductive Doc
  | null
  | bool (b : Bool)
  | number (n : Option Number)
  | text (s : Option String)
  | array (items : List Doc) (tail : Option Fault)
  | object (members : List (Key × Doc)) (tail : Option Fault)
  | broken (whenRead whenSkipped asVariant : Fault)

instance : Inhabited Doc := ⟨.null⟩

/-! ## Blanks and names -/

/-- The four blanks of JSON. -/
def isJsonBlank (c : Char) : Bool := c == ' ' || c == '\n' || c == '\t' || c == '\r'

/-- The text from its first character that is not blank. -/
def skipBlanks (cs : List Char) : List Char := cs.dropWhile isJsonBlank

/-- What is left of a text, unless it was cut off. -/
abbrev Rest := Option (List Char)

/-- The document that stands where the text has ended. -/
def Doc.missing : Doc := .broken .truncated .truncated .truncated

/-- A name or a number cut off here. -/
def cut (f : Fault) : Doc × Rest := (.broken f f .malformed, none)

/-- The rest of one of the names `null`, `true` and `false`. -/
def readName (d : Doc) : List Char → List Char → Doc × Rest
  | [], r => (d, some r)
  | _ :: _, [] => cut .truncated
  | c :: cs, x :: r => if x = c then readName d cs r else cut .malformed

/-! ## Numbers -/

/-- The largest significand that is kept. -/
def maxSignificand : Nat := 0xFFFFFFFFFFFFFFFF

/-- Append digits to a significand while it stays in range; the number of
digits that were left out comes second. -/
def appendDigits (n : Nat) : List Char → Nat × Nat
  | [] => (n, 0)
  | d :: ds =>
    let m := 10 * n + (d.toNat - 48)
    if m ≤ maxSignificand then appendDigits m ds else (n, ds.length + 1)

/-- A double with its sign, or a number that is too large. -/
def signedFloat (negative : Bool) (x : Option Float) : Doc :=
  .number (x.map fun y => .float (if negative then -y else y))

/-- A whole number with its sign. A negative zero, and a negative number out of
range, are doubles. -/
def signedWhole (negative : Bool) (n : Nat) : Doc :=
  if !negative then .number (some (.whole n))
  else if n = 0 ∨ 0x8000000000000000 < n then .number (some (.float (-(Float.ofNat n))))
  else .number (some (.whole (-n)))

/-- A number that ends where a digit was expected. -/
def digitMissing (cs : List Char) : Doc × Rest :=
  (.broken (if cs.isEmpty then .truncated else .malformed) .malformed .malformed, none)

/-- The largest exponent that is read as a number. -/
def maxExponent : Nat := 0x7FFFFFFF

/-- The exponent after its letter, for a significand and the power of ten of its
last digit. An exponent out of range gives zero or a number too large. -/
def readExponent (negative : Bool) (n : Nat) (power : Int) (cs : List Char) : Doc × Rest :=
  let (down, cs) : Bool × List Char :=
    match cs with
    | '+' :: r => (false, r)
    | '-' :: r => (true, r)
    | r => (false, r)
  let ds := cs.takeWhile Char.isDigit
  let rest := cs.dropWhile Char.isDigit
  if ds.isEmpty then digitMissing cs
  else
    let e := ds.foldl (fun e d => 10 * e + (d.toNat - 48)) 0
    let x :=
      -- of zero every power is zero
      if maxExponent < e then if n ≠ 0 ∧ !down then none else some 0
      else scale? n (if down then power - e else power + e)
    (signedFloat negative x, some rest)

/-- What follows the digits of a fraction. -/
def readPower (negative : Bool) (n : Nat) (power : Int) : List Char → Doc × Rest
  | 'e' :: r => readExponent negative n power r
  | 'E' :: r => readExponent negative n power r
  | r => (signedFloat negative (scale? n power), some r)

/-- The digits after the point. Those for which the significand has no room are
dropped. -/
def readFraction (negative : Bool) (n : Nat) (power : Int) (cs : List Char) : Doc × Rest :=
  let ds := cs.takeWhile Char.isDigit
  let rest := cs.dropWhile Char.isDigit
  if ds.isEmpty then digitMissing cs
  else
    let (m, left) := appendDigits n ds
    readPower negative m (power - (ds.length - left : Nat)) rest

/-- A number from its first digit. Digits for which the significand has no room
count as zeros. -/
def readDigits (negative : Bool) (cs : List Char) : Doc × Rest :=
  let ds := cs.takeWhile Char.isDigit
  let rest := cs.dropWhile Char.isDigit
  if ds.isEmpty then digitMissing cs
  -- a zero at the beginning stands alone
  else if ds.head? = some '0' ∧ 1 < ds.length then cut .malformed
  else
    let (n, left) := appendDigits 0 ds
    match rest with
    | '.' :: r => readFraction negative n left r
    | 'e' :: r => readExponent negative n left r
    | 'E' :: r => readExponent negative n left r
    | r => if left = 0 then (signedWhole negative n, some r) else readPower negative n left r

/-! ## Texts -/

/-- The value of a digit to base sixteen. -/
def hexValue? (c : Char) : Option Nat :=
  if c.isDigit then some (c.toNat - 48)
  else if 'a' ≤ c ∧ c ≤ 'f' then some (c.toNat - 87)
  else if 'A' ≤ c ∧ c ≤ 'F' then some (c.toNat - 55)
  else none

/-- The number that four digits to base sixteen stand for. -/
def hexQuad? (a b c d : Char) : Option Nat := do
  return (((← hexValue? a) * 16 + (← hexValue? b)) * 16 + (← hexValue? c)) * 16 + (← hexValue? d)

/-- What is wrong where four such digits were expected: the text is cut off if
fewer than four bytes are left. -/
def quadFault (cs : List Char) : Fault :=
  if cs.foldr (fun c n => c.utf8Size + n) 0 < 4 then .truncated else .malformed

/-- The characters that a letter after a backslash stands for. -/
def unescape? (c : Char) : Option Char :=
  if c = '"' ∨ c = '\\' ∨ c = '/' then some c
  else if c = 'b' then some '\x08'
  else if c = 'f' then some '\x0c'
  else if c = 'n' then some '\n'
  else if c = 'r' then some '\r'
  else if c = 't' then some '\t'
  else none

/-- The characters of a text read so far, in reverse, or nothing once an
unpaired surrogate has been met. -/
abbrev Taken := Option (List Char)

/-- A text cut off here. -/
def cutText (taken : Taken) (f : Fault) : Doc × Rest :=
  let whenRead := if taken.isNone then .malformed else f
  (.broken whenRead f whenRead, none)

/-- What has been taken once an escape has been left without its partner. -/
def abandon (high : Option Nat) (taken : Taken) : Taken := if high.isSome then none else taken

/-- The character that two surrogates stand for together. -/
def joinSurrogates (high low : Nat) : Char :=
  Char.ofNat (0x10000 + (high - 0xD800) * 0x400 + (low - 0xDC00))

/-- A text after its opening quote. A leading surrogate waits for the escape
that follows it. -/
def readText (taken : Taken) (high : Option Nat) : List Char → Doc × Rest
  | [] => cutText taken .truncated
  | '"' :: r =>
    (.text ((abandon high taken).map fun cs => String.ofList cs.reverse), some r)
  | ['\\'] => cutText taken .truncated
  | '\\' :: 'u' :: a :: b :: c :: d :: r =>
    match hexQuad? a b c d with
    | none => cutText taken .malformed
    | some n =>
      if 0xDC00 ≤ n ∧ n ≤ 0xDFFF then
        match high with
        | some h => readText (taken.map (joinSurrogates h n :: ·)) none r
        -- a trailing surrogate without the leading one before it
        | none => readText none none r
      else if 0xD800 ≤ n ∧ n ≤ 0xDBFF then readText (abandon high taken) (some n) r
      else readText ((abandon high taken).map (Char.ofNat n :: ·)) none r
  | '\\' :: 'u' :: r => cutText taken (quadFault r)
  | '\\' :: c :: r =>
    match unescape? c with
    | some x => readText ((abandon high taken).map (x :: ·)) none r
    | none => cutText taken .malformed
  | c :: r =>
    if c.toNat < 0x20 then cutText taken .malformed
    else readText ((abandon high taken).map (c :: ·)) none r

/-! ## Values -/

/-- A value that is no container, from its first character. -/
def readScalar (c : Char) (r : List Char) : Doc × Rest :=
  if c = '"' then readText (some []) none r
  else if c = 'n' then readName .null ['u', 'l', 'l'] r
  else if c = 't' then readName (.bool true) ['r', 'u', 'e'] r
  else if c = 'f' then readName (.bool false) ['a', 'l', 's', 'e'] r
  else if c = '-' then readDigits true r
  else if c.isDigit then readDigits false (c :: r)
  else cut .malformed

/-- The fault of looking for something else where this value stands. -/
def Doc.mismatch : Doc → Fault
  | .number none => .malformed
  | .text none => .malformed
  | .broken f _ _ => f
  | _ => .mismatched

/-- The name of a member from its first character. -/
def readKey (c : Char) (r : List Char) : Key × Rest :=
  if c = '"' then
    match readText (some []) none r with
    | (.text s, rest) => (.text s, rest)
    | (.broken f g _, _) => (.broken f g, none)
    | (_, rest) => (.other, rest)
  else (.other, none)

mutual

/-- A value. Every value takes at least one character, so the length of the
text is fuel enough. -/
def readValue : Nat → List Char → Doc × Rest
  | 0, _ => (.missing, none)
  | fuel + 1, cs =>
    match skipBlanks cs with
    | [] => (.missing, none)
    | '[' :: r =>
      match skipBlanks r with
      | ']' :: r => (.array [] none, some r)
      | r =>
        let (items, tail, rest) := readItems fuel r
        (.array items tail, rest)
    | '\x7b' :: r =>
      match skipBlanks r with
      | '\x7d' :: r => (.object [] none, some r)
      | r =>
        let (members, tail, rest) := readMembers fuel r
        (.object members tail, rest)
    | c :: r => readScalar c r

/-- The items of an array that is not empty. -/
def readItems : Nat → List Char → List Doc × Option Fault × Rest
  | 0, _ => ([], some .truncated, none)
  | fuel + 1, cs =>
    match readValue fuel cs with
    | (d, none) => ([d], none, none)
    | (d, some r) =>
      match skipBlanks r with
      | ',' :: r =>
        let (items, tail, rest) := readItems fuel r
        (d :: items, tail, rest)
      | ']' :: r => ([d], none, some r)
      | [] => ([d], some .truncated, none)
      | _ => ([d], some .malformed, none)

/-- The members of an object that is not empty. -/
def readMembers : Nat → List Char → List (Key × Doc) × Option Fault × Rest
  | 0, _ => ([], some .truncated, none)
  | fuel + 1, cs =>
    match skipBlanks cs with
    | [] => ([(.broken .truncated .truncated, .null)], none, none)
    -- a closing brace after a comma is read as a name and refused there
    | c :: r =>
      match readKey c r with
      | (k, none) => ([(k, .null)], none, none)
      | (k, some r) =>
        match skipBlanks r with
        | ':' :: r =>
          match readValue fuel r with
          | (d, none) => ([(k, d)], none, none)
          | (d, some r) =>
            match skipBlanks r with
            | ',' :: r =>
              let (members, tail, rest) := readMembers fuel r
              ((k, d) :: members, tail, rest)
            | '\x7d' :: r => ([(k, d)], none, some r)
            | [] => ([(k, d)], some .truncated, none)
            | _ => ([(k, d)], some .malformed, none)
        | [] => ([(k, .missing)], none, none)
        | _ => ([(k, .broken .malformed .malformed .malformed)], none, none)

end

/-- A text as a document, and what follows it. -/
def Doc.read (cs : List Char) : Doc × Rest := readValue (2 * cs.length + 1) cs

mutual

/-- A value as a document without faults. -/
def Doc.ofValue : Value → Doc
  | .null => .null
  | .bool b => .bool b
  | .int n => .number (some (.whole n))
  | .float x => .number (some (.float x))
  | .text s => .text (some s)
  | .array items => .array (Doc.ofItems items) none
  | .object members => .object (Doc.ofMembers members) none

/-- Values as documents without faults. -/
def Doc.ofItems : List Value → List Doc
  | [] => []
  | v :: vs => Doc.ofValue v :: Doc.ofItems vs

/-- Members as members without faults. -/
def Doc.ofMembers : List (String × Value) → List (Key × Doc)
  | [] => []
  | (k, v) :: rest => (.text (some k), Doc.ofValue v) :: Doc.ofMembers rest

end

end CpuAlert.Json
