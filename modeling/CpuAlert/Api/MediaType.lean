/-!
# Media types

A media type names a type, a subtype and, after a plus sign, the format that
the subtype is written in; parameters may follow. Only whether a body is JSON
is asked of it, but a media type that is not well formed is none at all.

## Main definitions

* `MediaType` — a media type without its parameters
* `MediaType.read?` — a media type from a header
* `MediaType.isJson` — bodies of this type are JSON
-/

namespace CpuAlert

/-- A media type without its parameters, in lower case. -/
structure MediaType where
  type : String
  subtype : String
  suffix : Option String
  deriving DecidableEq, Repr

namespace MediaType

/-- A character of a token. -/
def isToken (c : Char) : Bool :=
  c.isAlphanum || ['!', '#', '$', '%', '&', '\x27', '*', '+', '-', '.', '^', '_', '\x60', '|',
    '~'].contains c

/-- A character between quotes. -/
def isQuoted (c : Char) : Bool := 32 ≤ c.toNat && c.toNat ≤ 126

/-- The parameters after a semicolon are well formed. Each is a name and a value
that is a token or stands in quotes. Spaces are allowed before a name and after
a quoted value, and a quoted value is not empty. -/
def wellFormedParameters : Nat → List Char → Bool
  | 0, _ => false
  | fuel + 1, cs =>
    match cs.dropWhile (· == ' ') with
    | [] => true
    | cs =>
      match cs.takeWhile isToken, cs.dropWhile isToken with
      | [], _ => false
      | _, '=' :: '"' :: c :: r =>
        match r.dropWhile fun c => c != '"' && isQuoted c with
        | '"' :: r =>
          isQuoted c &&
            match r.dropWhile (· == ' ') with
            | [] => true
            | ';' :: r => wellFormedParameters fuel r
            | _ => false
        | _ => false
      | _, '=' :: r =>
        match r.dropWhile isToken with
        | [] => true
        | ';' :: rest => r.head? != some ';' && wellFormedParameters fuel rest
        | _ => false
      | _, _ => false

/-- A subtype and the format after its last plus sign, unless it begins with
that sign. -/
def splitSuffix (cs : List Char) : List Char × Option (List Char) :=
  let format := (cs.reverse.takeWhile (· != '+')).reverse
  let subtype := cs.take (cs.length - format.length - 1)
  if subtype.isEmpty then (cs, none) else (subtype, some format)

/-- Characters in lower case. -/
def lower (cs : List Char) : String := String.ofList (cs.map Char.toLower)

/-- A media type from a header. -/
def read? (s : String) : Option MediaType :=
  let type := s.toList.takeWhile isToken
  match type, s.toList.dropWhile isToken with
  | [], _ => none
  | _, '/' :: r =>
    let (subtype, suffix) := splitSuffix (r.takeWhile isToken)
    let m : MediaType := ⟨lower type, lower subtype, suffix.map lower⟩
    match r.dropWhile isToken with
    | [] => some m
    | ';' :: rest =>
      if r.head? ≠ some ';' ∧ wellFormedParameters rest.length.succ rest then some m else none
    | _ => none
  | _, _ => none

/-- Bodies of this type are JSON. -/
def isJson (m : MediaType) : Bool :=
  m.type == "application" && (m.subtype == "json" || m.suffix == some "json")

end MediaType

end CpuAlert
