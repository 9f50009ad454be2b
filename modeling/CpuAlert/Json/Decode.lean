import CpuAlert.Json.Doc

/-!
# Values of other types from documents

A decoder takes a value of one type from a document and reports the first fault
in the order of the text. A record is written as an object with named members
or as an array of its fields in their order. Of an object, members with unknown
names are skipped, a known name may occur only once, and what is missing at the
end may have a default. Of an array, only trailing fields with a default may be
missing.

## Main definitions

* `Json.Decoder` — a way to take a value from a document
* `Json.Field`, `Json.Decoder.record` — records
* `Json.decodeText` — a whole text
* `Json.decodeLeading` — the value a text begins with
-/

namespace CpuAlert.Json

/-- A way to take a value from a document. -/
abbrev Decoder (α : Type) := Doc → Except Fault α

/-- The fault at the end of a container, if there is one. -/
def endOf : Option Fault → Except Fault Unit
  | none => .ok ()
  | some f => .error f

/-- The name of a member. -/
def Key.name : Key → Except Fault String
  | .text (some s) => .ok s
  | .broken f _ => .error f
  | _ => .error .malformed

/-- Skip the name of a member. -/
def Key.skip : Key → Except Fault Unit
  | .text _ => .ok ()
  | .broken _ f => .error f
  | .other => .error .malformed

mutual

/-- Skip a value: only what is not JSON at all is a fault. -/
def Doc.skip : Doc → Except Fault Unit
  | .broken _ f _ => .error f
  | .array items tail => do
    Doc.skipItems items
    endOf tail
  | .object members tail => do
    Doc.skipMembers members
    endOf tail
  | _ => .ok ()

/-- Skip the items of an array. -/
def Doc.skipItems : List Doc → Except Fault Unit
  | [] => .ok ()
  | d :: ds => do
    d.skip
    Doc.skipItems ds

/-- Skip the members of an object. -/
def Doc.skipMembers : List (Key × Doc) → Except Fault Unit
  | [] => .ok ()
  | (k, d) :: rest => do
    k.skip
    d.skip
    Doc.skipMembers rest

end

mutual

/-- Take a value whole, whatever it is, with at most `depth` containers inside
each other. -/
def Doc.whole : Nat → Doc → Except Fault Unit
  | _, .broken f _ _ => .error f
  | _, .number none => .error .malformed
  | _, .text none => .error .malformed
  | 0, .array _ _ => .error .malformed
  | 0, .object _ _ => .error .malformed
  | depth + 1, .array items tail => do
    Doc.wholeItems depth items
    endOf tail
  | depth + 1, .object members tail => do
    Doc.wholeMembers depth members
    endOf tail
  | _, _ => .ok ()

/-- Take the items of an array whole. -/
def Doc.wholeItems : Nat → List Doc → Except Fault Unit
  | _, [] => .ok ()
  | depth, d :: ds => do
    Doc.whole depth d
    Doc.wholeItems depth ds

/-- Take the members of an object whole. -/
def Doc.wholeMembers : Nat → List (Key × Doc) → Except Fault Unit
  | _, [] => .ok ()
  | depth, (k, d) :: rest => do
    let _ ← k.name
    Doc.whole depth d
    Doc.wholeMembers depth rest

end

namespace Decoder

variable {α σ : Type}

/-! ## Plain values -/

/-- A truth value. -/
def bool : Decoder Bool
  | .bool b => .ok b
  | d => .error d.mismatch

/-- A text. -/
def text : Decoder String
  | .text (some s) => .ok s
  | d => .error d.mismatch

/-- A double; a whole number is rounded to one. -/
def float : Decoder Float
  | .number (some (.float x)) => .ok x
  | .number (some (.whole n)) => .ok (Float.ofInt n)
  | d => .error d.mismatch

/-- A whole number from `low` to `high`, written as one. -/
def whole (low high : Int) : Decoder Int
  | .number (some (.whole n)) => if low ≤ n ∧ n ≤ high then .ok n else .error .mismatched
  | d => .error d.mismatch

/-- A whole number of sixty-four bits with a sign. -/
def int64 : Decoder Int := whole (-0x8000000000000000) 0x7FFFFFFFFFFFFFFF

/-- A natural number below `2 ^ bits`. -/
def natural (bits : Nat) : Decoder Nat := fun d =>
  (whole 0 (Nat.pow 2 bits - 1 : Nat) d).map Int.toNat

/-- A value or `null`. -/
def optional (decode : Decoder α) : Decoder (Option α)
  | .null => .ok none
  | d => (decode d).map some

/-- The items of an array, one after the other. -/
def items (decode : Decoder α) : List Doc → Except Fault (List α)
  | [] => .ok []
  | d :: ds => do
    let a ← decode d
    let as ← items decode ds
    return a :: as

/-- An array of values of one type. -/
def list (decode : Decoder α) : Decoder (List α)
  | .array ds tail => do
    let as ← items decode ds
    endOf tail
    return as
  | d => .error d.mismatch

/-- A value of another type that has this text. -/
def ofText (parse : String → Option α) : Decoder α := fun d => do
  match parse (← text d) with
  | some a => return a
  | none => throw .mismatched

/-- One of several names without a value, as a text or as the only member of an
object, with `null` as its value. -/
def variant (parse : String → Option α) : Decoder α
  | .text (some s) =>
    match parse s with
    | some a => .ok a
    | none => .error .mismatched
  | .text none => .error .malformed
  | .broken _ _ f => .error f
  | .object [] tail => .error (tail.getD .malformed)
  | .object ((k, d) :: rest) tail => do
    match parse (← k.name) with
    | none => throw .mismatched
    | some a =>
      match d with
      | .null =>
        -- nothing may follow the only member, not even something broken
        if rest.isEmpty then endOf tail else throw .malformed
        return a
      | d => throw d.mismatch
  | _ => .error .malformed

end Decoder

/-! ## Records -/

/-- What happens if a field is missing: nothing may be missing, the default
stands in, or the default stands in only where fields have names. -/
inductive Presence
  | required
  | defaulted
  | optional
  deriving DecidableEq

/-- A field of a record: its name and how a document for it is stored in a
record that is being read. -/
structure Field (σ : Type) where
  name : String
  presence : Presence
  store : Doc → σ → Except Fault σ

/-- A field whose value is decoded and put into the record. -/
def Field.of {α σ : Type} (name : String) (presence : Presence) (decode : Decoder α)
    (put : α → σ → σ) : Field σ :=
  ⟨name, presence, fun d s => (decode d).map fun a => put a s⟩

namespace Decoder

variable {σ : Type}

/-- The members of an object. The names of the fields met come first. -/
def members (fields : List (Field σ)) (seen : List String) (s : σ) :
    List (Key × Doc) → Except Fault (List String × σ)
  | [] => .ok (seen, s)
  | (k, d) :: rest => do
    let name ← k.name
    match fields.find? (·.name == name) with
    | none =>
      d.skip
      members fields seen s rest
    | some f =>
      -- a second occurrence is refused before its value is looked at
      if seen.contains name then throw .mismatched
      let s ← f.store d s
      members fields (name :: seen) s rest

/-- The items of an array, one for each field in order. -/
def places (s : σ) : List (Field σ) → List Doc → Option Fault → Except Fault σ
  | [], [], tail => do
    endOf tail
    return s
  | [], _ :: _, _ => .error .malformed
  | f :: fs, d :: ds, tail => do
    let s ← f.store d s
    places s fs ds tail
  | fs, [], tail => do
    endOf tail
    if fs.all (·.presence == .defaulted) then return s else throw .mismatched

/-- A record, from an object or from an array, beginning with the values that
missing fields keep. -/
def record (fields : List (Field σ)) (start : σ) : Decoder σ
  | .object ms tail => do
    let (seen, s) ← members fields [] start ms
    endOf tail
    if fields.all fun f => f.presence != .required || seen.contains f.name then return s
    else throw .mismatched
  | .array ds tail => places start fields ds tail
  | d => .error d.mismatch

end Decoder

/-! ## Texts -/

variable {α : Type}

/-- Decode a text that holds one value and blanks. -/
def decodeText (decode : Decoder α) (s : String) : Except Fault α := do
  let (d, rest) := Doc.read s.toList
  let a ← decode d
  match rest with
  | some r => if (skipBlanks r).isEmpty then return a else throw .malformed
  | none => return a

/-- Decode the value that a text begins with, whatever follows. -/
def decodeLeading (decode : Decoder α) (s : String) : Except Fault α :=
  decode (Doc.read s.toList).1

/-- Any value, as it is. -/
def readValue? (s : String) : Option Value :=
  (decodeText (fun d => (Doc.whole s.length d).map fun _ => d) s).toOption.bind toValue?
where
  /-- A document without faults as a value. -/
  toValue? : Doc → Option Value
    | .null => some .null
    | .bool b => some (.bool b)
    | .number (some (.whole n)) => some (.int n)
    | .number (some (.float x)) => some (.float x)
    | .text (some s) => some (.text s)
    | .array items none => (ofItems? items).map .array
    | .object members none => (ofMembers? members).map .object
    | _ => none
  /-- Items without faults as values. -/
  ofItems? : List Doc → Option (List Value)
    | [] => some []
    | d :: ds => do return (← toValue? d) :: (← ofItems? ds)
  /-- Members without faults as members. -/
  ofMembers? : List (Key × Doc) → Option (List (String × Value))
    | [] => some []
    | (.text (some k), d) :: rest => do return (k, ← toValue? d) :: (← ofMembers? rest)
    | _ => none

end CpuAlert.Json
