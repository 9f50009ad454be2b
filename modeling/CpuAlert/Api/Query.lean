import CpuAlert.Json.Doc
import CpuAlert.Text.Pieces
import CpuAlert.Text.Utf8

/-!
# Queries

The part of a target after the question mark is a form: pairs of a name and a
value, separated by ampersands. A plus sign stands for a space, and a percent
sign with two digits to base sixteen for a byte. Pairs with unknown names are
ignored; a known name may occur only once.

## Main definitions

* `Query.pairs` — the pairs of a query
* `Query.int64?` — a whole number of sixty-four bits
* `HistoryRequest.read?` — what a query asks of the history
-/

namespace CpuAlert

namespace Query

/-- Bytes with percent signs resolved. A percent sign without two digits stands
for itself. -/
def percentDecode : List UInt8 → List UInt8
  | 37 :: a :: b :: r =>
    match hex? a, hex? b with
    | some x, some y => UInt8.ofNat (16 * x + y) :: percentDecode r
    | _, _ => 37 :: percentDecode (a :: b :: r)
  | c :: r => c :: percentDecode r
  | [] => []
where
  /-- The value of a digit to base sixteen. -/
  hex? (b : UInt8) : Option Nat := Json.hexValue? (Char.ofNat b.toNat)

/-- A name or a value in clear. It is unknown if its bytes are no text. -/
def unescape (cs : List Char) : Option String :=
  let spaced := cs.map fun c => if c = '+' then ' ' else c
  Text.ofBytes? (percentDecode (Text.toBytes (String.ofList spaced)))

/-- A pair from its text; without an equals sign the value is empty. -/
def pair (cs : List Char) : Option String × Option String :=
  (unescape (cs.takeWhile (· != '=')), unescape ((cs.dropWhile (· != '=')).drop 1))

/-- The pairs of a query. -/
def pairs (query : List Char) : List (Option String × Option String) :=
  ((Text.pieces '&' query).filter (!·.isEmpty)).map pair

/-- A whole number of sixty-four bits with an optional sign. -/
def int64? (s : String) : Option Int :=
  let (negative, digits) : Bool × List Char :=
    match s.toList with
    | '+' :: r => (false, r)
    | '-' :: r => (true, r)
    | r => (false, r)
  if digits.isEmpty ∨ ¬ digits.all Char.isDigit then none
  else
    let n : Nat := digits.foldl (fun n d => 10 * n + (d.toNat - 48)) 0
    let value : Int := if negative then -n else n
    if -0x8000000000000000 ≤ value ∧ value < 0x8000000000000000 then some value else none

end Query

/-- What a query asks of the history. -/
structure HistoryRequest where
  limit : Option Int := none
  beforeId : Option Int := none
  deriving DecidableEq, Repr

namespace HistoryRequest

/-- A query after one more pair. -/
def add (q : HistoryRequest) (name value : Option String) : Option HistoryRequest :=
  if name = some "limit" then
    if q.limit.isSome then none
    else (value.bind Query.int64?).map fun n => { q with limit := some n }
  else if name = some "before_id" then
    if q.beforeId.isSome then none
    else (value.bind Query.int64?).map fun n => { q with beforeId := some n }
  else some q

/-- What a query asks of the history, unless a pair is wrong. -/
def read? (query : List Char) : Option HistoryRequest :=
  (Query.pairs query).foldlM (fun q (name, value) => q.add name value) {}

end HistoryRequest

end CpuAlert
