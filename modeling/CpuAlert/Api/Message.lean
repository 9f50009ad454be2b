import CpuAlert.Json.Value

/-!
# Requests and responses

The target of a request is a path, or an absolute address whose path begins
after the host. A target that is a star is its own path, and one that names
nothing but a host has none.

## Main definitions

* `Target.reference` — a target without scheme and host
* `Request` — a request
* `Response` — a response
-/

namespace CpuAlert

/-- What a request wants done with its target. -/
inductive Method
  | get
  | head
  | post
  | put
  | delete
  | options
  | other (name : String)
  deriving DecidableEq, Repr

/-- The method with this name. -/
def Method.ofName (name : String) : Method :=
  match name with
  | "GET" => .get
  | "HEAD" => .head
  | "POST" => .post
  | "PUT" => .put
  | "DELETE" => .delete
  | "OPTIONS" => .options
  | name => .other name

namespace Target

/-- A character of a scheme. -/
def isSchemeChar (c : Char) : Bool := c.isAlphanum || c == '+' || c == '-' || c == '.'

/-- What follows the scheme and the two slashes of an absolute address. -/
def afterScheme? (target : List Char) : Option (List Char) :=
  match target.dropWhile isSchemeChar with
  | ':' :: '/' :: '/' :: rest => some rest
  | _ => none

/-- A target without scheme and host, from its path on. Only the path may be
left out of an absolute address, and then it is a slash. -/
def reference (target : List Char) : List Char :=
  if target.head? = some '/' ∨ target = ['*'] then target
  else
    match afterScheme? target with
    | none => []
    | some rest =>
      let place := rest.dropWhile fun c => c != '/' && c != '?' && c != '#'
      if place.head? = some '/' then place else '/' :: place

end Target

/-- A request. Of headers that occur several times the first one counts;
`upgrade` says that the caller asks for a connection that stays. -/
structure Request where
  method : Method
  target : String
  authorization : Option String := none
  contentType : Option String := none
  upgrade : Bool := false
  body : String := ""
  deriving DecidableEq, Repr

namespace Request

/-- The path and the query of the target, without a fragment. -/
def targetChars (r : Request) : List Char :=
  (Target.reference r.target.toList).takeWhile (· != '#')

/-- The path of the target. -/
def path (r : Request) : String := String.ofList (r.targetChars.takeWhile (· != '?'))

/-- The query of the target. -/
def query (r : Request) : List Char := (r.targetChars.dropWhile (· != '?')).drop 1

end Request

/-- The body of a response. -/
inductive Body
  | none
  | text (s : String)
  | json (v : Json.Value)

/-- A response. The last part says which sites may read it. -/
structure Response where
  status : Nat
  body : Body := .none
  allowOrigin : Option String := .none

/-- The body of a failure. -/
def Body.ofError (message : String) : Body := .json (.object [("error", .text message)])

end CpuAlert
