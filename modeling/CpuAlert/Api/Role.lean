import CpuAlert.Text.Blank

/-!
# Who may do what

A caller shows a bearer token. The admin token gives full access and the viewer
token read access; if neither is configured, everybody has full access. A token
that is both gives full access.

## Main definitions

* `Role` — what a caller may do
* `BearerTokens` — the configured tokens
* `BearerTokens.roleFor` — the access that a header gives

## Main results

* `BearerTokens.roleFor_eq_admin_iff` — which headers give full access
-/

namespace CpuAlert

/-- What a caller may do. -/
inductive Role
  | admin
  | viewer
  deriving DecidableEq, Repr

/-- The caller may only read. -/
def Role.mayOnlyRead : Role → Bool
  | .admin => false
  | .viewer => true

/-- The configured tokens. -/
structure BearerTokens where
  admin : Option String := none
  viewer : Option String := none
  deriving DecidableEq, Repr

/-- Why a caller has no access. -/
inductive Refusal
  | missing
  | notBearer
  | unknownToken
  deriving DecidableEq, Repr

/-- The wording of a refusal. -/
def Refusal.message : Refusal → String
  | missing => "Missing Authorization header"
  | notBearer => "Invalid Authorization format (expected: Bearer <token>)"
  | unknownToken => "Invalid token"

namespace BearerTokens

/-- No token is configured. -/
def isOpen (t : BearerTokens) : Bool := t.admin.isNone && t.viewer.isNone

/-- The access of a token. -/
def roleOf? (t : BearerTokens) (token : String) : Option Role :=
  if t.admin = some token then some .admin
  else if t.viewer = some token then some .viewer
  else none

/-- A character that a header may hold to be readable as text: a visible one of
ASCII, a space or a tab. -/
def isVisible (c : Char) : Bool := (32 ≤ c.toNat && c.toNat ≤ 126) || c == '\t'

/-- What a header begins with that holds a token. -/
def scheme : List Char := "Bearer ".toList

/-- The token in a header. -/
def bearerToken (header : Option String) : Except Refusal String :=
  match header.filter fun h => h.toList.all isVisible with
  | none => .error .missing
  | some h =>
    if scheme.isPrefixOf h.toList then
      .ok (Text.trim (String.ofList (h.toList.drop scheme.length)))
    else .error .notBearer

/-- The access that a header gives. -/
def roleFor (t : BearerTokens) (header : Option String) : Except Refusal Role :=
  if t.isOpen then .ok .admin
  else
    match bearerToken header with
    | .error e => .error e
    | .ok token =>
      match t.roleOf? token with
      | none => .error .unknownToken
      | some a => .ok a

/-- Where tokens are configured, full access takes the admin token. -/
theorem roleFor_eq_admin_iff {t : BearerTokens} (h : t.isOpen = false) {header : Option String} :
    t.roleFor header = .ok .admin ↔
      ∃ token, bearerToken header = .ok token ∧ t.admin = some token := by
  simp only [roleFor, h]
  cases bearerToken header with
  | error e => simp
  | ok token =>
    by_cases hadmin : t.admin = some token
    · simp [roleOf?, hadmin]
    · by_cases hviewer : t.viewer = some token <;> simp [roleOf?, hadmin, hviewer]

end BearerTokens

end CpuAlert
