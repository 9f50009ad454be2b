import CpuAlert.Api.Role
import CpuAlert.Service

/-!
# The environment

The key of the credentials, the tokens of callers and the name of the host come
from variables of the environment. A variable that is blank counts as unset.

## Main definitions

* `Environment` — the variables
* `Environment.key`, `Environment.tokens`, `Environment.hostname` — what
  they say
-/

namespace CpuAlert

/-- The variables by their names. -/
abbrev Environment := String → Option String

namespace Environment

/-- A variable without the blanks around it, unless it is blank. -/
def nonBlank? (env : Environment) (name : String) : Option String :=
  (env name).bind Text.nonBlank?

/-- The variables that are looked at. -/
def names : List String :=
  ["HOSTWATCH_ALERTS_KEY", "HOSTWATCH_ADMIN_TOKEN", "HOSTWATCH_VIEWER_TOKEN", "HOSTWATCH_HOSTNAME"]

/-- The variables of a list, the first of each name. -/
def ofList (bindings : List (String × String)) : Environment := fun name => bindings.lookup name

/-- The key of the credentials. -/
def key (env : Environment) : Option String := env.nonBlank? "HOSTWATCH_ALERTS_KEY"

/-- The tokens of callers. -/
def tokens (env : Environment) : BearerTokens where
  admin := env.nonBlank? "HOSTWATCH_ADMIN_TOKEN"
  viewer := env.nonBlank? "HOSTWATCH_VIEWER_TOKEN"

/-- A name for the host in place of its own. -/
def hostnameOverride (env : Environment) : Option String := env.nonBlank? "HOSTWATCH_HOSTNAME"

/-- The name of the host in messages: the one given, or else its own. -/
def hostname (env : Environment) (own : Option String) : String :=
  (env.hostnameOverride.or (own.bind Text.nonBlank?)).getD Service.unknownHost

end Environment

end CpuAlert
