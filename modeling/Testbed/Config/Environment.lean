import Testbed.Config.Suite
import Testbed.Text.Blank

/-!
# Configuration from the environment

Each field of the suite configuration has a variable. A variable that is set and not blank gives
the field its text without the blanks at both ends; entries given on top of the environment win
over it, unless they are null.
-/

set_option autoImplicit false

namespace Testbed.Config

/-- Variables with their values. -/
abbrev Environment : Type := List (String × String)

/-- The home directories in an environment on a host. One's own is the one that the environment names,
and that of one's account if it names none. -/
def Environment.homes (env : Environment) (host : Homes := .container) : Homes :=
  { host with own := ((lookupLast "HOME" env).map String.toList).or host.own }

/-- Each field with its variable. -/
def settingVariables : List (String × String) :=
  [("delete_namespace", "E2E_DELETE_NAMESPACE"),
   ("delete_namespace_on_failure", "E2E_DELETE_NAMESPACE_ON_FAILURE"),
   ("dump_logs_on_failure", "E2E_DUMP_LOGS_ON_FAILURE"),
   ("verify_service_account", "E2E_VERIFY_SERVICE_ACCOUNT"),
   ("service_account_timeout", "E2E_SERVICE_ACCOUNT_TIMEOUT"),
   ("namespace_creation_timeout", "E2E_NAMESPACE_CREATION_TIMEOUT"),
   ("kubeconfig", "KUBECONFIG"),
   ("kube_context", "E2E_KUBE_CONTEXT")]

/-- The entry that a variable gives its field, if the variable is set and not blank. -/
def Environment.entry? (env : Environment) (field name : String) : Option (String × Value) :=
  match lookupLast name env with
  | none => none
  | some raw =>
    let value := Text.stripBlanks raw
    if value.isEmpty then none else some (field, .text value)

/-- The entries that an environment gives the fields of the suite configuration. -/
def Environment.entries (env : Environment) : Entries :=
  settingVariables.filterMap fun v => env.entry? v.1 v.2

/-- The entries of an environment with others on top, null ones left out. -/
def Environment.resolved (env : Environment) (overrides : Entries) : Entries :=
  putEntries env.entries (overrides.filter fun e =>
    match e.2 with
    | .null => false
    | _ => true)

/-- The suite configuration of an environment with entries on top. -/
def Suite.ofEnvironment {τ : Type} [Seconds τ] (homes : Homes) (env : Environment)
    (overrides : Entries) : Except Refusal (Suite τ) :=
  Suite.ofEntries homes (env.resolved overrides)

end Testbed.Config
