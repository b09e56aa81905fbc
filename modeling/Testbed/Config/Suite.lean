import Testbed.Config.Fields
import Testbed.Config.Path
import Testbed.Fault.Basic

/-!
# Suite configuration

The switches that hold for a whole run: whether namespaces are deleted and logs are dumped,
whether service accounts are awaited and how long, and how to reach the cluster.
-/

set_option autoImplicit false

namespace Testbed.Config

/-- The configuration of a run. -/
structure Suite (τ : Type) where
  deleteNamespace : Bool
  deleteNamespaceOnFailure : Bool
  dumpLogsOnFailure : Bool
  verifyServiceAccount : Bool
  serviceAccountTimeout : τ
  namespaceCreationTimeout : τ
  kubeconfig : Option String
  kubeContext : Option String

/-- Why settings make no configuration. -/
inductive Refusal where
  /-- Some fields have issues. -/
  | issues (all : List Issue)
  /-- The home directory that a path begins with is not known. -/
  | homeUnknown
  deriving DecidableEq, Repr

/-- The fault that a refusal is raised as. -/
def Refusal.fault {τ : Type} : Refusal → Fault τ
  | .issues all => .invalidSettings all
  | .homeUnknown => .plain .runtime [.text "Could not determine home directory."]

namespace Suite

variable {τ : Type}

/-- Whether the namespaces of a test with this outcome are deleted. -/
def deletesAfter (c : Suite τ) (testFailed : Bool) : Bool :=
  c.deleteNamespace && (c.deleteNamespaceOnFailure || !testFailed)

/-- The fields of the configuration. -/
def fields : List String :=
  ["delete_namespace", "delete_namespace_on_failure", "dump_logs_on_failure",
   "verify_service_account", "service_account_timeout", "namespace_creation_timeout", "kubeconfig",
   "kube_context"]

variable [Seconds τ]

/-- The field of a timeout, which is positive. -/
def timeoutField (entries : Entries) (name : String) (fallback : τ) : Checked τ :=
  .field entries name fallback fun v => readNumber v >>= above 0.0 "0"

/-- Reads all fields; the path is left as it was given. -/
def unexpanded (entries : Entries) : Checked (Suite τ) :=
  let flag := fun name => Checked.field entries name true readFlag
  let text := fun name => Checked.field entries name none readOptionalText
  let c := Checked.ap (.ok Suite.mk) (flag "delete_namespace")
  let c := c.ap (flag "delete_namespace_on_failure")
  let c := c.ap (flag "dump_logs_on_failure")
  let c := c.ap (flag "verify_service_account")
  let c := c.ap (timeoutField entries "service_account_timeout" 120.0)
  let c := c.ap (timeoutField entries "namespace_creation_timeout" 30.0)
  let c := c.ap (text "kubeconfig")
  (c.ap (text "kube_context")).closed entries fields

/-- The configuration of a run that sets nothing: all switches are on. -/
def standard : Suite τ :=
  { deleteNamespace := true, deleteNamespaceOnFailure := true, dumpLogsOnFailure := true,
    verifyServiceAccount := true, serviceAccountTimeout := 120.0, namespaceCreationTimeout := 30.0,
    kubeconfig := none, kubeContext := none }

/-- The plain form of the path to the cluster's configuration; an empty text is no path. -/
def kubeconfigPath (homes : Homes) : Option String → Except Path.HomeTrouble (Option String)
  | none => .ok none
  | some text => if text.isEmpty then .ok none else (expandedPath homes text).map some

/-- Reads a configuration. A path whose home directory is not known is refused before the issues
of all fields are reported; one whose user cannot be looked up is one of them. -/
def ofEntries (homes : Homes) (entries : Entries) : Except Refusal (Suite τ) :=
  let given := ((lookupLast "kubeconfig" entries).getD .null).text?
  let read : Checked (Suite τ) := unexpanded entries
  match kubeconfigPath homes given with
  | .error .unknown => .error .homeUnknown
  | .error .nullInName =>
    .error (.issues (Checked.ordered (⟨"kubeconfig", .nullInName⟩ :: read.issues)))
  | .ok path =>
    match read with
    | .error all => .error (.issues all)
    | .ok c => .ok { c with kubeconfig := path }

theorem ofEntries_nil (homes : Homes) : ofEntries homes [] = .ok (standard : Suite τ) := rfl

end Suite

end Testbed.Config
