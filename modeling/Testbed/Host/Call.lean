import Testbed.Diagnostics.Occurrence
import Testbed.Namespace.Record
import Testbed.Namespace.Resource
import Testbed.Pod.Basic
import Testbed.Seconds

/-!
# Calls

Everything that the library asks of the outside is a call with a type of reply: requests to the
server of the cluster, the operations of a stub cluster that stand in for them, and what creates
and closes clients. A call that is made through a client carries the label of the client. Each call
has a name and arguments under which it is recorded; these leave the client out where the server
does not see it.
-/

set_option autoImplicit false

namespace Testbed

/-- An argument of a call or a field of a log entry: a structured value or a time. -/
inductive Detail (τ : Type) where
  | value (v : Value)
  | seconds (t : τ)

namespace Detail

variable {τ : Type}

/-- A text. -/
def text (s : String) : Detail τ := .value (.text s)

/-- A text that may be missing. -/
def text? (s : Option String) : Detail τ := .value (.ofText? s)

/-- A number of things. -/
def count (n : Int) : Detail τ := .value (.int n)

/-- A truth value. -/
def flag (b : Bool) : Detail τ := .value (.flag b)

/-- Labels. -/
def labels (l : Labels) : Detail τ := .value (.ofTable l)

end Detail

/-- A call to the outside. -/
inductive Call (τ : Type) where
  /-- Load the configuration file at a path, or the default one. -/
  | loadFile (file context : Option String)
  /-- Load the configuration that the cluster gives to what runs inside it. -/
  | loadInside
  /-- Send a request through a client. -/
  | request (args : List Value) (options : List (String × Value))
  /-- Make a client that discovers the kinds of resources. -/
  | newDynamicClient
  /-- Look whether a condition holds. -/
  | condition
  | createNamespace (client generateName : String) (labels : Labels)
  | listNamespaces (client selector : String)
  | readNamespace (client name : String)
  | deleteNamespace (client name : String)
  | readServiceAccount (client account ns : String)
  | readPod (client pod ns : String)
  | listOccurrences (client ns : String)
  | listPods (client ns : String)
  | discover (client : String)
  | listResource (client : String) (resource : Namespace.Resource) (ns : String)
  | closeClient (client : String)
  /-- Load the configuration of the cluster of a framework. -/
  | loadCluster
  /-- Make the client of a framework. -/
  | newClient (qps : τ) (burst : Int) (component : Option String)
  /-- A stub's way to create a namespace. -/
  | provide (baseName client : String) (labels : Labels)
  /-- A stub's way to delete a namespace. -/
  | dispose (name client : String) (timeout : τ)
  /-- A stub's way to wait for the default service account. -/
  | awaitAccount (client ns : String)
  /-- A stub's way to log what happened in a namespace. -/
  | describe (client ns : String)
  /-- A stub's way to wait for a pod to run. -/
  | awaitPod (client pod ns : String) (timeout : τ)
  /-- A framework's own way to create namespaces. -/
  | customProvide (baseName client : String) (labels : Labels)

namespace Call

/-- The client of a run without frameworks. -/
def soleClient : String := "client"

variable {τ : Type}

/-- What a call is answered with. -/
@[reducible] def Reply : Call τ → Type
  | .request .. | .newDynamicClient => Value
  | .condition => Bool
  | .createNamespace .. | .readNamespace .. => Namespace.Remote
  | .listNamespaces .. => List Namespace.Remote
  | .readPod .. => Pod.Remote
  | .listOccurrences .. => List Diagnostics.Occurrence
  | .listPods .. => List Pod.Remote
  | .discover _ => List Namespace.Resource
  | .listResource .. => Nat
  | .newClient .. => String
  | .provide .. => Namespace.Record
  | .customProvide .. => Option Namespace.Record
  | _ => Unit

/-- The name under which a call is recorded. -/
def name : Call τ → String
  | .loadFile .. => "load_kube_config"
  | .loadInside => "load_incluster_config"
  | .request .. => "call_api"
  | .newDynamicClient => "DynamicClient"
  | .condition => "condition"
  | .createNamespace .. => "api.create_namespace"
  | .listNamespaces .. => "api.list_namespace"
  | .readNamespace .. => "api.read_namespace"
  | .deleteNamespace .. => "api.delete_namespace"
  | .readServiceAccount .. => "api.read_service_account"
  | .readPod .. => "api.read_pod"
  | .listOccurrences .. => "api.list_events"
  | .listPods .. => "api.list_pods"
  | .discover _ => "api.discover"
  | .listResource .. => "api.list_resource"
  | .closeClient _ => "close"
  | .loadCluster => "op.load_config"
  | .newClient .. => "op.new_client_set"
  | .provide .. => "op.create_namespace"
  | .dispose .. => "op.delete_namespace"
  | .awaitAccount .. => "op.wait_service_account"
  | .describe .. => "op.dump"
  | .awaitPod .. => "op.wait_pod"
  | .customProvide .. => "strategy"

/-- The arguments with which a call is recorded. -/
def arguments : Call τ → List (Detail τ)
  | .loadFile file context => [.text? file, .text? context]
  | .loadInside | .condition | .loadCluster => []
  | .request args options => args.map .value ++ [.value (.table options)]
  | .newDynamicClient | .discover _ => [.flag true]
  | .createNamespace _ generateName labels => [.text generateName, .labels labels]
  | .listNamespaces _ selector => [.text selector]
  | .readNamespace _ name | .deleteNamespace _ name => [.text name]
  | .readServiceAccount _ account ns => [.text account, .text ns]
  | .readPod _ pod ns => [.text pod, .text ns]
  | .listOccurrences _ ns | .listPods _ ns => [.text ns]
  | .listResource _ resource ns => [.text resource.name, .text ns]
  | .closeClient client => [.text client]
  | .newClient qps burst component => [.seconds qps, .count burst, .text? component]
  | .provide baseName client labels => [.text baseName, .text client, .labels labels]
  | .dispose name client timeout => [.text name, .text client, .seconds timeout]
  | .awaitAccount _ ns | .describe _ ns => [.text ns]
  | .awaitPod _ pod ns timeout => [.text pod, .text ns, .seconds timeout]
  | .customProvide baseName client labels => [.text baseName, .text client, .labels labels]

end Call

end Testbed
