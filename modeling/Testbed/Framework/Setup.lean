import Testbed.Framework.Namespaces
import Testbed.Namespace.Name

/-!
# Setting a test up

The teardown is registered before anything else, so that a run that is cut short still tears the
test down. Then come the client, the provider's hook, the namespace and its default service
account. An ordinary fault of a stage of the library's own names that stage; any other fault is
left as it is.
-/

set_option autoImplicit false

namespace Testbed.Framework

open Bench

variable {τ ω κ : Type} [Seconds τ] [Host τ ω]

/-- The label of namespaces that a framework creates for a test. -/
def ownerLabel : String := "e2e-framework"

/-- The labels of the namespace that a framework creates for a test. -/
def ownerLabels (baseName : String) : Labels :=
  [(ownerLabel, Namespace.Name.normalized baseName Namespace.Name.maxLength)]

omit [Host τ ω] in
/-- Runs a stage of the setup. -/
def inStage {α : Type} (baseName stage : String) (x : BenchM τ ω κ α) : BenchM τ ω κ α :=
  x.rescue fun e =>
    if e.isOrdinary then .fail (.setup baseName stage e.message (some e)) else .fail e

/-- Makes a client unless the framework has one. -/
def connect (k : Nat) (component : Option String) : BenchM τ ω κ Unit := do
  let f ← frameworkAt k
  if f.client.isSome then pure ()
  else do
    note f .info "before_each.creating_client" [("test_path", .text? component)]
    let client ← inStage f.baseName "client" (onSite (Cluster.connect f.options component))
    update k fun f => { f with client := some client, ownsClient := true }

omit [Seconds τ] in
/-- Gives the framework a name of its own without a namespace; it is very likely unique. -/
def nameOnly (k : Nat) : BenchM τ ω κ Unit := do
  let f ← frameworkAt k
  let bits ← onSite Site.randomBits
  let name := f.baseName ++ "-" ++ Text.padded 16 8 bits
  update k fun f => { f with uniqueName := some name }
  note f .info "before_each.namespace_skipped" [("unique_name", .text name)]

/-- The fault of asking for the name of a namespace that is not there. -/
def namelessNamespace : Fault τ :=
  .plain .missingPart [.text "'NoneType' object has no attribute 'name'"]

/-- The namespace that was created, or the fault that there is none. -/
def present (ns : Option Namespace.Record) : BenchM τ ω κ Namespace.Record :=
  match ns with
  | some record => pure record
  | none => .fail namelessNamespace

/-- Waits for the default service account of the namespace, unless the suite or the framework is
set not to. -/
def awaitServiceAccount (k : Nat) (ns : Option Namespace.Record) : BenchM τ ω κ Unit := do
  let f ← frameworkAt k
  if f.suite.verifyServiceAccount && !f.skipServiceAccountWait then do
    let record ← present ns
    note f .info "before_each.waiting_for_service_account" [("namespace", .text record.name)]
    inStage f.baseName "service account" do
      let client ← clientOf f
      onSite (f.cluster.awaitServiceAccount record.name client)
  else note f .info "before_each.service_account_wait_skipped" []

/-- Creates the namespace of the test and waits until it can be used. -/
def createOwn (k : Nat) : BenchM τ ω κ Unit := do
  let f ← frameworkAt k
  note f .info "before_each.creating_namespace" []
  let ns ← inStage f.baseName "namespace" (createNamespace k f.baseName (ownerLabels f.baseName))
  update k fun f => { f with ns }
  awaitServiceAccount k ns
  let record ← present ns
  update k fun f => { f with uniqueName := some record.name }
  note f .info "before_each.completed" [("namespace", .text record.name)]

/-- The stages of the setup. -/
def prepare (r : Runner τ ω κ) (k : Nat) (component : Option String) : BenchM τ ω κ Unit := do
  connect k component
  hook r k .before
  let f ← frameworkAt k
  if f.skipNamespace then nameOnly k else createOwn k

omit [Seconds τ] [Host τ ω] in
/-- Registers the teardown of a framework. -/
def enroll (k : Nat) : BenchM τ ω κ Unit := do
  let handle ← register (.teardown k)
  update k fun f => { f with handle := some handle }

/-- Sets a test up: registers the teardown, then runs the stages. -/
def beforeEach (r : Runner τ ω κ) (k : Nat) (component : Option String) : BenchM τ ω κ Unit := do
  enroll k
  let f ← frameworkAt k
  enclose { operation := "before_each", baseName := some f.baseName } (prepare r k component)

end Testbed.Framework
