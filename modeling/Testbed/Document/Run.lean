import Testbed.Document.Step
import Testbed.Scripted.World
import Testbed.Session.Run

/-!
# Runs in documents

The documents of scripted worlds, of scenarios and of sessions.
-/

set_option autoImplicit false

namespace Testbed.Document

/-- Reads an environment. -/
def environment? : Value → Option Config.Environment := table? Value.text?

/-- Reads whether the cluster is live; it is a stub unless the document says otherwise. -/
def isLive? : Value → Option Bool
  | .null | .text "fake" => some false
  | .text "api" => some true
  | _ => none

variable {τ : Type} [Seconds τ]

/-- Reads the world of a run: where its clock starts, its script and its random numbers. -/
def world? (v : Value) : Option (Scripted.World τ) := do
  let start ← orElse? 0.0 seconds? (v.entry "start")
  let script ← Scripted.script? (v.entry "script")
  let random ← each? count? (v.entry "random")
  some (.start start script random)

/-- Reads what holds for a scenario. Without a configuration of its own it takes that of its
environment. -/
def setting? (v : Value) : Option (Except Config.Refusal (Setting τ)) := do
  let environment ← environment? (v.entry "env")
  let entries ← optional? settings? (v.entry "suite_config")
  let live ← isLive? (v.entry "cluster")
  let extensions : List (Body τ) ← each? steps? (v.entry "global_extensions")
  let homes := environment.homes
  let suite :=
    match entries with
    | some entries => Config.Suite.ofEntries homes entries
    | none => Config.Suite.ofEnvironment homes environment []
  some (suite.map fun suite =>
    { suite, environment, host := .container, live, extensions, provider := none })

/-- The base name of test classes that set none. -/
def classBaseName : String := "e2e"

/-- The name of test classes that are given none. -/
def className : String := "TestCase"

/-- Reads the framework of a test class from the attributes of the class. -/
def classBlueprint? (v : Value) : Option (Blueprint τ (Body τ)) := do
  let baseName ← orElse? classBaseName Value.text? (v.entry "base_name")
  let options ← optional? settings? (v.entry "framework_options")
  let skipNamespace ← flag? (v.entry "skip_namespace_creation")
  let skipServiceAccountWait ← flag? (v.entry "skip_service_account_wait")
  let deletionTimeout ← optional? seconds? (v.entry "namespace_deletion_timeout")
  some
    { baseName, options, client := none, suite := none, fromEnvironment := false, skipNamespace,
      skipServiceAccountWait, deletionTimeout, customCreation := false, provider := none,
      extensions := none, maker := .extended }

/-- Reads the class of a test, if the test is of a kind that has one. -/
def testClass? (v : Value) : Option (Option (Session.TestClass τ)) :=
  match v.entry "kind" with
  | .null | .text "function" => some none
  | .text "class" => do
    let name ← orElse? className Value.text? (v.entry "class_name")
    let blueprint ← classBlueprint? (v.entry "attrs")
    some (some ⟨name, blueprint⟩)
  | _ => none

/-- Reads a test. -/
def test? (v : Value) : Option (Session.Test τ) := do
  let nodeId ← (v.entry "nodeid").text?
  let testClass ← testClass? v
  let body ← steps? (v.entry "body")
  let finalize ← orElse? true Value.flag? (v.entry "finalize")
  some ⟨nodeId, testClass, body, finalize⟩

/-- Reads a session with the options of its command line. -/
def session? (options : Config.Options) (v : Value) : Option (Session τ) := do
  let environment ← environment? (v.entry "env")
  let exitStatus ← orElse? 0 Value.int? (v.entry "exitstatus")
  let live ← isLive? (v.entry "cluster")
  let provider ← optional? (provider? steps?) (v.entry "provider")
  let unconfigured ← flag? (v.entry "unconfigured")
  let tests ← each? test? (v.entry "tests")
  some
    { options, environment, host := .container, exitStatus, live, provider,
      reached := !unconfigured, tests }

end Testbed.Document
