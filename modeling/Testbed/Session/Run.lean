import Testbed.Config.CommandLine
import Testbed.Session.Test

/-!
# Sessions

A session is configured from its command line and its environment, runs its tests, and at its end
drains the registry of whatever a test has left behind.
-/

set_option autoImplicit false

namespace Testbed

/-- What a session is run with. -/
structure Session (τ : Type) where
  options : Config.Options
  environment : Config.Environment
  host : Config.Homes
  exitStatus : Int
  /-- Whether the cluster is live. -/
  live : Bool
  provider : Option (Provider (Body τ))
  /-- Whether the session gets as far as its configuration. -/
  reached : Bool
  tests : List (Session.Test τ)

namespace Session

open Bench

/-- The marker of tests that use a cluster. -/
def clusterMarker : String := "e2e"

/-- The kinds of markers that a session declares, with their lines. -/
def markerLines : List (String × String) :=
  [("markers", clusterMarker ++ ": test runs against a real cluster through the e2e framework")]

/-- The fixtures that give a test a framework. -/
def frameworkFixtures : List String := ["framework", "_framework_lifecycle"]

/-- The markers that a test gets for the fixtures it uses, if it says which. -/
def markersFor (fixtures : Option (List String)) : List String :=
  if (fixtures.getD []).any frameworkFixtures.contains then [clusterMarker] else []

/-- The name of the provider of a session. -/
def providerName {κ : Type} : Option (Provider κ) → String
  | none => "null"
  | some _ => "abstract"

variable {τ ω : Type}

/-- What a session tells about its configuration, if it has one. -/
def header (config : Option (Config.Suite τ)) : Option String :=
  config.map fun c =>
    let shown := fun (b : Bool) => Value.literal (.flag b)
    "e2e-framework: delete_namespace=" ++ shown c.deleteNamespace ++
      ", delete_namespace_on_failure=" ++ shown c.deleteNamespaceOnFailure ++
      ", dump_logs_on_failure=" ++ shown c.dumpLogsOnFailure ++
      ", verify_service_account=" ++ shown c.verifyServiceAccount

variable [Seconds τ]

/-- Configures a session. Issues with the settings are an error of usage. -/
def configuration (s : Session τ) : Except (Fault τ) (Config.Suite τ) :=
  match Config.Suite.ofOptions s.environment s.options s.host with
  | .ok c => .ok c
  | .error (.issues all) => .error (.usage (some (.invalidSettings all)))
  | .error refusal => .error refusal.fault

/-- What holds for the tests of a session with this configuration. -/
def setting (s : Session τ) (config : Config.Suite τ) : Setting τ :=
  { suite := config, environment := s.environment, host := s.host, live := s.live,
    extensions := [], provider := s.provider }

variable [Host τ ω]

/-- Ends a run: drains the registry, and logs that something could not be cleaned up. -/
def drainAtEnd {κ : Type} (r : Runner τ ω κ) (exitStatus : Int) : BenchM τ ω κ Unit := do
  let failures ← Framework.drain r
  if failures.isEmpty then pure ()
  else onSite (Site.log .error "session.cleanup_failures"
    [("count", .count (failures.length : Int)), ("exitstatus", .count exitStatus)])

/-- Ends a session. -/
def finish (s : Setting τ) (exitStatus : Int) : Scenario.RunM τ ω Unit :=
  drainAtEnd (Scenario.runner s Scenario.maxDepth) exitStatus

/-- What happened in a session: how it was configured, if it got that far, what its tests did, and
how it ended. -/
structure SessionTrace (τ ω : Type) where
  configured : Option (Except (Fault τ) (Config.Suite τ))
  /-- The bench before the first test. -/
  before : Bench τ ω (Body τ)
  tests : List (TestTrace τ ω)
  finish : Trace τ ω (Body τ) Unit

/-- Runs a session that has its configuration. -/
def runConfigured (s : Session τ) (config : Config.Suite τ) (b : Bench τ ω (Body τ)) :
    SessionTrace τ ω :=
  let setting := s.setting config
  let tests := runTests setting b s.tests
  let after := (tests.getLast?.map (·.after)).getD b
  ⟨some (.ok config), b, tests, Trace.of (finish setting s.exitStatus) after⟩

omit [Seconds τ] [Host τ ω] in
/-- The trace of a session that ends before its first test. -/
def unstarted (configured : Option (Except (Fault τ) (Config.Suite τ)))
    (b : Bench τ ω (Body τ)) : SessionTrace τ ω :=
  ⟨configured, b, [], Trace.of (pure ()) b⟩

/-- Runs a session. -/
def run (s : Session τ) (b : Bench τ ω (Body τ)) : SessionTrace τ ω :=
  if s.reached then
    match s.configuration with
    | .ok config => s.runConfigured config b
    | .error e => unstarted (some (.error e)) b
  else unstarted none b

end Session

end Testbed
