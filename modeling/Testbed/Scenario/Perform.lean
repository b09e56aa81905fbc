import Testbed.Step

/-!
# Performing steps

Each step is one operation of the library. The bodies of actions and hooks are lists of steps
again, so performing them nests; the depth of nesting is bounded, and a run that exceeds the bound
ends with a fault of its own.
-/

set_option autoImplicit false

namespace Testbed.Scenario

open Bench Framework

variable {τ ω : Type}

/-- A procedure of a scripted run. -/
abbrev RunM (τ ω α : Type) : Type := BenchM τ ω (Body τ) α

/-- The number of the framework that a step acts on. -/
def target (current : Option Nat) (id : Option String) : RunM τ ω Nat := do
  let b ← Proc.get
  let named := fun name =>
    match lookupLast name b.names with
    | some k => pure k
    | none => Proc.fail (.plain .missingKey [.text name])
  match id, current with
  | some name, _ => named name
  | none, some k => pure k
  | none, none => named defaultName

/-- The handle that a step names, if it can be one. -/
def handleOf (handle : Option Int) : Option Nat :=
  handle.bind fun n => if 0 ≤ n then some n.toNat else none

/-- The fault of the signal that ends a run. -/
def terminated : Fault τ := .plain .keyboardInterrupt [.text "received SIGTERM"]

/-- The framework of the running test, which its class has. -/
def own : RunM τ ω Nat := do
  let b ← Proc.get
  match b.trial.own with
  | some k => pure k
  | none => .fail (.plain .missingPart [.text "framework"])

/-- The part of the running test's framework, or the fault that the test has none. -/
def ownPart {α : Type} (part : Framework τ (Body τ) → Option α) (name : String) : RunM τ ω α := do
  let k ← own
  let f ← frameworkAt k
  match part f with
  | some a => pure a
  | none => do
    let b ← Proc.get
    .fail (.framework (b.trial.className ++ " has no " ++ name))

/-- The value of settings, or a fault with their issues. -/
def accepted {α : Type} (c : Config.Checked α) : RunM τ ω α :=
  match c with
  | .ok a => pure a
  | .error issues => .fail (.invalidSettings issues)

/-- The suite configuration of settings, or the fault that they are refused with. -/
def configured {α : Type} (c : Except Config.Refusal α) : RunM τ ω α :=
  match c with
  | .ok a => pure a
  | .error refusal => .fail refusal.fault

variable [Seconds τ]

/-- The client options of a blueprint. The standard maker does not ask for them. -/
def optionsOf (b : Blueprint τ (Body τ)) : RunM τ ω (Config.ClientOptions τ) :=
  match b.maker, b.options with
  | .standard, _ => pure .standard
  | _, none => pure .standard
  | _, some entries => accepted (Config.ClientOptions.ofEntries entries)

/-- The suite configuration of a blueprint. -/
def suiteOf (s : Setting τ) (b : Blueprint τ (Body τ)) : RunM τ ω (Config.Suite τ) :=
  if b.fromEnvironment then configured (Config.Suite.ofEnvironment s.homes s.environment [])
  else
    match b.suite with
    | none => pure s.suite
    | some entries => configured (Config.Suite.ofEntries s.homes entries)

/-- The settings of a framework with this configuration, cluster and provider. -/
def settingsOf (b : Blueprint τ (Body τ)) (options : Config.ClientOptions τ)
    (suite : Config.Suite τ) (cluster : Cluster τ) (provider : Option (Provider (Body τ))) :
    Settings τ (Body τ) :=
  { baseName := b.baseName, options, suite, cluster, provider, customCreation := b.customCreation,
    skipNamespace := b.skipNamespace, skipServiceAccountWait := b.skipServiceAccountWait,
    deletionTimeout := b.deletionTimeout }

/-- The cluster that all frameworks of a run share, live or stubbed. Its times are those of the
configuration of the run, also for a framework with a configuration of its own. -/
def clusterOf (s : Setting τ) : Cluster τ := if s.live then .live s.suite else .stub

/-- Applies a change to a framework. -/
def apply (s : Setting τ) (k : Nat) : Change τ → RunM τ ω Unit
  | .client label => update k fun f => { f with client := label }
  | .ns record => update k fun f => { f with ns := record }
  | .suite entries => do
    let suite ← configured (Config.Suite.ofEntries s.homes entries)
    update k fun f => { f with suite }
  | .deletionTimeout timeout => update k fun f => { f with deletionTimeout := timeout }
  | .skipNamespace skip => update k fun f => { f with skipNamespace := skip }
  | .skipServiceAccountWait skip => update k fun f => { f with skipServiceAccountWait := skip }
  | .uniqueName name => update k fun f => { f with uniqueName := name }

omit [Seconds τ] in
/-- Runs the extensions on a new framework in order. -/
def extend (r : Runner τ ω (Body τ)) (k : Nat) : List (Body τ) → RunM τ ω Unit
  | [] => pure ()
  | body :: rest => do
    r.perform (some k) body
    extend r k rest

/-- Makes a framework for itself. -/
def build (r : Runner τ ω (Body τ)) (s : Setting τ) (b : Blueprint τ (Body τ)) : RunM τ ω Nat := do
  let options ← optionsOf b
  let suite ← suiteOf s b
  let settings := settingsOf b options suite (clusterOf s) b.provider
  let k ← place (Framework.fresh settings b.client)
  match b.maker with
  | .plain => pure ()
  | _ => extend r k (b.extensions.getD s.extensions)
  pure k

variable [Host τ ω]

/-- Makes a framework for the running test with the cluster and the provider of the run. -/
def buildForTest (r : Runner τ ω (Body τ)) (s : Setting τ) (b : Blueprint τ (Body τ)) :
    RunM τ ω Nat := do
  let options ← optionsOf b
  let suite ← suiteOf s b
  let settings := settingsOf b options suite (clusterOf s) (b.provider.or s.provider)
  let k ← place (Framework.fresh settings b.client)
  extend r k (b.extensions.getD s.extensions)
  pure k

/-- What a framework is called in words. -/
def displayed (k : Nat) : RunM τ ω (Outcome τ) := do
  let f ← frameworkAt k
  pure (.text f.display)

/-- Performs one step with a way to run bodies. -/
def execute (r : Runner τ ω (Body τ)) (s : Setting τ) (current : Option Nat) :
    Step τ → RunM τ ω (Outcome τ)
  | .build id blueprint => do
    let k ← build r s blueprint
    nameFramework id k
    displayed k
  | .provide id blueprint => do
    let k ← buildForTest r s blueprint
    enter r k
    nameFramework id k
    displayed k
  | .beforeEach id component => do
    let k ← target current id
    beforeEach r k component
    pure .nothing
  | .afterEach id testFailed => do
    let k ← target current id
    .report <$> afterEach r k testFailed
  | .create id baseName labels => do
    let k ← target current id
    .record <$> createNamespace k baseName labels
  | .track id records => do
    let k ← target current id
    trackEach k records
    pure .nothing
  | .defer id action => do
    let k ← target current id
    update k (·.defer action)
    pure .nothing
  | .awaitPod id pod timeout => do
    let k ← target current id
    Framework.awaitPod k pod timeout
    pure .nothing
  | .display id => do
    let k ← target current id
    displayed k
  | .set id change => do
    let k ← target current id
    apply s k change
    pure .nothing
  | .add action => .number <$> register (.act action)
  | .remove handle => do
    unregister (handleOf handle)
    pure .nothing
  | .contains handle => do
    let b ← Proc.get
    pure (.flag ((handleOf handle).any b.registry.contains))
  | .size => do
    let b ← Proc.get
    pure (.number b.registry.size)
  | .drain => .failures <$> drain r
  | .raise e => .fail e
  | .advance length => do
    onSite (Site.elapse length)
    pure .nothing
  | .terminate => .fail terminated
  | .ownNamespace => .text <$> ownPart (fun f => f.ns.map (·.name)) "test namespace"
  | .ownClient => .text <$> ownPart (fun f => f.client) "client set"
  | .ownCreate baseName labels => do
    let k ← own
    let b ← Proc.get
    let name := (baseName.filter fun n => !n.isEmpty).getD b.trial.baseName
    .record <$> createNamespace k name labels
  | .ownDefer action => do
    let k ← own
    update k (·.defer action)
    pure .nothing

/-- Performs steps in order. -/
def executeAll (r : Runner τ ω (Body τ)) (s : Setting τ) (current : Option Nat) :
    Body τ → RunM τ ω Unit
  | [] => pure ()
  | step :: rest => do
    let _ ← execute r s current step
    executeAll r s current rest

/-- How many actions one teardown is ready to walk. -/
def patience : Nat := Nat.pow 2 32

/-- The fault of a run that nests too deeply. -/
def tooDeep : Fault τ := .plain .depth [.text "maximum recursion depth exceeded"]

/-- How bodies are run that may nest as deeply as the number says. -/
def runner (s : Setting τ) : Nat → Runner τ ω (Body τ)
  | 0 => ⟨fun _ _ => .fail tooDeep, patience⟩
  | depth + 1 => ⟨fun current body => executeAll (runner s depth) s current body, patience⟩

/-- How deeply bodies may nest. -/
def maxDepth : Nat := 200

/-- Performs a step of the run itself. -/
def perform (s : Setting τ) (step : Step τ) : RunM τ ω (Outcome τ) :=
  execute (runner s maxDepth) s none step

end Testbed.Scenario
