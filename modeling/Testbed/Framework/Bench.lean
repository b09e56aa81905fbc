import Testbed.Framework.Basic
import Testbed.Registry
import Testbed.Span.Basic

/-!
# The bench

The bench is the state of a run: the site, the registry of duties, the frameworks by number, the
names that some of them go by, and the test that is running. Procedures at the bench run those of
the site without any way for the outside to reach the frameworks.
-/

set_option autoImplicit false

namespace Testbed

/-- A duty that the registry keeps: tear a framework down, or run an action. -/
inductive Duty (κ : Type) where
  | teardown (framework : Nat)
  | act (action : Action κ)

/-- The test that is running. -/
structure Trial where
  nodeId : String
  /-- Whether each phase that was reported has failed. -/
  reports : List (String × Bool)
  /-- The frameworks that are set up, the latest first. -/
  entered : List Nat
  /-- The name of the test's class, the base name that it sets, and its framework. -/
  className : String
  baseName : String
  own : Option Nat
  deriving DecidableEq, Repr

/-- A test of which nothing has run. -/
def Trial.start (nodeId className baseName : String) : Trial :=
  ⟨nodeId, [], [], className, baseName, none⟩

/-- Stores the report of a phase. -/
def Trial.report (t : Trial) (phase : String) (failed : Bool) : Trial :=
  { t with reports := putEntry t.reports phase failed }

/-- Whether a phase that was reported has failed. -/
def Trial.hasFailed (t : Trial) : Bool := t.reports.any Prod.snd

/-- The state of a run. -/
structure Bench (τ ω κ : Type) where
  site : Site τ ω
  registry : Registry (Duty κ) (Except (Fault τ) Unit)
  frameworks : List (Framework τ κ)
  names : List (String × Nat)
  trial : Trial

/-- A procedure at the bench. -/
abbrev BenchM (τ ω κ α : Type) : Type := Proc (Fault τ) (Bench τ ω κ) α

/-- How the bodies of actions and hooks are run, and how many actions one teardown is ready to
walk. -/
structure Runner (τ ω κ : Type) where
  /-- Runs a body on behalf of a framework, or of none. -/
  perform : Option Nat → κ → BenchM τ ω κ Unit
  patience : Nat

namespace Bench

variable {τ ω κ α : Type}

/-- A bench without frameworks. -/
def start (world : ω) : Bench τ ω κ :=
  ⟨.start world, .empty, [], [], .start "" "" ""⟩

/-- Runs a procedure at the site of the bench. -/
def onSite (x : SiteM τ ω α) : BenchM τ ω κ α :=
  Proc.focus Bench.site (fun site b => { b with site }) x

/-- The framework with the given number. -/
def frameworkAt (k : Nat) : BenchM τ ω κ (Framework τ κ) := do
  let b ← Proc.get
  match b.frameworks[k]? with
  | some f => pure f
  | none => .fail (.plain .lookup [.text "no such framework"])

/-- Changes the framework with the given number. -/
def update (k : Nat) (f : Framework τ κ → Framework τ κ) : BenchM τ ω κ Unit :=
  Proc.modify fun b => { b with frameworks := b.frameworks.modify k f }

/-- Puts a new framework on the bench and gives its number. -/
def place (f : Framework τ κ) : BenchM τ ω κ Nat := do
  let b ← Proc.get
  Proc.modify fun b => { b with frameworks := b.frameworks ++ [f] }
  pure b.frameworks.length

/-- Gives the framework with the given number a name, which no other one keeps. -/
def nameFramework (name : String) (k : Nat) : BenchM τ ω κ Unit :=
  Proc.modify fun b => { b with names := putEntry b.names name k }

/-- Writes a log entry that carries the base name of a framework. -/
def note (f : Framework τ κ) (level : Level) (name : String) (fields : List (String × Detail τ)) :
    BenchM τ ω κ Unit :=
  onSite (Site.log level name (("base_name", .text f.baseName) :: fields))

/-- Registers a duty and gives its handle. -/
def register (d : Duty κ) : BenchM τ ω κ Nat := do
  let b ← Proc.get
  let (h, registry) := b.registry.add d
  Proc.modify fun b => { b with registry }
  onSite (Site.log .debug "cleanup.action_added" [("handle", .count (h : Int))])
  pure h

/-- Takes back the duty of a handle, if it is still registered. -/
def unregister (handle : Option Nat) : BenchM τ ω κ Unit := do
  let b ← Proc.get
  match handle.filter b.registry.contains with
  | some h =>
    Proc.modify fun b => { b with registry := b.registry.remove h }
    onSite (Site.log .debug "cleanup.action_removed" [("handle", .count (h : Int))])
  | none => pure ()

/-- Runs a procedure inside a span. -/
def enclose [Seconds τ] (s : Span) (x : BenchM τ ω κ α) : BenchM τ ω κ α := do
  let r ← x.attempt
  onSite (Site.record (.span (s.close s.attributes r)))
  Proc.conclude r

variable [Host τ ω]

/-- Runs an action on behalf of a framework, or of none. -/
def act (r : Runner τ ω κ) (owner : Option Nat) (a : Action κ) : BenchM τ ω κ Unit := do
  onSite (Site.mark (.action a.name))
  r.perform owner a.body

/-- Runs the hook of the framework's provider on one side of the test. -/
def hook (r : Runner τ ω κ) (k : Nat) (stage : HookStage) : BenchM τ ω κ Unit := do
  let f ← frameworkAt k
  match f.provider with
  | none => pure ()
  | some p =>
    onSite (Site.mark (.hook stage f.baseName))
    r.perform (some k) (match stage with
      | .before => p.before
      | .after => p.after)

end Bench

end Testbed
