import Testbed.Framework.Namespaces

/-!
# Tearing a test down

The registered teardown is taken back first. Then come the diagnostics of a failed test, the
deferred actions in the order in which they came, and the provider's hook. However these end, the
tracked namespaces are deleted and the framework is reset. A namespace that could not be deleted
makes the teardown fail; the fault that came before, if any, is its cause.
-/

set_option autoImplicit false

namespace Testbed.Framework

open Bench

variable {τ ω κ : Type} [Seconds τ] [Host τ ω]

/-- Why the tracked namespaces were not deleted. -/
inductive SkipReason where
  | deletionDisabled
  | keptOnFailure
  deriving DecidableEq, Repr

/-- The words of a reason. -/
def SkipReason.text : SkipReason → String
  | .deletionDisabled => "delete_namespace is false"
  | .keptOnFailure => "delete_namespace_on_failure is false and the test failed"

/-- What became of the tracked namespaces. -/
structure Report (τ : Type) where
  attempted : List String
  deleted : List String
  alreadyGone : List String
  /-- The fault of each namespace that could not be deleted. -/
  errors : List (String × Fault τ)
  skipped : Option SkipReason

namespace Report

/-- No namespace was attempted. -/
def empty : Report τ := ⟨[], [], [], [], none⟩

/-- Adds an attempt. -/
def attempt (r : Report τ) (name : String) : Report τ :=
  { r with attempted := r.attempted ++ [name] }

/-- Adds how an attempt ended: well, with the answer that the namespace was gone already, or with a
fault. -/
def close (r : Report τ) (name : String) : Except (Fault τ) Unit → Report τ
  | .ok _ => { r with deleted := r.deleted ++ [name] }
  | .error (.deletion _ .notFound _ _) => { r with alreadyGone := r.alreadyGone ++ [name] }
  | .error e => { r with errors := putEntry r.errors name e }

end Report

omit [Seconds τ] [Host τ ω] in
/-- The kind of a fault in the log. -/
def kindLabel : Fault τ → String
  | .deletion _ kind _ _ => kind.label
  | _ => DeletionKind.other.label

/-- The seconds that each deletion may take: those of the framework, unless these are none. -/
def deletionLimit (f : Framework τ κ) : τ :=
  match f.deletionTimeout with
  | some timeout => if Seconds.isZero timeout then Namespace.standardDeletionTimeout else timeout
  | none => Namespace.standardDeletionTimeout

omit [Host τ ω] in
/-- Logs how an attempt to delete a namespace ended. -/
def noteDeletion (f : Framework τ κ) (name : String) : Except (Fault τ) Unit → BenchM τ ω κ Unit
  | .ok _ => pure ()
  | .error (.deletion _ .notFound _ _) =>
    note f .info "after_each.namespace_already_deleted" [("namespace", .text name)]
  | .error e =>
    note f .error "after_each.namespace_deletion_failed"
      [("namespace", .text name), ("kind", .text (kindLabel e)), ("error", .text e.message)]

/-- Attempts to delete one namespace inside a span. -/
def deleteOne (k : Nat) (name : String) (timeout : τ) : BenchM τ ω κ Unit :=
  enclose { operation := "delete_namespace", ns := some name } do
    let f ← frameworkAt k
    let client ← clientOf f
    onSite (f.cluster.deleteNamespace name client timeout)

/-- Attempts to delete namespaces one after the other; no ordinary fault stops it. -/
def deleteEach (k : Nat) (timeout : τ) (report : Report τ) :
    List String → BenchM τ ω κ (Report τ)
  | [] => pure report
  | name :: rest => do
    let f ← frameworkAt k
    note f .info "after_each.destroying_namespace"
      [("namespace", .text name), ("timeout", .seconds timeout)]
    let r ← (deleteOne k name timeout).attempt
    onSite (Site.record (.custody k (.attempted name r)))
    match r with
    | .error e =>
      if e.isOrdinary then do
        noteDeletion f name r
        deleteEach k timeout ((report.attempt name).close name r) rest
      else .fail e
    | .ok _ => deleteEach k timeout ((report.attempt name).close name r) rest

omit [Host τ ω] in
/-- Leaves the tracked namespaces as they are. -/
def skipDeletion (k : Nat) (f : Framework τ κ) (names : List String) :
    BenchM τ ω κ (Report τ) := do
  let reason :=
    if f.suite.deleteNamespace then SkipReason.keptOnFailure else SkipReason.deletionDisabled
  onSite (Site.record (.custody k (.kept names)))
  note f .info "after_each.namespace_deletion_skipped"
    [("reason", .text reason.text), ("namespaces", .value (.ofTexts names))]
  pure { Report.empty with skipped := some reason }

/-- Deletes the tracked namespaces, unless the suite is set to keep them. -/
def deleteTracked (k : Nat) (testFailed : Bool) : BenchM τ ω κ (Report τ) := do
  let f ← frameworkAt k
  let names := f.tracked.map (·.name)
  if f.suite.deletesAfter testFailed then deleteEach k (deletionLimit f) .empty names
  else skipDeletion k f names

/-- Closes the client if the framework has made it. An ordinary fault is logged. -/
def closeClient (f : Framework τ κ) : BenchM τ ω κ Unit :=
  match f.ownsClient, f.client with
  | true, some client =>
    Proc.rescue (onSite (Site.call (.closeClient client))) fun e =>
      if e.isOrdinary then
        note f .warning "after_each.client_close_failed" [("error", .text e.message)]
      else .fail e
  | _, _ => pure ()

/-- Closes the client and forgets everything of the test. -/
def resetAt (k : Nat) : BenchM τ ω κ Unit := do
  let f ← frameworkAt k
  closeClient f
  update k Framework.reset

omit [Seconds τ] in
/-- Logs what happened in the namespace of the test. An ordinary fault is logged as well. -/
def dumpOwn (f : Framework τ κ) : BenchM τ ω κ Unit :=
  match f.ns, f.client with
  | some record, some client =>
    Proc.rescue (onSite (f.cluster.dump record.name client)) fun e =>
      if e.isOrdinary then
        note f .error "after_each.dump_failed"
          [("namespace", .text record.name), ("exc_info", .flag true)]
      else .fail e
  | _, _ => pure ()

omit [Seconds τ] in
/-- Logs the diagnostics of a failed test, unless it has no namespace or the suite is set not
to. -/
def dumpFailed (k : Nat) (testFailed : Bool) : BenchM τ ω κ Unit := do
  let f ← frameworkAt k
  if testFailed && f.suite.dumpLogsOnFailure && !f.skipNamespace then dumpOwn f else pure ()

omit [Seconds τ] in
/-- Walks a queue of deferred actions from a place on, also through actions that are deferred
meanwhile. The first number bounds the actions walked. -/
def walk (r : Runner τ ω κ) (k cycle : Nat) : Nat → Nat → BenchM τ ω κ Unit
  | 0, _ => .fail (.plain .depth [.text "too many deferred actions"])
  | steps + 1, i => do
    let f ← frameworkAt k
    match (f.queue cycle)[i]? with
    | none => pure ()
    | some action =>
      act r (some k) action
      walk r k cycle steps (i + 1)

omit [Seconds τ] in
/-- What comes before the deletion: diagnostics, deferred actions, hook. -/
def windUp (r : Runner τ ω κ) (k : Nat) (testFailed : Bool) : BenchM τ ω κ Unit := do
  dumpFailed k testFailed
  let f ← frameworkAt k
  walk r k f.cycle r.patience 0
  hook r k .after

omit [Seconds τ] [Host τ ω] in
/-- How a teardown ends, given how what came before the deletion ended and what became of the
namespaces. -/
def settle (before : Except (Fault τ) Unit) (report : Report τ) : Except (Fault τ) (Report τ) :=
  match before with
  | .ok _ => if report.errors.isEmpty then .ok report else .error (.cleanup report.errors none)
  | .error e =>
    if e.isOrdinary && !report.errors.isEmpty then .error (.cleanup report.errors (some e))
    else .error e

/-- What comes after the winding up, given how that ended: the namespaces are deleted and the
framework is reset. -/
def clearAway (k : Nat) (testFailed : Bool) (before : Except (Fault τ) Unit) :
    BenchM τ ω κ (Report τ) := do
  let report ← deleteTracked k testFailed
  resetAt k
  Proc.conclude (settle before report)

/-- The teardown behind its registration: whatever comes before the deletion, the namespaces are
deleted and the framework is reset. -/
def conclude (r : Runner τ ω κ) (k : Nat) (testFailed : Bool) : BenchM τ ω κ (Report τ) := do
  let before ← (windUp r k testFailed).attempt
  clearAway k testFailed before

omit [Seconds τ] [Host τ ω] in
/-- Takes back the registered teardown of a framework. -/
def withdraw (k : Nat) : BenchM τ ω κ Unit := do
  let f ← frameworkAt k
  unregister f.handle
  update k fun f => { f with handle := none }

/-- Tears a test down. -/
def afterEach (r : Runner τ ω κ) (k : Nat) (testFailed : Bool) : BenchM τ ω κ (Report τ) := do
  withdraw k
  let f ← frameworkAt k
  enclose
    { operation := "after_each", baseName := some f.baseName,
      extra := [("e2e.test_failed", .flag testFailed)] }
    (conclude r k testFailed)

end Testbed.Framework
