import Testbed.Session.Run
import Testbed.Transcript.Event

/-!
# Runs in transcripts

A step is written with how it ended, what happened, and the frameworks and the registry after it; a
scenario is a list of steps, and a session its configuration, its tests and its end.
-/

set_option autoImplicit false

namespace Testbed.Transcript

variable {ω : Type} [Host Float ω] {α : Type}

/-- The client options of a framework. -/
def clientOptions (o : Config.ClientOptions Float) : Value := .list [seconds o.qps, .int o.burst]

/-- A framework. -/
def framework (f : Framework Float (Body Float)) : Value :=
  .table
    [("base_name", .text f.baseName), ("unique_name", .ofText? f.uniqueName),
     ("namespace", optional record f.ns), ("to_delete", .ofTexts (f.tracked.map (·.name))),
     ("handle", optional count f.handle), ("client", .ofText? f.client),
     ("actions", count f.actions.length), ("options", clientOptions f.options)]

/-- The frameworks that have names. -/
def frameworks (b : Bench Float ω (Body Float)) : Value :=
  .table (b.names.filterMap fun n => (b.frameworks[n.2]?).map fun f => (n.1, framework f))

/-- A suite configuration. -/
def suite (c : Config.Suite Float) : Value :=
  .table
    [("delete_namespace", .flag c.deleteNamespace),
     ("delete_namespace_on_failure", .flag c.deleteNamespaceOnFailure),
     ("dump_logs_on_failure", .flag c.dumpLogsOnFailure),
     ("verify_service_account", .flag c.verifyServiceAccount),
     ("service_account_timeout", seconds c.serviceAccountTimeout),
     ("namespace_creation_timeout", seconds c.namespaceCreationTimeout),
     ("kubeconfig", .ofText? c.kubeconfig), ("kube_context", .ofText? c.kubeContext)]

/-- The report of a teardown. -/
def report (r : Framework.Report Float) : Value :=
  .table
    [("attempted", .ofTexts r.attempted), ("deleted", .ofTexts r.deleted),
     ("already_gone", .ofTexts r.alreadyGone), ("errors", .list (failures r.errors)),
     ("skipped", .ofText? (r.skipped.map (·.text))), ("deletion_skipped", .flag r.skipped.isSome)]

/-- What a step gave. -/
def outcome : Outcome Float → Value
  | .nothing => .null
  | .text s => .text s
  | .number n => count n
  | .flag b => .flag b
  | .record r => optional record r
  | .report r => report r
  | .failures fs => .list (fs.map fun f => .list [count f.1, fault f.2])

/-- A trace with a way to write its value. -/
def trace (write : α → Value) (t : Trace Float ω (Body Float) α) : Value :=
  .table
    (ended (t.ending.map write) ++ happened t.events (Host.now t.after.site.world) ++
      [("state", frameworks t.after), ("pending", count t.after.registry.size)])

/-- A trace without a value. -/
def bareTrace (t : Trace Float ω (Body Float) Unit) : Value := trace (fun _ => .null) t

/-- A scenario. -/
def scenario (traces : List (Trace Float ω (Body Float) (Outcome Float))) : Value :=
  .list (traces.map (trace outcome))

/-- The report of a phase. -/
def phaseReport (r : Session.PhaseReport) : Value :=
  .table [("when", .text r.phase), ("failed", .flag r.failed), ("test_failed", .flag r.testFailed)]

/-- A test. -/
def test (t : Session.TestTrace Float ω) : Value :=
  .table
    ([("setup", bareTrace t.setup), ("body", scenario t.body),
      ("reports", .list (t.reports.map phaseReport))] ++
      (t.teardown.map fun t => ("teardown", bareTrace t)).toList)

/-- How a session was configured. Errors of usage are a result, and other faults are not. -/
def configured (b : Bench Float ω (Body Float)) (c : Except (Fault Float) (Config.Suite Float)) :
    Value :=
  let markers := Session.markerLines.map fun m => .ofTexts [m.1, m.2]
  let ending : Except (Fault Float) Value :=
    match c with
    | .ok config => .ok (.table [("markers", .list markers), ("suite_config", suite config)])
    | .error (.usage cause) => .ok (fault (.usage cause))
    | .error e => .error e
  trace id ⟨ending, [], b⟩

/-- A session. -/
def session (s : Session Float) (t : Session.SessionTrace Float ω) : Value :=
  let config := t.configured.bind fun c => c.toOption
  .table
    ([("header_before", .ofText? (Session.header (none : Option (Config.Suite Float))))] ++
      (t.configured.map fun c => ("configure", configured t.before c)).toList ++
      [("header", .ofText? (Session.header config))] ++
      (if config.isSome then
        [("provider", .text (Session.providerName s.provider)),
         ("tests", .list (t.tests.map test))]
      else []) ++
      [("finish", bareTrace t.finish), ("sigterm_restored", .flag true)])

end Testbed.Transcript
