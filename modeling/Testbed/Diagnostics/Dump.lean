import Testbed.Fault.Message
import Testbed.Host.Site

/-!
# Diagnostics of a namespace

After a failed test the log gets what happened in its namespace, in order of time, and the phase
and the containers of every pod.
-/

set_option autoImplicit false

namespace Testbed.Diagnostics

open Pod

/-- What a container does: nothing is known without a state; else it is running, waiting or
terminated, the first of these that the server says. -/
def stateText : Option ContainerState → Option String
  | none => some "unknown"
  | some state =>
    if state.running then some "running"
    else
      match state.waiting, state.terminated with
      | some reason, _ => some ("waiting: " ++ Fault.orNone reason)
      | none, some t =>
        some ("terminated: " ++ Fault.orNone t.reason ++ " (exit " ++
          Fault.orNone (t.exitCode.map toString) ++ ")")
      | none, none => none

/-- The containers of a pod with what they do. -/
def containerStates (pod : Pod.Remote) : List (String × String) :=
  ((pod.status.map Status.containers).getD []).foldl
    (fun states c =>
      match stateText c.state with
      | some text => putEntry states c.name text
      | none => states)
    []

variable {τ ω : Type}

/-- The fault of comparing times of which some know their offset and others do not. -/
def incomparable : Fault τ :=
  .plain .wrongType [.text "can't compare offset-naive and offset-aware datetimes"]

/-- Occurrences in order of time, those of equal times in the order given. Times that know their
offset do not compare with times that do not. -/
def inOrder (occurrences : List Occurrence) : Except (Fault τ) (List Occurrence) :=
  if occurrences.any (fun o => o.time.isAware) && occurrences.any (fun o => !o.time.isAware) then
    .error incomparable
  else .ok (occurrences.mergeSort fun a b => decide (a.time.instant ≤ b.time.instant))

/-- Kind and name of the object of an occurrence. -/
def objectText (o : Occurrence) : Option String :=
  o.object.map fun obj => Fault.orNone obj.1 ++ "/" ++ Fault.orNone obj.2

/-- Logs an occurrence. -/
def logOccurrence (ns : String) (o : Occurrence) : SiteM τ ω Unit :=
  Site.log .info "diagnostics.event"
    [("namespace", .text ns), ("time", .text o.time.text), ("object", .text? (objectText o)),
     ("type", .text? o.type), ("reason", .text? o.reason), ("message", .text? o.message)]

/-- Logs a pod. -/
def logPod (ns : String) (p : Pod.Remote) : SiteM τ ω Unit :=
  Site.log .info "diagnostics.pod"
    [("namespace", .text ns), ("pod", .text? p.name), ("phase", .text? p.phase),
     ("node", .text? (p.node.bind id)), ("containers", .labels (containerStates p))]

/-- Runs a procedure for each item in order. -/
def forEach {α : Type} (f : α → SiteM τ ω Unit) : List α → SiteM τ ω Unit
  | [] => pure ()
  | a :: rest => do
    f a
    forEach f rest

variable [Host τ ω]

/-- Logs what happened in a namespace and its pods, as they are listed through a client. -/
def dumpThrough (client ns : String) : SiteM τ ω Unit := do
  let occurrences ← Site.call (.listOccurrences client ns)
  Site.log .info "diagnostics.events"
    [("namespace", .text ns), ("count", .count (occurrences.length : Int))]
  let ordered ← Proc.conclude (inOrder occurrences)
  forEach (logOccurrence ns) ordered
  let pods ← Site.call (.listPods client ns)
  Site.log .info "diagnostics.pods" [("namespace", .text ns), ("count", .count (pods.length : Int))]
  forEach (logPod ns) pods

/-- Logs what happened in a namespace and its pods in a run without frameworks. -/
def dump (ns : String) : SiteM τ ω Unit := dumpThrough Call.soleClient ns

end Testbed.Diagnostics
