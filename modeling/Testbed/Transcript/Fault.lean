import Testbed.Fault.Message
import Testbed.Number.Binary

/-!
# Faults in transcripts

A fault is written with its label and its message, what it holds if it is one of the library's own,
and the fault that caused it. Refused settings are written with their issues instead of a message,
and errors of usage without one.
-/

set_option autoImplicit false

namespace Testbed.Transcript

/-- A number of seconds. -/
def seconds (x : Float) : Value := .real (.ofFloat x)

/-- A natural number. -/
def count (n : Nat) : Value := .int n

/-- A record of which the name may be missing. -/
def recordNamed (name : Option String) (r : Namespace.Record) : Value :=
  .table
    [("name", .ofText? name), ("labels", .ofTable r.labels),
     ("created_at", .ofText? (r.createdAt.map Timestamp.text))]

/-- A record. -/
def record (r : Namespace.Record) : Value := recordNamed (some r.name) r

/-- A part that may be missing. -/
def optional {α : Type} (write : α → Value) : Option α → Value
  | some a => write a
  | none => .null

/-- An issue: the field, the code and the message. -/
def issue (i : Config.Issue) : Value :=
  .list [.ofTexts [i.field], .text i.problem.code, .text i.problem.message]

/-- The label and the message of a fault, then what else is written of it. -/
def described (e : Fault Float) (rest : List (String × Value)) : Value :=
  .table ([("error", .text e.label), ("message", .text e.message)] ++ rest)

/-- The entry of what a fault holds. -/
def holding (fields : List (String × Value)) : String × Value := ("fields", .table fields)

mutual

/-- A fault. -/
def fault : Fault Float → Value
  | e@(.setup baseName stage reason cause) =>
    described e
      (holding [("base_name", .text baseName), ("stage", .text stage), ("reason", .text reason)]
        :: causeOf cause)
  | e@(.creation baseName reason leftover cause) =>
    described e
      (holding
        [("base_name", .text baseName), ("reason", .text reason),
         ("namespace", optional record leftover)]
        :: causeOf cause)
  | e@(.deletion name kind reason cause) =>
    described e
      (holding
        [("name", .text name), ("kind", .text kind.label), ("reason", .text reason),
         ("is_not_found", .flag (kind == .notFound))]
        :: causeOf cause)
  | e@(.cleanup errors cause) =>
    described e (holding [("errors", .list (failures errors))] :: causeOf cause)
  | e@(.podFinished pod ns phase) =>
    described e
      [holding [("pod_name", .text pod), ("namespace", .text ns), ("phase", .text phase)]]
  | e@(.invalidName name reason) =>
    described e [holding [("namespace", .text name), ("reason", .text reason)]]
  | e@(.pollTimeout poll attempts last) =>
    described e
      [holding
        [("description", .text poll.subject), ("timeout", seconds poll.timeout),
         ("attempts", .int attempts), ("last_error", faultOrNull last)]]
  | e@(.invalidSettings issues) =>
    .table [("error", .text e.label), ("errors", .list (issues.map issue))]
  | e@(.usage cause) => .table (("error", .text e.label) :: causeOf cause)
  | e@(.generatorStop stop) =>
    described e [("cause", described (.plain .stopIteration stop) [])]
  | e => described e []

/-- A fault that may be missing. -/
def faultOrNull : Option (Fault Float) → Value
  | some e => fault e
  | none => .null

/-- The entry of a cause, if there is one. -/
def causeOf : Option (Fault Float) → List (String × Value)
  | some e => [("cause", fault e)]
  | none => []

/-- The namespaces that could not be deleted, each with its fault. -/
def failures : List (String × Fault Float) → List Value
  | [] => []
  | (name, e) :: rest => .list [.text name, fault e] :: failures rest

end

end Testbed.Transcript
