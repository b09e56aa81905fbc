import Testbed.Config.Client
import Testbed.Document.Objects
import Testbed.Fault.Message
import Testbed.Poll.Config

/-!
# Faults in documents

A document names a fault by its label and gives what the fault holds. Faults inside faults nest, so
the reader is bounded by the depth of the document. What a document gives may not make the fault
that it names; then it describes the fault of making it.
-/

set_option autoImplicit false

namespace Testbed

namespace Value

mutual

/-- How deeply a value nests: a bound for readers that follow it. -/
def depth : Value → Nat
  | .list items => deepest items + 1
  | .table entries => deepestEntry entries + 1
  | _ => 1

/-- The greatest depth among items. -/
def deepest : List Value → Nat
  | [] => 0
  | v :: rest => max (depth v) (deepest rest)

/-- The greatest depth among entries. -/
def deepestEntry : List (String × Value) → Nat
  | [] => 0
  | (_, v) :: rest => max (depth v) (deepestEntry rest)

end

end Value

namespace Document

variable {τ : Type}

/-- The kinds of plain faults that documents can name. -/
def plainKinds : List PlainKind :=
  [.general, .runtime, .value, .lookup, .missingKey, .index, .system, .connection, .connectionReset,
   .timedOut, .assertion, .keyboardInterrupt, .systemExit, .generatorExit, .framework,
   .configuration]

/-- The kind of plain faults with a label. -/
def plainKind? (label : String) : Option PlainKind := plainKinds.find? fun k => k.label == label

/-- The error number at the head of arguments that hold a text as well. -/
def errorNumber? : List Value → Option Int
  | [_] => none
  | .int n :: rest => if rest.length ≤ 4 then some n else none
  | .flag b :: rest => if rest.length ≤ 4 then some (if b then 1 else 0) else none
  | _ => none

/-- The kind of a plain fault. A failed system call with an error number is of the kind that the
number stands for. -/
def refined (kind : PlainKind) (args : List Value) : PlainKind :=
  match kind, errorNumber? args with
  | .system, some n => .ofErrorNumber n
  | kind, _ => kind

/-- A fault, or the fault of making it. -/
abbrev Described (τ : Type) : Type := Except (Fault τ) (Fault τ)

/-- A plain fault with its arguments. What a call that would have blocked has written is counted
by a machine integer. -/
def plain (kind : PlainKind) (args : List Value) : Described τ :=
  match kind, Fault.systemFiles args with
  | .blocking, .real _ :: _ =>
    .error (.plain .wrongType [.text "'float' object cannot be interpreted as an integer"])
  | .blocking, .int n :: _ =>
    if -Config.machineBound ≤ n ∧ n < Config.machineBound then .ok (.plain kind args)
    else .error (.plain .value [.text "cannot fit 'int' into an index-sized integer"])
  | _, _ => .ok (.plain kind args)

/-- The described faults of a list, or the first fault of making one of them. -/
def allDescribed : List (String × Described τ) → Except (Fault τ) (List (String × Fault τ))
  | [] => .ok []
  | (name, e) :: rest => do
    let e ← e
    let rest ← allDescribed rest
    .ok ((name, e) :: rest)

/-- Reads the kind of a failed deletion. -/
def deletionKind? (v : Value) : Option DeletionKind := do
  let label ← v.text?
  [DeletionKind.notFound, .timeout, .forbidden, .other].find? fun k => k.label == label

variable [Seconds τ]

/-- A poll that timed out with its last fault; its settings have to make a poll. -/
def timedOut (entries : Config.Entries) (attempts : Int) (last : Option (Described τ)) :
    Described τ :=
  match Poll.ofEntries entries, last with
  | .error issues, _ => .error (.invalidSettings issues)
  | .ok _, some (.error e) => .error e
  | .ok poll, some (.ok e) => .ok (.pollTimeout poll attempts (some e))
  | .ok poll, none => .ok (.pollTimeout poll attempts none)

/-- Reads the description of a fault. The first argument bounds how deeply faults nest. -/
def describedIn? : Nat → Value → Option (Described τ)
  | 0, _ => none
  | depth + 1, v => do
    let label ← (v.entry "type").text?
    let text := fun key => (v.entry key).text?
    match plainKind? label with
    | some kind => do
      let args ← each? some (v.entry "args")
      some (plain (refined kind args) args)
    | none =>
      match label with
      | "ApiException" => do
        let status ← optional? Value.int? (v.entry "status")
        let reason ← optionalText? (v.entry "reason")
        let body ← optionalText? (v.entry "body")
        some (.ok (.api status reason body))
      | "Failed" => do
        let message ← text "message"
        some (.ok (.failed message))
      | "FrameworkSetupError" => do
        let baseName ← text "base_name"
        let stage ← text "stage"
        let reason ← text "reason"
        some (.ok (.setup baseName stage reason none))
      | "NamespaceCreationError" => do
        let baseName ← text "base_name"
        let reason ← text "reason"
        let leftover ← optional? record? (v.entry "namespace")
        some (.ok (.creation baseName reason leftover none))
      | "NamespaceDeletionError" => do
        let name ← text "name"
        let kind ← deletionKind? (v.entry "kind")
        let reason ← text "reason"
        some (.ok (.deletion name kind reason none))
      | "NamespaceCleanupError" => do
        let errors ← each? (failureIn? depth) (v.entry "errors")
        some ((allDescribed errors).map fun errors => .cleanup (putEntries [] errors) none)
      | "PodNotRunningError" => do
        let pod ← text "pod_name"
        let ns ← text "namespace"
        let phase ← text "phase"
        some (.ok (.podFinished pod ns phase))
      | "InvalidNamespaceError" => do
        let name ← text "namespace"
        let reason ← text "reason"
        some (.ok (.invalidName name reason))
      | "PollingTimeoutError" => do
        let entries ← settings? (v.entry "config")
        let attempts ← (v.entry "attempts").int?
        let last ← optional? (describedIn? depth) (v.entry "last_error")
        some (timedOut entries attempts last)
      | _ => none
where
  /-- Reads the name of a namespace with the fault of its deletion. -/
  failureIn? (depth : Nat) (v : Value) : Option (String × Described τ) :=
    match v with
    | .list [.text name, e] => (describedIn? depth e).map fun e => (name, e)
    | _ => none

/-- Reads the description of a fault. -/
def described? (v : Value) : Option (Described τ) := describedIn? v.depth v

/-- Reads what is raised by the description of a fault: the fault, or the one of making it. -/
def fault? (v : Value) : Option (Fault τ) :=
  (described? v).map fun d =>
    match d with
    | .ok e => e
    | .error e => e

end Document

end Testbed
