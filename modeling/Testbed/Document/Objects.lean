import Testbed.Diagnostics.Occurrence
import Testbed.Document.Part
import Testbed.Namespace.Resource
import Testbed.Pod.Basic

/-!
# Objects of the server in documents

Namespaces, pods, occurrences and kinds of resources as documents describe them.
-/

set_option autoImplicit false

namespace Testbed.Document

/-- Reads a namespace as the server describes it. Unless the document says otherwise, it is in
use. -/
def remote? (v : Value) : Option Namespace.Remote := do
  let name ← optionalText? (v.entry "name")
  let labels ← optional? labels? (v.entry "labels")
  let createdAt ← optional? timestamp? (v.entry "created_at")
  let phase ←
    if v.hasEntry "phase" then optionalText? (v.entry "phase")
    else some (some Namespace.activePhase)
  let statusless ← flag? (v.entry "no_status")
  some ⟨name, labels, createdAt, if statusless then none else some phase⟩

/-- Reads the record of a namespace. -/
def record? (v : Value) : Option Namespace.Record := do
  let name ← (v.entry "name").text?
  let labels ← labels? (v.entry "labels")
  let createdAt ← optional? timestamp? (v.entry "created_at")
  some ⟨name, labels, createdAt⟩

/-- Reads how a container ended. -/
def termination? (v : Value) : Option Pod.Termination := do
  let reason ← optionalText? (v.entry "reason")
  let exitCode ← optional? Value.int? (v.entry "exit_code")
  some ⟨reason, exitCode⟩

/-- Whether a value is there at all. -/
def isPresent : Value → Bool
  | .null => false
  | _ => true

/-- Reads the state of a container. -/
def containerState? (v : Value) : Option Pod.ContainerState := do
  let waiting ← optional? (fun w => optionalText? (w.entry "reason")) (v.entry "waiting")
  let terminated ← optional? termination? (v.entry "terminated")
  some ⟨isPresent (v.entry "running"), waiting, terminated⟩

/-- Reads a container. One without a name goes by that of a missing value. -/
def container? (v : Value) : Option Pod.Container := do
  let name ← orElse? "null" Value.text? (v.entry "name")
  let state ← optional? containerState? (v.entry "state")
  some ⟨name, state⟩

/-- Reads a pod. -/
def pod? (v : Value) : Option Pod.Remote := do
  let name ← optionalText? (v.entry "name")
  let phase ← optionalText? (v.entry "phase")
  let containers ← each? container? (v.entry "containers")
  let statusless ← flag? (v.entry "no_status")
  let node ← optionalText? (v.entry "node")
  let unspecified ← flag? (v.entry "no_spec")
  some ⟨name, if statusless then none else some ⟨phase, containers⟩,
    if unspecified then none else some node⟩

/-- Reads kind and name of an object. -/
def object? (v : Value) : Option (Option String × Option String) := do
  let kind ← optionalText? (v.entry "kind")
  let name ← optionalText? (v.entry "name")
  some (kind, name)

/-- Reads an occurrence. -/
def occurrence? (v : Value) : Option Diagnostics.Occurrence := do
  let lastSeen ← optional? timestamp? (v.entry "last_timestamp")
  let seen ← optional? timestamp? (v.entry "event_time")
  let firstSeen ← optional? timestamp? (v.entry "first_timestamp")
  let created ← optional? timestamp? (v.entry "creation_timestamp")
  let object ← optional? object? (v.entry "object")
  let type ← optionalText? (v.entry "type")
  let reason ← optionalText? (v.entry "reason")
  let message ← optionalText? (v.entry "message")
  some ⟨lastSeen, seen, firstSeen, created, object, type, reason, message⟩

/-- Reads a kind of resource at a place of the discovery. -/
def resource? (place : Nat) (v : Value) : Option Namespace.Resource := do
  let name ← (v.entry "name").text?
  let kind ← (v.entry "kind").text?
  let verbs ← each? Value.text? (v.entry "verbs")
  some ⟨place, name, kind, verbs⟩

/-- Reads a discovery. -/
def resources? (v : Value) : Option (List Namespace.Resource) := do
  let items ← each? some v
  items.zipIdx.mapM fun e => resource? e.2 e.1

end Testbed.Document
