import Testbed.Document.Fault
import Testbed.Pod.Readiness
import Testbed.Step

/-!
# Steps in documents

A document gives the kind of a step and what the step needs. Actions, hooks and extensions hold
steps again, so the reader is bounded by the depth of the document.
-/

set_option autoImplicit false

namespace Testbed.Document

variable {τ : Type} [Seconds τ]

/-- Reads how a framework is made. -/
def maker? (v : Value) : Option Maker :=
  match v with
  | .null | .text "framework" => some .plain
  | .text "new" => some .extended
  | .text "default" => some .standard
  | _ => none

/-- Reads a change to a framework. -/
def change? (v : Value) : Option (Change τ) :=
  let value := v.entry "value"
  match v.entry "name" with
  | .text "client_set" => (optionalText? value).map .client
  | .text "namespace" => (optional? record? value).map .ns
  | .text "suite_config" => (settings? value).map .suite
  | .text "namespace_deletion_timeout" => (optional? seconds? value).map .deletionTimeout
  | .text "skip_namespace_creation" => (flag? value).map .skipNamespace
  | .text "skip_service_account_wait" => (flag? value).map .skipServiceAccountWait
  | .text "unique_name" => (optionalText? value).map .uniqueName
  | _ => none

/-- Reads an action with a reader of its steps. -/
def action? (steps? : Value → Option (Body τ)) (v : Value) : Option (Action (Body τ)) := do
  let name ← (v.entry "name").text?
  let body ← steps? (v.entry "steps")
  some ⟨name, body⟩

/-- Reads a provider with a reader of the steps of its hooks. -/
def provider? (steps? : Value → Option (Body τ)) (v : Value) : Option (Provider (Body τ)) := do
  let before ← steps? (v.entry "before")
  let after ← steps? (v.entry "after")
  some ⟨before, after⟩

/-- Reads what a framework is to be made of. -/
def blueprint? (steps? : Value → Option (Body τ)) (v : Value) :
    Option (Blueprint τ (Body τ)) := do
  let baseName ← (v.entry "base_name").text?
  let options ← optional? settings? (v.entry "options")
  let client ← optionalText? (v.entry "client")
  let suite ← optional? settings? (v.entry "suite_config")
  let fromEnvironment ← flag? (v.entry "env_config")
  let skipNamespace ← flag? (v.entry "skip_namespace_creation")
  let skipServiceAccountWait ← flag? (v.entry "skip_service_account_wait")
  let deletionTimeout ← optional? seconds? (v.entry "namespace_deletion_timeout")
  let customCreation ← flag? (v.entry "strategy")
  let provider ← optional? (provider? steps?) (v.entry "provider")
  let extensions ← optional? (each? steps?) (v.entry "extensions")
  let maker ← maker? (v.entry "constructor")
  some ⟨baseName, options, client, suite, fromEnvironment, skipNamespace, skipServiceAccountWait,
    deletionTimeout, customCreation, provider, extensions, maker⟩

/-- Reads a step. The first argument bounds how deeply steps nest. -/
def stepIn? : Nat → Value → Option (Step τ)
  | 0, _ => none
  | depth + 1, v => do
    let kind ← (v.entry "do").text?
    let id ← optionalText? (v.entry "id")
    let steps? := each? (stepIn? depth)
    let action := action? steps? (v.entry "action")
    match kind with
    | "new" => (blueprint? steps? v).map (.build (id.getD defaultName))
    | "factory" => (blueprint? steps? v).map (.provide (id.getD defaultName))
    | "before_each" => (optionalText? (v.entry "test_path")).map (.beforeEach id)
    | "after_each" => (flag? (v.entry "test_failed")).map (.afterEach id)
    | "create" => do
      let baseName ← (v.entry "base_name").text?
      let labels ← labels? (v.entry "labels")
      some (.create id baseName labels)
    | "track" => (each? (optional? record?) (v.entry "namespaces")).map (.track id)
    | "defer" => action.map (.defer id)
    | "wait_pod" => do
      let pod ← (v.entry "pod").text?
      let timeout ← orElse? Pod.standardStartTimeout seconds? (v.entry "timeout")
      some (.awaitPod id pod timeout)
    | "repr" => some (.display id)
    | "set" => (change? v).map (.set id)
    | "add" => action.map .add
    | "remove" => (optional? Value.int? (v.entry "handle")).map .remove
    | "contains" => (optional? Value.int? (v.entry "handle")).map .contains
    | "len" => some .size
    | "drain" => some .drain
    | "raise" => (fault? (v.entry "error")).map .raise
    | "advance" => (seconds? (v.entry "by")).map .advance
    | "sigterm" => some .terminate
    | "self_namespace" => some .ownNamespace
    | "self_client" => some .ownClient
    | "self_create" => do
      let baseName ← optionalText? (v.entry "base_name")
      let labels ← labels? (v.entry "labels")
      some (.ownCreate baseName labels)
    | "self_defer" => action.map .ownDefer
    | _ => none

/-- Reads a list of steps. -/
def steps? (v : Value) : Option (Body τ) := each? (stepIn? v.depth) v

end Testbed.Document
