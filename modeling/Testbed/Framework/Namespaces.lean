import Testbed.Framework.Bench
import Testbed.Framework.Cluster

/-!
# The namespaces of a framework

Every namespace that a framework creates is tracked, so that it is deleted after the test. One
that was created but is not usable comes inside the fault, and is tracked as well.
-/

set_option autoImplicit false

namespace Testbed.Framework

open Bench

variable {τ ω κ : Type} [Seconds τ] [Host τ ω]

omit [Seconds τ] [Host τ ω] in
/-- The client of a framework, or the fault that it has none. -/
def clientOf (f : Framework τ κ) : BenchM τ ω κ String :=
  match f.client with
  | some client => pure client
  | none => .fail (.framework ("Framework " ++ Text.quoted f.baseName ++ " has no client set"))

omit [Seconds τ] [Host τ ω] in
/-- The namespace that a fault of a creation carries. -/
def leftoverOf : Fault τ → Option Namespace.Record
  | .creation _ _ leftover _ => leftover
  | _ => none

/-- Creates a namespace the way the framework is set to. -/
def provide (f : Framework τ κ) (baseName : String) (labels : Labels) :
    BenchM τ ω κ (Option Namespace.Record) := do
  let client ← clientOf f
  if f.customCreation then onSite (Site.call (.customProvide baseName client labels))
  else some <$> onSite (f.cluster.createNamespace baseName client labels)

omit [Seconds τ] [Host τ ω] in
/-- The namespace that a creation hands over, however it ends. -/
def handedOver : Except (Fault τ) (Option Namespace.Record) → Option Namespace.Record
  | .ok record => record
  | .error e => leftoverOf e

omit [Seconds τ] in
/-- Notes that namespaces are in the custody of the framework from now on. -/
def takeCustody (k : Nat) (records : List Namespace.Record) : BenchM τ ω κ Unit :=
  onSite (Site.record (.custody k (.taken records)))

/-- Creates a namespace and tracks it, also if it comes inside a fault. -/
def createNamespace (k : Nat) (baseName : String) (labels : Labels) :
    BenchM τ ω κ (Option Namespace.Record) := do
  let f ← frameworkAt k
  let r ← (provide f baseName labels).attempt
  takeCustody k (handedOver r).toList
  match r with
  | .ok record =>
    update k (·.track record)
    pure record
  | .error e =>
    update k (·.track (leftoverOf e))
    .fail e

omit [Seconds τ] in
/-- Tracks namespaces from outside, those that are there. -/
def trackEach (k : Nat) (records : List (Option Namespace.Record)) : BenchM τ ω κ Unit := do
  let _ ← frameworkAt k
  takeCustody k (records.filterMap id)
  update k fun f => records.foldl Framework.track f

/-- Waits for a pod in the namespace of the framework to run. -/
def awaitPod (k : Nat) (pod : String) (timeout : τ) : BenchM τ ω κ Unit := do
  let f ← frameworkAt k
  match f.ns with
  | none => .fail (.framework ("Framework " ++ Text.quoted f.baseName ++ " has no namespace"))
  | some record =>
    let client ← clientOf f
    onSite (f.cluster.awaitPod pod record.name client timeout)

end Testbed.Framework
