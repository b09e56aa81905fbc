import Testbed.Fault.Message
import Testbed.Poll.Await

/-!
# Deleting a namespace

A deletion is requested once, and then awaited until the server no longer knows the namespace. A
namespace that stays is reported together with the resources that are left in it.
-/

set_option autoImplicit false

namespace Testbed.Namespace

variable {τ ω : Type} [Seconds τ] [Host τ ω]

/-- How long a deletion may take unless told otherwise. -/
def standardDeletionTimeout : τ := 300.0

omit [Seconds τ] [Host τ ω] in
/-- The status and the reason of an answer of the server; its whole message if it has no status. -/
def answerReason (status : Option Int) (reason body : Option String) : String :=
  match status with
  | some status => toString status ++ " " ++ Fault.orNone reason
  | none => Fault.apiMessage none reason body

/-- Requests the deletion. -/
def requestDeletion (client name : String) : SiteM τ ω Unit :=
  Proc.rescue (Site.call (.deleteNamespace client name)) fun e =>
    match e with
    | .api status reason body =>
      .fail (.deletion name (.ofStatus status) (answerReason status reason body) (some e))
    | e => .fail e

/-- Whether the server no longer knows the namespace. -/
def isGone (client name : String) : SiteM τ ω Bool :=
  Proc.rescue
    (do
      let _ ← Site.call (.readNamespace client name)
      pure false)
    fun e =>
      match e with
      | .api (some 404) _ _ => pure true
      | e => .fail e

/-- How many resources of a kind are left; none if the server refuses to list them. -/
def countResource (client : String) (resource : Resource) (name : String) : SiteM τ ω Nat :=
  Proc.rescue (Site.call (.listResource client resource name)) fun e =>
    match e with
    | .api .. => pure 0
    | e => .fail e

/-- Counts the resources of each kind that are left, those of which there are none left out. A
later count replaces an earlier one of the same kind. -/
def countResources (client name : String) (counts : List (String × Nat)) :
    List Resource → SiteM τ ω (List (String × Nat))
  | [] => pure counts
  | resource :: rest =>
    if resource.isListable then do
      let n ← countResource client resource name
      countResources client name (if n = 0 then counts else putEntry counts resource.kind n) rest
    else countResources client name counts rest

/-- The resources that are left in a namespace, as far as they can be counted. -/
def leftovers (client name : String) : SiteM τ ω (List (String × Nat)) := do
  match ← Proc.attempt (Site.call (.discover client)) with
  | .ok resources => countResources client name [] resources
  | .error e =>
    if e.isOrdinary then do
      Site.log .warning "namespace.discovery_failed"
        [("namespace", .text name), ("error", .text e.message)]
      pure []
    else .fail e

/-- Counts in the order of their kinds. -/
def countsText (counts : List (String × Nat)) : String :=
  let sorted := counts.mergeSort fun a b => !decide (b.1 < a.1)
  ", ".intercalate (sorted.map fun c => c.1 ++ "=" ++ toString c.2)

/-- Why a namespace that is still there could not be deleted. -/
def stillPresent (timeout : τ) (counts : List (String × Nat)) : String :=
  "namespace still present after " ++ Seconds.tenths timeout ++ "s" ++
    (if counts.isEmpty then "" else "; remaining resources: " ++ countsText counts)

/-- Waits until a namespace is gone whose deletion was requested. -/
def awaitGone (client name : String) (timeout interval : τ) : SiteM τ ω Unit := do
  let poll ← Poll.required timeout interval ("namespace " ++ name ++ " deletion")
  match ← poll.await Poll.absorbsOrdinary (Poll.whether (isGone client name)) with
  | .ok _ => Site.log .debug "namespace.deleted" [("namespace", .text name)]
  | .error w =>
    let counts ← leftovers client name
    .fail (.deletion name .timeout (stillPresent timeout counts) (some (w.fault poll)))

/-- Deletes a namespace through a client and waits until it is gone. -/
def deleteThrough (client name : String) (timeout interval : τ) : SiteM τ ω Unit := do
  requestDeletion client name
  awaitGone client name timeout interval

/-- Deletes a namespace in a run without frameworks. -/
def delete (name : String) (timeout interval : τ) : SiteM τ ω Unit :=
  deleteThrough Call.soleClient name timeout interval

end Testbed.Namespace
