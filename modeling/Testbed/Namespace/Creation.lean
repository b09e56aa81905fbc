import Testbed.Fault.Message
import Testbed.Namespace.Name
import Testbed.Poll.Await

/-!
# Creating a namespace

The server completes the name of a new namespace. Attempts are repeated until a deadline, since a
server that has just started refuses requests. Each attempt labels its namespace with a fresh
identifier: when an attempt fails without a clear refusal, its namespace may exist all the same,
and is then found by the label and taken over instead of creating a second one.
-/

set_option autoImplicit false

namespace Testbed.Namespace

variable {τ ω : Type} [Seconds τ] [Host τ ω]

/-- The label that tells the attempts to create a namespace apart. -/
def creationLabel : String := "e2e-framework/creation-id"

/-- The selector of the namespaces that an attempt may have created. -/
def creationSelector (id : String) : String := creationLabel ++ "=" ++ id

omit [Seconds τ] [Host τ ω] in
/-- The status of an answer that refuses the request, after which nothing was created: any status
of the four hundreds except the one for a request that took too long. -/
def refusal? : Fault τ → Option Int
  | .api (some status) _ _ =>
    if 400 ≤ status ∧ status < 500 ∧ status ≠ 408 then some status else none
  | _ => none

/-- What the name of a namespace for this base name begins with; the rest is left to the
server. -/
def generateName (baseName : String) : String :=
  Name.normalized baseName ((Name.maxLength : Int) - Name.suffixLength - 1) ++ "-"

/-- The namespace that a failed attempt has created after all, if there is one. Failing to find
out ends the creation. -/
def findCreated (client baseName id : String) (failure : Fault τ) :
    SiteM τ ω (Option Remote) := do
  match ← Proc.attempt (Site.call (.listNamespaces client (creationSelector id))) with
  | .ok [] => pure none
  | .ok (found :: _) =>
    Site.log .warning "namespace.create_adopted"
      [("namespace", .text? found.name), ("base_name", .text baseName),
       ("error", .text failure.message)]
    pure (some found)
  | .error e =>
    if e.isOrdinary then
      .fail (.creation baseName
        ("create failed (" ++ failure.message ++ ") and looking up a namespace it may have " ++
          "created also failed: " ++ e.message) none (some e))
    else .fail e

/-- One attempt to create a namespace. An attempt that created nothing leaves its fault as a
note. -/
def tryCreate (client baseName : String) (labels : Labels) : SiteM τ ω (Poll.Look τ Record) := do
  let id ← Site.freshId
  let create :=
    Site.call (.createNamespace client (generateName baseName) (putEntry labels creationLabel id))
  match ← Proc.attempt create with
  | .ok made => pure (.found made.record)
  | .error e =>
    if !e.isOrdinary then .fail e
    else
      match refusal? e with
      | some status =>
        Site.log .debug "namespace.create_rejected"
          [("base_name", .text baseName), ("status", .count status)]
        pure (.notYet (some e))
      | none =>
        match ← findCreated client baseName id e with
        | some found => pure (.found found.record)
        | none => pure (.notYet (some e))

/-- Attempts to create a namespace until one succeeds. -/
def createWithin (client baseName : String) (labels : Labels) (timeout interval : τ) :
    SiteM τ ω Record := do
  let poll ← Poll.required timeout interval ("namespace creation for " ++ baseName)
  match ← poll.await Poll.absorbsNone (tryCreate client baseName labels) with
  | .ok record => pure record
  | .error w =>
    let late := w.fault poll
    let why :=
      match w.note with
      | some failure => " (last error: " ++ failure.message ++ ")"
      | none => ""
    .fail (.creation baseName (late.message ++ why) none (some late))

/-- Waits until the namespace is in use. -/
def awaitActive (client baseName : String) (record : Record) (timeout interval : τ) :
    SiteM τ ω Unit := do
  let poll ← Poll.required timeout interval ("namespace " ++ record.name ++ " to become Active")
  let active := (·.isActive) <$> (Site.call (.readNamespace client record.name) : SiteM τ ω Remote)
  match ← poll.await Poll.absorbsOrdinary (Poll.whether active) with
  | .ok _ => pure ()
  | .error w =>
    let late := w.fault poll
    .fail (.creation baseName late.message (some record) (some late))

/-- Creates a namespace through a client and waits until it is in use. The timeout bounds the
attempts to create it and, on their own, the wait that follows. A namespace that was created and is
not usable is carried by the fault. -/
def createThrough (client baseName : String) (labels : Labels) (timeout interval : τ) :
    SiteM τ ω Record := do
  let record ← createWithin client baseName labels timeout interval
  Site.log .info "namespace.created"
    [("namespace", .text record.name), ("base_name", .text baseName)]
  if Name.isAccepted record.name then do
    awaitActive client baseName record timeout interval
    pure record
  else
    let cause := Fault.invalidName record.name "server returned an invalid name"
    .fail (.creation baseName cause.message (some record) (some cause))

/-- Creates a namespace in a run without frameworks. -/
def create (baseName : String) (labels : Labels) (timeout interval : τ) : SiteM τ ω Record :=
  createThrough Call.soleClient baseName labels timeout interval

/-- How long namespace creation may take unless told otherwise. -/
def standardCreationTimeout : τ := 30.0

end Testbed.Namespace
