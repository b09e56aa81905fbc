import Testbed.Host.Notes
import Testbed.Poll.Await

/-!
# Waiting for a pod to run

The first phase that decides ends the wait: a running pod is what was waited for, and a finished
one is a fault, since it will not run any more. The phases that are seen are noted on the way, and
the last one of them tells which of the two it was.
-/

set_option autoImplicit false

namespace Testbed.Pod

variable {τ ω : Type} [Seconds τ] [Host τ ω]

/-- How long a pod may take to run unless told otherwise. -/
def standardStartTimeout : τ := 300.0

omit [Seconds τ] in
/-- Notes the phase of a pod, if it has one, and tells whether it decides. -/
def hasDecided (client pod ns : String) : SiteM τ (Noting String ω) Bool := do
  let remote ← Site.call (.readPod client pod ns)
  match remote.phase with
  | none => pure false
  | some phase => do
    Site.note phase
    pure (isDecisive phase)

/-- The fault of asking for the last one of no phases. -/
def nothingSeen : Fault τ := .plain .index [.text "list index out of range"]

omit [Seconds τ] [Host τ ω] in
/-- Accepts a pod in a phase that decides: one that has finished will not run. -/
def judge (pod ns phase : String) : SiteM τ ω Unit :=
  if finalPhases.contains phase then .fail (.podFinished pod ns phase) else pure ()

omit [Seconds τ] [Host τ ω] in
/-- Judges a pod by the last phase that was seen. -/
def judgeLast (pod ns : String) (phases : List String) : SiteM τ ω Unit :=
  match phases.getLast? with
  | none => .fail nothingSeen
  | some phase => judge pod ns phase

/-- Waits through a client until a pod runs. -/
def awaitRunningThrough (client pod ns : String) (timeout interval : τ) : SiteM τ ω Unit := do
  let poll ← Poll.required timeout interval ("pod " ++ ns ++ "/" ++ pod ++ " to be running")
  let phases ← Site.noted (poll.hold Poll.absorbsOrdinary (hasDecided client pod ns))
  judgeLast pod ns phases

/-- Waits until a pod runs in a run without frameworks. -/
def awaitRunning (pod ns : String) (timeout interval : τ) : SiteM τ ω Unit :=
  awaitRunningThrough Call.soleClient pod ns timeout interval

end Testbed.Pod
