/-!
# Pods

A pod as the server describes it: its phase, its node and the states of its containers. Every part
may be missing.
-/

set_option autoImplicit false

namespace Testbed.Pod

/-- How a container ended. -/
structure Termination where
  reason : Option String
  exitCode : Option Int
  deriving DecidableEq, Repr

/-- The state of a container. The server sets one of the parts, but does not promise to. -/
structure ContainerState where
  running : Bool
  /-- The reason of a container that waits. -/
  waiting : Option (Option String)
  terminated : Option Termination
  deriving DecidableEq, Repr

/-- A container with its state. -/
structure Container where
  name : String
  state : Option ContainerState
  deriving DecidableEq, Repr

/-- The status of a pod. -/
structure Status where
  phase : Option String
  containers : List Container
  deriving DecidableEq, Repr

/-- A pod as the server describes it. -/
structure Remote where
  name : Option String
  status : Option Status
  /-- The node that the pod's specification names, if it has a specification. -/
  node : Option (Option String)
  deriving DecidableEq, Repr

/-- The phase of a pod that runs. -/
def runningPhase : String := "Running"

/-- The phases of pods that have finished. -/
def finalPhases : List String := ["Succeeded", "Failed"]

/-- Whether a phase decides a wait for the pod to run. -/
def isDecisive (phase : String) : Bool := phase == runningPhase || finalPhases.contains phase

/-- The phase of a pod, if it has one. -/
def Remote.phase (p : Remote) : Option String := p.status.bind Status.phase

end Testbed.Pod
