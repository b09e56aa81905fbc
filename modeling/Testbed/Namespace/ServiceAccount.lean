import Testbed.Poll.Await

/-!
# The default service account

The server gives every namespace a default service account some time after its creation.
-/

set_option autoImplicit false

namespace Testbed.Namespace

variable {τ ω : Type} [Seconds τ] [Host τ ω]

/-- The name of the default service account. -/
def defaultAccount : String := "default"

/-- How long the default service account may take unless told otherwise. -/
def standardAccountTimeout : τ := 120.0

/-- Waits through a client until the default service account of a namespace exists. -/
def awaitServiceAccountThrough (client ns : String) (timeout interval : τ) : SiteM τ ω Unit := do
  let poll ← Poll.required timeout interval ("service account " ++ defaultAccount ++ " in " ++ ns)
  poll.hold Poll.absorbsOrdinary do
    Site.call (.readServiceAccount client defaultAccount ns)
    pure true

/-- Waits for the default service account of a namespace in a run without frameworks. -/
def awaitServiceAccount (ns : String) (timeout interval : τ) : SiteM τ ω Unit :=
  awaitServiceAccountThrough Call.soleClient ns timeout interval

end Testbed.Namespace
