import Testbed.Timestamp
import Testbed.Value.Basic

/-!
# Namespaces on the server and on record

A namespace as the server describes it, and the record that is kept of one that a test owns.
-/

set_option autoImplicit false

namespace Testbed

/-- Labels with their values. -/
abbrev Labels : Type := List (String × String)

namespace Namespace

/-- A namespace as the server describes it. The name may be missing in an answer; the status may be
missing, and so may its phase. -/
structure Remote where
  name : Option String
  labels : Option Labels
  createdAt : Option Timestamp
  status : Option (Option String)
  deriving DecidableEq, Repr

/-- A namespace created for a test: its name, its labels and when the server says it was made. -/
structure Record where
  name : String
  labels : Labels
  createdAt : Option Timestamp
  deriving DecidableEq, Repr

/-- The phase of a namespace in use. -/
def activePhase : String := "Active"

/-- Whether the server says that the namespace is in use. -/
def Remote.isActive (n : Remote) : Bool := n.status == some (some activePhase)

/-- What stands for the name of a namespace that the server does not name: no valid name. -/
def namelessName : String := "None"

/-- The record of a namespace the server described; missing labels are none. -/
def Remote.record (n : Remote) : Record :=
  ⟨n.name.getD namelessName, n.labels.getD [], n.createdAt⟩

end Namespace

end Testbed
