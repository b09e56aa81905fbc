import Testbed.Seconds

/-!
# Polls

What a wait is for, how long it may take, and how far apart it looks.
-/

set_option autoImplicit false

namespace Testbed

/-- A wait: its subject, the most it may take, and the pause between two looks. A timeout of zero
looks exactly once. -/
structure Poll (τ : Type) where
  timeout : τ
  interval : τ
  subject : String
  deriving Repr

end Testbed
