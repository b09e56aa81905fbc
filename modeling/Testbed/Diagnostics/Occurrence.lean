import Testbed.Timestamp

/-!
# Occurrences in a namespace

What the server reports as having happened to an object, and when. Several times may be given;
the most specific one counts.
-/

set_option autoImplicit false

namespace Testbed.Diagnostics

/-- Something that happened in a namespace. -/
structure Occurrence where
  lastSeen : Option Timestamp
  seen : Option Timestamp
  firstSeen : Option Timestamp
  created : Option Timestamp
  /-- Kind and name of the object it happened to. -/
  object : Option (Option String × Option String)
  type : Option String
  reason : Option String
  message : Option String
  deriving DecidableEq, Repr

/-- The time of an occurrence: when it was last seen, else when it was seen, else when it was first
seen, else when it was created; the origin of the calendar if no time is given. -/
def Occurrence.time (o : Occurrence) : Timestamp :=
  (((o.lastSeen.or o.seen).or o.firstSeen).or o.created).getD Timestamp.origin

end Testbed.Diagnostics
