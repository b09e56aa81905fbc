/-!
# Kinds of resources

A kind of resource that the server knows, as its discovery lists it.
-/

set_option autoImplicit false

namespace Testbed.Namespace

/-- A kind of resource: its place in the list of the discovery, its names, and what can be done
with it. -/
structure Resource where
  place : Nat
  name : String
  kind : String
  verbs : List String
  deriving DecidableEq, Repr

/-- Whether resources of this kind can be listed on their own: those with a slash in their name
belong to others. -/
def Resource.isListable (r : Resource) : Bool :=
  !r.name.toList.contains '/' && r.verbs.contains "list"

end Testbed.Namespace
