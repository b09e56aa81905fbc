import Testbed.Config.Environment
import Testbed.Framework.Lifecycle

/-!
# Steps of a scripted run

A scripted run is a list of steps, and so are the bodies of its actions, hooks and extensions. A
step that acts on a framework may name it; otherwise it acts on the one whose action, hook or
extension is running, else on the one with the default name.
-/

set_option autoImplicit false

namespace Testbed

/-- How a framework is made: on its own, with the extensions, or with the extensions and the
standard client options. -/
inductive Maker where
  | plain
  | extended
  | standard
  deriving DecidableEq, Repr

/-- What a framework is to be made of. -/
structure Blueprint (τ κ : Type) where
  baseName : String
  options : Option Config.Entries
  client : Option String
  suite : Option Config.Entries
  /-- Whether the suite configuration is read from the environment. -/
  fromEnvironment : Bool
  skipNamespace : Bool
  skipServiceAccountWait : Bool
  deletionTimeout : Option τ
  customCreation : Bool
  provider : Option (Provider κ)
  /-- The extensions; those of the run if there are none. -/
  extensions : Option (List κ)
  maker : Maker

/-- A change to a framework from outside. -/
inductive Change (τ : Type) where
  | client (label : Option String)
  | ns (record : Option Namespace.Record)
  | suite (entries : Config.Entries)
  | deletionTimeout (timeout : Option τ)
  | skipNamespace (skip : Bool)
  | skipServiceAccountWait (skip : Bool)
  | uniqueName (name : Option String)

/-- A step. -/
inductive Step (τ : Type) where
  /-- Make a framework and give it a name. -/
  | build (id : String) (blueprint : Blueprint τ (List (Step τ)))
  /-- Make a framework for the running test, and set it up. -/
  | provide (id : String) (blueprint : Blueprint τ (List (Step τ)))
  | beforeEach (id : Option String) (component : Option String)
  | afterEach (id : Option String) (testFailed : Bool)
  | create (id : Option String) (baseName : String) (labels : Labels)
  | track (id : Option String) (records : List (Option Namespace.Record))
  | defer (id : Option String) (action : Action (List (Step τ)))
  | awaitPod (id : Option String) (pod : String) (timeout : τ)
  | display (id : Option String)
  | set (id : Option String) (change : Change τ)
  | add (action : Action (List (Step τ)))
  | remove (handle : Option Int)
  | contains (handle : Option Int)
  | size
  | drain
  | raise (e : Fault τ)
  | advance (length : τ)
  /-- The signal that ends a run. -/
  | terminate
  | ownNamespace
  | ownClient
  | ownCreate (baseName : Option String) (labels : Labels)
  | ownDefer (action : Action (List (Step τ)))

/-- What a step gives. -/
inductive Outcome (τ : Type) where
  | nothing
  | text (s : String)
  | number (n : Nat)
  | flag (b : Bool)
  | record (r : Option Namespace.Record)
  | report (r : Framework.Report τ)
  | failures (fs : List (Nat × Fault τ))

/-- The body of an action, hook or extension. -/
abbrev Body (τ : Type) : Type := List (Step τ)

/-- What holds for a whole scripted run. -/
structure Setting (τ : Type) where
  /-- The configuration of frameworks that bring none. -/
  suite : Config.Suite τ
  environment : Config.Environment
  host : Config.Homes
  /-- Whether clusters are live. -/
  live : Bool
  extensions : List (Body τ)
  /-- The provider of frameworks that tests ask for. -/
  provider : Option (Provider (Body τ))

/-- Where home directories are in a run. -/
def Setting.homes {τ : Type} (s : Setting τ) : Config.Homes := s.environment.homes s.host

/-- The name of frameworks that are given none. -/
def defaultName : String := "f"

end Testbed
