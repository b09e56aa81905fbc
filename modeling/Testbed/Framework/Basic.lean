import Testbed.Config.Client
import Testbed.Config.Suite
import Testbed.Namespace.Record
import Testbed.Text.Quoted

/-!
# Frameworks

A framework keeps what one test uses of a cluster: its client, its namespace, the namespaces that
are to be deleted after it, and the actions deferred until then. Its settings outlive the test;
everything else is reset when the test is torn down.

What deferred actions and hooks do is left open: the type `κ` stands for their bodies.
-/

set_option autoImplicit false

namespace Testbed

/-- A deferred or registered action. -/
structure Action (κ : Type) where
  name : String
  body : κ

/-- The hooks of a provider around each test. -/
structure Provider (κ : Type) where
  before : κ
  after : κ

/-- The cluster of a framework: a live one, which the operations of this library reach, with the
configuration that bounds their waits; or a stub that is asked for each operation. -/
inductive Cluster (τ : Type) where
  | live (config : Config.Suite τ)
  | stub

/-- What a framework is set to. -/
structure Settings (τ κ : Type) where
  baseName : String
  options : Config.ClientOptions τ
  suite : Config.Suite τ
  cluster : Cluster τ
  provider : Option (Provider κ)
  /-- Whether the framework has a way of its own to create namespaces. -/
  customCreation : Bool
  skipNamespace : Bool
  skipServiceAccountWait : Bool
  deletionTimeout : Option τ

/-- A framework. -/
structure Framework (τ κ : Type) extends Settings τ κ where
  client : Option String
  /-- Whether the framework has made its client itself. -/
  ownsClient : Bool
  uniqueName : Option String
  ns : Option Namespace.Record
  /-- The namespaces to be deleted, in the order in which they came. -/
  tracked : List Namespace.Record
  /-- The actions deferred since the last reset. -/
  actions : List (Action κ)
  /-- The queues of actions that earlier resets have put away, the latest first. A teardown that
  runs inside another one resets the framework while the outer one still walks its queue. -/
  pastActions : List (List (Action κ))
  /-- The handle of the registered teardown. -/
  handle : Option Nat

namespace Framework

variable {τ κ : Type}

/-- A framework that was not used yet. -/
def fresh (s : Settings τ κ) (client : Option String) : Framework τ κ :=
  { toSettings := s, client, ownsClient := false, uniqueName := none, ns := none, tracked := [],
    actions := [], pastActions := [], handle := none }

/-- The number of the queue that takes deferred actions now. -/
def cycle (f : Framework τ κ) : Nat := f.pastActions.length

/-- The queue with the given number, counted from the first. -/
def queue (f : Framework τ κ) (cycle : Nat) : List (Action κ) :=
  (f.pastActions.reverse ++ [f.actions]).getD cycle []

/-- Adds a namespace to be deleted, if there is one. -/
def track (f : Framework τ κ) (r : Option Namespace.Record) : Framework τ κ :=
  { f with tracked := f.tracked ++ r.toList }

/-- Defers an action. -/
def defer (f : Framework τ κ) (a : Action κ) : Framework τ κ :=
  { f with actions := f.actions ++ [a] }

/-- The framework without anything of the test that it was used for. -/
def reset (f : Framework τ κ) : Framework τ κ :=
  { f with
    ns := none, client := none, ownsClient := false, tracked := [], actions := [],
    pastActions := f.actions :: f.pastActions }

/-- The framework in words: its base name and its unique name. -/
def display (f : Framework τ κ) : String :=
  "Framework(base_name=" ++ Text.quoted f.baseName ++ ", unique_name=" ++
    (match f.uniqueName with
     | some name => Text.quoted name
     | none => "None") ++ ")"

@[simp] theorem queue_cycle (f : Framework τ κ) : f.queue f.cycle = f.actions := by
  have hlen : f.cycle = f.pastActions.reverse.length := by simp [cycle]
  simp [queue, hlen, List.getD_eq_getElem?_getD]

/-- A queue keeps its number and its actions when the framework is reset. -/
theorem queue_reset (f : Framework τ κ) : f.reset.queue f.cycle = f.actions := by
  have hlen : f.cycle = f.pastActions.reverse.length := by simp [cycle]
  simp [queue, reset, hlen, List.getD_eq_getElem?_getD]

end Framework

end Testbed
