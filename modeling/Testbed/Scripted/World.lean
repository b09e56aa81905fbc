import Testbed.Host.Site
import Testbed.Namespace.Name
import Testbed.Scripted.Script

/-!
# Scripted worlds

A scripted world is a host that answers calls as its script says, and in a standard way where the
script says nothing: it then creates what it is asked for under counted names, knows the
namespaces it has deleted, and finds everything in order. Its clock goes on only when someone
sleeps and while a scripted call takes its time.
-/

set_option autoImplicit false

namespace Testbed.Scripted

/-- A scripted world. -/
structure World (τ : Type) where
  clock : τ
  script : Script τ
  /-- The random numbers to come; all later ones are zero. -/
  random : List Nat
  /-- How many identifiers were drawn. -/
  ids : Nat
  /-- How many namespaces, clients and clients for discovery were made in the standard way. -/
  namespaces : Nat
  clients : Nat
  dynamicClients : Nat
  /-- How many namespaces were made in a framework's own way. -/
  customNamespaces : Nat
  deleted : List String
  /-- What listing each kind of resource of the latest discovery gives. -/
  listings : List (Except (Fault τ) Nat)

namespace World

variable {τ : Type}

/-- A world in which nothing has happened. -/
def start (clock : τ) (script : Script τ) (random : List Nat) : World τ :=
  ⟨clock, script, random, 0, 0, 0, 0, 0, [], []⟩

/-- A counted name. -/
def numbered (base : String) (n : Nat) : String := base ++ "-" ++ toString n

/-- A number with at least five digits, as the server completes names. -/
def suffix (n : Nat) : String := Text.padded 10 Namespace.Name.suffixLength n

/-- A namespace in use. -/
def inUse (name : String) (labels : Option Labels) : Namespace.Remote :=
  ⟨name, labels, none, some (some Namespace.activePhase)⟩

/-- A pod that runs. -/
def running (pod : String) : Pod.Remote := ⟨some pod, some ⟨some Pod.runningPhase, []⟩, some none⟩

/-- The standard answer to a call. -/
def standard (w : World τ) : (call : Call τ) → Except (Fault τ) call.Reply × World τ
  | .request .. => (.ok (.text "ok"), w)
  | .newDynamicClient =>
    let n := w.dynamicClients + 1
    (.ok (.text (numbered "dynamic" n)), { w with dynamicClients := n })
  | .condition => (.ok false, w)
  | .createNamespace _ generateName labels =>
    let n := w.namespaces + 1
    (.ok (inUse (generateName ++ suffix n) (some labels)), { w with namespaces := n })
  | .listNamespaces .. => (.ok [], w)
  | .readNamespace _ name =>
    (if w.deleted.contains name then .error .notFound else .ok (inUse name none), w)
  | .deleteNamespace _ name => (.ok (), { w with deleted := name :: w.deleted })
  | .readPod _ pod _ => (.ok (running pod), w)
  | .listOccurrences .. => (.ok [], w)
  | .listPods .. => (.ok [], w)
  | .discover _ => (.ok [], { w with listings := [] })
  | .listResource _ resource _ => ((w.listings[resource.place]?).getD (.ok 0), w)
  | .newClient .. =>
    let n := w.clients + 1
    (.ok (numbered "client" n), { w with clients := n })
  | .provide baseName _ labels =>
    let n := w.namespaces + 1
    let name := Namespace.Name.normalized baseName Namespace.Name.maxLength ++ "-" ++ suffix n
    (.ok ⟨name, labels, none⟩, { w with namespaces := n })
  | .customProvide _ _ labels =>
    let n := w.customNamespaces + 1
    (.ok (some ⟨numbered "strategy" n, labels, none⟩), { w with customNamespaces := n })
  | .loadFile .. | .loadInside | .readServiceAccount .. | .closeClient _ | .loadCluster
  | .dispose .. | .awaitAccount .. | .describe .. | .awaitPod .. => (.ok (), w)

/-- A standard answer takes no time. -/
theorem clock_standard (w : World τ) (call : Call τ) : (w.standard call).2.clock = w.clock := by
  cases call <;> rfl

/-- The reply that a value of the script describes. -/
def described? (v : Value) : (call : Call τ) → Option call.Reply
  | .request .. | .newDynamicClient => some v
  | .condition => some v.isTruthy
  | .createNamespace .. | .readNamespace .. => Document.remote? v
  | .listNamespaces .. => Document.each? Document.remote? v
  | .readPod .. => Document.pod? v
  | .listOccurrences .. => Document.each? Document.occurrence? v
  | .listPods .. => Document.each? Document.pod? v
  | .discover _ => Document.resources? v
  | .listResource .. => Document.count? v
  | .newClient .. => v.text?
  | .provide .. => Document.record? v
  | .customProvide .. => Document.optional? Document.record? v
  | .loadFile .. | .loadInside | .readServiceAccount .. | .closeClient _ | .loadCluster
  | .dispose .. | .awaitAccount .. | .describe .. | .awaitPod .. | .deleteNamespace .. => some ()

variable [Seconds τ]

/-- What listing a kind of resource gives. -/
def listing (v : Value) : Except (Fault τ) Nat :=
  match Document.fault? (v.entry "error") with
  | some e => .error e
  | none => .ok ((Document.count? (v.entry "count")).getD 0)

/-- The world after a value of the script was given as a reply. -/
def told (w : World τ) (v : Value) : Call τ → World τ
  | .discover _ => { w with listings := v.items.map listing }
  | _ => w

/-- Answers a call with an effect. A value that describes no reply leaves the standard answer. -/
def answer (w : World τ) (effect : Effect τ) (call : Call τ) :
    Except (Fault τ) call.Reply × World τ :=
  match effect with
  | .raise e => (.error e, w)
  | .standard => w.standard call
  | .give v =>
    match described? v call with
    | some reply => (.ok reply, w.told v call)
    | none => w.standard call

/-- Answers a call as the script says. The time that the call takes has passed when it is
answered. -/
def reply (call : Call τ) (w : World τ) : Except (Fault τ) call.Reply × World τ :=
  match w.script.take call.name with
  | (none, _) => w.standard call
  | (some turn, script) => { w with script, clock := w.clock + turn.took }.answer turn.effect call

instance : Host τ (World τ) where
  now := World.clock
  sleep length w := { w with clock := w.clock + length }
  freshId w := (Text.padded 16 32 (w.ids + 1), { w with ids := w.ids + 1 })
  randomBits w := (w.random.headD 0, { w with random := w.random.tail })
  reply := reply

end World

end Testbed.Scripted
