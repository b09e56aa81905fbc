import Testbed.Client.ClientSet

/-!
# Limited hosts

What a framework asks the server, it asks through a client, and it is the client that keeps to a
rate: a request waits inside the call until the bucket of its client lets it go. A limited host is a
host behind such clients. Each client that it is asked for gets a client set of its own, with the
rate, the burst and the component that the framework asks for. A client that came from elsewhere is
not held back.
-/

set_option autoImplicit false

namespace Testbed

/-- The client that sends requests to the server when this call is made, if one does. A stub sends
none. -/
def Call.sender? {τ : Type} : Call τ → Option String
  | .createNamespace client .. | .listNamespaces client _ | .readNamespace client _
  | .deleteNamespace client _ | .readServiceAccount client .. | .readPod client ..
  | .listOccurrences client _ | .listPods client _ | .discover client
  | .listResource client .. => some client
  | _ => none

namespace Client

variable {τ ω α : Type} [Seconds τ] [Host τ ω]

omit [Seconds τ] [Host τ ω] in
/-- Runs a procedure inside a call, where the history does not tell of it. -/
def inside (x : SiteM τ ω α) (w : ω) : Except (Fault τ) α × ω :=
  ((x.run (.start w)).1, (x.run (.start w)).2.world)

/-- A client set in use. -/
structure Sender (τ : Type) extends ClientSet τ where
  /-- When its requests could go, the latest one first. -/
  grants : List τ

namespace Sender

omit [Host τ ω] in
/-- When a request may go that is made at the given time. -/
def grant (c : Sender τ) (now : τ) : τ :=
  match c.limiter with
  | some b => if b.qps ≤ 0.0 then now else now + (b.reserve now).1
  | none => now

/-- Takes a token for one request, and waits for it. -/
def wait (c : Sender τ) (w : ω) : Sender τ × ω :=
  match inside (ClientSet.takeToken c.limiter) w with
  | (.ok limiter, w') => ({ c with limiter, grants := c.grant (Host.now w) :: c.grants }, w')
  | (.error _, w') => (c, w')

/-- Does so for several requests, one after the other. -/
def waitAll (c : Sender τ) (w : ω) : Nat → Sender τ × ω
  | 0 => (c, w)
  | n + 1 => (c.wait w).1.waitAll (c.wait w).2 n

end Sender

/-- A host behind limited clients. -/
structure Limited (τ ω : Type) where
  world : ω
  /-- The clients that were made here, by their labels. -/
  senders : List (String × Sender τ)
  /-- How many requests a call sends: one, unless it is a discovery. -/
  requests : Call τ → Nat

namespace Limited

/-- The host when the requests of a call have been let go. -/
def afterWait (l : Limited τ ω) (c : Call τ) : Limited τ ω :=
  match c.sender? with
  | none => l
  | some client =>
    match lookupLast client l.senders with
    | none => l
    | some sender =>
      let after := sender.waitAll l.world (l.requests c)
      { l with world := after.2, senders := putEntry l.senders client after.1 }

/-- The host after a call was answered: a client that was made here gets its client set. -/
def answered (l : Limited τ ω) : (c : Call τ) → Except (Fault τ) c.Reply → Limited τ ω
  | .newClient qps burst component, .ok client =>
    match inside (ClientSet.connect ⟨qps, burst⟩ component) l.world with
    | (.ok set, w) =>
      { l with world := w, senders := putEntry l.senders client { toClientSet := set, grants := [] } }
    | (.error _, w) => { l with world := w }
  | _, _ => l

instance : Host τ (Limited τ ω) where
  now l := Host.now l.world
  sleep length l := { l with world := Host.sleep length l.world }
  freshId l := ((Host.freshId l.world).1, { l with world := (Host.freshId l.world).2 })
  randomBits l := ((Host.randomBits l.world).1, { l with world := (Host.randomBits l.world).2 })
  reply c l :=
    let before := l.afterWait c
    let (r, w) := Host.reply c before.world
    (r, { before with world := w }.answered c r)

end Limited

end Client

end Testbed
