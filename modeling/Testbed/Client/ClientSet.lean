import Testbed.Client.TokenBucket
import Testbed.Config.Client

/-!
# Client sets

The clients that a test uses share one connection: every request first takes a token of its
bucket, if there is one. A client that discovers the kinds of resources is made when it is first
asked for, and kept.
-/

set_option autoImplicit false

namespace Testbed.Client

/-- Clients over one connection. -/
structure ClientSet (τ : Type) where
  userAgent : String
  limiter : Option (TokenBucket τ)
  dynamic : Option Value

namespace ClientSet

variable {τ ω : Type}

/-- The name that clients give themselves by default. -/
def defaultAgent : String := "<default>"

/-- The name of the clients of a component; an empty component is none. -/
def agentFor : Option String → String
  | none => defaultAgent
  | some component =>
    if component.isEmpty then defaultAgent else defaultAgent ++ " -- " ++ component

/-- Clients that send as many requests as they like. -/
def unlimited : ClientSet τ := ⟨defaultAgent, none, none⟩

variable [Seconds τ] [Host τ ω]

/-- Makes clients for a component with a full bucket. -/
def connect (options : Config.ClientOptions τ) (component : Option String) :
    SiteM τ ω (ClientSet τ) := do
  let now ← Site.now
  let agent := agentFor component
  Site.log .debug "kube.client_set_created"
    [("qps", .seconds options.qps), ("burst", .count options.burst), ("user_agent", .text agent)]
  pure ⟨agent, some (.full options.qps options.burst now), none⟩

/-- Takes a token of a bucket, if there is one. -/
def takeToken : Option (TokenBucket τ) → SiteM τ ω (Option (TokenBucket τ))
  | some b => some <$> b.acquire
  | none => pure none

/-- Takes a token, then sends a request. The token is gone even if the request fails. -/
def request (c : ClientSet τ) (args : List Value) (options : List (String × Value)) :
    SiteM τ ω (ClientSet τ × Except (Fault τ) Value) := do
  let limiter ← takeToken c.limiter
  let r ← Proc.attempt (Site.call (.request args options))
  pure ({ c with limiter := limiter }, r)

/-- The client that discovers resources. It is kept once it could be made. -/
def dynamicClient (c : ClientSet τ) : SiteM τ ω (ClientSet τ × Except (Fault τ) Value) := do
  match c.dynamic with
  | some d => pure (c, .ok d)
  | none =>
    match ← Proc.attempt (Site.call .newDynamicClient) with
    | .ok d => pure ({ c with dynamic := some d }, .ok d)
    | .error e => pure (c, .error e)

end ClientSet

end Testbed.Client
