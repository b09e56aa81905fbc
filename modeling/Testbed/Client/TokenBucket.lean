import Testbed.Host.Site

/-!
# Token buckets

A token bucket lets requests through at a steady rate after a burst. It is filled at its rate up
to the burst whenever a token is taken. A token may be taken before it is there; whoever takes it
waits until it would be.
-/

set_option autoImplicit false

namespace Testbed.Client

/-- A bucket: its rate, its burst, how many tokens it held when it was last filled, and when that
was. The number of tokens is negative while requests wait. -/
structure TokenBucket (τ : Type) where
  qps : τ
  burst : Int
  tokens : τ
  filledAt : τ

namespace TokenBucket

variable {τ ω : Type} [Seconds τ]

/-- A full bucket. Its burst is at least one. -/
def full (qps : τ) (burst : Int) (now : τ) : TokenBucket τ :=
  ⟨qps, max 1 burst, Seconds.ofInt (max 1 burst), now⟩

/-- Takes one token at the given time. Gives how long to wait for it. -/
def reserve (b : TokenBucket τ) (now : τ) : τ × TokenBucket τ :=
  let filled := Seconds.least (Seconds.ofInt b.burst) (b.tokens + (now - b.filledAt) * b.qps)
  let left := filled - 1.0
  (if (0.0 : τ) ≤ left then 0.0 else -left / b.qps, { b with tokens := left, filledAt := now })

variable [Host τ ω]

/-- Takes one token and waits for it. A rate that is not positive lifts the limit. -/
def acquire (b : TokenBucket τ) : SiteM τ ω (TokenBucket τ) :=
  if b.qps ≤ 0.0 then pure b
  else do
    let now ← Site.now
    let (delay, b) := b.reserve now
    if 0.0 < delay then Site.pause delay
    pure b

end TokenBucket

end Testbed.Client
