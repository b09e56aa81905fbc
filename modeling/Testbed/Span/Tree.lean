import Testbed.Span.Basic

/-!
# Trees of spans

A plan of spans inside spans: each sets attributes, raises faults, and holds spans of its own, some
of which absorb the ordinary faults that leave them.
-/

set_option autoImplicit false

namespace Testbed.Span

/-- A step inside a span. -/
inductive Step (τ : Type) where
  | set (key : String) (value : Value)
  | raise (e : Fault τ)
  | inner (span : Span) (body : List (Step τ))
  /-- A span whose ordinary faults are absorbed. -/
  | absorbed (span : Span) (body : List (Step τ))

variable {τ ω : Type} [Seconds τ] [Host τ ω]

mutual

/-- Runs one step. Gives the attributes of the enclosing span after it, and how it ended. -/
def runStep (a : Attributes) : Step τ → SiteM τ ω (Attributes × Except (Fault τ) Unit)
  | .set key value => pure (put a key value, .ok ())
  | .raise e => pure (a, .error e)
  | .inner span body => do
    let (b, r) ← runSteps span.attributes body
    Site.record (.span (span.close b r))
    pure (a, r)
  | .absorbed span body => do
    let (b, r) ← runSteps span.attributes body
    Site.record (.span (span.close b r))
    match r with
    | .ok _ => pure (a, .ok ())
    | .error e =>
      if e.isOrdinary then do
        Site.mark (.caught e.label)
        pure (a, .ok ())
      else pure (a, .error e)

/-- Runs steps in order up to the first that raises a fault. -/
def runSteps (a : Attributes) : List (Step τ) → SiteM τ ω (Attributes × Except (Fault τ) Unit)
  | [] => pure (a, .ok ())
  | step :: rest => do
    match ← runStep a step with
    | (a, .ok _) => runSteps a rest
    | (a, .error e) => pure (a, .error e)

end

/-- Runs a span with its steps. -/
def runTree (span : Span) (body : List (Step τ)) : SiteM τ ω Unit := do
  let (_, r) ← runStep [] (.inner span body)
  Proc.conclude r

end Testbed.Span
