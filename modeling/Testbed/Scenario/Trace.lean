import Testbed.Scenario.Perform

/-!
# Scenarios

A scenario performs its steps one after the other. Each leaves a trace: how it ended, what happened
on the way, and the bench after it. A step that ends with a fault does not keep the next ones from
being performed.
-/

set_option autoImplicit false

namespace Testbed

variable {τ ω κ α : Type}

/-- The trace of a procedure at the bench. -/
structure Trace (τ ω κ α : Type) where
  ending : Except (Fault τ) α
  events : List (Event τ)
  after : Bench τ ω κ

/-- Runs a procedure on a bench whose history begins anew. -/
def Trace.of (x : BenchM τ ω κ α) (b : Bench τ ω κ) : Trace τ ω κ α :=
  match x.run { b with site := .start b.site.world } with
  | (ending, after) => ⟨ending, after.site.events, after⟩

/-- The traces of steps performed in order, each on the bench that the one before left. -/
def Scenario.traces [Seconds τ] [Host τ ω] (s : Setting τ) (b : Bench τ ω (Body τ)) :
    List (Step τ) → List (Trace τ ω (Body τ) (Outcome τ))
  | [] => []
  | step :: rest =>
    let trace := Trace.of (Scenario.perform s step) b
    trace :: Scenario.traces s trace.after rest

/-- A scenario leaves one trace for each step. -/
theorem Scenario.length_traces [Seconds τ] [Host τ ω] (s : Setting τ) (b : Bench τ ω (Body τ))
    (steps : List (Step τ)) : (Scenario.traces s b steps).length = steps.length := by
  induction steps generalizing b with
  | nil => rfl
  | cons step rest ih => simp [Scenario.traces, ih]

end Testbed
