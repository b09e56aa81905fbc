import Testbed.Framework.Drain
import Testbed.Framework.Setup

/-!
# Frameworks around a test

A framework is set up when a test asks for it. If that fails, it is torn down at once, and the
fault of the setup is the one that is raised. The frameworks that a test has set up are torn down
after it, the latest first, with the outcome of the test; none of them keeps the next one from
being torn down, and the last fault is the one that is raised. A framework that is set up while
others are torn down is the latest, and so the next to be torn down. Setup and teardown are the two
parts of a generator, which a stop of iteration leaves as the cause of another fault.
-/

set_option autoImplicit false

namespace Testbed.Framework

open Bench

variable {τ ω κ : Type} [Seconds τ] [Host τ ω]

/-- Tears a test down whose setup has failed. An ordinary fault is logged, so that it does not
hide the one of the setup. -/
def cleanUpFailedSetup (r : Runner τ ω κ) (k : Nat) : BenchM τ ω κ Unit :=
  Proc.rescue
    (do
      let _ ← afterEach r k true)
    fun e =>
      if e.isOrdinary then do
        let f ← frameworkAt k
        note f .error "framework.setup_cleanup_failed" [("exc_info", .flag true)]
      else .fail e

/-- Sets a framework up for the running test. -/
def enter (r : Runner τ ω κ) (k : Nat) : BenchM τ ω κ Unit := do
  let b ← Proc.get
  match ← (beforeEach r k (some b.trial.nodeId)).attempt with
  | .ok _ => Proc.modify fun b => { b with trial := { b.trial with entered := k :: b.trial.entered } }
  | .error e =>
    cleanUpFailedSetup r k
    .fail e.outOfGenerator

/-- Tears frameworks down in order, each with the outcome of the running test. Ends with the last
fault. -/
def leaveEach (r : Runner τ ω κ) (pending : Except (Fault τ) Unit) : List Nat → BenchM τ ω κ Unit
  | [] => Proc.conclude pending
  | k :: rest => do
    let b ← Proc.get
    match ← (afterEach r k b.trial.hasFailed).attempt with
    | .ok _ => leaveEach r pending rest
    | .error e => leaveEach r (.error e.outOfGenerator) rest

/-- Tears down the frameworks of the running test, the latest first, until there is none. After as
many frameworks as the number says, it tears down those that are there and looks for no more. -/
def leaveLatest (r : Runner τ ω κ) : Nat → Except (Fault τ) Unit → BenchM τ ω κ Unit
  | 0, pending => do
    let b ← Proc.get
    Proc.modify fun b => { b with trial := { b.trial with entered := [] } }
    leaveEach r pending b.trial.entered
  | n + 1, pending => do
    let b ← Proc.get
    match b.trial.entered with
    | [] => Proc.conclude pending
    | k :: rest => do
      Proc.modify fun b => { b with trial := { b.trial with entered := rest } }
      match ← (afterEach r k b.trial.hasFailed).attempt with
      | .ok _ => leaveLatest r n pending
      | .error e => leaveLatest r n (.error e.outOfGenerator)

/-- Tears down all frameworks of the running test. -/
def leaveAll (r : Runner τ ω κ) : BenchM τ ω κ Unit := leaveLatest r r.patience (.ok ())

end Testbed.Framework
