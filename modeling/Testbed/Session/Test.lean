import Testbed.Scenario.Trace

/-!
# Tests of a session

A test is set up, runs its body up to the first fault, and is torn down; after each phase a report
says whether it failed. A fault that ends the run in the setup or the body stops the session: that
phase gets no report, and the test is torn down only if the session still comes to it.
-/

set_option autoImplicit false

namespace Testbed.Session

open Bench Framework Scenario

variable {τ ω : Type}

/-- The phases of a test. -/
inductive Phase where
  | setup
  | call
  | teardown
  deriving DecidableEq, Repr

/-- The name of a phase. -/
def Phase.label : Phase → String
  | .setup => "setup"
  | .call => "call"
  | .teardown => "teardown"

/-- A test with a framework of its own has it from its class. -/
structure TestClass (τ : Type) where
  name : String
  blueprint : Blueprint τ (Body τ)

/-- A test. -/
structure Test (τ : Type) where
  nodeId : String
  testClass : Option (TestClass τ)
  body : Body τ
  /-- Whether the session comes to tear the test down when its body stops the session. -/
  finalize : Bool

/-- The report of a phase: whether the phase failed, and whether any phase so far has. -/
structure PhaseReport where
  phase : String
  failed : Bool
  testFailed : Bool
  deriving DecidableEq, Repr

/-- Reports phases one after the other, each with what the test then looks like. -/
def reportAll (t : Trial) : List (String × Bool) → List PhaseReport
  | [] => []
  | (phase, failed) :: rest =>
    let t := t.report phase failed
    ⟨phase, failed, t.hasFailed⟩ :: reportAll t rest

/-- Reports a phase on the bench. -/
def reportPhase (phase : Phase) (failed : Bool) (b : Bench τ ω (Body τ)) :
    PhaseReport × Bench τ ω (Body τ) :=
  let trial := b.trial.report phase.label failed
  (⟨phase.label, failed, trial.hasFailed⟩, { b with trial })

/-- What happened in a test. -/
structure TestTrace (τ ω : Type) where
  setup : Trace τ ω (Body τ) Unit
  body : List (Trace τ ω (Body τ) (Outcome τ))
  teardown : Option (Trace τ ω (Body τ) Unit)
  reports : List PhaseReport
  /-- Whether the test has stopped the session. -/
  stopped : Bool
  after : Bench τ ω (Body τ)

/-- The bench when a test begins: no framework has a name any more. -/
def Test.enter (t : Test τ) (b : Bench τ ω (Body τ)) : Bench τ ω (Body τ) :=
  let name := (t.testClass.map (·.name)).getD ""
  let baseName := (t.testClass.map (·.blueprint.baseName)).getD ""
  { b with names := [], trial := .start t.nodeId name baseName }

variable [Seconds τ] [Host τ ω]

/-- Sets a test up: one whose class has a framework gets it under the standard name. -/
def Test.setUp (s : Setting τ) (t : Test τ) : RunM τ ω Unit :=
  match t.testClass with
  | none => pure ()
  | some c => do
    let r := runner s maxDepth
    let k ← buildForTest r s c.blueprint
    nameFramework defaultName k
    Proc.modify fun b => { b with trial := { b.trial with own := some k } }
    Framework.enter r k

/-- Tears a test down. -/
def tearDown (s : Setting τ) : RunM τ ω Unit := leaveAll (runner s maxDepth)

/-- The traces of the steps of a body up to the first that ends with a fault. -/
def bodyTraces (s : Setting τ) (b : Bench τ ω (Body τ)) :
    Body τ → List (Trace τ ω (Body τ) (Outcome τ))
  | [] => []
  | step :: rest =>
    let trace := Trace.of (perform s step) b
    match trace.ending with
    | .ok _ => trace :: bodyTraces s trace.after rest
    | .error _ => [trace]

omit [Seconds τ] [Host τ ω] in
/-- The fault that a body ended with. -/
def faultOf (body : List (Trace τ ω (Body τ) (Outcome τ))) : Option (Fault τ) :=
  body.getLast?.bind fun t =>
    match t.ending with
    | .ok _ => none
    | .error e => some e

omit [Seconds τ] [Host τ ω] in
/-- Whether a trace ended with a fault. -/
def hasFault {α : Type} (t : Trace τ ω (Body τ) α) : Bool :=
  match t.ending with
  | .ok _ => false
  | .error _ => true

/-- The end of a test whose body has stopped the session. -/
def stoppedTrace (s : Setting τ) (t : Test τ) (setup : Trace τ ω (Body τ) Unit)
    (first : PhaseReport) (body : List (Trace τ ω (Body τ) (Outcome τ)))
    (b : Bench τ ω (Body τ)) : TestTrace τ ω :=
  if t.finalize then
    let teardown := Trace.of (tearDown s) b
    ⟨setup, body, some teardown, [first], true, teardown.after⟩
  else ⟨setup, body, none, [first], true, b⟩

/-- The end of a test whose body has come to its end or has failed. -/
def finishedTrace (s : Setting τ) (setup : Trace τ ω (Body τ) Unit) (first : PhaseReport)
    (body : List (Trace τ ω (Body τ) (Outcome τ))) (failed : Bool) (b : Bench τ ω (Body τ)) :
    TestTrace τ ω :=
  let (second, b) := reportPhase .call failed b
  let teardown := Trace.of (tearDown s) b
  let (third, b) := reportPhase .teardown (hasFault teardown) teardown.after
  ⟨setup, body, some teardown, [first, second, third], false, b⟩

/-- Runs a test. -/
def Test.run (s : Setting τ) (b : Bench τ ω (Body τ)) (t : Test τ) : TestTrace τ ω :=
  let setup := Trace.of (t.setUp s) (t.enter b)
  match setup.ending with
  | .error e =>
    if e.endsRun then ⟨setup, [], none, [], true, setup.after⟩
    else
      let (report, b) := reportPhase .setup true setup.after
      ⟨setup, [], none, [report], false, b⟩
  | .ok _ =>
    let (first, b) := reportPhase .setup false setup.after
    let body := bodyTraces s b t.body
    let after := (body.getLast?.map (·.after)).getD b
    match faultOf body with
    | some e =>
      if e.endsRun then stoppedTrace s t setup first body after
      else finishedTrace s setup first body true after
    | none => finishedTrace s setup first body false after

/-- Runs tests in order up to the first that stops the session. -/
def runTests (s : Setting τ) (b : Bench τ ω (Body τ)) : List (Test τ) → List (TestTrace τ ω)
  | [] => []
  | t :: rest =>
    let trace := t.run s b
    if trace.stopped then [trace] else trace :: runTests s trace.after rest

/-- A test whose setup fails has no body and is not torn down again. -/
theorem body_eq_nil_of_setup_error {s : Setting τ} {b : Bench τ ω (Body τ)} {t : Test τ}
    {e : Fault τ} (h : (t.run s b).setup.ending = .error e) :
    (t.run s b).body = [] ∧ (t.run s b).teardown = none := by
  revert h
  unfold Test.run
  simp only
  split
  · split <;> simp
  · rename_i a ha
    split
    · split
      · unfold stoppedTrace
        split <;> simp [ha]
      · simp [finishedTrace, ha]
    · simp [finishedTrace, ha]

end Testbed.Session
