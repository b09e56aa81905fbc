import Testbed.Framework.Teardown

/-!
# Draining the registry

When a run ends, the duties that are still registered are done, the latest first. The registry is
emptied before the first of them, so each is done once whatever they register or take back. A
duty that ends with a fault does not keep the others from being done, unless the fault stops the
run.
-/

set_option autoImplicit false

namespace Testbed.Framework

open Bench

variable {τ ω κ : Type} [Seconds τ] [Host τ ω]

/-- Tears down a test whose own teardown has never run. -/
def abortTeardown (r : Runner τ ω κ) (k : Nat) : BenchM τ ω κ Unit := do
  let f ← frameworkAt k
  note f .warning "framework.abort_teardown" []
  let _ ← afterEach r k true

/-- Does a duty. -/
def discharge (r : Runner τ ω κ) : Duty κ → BenchM τ ω κ Unit
  | .teardown k => abortTeardown r k
  | .act action => act r none action

omit [Seconds τ] [Host τ ω] in
/-- Makes an entry in the journal of the registry. -/
def enterJournal (e : Registry.Entry (Duty κ) (Except (Fault τ) Unit)) : BenchM τ ω κ Unit :=
  Proc.modify fun b => { b with registry := b.registry.note e }

/-- Does one duty and gives how it ended. -/
def dischargeOne (r : Runner τ ω κ) (handle : Nat) (duty : Duty κ) :
    BenchM τ ω κ (Except (Fault τ) Unit) := do
  enterJournal (.begun handle duty)
  let ending ← (discharge r duty).attempt
  enterJournal (.ended handle ending)
  pure ending

/-- Does duties in order. Gives those that ended with a fault; one that stops the run ends it. -/
def dischargeAll (r : Runner τ ω κ) : List (Nat × Duty κ) → BenchM τ ω κ (List (Nat × Fault τ))
  | [] => pure []
  | (handle, duty) :: rest => do
    match ← dischargeOne r handle duty with
    | .ok _ => dischargeAll r rest
    | .error e =>
      if e.endsRun then .fail e
      else do
        onSite (Site.log .error "cleanup.drain_action_failed"
          [("handle", .count (handle : Int)), ("error", .text e.message),
           ("error_type", .text e.label)])
        let failures ← dischargeAll r rest
        pure ((handle, e) :: failures)

omit [Seconds τ] [Host τ ω] in
/-- Takes all duties out of the registry, the latest first. -/
def takeDuties : BenchM τ ω κ (List (Nat × Duty κ)) := do
  let b ← Proc.get
  let (duties, registry) := b.registry.takeAll
  Proc.modify fun b => { b with registry }
  pure duties

/-- Does all registered duties. Gives the faults in the order in which they came. -/
def drain (r : Runner τ ω κ) : BenchM τ ω κ (List (Nat × Fault τ)) := do
  let duties ← takeDuties
  if duties.isEmpty then pure []
  else do
    onSite (Site.log .info "cleanup.drain_started" [("pending", .count (duties.length : Int))])
    let failures ← dischargeAll r duties
    onSite (Site.log .info "cleanup.drain_completed"
      [("ran", .count (duties.length : Int)), ("failed", .count (failures.length : Int))])
    pure failures

end Testbed.Framework
