import Testbed.Proofs.Rules
import Testbed.Scenario.Trace

/-!
# Steps along a relation

Every step of a scenario is put together from the few steps that `StepRules` names. A relation
that obeys these rules is one along which every step leads: first the ones whose bodies are known
to lead along it, then, by induction on how deeply bodies may nest, all of them.
-/

set_option autoImplicit false

namespace Testbed

open Proc Bench Framework

variable {τ ω κ α : Type} [Seconds τ] [Host τ ω]

/-- The steps of which operations of frameworks and of scenarios consist, other than drains. -/
structure OperationRules (R : Bench τ ω κ → Bench τ ω κ → Prop) : Prop where
  site : ∀ b b', AtSite Call.IsNeutral b b' → R b b'
  names : ∀ (b : Bench τ ω κ) names, R b { b with names }
  trial : ∀ (b : Bench τ ω κ) trial, R b { b with trial }
  place : ∀ settings client, (place (Framework.fresh settings client) : BenchM τ ω κ Nat).Along R
  enroll : ∀ k, (enroll k : BenchM τ ω κ Unit).Along R
  withdraw : ∀ k, (withdraw k : BenchM τ ω κ Unit).Along R
  register : ∀ a, (register (.act a) : BenchM τ ω κ Nat).Along R
  unregister : ∀ handle, (unregister handle : BenchM τ ω κ Unit).Along R
  adjust : ∀ k (g : Framework τ κ → Framework τ κ), IsPrivate g →
    (update k g : BenchM τ ω κ Unit).Along R
  resettle : ∀ k (g : Settings τ κ → Settings τ κ),
    (update k fun f => { f with toSettings := g f.toSettings } : BenchM τ ω κ Unit).Along R
  defer : ∀ k a, (update k (·.defer a) : BenchM τ ω κ Unit).Along R
  create : ∀ k baseName labels, (createNamespace k baseName labels
    : BenchM τ ω κ (Option Namespace.Record)).Along R
  track : ∀ k records, (trackEach k records : BenchM τ ω κ Unit).Along R
  clear : ∀ k testFailed before, (clearAway k testFailed before
    : BenchM τ ω κ (Report τ)).Along R

/-- The steps of which operations of frameworks and of scenarios consist. A drain is one of them,
since what it does to the registry is more than the sum of what its duties do. -/
structure StepRules (R : Bench τ ω κ → Bench τ ω κ → Prop) : Prop extends OperationRules R where
  drain : ∀ r : Runner τ ω κ, (∀ owner body, (r.perform owner body).Along R) → (drain r).Along R

namespace Framework

section Lifecycle

variable {R : Bench τ ω κ → Bench τ ω κ → Prop} [IsPreorder (Bench τ ω κ) R] {r : Runner τ ω κ}

/-- The cleanup of a failed setup leads where the teardown of a failed test leads. -/
theorem cleanUpFailedSetup_along (hs : ∀ b b', AtSite Call.IsNeutral b b' → R b b') {k : Nat}
    (hafter : (afterEach r k true).Along R) : (cleanUpFailedSetup r k).Along R := by
  apply Along.rescue
  · exact hafter.bind fun _ => along_pure _
  · intro e
    apply along_ite
    · intro _
      exact (frameworkAt_along k).bind fun f => note_along hs f _ _ _
    · intro _
      exact along_fail _

variable (hentered : ∀ (b : Bench τ ω κ) entered, R b { b with trial := { b.trial with entered } })

include hentered

/-- A framework is set up for the test: where its setup fails, the cleanup follows. -/
theorem enter_ends {k : Nat} {b : Bench τ ω κ}
    (hbefore : Ends (beforeEach r k (some b.trial.nodeId)) b fun _ b' => R b b')
    (hcleanup : ∀ b' e, (beforeEach r k (some b.trial.nodeId)).run b = (.error e, b') →
      Ends (cleanUpFailedSetup r k) b' fun _ b'' => R b' b'') :
    Ends (enter r k) b fun _ b' => R b b' := by
  apply Ends.bind_ok (P := fun b' => b' = b) ⟨rfl, rfl⟩
  rintro b rfl
  apply Ends.bind_attempt (P := fun ending b' =>
    (beforeEach r k (some b.trial.nodeId)).run b = (ending, b') ∧ R b b') ⟨rfl, hbefore⟩
  rintro ending b' ⟨hrun, hb'⟩
  cases ending with
  | ok _ => exact trans_of R hb' (hentered b' _)
  | error e =>
    apply Ends.bind (hcleanup b' e hrun)
    · intro _ b'' h
      exact trans_of R hb' h
    · intro _ b'' h
      exact trans_of R hb' h

variable (inv : Bench τ ω κ → Prop) (hinv : ∀ b b', R b b' → inv b → inv b')
  (hafter : ∀ k b, inv b → Ends (afterEach r k b.trial.hasFailed) b fun _ b' => R b b')

include hinv hafter

omit hentered in
/-- Teardowns one after the other lead where each of them leads from benches of the invariant. -/
theorem leaveEach_ends (ks : List Nat) (pending : Except (Fault τ) Unit) (b : Bench τ ω κ)
    (hb : inv b) : Ends (leaveEach r pending ks) b fun _ b' => R b b' := by
  induction ks generalizing pending b with
  | nil => exact refl_of R b
  | cons k rest ih =>
    apply Ends.bind_ok (P := fun b' => b' = b) ⟨rfl, rfl⟩
    rintro b rfl
    apply Ends.bind_attempt (hafter k b hb)
    intro ending b' h
    have hrest (pending : Except (Fault τ) Unit) :
        Ends (leaveEach r pending rest) b' fun _ b'' => R b b'' :=
      (ih pending b' (hinv b b' h hb)).mono fun _ _ => trans_of R h
    cases ending with
    | ok _ => exact hrest pending
    | error e => exact hrest (.error e.outOfGenerator)

/-- Leaving a test leads where the teardowns lead from benches of the invariant. -/
theorem leaveLatest_ends (n : Nat) (pending : Except (Fault τ) Unit) (b : Bench τ ω κ) (hb : inv b) :
    Ends (leaveLatest r n pending) b fun _ b' => R b b' := by
  induction n generalizing pending b with
  | zero =>
    apply Ends.bind_ok (P := fun b' => b' = b) ⟨rfl, rfl⟩
    rintro b rfl
    have hempty := hentered b []
    apply Ends.bind_ok (P := fun b' => b' = { b with trial := { b.trial with entered := [] } })
      ⟨rfl, rfl⟩
    rintro _ rfl
    apply (leaveEach_ends inv hinv hafter _ pending _ (hinv _ _ hempty hb)).mono
    exact fun _ _ => trans_of R hempty
  | succ n ih =>
    apply Ends.bind_ok (P := fun b' => b' = b) ⟨rfl, rfl⟩
    rintro b rfl
    dsimp only
    split
    · exact refl_of R b
    · rename_i k rest _
      have hrest := hentered b rest
      have hinv₁ := hinv _ _ hrest hb
      apply Ends.bind_ok (P := fun b' => b' = { b with trial := { b.trial with entered := rest } })
        ⟨rfl, rfl⟩
      rintro _ rfl
      apply Ends.bind_attempt (hafter k _ hinv₁)
      intro ending b' h
      have honward (pending : Except (Fault τ) Unit) :
          Ends (leaveLatest r n pending) b' fun _ b'' => R b b'' :=
        (ih pending b' (hinv _ b' h hinv₁)).mono fun _ _ => trans_of R (trans_of R hrest h)
      cases ending with
      | ok _ => exact honward pending
      | error e => exact honward (.error e.outOfGenerator)

end Lifecycle

end Framework

namespace OperationRules

variable {R : Bench τ ω κ → Bench τ ω κ → Prop} {r : Runner τ ω κ}

/-- The rules cover the setup of every framework. -/
theorem setup (h : OperationRules R) (k : Nat) (hb : ∀ body, (r.perform (some k) body).Along R) :
    SetupRules r k R where
  site := h.site
  body := hb
  adjust := h.adjust k
  create := h.create k

/-- The rules cover the teardown of every framework. -/
theorem teardown (h : OperationRules R) (k : Nat) (hb : ∀ body, (r.perform (some k) body).Along R) :
    TeardownRules r k R where
  site := h.site
  body := hb
  adjust := h.adjust k
  withdraw := h.withdraw k
  clear := h.clear k

variable [IsPreorder (Bench τ ω κ) R]

theorem cleanUpFailedSetup (h : OperationRules R) (hb : ∀ owner body, (r.perform owner body).Along R)
    (k : Nat) : (cleanUpFailedSetup r k).Along R :=
  cleanUpFailedSetup_along h.site ((h.teardown k (hb (some k))).afterEach true)

theorem enter (h : OperationRules R) (hb : ∀ owner body, (r.perform owner body).Along R) (k : Nat) :
    (enter r k).Along R := fun b =>
  enter_ends (fun b _ => h.trial b _) ((h.setup k (hb (some k))).beforeEach (h.enroll k) _ b)
    fun b' _ _ => h.cleanUpFailedSetup hb k b'

theorem discharge (h : OperationRules R) (hb : ∀ owner body, (r.perform owner body).Along R)
    (d : Duty κ) : (discharge r d).Along R := by
  cases d with
  | teardown k => exact (h.teardown k (hb (some k))).abortTeardown
  | act a => exact act_along h.site (hb none) a

omit [IsPreorder (Bench τ ω κ) R] in
theorem awaitPod (h : OperationRules R) (k : Nat) (pod : String) (timeout : τ) :
    (awaitPod k pod timeout : BenchM τ ω κ Unit).Along R :=
  (atSite_of_madeOf (isServed_awaitPod (fun _ _ => trivial) pod timeout).madeOf).mono h.site

/-- Where taking the duties out, and every entry in the journal, lead along the relation, drains
do. -/
theorem withDuties (h : OperationRules R)
    (htake : (takeDuties : BenchM τ ω κ (List (Nat × Duty κ))).Along R)
    (hj : ∀ e, (enterJournal e : BenchM τ ω κ Unit).Along R) : StepRules R where
  toOperationRules := h
  drain _ hb b :=
    drain_ends (fun _ _ _ => onSite_along h.site (Site.makes_log _ _ _)) (htake b)
      fun d _ => dischargeOne_along hj (h.discharge hb d.2)

end OperationRules

namespace Scenario

section

variable {R : Bench τ ω (Body τ) → Bench τ ω (Body τ) → Prop} [IsPreorder (Bench τ ω (Body τ)) R]

omit [Seconds τ] [Host τ ω] in
theorem target_along (current : Option Nat) (id : Option String) :
    (target current id : RunM τ ω Nat).Along R := by
  apply Along.bind along_get
  intro b
  dsimp only
  split
  · split
    · exact along_pure _
    · exact along_fail _
  · exact along_pure _
  · split
    · exact along_pure _
    · exact along_fail _

omit [Seconds τ] [Host τ ω] in
theorem own_along : (own : RunM τ ω Nat).Along R := by
  apply Along.bind along_get
  intro b
  split
  · exact along_pure _
  · exact along_fail _

omit [Seconds τ] [Host τ ω] in
theorem ownPart_along (part : Framework τ (Body τ) → Option α) (name : String) :
    (ownPart part name : RunM τ ω α).Along R := by
  apply Along.bind own_along
  intro k
  apply Along.bind (frameworkAt_along k)
  intro f
  split
  · exact along_pure _
  · exact along_get.bind fun _ => along_fail _

omit [Seconds τ] [Host τ ω] in
theorem accepted_along (c : Config.Checked α) : (accepted c : RunM τ ω α).Along R := by
  unfold accepted
  split
  · exact along_pure _
  · exact along_fail _

omit [Seconds τ] [Host τ ω] in
theorem configured_along (c : Except Config.Refusal α) : (configured c : RunM τ ω α).Along R := by
  unfold configured
  split
  · exact along_pure _
  · exact along_fail _

omit [Host τ ω] in
theorem optionsOf_along (b : Blueprint τ (Body τ)) :
    (optionsOf b : RunM τ ω (Config.ClientOptions τ)).Along R := by
  unfold optionsOf
  split
  · exact along_pure _
  · exact along_pure _
  · exact accepted_along _

omit [Host τ ω] in
theorem suiteOf_along (s : Setting τ) (b : Blueprint τ (Body τ)) :
    (suiteOf s b : RunM τ ω (Config.Suite τ)).Along R := by
  apply along_ite
  · intro _
    exact configured_along _
  · intro _
    split
    · exact along_pure _
    · exact configured_along _

omit [Seconds τ] [Host τ ω] in
theorem displayed_along (k : Nat) : (displayed k : RunM τ ω (Outcome τ)).Along R :=
  (frameworkAt_along k).bind fun _ => along_pure _

variable {r : Runner τ ω (Body τ)} (s : Setting τ) (h : StepRules R)
  (hb : ∀ owner body, (r.perform owner body).Along R)

include h

theorem apply_along (k : Nat) (change : Change τ) : (apply s k change : RunM τ ω Unit).Along R := by
  cases change with
  | client label => exact h.adjust k (fun f => { f with client := label }) {}
  | ns record => exact h.adjust k (fun f => { f with ns := record }) {}
  | uniqueName name => exact h.adjust k (fun f => { f with uniqueName := name }) {}
  | suite entries =>
    apply Along.bind (configured_along _)
    intro suite
    exact h.resettle k fun s => { s with suite }
  | deletionTimeout timeout => exact h.resettle k fun s => { s with deletionTimeout := timeout }
  | skipNamespace skip => exact h.resettle k fun s => { s with skipNamespace := skip }
  | skipServiceAccountWait skip =>
    exact h.resettle k fun s => { s with skipServiceAccountWait := skip }

include hb

omit h [Seconds τ] [Host τ ω] in
theorem extend_along (k : Nat) (bodies : List (Body τ)) : (extend r k bodies).Along R := by
  induction bodies with
  | nil => exact along_pure _
  | cons body rest ih => exact (hb (some k) body).bind fun _ => ih

theorem build_along (b : Blueprint τ (Body τ)) : (build r s b).Along R := by
  apply Along.bind (optionsOf_along b)
  intro options
  apply Along.bind (suiteOf_along s b)
  intro suite
  apply Along.bind (h.place _ _)
  intro k
  have hextend := extend_along hb k (b.extensions.getD s.extensions)
  split
  · exact along_pure k
  · exact hextend.bind fun _ => along_pure k

theorem buildForTest_along (b : Blueprint τ (Body τ)) : (buildForTest r s b).Along R := by
  apply Along.bind (optionsOf_along b)
  intro options
  apply Along.bind (suiteOf_along s b)
  intro suite
  apply Along.bind (h.place _ _)
  intro k
  exact (extend_along hb k _).bind fun _ => along_pure _

/-- A step leads along every relation that obeys the rules, if the bodies do that it runs. -/
theorem execute_along (current : Option Nat) (step : Step τ) :
    (execute r s current step).Along R := by
  have named (id : String) (k : Nat) : (nameFramework id k : RunM τ ω Unit).Along R :=
    along_modify fun b => h.names b _
  have targeted {x : Nat → RunM τ ω (Outcome τ)} (id : Option String) (hx : ∀ k, (x k).Along R) :
      (target current id >>= x).Along R :=
    (target_along current id).bind hx
  have done {x : RunM τ ω Unit} (hx : x.Along R) :
      (x >>= fun _ => pure (Outcome.nothing : Outcome τ)).Along R :=
    hx.bind fun _ => along_pure _
  cases step with
  | build id blueprint =>
    exact (build_along s h hb blueprint).bind fun k => (named id k).bind fun _ => displayed_along k
  | provide id blueprint =>
    exact (buildForTest_along s h hb blueprint).bind fun k =>
      (h.enter hb k).bind fun _ => (named id k).bind fun _ => displayed_along k
  | beforeEach id component =>
    exact targeted id fun k => done ((h.setup k (hb (some k))).beforeEach (h.enroll k) component)
  | afterEach id testFailed =>
    exact targeted id fun k => ((h.teardown k (hb (some k))).afterEach testFailed).map _
  | create id baseName labels => exact targeted id fun k => (h.create k baseName labels).map _
  | track id records => exact targeted id fun k => done (h.track k records)
  | defer id action => exact targeted id fun k => done (h.defer k action)
  | awaitPod id pod timeout => exact targeted id fun k => done (h.awaitPod k pod timeout)
  | display id => exact targeted id fun k => displayed_along k
  | set id change => exact targeted id fun k => done (apply_along s h k change)
  | add action => exact (h.register action).map _
  | remove handle => exact done (h.unregister _)
  | contains handle => exact along_get.bind fun _ => along_pure _
  | size => exact along_get.bind fun _ => along_pure _
  | drain => exact (h.drain r hb).map _
  | raise e => exact along_fail e
  | advance length => exact done (onSite_along h.site (Site.makes_elapse length))
  | terminate => exact along_fail _
  | ownNamespace => exact (ownPart_along _ _).map _
  | ownClient => exact (ownPart_along _ _).map _
  | ownCreate baseName labels =>
    apply Along.bind own_along
    intro k
    apply Along.bind along_get
    intro b
    exact (h.create k _ labels).map _
  | ownDefer action => exact own_along.bind fun k => done (h.defer k action)

theorem executeAll_along (current : Option Nat) (body : Body τ) :
    (executeAll r s current body).Along R := by
  induction body with
  | nil => exact along_pure _
  | cons step rest ih => exact (execute_along s h hb current step).bind fun _ => ih

omit hb in
/-- Bodies lead along the relation however deeply they nest. -/
theorem runner_along (depth : Nat) (owner : Option Nat) (body : Body τ) :
    ((runner s depth : Runner τ ω (Body τ)).perform owner body).Along R := by
  induction depth generalizing owner body with
  | zero => exact along_fail _
  | succ depth ih => exact executeAll_along s h ih owner body

omit hb in
/-- Every step of a scenario leads along every relation that obeys the rules. -/
theorem perform_along (step : Step τ) : (perform s step : RunM τ ω (Outcome τ)).Along R :=
  execute_along s h (runner_along s h maxDepth) none step

end

end Scenario

end Testbed
