import Testbed.Proofs.Fixture
import Testbed.Proofs.Settlement

/-!
# Setups that fail

A setup that fails is followed by the teardown of its framework at once, as of a test that has
failed. Nothing that would come after the setup is run. The fault of the setup is the one that is
raised, unless the teardown is left by a fault that is not ordinary: that one takes its place. A stop
of iteration is raised as the cause of another fault.
-/

set_option autoImplicit false

namespace Testbed

open Proc Bench

variable {τ ω κ : Type}

/-- A name that was tracked before a stretch in which nothing is kept was attempted in it, or is
tracked after it. -/
theorem Balanced.mem_attempted_or_tracked {k : Nat} {changes : List (Nat × Custody τ)}
    {b b' : Bench τ ω κ} (h : Balanced k changes b b')
    (hkept : namesOf Custody.keptNames k changes = []) {name : String}
    (hname : name ∈ b.trackedNames k) :
    name ∈ namesOf Custody.attemptedNames k changes ∨ name ∈ b'.trackedNames k := by
  have hmem : name ∈ (b.trackedNames k : Multiset String) +
      (namesOf Custody.takenNames k changes : Multiset String) :=
    Multiset.mem_add.2 (.inl hname)
  unfold Balanced at h
  rw [h, hkept] at hmem
  simpa using hmem

namespace Framework

variable [Seconds τ] [Host τ ω] {r : Runner τ ω κ} {k : Nat}

/-- Up to the deletions a teardown loses no namespace, if its actions and its hook lose none. -/
theorem woundUp_conserves (hbodies : ∀ body, (r.perform (some k) body).Along Conserves)
    (testFailed : Bool) (b : Bench τ ω κ) : Conserves b (woundUp r k testFailed b).2 := by
  have hrules : TeardownRules r k (Conserves : Bench τ ω κ → Bench τ ω κ → Prop) :=
    conserves_rules.toOperationRules.teardown k hbodies
  have hwinds := hrules.toPartRules.windAlong (madeOf_windUp (fun _ _ => trivial) testFailed)
  exact trans_of Conserves (hrules.withdraw b) (hwinds _)

/-- What the teardown of a failed setup does with the namespaces of its framework: first what actions
and hook do with them, then an attempt for each one that it is to delete. -/
structure CleansUp (r : Runner τ ω κ) (k : Nat) (g : Framework τ κ) (b b' : Bench τ ω κ)
    (wound later : List (Event τ)) (attempts : List (Attempt τ)) : Prop where
  found : (woundUp r k true b).2.frameworks[k]? = some g
  events : b'.site.events = b.site.events ++
    (wound ++ attempts.flatMap (Attempt.events k g.baseName (deletionLimit g)) ++ later)
  /-- In each attempt the cluster is asked once. -/
  requests : ∀ a ∈ attempts, requestsIn a.during = g.requests (deletionLimit g) a.name
  /-- No deletion is cut: each namespace that is tracked by then is attempted. -/
  attempted : g.suite.deletesAfter true = true → (∀ a ∈ attempts, a.IsCalm) →
    attempts.map Attempt.name = g.tracked.map (·.name)
  /-- Those that were tracked when the setup ended are attempted as well, some of them perhaps by the
  actions and the hook, unless these have kept or lost them. -/
  earlier : g.suite.deletesAfter true = true → (∀ a ∈ attempts, a.IsCalm) →
    (∀ body, (r.perform (some k) body).Along Conserves) → Undisturbed wound →
    namesOf Custody.keptNames k (custodies wound) = [] →
    ∀ name ∈ b.trackedNames k, name ∈ namesOf Custody.attemptedNames k (custodies wound) ∨
      name ∈ attempts.map Attempt.name

/-- Bodies that keep a framework there, whatever else they do. -/
def LeaveFramework (r : Runner τ ω κ) (k : Nat) : Prop :=
  ∀ body, (r.perform (some k) body).Along (Upholds (fun _ => True) (fun _ => ()) k)

/-- The cleanup of a failed setup absorbs how its teardown ends, unless that is a fault which is not
ordinary. -/
theorem cleanUpFailedSetup_absorbs {b b₁ : Bench τ ω κ} {ending : Except (Fault τ) (Report τ)}
    (hrun : (afterEach r k true).run b = (ending, b₁)) {f : Framework τ κ}
    (hf : b₁.frameworks[k]? = some f) :
    Ends (cleanUpFailedSetup r k) b fun res b' => Aside b₁ b' ∧
      ((∀ e, ending = .error e → e.isOrdinary = true) → res = .ok ()) ∧
      ∀ e, ending = .error e → e.isOrdinary = false → res = .error e := by
  have hteardown : Ends (do let _ ← afterEach r k true : BenchM τ ω κ Unit) b fun res b' =>
      res = ending.map (fun _ => ()) ∧ b' = b₁ := by
    apply (ends_of_run hrun).bind
    · rintro report b' ⟨rfl, rfl⟩
      exact ⟨rfl, rfl⟩
    · rintro e b' ⟨rfl, rfl⟩
      exact ⟨rfl, rfl⟩
  apply hteardown.rescue
  · rintro _ b' ⟨hok, rfl⟩
    cases ending with
    | ok report => exact ⟨.refl b', fun _ => rfl, by simp⟩
    | error e => cases hok
  · rintro e b' ⟨herror, rfl⟩
    cases ending with
    | ok report => cases herror
    | error e' =>
      cases herror
      apply Ends.ite
      · intro he
        apply Ends.bind_ok (frameworkAt_ends hf)
        rintro b' rfl
        refine ⟨⟨rfl, rfl, [⟨.error, _, _⟩], Site.events_record _ b'.site⟩, fun _ => rfl, ?_⟩
        rintro _ ⟨⟩ hpassing
        rw [he] at hpassing
        cases hpassing
      · intro he
        refine ⟨.refl b', fun hordinary => absurd (hordinary e rfl) he, ?_⟩
        rintro _ ⟨⟩ _
        rfl

/-- A framework whose setup fails is not entered: the fault of the setup is raised, or else the one
that leaves the cleanup. -/
theorem enter_fails {b b₁ : Bench τ ω κ} {e : Fault τ}
    (hsetup : (beforeEach r k (some b.trial.nodeId)).run b = (.error e, b₁))
    {Q : Except (Fault τ) Unit → Bench τ ω κ → Prop} (hcleanup : Ends (cleanUpFailedSetup r k) b₁ Q) :
    Ends (enter r k) b fun res b' => (Q (.ok ()) b' ∧ res = .error e.outOfGenerator) ∨
      ∃ e', Q (.error e') b' ∧ res = .error e' := by
  apply Ends.bind_ok (P := fun b' => b' = b) ⟨rfl, rfl⟩
  rintro b rfl
  apply Ends.bind_attempt (ends_of_run hsetup)
  rintro _ _ ⟨rfl, rfl⟩
  apply Ends.bind hcleanup
  · intro _ b' hq
    exact .inl ⟨hq, rfl⟩
  · intro e' b' hq
    exact .inr ⟨e', hq, rfl⟩

section Teardown

variable (hbodies : LeaveFramework r k)

include hbodies

theorem afterEach_cleansUp {b : Bench τ ω κ} {f : Framework τ κ} (hf : b.frameworks[k]? = some f) :
    Ends (afterEach r k true) b fun _ b' => ∃ g wound later attempts,
      CleansUp r k g b b' wound later attempts := by
  have hwound : Upholds (fun _ => True) (fun _ => ()) k b (woundUp r k true b).2 :=
    woundUp_upholds (fun _ _ => trivial) hbodies
  obtain ⟨g, hg, _⟩ := hwound.found hf
  obtain ⟨wound, hwinds, _⟩ := hwound.1
  apply (afterEach_settles hf hg).mono
  rintro ending b' ⟨attempts, parting, record, hevents, hrequests, _, hclears, _⟩
  have hall (hdeletes : g.suite.deletesAfter true = true) (hcalm : ∀ a ∈ attempts, a.IsCalm) :
      attempts.map Attempt.name = g.tracked.map (·.name) := by
    rw [(hclears.of_calm hcalm).1, doomed, if_pos hdeletes]
  refine ⟨g, wound, parting ++ [.span record], attempts, hg, ?_, hrequests, hall, ?_⟩
  · rw [hevents, hwinds]
    simp [remains]
  · intro hdeletes hcalm hconserves hquiet hkept name hname
    obtain ⟨new, hnew, hbalanced⟩ := woundUp_conserves hconserves true b
    rw [hwinds, List.append_cancel_left_eq] at hnew
    subst hnew
    rw [hall hdeletes hcalm, ← trackedNames_of_some hg]
    exact (hbalanced hquiet k).mem_attempted_or_tracked hkept hname

/-- A setup that fails with any fault is followed by its teardown, which attempts every tracked
namespace if it is to delete, and by nothing else of the test. Its fault is raised, as it leaves a
generator, unless a fault that is not ordinary leaves the teardown. -/
theorem setup_fault_raised {b b₁ : Bench τ ω κ} {f : Framework τ κ} {e : Fault τ}
    (hf : b.frameworks[k]? = some f)
    (hsetup : (beforeEach r k (some b.trial.nodeId)).run b = (.error e, b₁)) :
    (∀ rest : BenchM τ ω κ Unit, (enter r k >>= fun _ => rest).run b = (enter r k).run b) ∧
    Ends (enter r k) b fun res b' => ∃ ending b₂, (afterEach r k true).run b₁ = (ending, b₂) ∧
      (∃ g wound later attempts, CleansUp r k g b₁ b₂ wound later attempts) ∧ Aside b₂ b' ∧
      ((∀ e', ending = .error e' → e'.isOrdinary = true) → res = .error e.outOfGenerator) ∧
      ∀ e', ending = .error e' → e'.isOrdinary = false → res = .error e' := by
  have hbefore : (beforeEach r k (some b.trial.nodeId)).Along
      (Upholds (fun _ => True) (fun _ => ()) k) :=
    (routine_beforeEach (fun _ => trivial) _).upholds (fun _ _ => trivial) hbodies fun _ _ => trivial
  have hafter : (afterEach r k true).Along (Upholds (fun _ => True) (fun _ => ()) k) :=
    (routine_afterEach (fun _ => trivial) true).upholds (fun _ _ => trivial) hbodies
      fun _ _ => trivial
  have hkept : Upholds (fun _ => True) (fun _ => ()) k b b₁ := by
    have hends := hbefore b
    rwa [Ends, hsetup] at hends
  obtain ⟨f₁, hf₁, _⟩ := hkept.found hf
  obtain ⟨f₂, hf₂, _⟩ := (hafter b₁).found hf₁
  have hfails := enter_fails hsetup (cleanUpFailedSetup_absorbs rfl hf₂)
  refine ⟨fun rest => ?_, hfails.mono ?_⟩
  · obtain ⟨e', herror⟩ : ∃ e', ((enter r k).run b).1 = .error e' := by
      rcases hfails with ⟨_, hraised⟩ | ⟨e', _, hraised⟩
      · exact ⟨e.outOfGenerator, hraised⟩
      · exact ⟨e', hraised⟩
    have hrun : (enter r k).run b = (.error e', ((enter r k).run b).2) := Prod.ext herror rfl
    rw [run_bind_error hrun, ← hrun]
  · rintro res b' (⟨⟨haside, _, hpassing⟩, rfl⟩ | ⟨e', ⟨haside, hordinary, hpassing⟩, rfl⟩)
    · refine ⟨_, _, rfl, afterEach_cleansUp hbodies hf₁, haside, fun _ => rfl, ?_⟩
      intro e' he' hnot
      cases hpassing e' he' hnot
    · refine ⟨_, _, rfl, afterEach_cleansUp hbodies hf₁, haside, ?_, hpassing⟩
      intro hall
      cases hordinary hall

end Teardown

/-- The hook before the test raises a fault; the teardown has an action to run, and a namespace to
delete, which fails. -/
def unprepared (hook action : Fault Rat) : Bench Rat (Scripted.World Rat) (Fault Rat) :=
  { stuckAfter action with
    frameworks := (stuckAfter action).frameworks.map fun f =>
      { f with provider := some ⟨hook, action⟩ } }

/-- Bodies that only raise leave every framework. -/
theorem leaveFramework_raisingRunner (k : Nat) : LeaveFramework raisingRunner k :=
  fun _ => along_fail _

/-- The hook stops an iteration, and the action raises an ordinary fault: the teardown fails as well,
and the stop is raised as it leaves a generator. -/
theorem setup_fault_raised_unprepared :
    let b := unprepared (.plain .stopIteration [.text "no quota"]) (.plain .value [.text "late"])
    let setup := (beforeEach raisingRunner 0 (some b.trial.nodeId)).run b
    faultLabels ((afterEach raisingRunner 0 true).run setup.2).1 =
        some ("NamespaceCleanupError", some "ValueError") ∧
      faultLabels ((enter raisingRunner 0).run b).1 =
        some ("RuntimeError", some "StopIteration") ∧
      ∃ e, setup.1 = .error e ∧
        Ends (enter raisingRunner 0) b fun res b' => ∃ ending b₂,
          (afterEach raisingRunner 0 true).run setup.2 = (ending, b₂) ∧
          (∃ g wound later attempts,
            CleansUp raisingRunner 0 g setup.2 b₂ wound later attempts) ∧ Aside b₂ b' ∧
          ((∀ e', ending = .error e' → e'.isOrdinary = true) → res = .error e.outOfGenerator) ∧
          ∀ e', ending = .error e' → e'.isOrdinary = false → res = .error e' := by
  intro b setup
  have hsetup : setup = (.error (.plain .stopIteration [.text "no quota"]), setup.2) := rfl
  have hraised := setup_fault_raised (leaveFramework_raisingRunner 0) (b := b) rfl hsetup
  exact ⟨by decide +kernel, by decide +kernel, _, congrArg Prod.fst hsetup, hraised.2⟩

/-- The action fails the test: its verdict is raised in place of the fault of the setup. -/
theorem verdict_hides_setup_fault :
    let b := unprepared (.plain .runtime [.text "no quota"]) (.failed "still busy")
    let setup := (beforeEach raisingRunner 0 (some b.trial.nodeId)).run b
    faultLabels setup.1 = some ("RuntimeError", none) ∧
      faultLabels ((afterEach raisingRunner 0 true).run setup.2).1 = some ("Failed", none) ∧
      faultLabels ((enter raisingRunner 0).run b).1 = some ("Failed", none) := by
  decide +kernel

end Framework

end Testbed
