import Testbed.Proofs.Entries
import Testbed.Proofs.Notices

/-!
# How a teardown ends that has failed twice

Something can fail before a teardown comes to its deletions, and deletions can fail as well. The
faults of the deletions are collected under the names of their namespaces. If the earlier fault is
ordinary, the teardown ends with both: the collected faults, and the earlier one as their cause. A
fault that is not ordinary, such as the verdict of a test that fails itself, passes through alone,
and what was collected is told by the log only.
-/

set_option autoImplicit false

namespace Testbed

open Proc Bench

variable {τ ω κ : Type}

namespace Framework

/-- The faults that are collected from attempts: under each name of which an attempt has failed, in
the order in which they first did, the fault of the last attempt that has. -/
structure Collects (attempts : List (Attempt τ)) (errors : List (String × Fault τ)) : Prop where
  names : errors.map Prod.fst =
    ((attempts.filterMap Attempt.failure?).map Prod.fst).eraseDups
  faults : ∀ name e, (name, e) ∈ errors ↔
    lookupLast name (attempts.filterMap Attempt.failure?) = some e

/-- A report that agrees with the attempts has collected their faults. -/
theorem Report.Agrees.collects [Seconds τ] {report : Report τ} {attempts : List (Attempt τ)}
    (h : report.Agrees attempts) : Collects attempts report.errors := by
  rw [h.errors]
  exact ⟨keys_putEntries _, fun _ _ => mem_putEntries⟩

/-- How a teardown ends, by how what came before its deletions has ended, and by its report. -/
structure Concludes (before : Except (Fault τ) Unit) (report : Report τ)
    (ending : Except (Fault τ) (Report τ)) : Prop where
  returns : before = .ok () → report.errors = [] → ending = .ok report
  collected : before = .ok () → report.errors ≠ [] →
    ending = .error (.cleanup report.errors none)
  earlier : ∀ e, before = .error e → report.errors = [] → ending = .error e
  both : ∀ e, before = .error e → report.errors ≠ [] →
    (ending = .error (.cleanup report.errors (some e)) ↔ e.isOrdinary = true)
  passing : ∀ e, before = .error e → e.isOrdinary = false → ending = .error e

theorem settle_concludes (before : Except (Fault τ) Unit) (report : Report τ) :
    Concludes before report (settle before report) := by
  have hempty (h : report.errors ≠ []) : report.errors.isEmpty = false := by simpa using h
  constructor
  · rintro rfl hnone
    simp [settle, hnone]
  · rintro rfl hsome
    simp [settle, hempty hsome]
  · rintro e rfl hnone
    simp [settle, hnone]
  · rintro e rfl hsome
    cases he : e.isOrdinary with
    | true => simp [settle, hempty hsome, he]
    | false =>
      simp only [settle, he, Bool.false_and, Bool.false_eq_true, if_false, iff_false]
      rintro ⟨⟩
  · rintro e rfl he
    simp [settle, he]

section Teardown

variable [Seconds τ] [Host τ ω] {r : Runner τ ω κ} {k : Nat} {b : Bench τ ω κ}
  {f g : Framework τ κ} {testFailed : Bool} (hf : b.frameworks[k]? = some f)
  (hg : (woundUp r k testFailed b).2.frameworks[k]? = some g)

include hf hg

/-- Whatever actions and hook have done, a teardown leaves the blocks of its attempts, what comes
after them, and its span, and settles how it ends. -/
theorem afterEach_settles :
    Ends (afterEach r k testFailed) b fun ending b' => ∃ attempts parting record,
      b'.site.events = (woundUp r k testFailed b).2.site.events ++
        remains k g.baseName (deletionLimit g) attempts parting record ∧
      (∀ a ∈ attempts, requestsIn a.during = g.requests (deletionLimit g) a.name) ∧
      (∀ e ∈ parting, e.IsParting) ∧
      Clears g testFailed (woundUp r k testFailed b).1 attempts ending ∧
      ((∀ a ∈ attempts, a.IsCalm) → Undisturbed parting → ∃ report, ReportsOn attempts report ∧
        ending = settle (woundUp r k testFailed b).1 report) := by
  apply afterEach_closes hf
  apply (clearAway_settles testFailed _ hg).mono
  rintro ending b₁ ⟨attempts, parting, hevents, htried, hparting, hclears, hsettles⟩ b₂ h₂
  refine ⟨attempts, parting, (teardownSpan f.baseName testFailed).close
    (teardownSpan f.baseName testFailed).attributes ending, ?_, ?_, hparting, hclears, hsettles⟩
  · rw [h₂.2, hevents]
    simp [remains]
  · intro a ha
    obtain ⟨_, _, h⟩ := htried a ha
    exact h.requests

/-- A teardown whose actions and whose hook may do and raise anything. All that it is to delete is
attempted if no deletion is cut, and in each attempt the cluster is asked once. What could not be
deleted is collected, and unless the close of the client is cut, the end of the teardown tells both
of that and of what was raised before, except that a fault which is not ordinary passes through
alone. -/
theorem teardown_concludes :
    Ends (afterEach r k testFailed) b fun ending b' => ∃ attempts parting record,
      b'.site.events = (woundUp r k testFailed b).2.site.events ++
        remains k g.baseName (deletionLimit g) attempts parting record ∧
      (∀ a ∈ attempts, requestsIn a.during = g.requests (deletionLimit g) a.name) ∧
      (∀ e ∈ parting, e.IsParting) ∧
      ((∀ a ∈ attempts, a.IsCalm) → attempts.map Attempt.name = g.doomed testFailed ∧
        (Undisturbed parting → ∃ report : Report τ, report.Agrees attempts ∧
          Collects attempts report.errors ∧
          Concludes (woundUp r k testFailed b).1 report ending)) := by
  apply (afterEach_settles hf hg).mono
  rintro ending b' ⟨attempts, parting, record, hevents, hrequests, hparting, hclears, hsettles⟩
  refine ⟨attempts, parting, record, hevents, hrequests, hparting, ?_⟩
  intro hcalm
  refine ⟨(hclears.of_calm hcalm).1, ?_⟩
  intro hquiet
  obtain ⟨report, hreports, rfl⟩ := hsettles hcalm hquiet
  have hagrees := Report.agrees hreports hcalm
  exact ⟨report, hagrees, hagrees.collects, settle_concludes _ report⟩

end Teardown

/-- Bodies that raise the fault that they are. -/
def raisingRunner : Runner Rat (Scripted.World Rat) (Fault Rat) := ⟨fun _ e => .fail e, 1⟩

/-- A framework on a stub that cannot delete its namespace; it has deferred an action. -/
def stuckAfter (action : Fault Rat) : Bench Rat (Scripted.World Rat) (Fault Rat) :=
  { Bench.start (.start 0 [("op.delete_namespace",
      [⟨some 1, 0, .raise (.plain .runtime [.text "stuck"])⟩])] []) with
    frameworks := [{
      baseName := "web", options := .standard, suite := .standard, cluster := .stub,
      provider := none, customCreation := false, skipNamespace := false,
      skipServiceAccountWait := false, deletionTimeout := none, client := some "client",
      ownsClient := false, uniqueName := none, ns := none, tracked := [⟨"web-1", [], none⟩],
      actions := [⟨"late", action⟩], pastActions := [], handle := none }] }

/-- The label of the fault with which a procedure ends, and that of its cause. -/
def faultLabels {α : Type} (ending : Except (Fault Rat) α) : Option (String × Option String) :=
  match ending with
  | .ok _ => none
  | .error e => some (e.label, e.cause.map Fault.label)

/-- An action raises an ordinary fault, and a deletion fails. -/
theorem teardown_concludes_stuck :
    let b := stuckAfter (.plain .value [.text "late"])
    faultLabels ((afterEach raisingRunner 0 false).run b).1 =
        some ("NamespaceCleanupError", some "ValueError") ∧
      ∃ f g, b.frameworks[0]? = some f ∧
        (woundUp raisingRunner 0 false b).2.frameworks[0]? = some g ∧
        Ends (afterEach raisingRunner 0 false) b fun ending b' => ∃ attempts parting record,
          b'.site.events = (woundUp raisingRunner 0 false b).2.site.events ++
            remains 0 g.baseName (deletionLimit g) attempts parting record ∧
          (∀ a ∈ attempts, requestsIn a.during = g.requests (deletionLimit g) a.name) ∧
          (∀ e ∈ parting, e.IsParting) ∧
          ((∀ a ∈ attempts, a.IsCalm) → attempts.map Attempt.name = g.doomed false ∧
            (Undisturbed parting → ∃ report : Report Rat, report.Agrees attempts ∧
              Collects attempts report.errors ∧
              Concludes (woundUp raisingRunner 0 false b).1 report ending)) :=
  ⟨by decide +kernel, _, _, rfl, rfl, teardown_concludes rfl rfl⟩

/-- An action fails the test, and a deletion fails: the teardown ends with the verdict alone, and
without the fault of the deletion. -/
theorem verdict_hides_collected :
    let b := stuckAfter (.failed "late")
    faultLabels (woundUp raisingRunner 0 false b).1 = some ("Failed", none) ∧
      ((Trace.of (afterEach raisingRunner 0 false) b).events.filterMap fun e =>
        match e with
        | .custody _ (.attempted name ending) => some (name, faultLabels ending)
        | _ => none) = [("web-1", some ("RuntimeError", none))] ∧
      faultLabels ((afterEach raisingRunner 0 false).run b).1 = some ("Failed", none) := by
  decide +kernel

end Framework

end Testbed
