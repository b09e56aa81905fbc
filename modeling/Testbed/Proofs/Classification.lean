import Testbed.Proofs.Settlement

/-!
# How a report sorts the attempts

A teardown attempts to delete every namespace that is tracked, and no attempt that fails keeps it
from the next one. Its report sorts the attempts by how they ended. Namespaces of one name may be
tracked more than once: then the report lists each attempt that ended well or found its namespace
gone, but of those that failed under one name it keeps the fault of the last one only.
-/

set_option autoImplicit false

namespace Testbed

open Proc Bench

variable {τ ω κ : Type}

/-- A list without repetitions has no duplicates to erase. -/
theorem eraseDups_of_nodup {names : List String} (h : names.Nodup) : names.eraseDups = names := by
  induction names with
  | nil => rfl
  | cons name rest ih =>
    obtain ⟨hnew, hrest⟩ := List.nodup_cons.1 h
    have hothers : (rest.filter fun other => !other == name) = rest := by
      apply List.filter_eq_self.2
      rintro other hother
      simpa using ne_of_mem_of_not_mem hother hnew
    rw [List.eraseDups_cons, hothers, ih hrest]

namespace Attempt

/-- The name of a namespace that was deleted. -/
def deletedName? (a : Attempt τ) : Option String :=
  match a.verdict with
  | .deleted => some a.name
  | _ => none

/-- Each calm attempt has deleted its namespace, has found it gone, or has failed. -/
theorem classes_perm {attempts : List (Attempt τ)} (hcalm : ∀ a ∈ attempts, a.IsCalm) :
    (attempts.filterMap deletedName? ++ attempts.filterMap goneName? ++
      (attempts.filterMap failure?).map Prod.fst).Perm (attempts.map name) := by
  induction attempts with
  | nil => exact .refl []
  | cons a rest ih =>
    obtain ⟨ha, hrest⟩ := List.forall_mem_cons.1 hcalm
    have hsorted := (ih hrest).cons a.name
    rcases a.verdict_cases with ⟨_, hv⟩ | ⟨_, _, _, _, hv⟩ | ⟨e, _, _, _, hv⟩ | ⟨e, he, _, hcut, _⟩
    · simpa [deletedName?, goneName?, failure?, hv] using hsorted
    · rw [List.append_assoc] at hsorted ⊢
      simpa [deletedName?, goneName?, failure?, hv] using List.perm_middle.trans hsorted
    · have hlast := List.perm_middle.trans hsorted
      simpa [deletedName?, goneName?, failure?, hv] using hlast
    · rw [ha e he] at hcut
      cases hcut

/-- The spans that are marked as ended well are those of the namespaces that were deleted. -/
theorem deletedName?_eq [Seconds τ] (attempts : List (Attempt τ)) :
    (attempts.filter fun a => a.record.status = .ok).map name = attempts.filterMap deletedName? := by
  induction attempts with
  | nil => rfl
  | cons a rest ih =>
    have hok := a.record_ok_iff
    rcases a.verdict_cases with ⟨_, hv⟩ | ⟨_, _, _, _, hv⟩ | ⟨_, _, _, _, hv⟩ | ⟨_, _, _, _, hv⟩ <;>
      simp [hok, hv, deletedName?, ih]

end Attempt

namespace Framework

/-- The report sorts the attempts, each into one class. -/
structure Report.Classifies (report : Report τ) (attempts : List (Attempt τ)) : Prop where
  attempted : report.attempted = attempts.map Attempt.name
  deleted : report.deleted = attempts.filterMap Attempt.deletedName?
  alreadyGone : report.alreadyGone = attempts.filterMap Attempt.goneName?
  errors : Collects attempts report.errors
  count : report.deleted.length + report.alreadyGone.length +
    (attempts.filterMap Attempt.failure?).length = report.attempted.length
  /-- If no name is attempted twice, the names of the classes are those that were attempted. -/
  parts : report.attempted.Nodup →
    (report.deleted ++ report.alreadyGone ++ report.errors.map Prod.fst).Perm report.attempted

variable [Seconds τ]

/-- A report that agrees with calm attempts classifies them. -/
theorem Report.Agrees.classifies {report : Report τ} {attempts : List (Attempt τ)}
    (h : report.Agrees attempts) (hcalm : ∀ a ∈ attempts, a.IsCalm) : report.Classifies attempts := by
  have hdeleted := h.deleted.trans (Attempt.deletedName?_eq attempts)
  have hclasses := Attempt.classes_perm hcalm
  rw [← h.attempted, ← hdeleted, ← h.alreadyGone] at hclasses
  refine ⟨h.attempted, hdeleted, h.alreadyGone, h.collects, ?_, ?_⟩
  · have hcount := hclasses.length_eq
    simpa [Nat.add_assoc] using hcount
  · intro hnodup
    have hfailed : ((attempts.filterMap Attempt.failure?).map Prod.fst).Nodup :=
      (List.nodup_append.1 (hclasses.nodup_iff.2 hnodup)).2.1
    rw [h.collects.names, eraseDups_of_nodup hfailed]
    exact hclasses

variable [Host τ ω] {k : Nat} {b : Bench τ ω κ} {f : Framework τ κ}
  (hf : b.frameworks[k]? = some f)

include hf

/-- What a teardown reports of the namespaces that are tracked. If they are to be deleted, the
cluster is asked for each of them in order, and unless an attempt is cut, all are attempted and the
report classifies the attempts. Else the report says why they were kept, and nothing is asked. -/
theorem deleteTracked_classifies (testFailed : Bool) :
    Ends (deleteTracked k testFailed) b fun ending b' =>
      (f.suite.deletesAfter testFailed = true → ∃ attempts,
        TriesEach f k (deletionLimit f) (f.tracked.map (·.name)) attempts (ending.map fun _ => ())
          b.site b'.site ∧
        ((∀ a ∈ attempts, a.IsCalm) → ∃ report, ending = .ok report ∧
          report.attempted = f.tracked.map (·.name) ∧ report.Classifies attempts ∧
          report.skipped = none)) ∧
      (f.suite.deletesAfter testFailed = false →
        ending = .ok { Report.empty with skipped := some (skipReason f.suite) } ∧
        Adds (f.keeping k) b b') := by
  cases hflag : f.suite.deletesAfter testFailed with
  | true =>
    apply (deleteTracked_tries hflag hf).mono
    rintro ending b' ⟨_, attempts, htries, hreport, hall⟩
    refine ⟨fun _ => ⟨attempts, htries, ?_⟩, by simp⟩
    intro hcalm
    obtain ⟨_, report, rfl, hattempted, hskipped⟩ := hall hcalm
    have hfolded : ReportsOn attempts report := ⟨report.skipped, by rw [← hreport report rfl]⟩
    exact ⟨report, rfl, hattempted, (Report.agrees hfolded hcalm).classifies hcalm, hskipped⟩
  | false =>
    apply (deleteTracked_keeps hf hflag).mono
    rintro ending b' ⟨hreport, hsame, hkept⟩
    exact ⟨by simp, fun _ => ⟨hreport, hsame.adds hkept⟩⟩

/-- A framework that tracks two namespaces of one name, on a stub that deletes neither of them. Of the
others one is gone, and one is deleted. -/
def tangled : Bench Rat (Scripted.World Rat) Unit :=
  let bench := lone .stub <| .start 0 [("op.delete_namespace",
    [⟨some 1, 0, .raise (.plain .runtime [.text "refused"])⟩,
     ⟨some 1, 0, .raise (.deletion "b" .notFound "no such namespace" none)⟩,
     ⟨some 1, 0, .raise (.deletion "a" .timeout "still there" none)⟩])] []
  { bench with frameworks := bench.frameworks.map fun f =>
      { f with tracked := ["a", "b", "a", "c"].map fun name => ⟨name, [], none⟩ } }

omit hf in
/-- All four are attempted. Under the name that failed twice, the report has the fault that came
last. -/
theorem deleteTracked_classifies_tangled :
    (((deleteTracked 0 false).run tangled).1.toOption.map fun report =>
      (report.attempted, report.deleted, report.alreadyGone,
        report.errors.map fun e => (e.1, e.2.label))) =
      some (["a", "b", "a", "c"], ["c"], ["b"], [("a", "NamespaceDeletionError")]) ∧
    ∃ f, tangled.frameworks[0]? = some f ∧ f.suite.deletesAfter false = true ∧
      Ends (deleteTracked 0 false) tangled fun ending b' =>
        (f.suite.deletesAfter false = true → ∃ attempts,
          TriesEach f 0 (deletionLimit f) (f.tracked.map (·.name)) attempts (ending.map fun _ => ())
            tangled.site b'.site ∧
          ((∀ a ∈ attempts, a.IsCalm) → ∃ report, ending = .ok report ∧
            report.attempted = f.tracked.map (·.name) ∧ report.Classifies attempts ∧
            report.skipped = none)) ∧
        (f.suite.deletesAfter false = false →
          ending = .ok { Report.empty with skipped := some (skipReason f.suite) } ∧
          Adds (f.keeping 0) tangled b') :=
  ⟨by decide +kernel, _, rfl, rfl, deleteTracked_classifies rfl false⟩

end Framework

end Testbed
