import Testbed.Proofs.Clearing

/-!
# The deletions of one teardown

Once a teardown has wound up, and is set to delete, it asks the cluster for one tracked namespace after
the other. `Deletes` says how these requests, the report of the deletions and the end of the teardown
belong together.
-/

set_option autoImplicit false

namespace Testbed

open Proc Bench

variable {τ ω κ : Type} [Seconds τ] [Host τ ω]

namespace Framework

/-- A teardown that comes to the namespaces of a framework on this bench deletes them by these
attempts, among these events and with this end. The cluster is asked once in each attempt, and for
nothing else. Unless an attempt is cut, every tracked namespace is attempted, and the report of the
deletions, the only one that the teardown can return, lists exactly these. -/
structure Deletes (k : Nat) (f : Framework τ κ) (testFailed : Bool) (b : Bench τ ω κ)
    (new : List (Event τ)) (ending : Except (Fault τ) (Report τ)) (attempts : List (Attempt τ)) :
    Prop where
  tries : ∃ t, TriesEach f k (deletionLimit f) (f.tracked.map (·.name)) attempts
    (((deleteTracked k testFailed).run b).1.map fun _ => ()) b.site t
  requests : requestsIn new = attempts.flatMap fun a => f.requests (deletionLimit f) a.name
  custody : custodies new = attemptsBy k (attempts.map Attempt.outcome)
  all : (∀ a ∈ attempts, a.IsCalm) → attempts.map Attempt.name = f.tracked.map (·.name)
  reported : (∀ a ∈ attempts, a.IsCalm) → ∃ report,
    ((deleteTracked k testFailed).run b).1 = .ok report ∧
      report.attempted = f.tracked.map (·.name) ∧ report.skipped = none ∧
      ∀ full, ending = .ok full → full = report

variable {k : Nat} {f : Framework τ κ} {testFailed : Bool} {b : Bench τ ω κ}

namespace Deletes

variable {new later : List (Event τ)} {ending ending' : Except (Fault τ) (Report τ)}
  {attempts : List (Attempt τ)} (h : Deletes k f testFailed b new ending attempts)

include h

/-- What comes after the deletions without a part in them. -/
theorem append (hlater : ∀ e ∈ later, e.Among fun c => c.isDeletion = false)
    (hending : ∀ report, ending' = .ok report → ending = .ok report) :
    Deletes k f testFailed b (new ++ later) ending' attempts where
  tries := h.tries
  requests := by
    rw [requestsIn_append, requestsIn_eq_nil (fun _ => id) hlater, List.append_nil, h.requests]
  custody := by rw [custodies_append, custodies_eq_nil hlater, List.append_nil, h.custody]
  all := h.all
  reported hcalm := by
    obtain ⟨report, hreport, hattempted, hskipped, honly⟩ := h.reported hcalm
    exact ⟨report, hreport, hattempted, hskipped, fun full heq => honly full (hending full heq)⟩

/-- The names of the attempts are those that the history tells. -/
theorem names_eq : namesOf Custody.attemptedNames k (custodies new) = attempts.map Attempt.name := by
  rw [h.custody, namesOf_attemptsBy, List.map_map]
  rfl

/-- Where nothing is cut short, no attempt is. -/
theorem isCalm_of_undisturbed (hcalm : Undisturbed new) : ∀ a ∈ attempts, a.IsCalm := by
  intro a ha e he
  have hmem : (k, .attempted a.name a.ending) ∈ custodies new := by
    rw [h.custody]
    exact List.mem_map.2 ⟨a.outcome, List.mem_map_of_mem ha, rfl⟩
  have hquiet := hcalm _ (mem_custodies.1 hmem)
  rw [he] at hquiet
  simpa [Event.isCutShort] using hquiet

end Deletes

/-- A teardown that is to delete the tracked namespaces does. -/
theorem deleteTracked_deletes (hf : b.frameworks[k]? = some f)
    (hdeletes : f.suite.deletesAfter testFailed = true) :
    Ends (deleteTracked k testFailed) b fun ending b' =>
      ∃ new, Adds new b b' ∧ ∃ attempts, Deletes k f testFailed b new ending attempts := by
  apply ((ends_run _ b).and (deleteTracked_tries hdeletes hf)).mono
  intro ending b' hends
  obtain ⟨hrun, hsame, attempts, htries, hreport, hall⟩ := hends
  have hsilent : ∀ a ∈ attempts, custodies a.during = [] := by
    intro a ha
    obtain ⟨_, _, h⟩ := htries.each a ha
    exact h.during (fun client _ => deletion_silent f.cluster _ a.name client) fun _ => rfl
  refine ⟨_, ⟨hsame, htries.events⟩, attempts, ⟨b'.site, ?_⟩, ?_, ?_, ?_, ?_⟩
  · rw [hrun]
    exact htries
  · exact requestsIn_attempts htries.each
  · exact custodies_attempts k f.baseName (deletionLimit f) hsilent
  · exact fun hcalm => (hall hcalm).1
  · intro hcalm
    obtain ⟨_, report, rfl, hattempted, hskipped⟩ := hall hcalm
    refine ⟨report, by rw [hrun], hattempted, hskipped, ?_⟩
    rintro full ⟨⟩
    rfl

/-- Closing the client of a framework deletes nothing. -/
theorem closeClient_atSite (f : Framework τ κ) :
    (closeClient f : BenchM τ ω κ Unit).Along (AtSite fun c => c.isDeletion = false) := by
  unfold closeClient
  split
  · rename_i client _ _
    have hcall : (onSite (Site.call (.closeClient client)) : BenchM τ ω κ Unit).Along
        (AtSite fun c => c.isDeletion = false) := onSite_atSite (Site.makes_call rfl)
    apply hcall.rescue
    intro e
    apply along_ite
    · intro _
      exact note_atSite f _ _ _
    · intro _
      exact along_fail e
  · exact along_pure ()

/-- What the reset after the deletions adds is no part of them. -/
theorem resetAt_adds (k : Nat) (b : Bench τ ω κ) :
    Ends (resetAt k : BenchM τ ω κ Unit) b fun _ b' =>
      ∃ later, b'.site.events = b.site.events ++ later ∧
        ∀ e ∈ later, e.Among fun c => c.isDeletion = false := by
  apply Ends.bind (frameworkAt_found k b)
  · intro f b hends
    obtain ⟨rfl, _⟩ := hends
    apply Ends.bind (closeClient_atSite f b)
    · intro _ b₁ h₁
      exact h₁.2
    · intro _ b₁ h₁
      exact h₁.2
  · intro e b hends
    obtain ⟨rfl, _⟩ := hends
    exact ⟨[], (List.append_nil _).symm, fun _ he => nomatch he⟩

omit [Seconds τ] [Host τ ω] in
/-- A teardown that returns a report returns that of its deletions. -/
theorem settle_eq_ok {before : Except (Fault τ) Unit} {report full : Report τ}
    (h : settle before report = .ok full) : report = full := by
  unfold settle at h
  split at h
  · split at h
    · cases h
      rfl
    · cases h
  · split at h <;> cases h

/-- What holds of the events and the end of the deletions, and stays so when events without a part in
them are added, holds of the clearing away. -/
theorem clearAway_keeps {P : List (Event τ) → Except (Fault τ) (Report τ) → Prop}
    (hdeletes : Ends (deleteTracked k testFailed) b fun ending b' =>
      ∃ new, Adds new b b' ∧ P new ending)
    (happend : ∀ {new later ending ending'}, P new ending →
      (∀ e ∈ later, e.Among fun c => c.isDeletion = false) →
      (∀ report, ending' = .ok report → ending = .ok report) → P (new ++ later) ending')
    (before : Except (Fault τ) Unit) :
    Ends (clearAway k testFailed before) b fun ending b' =>
      ∃ new, b'.site.events = b.site.events ++ new ∧ P new ending := by
  apply Ends.bind hdeletes
  · intro report b₁ hends
    obtain ⟨new, hadds, hp⟩ := hends
    apply Ends.bind (resetAt_adds k b₁)
    · intro _ b₂ hends
      obtain ⟨later, hlater, hamong⟩ := hends
      refine ⟨new ++ later, ?_, happend hp hamong ?_⟩
      · change b₂.site.events = _
        rw [hlater, hadds.2, List.append_assoc]
      · intro full hfull
        rw [settle_eq_ok hfull]
    · intro e b₂ hends
      obtain ⟨later, hlater, hamong⟩ := hends
      refine ⟨new ++ later, ?_, happend hp hamong ?_⟩
      · rw [hlater, hadds.2, List.append_assoc]
      · rintro full ⟨⟩
  · intro e b₁ hends
    obtain ⟨new, hadds, hp⟩ := hends
    exact ⟨new, hadds.2, hp⟩

/-- A teardown that is to delete does so where it clears away. -/
theorem clearAway_deletes (hf : b.frameworks[k]? = some f)
    (hdeletes : f.suite.deletesAfter testFailed = true) (before : Except (Fault τ) Unit) :
    Ends (clearAway k testFailed before) b fun ending b' =>
      ∃ new, b'.site.events = b.site.events ++ new ∧
        ∃ attempts, Deletes k f testFailed b new ending attempts :=
  clearAway_keeps (deleteTracked_deletes hf hdeletes)
    (fun ⟨attempts, h⟩ hlater hending => ⟨attempts, h.append hlater hending⟩) before

/-- A teardown that is to delete does so once it has wound up, and then records its span. -/
theorem afterEach_deletes {r : Runner τ ω κ} {g : Framework τ κ} (hf : b.frameworks[k]? = some f)
    (hg : (woundUp r k testFailed b).2.frameworks[k]? = some g)
    (hdeletes : g.suite.deletesAfter testFailed = true) :
    Ends (afterEach r k testFailed) b fun ending b' => ∃ new attempts ended,
      b'.site.events = (woundUp r k testFailed b).2.site.events ++ new ++ [.span ended] ∧
        Deletes k g testFailed (woundUp r k testFailed b).2 new ending attempts := by
  apply afterEach_closes hf
  apply (clearAway_deletes hg hdeletes _).mono
  rintro ending b₁ ⟨new, hevents, attempts, hdone⟩ b₂ h₂
  exact ⟨new, attempts, _, by rw [h₂.2, hevents], hdone⟩

/-- A teardown between these benches asks for the deletion of exactly these names, one after the
other, once it has wound up, and its deletions report them as attempted. -/
def AsksFor (r : Runner τ ω κ) (k : Nat) (testFailed : Bool) (b b' : Bench τ ω κ)
    (names : List String) : Prop :=
  ∃ g new ended report, (woundUp r k testFailed b).2.frameworks[k]? = some g ∧
    b'.site.events = (woundUp r k testFailed b).2.site.events ++ new ++ [.span ended] ∧
    requestsIn new = names.flatMap (g.requests (deletionLimit g)) ∧
    ((deleteTracked k testFailed).run (woundUp r k testFailed b).2).1 = .ok report ∧
    report.attempted = names ∧ report.skipped = none

/-- A teardown none of whose attempts is cut asks for all that is tracked once it has wound up. -/
theorem Deletes.asksFor {r : Runner τ ω κ} {g : Framework τ κ} {b' : Bench τ ω κ}
    {new : List (Event τ)} {ended : SpanRecord} {ending : Except (Fault τ) (Report τ)}
    {attempts : List (Attempt τ)}
    (h : Deletes k g testFailed (woundUp r k testFailed b).2 new ending attempts)
    (hg : (woundUp r k testFailed b).2.frameworks[k]? = some g)
    (hevents : b'.site.events = (woundUp r k testFailed b).2.site.events ++ new ++ [.span ended])
    (hcalm : ∀ a ∈ attempts, a.IsCalm) :
    AsksFor r k testFailed b b' (g.tracked.map (·.name)) := by
  obtain ⟨report, hreport, hattempted, hskipped, _⟩ := h.reported hcalm
  refine ⟨g, new, ended, report, hg, hevents, ?_, hreport, hattempted, hskipped⟩
  rw [h.requests, ← h.all hcalm, List.flatMap_map]

end Framework

end Testbed
