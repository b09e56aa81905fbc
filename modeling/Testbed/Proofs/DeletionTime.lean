import Testbed.Proofs.Clearing
import Testbed.Proofs.Timely

/-!
# How long deletions take

Deleting a namespace of a live cluster sleeps only while it waits for the namespace to go away, so no
longer than its timeout. A teardown gives each of its deletions the timeout of its framework. A
timeout of zero, with which a poll looks exactly once, is taken for none that was given: the
deletions then have the time that they have by default.
-/

set_option autoImplicit false

namespace Testbed

open Proc Bench

variable {ω κ α : Type}

namespace Namespace

variable [Host Rat ω] (hpunctual : Punctual ω)

include hpunctual

/-- A look at whether a namespace is gone reads it once. -/
theorem isGone_advances (client name : String) (s : Site Rat ω) :
    Ends (isGone client name) s fun _ t =>
      s.Advances (Wait (.readNamespace client name = ·) (.readNamespace client name = ·) 1 0) t := by
  have hread : Ends (do
      let _ ← Site.call (.readNamespace client name)
      pure false : SiteM Rat ω Bool) s fun _ t =>
      s.Advances (Wait (.readNamespace client name = ·) (.readNamespace client name = ·) 1 0) t := by
    have hcall : Ends (Site.call (.readNamespace client name) : SiteM Rat ω Remote) s fun _ t =>
        s.Advances (Wait (.readNamespace client name = ·) (.readNamespace client name = ·) 1 0) t :=
      Site.call_advances hpunctual rfl rfl s
    apply hcall.bind
    · exact fun _ _ h => h
    · exact fun _ _ h => h
  apply hread.rescue
  · exact fun _ _ h => h
  · intro e t h
    split
    · exact h
    · exact h

/-- Deleting a namespace sleeps no longer than its timeout. -/
theorem delete_within (client name : String) {timeout : Rat} (htimeout : 0 ≤ timeout) (s : Site Rat ω) :
    Ends (deleteThrough client name timeout Poll.standardInterval) s fun _ t => s.Within timeout t := by
  have hrequest : MadeOf (Site.Talk fun _ => True) (fun _ => True)
      (requestDeletion client name : SiteM Rat ω Unit) :=
    madeOf_requestDeletion (fun _ _ => trivial) client name trivial
  have hcounts : MadeOf (Site.Talk fun _ => True) (fun _ => True)
      (leftovers client name : SiteM Rat ω (List (String × Nat))) :=
    madeOf_leftovers client name trivial fun _ => trivial
  have hsubject : ("namespace " ++ name ++ " deletion").isEmpty = false :=
    Poll.isEmpty_append_append (by decide)
  apply (Site.talk_within hrequest s).bind
  · intro _ s₁ h₁
    apply Ends.bind_ok (Poll.required_ends (Poll.inBounds_standard htimeout) hsubject s₁)
    rintro s₁ rfl
    -- Only the wait sleeps, so it has the whole timeout.
    have hwait := Poll.await_advances
      (p := ⟨timeout, Poll.standardInterval, "namespace " ++ name ++ " deletion"⟩)
      (Poll.inBounds_standard htimeout) hpunctual.sleeps
      (fun s => Poll.whether_advances (isGone_advances hpunctual client name s)) Poll.absorbsOrdinary s₁
    have waited {s₂ : Site Rat ω} {most : Nat} (h₂ : s₁.Advances
        (Wait (.readNamespace client name = ·) (.readNamespace client name = ·) most timeout) s₂) :
        s.Within timeout s₂ := by
      obtain ⟨_, new, hnew, hcosts⟩ := h₂
      exact (h₁.trans ⟨new, hnew, hcosts.slept⟩).mono (zero_add timeout).le
    apply hwait.bind
    · intro r s₂ h₂
      cases r with
      | ok _ =>
        apply (Site.log_ends _ _ _ s₂).mono
        rintro _ t ⟨_, _, hlogged⟩
        exact ((waited h₂).trans ⟨_, hlogged, (slept_log _).le⟩).mono (add_zero _).le
      | error w =>
        apply (Site.talk_within hcounts s₂).bind
        · intro _ t h₃
          exact ((waited h₂).trans h₃).mono (add_zero _).le
        · intro _ t h₃
          exact ((waited h₂).trans h₃).mono (add_zero _).le
    · intro _ s₂ h₂
      exact waited h₂
  · intro _ t h
    exact h.mono htimeout

end Namespace

namespace Framework

variable [Host Rat ω] {r : Runner Rat ω κ} {k : Nat} {b : Bench Rat ω κ} {f : Framework Rat κ}

/-- The time that each deletion of a framework has whose deletion timeout is set. Zero counts as
none. -/
def allowance (timeout : Rat) : Rat := if timeout = 0 then 300 else timeout

theorem allowance_nonneg {timeout : Rat} (h : 0 ≤ timeout) : 0 ≤ allowance timeout := by
  unfold allowance
  split
  · norm_num
  · exact h

theorem deletionLimit_eq {timeout : Rat} (h : f.deletionTimeout = some timeout) :
    deletionLimit f = allowance timeout := by
  have hzero : (Seconds.isZero timeout = true) ↔ timeout = 0 := by
    change (timeout == 0) = true ↔ _
    rw [beq_iff_eq]
  have hstandard : (Namespace.standardDeletionTimeout : Rat) = 300 := by
    unfold Namespace.standardDeletionTimeout
    norm_num
  unfold deletionLimit allowance
  rw [h, hstandard]
  simp only [hzero]

/-- An attempt sleeps as long as the deletion itself does. -/
theorem slept_events (k : Nat) (baseName : String) (timeout : Rat) (a : Attempt Rat) :
    slept (a.events k baseName timeout) = slept a.during := by
  have hlogs (entries : List (LogEntry Rat)) : slept (entries.map .log) = 0 :=
    slept_eq_zero (by simp [Event.pause?])
  have hclosed (ended : SpanRecord) (change : Custody Rat) :
      slept [.span ended, .custody k change] = 0 := slept_eq_zero (by simp [Event.pause?])
  unfold Attempt.events
  rw [slept_append, slept_append, slept_append, hlogs, slept_log, hclosed]
  ring

/-- A series of attempts of which each sleeps at most so long. -/
theorem slept_attempts {limit : Rat} {attempts : List (Attempt Rat)} (k : Nat) (baseName : String)
    (timeout : Rat) (h : ∀ a ∈ attempts, slept a.during ≤ limit) :
    slept (attempts.flatMap (Attempt.events k baseName timeout)) ≤ attempts.length * limit := by
  induction attempts with
  | nil => simp
  | cons a rest ih =>
    obtain ⟨ha, hrest⟩ := List.forall_mem_cons.1 h
    have hslept := ih hrest
    rw [List.flatMap_cons, slept_append, slept_events, List.length_cons]
    push_cast
    linarith

/-- A teardown sleeps no longer than its allowance while it deletes one namespace, and while it
deletes all of them no longer than that for each that is tracked. It does not sleep afterwards. -/
theorem deletions_within_allowance (hpunctual : Punctual ω) {config : Config.Suite Rat}
    {timeout : Rat} (hf : b.frameworks[k]? = some f) (hlive : f.cluster = .live config)
    (hset : f.deletionTimeout = some timeout) (htimeout : 0 ≤ timeout)
    (hbodies : ∀ body, (r.perform (some k) body).Along
      (Upholds (fun _ => True) (fun s => (s.cluster, s.deletionTimeout)) k))
    (testFailed : Bool) :
    Ends (afterEach r k testFailed) b fun _ b' =>
      ∃ (g : Framework Rat κ) (attempts : List (Attempt Rat)) (parting : List (Event Rat)),
        (woundUp r k testFailed b).2.frameworks[k]? = some g ∧
        b'.site.events = (woundUp r k testFailed b).2.site.events ++
          (attempts.flatMap (Attempt.events k g.baseName (allowance timeout)) ++ parting) ∧
        attempts.map Attempt.name = (g.doomed testFailed).take attempts.length ∧
        (∀ a ∈ attempts, slept (a.events k g.baseName (allowance timeout)) ≤ allowance timeout) ∧
        slept (attempts.flatMap (Attempt.events k g.baseName (allowance timeout))) ≤
          g.tracked.length * allowance timeout ∧
        slept parting = 0 := by
  obtain ⟨g, hg, hsame⟩ : ∃ g, (woundUp r k testFailed b).2.frameworks[k]? = some g ∧
      (g.cluster, g.deletionTimeout) = (f.cluster, f.deletionTimeout) :=
    (woundUp_upholds (fun _ _ => trivial) hbodies).found hf
  rw [Prod.mk.injEq, hlive, hset] at hsame
  have hlimit := deletionLimit_eq hsame.2
  have hallowed := allowance_nonneg htimeout
  apply afterEach_closes hf
  apply (clearAway_clears testFailed _ hg).mono
  rintro ending b₁ ⟨attempts, parting, hevents, htried, hparting, hclears⟩ b₂ h₂
  have hwithin : ∀ a ∈ attempts, slept a.during ≤ allowance timeout := by
    intro a ha
    obtain ⟨_, _, h⟩ := htried a ha
    apply h.during (D := fun new => slept new ≤ allowance timeout)
    · intro client _ s
      rw [hsame.1, hlimit]
      exact Namespace.delete_within hpunctual client a.name hallowed s
    · intro _
      simpa using hallowed
  rw [hlimit] at hevents
  generalize (teardownSpan f.baseName testFailed).close _ ending = ended at h₂
  refine ⟨g, attempts, parting ++ [.span ended], hg, ?_, hclears.attempted, ?_, ?_, ?_⟩
  · rw [h₂.2, hevents]
    simp
  · intro a ha
    rw [slept_events]
    exact hwithin a ha
  · have hcount : (attempts.length : Rat) ≤ g.tracked.length := Nat.cast_le.2 hclears.length_le
    calc slept (attempts.flatMap (Attempt.events k g.baseName (allowance timeout)))
      _ ≤ attempts.length * allowance timeout := slept_attempts k g.baseName _ hwithin
      _ ≤ g.tracked.length * allowance timeout := mul_le_mul_of_nonneg_right hcount hallowed
  · apply slept_eq_zero
    intro e he
    rcases List.mem_append.1 he with he | he
    · exact (hparting e he).pause?
    · rw [List.mem_singleton.1 he]
      rfl

section Lingering

open Scripted

/-- A world in which the server still has a namespace when it is read for the first two times. -/
def lingeringWorld : Timely :=
  .start [("api.read_namespace", [⟨some 2, 0, .give (.table [("name", .text "web-1")])⟩])]
    (by decide +kernel)

/-- A framework of a live cluster that tracks one namespace and has this timeout. -/
def lingering (timeout : Rat) : Bench Rat Timely Unit :=
  { Bench.start lingeringWorld with
    frameworks := [{ Framework.fresh
      { baseName := "web", options := .standard, suite := .standard, cluster := .live .standard,
        provider := none, customCreation := false, skipNamespace := false,
        skipServiceAccountWait := false, deletionTimeout := some timeout } (some "client") with
      tracked := [⟨"web-1", [], none⟩] }] }

/-- Bodies that do nothing. -/
def idleBodies : Runner Rat Timely Unit := ⟨fun _ _ => pure (), 1⟩

/-- The namespace is gone at the deadline, where the wait looks for the last time. -/
theorem deletions_within_allowance_lingering :
    (0 : Rat) ≤ 3 ∧ slept (Trace.of (afterEach idleBodies 0 false) (lingering 3)).events = 3 ∧
      Ends (afterEach idleBodies 0 false) (lingering 3) fun _ b' =>
        ∃ (g : Framework Rat Unit) (attempts : List (Attempt Rat)) (parting : List (Event Rat)),
          (woundUp idleBodies 0 false (lingering 3)).2.frameworks[0]? = some g ∧
          b'.site.events = (woundUp idleBodies 0 false (lingering 3)).2.site.events ++
            (attempts.flatMap (Attempt.events 0 g.baseName (allowance 3)) ++ parting) ∧
          attempts.map Attempt.name = (g.doomed false).take attempts.length ∧
          (∀ a ∈ attempts, slept (a.events 0 g.baseName (allowance 3)) ≤ allowance 3) ∧
          slept (attempts.flatMap (Attempt.events 0 g.baseName (allowance 3))) ≤
            g.tracked.length * allowance 3 ∧
          slept parting = 0 := by
  refine ⟨by decide +kernel, by decide +kernel, ?_⟩
  exact deletions_within_allowance (f := (lingering 3).frameworks.head (by simp [lingering]))
    Timely.punctual rfl rfl rfl (by decide +kernel) (fun _ => along_pure ()) false

/-- A timeout of zero does not bound what the same teardown sleeps. -/
theorem untimed_deletion_sleeps :
    slept (Trace.of (afterEach idleBodies 0 false) (lingering 0)).events = 4 ∧
      ¬ slept (Trace.of (afterEach idleBodies 0 false) (lingering 0)).events ≤ 1 * 0 := by
  have hslept : slept (Trace.of (afterEach idleBodies 0 false) (lingering 0)).events = 4 := by
    decide +kernel
  refine ⟨hslept, ?_⟩
  rw [hslept]
  norm_num

end Lingering

end Framework

end Testbed
