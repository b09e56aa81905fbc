import Testbed.Proofs.Custody
import Testbed.Proofs.Upholding

/-!
# How a teardown clears away

Once a teardown has wound up, it attempts its deletions, closes the client, and settles how it ends.
The events of that part are the blocks of the attempts and what the close leaves, and its end is
settled from the report that is folded from the attempts, unless one of these was cut.
-/

set_option autoImplicit false

namespace Testbed

open Proc Bench

variable {τ ω κ : Type}

/-- An attempt that ends well or with an ordinary fault. -/
def Attempt.IsCalm (a : Attempt τ) : Prop := ∀ e, a.ending = .error e → e.isOrdinary = true

/-- A series of calm attempts is not cut. -/
theorem Sweep.ends_ok {names : List String} {attempts : List (Attempt τ)}
    {swept : Except (Fault τ) Unit} (h : Sweep names (attempts.map Attempt.outcome) swept)
    (hcalm : ∀ a ∈ attempts, a.IsCalm) : swept = .ok () := by
  cases swept with
  | ok _ => rfl
  | error e =>
    obtain ⟨hpassing, name, hlast⟩ := h.cut_last rfl
    obtain ⟨a, ha, houtcome⟩ := List.mem_map.1 (List.mem_of_getLast? hlast)
    rw [Attempt.outcome, Prod.mk.injEq] at houtcome
    rw [hcalm a ha e houtcome.2] at hpassing
    cases hpassing

/-- An event that a teardown leaves after its attempts: that the namespaces are kept, or that the
client is closed. -/
def Event.IsParting (e : Event τ) : Prop :=
  e.IsClosing ∨ (∃ k names, e = .custody k (.kept names)) ∨
    ∃ entry, e = .log entry ∧ entry.name = "after_each.namespace_deletion_skipped"

namespace Event.IsParting

variable {e : Event τ}

theorem isNotice (h : e.IsParting) : e.isNotice = false := by
  rcases h with h | ⟨k, names, rfl⟩ | ⟨entry, rfl, hname⟩
  · cases e with
    | log entry =>
      have hname : entry.name = "after_each.client_close_failed" := h
      simp [Event.isNotice, noticeNames, hname]
    | span ended => exact h.elim
    | _ => rfl
  · rfl
  · simp [Event.isNotice, noticeNames, hname]

theorem pause? (h : e.IsParting) : e.pause? = none := by
  rcases h with h | ⟨k, names, rfl⟩ | ⟨entry, rfl, hname⟩
  · cases e with
    | pause length => exact h.elim
    | _ => rfl
  · rfl
  · rfl

end Event.IsParting

namespace Framework

/-- The names of the namespaces that a teardown is to delete. -/
def doomed (f : Framework τ κ) (testFailed : Bool) : List String :=
  if f.suite.deletesAfter testFailed then f.tracked.map (·.name) else []

/-- The report of a teardown is folded from its attempts; it may say why there were none. -/
def ReportsOn (attempts : List (Attempt τ)) (report : Report τ) : Prop :=
  ∃ skipped, report = { attempts.foldl Report.extend .empty with skipped }

/-- How a teardown ends that has cleared away: with the fault with which its deletions were cut, else
as it settles from the report, or with the fault with which the close of the client was cut. -/
def Settles (before : Except (Fault τ) Unit) (attempts : List (Attempt τ))
    (ending : Except (Fault τ) (Report τ)) : Except (Fault τ) Unit → Prop
  | .error e => ending = .error e
  | .ok _ => (∃ report, ReportsOn attempts report ∧ ending = settle before report) ∨
      ∃ e, ending = .error e ∧ e.isOrdinary = false

/-- A teardown that ended this way has cleared away with these attempts. -/
def Clears (f : Framework τ κ) (testFailed : Bool) (before : Except (Fault τ) Unit)
    (attempts : List (Attempt τ)) (ending : Except (Fault τ) (Report τ)) : Prop :=
  ∃ swept, Sweep (f.doomed testFailed) (attempts.map Attempt.outcome) swept ∧
    Settles before attempts ending swept

namespace Clears

variable {f : Framework τ κ} {testFailed : Bool} {before : Except (Fault τ) Unit}
  {attempts : List (Attempt τ)} {ending : Except (Fault τ) (Report τ)}

/-- What is attempted is a first part of what is to be deleted. -/
theorem attempted (h : Clears f testFailed before attempts ending) :
    attempts.map Attempt.name = (f.doomed testFailed).take attempts.length := by
  obtain ⟨swept, hsweep, _⟩ := h
  have hnames := hsweep.attempted
  rw [List.map_map, List.length_map] at hnames
  exact hnames

/-- A teardown attempts no more deletions than the framework tracks namespaces. -/
theorem length_le (h : Clears f testFailed before attempts ending) :
    attempts.length ≤ f.tracked.length := by
  obtain ⟨swept, hsweep, _⟩ := h
  have hdoomed : (f.doomed testFailed).length ≤ f.tracked.length := by
    unfold doomed
    split <;> simp
  have hcount := hsweep.length_le
  rw [List.length_map] at hcount
  omega

/-- A teardown whose attempts are calm attempts all that it is to delete, and settles from its report
unless the close of the client was cut. -/
theorem of_calm (h : Clears f testFailed before attempts ending) (hcalm : ∀ a ∈ attempts, a.IsCalm) :
    attempts.map Attempt.name = f.doomed testFailed ∧
      ((∃ report, ReportsOn attempts report ∧ ending = settle before report) ∨
        ∃ e, ending = .error e ∧ e.isOrdinary = false) := by
  obtain ⟨swept, hsweep, hsettles⟩ := h
  obtain rfl := hsweep.ends_ok hcalm
  have hnames := hsweep.attempted_all rfl
  rw [List.map_map] at hnames
  exact ⟨hnames, hsettles⟩

end Clears

variable [Seconds τ] [Host τ ω] {k : Nat} {f : Framework τ κ}

/-- A series that was not cut is one of calm attempts. -/
theorem TriesEach.isCalm {timeout : τ} {names : List String} {attempts : List (Attempt τ)}
    {swept : Except (Fault τ) Unit} {s t : Site τ ω}
    (h : TriesEach f k timeout names attempts swept s t) (hok : swept = .ok ()) :
    ∀ a ∈ attempts, a.IsCalm := by
  induction h with
  | done => simp
  | next _ ordinary _ ih => exact List.forall_mem_cons.2 ⟨ordinary, ih hok⟩
  | cut => cases hok

/-- A teardown that is to delete asks for each tracked namespace in order. If none of its attempts is
cut, it has attempted all of them, and its report says so. -/
theorem deleteTracked_tries {testFailed : Bool} (hdeletes : f.suite.deletesAfter testFailed = true)
    {b : Bench τ ω κ} (hf : b.frameworks[k]? = some f) :
    Ends (deleteTracked k testFailed) b fun r b' => SiteOnly b b' ∧ ∃ attempts : List (Attempt τ),
      TriesEach f k (deletionLimit f) (f.tracked.map (·.name)) attempts (r.map fun _ => ())
        b.site b'.site ∧
      (∀ report, r = .ok report → report = attempts.foldl Report.extend .empty) ∧
      ((∀ a ∈ attempts, a.IsCalm) → attempts.map Attempt.name = f.tracked.map (·.name) ∧
        ∃ report, r = .ok report ∧ report.attempted = f.tracked.map (·.name) ∧
          report.skipped = none) := by
  apply deleteTracked_attempts hf hdeletes
  apply (deleteEach_tries (deletionLimit f) _ .empty hf).mono
  rintro r b' ⟨hsame, attempts, htries, hreport⟩
  refine ⟨hsame, attempts, htries, hreport, ?_⟩
  intro hcalm
  have hok := htries.sweep.ends_ok hcalm
  have hnames := htries.sweep.attempted_all hok
  rw [List.map_map] at hnames
  cases r with
  | error e => cases hok
  | ok report =>
    refine ⟨hnames, report, rfl, ?_, ?_⟩
    · rw [hreport report rfl, attempted_foldl]
      exact hnames
    · rw [hreport report rfl, skipped_foldl]
      rfl

/-- What a teardown does with the tracked namespaces, by attempts or by keeping them. -/
theorem deleteTracked_adds (testFailed : Bool) {b : Bench τ ω κ} (hf : b.frameworks[k]? = some f) :
    Ends (deleteTracked k testFailed) b fun r b' => ∃ attempts parting,
      Adds (attempts.flatMap (Attempt.events k f.baseName (deletionLimit f)) ++ parting) b b' ∧
      (∀ a ∈ attempts, ∃ s t : Site τ ω, f.Tries k (deletionLimit f) a s t) ∧
      (∀ e ∈ parting, e.IsParting) ∧
      Sweep (f.doomed testFailed) (attempts.map Attempt.outcome) (r.map fun _ => ()) ∧
      ∀ report, r = .ok report → ReportsOn attempts report := by
  unfold doomed
  cases hflag : f.suite.deletesAfter testFailed with
  | true =>
    apply deleteTracked_attempts hf hflag
    apply (deleteEach_adds (deletionLimit f) (f.tracked.map (·.name)) .empty hf).mono
    rintro r b' ⟨attempts, hadds, hsweep, htried, hreport⟩
    refine ⟨attempts, [], by simpa using hadds, htried, by simp, hsweep, ?_⟩
    intro report hr
    exact ⟨report.skipped, by rw [← hreport report hr]⟩
  | false =>
    apply (deleteTracked_keeps hf hflag).mono
    rintro _ b' ⟨rfl, hsame, hkept⟩
    refine ⟨[], _, hsame.adds hkept, by simp, by simp [Event.IsParting, skipEntry], .done, ?_⟩
    rintro report ⟨⟩
    exact ⟨_, rfl⟩

/-- What a teardown does once it has wound up. It settles how it ends from its report if neither its
attempts nor the close of its client are cut. -/
theorem clearAway_settles (testFailed : Bool) (before : Except (Fault τ) Unit) {b : Bench τ ω κ}
    (hf : b.frameworks[k]? = some f) :
    Ends (clearAway k testFailed before) b fun ending b' => ∃ attempts parting,
      b'.site.events = b.site.events ++
        (attempts.flatMap (Attempt.events k f.baseName (deletionLimit f)) ++ parting) ∧
      (∀ a ∈ attempts, ∃ s t : Site τ ω, f.Tries k (deletionLimit f) a s t) ∧
      (∀ e ∈ parting, e.IsParting) ∧ Clears f testFailed before attempts ending ∧
      ((∀ a ∈ attempts, a.IsCalm) → Undisturbed parting →
        ∃ report, ReportsOn attempts report ∧ ending = settle before report) := by
  apply Ends.bind (deleteTracked_adds testFailed hf)
  · rintro report b₁ ⟨attempts, parting, hadds, htried, hparting, hsweep, hreport⟩
    have hf₁ : b₁.frameworks[k]? = some f := by rw [hadds.frameworks, hf]
    -- The close of the client adds to what parts, and only its own cut keeps from settling.
    have closed {ending : Except (Fault τ) (Report τ)} {b₂ : Bench τ ω κ} {later : List (Event τ)}
        (h₂ : Continues later b₁ b₂) (hclosing : ∀ e ∈ later, e.IsClosing)
        (hends : ending = settle before report ∨ ∃ e, ending = .error e ∧
          e.isOrdinary = false ∧ ∃ ev ∈ later, ev.isCutShort = true) :
        ∃ attempts parting, b₂.site.events = b.site.events ++
            (attempts.flatMap (Attempt.events k f.baseName (deletionLimit f)) ++ parting) ∧
          (∀ a ∈ attempts, ∃ s t : Site τ ω, f.Tries k (deletionLimit f) a s t) ∧
          (∀ e ∈ parting, e.IsParting) ∧ Clears f testFailed before attempts ending ∧
          ((∀ a ∈ attempts, a.IsCalm) → Undisturbed parting →
            ∃ report, ReportsOn attempts report ∧ ending = settle before report) := by
      refine ⟨attempts, parting ++ later, ?_, htried, ?_, ⟨.ok (), hsweep, ?_⟩, ?_⟩
      · rw [h₂.2, hadds.2]
        simp
      · intro e he
        exact (List.mem_append.1 he).elim (hparting e) fun he => .inl (hclosing e he)
      · apply hends.imp
        · exact fun hsettled => ⟨report, hreport report rfl, hsettled⟩
        · rintro ⟨e, he, hpassing, _⟩
          exact ⟨e, he, hpassing⟩
      · intro _ hcalm
        obtain hsettled | ⟨_, _, _, ev, hev, hcut⟩ := hends
        · exact ⟨report, hreport report rfl, hsettled⟩
        · rw [(Undisturbed.append.1 hcalm).2 ev hev] at hcut
          cases hcut
    apply Ends.bind (resetAt_ends hf₁)
    · rintro _ b₂ ⟨later, h₂, hclosing, _⟩
      exact closed h₂ hclosing (.inl rfl)
    · rintro e b₂ ⟨later, h₂, hclosing, hcut, _⟩
      exact closed h₂ hclosing (.inr ⟨e, rfl, hcut e rfl⟩)
  · rintro e b₁ ⟨attempts, parting, hadds, htried, hparting, hsweep, _⟩
    refine ⟨attempts, parting, hadds.2, htried, hparting, ⟨.error e, hsweep, rfl⟩, ?_⟩
    intro hcalm
    cases hsweep.ends_ok hcalm

/-- What a teardown does once it has wound up. -/
theorem clearAway_clears (testFailed : Bool) (before : Except (Fault τ) Unit) {b : Bench τ ω κ}
    (hf : b.frameworks[k]? = some f) :
    Ends (clearAway k testFailed before) b fun ending b' => ∃ attempts parting,
      b'.site.events = b.site.events ++
        (attempts.flatMap (Attempt.events k f.baseName (deletionLimit f)) ++ parting) ∧
      (∀ a ∈ attempts, ∃ s t : Site τ ω, f.Tries k (deletionLimit f) a s t) ∧
      (∀ e ∈ parting, e.IsParting) ∧ Clears f testFailed before attempts ending := by
  apply (clearAway_settles testFailed before hf).mono
  rintro ending b' ⟨attempts, parting, hevents, htried, hparting, hclears, _⟩
  exact ⟨attempts, parting, hevents, htried, hparting, hclears⟩

end Framework

end Testbed
