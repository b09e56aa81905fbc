import Testbed.Proofs.Attempts

/-!
# Custody of namespaces

The history tells which namespaces come into the custody of a framework and how they leave it: by
an attempt to delete them, however it ends, or by a teardown that keeps them. This module says
what one teardown does with the namespaces that are tracked when it comes to them.
-/

set_option autoImplicit false

namespace Testbed

open Proc Bench

variable {τ ω κ α : Type}

namespace Custody

/-- The names that a change hands to the framework. -/
def takenNames : Custody τ → List String
  | .taken records => records.map (·.name)
  | _ => []

/-- The names of which a change is the attempted deletion. -/
def attemptedNames : Custody τ → List String
  | .attempted name _ => [name]
  | _ => []

/-- The names that a change leaves on the server. -/
def keptNames : Custody τ → List String
  | .kept names => names
  | _ => []

end Custody

/-- The changes of custody among events, each with its framework. -/
def custodies (events : List (Event τ)) : List (Nat × Custody τ) := events.filterMap Event.custody?

@[simp] theorem custodies_append (events later : List (Event τ)) :
    custodies (events ++ later) = custodies events ++ custodies later :=
  List.filterMap_append

@[simp] theorem custodies_custody (k : Nat) (c : Custody τ) (events : List (Event τ)) :
    custodies (.custody k c :: events) = (k, c) :: custodies events := rfl

@[simp] theorem custodies_log (entry : LogEntry τ) (events : List (Event τ)) :
    custodies (.log entry :: events) = custodies events := rfl

@[simp] theorem custodies_span (ended : SpanRecord) (events : List (Event τ)) :
    custodies (.span ended :: events) = custodies events := rfl

@[simp] theorem custodies_nil : custodies ([] : List (Event τ)) = [] := rfl

theorem mem_custodies {events : List (Event τ)} {k : Nat} {c : Custody τ} :
    (k, c) ∈ custodies events ↔ .custody k c ∈ events := by
  unfold custodies
  rw [List.mem_filterMap]
  constructor
  · rintro ⟨e, he, hc⟩
    cases e with
    | custody j d =>
      cases hc
      exact he
    | _ => cases hc
  · intro h
    exact ⟨_, h, rfl⟩

/-- Events that procedures making calls leave change no custody. -/
theorem custodies_eq_nil {calls : Call τ → Prop} {events : List (Event τ)}
    (h : ∀ e ∈ events, e.Among calls) : custodies events = [] := by
  apply List.filterMap_eq_nil_iff.2
  intro e he
  exact (h e he).custody?

/-- An event that a teardown leaves when it closes the client. -/
def Event.IsClosing : Event τ → Prop
  | .exchange _ (.closeClient _) _ => True
  | .log entry => entry.name = "after_each.client_close_failed"
  | _ => False

theorem custodies_closing {events : List (Event τ)} (h : ∀ e ∈ events, e.IsClosing) :
    custodies events = [] := by
  apply List.filterMap_eq_nil_iff.2
  intro e he
  have hclosing := h e he
  cases e with
  | custody k c => exact hclosing.elim
  | _ => rfl

/-- An event with which a teardown is cut short: a deletion, or the close of a client, that is left
by a fault which is not ordinary. -/
def Event.isCutShort : Event τ → Bool
  | .custody _ (.attempted _ (.error e)) => !e.isOrdinary
  | .exchange _ (.closeClient _) (.error e) => !e.isOrdinary
  | _ => false

/-- No teardown is cut short among these events. -/
def Undisturbed (events : List (Event τ)) : Prop := ∀ e ∈ events, e.isCutShort = false

instance (events : List (Event τ)) : Decidable (Undisturbed events) :=
  inferInstanceAs (Decidable (∀ e ∈ events, e.isCutShort = false))

theorem Undisturbed.append {events later : List (Event τ)} :
    Undisturbed (events ++ later) ↔ Undisturbed events ∧ Undisturbed later := by
  unfold Undisturbed
  simp only [List.mem_append, or_imp, forall_and]

/-- The changes of custody that attempts are, on behalf of a framework. -/
def attemptsBy (k : Nat) (attempts : List (String × Except (Fault τ) Unit)) :
    List (Nat × Custody τ) :=
  attempts.map fun a => (k, .attempted a.1 a.2)

/-- The names that the changes of a framework concern, of the part that is asked for. -/
def namesOf (part : α → List String) (k : Nat) (changes : List (Nat × α)) : List String :=
  changes.flatMap fun c => if c.1 = k then part c.2 else []

@[simp] theorem namesOf_nil (part : α → List String) (k : Nat) : namesOf part k [] = [] := rfl

@[simp] theorem namesOf_append (part : α → List String) (k : Nat) (changes later : List (Nat × α)) :
    namesOf part k (changes ++ later) = namesOf part k changes ++ namesOf part k later :=
  List.flatMap_append

/-- Changes of another framework concern no names of this one. -/
theorem namesOf_of_ne {part : α → List String} {k : Nat} {changes : List (Nat × α)}
    (h : ∀ c ∈ changes, c.1 ≠ k) : namesOf part k changes = [] := by
  apply List.flatMap_eq_nil_iff.2
  intro c hc
  exact if_neg (h c hc)

/-- The attempts of a series are its changes of custody. -/
theorem custodies_attempts [Seconds τ] (k : Nat) (baseName : String) (timeout : τ)
    {attempts : List (Attempt τ)} (h : ∀ a ∈ attempts, custodies a.during = []) :
    custodies (attempts.flatMap (Attempt.events k baseName timeout)) =
      attemptsBy k (attempts.map Attempt.outcome) := by
  induction attempts with
  | nil => rfl
  | cons a rest ih =>
    obtain ⟨ha, hrest⟩ := List.forall_mem_cons.1 h
    have hafter : custodies ((Attempt.afterword baseName a.name a.ending).map .log) = [] := by
      refine @custodies_eq_nil τ (fun _ => False) _ ?_
      simp [Event.Among]
    rw [List.flatMap_cons, custodies_append, ih hrest]
    simp [Attempt.events, ha, hafter, attemptsBy, Attempt.outcome]

theorem namesOf_attemptsBy (k : Nat) (attempts : List (String × Except (Fault τ) Unit)) :
    namesOf Custody.attemptedNames k (attemptsBy k attempts) = attempts.map Prod.fst := by
  induction attempts with
  | nil => rfl
  | cons a rest ih =>
    show _ = a.1 :: rest.map Prod.fst
    rw [← ih]
    simp [namesOf, attemptsBy, Custody.attemptedNames]

/-- Attempts hand nothing to a framework and keep nothing. -/
theorem namesOf_attemptsBy_eq_nil {part : Custody τ → List String} (k : Nat)
    (hpart : ∀ name ending, part (.attempted name ending) = [])
    (attempts : List (String × Except (Fault τ) Unit)) :
    namesOf part k (attemptsBy k attempts) = [] := by
  apply List.flatMap_eq_nil_iff.2
  intro c hc
  obtain ⟨a, _, rfl⟩ := List.mem_map.1 hc
  simp [hpart]

/-- How the namespaces with these names leave the custody of a framework in one teardown: they are
all kept, or their deletion is attempted one after the other. -/
inductive Release (k : Nat) (names : List String) :
    Bool → List (Nat × Custody τ) → Except (Fault τ) Unit → Prop
  | kept : Release k names false [(k, .kept names)] (.ok ())
  | attempted {attempts : List (String × Except (Fault τ) Unit)} {ending : Except (Fault τ) Unit}
      (sweep : Sweep names attempts ending) :
      Release k names true (attemptsBy k attempts) ending

namespace Release

variable {k : Nat} {names : List String} {deletes : Bool} {changes : List (Nat × Custody τ)}
  {ending : Except (Fault τ) Unit}

/-- In a teardown that is not cut short, all names leave the custody of the framework. -/
theorem all_names (h : Release k names deletes changes ending) (hok : ending = .ok ()) :
    namesOf Custody.attemptedNames k changes ++ namesOf Custody.keptNames k changes = names := by
  cases h with
  | kept => simp [namesOf, Custody.attemptedNames, Custody.keptNames]
  | attempted sweep =>
    rw [namesOf_attemptsBy, namesOf_attemptsBy_eq_nil k (fun _ _ => rfl), List.append_nil]
    exact sweep.attempted_all hok

/-- A teardown takes nothing into custody. -/
theorem none_taken (h : Release k names deletes changes ending) (j : Nat) :
    namesOf Custody.takenNames j changes = [] := by
  apply List.flatMap_eq_nil_iff.2
  intro c hc
  cases h with
  | kept =>
    rw [List.mem_singleton] at hc
    simp [hc, Custody.takenNames]
  | attempted sweep =>
    obtain ⟨a, _, rfl⟩ := List.mem_map.1 hc
    simp [Custody.takenNames]

/-- A teardown changes the custody of its own framework only. -/
theorem framework_eq (h : Release k names deletes changes ending) {c : Nat × Custody τ}
    (hc : c ∈ changes) : c.1 = k := by
  cases h with
  | kept =>
    rw [List.mem_singleton] at hc
    rw [hc]
  | attempted sweep =>
    obtain ⟨a, _, rfl⟩ := List.mem_map.1 hc
    rfl

/-- A teardown that leaves its deletions with a fault was cut short in one of them. -/
theorem cut_of_error (h : Release k names deletes changes ending) {e : Fault τ}
    (he : ending = .error e) :
    e.isOrdinary = false ∧ ∃ name, (k, .attempted name (.error e)) ∈ changes := by
  cases h with
  | kept => cases he
  | attempted sweep =>
    obtain ⟨hpassing, name, hlast⟩ := sweep.cut_last he
    refine ⟨hpassing, name, List.mem_map.2 ⟨_, List.mem_of_getLast? hlast, rfl⟩⟩

/-- A teardown that is not cut short leaves its deletions well. -/
theorem ends_ok {events : List (Event τ)} (h : Release k names deletes (custodies events) ending)
    (hcalm : Undisturbed events) : ending = .ok () := by
  cases ending with
  | ok _ => rfl
  | error e =>
    obtain ⟨hpassing, name, hmem⟩ := h.cut_of_error rfl
    have hcalm := hcalm _ (mem_custodies.1 hmem)
    rw [Event.isCutShort, hpassing] at hcalm
    cases hcalm

/-- A teardown that deletes keeps nothing. -/
theorem none_kept (h : Release k names true changes ending) :
    namesOf Custody.keptNames k changes = [] := by
  cases h with
  | attempted sweep => exact namesOf_attemptsBy_eq_nil k (fun _ _ => rfl) _

end Release

namespace Bench

/-- The names of the namespaces that a framework tracks. -/
def trackedNames (b : Bench τ ω κ) (k : Nat) : List String :=
  match b.frameworks[k]? with
  | some f => f.tracked.map (·.name)
  | none => []

/-- Work at the site adds events that change no custody. -/
theorem AtSite.silent {calls : Call τ → Prop} {b b' : Bench τ ω κ} (h : AtSite calls b b') :
    ∃ new, Adds new b b' ∧ custodies new = [] := by
  obtain ⟨new, hadds, hamong⟩ := h.adds
  exact ⟨new, hadds, custodies_eq_nil hamong⟩

theorem Adds.trackedNames {new : List (Event τ)} {b b' : Bench τ ω κ} (h : Adds new b b') (k : Nat) :
    b'.trackedNames k = b.trackedNames k := by
  unfold Bench.trackedNames
  rw [h.frameworks]

theorem trackedNames_of_some {b : Bench τ ω κ} {k : Nat} {f : Framework τ κ}
    (h : b.frameworks[k]? = some f) : b.trackedNames k = f.tracked.map (·.name) := by
  simp [trackedNames, h]

theorem trackedNames_modify {b b' : Bench τ ω κ} {k : Nat} {f : Framework τ κ}
    {g : Framework τ κ → Framework τ κ} (hg : b'.frameworks = b.frameworks.modify k g)
    (hf : b.frameworks[k]? = some f) : b'.trackedNames k = (g f).tracked.map (·.name) := by
  apply trackedNames_of_some
  rw [hg, List.getElem?_modify_eq, hf]
  rfl

theorem trackedNames_modify_of_ne {b b' : Bench τ ω κ} {k j : Nat}
    {g : Framework τ κ → Framework τ κ} (hg : b'.frameworks = b.frameworks.modify k g)
    (hj : k ≠ j) : b'.trackedNames j = b.trackedNames j := by
  unfold trackedNames
  rw [hg, List.getElem?_modify_ne _ _ hj]

/-- A change that leaves what each framework tracks. -/
theorem trackedNames_modify_eq {b b' : Bench τ ω κ} {k : Nat} {g : Framework τ κ → Framework τ κ}
    (hg : b'.frameworks = b.frameworks.modify k g) (htracked : ∀ f, (g f).tracked = f.tracked)
    (j : Nat) : b'.trackedNames j = b.trackedNames j := by
  by_cases hj : k = j
  · subst hj
    unfold trackedNames
    rw [hg, List.getElem?_modify_eq]
    cases b.frameworks[k]? with
    | none => rfl
    | some f => simp [htracked]
  · exact trackedNames_modify_of_ne hg hj

end Bench

namespace Framework

variable [Seconds τ] [Host τ ω]

theorem provide_atSite (f : Framework τ κ) (baseName : String) (labels : Labels) :
    (provide f baseName labels : BenchM τ ω κ (Option Namespace.Record)).Along
      (AtSite fun c => c.isDeletion = false) :=
  (atSite_of_madeOf (madeOf_provide (fun _ _ => trivial) f baseName labels)).mono fun _ _ h =>
    h.mono fun _ hc => hc.1

theorem deleteOne_atSite (k : Nat) (name : String) (timeout : τ) :
    (deleteOne k name timeout : BenchM τ ω κ Unit).Along (AtSite fun _ => True) :=
  atSite_of_madeOf (madeOf_enclose madeOf_recordSpan _
    ((isServed_delete (fun _ _ => trivial) name timeout).mono fun _ _ => trivial).madeOf)

omit [Host τ ω] in
theorem noteDeletion_ends (f : Framework τ κ) (name : String) (one : Except (Fault τ) Unit)
    (b : Bench τ ω κ) :
    Ends (noteDeletion f name one) b fun r b' => r = .ok () ∧ AtSite Call.IsNeutral b b' := by
  unfold noteDeletion
  split
  · exact ⟨rfl, refl_of (AtSite Call.IsNeutral) b⟩
  · exact ⟨rfl, note_atSite f _ _ _ b⟩
  · exact ⟨rfl, note_atSite f _ _ _ b⟩

/-- What a cluster does to delete a namespace changes no custody. -/
theorem deletion_silent (c : Cluster τ) (timeout : τ) (name client : String) (s : Site τ ω) :
    Ends (c.deleteNamespace name client timeout) s fun _ t =>
      ∃ new, t.events = s.events ++ new ∧ custodies new = [] := by
  have hmakes : (c.deleteNamespace name client timeout : SiteM τ ω Unit).Along
      (Site.Makes fun _ => True) :=
    Site.makes (Site.Step.ofWork (Cluster.madeOf_deleteNamespace (fun _ _ => trivial) c name client
      timeout fun _ _ _ => trivial))
  apply (hmakes s).mono
  rintro _ t ⟨new, hnew, hamong⟩
  exact ⟨new, hnew, custodies_eq_nil hamong⟩

/-- What a teardown does with the tracked namespaces: the report lists exactly the names whose
deletion it has attempted. -/
theorem deleteTracked_ends {k : Nat} {f : Framework τ κ} (testFailed : Bool) {b : Bench τ ω κ}
    (hf : b.frameworks[k]? = some f) :
    Ends (deleteTracked k testFailed) b fun r b' => ∃ new, Adds new b b' ∧
      Release k (b.trackedNames k) (f.suite.deletesAfter testFailed) (custodies new)
        (r.map fun _ => ()) ∧
      ∀ report, r = .ok report →
        report.attempted = namesOf Custody.attemptedNames k (custodies new) := by
  rw [trackedNames_of_some hf]
  cases hflag : f.suite.deletesAfter testFailed with
  | true =>
    apply deleteTracked_attempts hf hflag
    apply (deleteEach_adds (deletionLimit f) (f.tracked.map (·.name)) .empty hf).mono
    rintro r b' ⟨attempts, hadds, hsweep, htried, hreport⟩
    have hsilent : ∀ a ∈ attempts, custodies a.during = [] := by
      intro a ha
      obtain ⟨_, _, h⟩ := htried a ha
      exact h.during (fun client _ => deletion_silent f.cluster _ a.name client) fun _ => rfl
    have hcustodies := custodies_attempts k f.baseName (deletionLimit f) hsilent
    refine ⟨_, hadds, ?_, ?_⟩
    · rw [hcustodies]
      exact .attempted hsweep
    · intro report hr
      rw [hreport report hr, hcustodies, namesOf_attemptsBy, attempted_foldl]
      simp [Report.empty, Attempt.outcome]
  | false =>
    apply (deleteTracked_keeps hf hflag).mono
    rintro _ b' ⟨rfl, hsame, hkept⟩
    refine ⟨_, hsame.adds hkept, .kept, ?_⟩
    rintro report ⟨⟩
    simp [namesOf, Custody.attemptedNames, Report.empty, keeping]

/-- Closing the client leaves everything but the site as it is, and ends with a fault only if the
close itself was cut short. -/
theorem closeClient_ends (f : Framework τ κ) (b : Bench τ ω κ) :
    Ends (closeClient f) b fun r b' => ∃ new, Adds new b b' ∧ (∀ ev ∈ new, ev.IsClosing) ∧
      ∀ e, r = .error e → e.isOrdinary = false ∧ ∃ ev ∈ new, ev.isCutShort = true := by
  unfold closeClient
  split
  · rename_i client _ _
    apply Ends.rescue (call_adds (.closeClient client) b)
    · rintro _ b' ⟨_, h⟩
      exact ⟨_, h, by simp [Event.IsClosing], by simp⟩
    · rintro e b' ⟨_, h⟩
      apply Ends.ite
      · intro _
        obtain ⟨_, h'⟩ := record_adds (.log _) b'
        exact ⟨_, h.trans h', by simp [Event.IsClosing], by rintro _ ⟨⟩⟩
      · intro he
        rw [Bool.not_eq_true] at he
        refine ⟨_, h, by simp [Event.IsClosing], ?_⟩
        rintro _ ⟨⟩
        exact ⟨he, _, List.mem_singleton_self _, by simp [Event.isCutShort, he]⟩
  · exact ⟨[], Adds.refl b, by simp, by rintro _ ⟨⟩⟩

/-- A framework is reset unless closing its client is cut short. -/
theorem resetAt_ends {k : Nat} {f : Framework τ κ} {b : Bench τ ω κ}
    (hf : b.frameworks[k]? = some f) :
    Ends (resetAt k : BenchM τ ω κ Unit) b fun r b' => ∃ new, Continues new b b' ∧
      (∀ ev ∈ new, ev.IsClosing) ∧
      (∀ e, r = .error e → e.isOrdinary = false ∧ ∃ ev ∈ new, ev.isCutShort = true) ∧
      (b'.frameworks = b.frameworks.modify k Framework.reset ∨
        b'.frameworks = b.frameworks ∧ ∃ ev ∈ new, ev.isCutShort = true) := by
  unfold resetAt
  apply Ends.bind_ok (frameworkAt_ends hf)
  rintro b rfl
  apply Ends.bind (closeClient_ends f b)
  · rintro _ b₁ ⟨new, h, hclosing, _⟩
    apply (update_ends k Framework.reset b₁).mono
    rintro _ b₂ ⟨rfl, hreset, hframeworks⟩
    refine ⟨new ++ [], h.continues.trans hreset, by simpa using hclosing, by rintro _ ⟨⟩, .inl ?_⟩
    rw [hframeworks, h.frameworks]
  · rintro e b₁ ⟨new, h, hclosing, hcut⟩
    refine ⟨new, h.continues, hclosing, ?_, .inr ⟨h.frameworks, (hcut e rfl).2⟩⟩
    rintro _ ⟨⟩
    exact hcut e rfl

/-- A teardown has come to the namespaces of a framework, with these events: they have left its
custody, and it is reset unless the teardown was cut short. -/
structure Cleared (k : Nat) (deletes : Bool) (new : List (Event τ)) (b b' : Bench τ ω κ)
    (r : Except (Fault τ) (Report τ)) : Prop where
  continues : Continues new b b'
  release : ∃ ending, Release k (b.trackedNames k) deletes (custodies new) ending ∧
    match ending with
    | .error e => r = .error e ∧ b'.frameworks = b.frameworks
    | .ok _ => b'.frameworks = b.frameworks.modify k Framework.reset ∨
        b'.frameworks = b.frameworks ∧ ∃ ev ∈ new, ev.isCutShort = true

omit [Seconds τ] [Host τ ω] in
/-- A framework is reset where neither its deletions nor the close of its client were cut short. -/
theorem Cleared.frameworks_eq {k : Nat} {deletes : Bool} {new : List (Event τ)}
    {b b' : Bench τ ω κ} {r : Except (Fault τ) (Report τ)} (h : Cleared k deletes new b b' r)
    (hcalm : Undisturbed new) : b'.frameworks = b.frameworks.modify k Framework.reset := by
  obtain ⟨_, hrelease, hafter⟩ := h.release
  obtain rfl := hrelease.ends_ok hcalm
  obtain hreset | ⟨_, ev, hev, hcut⟩ := hafter
  · exact hreset
  · rw [hcalm ev hev] at hcut
    cases hcut

theorem clearAway_ends {k : Nat} {f : Framework τ κ} (testFailed : Bool)
    (before : Except (Fault τ) Unit) {b : Bench τ ω κ} (hf : b.frameworks[k]? = some f) :
    Ends (clearAway k testFailed before) b fun r b' =>
      ∃ new, Cleared k (f.suite.deletesAfter testFailed) new b b' r := by
  unfold clearAway
  apply Ends.bind (deleteTracked_ends testFailed hf)
  · rintro report b₁ ⟨new, h, hrelease, _⟩
    have hf₁ : b₁.frameworks[k]? = some f := by rw [h.frameworks, hf]
    have hok : Release k (b.trackedNames k) (f.suite.deletesAfter testFailed) (custodies new)
        (.ok ()) := hrelease
    -- How the teardown itself ends has no part in what follows.
    have cleared {r : Except (Fault τ) (Report τ)} {b₂ : Bench τ ω κ}
        (h₂ : ∃ later, Continues later b₁ b₂ ∧ (∀ ev ∈ later, ev.IsClosing) ∧
          (b₂.frameworks = b₁.frameworks.modify k Framework.reset ∨
            b₂.frameworks = b₁.frameworks ∧ ∃ ev ∈ later, ev.isCutShort = true)) :
        ∃ new, Cleared k (f.suite.deletesAfter testFailed) new b b₂ r := by
      obtain ⟨later, hlater, hclosing, hframeworks⟩ := h₂
      refine ⟨new ++ later, h.continues.trans hlater, .ok (), ?_, ?_⟩
      · simpa [custodies_closing hclosing] using hok
      · rw [h.frameworks] at hframeworks
        apply hframeworks.imp_right
        rintro ⟨hsame, ev, hev, hcut⟩
        exact ⟨hsame, ev, List.mem_append_right _ hev, hcut⟩
    apply Ends.bind (resetAt_ends hf₁)
    · rintro _ b₂ ⟨later, hlater, hclosing, _, hframeworks⟩
      exact cleared ⟨later, hlater, hclosing, hframeworks⟩
    · rintro e b₂ ⟨later, hlater, hclosing, _, hframeworks⟩
      exact cleared ⟨later, hlater, hclosing, hframeworks⟩
  · rintro e b₁ ⟨new, h, hrelease, _⟩
    exact ⟨new, h.continues, _, hrelease, rfl, h.frameworks⟩

/-- A teardown comes to the namespaces of its framework, or the framework is missing and nothing
happens. -/
theorem clearAway_found (k : Nat) (testFailed : Bool) (before : Except (Fault τ) Unit)
    (b : Bench τ ω κ) :
    Ends (clearAway k testFailed before) b fun r b' =>
      (∃ f new, b.frameworks[k]? = some f ∧
        Cleared k (f.suite.deletesAfter testFailed) new b b' r) ∨
      b' = b ∧ b.frameworks[k]? = none := by
  cases hf : b.frameworks[k]? with
  | some f =>
    apply (clearAway_ends testFailed before hf).mono
    rintro r b' ⟨new, h⟩
    exact .inl ⟨f, new, rfl, h⟩
  | none =>
    have hmissing : Ends (deleteTracked k testFailed : BenchM τ ω κ (Report τ)) b fun r b' =>
        b' = b ∧ ∀ report, r ≠ .ok report := by
      apply Ends.bind (frameworkAt_found k b)
      · rintro f b ⟨rfl, hsome⟩
        rw [hf] at hsome
        cases hsome
      · rintro e b ⟨rfl, _⟩
        exact ⟨rfl, by simp⟩
    apply Ends.bind hmissing
    · rintro report _ ⟨_, hno⟩
      exact absurd rfl (hno report)
    · rintro e b ⟨rfl, _⟩
      exact .inr ⟨rfl, rfl⟩

omit [Seconds τ] [Host τ ω] in
/-- Tracking namespaces leaves the handle of a framework. -/
theorem handle_foldl_track (records : List (Option Namespace.Record)) (f : Framework τ κ) :
    (records.foldl track f).handle = f.handle := by
  induction records generalizing f with
  | nil => rfl
  | cons record rest ih => exact ih (f.track record)

/-- A creation leads where work at the site, taking namespaces into custody, and tracking them
lead. -/
theorem createNamespace_along {R : Bench τ ω κ → Bench τ ω κ → Prop}
    [IsPreorder (Bench τ ω κ) R] {k : Nat}
    (hs : ∀ b b', AtSite (fun c => c.isDeletion = false) b b' → R b b')
    (htake : ∀ records, (takeCustody k records : BenchM τ ω κ Unit).Along R)
    (htrack : ∀ record, (update k (·.track record) : BenchM τ ω κ Unit).Along R)
    (baseName : String) (labels : Labels) :
    (createNamespace k baseName labels : BenchM τ ω κ (Option Namespace.Record)).Along R := by
  apply (madeOf_createNamespace (fun _ _ => trivial) baseName labels).along
  intro _ _ hstep
  cases hstep with
  | site hsite => exact (atSite_of_madeOf (.step hsite)).mono hs
  | take records => exact htake records
  | track record => exact htrack record

end Framework

end Testbed
