import Mathlib.Logic.Relation
import Testbed.Proofs.Deletions
import Testbed.Proofs.Fixture

/-!
# Namespaces that are kept

Whether a teardown deletes is decided by the suite of its framework and by the flag that it is
given. Teardowns come about in several ways, and each of them passes a flag of its own: the cleanup
of a failed setup and the drain of the registry pass that the test has failed, the end of a test
passes what its reports say. `Minds` fixes a framework, its suite and what this suite decides for
the flags that come up: then no request for a deletion is made on behalf of that framework, or
nothing of it is kept. What one teardown does, reports and logs is stated for itself.
-/

set_option autoImplicit false

namespace Testbed

open Proc Bench Framework

variable {τ ω κ α : Type}

section Deleters

/-- Whether an event is a request for the deletion of a namespace. -/
def Event.isDeletion : Event τ → Bool
  | .exchange _ c _ => c.isDeletion
  | _ => false

theorem Event.Among.isDeletion {calls : Call τ → Prop} {e : Event τ} (h : e.Among calls)
    (hcalls : ∀ c, calls c → c.isDeletion = false) : e.isDeletion = false := by
  cases e with
  | exchange time c reply => exact hcalls c h
  | _ => rfl

/-- The framework of whose attempt to delete a namespace these events are the rest. -/
def attempter : List (Event τ) → Option Nat
  | [] => none
  | .custody k (.attempted ..) :: _ => some k
  | .custody .. :: _ => none
  | _ :: rest => attempter rest

/-- For each request for a deletion, the framework of whose attempt it is a part, if it is one. -/
def deleters : List (Event τ) → List (Option Nat)
  | [] => []
  | e :: rest => if e.isDeletion then attempter rest :: deleters rest else deleters rest

theorem attempter_append {k : Nat} {events later : List (Event τ)} (h : attempter events = some k) :
    attempter (events ++ later) = some k := by
  induction events with
  | nil => cases h
  | cons e rest ih =>
    cases e with
    | custody j c =>
      cases c with
      | attempted name ending => exact h
      | _ => cases h
    | _ => exact ih h

theorem attempter_of_silent {k : Nat} {name : String} {ending : Except (Fault τ) Unit}
    {events : List (Event τ)} (h : custodies events = []) :
    attempter (events ++ [.custody k (.attempted name ending)]) = some k := by
  induction events with
  | nil => rfl
  | cons e rest ih =>
    cases e with
    | custody j c => cases h
    | _ => exact ih h

/-- Events that leave no request unaccounted for may be followed by any others. -/
theorem deleters_append {events later : List (Event τ)} (h : none ∉ deleters events) :
    deleters (events ++ later) = deleters events ++ deleters later := by
  induction events with
  | nil => rfl
  | cons e rest ih =>
    rw [List.cons_append, deleters, deleters]
    rw [deleters] at h
    cases hdeletion : e.isDeletion with
    | true =>
      simp only [hdeletion, if_true, List.mem_cons, not_or] at h ⊢
      obtain ⟨k, hk⟩ := Option.ne_none_iff_exists'.1 (Ne.symm h.1)
      rw [hk, attempter_append hk, ih h.2, List.cons_append]
    | false =>
      simp only [hdeletion, Bool.false_eq_true, if_false] at h ⊢
      exact ih h

theorem deleters_eq_nil {events : List (Event τ)} (h : ∀ e ∈ events, e.isDeletion = false) :
    deleters events = [] := by
  induction events with
  | nil => rfl
  | cons e rest ih =>
    rw [List.forall_mem_cons] at h
    rw [deleters, h.1]
    exact ih h.2

/-- The requests made in an attempt are made on behalf of its framework. -/
theorem mem_deleters_attempt {k : Nat} {name : String} {ending : Except (Fault τ) Unit}
    {events : List (Event τ)} (h : custodies events = []) {o : Option Nat}
    (ho : o ∈ deleters (events ++ [.custody k (.attempted name ending)])) : o = some k := by
  induction events with
  | nil => cases ho
  | cons e rest ih =>
    have hrest : custodies rest = [] := by
      cases e with
      | custody j c => cases h
      | _ => exact h
    rw [List.cons_append, deleters] at ho
    cases hdeletion : e.isDeletion with
    | true =>
      simp only [hdeletion, if_true, List.mem_cons] at ho
      obtain rfl | ho := ho
      · exact attempter_of_silent hrest
      · exact ih hrest ho
    | false =>
      simp only [hdeletion, Bool.false_eq_true, if_false] at ho
      exact ih hrest ho

end Deleters

/-- What events may tell of a framework whose teardowns delete, or keep: each request for a deletion
is part of some framework's attempt; this framework makes none if it keeps its namespaces, and keeps
none if it deletes them. -/
structure Owned (k : Nat) (deletes : Bool) (events : List (Event τ)) : Prop where
  requests : ∀ o ∈ deleters events, ∃ j, o = some j ∧ (j = k → deletes = true)
  attempts : ∀ name ending, .custody k (.attempted name ending) ∈ events → deletes = true
  keeps : ∀ names, .custody k (.kept names) ∈ events → deletes = false

namespace Owned

variable {k : Nat} {deletes : Bool} {events later : List (Event τ)}

theorem nil : Owned k deletes ([] : List (Event τ)) where
  requests _ ho := nomatch ho
  attempts _ _ hmem := nomatch hmem
  keeps _ hmem := nomatch hmem

theorem append (h : Owned k deletes events) (h' : Owned k deletes later) :
    Owned k deletes (events ++ later) := by
  have hnone : none ∉ deleters events := by
    intro hmem
    obtain ⟨j, hj, _⟩ := h.requests none hmem
    cases hj
  refine ⟨?_, ?_, ?_⟩
  · intro o ho
    rw [deleters_append hnone, List.mem_append] at ho
    exact ho.elim (h.requests o) (h'.requests o)
  · intro name ending hmem
    exact (List.mem_append.1 hmem).elim (h.attempts name ending) (h'.attempts name ending)
  · intro names hmem
    exact (List.mem_append.1 hmem).elim (h.keeps names) (h'.keeps names)

/-- Events without requests, of which none changes the custody of this framework but by what comes
into it. -/
theorem of_quiet (hrequests : ∀ e ∈ events, e.isDeletion = false)
    (hcustody : ∀ c, .custody k c ∈ events → ∃ records, c = .taken records) :
    Owned k deletes events := by
  refine ⟨?_, ?_, ?_⟩
  · rw [deleters_eq_nil hrequests]
    intro o ho
    cases ho
  · intro name ending hmem
    obtain ⟨records, h⟩ := hcustody _ hmem
    cases h
  · intro names hmem
    obtain ⟨records, h⟩ := hcustody _ hmem
    cases h

theorem of_among {calls : Call τ → Prop} (hcalls : ∀ c, calls c → c.isDeletion = false)
    (h : ∀ e ∈ events, e.Among calls) : Owned k deletes events := by
  apply of_quiet
  · intro e he
    exact (h e he).isDeletion hcalls
  · intro c hmem
    exact (h _ hmem).elim

/-- One attempt, for this framework only if it deletes. -/
theorem attempt {j : Nat} (hj : j = k → deletes = true) {name : String}
    {ending : Except (Fault τ) Unit} (hsilent : custodies events = []) :
    Owned k deletes (events ++ [.custody j (.attempted name ending)]) := by
  have hlast {i : Nat} {c : Custody τ}
      (hmem : .custody i c ∈ events ++ [.custody j (.attempted name ending)]) :
      i = j ∧ c = .attempted name ending := by
    rw [← mem_custodies, custodies_append, hsilent] at hmem
    simpa using hmem
  refine ⟨?_, ?_, ?_⟩
  · intro o ho
    exact ⟨j, mem_deleters_attempt hsilent ho, hj⟩
  · intro other result hmem
    exact hj (hlast hmem).1.symm
  · intro names hmem
    cases (hlast hmem).2

end Owned

namespace Bench

/-- The suite that a framework is set to. -/
def suiteAt (b : Bench τ ω κ) (k : Nat) : Option (Config.Suite τ) :=
  b.frameworks[k]?.map (·.suite)

theorem suiteAt_of_some {b : Bench τ ω κ} {k : Nat} {f : Framework τ κ}
    (h : b.frameworks[k]? = some f) : b.suiteAt k = some f.suite := by
  simp [suiteAt, h]

/-- From one bench to a later one a framework has kept its suite, the reports of the test are the
same, and the events between are such as this framework may have part in. -/
structure Heeds (k : Nat) (suite : Config.Suite τ) (deletes : Bool) (b b' : Bench τ ω κ) : Prop where
  suite : b'.suiteAt k = some suite
  reports : b'.trial.reports = b.trial.reports
  events : ∃ new, b'.site.events = b.site.events ++ new ∧ Owned k deletes new

/-- A framework with this suite has kept it, and has deleted or kept its namespaces as it should. -/
def Minds (k : Nat) (suite : Config.Suite τ) (deletes : Bool) (b b' : Bench τ ω κ) : Prop :=
  b.suiteAt k = some suite → Heeds k suite deletes b b'

section

variable {k : Nat} {suite : Config.Suite τ} {deletes : Bool}

instance : IsPreorder (Bench τ ω κ) (Minds k suite deletes) where
  refl b := fun hb => ⟨hb, rfl, [], (List.append_nil _).symm, .nil⟩
  trans := by
    intro a b c hab hbc ha
    obtain ⟨hb, hreports, new, hnew, howned⟩ := hab ha
    obtain ⟨hc, hreports', later, hlater, howned'⟩ := hbc hb
    refine ⟨hc, by rw [hreports', hreports], new ++ later, ?_, howned.append howned'⟩
    rw [hlater, hnew, List.append_assoc]

variable {b b' : Bench τ ω κ} {new : List (Event τ)}

theorem Continues.minds (h : Continues new b b') (hsuite : b'.suiteAt k = b.suiteAt k)
    (howned : Owned k deletes new) : Minds k suite deletes b b' := by
  intro hb
  refine ⟨by rw [hsuite, hb], ?_, new, h.2, howned⟩
  rw [h.1]

theorem Adds.suiteAt (h : Adds new b b') : b'.suiteAt k = b.suiteAt k := by
  unfold Bench.suiteAt
  rw [h.frameworks]

theorem Adds.minds (h : Adds new b b') (howned : Owned k deletes new) : Minds k suite deletes b b' :=
  h.continues.minds h.suiteAt howned

theorem AtSite.minds {calls : Call τ → Prop} (h : AtSite calls b b')
    (hcalls : ∀ c, calls c → c.isDeletion = false) : Minds k suite deletes b b' := by
  obtain ⟨new, hadds, hamong⟩ := h.adds
  exact hadds.minds (.of_among hcalls hamong)

theorem AtSite.minds_of_neutral (h : AtSite Call.IsNeutral b b') : Minds k suite deletes b b' :=
  h.minds fun _ => Call.IsNeutral.isDeletion

/-- A change that leaves the suite of every framework. -/
theorem suiteAt_modify {j : Nat} {g : Framework τ κ → Framework τ κ}
    (hg : b'.frameworks = b.frameworks.modify j g) (hsuite : ∀ f, (g f).suite = f.suite) :
    b'.suiteAt k = b.suiteAt k := by
  unfold suiteAt
  rw [hg, List.getElem?_modify]
  cases b.frameworks[k]? with
  | none => rfl
  | some f => by_cases hj : j = k <;> simp [hj, hsuite]

theorem update_minds (j : Nat) {g : Framework τ κ → Framework τ κ}
    (hsuite : ∀ f, (g f).suite = f.suite) :
    (update j g : BenchM τ ω κ Unit).Along (Minds k suite deletes) := by
  intro b
  apply (update_ends j g b).mono
  intro _ b' hends
  obtain ⟨_, h, hg⟩ := hends
  exact h.minds (suiteAt_modify hg hsuite) .nil

/-- A change of the registry, and a log entry after it. -/
theorem minds_of_registry {registry : Registry (Duty κ) (Except (Fault τ) Unit)}
    (h : AtSite (fun _ => False) { b with registry } b') : Minds k suite deletes b b' := by
  intro hb
  obtain ⟨hsuite, hreports, hevents⟩ := h.minds (fun _ => False.elim) hb
  exact ⟨hsuite, hreports, hevents⟩

end

end Bench

namespace Framework

variable {k : Nat} {suite : Config.Suite τ} {deletes : Bool}

theorem enroll_minds (j : Nat) : (enroll j : BenchM τ ω κ Unit).Along (Minds k suite deletes) := by
  have hregister : (register (.teardown j) : BenchM τ ω κ Nat).Along (Minds k suite deletes) := by
    intro b
    apply (register_ends (.teardown j) b).mono
    intro _ b' hends
    obtain ⟨_, h⟩ := hends
    exact minds_of_registry h
  exact hregister.bind fun _ => update_minds j fun _ => rfl

theorem withdraw_minds (j : Nat) :
    (withdraw j : BenchM τ ω κ Unit).Along (Minds k suite deletes) := by
  have hunregister (handle : Option Nat) :
      (unregister handle : BenchM τ ω κ Unit).Along (Minds k suite deletes) := by
    intro b
    apply (unregister_ends handle b).mono
    intro _ b' hends
    obtain ⟨_, h⟩ := hends
    exact minds_of_registry h
  exact (frameworkAt_along j).bind fun f =>
    (hunregister f.handle).bind fun _ => update_minds j fun _ => rfl

theorem takeCustody_minds (j : Nat) (records : List Namespace.Record) :
    (takeCustody j records : BenchM τ ω κ Unit).Along (Minds k suite deletes) := by
  intro b
  apply (record_adds (.custody j (.taken records)) b).mono
  intro _ b' hends
  obtain ⟨_, h⟩ := hends
  apply h.minds
  apply Owned.of_quiet
  · simp [Event.isDeletion]
  · intro c hmem
    rw [List.mem_singleton, Event.custody.injEq] at hmem
    exact ⟨records, hmem.2⟩

theorem takeDuties_minds :
    (takeDuties : BenchM τ ω κ (List (Nat × Duty κ))).Along (Minds k suite deletes) := by
  intro b hb
  exact ⟨hb, rfl, [], (List.append_nil _).symm, .nil⟩

theorem enterJournal_minds (e : Registry.Entry (Duty κ) (Except (Fault τ) Unit)) :
    (enterJournal e : BenchM τ ω κ Unit).Along (Minds k suite deletes) := by
  intro b hb
  exact ⟨hb, rfl, [], (List.append_nil _).symm, .nil⟩

variable [Seconds τ] [Host τ ω]

theorem createNamespace_minds (j : Nat) (baseName : String) (labels : Labels) :
    (createNamespace j baseName labels
      : BenchM τ ω κ (Option Namespace.Record)).Along (Minds k suite deletes) :=
  createNamespace_along (fun _ _ h => h.minds fun _ => id) (takeCustody_minds j)
    (fun _ => update_minds j fun _ => rfl) baseName labels

/-- The deletions of one teardown, each of which is an attempt of its framework. -/
theorem deleteEach_minds {j : Nat} (hj : j = k → deletes = true) (timeout : τ)
    (report : Report τ) (names : List String) :
    (deleteEach j timeout report names : BenchM τ ω κ (Report τ)).Along (Minds k suite deletes) := by
  have hlog (b b' : Bench τ ω κ) : AtSite Call.IsNeutral b b' → Minds k suite deletes b b' :=
    AtSite.minds_of_neutral
  induction names generalizing report with
  | nil => exact along_pure report
  | cons name rest ih =>
    apply Along.bind (frameworkAt_along j)
    intro f
    apply Along.bind (note_along hlog f _ _ _)
    intro _ b
    apply Ends.bind_attempt (deleteOne_atSite j name timeout b)
    intro one b₁ h₁
    obtain ⟨tried, h₁, hsilent⟩ := h₁.silent
    apply Ends.bind_ok (record_adds _ b₁)
    intro b₂ h₂
    have hattempt : Minds k suite deletes b b₂ := (h₁.trans h₂).minds (.attempt hj hsilent)
    cases one with
    | ok _ => exact (ih _ b₂).mono fun _ _ => trans_of (Minds k suite deletes) hattempt
    | error e =>
      apply Ends.ite
      · intro _
        apply Ends.bind_ok (noteDeletion_ends f name _ b₂)
        intro b₃ h₃
        apply (ih _ b₃).mono
        intro _ b'
        exact trans_of (Minds k suite deletes) (trans_of (Minds k suite deletes) hattempt (hlog _ _ h₃))
      · intro _
        exact hattempt

/-- What a teardown does with the tracked namespaces, if its flag is one for which the framework's
suite decides as it should. -/
theorem deleteTracked_minds {j : Nat} {testFailed : Bool}
    (hj : j = k → suite.deletesAfter testFailed = deletes) :
    (deleteTracked j testFailed : BenchM τ ω κ (Report τ)).Along (Minds k suite deletes) := by
  intro b
  by_cases hb : j = k → b.suiteAt k = some suite
  · apply Ends.bind (frameworkAt_found j b)
    · intro f b hends
      obtain ⟨rfl, hf⟩ := hends
      have hdecides (heq : j = k) : f.suite.deletesAfter testFailed = deletes := by
        have hsuite := hb heq
        rw [← heq, suiteAt_of_some hf, Option.some_inj] at hsuite
        rw [hsuite, hj heq]
      apply Ends.ite
      · intro hdeletes
        exact deleteEach_minds (fun heq => (hdecides heq).symm.trans hdeletes) _ _ _ b
      · intro hkeeps
        apply Ends.bind_ok (record_adds _ b)
        intro b₁ h₁
        apply Ends.bind_ok (record_adds _ b₁)
        intro b₂ h₂
        apply (h₁.trans h₂).minds
        refine ⟨?_, ?_, ?_⟩
        · intro o ho
          cases ho
        · intro name ending hmem
          simp at hmem
        · intro names hmem
          obtain ⟨hown, _⟩ : k = j ∧ names = f.tracked.map (·.name) := by simpa using hmem
          rw [← hdecides hown.symm]
          simpa using hkeeps
    · intro e b hends
      obtain ⟨rfl, _⟩ := hends
      exact refl_of (Minds k suite deletes) b
  · -- The framework has another suite, and nothing is said of it.
    have hother : b.suiteAt k ≠ some suite := fun h => hb fun _ => h
    exact fun h => absurd h hother

theorem resetAt_minds (j : Nat) :
    (resetAt j : BenchM τ ω κ Unit).Along (Minds k suite deletes) := by
  have hclose (f : Framework τ κ) :
      (closeClient f : BenchM τ ω κ Unit).Along (Minds k suite deletes) :=
    (closeClient_atSite f).mono fun _ _ h => h.minds fun _ => id
  apply Along.bind (frameworkAt_along j)
  intro f
  apply Along.bind (hclose f)
  intro _
  exact update_minds j fun _ => rfl

theorem clearAway_minds {j : Nat} {testFailed : Bool}
    (hj : j = k → suite.deletesAfter testFailed = deletes) (before : Except (Fault τ) Unit) :
    (clearAway j testFailed before : BenchM τ ω κ (Report τ)).Along (Minds k suite deletes) := by
  apply Along.bind (deleteTracked_minds hj)
  intro report
  apply Along.bind (resetAt_minds j)
  intro _
  exact along_conclude _

section Runs

variable {r : Runner τ ω κ} (hb : ∀ owner body, (r.perform owner body).Along (Minds k suite deletes))

include hb

theorem partRules_of_minds (j : Nat) : PartRules r j (Minds k suite deletes) where
  site _ _ := AtSite.minds_of_neutral
  adjust _ hg := update_minds j fun f => congrArg (·.suite) (hg.settings f)
  body := hb (some j)

theorem beforeEach_minds (j : Nat) (component : Option String) :
    (beforeEach r j component).Along (Minds k suite deletes) := by
  have hrules : SetupRules r j (Minds k suite deletes) :=
    { partRules_of_minds hb j with create := createNamespace_minds j }
  exact hrules.beforeEach (enroll_minds j) component

theorem afterEach_minds {j : Nat} {testFailed : Bool}
    (hj : j = k → suite.deletesAfter testFailed = deletes) :
    (afterEach r j testFailed).Along (Minds k suite deletes) :=
  (partRules_of_minds hb j).afterEach (withdraw_minds j) (clearAway_minds hj)

omit hb [Seconds τ] [Host τ ω] in
theorem minds_entered (b : Bench τ ω κ) (entered : List Nat) :
    Minds k suite deletes b { b with trial := { b.trial with entered } } :=
  fun hb => ⟨hb, rfl, [], (List.append_nil _).symm, .nil⟩

/-- A framework is set up for a test. If that fails, it is torn down as one of a failed test. -/
theorem enter_minds {j : Nat} {b : Bench τ ω κ}
    (hj : j = k → (∃ e, ((beforeEach r j (some b.trial.nodeId)).run b).1 = .error e) →
      suite.deletesAfter true = deletes) :
    Ends (enter r j) b fun _ b' => Minds k suite deletes b b' := by
  apply enter_ends minds_entered (beforeEach_minds hb j _ b)
  intro b' e hrun
  have hfails : ∃ e, ((beforeEach r j (some b.trial.nodeId)).run b).1 = .error e :=
    ⟨e, by rw [hrun]⟩
  exact cleanUpFailedSetup_along (fun _ _ => AtSite.minds_of_neutral)
    (afterEach_minds hb fun heq => hj heq hfails) b'

/-- A test is left. Its frameworks are torn down as its reports say. -/
theorem leaveAll_minds {b : Bench τ ω κ} (hflag : suite.deletesAfter b.trial.hasFailed = deletes) :
    Ends (leaveAll r) b fun _ b' => Minds k suite deletes b b' := by
  let inv (b' : Bench τ ω κ) : Prop :=
    b'.suiteAt k = some suite ∧ b'.trial.hasFailed = b.trial.hasFailed
  have hinv (b₁ b₂ : Bench τ ω κ) (h : Minds k suite deletes b₁ b₂) (h₁ : inv b₁) : inv b₂ := by
    refine ⟨(h h₁.1).suite, ?_⟩
    rw [← h₁.2, Trial.hasFailed, Trial.hasFailed, (h h₁.1).reports]
  intro hsuite
  refine leaveLatest_ends minds_entered inv hinv ?_ _ _ b ⟨hsuite, rfl⟩ hsuite
  intro j b₁ h₁
  apply afterEach_minds hb
  intro _
  rw [h₁.2, hflag]

/-- The registry is drained. What it tears down, it tears down as for a failed test. -/
theorem drain_minds {b : Bench τ ω κ}
    (hflag : ∀ h, (h, .teardown k) ∈ b.registry.live → suite.deletesAfter true = deletes) :
    Ends (drain r) b fun _ b' => Minds k suite deletes b b' := by
  have hs : ∀ b b' : Bench τ ω κ, AtSite Call.IsNeutral b b' → Minds k suite deletes b b' :=
    fun _ _ => AtSite.minds_of_neutral
  have hlog (level : Level) (name : String) (fields : List (String × Detail τ)) :
      (onSite (Site.log level name fields) : BenchM τ ω κ Unit).Along (Minds k suite deletes) :=
    onSite_along hs (Site.makes_log _ _ _)
  apply drain_ends hlog (takeDuties_minds b)
  rintro ⟨handle, duty⟩ hlive
  apply dischargeOne_along enterJournal_minds
  cases duty with
  | act a => exact act_along hs (hb none) a
  | teardown j =>
    apply abortTeardown_along hlog
    apply afterEach_minds hb
    rintro rfl
    exact hflag handle hlive

end Runs

/-- One part of a run in which a framework with this suite may be torn down, on such ways only as
pass a flag for which the suite decides as it should. -/
inductive Episode (r : Runner τ ω κ) (k : Nat) (suite : Config.Suite τ) (deletes : Bool) :
    Bench τ ω κ → Bench τ ω κ → Prop where
  | setUp (b : Bench τ ω κ) (j : Nat) (component : Option String) :
      Episode r k suite deletes b ((beforeEach r j component).run b).2
  | tearDown (b : Bench τ ω κ) (j : Nat) (testFailed : Bool)
      (decides : j = k → suite.deletesAfter testFailed = deletes) :
      Episode r k suite deletes b ((afterEach r j testFailed).run b).2
  | enter (b : Bench τ ω κ) (j : Nat)
      (decides : j = k → (∃ e, ((beforeEach r j (some b.trial.nodeId)).run b).1 = .error e) →
        suite.deletesAfter true = deletes) :
      Episode r k suite deletes b ((enter r j).run b).2
  | report (b : Bench τ ω κ) (phase : String) (failed : Bool) :
      Episode r k suite deletes b { b with trial := b.trial.report phase failed }
  | leave (b : Bench τ ω κ) (decides : suite.deletesAfter b.trial.hasFailed = deletes) :
      Episode r k suite deletes b ((leaveAll r).run b).2
  | drain (b : Bench τ ω κ)
      (decides : ∀ h, (h, .teardown k) ∈ b.registry.live → suite.deletesAfter true = deletes) :
      Episode r k suite deletes b ((drain r).run b).2
  | work (b : Bench τ ω κ) (x : BenchM τ ω κ Unit) (minds : x.Along (Minds k suite deletes)) :
      Episode r k suite deletes b (x.run b).2

/-- The framework keeps its suite, and what was done in between abides by it. -/
def Abides (k : Nat) (suite : Config.Suite τ) (deletes : Bool) (b b' : Bench τ ω κ) : Prop :=
  b'.suiteAt k = some suite ∧
    ∃ new, b'.site.events = b.site.events ++ new ∧ Owned k deletes new

variable {r : Runner τ ω κ} {b b' : Bench τ ω κ}

theorem Episode.abides (hb : ∀ owner body, (r.perform owner body).Along (Minds k suite deletes))
    (h : Episode r k suite deletes b b') (hsuite : b.suiteAt k = some suite) :
    Abides k suite deletes b b' := by
  have of_minds {b' : Bench τ ω κ} (hminds : Minds k suite deletes b b') :
      Abides k suite deletes b b' := ⟨(hminds hsuite).suite, (hminds hsuite).events⟩
  cases h with
  | setUp j component => exact of_minds (beforeEach_minds hb j component b)
  | tearDown j testFailed decides => exact of_minds (afterEach_minds hb decides b)
  | enter j decides => exact of_minds (enter_minds hb decides)
  | report phase failed => exact ⟨hsuite, [], (List.append_nil _).symm, .nil⟩
  | leave decides => exact of_minds (leaveAll_minds hb decides)
  | drain decides => exact of_minds (drain_minds hb decides)
  | work x minds => exact of_minds (minds b)

/-- Any number of episodes. -/
theorem Episode.run_abides (hb : ∀ owner body, (r.perform owner body).Along (Minds k suite deletes))
    (h : Relation.ReflTransGen (Episode r k suite deletes) b b') (hsuite : b.suiteAt k = some suite) :
    Abides k suite deletes b b' := by
  induction h with
  | refl => exact ⟨hsuite, [], (List.append_nil _).symm, .nil⟩
  | tail _ episode ih =>
    obtain ⟨hsuite₁, new, hnew, howned⟩ := ih
    obtain ⟨hsuite₂, later, hlater, howned'⟩ := episode.abides hb hsuite₁
    refine ⟨hsuite₂, new ++ later, ?_, howned.append howned'⟩
    rw [hlater, hnew, List.append_assoc]

/-- What a teardown does with the namespaces of a framework that it comes to on this bench, among
these events and with this end. -/
structure Decides (k : Nat) (f : Framework τ κ) (testFailed : Bool) (c : Bench τ ω κ)
    (new : List (Event τ)) (ending : Except (Fault τ) (Report τ)) : Prop where
  keeps : f.suite.deletesAfter testFailed = false →
    (∀ e ∈ new, e.isDeletion = false) ∧ .log (skipEntry f) ∈ new ∧
      ∀ report, ending = .ok report →
        report.skipped = some (skipReason f.suite) ∧ report.attempted = []
  deletes : f.suite.deletesAfter testFailed = true →
    ∃ attempts, Deletes k f testFailed c new ending attempts

omit [Seconds τ] [Host τ ω] in
/-- A framework whose teardown was taken back is there. -/
theorem withdraw_present (k : Nat) (b : Bench τ ω κ) :
    Ends (withdraw k : BenchM τ ω κ Unit) b fun ending b' =>
      ending = .ok () → ∃ f, b'.frameworks[k]? = some f := by
  apply Ends.bind (frameworkAt_found k b)
  · intro f b hends
    obtain ⟨rfl, hf⟩ := hends
    apply Ends.bind_ok (unregister_ends f.handle b)
    intro b₁ h₁
    obtain ⟨new, hadds, _⟩ := h₁.adds
    apply (update_ends k _ b₁).mono
    rintro _ b₂ ⟨_, _, hframeworks⟩ _
    rw [hframeworks, hadds.frameworks, List.getElem?_modify_eq, hf]
    exact ⟨_, rfl⟩
  · rintro e b₁ _ hok
    cases hok

/-- What comes after the deletions without a part in them. -/
theorem Decides.append {k : Nat} {f : Framework τ κ} {testFailed : Bool} {c : Bench τ ω κ}
    {new later : List (Event τ)} {ending ending' : Except (Fault τ) (Report τ)}
    (h : Decides k f testFailed c new ending)
    (hlater : ∀ e ∈ later, e.Among fun c => c.isDeletion = false)
    (hending : ∀ report, ending' = .ok report → ending = .ok report) :
    Decides k f testFailed c (new ++ later) ending' where
  keeps hkeeps := by
    obtain ⟨hrequests, hentry, hreport⟩ := h.keeps hkeeps
    refine ⟨?_, List.mem_append_left _ hentry, fun report heq => hreport report (hending report heq)⟩
    intro e he
    exact (List.mem_append.1 he).elim (hrequests e) fun he => (hlater e he).isDeletion fun _ => id
  deletes hdeletes := by
    obtain ⟨attempts, hdone⟩ := h.deletes hdeletes
    exact ⟨attempts, hdone.append hlater hending⟩

/-- The tracked namespaces are kept or deleted as the suite says. -/
theorem deleteTracked_decides {k : Nat} {f : Framework τ κ} {c : Bench τ ω κ}
    (hf : c.frameworks[k]? = some f) (testFailed : Bool) :
    Ends (deleteTracked k testFailed) c fun ending c' =>
      ∃ new, Adds new c c' ∧ Decides k f testFailed c new ending := by
  cases hflag : f.suite.deletesAfter testFailed with
  | true =>
    apply (deleteTracked_deletes hf hflag).mono
    intro ending c' hends
    obtain ⟨new, hadds, hdone⟩ := hends
    refine ⟨new, hadds, ?_, fun _ => hdone⟩
    rw [hflag]
    rintro ⟨⟩
  | false =>
    apply (deleteTracked_keeps hf hflag).mono
    intro _ c' hends
    obtain ⟨rfl, hsame, hkept⟩ := hends
    refine ⟨_, hsame.adds hkept, ?_, ?_⟩
    · intro _
      refine ⟨by simp [keeping, Event.isDeletion], by simp [keeping], ?_⟩
      rintro report ⟨⟩
      exact ⟨rfl, rfl⟩
    · rw [hflag]
      rintro ⟨⟩

/-- The deletions of a teardown, and the reset after them, decide as the suite says. -/
theorem clearAway_decides {k : Nat} {f : Framework τ κ} {c : Bench τ ω κ}
    (hf : c.frameworks[k]? = some f) (testFailed : Bool) (before : Except (Fault τ) Unit) :
    Ends (clearAway k testFailed before) c fun ending c' =>
      ∃ new, c'.site.events = c.site.events ++ new ∧ Decides k f testFailed c new ending :=
  clearAway_keeps (deleteTracked_decides hf testFailed) Decides.append before

/-- A teardown whose winding up has ended clears away from there on, and records its span. -/
theorem afterEach_reaches (r : Runner τ ω κ) (k : Nat) (testFailed : Bool) (b : Bench τ ω κ) :
    Ends (afterEach r k testFailed) b fun ending b' => ∀ before c,
      (do withdraw k; (windUp r k testFailed).attempt).run b = (.ok before, c) →
        ((clearAway k testFailed before).run c).1 = ending ∧
          ∃ ended, Adds [.span ended] ((clearAway k testFailed before).run c).2 b' := by
  have hwithdraw : Ends (withdraw k : BenchM τ ω κ Unit) b fun ending b₁ =>
      (withdraw k).run b = (ending, b₁) ∧ (ending = .ok () → ∃ f, b₁.frameworks[k]? = some f) :=
    ⟨rfl, withdraw_present k b⟩
  apply Ends.bind hwithdraw
  · rintro ⟨⟩ b₁ ⟨hrun, hpresent⟩
    obtain ⟨f, hf⟩ := hpresent rfl
    apply Ends.bind_ok (frameworkAt_ends hf)
    rintro b₁ rfl
    have hconclude : Ends (conclude r k testFailed) b₁ fun ending c' => ∀ before c,
        (windUp r k testFailed).run b₁ = (before, c) →
          (clearAway k testFailed before).run c = (ending, c') := by
      have hwindUp : Ends (windUp r k testFailed) b₁ fun before c =>
          (windUp r k testFailed).run b₁ = (before, c) := rfl
      apply Ends.bind_attempt hwindUp
      intro before c hwound before' c' hwound'
      rw [hwound, Prod.mk.injEq] at hwound'
      rw [← hwound'.1, ← hwound'.2]
    apply Ends.bind_attempt hconclude
    intro ending c' hclear
    apply Ends.bind_ok (record_adds _ c')
    intro b' h' before c hreach
    rw [run_bind, hrun] at hreach
    dsimp only at hreach
    rw [run_attempt, Prod.mk.injEq, Except.ok.injEq] at hreach
    rw [hclear before c (Prod.ext hreach.1 hreach.2)]
    exact ⟨rfl, _, h'⟩
  · rintro e b₁ ⟨hrun, _⟩ before c hreach
    rw [run_bind, hrun] at hreach
    cases hreach

/-- Kept namespaces are never deleted, and all others are attempted. Over every run whose teardowns
of a framework come about in such ways only that its suite decides alike for the flags they pass: if
it decides to keep, no deletion is requested on behalf of that framework, and if it decides to
delete, none of its namespaces is kept. A single teardown that comes to its namespaces decides by its
flag: it deletes nothing, says so in its log with all names, and returns the reason; or it asks the
cluster for all names and reports them as attempted, as long as the deletions raise nothing but
ordinary faults. The flag is that of a failed test after a failed setup, and what the reports say at
the end of a test. -/
theorem kept_namespaces_spared (r : Runner τ ω κ) (k : Nat) :
    (∀ suite deletes b b',
      (∀ owner body, (r.perform owner body).Along (Minds k suite deletes)) →
      b.suiteAt k = some suite → Relation.ReflTransGen (Episode r k suite deletes) b b' →
      ∃ new, b'.site.events = b.site.events ++ new ∧ Owned k deletes new) ∧
    (∀ testFailed b before c f,
      (do withdraw k; (windUp r k testFailed).attempt).run b = (.ok before, c) →
      c.frameworks[k]? = some f →
      Ends (afterEach r k testFailed) b fun ending b' => ∃ new ended,
        b'.site.events = c.site.events ++ new ++ [.span ended] ∧
          Decides k f testFailed c new ending) ∧
    ((∀ owner body, (r.perform owner body).Along KeepsTest) → ∀ b,
      Ends (enter r k) b (fun _ b' => Course r b [.setUp k (.ok ())] b' ∨
        ∃ e ending, Course r b [.setUp k (.error e), .tearDown k true ending] b') ∧
      Ends (leaveAll r) b fun _ b' => ∃ downs, Course r b downs b' ∧
        downs.map Deed.tornDown? = b.trial.entered.map fun j => some (j, b.trial.hasFailed)) := by
  refine ⟨?_, ?_, ?_⟩
  · intro suite deletes b b' hb hsuite hrun
    exact (Episode.run_abides hb hrun hsuite).2
  · intro testFailed b before c f hreach hf
    apply (afterEach_reaches r k testFailed b).mono
    intro ending b' hends
    obtain ⟨rfl, ended, hadds⟩ := hends before c hreach
    obtain ⟨new, hnew, hdecides⟩ := clearAway_decides hf testFailed before
    exact ⟨new, ended, by rw [hadds.2, hnew], hdecides⟩
  · intro hb b
    refine ⟨(enter_course hb k b).mono ?_, (leaveLatest_tornDown hb _ _ b).mono ?_⟩
    · intro _ b' hout
      obtain ⟨_, ⟨_, hstands⟩ | ⟨_, hfails⟩⟩ := hout
      · exact .inl hstands
      · exact .inr hfails
    · intro _ b' hout
      obtain ⟨downs, hdowns⟩ := hout
      exact ⟨downs, hdowns.course, hdowns.order⟩

/-- A framework that keeps its namespaces after failed tests. -/
def careful : Bench Rat (Scripted.World Rat) (Body Rat) :=
  { Bench.start (.start 0 [] []) with
    frameworks := [.fresh
      { baseName := "web", options := .standard,
        suite := { Config.Suite.standard with deleteNamespaceOnFailure := false }, cluster := .stub,
        provider := none, customCreation := false, skipNamespace := false,
        skipServiceAccountWait := false, deletionTimeout := none } none] }

/-- It is set up for a test, the test fails, and it is torn down; nothing is left for a drain. Had
the test passed, its namespace would have been deleted. -/
theorem kept_namespaces_spared_failedTest :
    let entered := ((enter raisingFirst 0).run careful).2
    let reported := { entered with trial := entered.trial.report "call" true }
    let left := ((leaveAll raisingFirst).run reported).2
    let drained := ((drain raisingFirst).run left).2
    entered.trackedNames 0 = ["web-00001"] ∧
      (∃ new, drained.site.events = careful.site.events ++ new ∧ Owned 0 false new) ∧
      (∃ report, ((afterEach raisingFirst 0 true).run entered).1 = .ok report ∧
        report.skipped = some .keptOnFailure ∧ report.attempted = []) ∧
      (∃ report, ((afterEach raisingFirst 0 false).run entered).1 = .ok report ∧
        report.skipped = none ∧ report.attempted = ["web-00001"]) ∧
      ((requestsIn ((afterEach raisingFirst 0 false).run entered).2.site.events).map fun call =>
        match call with
        | .dispose name _ _ => name
        | _ => "") = ["web-00001"] ∧
      ∃ downs, Course raisingFirst reported downs left ∧
        downs.map Deed.tornDown? = [some (0, true)] := by
  intro entered reported left drained
  obtain ⟨hruns, hteardown, hflags⟩ :=
    kept_namespaces_spared (raisingFirst : Runner Rat (Scripted.World Rat) (Body Rat)) 0
  let suite : Config.Suite Rat := { Config.Suite.standard with deleteNamespaceOnFailure := false }
  have hrun : Relation.ReflTransGen (Episode raisingFirst 0 suite false) careful drained := by
    refine .tail (.tail (.tail (.single (.enter careful 0 ?_)) (.report entered "call" true))
      (.leave reported ?_)) (.drain left ?_)
    · exact fun _ _ => rfl
    · decide +kernel
    · exact fun _ _ => rfl
  let cleared (testFailed : Bool) := (do withdraw 0; (windUp raisingFirst 0 testFailed).attempt
    : BenchM Rat (Scripted.World Rat) (Body Rat) _).run entered
  have decided (testFailed : Bool) (hclears : (cleared testFailed).1.isOk = true)
      (hreturns : ((afterEach raisingFirst 0 testFailed).run entered).1.isOk = true)
      (f : Framework Rat (Body Rat)) (hf : (cleared testFailed).2.frameworks[0]? = some f) :
      ∃ report new, ((afterEach raisingFirst 0 testFailed).run entered).1 = .ok report ∧
        Decides 0 f testFailed (cleared testFailed).2 new (.ok report) := by
    obtain ⟨before, hbefore⟩ := exists_of_isOk hclears
    obtain ⟨report, hreport⟩ := exists_of_isOk hreturns
    obtain ⟨new, ended, _, hdecides⟩ :=
      hteardown testFailed entered before _ f (Prod.ext hbefore rfl) hf
    exact ⟨report, new, hreport, hreport ▸ hdecides⟩
  refine ⟨by decide +kernel, hruns suite false careful drained raisingFirst_along rfl hrun, ?_, ?_,
    by decide +kernel, ?_⟩
  · have hkeeps : (cleared true).2.frameworks[0]?.map (fun f => (f.suite.deletesAfter true,
        skipReason f.suite)) = some (false, .keptOnFailure) := by decide +kernel
    obtain ⟨f, hf, hsuite⟩ := Option.map_eq_some_iff.1 hkeeps
    obtain ⟨hflag, hreason⟩ := Prod.mk.inj hsuite
    obtain ⟨report, new, hreport, hdecides⟩ :=
      decided true (by decide +kernel) (by decide +kernel) f hf
    obtain ⟨_, _, hskips⟩ := hdecides.keeps hflag
    obtain ⟨hskipped, hattempted⟩ := hskips report rfl
    exact ⟨report, hreport, by rw [hskipped, hreason], hattempted⟩
  · have hdeleted : ((deleteTracked 0 false).run (cleared false).2).1.isOk = true := by
      decide +kernel
    have hdeletes : (cleared false).2.frameworks[0]?.map (fun f => (f.suite.deletesAfter false,
        f.tracked.map (·.name))) = some (true, ["web-00001"]) := by decide +kernel
    obtain ⟨f, hf, hsuite⟩ := Option.map_eq_some_iff.1 hdeletes
    obtain ⟨hflag, hnames⟩ := Prod.mk.inj hsuite
    obtain ⟨report, new, hreport, hdecides⟩ :=
      decided false (by decide +kernel) (by decide +kernel) f hf
    obtain ⟨attempts, hdone⟩ := hdecides.deletes hflag
    obtain ⟨_, htries⟩ := hdone.tries
    obtain ⟨given, hgiven⟩ := exists_of_isOk hdeleted
    have hcalm := htries.isCalm (by rw [hgiven]; rfl)
    obtain ⟨_, _, hattempted, hskipped, honly⟩ := hdone.reported hcalm
    obtain rfl := honly report rfl
    exact ⟨report, hreport, hskipped, hattempted.trans hnames⟩
  · obtain ⟨downs, hcourse, horder⟩ := (hflags raisingFirst_along reported).2
    have hentered : reported.trial.entered = [0] := by decide +kernel
    have hfailed : reported.trial.hasFailed = true := by decide +kernel
    rw [hentered, hfailed] at horder
    exact ⟨downs, hcourse, horder⟩

end Framework

end Testbed
