import Testbed.Proofs.Clearing
import Testbed.Proofs.Conservation

/-!
# The ledger of a run

A framework deals with namespaces in three ways: its strategy is asked for one, it is passed some, and
a teardown clears away those that it tracks. The ledger of a run lists these dealings with what was
returned, passed and reported in each. It accounts for the whole run: between two dealings nothing
comes into the custody of a framework or leaves it, and no call concerns namespaces as such.
-/

set_option autoImplicit false

namespace Testbed

open Proc Bench Framework

variable {τ ω κ : Type}

/-- The names that an entry of the log lists. -/
def LogEntry.namespaces (entry : LogEntry τ) : List String :=
  match entry.fields.lookup "namespaces" with
  | some (.value v) => v.items.filterMap Value.text?
  | _ => []

/-- The names that are listed where a deletion was skipped. -/
def namesSkipped (events : List (Event τ)) : List String :=
  events.flatMap fun e =>
    match e with
    | .log entry =>
      if entry.name = "after_each.namespace_deletion_skipped" then entry.namespaces else []
    | _ => []

/-- A framework that keeps its namespaces lists them. -/
theorem namesSkipped_keeping (k : Nat) (f : Framework τ κ) :
    namesSkipped (f.keeping k) = f.tracked.map (·.name) := by
  have hread (names : List String) : (Value.ofTexts names).items.filterMap Value.text? = names := by
    show (names.map Value.text).filterMap Value.text? = names
    induction names with
    | nil => rfl
    | cons name rest ih =>
      rw [List.map_cons, List.filterMap_cons, ih]
      rfl
  have hlisted : (skipEntry f).namespaces = f.tracked.map (·.name) := hread _
  calc namesSkipped (f.keeping k)
    _ = (skipEntry f).namespaces ++ [] := rfl
    _ = f.tracked.map (·.name) := by rw [List.append_nil, hlisted]

/-- A dealing of a framework with namespaces. -/
inductive Dealing (τ : Type) where
  /-- Its strategy is asked for a namespace, and ends like this. -/
  | asked (outcome : Except (Fault τ) (Option Namespace.Record))
  /-- It is passed these namespaces. -/
  | passed (records : List (Option Namespace.Record))
  /-- A teardown clears away what it tracks, with this report, among these events. -/
  | cleared (report : Report τ) (events : List (Event τ))

namespace Dealing

/-- The names of the namespaces that were returned, that came inside a fault of a creation, or that
were passed. -/
def received : Dealing τ → List String
  | .asked (.ok record) => record.toList.map (·.name)
  | .asked (.error (.creation _ _ leftover _)) => leftover.toList.map (·.name)
  | .passed records => (records.filterMap id).map (·.name)
  | _ => []

/-- The names that were reported as attempted. -/
def attempted : Dealing τ → List String
  | .cleared report _ => report.attempted
  | _ => []

/-- The names that were listed by a teardown that skipped the deletion. -/
def listed : Dealing τ → List String
  | .cleared report events => if report.skipped.isSome then namesSkipped events else []
  | _ => []

theorem received_asked (outcome : Except (Fault τ) (Option Namespace.Record)) :
    received (.asked outcome) = (handedOver outcome).toList.map (·.name) := by
  cases outcome with
  | ok record => rfl
  | error e => cases e <;> rfl

variable [Seconds τ] [Host τ ω]

/-- The dealing leads from one bench to a later one: it is what the framework does there. -/
inductive Leads (k : Nat) : Dealing τ → Bench τ ω κ → Bench τ ω κ → Prop
  | asked {f : Framework τ κ} {baseName : String} {labels : Labels} {b b₁ b' : Bench τ ω κ}
      {outcome : Except (Fault τ) (Option Namespace.Record)} (found : b.frameworks[k]? = some f)
      (strategy : (provide f baseName labels).run b = (outcome, b₁))
      (creates : (createNamespace k baseName labels).run b = (outcome, b')) :
      Leads k (.asked outcome) b b'
  | passed {records : List (Option Namespace.Record)} {b b' : Bench τ ω κ}
      (tracks : (trackEach k records).run b = (.ok (), b')) : Leads k (.passed records) b b'
  | cleared {f : Framework τ κ} {testFailed : Bool} {report : Report τ} {events : List (Event τ)}
      {b b₁ b' : Bench τ ω κ} (found : b.frameworks[k]? = some f)
      (deletes : (deleteTracked k testFailed).run b = (.ok report, b₁))
      (adds : b₁.site.events = b.site.events ++ events)
      (resets : (resetAt k).run b₁ = (.ok (), b')) : Leads k (.cleared report events) b b'

end Dealing

section

variable [Seconds τ] [Host τ ω]

/-- The dealings of a run and its history, from one bench to a later one. -/
inductive Ledger : Bench τ ω κ → List (Event τ) → List (Nat × Dealing τ) → Bench τ ω κ → Prop
  | rest {b b' : Bench τ ω κ} {new : List (Event τ)} (idles : Idles b b')
      (adds : b'.site.events = b.site.events ++ new) : Ledger b new [] b'
  | deal {k : Nat} {d : Dealing τ} {b b' : Bench τ ω κ} {new : List (Event τ)}
      (leads : d.Leads k b b') (adds : b'.site.events = b.site.events ++ new) :
      Ledger b new [(k, d)] b'
  | append {b b₁ b' : Bench τ ω κ} {new more : List (Event τ)} {dealings later : List (Nat × Dealing τ)}
      (first : Ledger b new dealings b₁) (second : Ledger b₁ more later b') :
      Ledger b (new ++ more) (dealings ++ later) b'
  | anew (b : Bench τ ω κ) : Ledger b [] [] b.restarted

end

/-- The dealings concern the same names as the changes of custody. -/
structure Accord (k : Nat) (dealings : List (Nat × Dealing τ)) (changes : List (Nat × Custody τ)) :
    Prop where
  received : namesOf Dealing.received k dealings = namesOf Custody.takenNames k changes
  attempted : namesOf Dealing.attempted k dealings = namesOf Custody.attemptedNames k changes
  listed : namesOf Dealing.listed k dealings = namesOf Custody.keptNames k changes

namespace Accord

variable {k : Nat} {dealings later : List (Nat × Dealing τ)} {changes more : List (Nat × Custody τ)}

theorem nil : Accord k ([] : List (Nat × Dealing τ)) [] := ⟨rfl, rfl, rfl⟩

theorem append (h : Accord k dealings changes) (h' : Accord k later more) :
    Accord k (dealings ++ later) (changes ++ more) where
  received := by rw [namesOf_append, namesOf_append, h.received, h'.received]
  attempted := by rw [namesOf_append, namesOf_append, h.attempted, h'.attempted]
  listed := by rw [namesOf_append, namesOf_append, h.listed, h'.listed]

/-- Dealings and changes of another framework. -/
theorem of_ne (hdealings : ∀ d ∈ dealings, d.1 ≠ k) (hchanges : ∀ c ∈ changes, c.1 ≠ k) :
    Accord k dealings changes := by
  constructor <;> rw [namesOf_of_ne hdealings, namesOf_of_ne hchanges]

/-- A dealing accords with changes of its own framework if their names agree. -/
theorem of_own {j : Nat} {d : Dealing τ} (hchanges : ∀ c ∈ changes, c.1 = j)
    (hreceived : d.received = namesOf Custody.takenNames j changes)
    (hattempted : d.attempted = namesOf Custody.attemptedNames j changes)
    (hlisted : d.listed = namesOf Custody.keptNames j changes) : Accord k [(j, d)] changes := by
  by_cases hj : j = k
  · subst hj
    exact ⟨by simpa [namesOf] using hreceived, by simpa [namesOf] using hattempted,
      by simpa [namesOf] using hlisted⟩
  · refine of_ne (by simpa using hj) ?_
    intro c hc
    rw [hchanges c hc]
    exact hj

end Accord

/-- What is handed to a framework accords with the change of custody that it is. -/
theorem Bench.HandsOver.accord {k j : Nat} {records : List Namespace.Record} {d : Dealing τ}
    {b b' : Bench τ ω κ} {new : List (Event τ)} (h : HandsOver j records b b')
    (hnew : b'.site.events = b.site.events ++ new) (hreceived : d.received = records.map (·.name))
    (hattempted : d.attempted = []) (hlisted : d.listed = []) :
    Accord k [(j, d)] (custodies new) := by
  obtain ⟨events, hevents, hcustody⟩ := h.custody
  rw [List.append_cancel_left (hnew.symm.trans hevents), hcustody]
  apply Accord.of_own
  · simp
  · simpa [namesOf, Custody.takenNames] using hreceived
  · simpa [namesOf, Custody.attemptedNames] using hattempted
  · simpa [namesOf, Custody.keptNames] using hlisted

section

variable [Seconds τ] [Host τ ω]

/-- What a teardown lists where it skips the deletion is what it keeps. -/
theorem Framework.deleteTracked_lists {k : Nat} {f : Framework τ κ} (testFailed : Bool)
    {b : Bench τ ω κ} (hf : b.frameworks[k]? = some f) :
    Ends (deleteTracked k testFailed) b fun r b' => ∀ report new, r = .ok report →
      b'.site.events = b.site.events ++ new →
      (Dealing.cleared report new).listed = namesOf Custody.keptNames k (custodies new) := by
  cases hflag : f.suite.deletesAfter testFailed with
  | true =>
    apply ((deleteTracked_tries hflag hf).and (deleteTracked_ends testFailed hf)).mono
    rintro r b' ⟨⟨_, attempts, htries, _, hall⟩, events, hadds, hrelease, _⟩ report new rfl hnew
    obtain ⟨_, _, ⟨⟩, _, hskipped⟩ := hall (htries.isCalm rfl)
    rw [hflag] at hrelease
    rw [List.append_cancel_left (hnew.symm.trans hadds.2), hrelease.none_kept, Dealing.listed,
      hskipped]
    rfl
  | false =>
    apply (deleteTracked_keeps hf hflag).mono
    rintro _ b' ⟨rfl, hsame, hkept⟩ report new ⟨⟩ hnew
    have hadds := hsame.adds hkept
    rw [List.append_cancel_left (hnew.symm.trans hadds.2)]
    show namesSkipped (f.keeping k) = _
    rw [namesSkipped_keeping]
    simp [keeping, namesOf, Custody.keptNames]

/-- A dealing accords with the changes of custody that it leaves. -/
theorem Dealing.Leads.accord {k j : Nat} {d : Dealing τ} {b b' : Bench τ ω κ} {new : List (Event τ)}
    (h : d.Leads j b b') (hnew : b'.site.events = b.site.events ++ new) :
    Accord k [(j, d)] (custodies new) := by
  cases h with
  | asked found strategy creates =>
    obtain ⟨_, _, _, _, h⟩ | ⟨_, hnone⟩ := (createNamespace_hands j _ _ b).of_run creates
    · exact h.accord hnew (received_asked _) rfl rfl
    · rw [found] at hnone
      cases hnone
  | passed tracks =>
    obtain ⟨_, h⟩ | ⟨⟨_, herror⟩, _⟩ := (trackEach_hands j _ b).of_run tracks
    · exact h.accord hnew rfl rfl rfl
    · cases herror
  | @cleared f testFailed report events _ b₁ _ found deletes adds resets =>
    obtain ⟨attempted, hadds, hrelease, hreport⟩ := (deleteTracked_ends testFailed found).of_run deletes
    obtain rfl := List.append_cancel_left (adds.symm.trans hadds.2)
    have hf₁ : b₁.frameworks[j]? = some f := by rw [hadds.frameworks, found]
    obtain ⟨later, hlater, hclosing, _⟩ := (resetAt_ends hf₁).of_run resets
    have hlisted := (deleteTracked_lists testFailed found).of_run deletes report events rfl adds
    have hcustody : custodies new = custodies events := by
      rw [List.append_cancel_left (hnew.symm.trans (hlater.2.trans (by rw [adds, List.append_assoc]))),
        custodies_append, custodies_closing hclosing, List.append_nil]
    rw [hcustody]
    apply Accord.of_own
    · intro c hc
      exact hrelease.framework_eq hc
    · exact (hrelease.none_taken j).symm
    · exact hreport report rfl
    · exact hlisted

/-- The ledger of a run accords with the changes of custody in its history. -/
theorem Ledger.accord {b b' : Bench τ ω κ} {new : List (Event τ)} {dealings : List (Nat × Dealing τ)}
    (h : Ledger b new dealings b') (k : Nat) : Accord k dealings (custodies new) := by
  induction h with
  | @rest b b' new idles adds =>
    obtain ⟨events, hevents, hamong⟩ := idles.1
    rw [List.append_cancel_left (adds.symm.trans hevents), custodies_eq_nil hamong]
    exact .nil
  | deal leads adds => exact leads.accord adds
  | append _ _ ih ih' =>
    rw [custodies_append]
    exact ih.append ih'
  | anew b => exact .nil

/-- The second bench is a later one of the same run, and unless a teardown was cut short on the way,
there is a ledger of what happened in between. -/
def Bench.IsRecorded (b b' : Bench τ ω κ) : Prop :=
  ∃ new, b'.site.events = b.site.events ++ new ∧
    (Undisturbed new → ∃ dealings, Ledger b new dealings b')

instance : IsPreorder (Bench τ ω κ) IsRecorded where
  refl b := ⟨[], (List.append_nil _).symm, fun _ =>
    ⟨[], .rest (refl_of Idles b) (List.append_nil _).symm⟩⟩
  trans := by
    rintro a b c ⟨new, hnew, hab⟩ ⟨later, hlater, hbc⟩
    refine ⟨new ++ later, by rw [hlater, hnew, List.append_assoc], ?_⟩
    intro hcalm
    rw [Undisturbed.append] at hcalm
    obtain ⟨dealings, hdealings⟩ := hab hcalm.1
    obtain ⟨others, hothers⟩ := hbc hcalm.2
    exact ⟨_, hdealings.append hothers⟩

theorem Bench.Idles.isRecorded {b b' : Bench τ ω κ} (h : Idles b b') : IsRecorded b b' := by
  obtain ⟨new, hnew, _⟩ := h.1
  exact ⟨new, hnew, fun _ => ⟨[], .rest h hnew⟩⟩

theorem Dealing.Leads.isRecorded {k : Nat} {d : Dealing τ} {b b' : Bench τ ω κ} {new : List (Event τ)}
    (h : d.Leads k b b') (hnew : b'.site.events = b.site.events ++ new) : IsRecorded b b' :=
  ⟨new, hnew, fun _ => ⟨_, .deal h hnew⟩⟩

namespace Framework

theorem createNamespace_isRecorded (k : Nat) (baseName : String) (labels : Labels) :
    (createNamespace k baseName labels
      : BenchM τ ω κ (Option Namespace.Record)).Along IsRecorded := by
  intro b
  apply ((ends_run _ b).and (createNamespace_hands k baseName labels b)).mono
  intro r b' hends
  obtain ⟨hrun, ⟨f, b₁, hf, hstrategy, h⟩ | ⟨rfl, _⟩⟩ := hends
  · obtain ⟨new, hnew, _⟩ := h.custody
    exact (Dealing.Leads.asked hf hstrategy hrun).isRecorded hnew
  · exact refl_of IsRecorded b'

theorem trackEach_isRecorded (k : Nat) (records : List (Option Namespace.Record)) :
    (trackEach k records : BenchM τ ω κ Unit).Along IsRecorded := by
  intro b
  apply ((ends_run _ b).and (trackEach_hands k records b)).mono
  intro r b' hends
  obtain ⟨hrun, ⟨rfl, h⟩ | ⟨_, rfl⟩⟩ := hends
  · obtain ⟨new, hnew, _⟩ := h.custody
    exact (Dealing.Leads.passed hrun).isRecorded hnew
  · exact refl_of IsRecorded b'

/-- A teardown that comes to the namespaces of its framework, and that is not cut short, clears them
away. -/
theorem clearAway_isRecorded (k : Nat) (testFailed : Bool) (before : Except (Fault τ) Unit) :
    (clearAway k testFailed before : BenchM τ ω κ (Report τ)).Along IsRecorded := by
  intro b
  cases hf : b.frameworks[k]? with
  | none =>
    apply (clearAway_found k testFailed before b).mono
    rintro r b' (⟨f, _, hsome, _⟩ | ⟨rfl, _⟩)
    · rw [hf] at hsome
      cases hsome
    · exact refl_of IsRecorded b'
  | some f =>
    apply Ends.bind ((ends_run _ b).and (deleteTracked_ends testFailed hf))
    · intro report b₁ hends
      obtain ⟨hdeletes, new, hadds, _, _⟩ := hends
      have hf₁ : b₁.frameworks[k]? = some f := by rw [hadds.frameworks, hf]
      apply Ends.bind ((ends_run _ b₁).and (resetAt_ends hf₁))
      · intro _ b₂ hends
        obtain ⟨hresets, later, hlater, _⟩ := hends
        have hevents : b₂.site.events = b.site.events ++ (new ++ later) := by
          rw [hlater.2, hadds.2, List.append_assoc]
        exact (Dealing.Leads.cleared hf hdeletes hadds.2 hresets).isRecorded hevents
      · intro e b₂ hends
        obtain ⟨_, later, hlater, _, hcut, _⟩ := hends
        refine ⟨new ++ later, by rw [hlater.2, hadds.2, List.append_assoc], ?_⟩
        intro hcalm
        obtain ⟨ev, hev, hshort⟩ := (hcut e rfl).2
        rw [(Undisturbed.append.1 hcalm).2 ev hev] at hshort
        cases hshort
    · intro e b₁ hends
      obtain ⟨_, new, hadds, hrelease, _⟩ := hends
      refine ⟨new, hadds.2, ?_⟩
      intro hcalm
      cases hrelease.ends_ok hcalm

/-- Every step of which operations consist is recorded in the ledger. -/
theorem isRecorded_rules : StepRules (IsRecorded : Bench τ ω κ → Bench τ ω κ → Prop) :=
  rules_of_idles (fun _ _ => Idles.isRecorded) createNamespace_isRecorded trackEach_isRecorded
    clearAway_isRecorded

end Framework

namespace Scenario

/-- A run of steps has a ledger, unless one of its teardowns is cut short. -/
theorem exists_ledger (s : Setting τ) (b : Bench τ ω (Body τ)) (steps : List (Step τ))
    (h : Undisturbed (history s b steps)) :
    ∃ dealings, Ledger b (history s b steps) dealings (benchAfter s b steps) := by
  induction steps generalizing b with
  | nil => exact ⟨[], .rest (refl_of Idles b) (List.append_nil _).symm⟩
  | cons step rest ih =>
    have hstep := perform_along s isRecorded_rules step b.restarted
    have hrecorded := Trace.of_ends (Q := fun _ events after =>
      Undisturbed events → ∃ dealings, Ledger b.restarted events dealings after) hstep
    have hcons : history s b (step :: rest) = (Trace.of (perform s step) b).events ++
        history s (Trace.of (perform s step) b).after rest := rfl
    rw [hcons, Undisturbed.append] at h
    obtain ⟨dealings, hfirst⟩ := hrecorded h.1
    obtain ⟨later, hrest⟩ := ih (Trace.of (perform s step) b).after h.2
    rw [hcons, benchAfter_cons]
    exact ⟨dealings ++ later, ((Ledger.anew b).append hfirst).append hrest⟩

/-- One framework tracks a namespace from outside and creates one, and an action that it defers
creates another one. Its test fails. A second framework, which is set to keep its namespaces, creates
one as well. Both are torn down, and the registry is drained. -/
def mixedSteps : List (Step Rat) :=
  [.build defaultName equipped,
   .build "other" { equipped with suite := some [("delete_namespace", .flag false)] },
   .track none [some ⟨"given", [], none⟩, none], .create none "web" [],
   .create (some "other") "kept" [], .defer none ⟨"late", [.create none "late" []]⟩,
   .afterEach none true, .afterEach (some "other") false, .drain]

/-- A stub on which the first deletion finds its namespace gone. -/
def forgetful : Scripted.World Rat :=
  .start 0 [("op.delete_namespace", [⟨some 1, 0, .raise .notFound⟩])] []

end Scenario

end

end Testbed
