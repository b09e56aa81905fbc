import Testbed.Proofs.AbortedSetup
import Testbed.Proofs.Conservation
import Testbed.Session.Run

/-!
# Teardowns that are aborted

A teardown takes its registration back before it deletes anything, and the first deletion that is
left by a fault which is not ordinary ends it. Nothing tears the framework down again: the registry
knows it no more when the run ends. So the namespaces behind that deletion are never attempted.
-/

set_option autoImplicit false

namespace Testbed

open Proc Bench Framework

variable {τ ω κ α : Type}

/-- The attempts on behalf of a framework among changes of custody, each with its end. -/
def attemptsOf (k : Nat) (changes : List (Nat × Custody τ)) :
    List (String × Except (Fault τ) Unit) :=
  changes.filterMap fun
    | (j, .attempted name ending) => if j = k then some (name, ending) else none
    | _ => none

@[simp] theorem attemptsOf_append (k : Nat) (changes later : List (Nat × Custody τ)) :
    attemptsOf k (changes ++ later) = attemptsOf k changes ++ attemptsOf k later :=
  List.filterMap_append

theorem attemptsOf_attemptsBy (k : Nat) (attempts : List (String × Except (Fault τ) Unit)) :
    attemptsOf k (attemptsBy k attempts) = attempts := by
  induction attempts with
  | nil => rfl
  | cons a rest ih =>
    have hcons : attemptsOf k (attemptsBy k (a :: rest)) =
        a :: attemptsOf k (attemptsBy k rest) := by simp [attemptsOf, attemptsBy]
    rw [hcons, ih]

/-- The attempts on behalf of a framework concern the names that it has attempted. -/
theorem namesOf_attempted (k : Nat) (changes : List (Nat × Custody τ)) :
    namesOf Custody.attemptedNames k changes = (attemptsOf k changes).map Prod.fst := by
  induction changes with
  | nil => rfl
  | cons c rest ih =>
    have hnames : namesOf Custody.attemptedNames k (c :: rest) =
        (if c.1 = k then c.2.attemptedNames else []) ++
          namesOf Custody.attemptedNames k rest := rfl
    rw [hnames, ih]
    obtain ⟨j, d⟩ := c
    cases d with
    | attempted name ending =>
      by_cases hj : j = k
      · simp [attemptsOf, Custody.attemptedNames, hj]
      · simp [attemptsOf, hj]
    | _ => simp [attemptsOf, Custody.attemptedNames]

/-- Changes of another framework's custody are no attempts on behalf of this one. -/
theorem attemptsOf_of_ne {k : Nat} {changes : List (Nat × Custody τ)} (h : ∀ c ∈ changes, c.1 ≠ k) :
    attemptsOf k changes = [] := by
  apply List.filterMap_eq_nil_iff.2
  rintro ⟨j, c⟩ hc
  cases c with
  | attempted name ending => exact if_neg (h _ hc)
  | _ => rfl

/-- Whether an attempt was left by a fault that is not ordinary. -/
def isCut : String × Except (Fault τ) Unit → Bool
  | (_, .error e) => !e.isOrdinary
  | (_, .ok _) => false

theorem exists_of_isCut {attempts : List (String × Except (Fault τ) Unit)} {i : Nat}
    (h : attempts[i]?.any isCut = true) :
    ∃ name e, attempts[i]? = some (name, .error e) ∧ e.isOrdinary = false := by
  rw [Option.any_eq_true] at h
  obtain ⟨⟨name, ending⟩, hi, hcut⟩ := h
  cases ending with
  | error e => exact ⟨name, e, hi, by simpa [isCut] using hcut⟩
  | ok _ => cases hcut

/-- The attempts of a teardown, of which one was cut: the teardown ends with a fault, and they cover
the names up to the place of that one. -/
theorem Release.attempts_cut {k : Nat} {names : List String} {deletes : Bool}
    {changes : List (Nat × Custody τ)} {ending : Except (Fault τ) Unit}
    (h : Release k names deletes changes ending) {i : Nat}
    (hcut : (attemptsOf k changes)[i]?.any isCut = true) :
    (∃ e, ending = .error e) ∧ (attemptsOf k changes).map Prod.fst = names.take (i + 1) := by
  obtain ⟨name, e, hi, he⟩ := exists_of_isCut hcut
  cases h with
  | kept => simp [attemptsOf] at hi
  | attempted sweep =>
    rw [attemptsOf_attemptsBy] at hi ⊢
    obtain ⟨hlength, hending⟩ := sweep.length_of_passing hi he
    refine ⟨⟨e, hending⟩, ?_⟩
    rw [sweep.attempted, hlength]

/-- A teardown that keeps the namespaces attempts nothing. -/
theorem Release.attemptsOf_eq_nil {k : Nat} {names : List String} {changes : List (Nat × Custody τ)}
    {ending : Except (Fault τ) Unit} (h : Release k names false changes ending) :
    attemptsOf k changes = [] := by
  cases h
  rfl

namespace Bench

/-- Nothing is deleted on behalf of a framework. -/
def Unattempted (k : Nat) (b b' : Bench τ ω κ) : Prop :=
  ∃ new, b'.site.events = b.site.events ++ new ∧ attemptsOf k (custodies new) = []

/-- The handle under which a framework knows its teardown, if the framework is there. -/
def handleAt (b : Bench τ ω κ) (k : Nat) : Option (Option Nat) :=
  b.frameworks[k]?.map (·.handle)

/-- Nothing is deleted on behalf of a framework, no teardown is registered for it, and it keeps its
handle. -/
structure Spares (k : Nat) (b b' : Bench τ ω κ) : Prop where
  unattempted : Unattempted k b b'
  live : ∀ h, (h, .teardown k) ∈ b'.registry.live → (h, .teardown k) ∈ b.registry.live
  handle : b'.handleAt k = b.handleAt k

/-- No teardown is registered for a framework. -/
def Unregistered (k : Nat) (b : Bench τ ω κ) : Prop :=
  ∀ h, (h, Duty.teardown k) ∉ b.registry.live

/-- A framework is there, and knows the handle of every teardown that is registered for it. -/
def Enrolled (k : Nat) (b : Bench τ ω κ) : Prop :=
  ∃ handle, b.handleAt k = some handle ∧
    ∀ h, (h, Duty.teardown k) ∈ b.registry.live → handle = some h

instance {k : Nat} : IsPreorder (Bench τ ω κ) (Unattempted k) where
  refl b := ⟨[], (List.append_nil _).symm, rfl⟩
  trans := by
    rintro a b c ⟨new, hnew, hnone⟩ ⟨later, hlater, hnone'⟩
    refine ⟨new ++ later, ?_, ?_⟩
    · rw [hlater, hnew, List.append_assoc]
    · rw [custodies_append, attemptsOf_append, hnone, hnone']
      rfl

/-- What a trace shows of a procedure that deletes nothing on behalf of a framework. -/
theorem unattempted_trace {k : Nat} {x : BenchM τ ω κ α} {b : Bench τ ω κ} {P : Bench τ ω κ → Prop}
    (h : Ends x b.restarted fun _ b' =>
      Unattempted k b.restarted b' ∧ P b') :
    attemptsOf k (custodies (Trace.of x b).events) = [] ∧ P (Trace.of x b).after := by
  apply Trace.of_ends (Q := fun _ events after => attemptsOf k (custodies events) = [] ∧ P after)
  apply h.mono
  rintro _ b' ⟨⟨new, hnew, hnone⟩, hp⟩
  exact ⟨new, hnew, hnone, hp⟩

instance {k : Nat} : IsPreorder (Bench τ ω κ) (Spares k) where
  refl b := ⟨refl_of (Unattempted k) b, fun _ h => h, rfl⟩
  trans := by
    intro a b c h h'
    refine ⟨trans_of (Unattempted k) h.unattempted h'.unattempted, ?_, ?_⟩
    · intro handle hlive
      exact h.live handle (h'.live handle hlive)
    · rw [h'.handle, h.handle]

section

variable {k j : Nat} {b b' : Bench τ ω κ}

theorem Spares.unregistered (h : Spares k b b') (hb : Unregistered k b) : Unregistered k b' :=
  fun handle hlive => hb handle (h.live handle hlive)

theorem Spares.enrolled (h : Spares k b b') (hb : Enrolled k b) : Enrolled k b' := by
  obtain ⟨handle, hhandle, hlive⟩ := hb
  refine ⟨handle, ?_, ?_⟩
  · rw [h.handle, hhandle]
  · intro n hn
    exact hlive n (h.live n hn)

theorem Adds.unattempted {new : List (Event τ)} (h : Adds new b b')
    (hnone : attemptsOf k (custodies new) = []) : Unattempted k b b' :=
  ⟨new, h.2, hnone⟩

theorem Adds.spares {new : List (Event τ)} (h : Adds new b b')
    (hnone : attemptsOf k (custodies new) = []) : Spares k b b' := by
  refine ⟨h.unattempted hnone, ?_, ?_⟩
  · intro handle hlive
    rwa [h.registry] at hlive
  · unfold handleAt
    rw [h.frameworks]

/-- What happens at the site alone is no attempt of any framework. -/
theorem AtSite.attemptless {calls : Call τ → Prop} (h : AtSite calls b b') (k : Nat) :
    ∃ new, Adds new b b' ∧ attemptsOf k (custodies new) = [] := by
  obtain ⟨new, hadds, hsilent⟩ := h.silent
  refine ⟨new, hadds, ?_⟩
  rw [hsilent]
  rfl

theorem AtSite.spares {calls : Call τ → Prop} (h : AtSite calls b b') : Spares k b b' := by
  obtain ⟨new, hadds, hnone⟩ := h.attemptless k
  exact hadds.spares hnone

theorem handleAt_modify_of_ne {g : Framework τ κ → Framework τ κ}
    (hg : b'.frameworks = b.frameworks.modify j g) (hj : j ≠ k) : b'.handleAt k = b.handleAt k := by
  unfold handleAt
  rw [hg, List.getElem?_modify_ne _ _ hj]

/-- A change of another framework, or one that leaves the handle. -/
theorem update_spares {g : Framework τ κ → Framework τ κ}
    (hg : j ≠ k ∨ ∀ f, (g f).handle = f.handle) :
    (update j g : BenchM τ ω κ Unit).Along (Spares k) := by
  intro b
  apply (update_ends j g b).mono
  rintro _ b' ⟨_, h, hframeworks⟩
  refine ⟨⟨[], h.2, rfl⟩, ?_, ?_⟩
  · intro handle hlive
    rwa [h.1] at hlive
  · by_cases hj : j = k
    · subst hj
      have hkeeps := hg.resolve_left (fun hne => hne rfl)
      unfold handleAt
      rw [hframeworks, List.getElem?_modify_eq]
      cases b.frameworks[j]? with
      | none => rfl
      | some f => exact congrArg some (hkeeps f)
    · exact handleAt_modify_of_ne hframeworks hj

end

end Bench

namespace Framework

variable {k : Nat}

/-- A framework that is registered anew, and was not registered before, knows its handle. -/
theorem enroll_enrolls {b : Bench τ ω κ} {f : Framework τ κ} (hf : b.frameworks[k]? = some f)
    (hidle : Unregistered k b) :
    Ends (enroll k : BenchM τ ω κ Unit) b fun _ b' => Unattempted k b b' ∧ Enrolled k b' := by
  apply Ends.bind_ok (register_ends (.teardown k) b)
  intro b₁ h₁
  obtain ⟨new, hadds, hnone⟩ := h₁.attemptless k
  apply (update_ends k _ b₁).mono
  rintro _ b₂ ⟨_, h₂, hframeworks⟩
  refine ⟨⟨new, ?_, hnone⟩, some (b.registry.add (.teardown k)).1, ?_, ?_⟩
  · rw [h₂.2, List.append_nil, hadds.2]
  · unfold handleAt
    rw [hframeworks, hadds.frameworks, List.getElem?_modify_eq, hf]
    rfl
  · intro h hlive
    rw [h₂.1, hadds.registry] at hlive
    obtain hold | hnew := List.mem_append.1 hlive
    · exact absurd hold (hidle h)
    · rw [List.mem_singleton, Prod.mk.injEq] at hnew
      rw [hnew.1]
      rfl

/-- A framework that knows its handle is not registered any more once it takes its teardown back. -/
theorem withdraw_unregisters {b : Bench τ ω κ} (henrolled : Enrolled k b) :
    Ends (withdraw k : BenchM τ ω κ Unit) b fun _ b' => Unattempted k b b' ∧ Unregistered k b' := by
  obtain ⟨handle, hhandle, hlive⟩ := henrolled
  obtain ⟨f, hf, rfl⟩ := Option.map_eq_some_iff.1 hhandle
  apply Ends.bind_ok (frameworkAt_ends hf)
  rintro b rfl
  apply Ends.bind_ok (unregister_ends f.handle b)
  intro b₁ h₁
  obtain ⟨new, hadds, hnone⟩ := h₁.attemptless k
  apply (update_ends k _ b₁).mono
  rintro _ b₂ ⟨_, h₂, _⟩
  refine ⟨⟨new, ?_, hnone⟩, ?_⟩
  · rw [h₂.2, List.append_nil, hadds.2]
  · intro h hmem
    rw [h₂.1, hadds.registry, Registry.live_without] at hmem
    obtain ⟨hmem, hne⟩ := List.mem_filter.1 hmem
    rw [hlive h hmem] at hne
    exact (bne_iff_ne.1 hne) rfl

/-- Taking back the teardown of another framework. -/
theorem withdraw_spares {j : Nat} (hj : j ≠ k) :
    (withdraw j : BenchM τ ω κ Unit).Along (Spares k) := by
  apply Along.bind (frameworkAt_along j)
  intro f b
  apply Ends.bind_ok (unregister_ends f.handle b)
  intro b₁ h₁
  have hspares : Spares k b b₁ := by
    apply trans_of (Spares k) (b := { b with registry := b.registry.without f.handle })
    · refine ⟨refl_of (Unattempted k) b, ?_, rfl⟩
      intro handle hlive
      rw [Registry.live_without] at hlive
      exact (List.mem_filter.1 hlive).1
    · exact h₁.spares
  apply (update_spares (.inl hj) b₁).mono
  intro _ b₂ h₂
  exact trans_of (Spares k) hspares h₂

variable [Seconds τ] [Host τ ω]

/-- The teardown of another framework attempts nothing on behalf of this one. -/
theorem clearAway_spares {j : Nat} (hj : j ≠ k) (testFailed : Bool)
    (before : Except (Fault τ) Unit) :
    (clearAway j testFailed before : BenchM τ ω κ (Report τ)).Along (Spares k) := by
  intro b
  apply (clearAway_found j testFailed before b).mono
  rintro r b' (⟨f, new, _, h⟩ | ⟨rfl, _⟩)
  · obtain ⟨ending, hrelease, hframeworks⟩ := h.release
    have hnone : attemptsOf k (custodies new) = [] := by
      apply attemptsOf_of_ne
      intro c hc
      rw [hrelease.framework_eq hc]
      exact hj
    have hsame (hb : b'.frameworks = b.frameworks) : b'.handleAt k = b.handleAt k := by
      unfold handleAt
      rw [hb]
    refine ⟨⟨new, h.continues.2, hnone⟩, ?_, ?_⟩
    · intro handle hlive
      rwa [h.continues.1] at hlive
    · cases ending with
      | error e => exact hsame hframeworks.2
      | ok _ =>
        obtain hreset | ⟨hb, _⟩ := hframeworks
        · exact handleAt_modify_of_ne hreset hj
        · exact hsame hb
  · exact refl_of (Spares k) b'

omit [Seconds τ] [Host τ ω] in
theorem takeCustody_spares (j : Nat) (records : List Namespace.Record) :
    (takeCustody j records : BenchM τ ω κ Unit).Along (Spares k) := by
  intro b
  apply (record_adds (.custody j (.taken records)) b).mono
  rintro _ b' ⟨_, h⟩
  exact h.spares rfl

/-- A creation deletes nothing, and leaves the registry. -/
theorem createNamespace_spares (j : Nat) (baseName : String) (labels : Labels) :
    (createNamespace j baseName labels
      : BenchM τ ω κ (Option Namespace.Record)).Along (Spares k) :=
  createNamespace_along (fun _ _ => AtSite.spares) (takeCustody_spares j)
    (fun _ => update_spares (.inr fun _ => rfl)) baseName labels

omit [Seconds τ] [Host τ ω] in
/-- Namespaces that are tracked from outside. -/
theorem trackEach_spares (j : Nat) (records : List (Option Namespace.Record)) :
    (trackEach j records : BenchM τ ω κ Unit).Along (Spares k) :=
  trackEach_along records (takeCustody_spares j _)
    (update_spares (.inr (handle_foldl_track records)))

section

variable {r : Runner τ ω κ} (hb : ∀ owner body, (r.perform owner body).Along (Spares k))

include hb

theorem spares_rules (j : Nat) : PartRules r j (Spares k) where
  site _ _ := AtSite.spares
  body := hb (some j)
  adjust _ hg := update_spares (.inr hg.handle)

/-- The setup of a framework that was not registered deletes nothing and makes its teardown
known. -/
theorem beforeEach_enrolls {b : Bench τ ω κ} {f : Framework τ κ} (hf : b.frameworks[k]? = some f)
    (hidle : Unregistered k b) (component : Option String) :
    Ends (beforeEach r k component) b fun _ b' => Unattempted k b b' ∧ Enrolled k b' := by
  have hrules : SetupRules r k (Spares k) :=
    { spares_rules hb k with create := createNamespace_spares k }
  apply hrules.beforeEach_ends (enroll_enrolls hf hidle)
  rintro b₁ b₂ ⟨hnone, henrolled⟩ h
  exact ⟨trans_of (Unattempted k) hnone h.unattempted, h.enrolled henrolled⟩

/-- Up to the deletions the teardown of a framework that knows its handle attempts nothing on behalf
of it; it is registered no more, and still there. -/
theorem woundUp_unregisters {b : Bench τ ω κ} (henrolled : Enrolled k b) (testFailed : Bool) :
    Unattempted k b (woundUp r k testFailed b).2 ∧ Unregistered k (woundUp r k testFailed b).2 ∧
      ∃ g, (woundUp r k testFailed b).2.frameworks[k]? = some g := by
  obtain ⟨handle, hhandle, _⟩ := id henrolled
  obtain ⟨f, hf, _⟩ := Option.map_eq_some_iff.1 hhandle
  obtain ⟨hnone, hunregistered⟩ := withdraw_unregisters henrolled
  have hwinds : Spares k ((withdraw k).run b).2 (woundUp r k testFailed b).2 :=
    (spares_rules hb k).windAlong (madeOf_windUp (fun _ _ => trivial) testFailed) _
  refine ⟨trans_of (Unattempted k) hnone hwinds.unattempted, hwinds.unregistered hunregistered, ?_⟩
  have hkept := hwinds.handle
  rw [handleAt, handleAt, (withdraw_ends hf).2] at hkept
  obtain ⟨g, hg, _⟩ := Option.map_eq_some_iff.1 hkept
  exact ⟨g, hg⟩

omit hb in
/-- Deletions of which one attempt was cut cover the names up to the place of that one, and end with
the fault that cut it. -/
theorem Deletes.cut {b : Bench τ ω κ} {f : Framework τ κ} {testFailed : Bool}
    {new : List (Event τ)} {ending : Except (Fault τ) (Report τ)} {attempts : List (Attempt τ)}
    (h : Deletes k f testFailed b new ending attempts) {i : Nat}
    (hcut : (attempts.map Attempt.outcome)[i]?.any isCut = true) :
    attempts.map Attempt.name = (f.tracked.map (·.name)).take (i + 1) ∧
      ∃ e, ((deleteTracked k testFailed).run b).1 = .error e ∧ e.isOrdinary = false := by
  obtain ⟨name, e, hi, he⟩ := exists_of_isCut hcut
  obtain ⟨t, htries⟩ := h.tries
  obtain ⟨hlength, hswept⟩ := htries.sweep.length_of_passing hi he
  have hnames := htries.sweep.attempted
  rw [hlength, List.map_map] at hnames
  refine ⟨hnames, e, ?_, he⟩
  cases hrun : ((deleteTracked k testFailed).run b).1 with
  | ok report =>
    rw [hrun] at hswept
    cases hswept
  | error e' =>
    rw [hrun] at hswept
    cases hswept
    rfl

/-- A teardown between these benches asks for the deletion of exactly these names, one after the
other, once it has wound up; then a fault that is not ordinary cuts its deletions. -/
def IsCutAfter (r : Runner τ ω κ) (k : Nat) (testFailed : Bool) (b b' : Bench τ ω κ)
    (names : List String) : Prop :=
  ∃ g new ended e, (woundUp r k testFailed b).2.frameworks[k]? = some g ∧
    b'.site.events = (woundUp r k testFailed b).2.site.events ++ new ++ [.span ended] ∧
    requestsIn new = names.flatMap (g.requests (deletionLimit g)) ∧
    ((deleteTracked k testFailed).run (woundUp r k testFailed b).2).1 = .error e ∧
    e.isOrdinary = false

/-- What the teardown of a framework leaves if one of its deletions is cut: the names are attempted
up to that one, all of them are tracked still, and no teardown is registered. -/
theorem afterEach_cut {b : Bench τ ω κ} (henrolled : Enrolled k b) (testFailed : Bool) :
    Ends (afterEach r k testFailed) b fun _ b' => ∃ new, b'.site.events = b.site.events ++ new ∧
      ∀ i, (attemptsOf k (custodies new))[i]?.any isCut = true → Unregistered k b' ∧
        (attemptsOf k (custodies new)).map Prod.fst = (b'.trackedNames k).take (i + 1) ∧
        IsCutAfter r k testFailed b b' ((b'.trackedNames k).take (i + 1)) := by
  obtain ⟨⟨first, hfirst, hnone⟩, hunregistered, g, hg⟩ :=
    woundUp_unregisters (r := r) hb henrolled testFailed
  obtain ⟨handle, hhandle, _⟩ := id henrolled
  obtain ⟨f, hf, _⟩ := Option.map_eq_some_iff.1 hhandle
  have hspan (ended : SpanRecord) : custodies [Event.span (τ := τ) ended] = [] := rfl
  apply afterEach_closes hf
  cases hflag : g.suite.deletesAfter testFailed with
  | false =>
    apply (clearAway_ends testFailed _ hg).mono
    rintro ending b₁ ⟨new, hcleared⟩ b₂ h₂
    obtain ⟨_, hrelease, _⟩ := hcleared.release
    rw [hflag] at hrelease
    refine ⟨first ++ new ++ _, by rw [h₂.2, hcleared.continues.2, hfirst, List.append_assoc,
      List.append_assoc, List.append_assoc], ?_⟩
    intro i hcut
    rw [custodies_append, custodies_append, hspan, List.append_nil, attemptsOf_append, hnone,
      hrelease.attemptsOf_eq_nil] at hcut
    cases hcut
  | true =>
    apply ((clearAway_ends testFailed _ hg).and (clearAway_deletes hg hflag _)).mono
    rintro ending b₁ ⟨⟨new, hcleared⟩, events, hevents, attempts, hdone⟩ b₂ h₂
    obtain rfl := List.append_cancel_left (hevents.symm.trans hcleared.continues.2)
    obtain ⟨_, hrelease, hframeworks⟩ := hcleared.release
    refine ⟨first ++ events ++ _, by rw [h₂.2, hevents, hfirst, List.append_assoc,
      List.append_assoc, List.append_assoc], ?_⟩
    intro i hcut
    rw [custodies_append, custodies_append, hspan, List.append_nil, attemptsOf_append, hnone,
      List.nil_append] at hcut ⊢
    obtain ⟨⟨e', rfl⟩, _⟩ := hrelease.attempts_cut hcut
    rw [hdone.custody, attemptsOf_attemptsBy] at hcut ⊢
    obtain ⟨hnames, e, hrun, he⟩ := hdone.cut hcut
    have htracked : b₂.trackedNames k = g.tracked.map (·.name) := by
      rw [h₂.trackedNames, ← trackedNames_of_some hg]
      unfold trackedNames
      rw [hframeworks.2]
    rw [htracked, ← hnames]
    refine ⟨?_, List.map_map, g, events, _, e, hg, by rw [h₂.2, hevents], ?_, hrun, he⟩
    · intro h hlive
      rw [h₂.registry, hcleared.continues.1] at hlive
      exact hunregistered h hlive
    · rw [hdone.requests, List.flatMap_map]

/-- A drain attempts nothing on behalf of a framework that is not registered. -/
theorem drain_spares {b : Bench τ ω κ} (hunregistered : Unregistered k b) :
    Ends (drain r) b fun _ b' => Spares k b b' := by
  have hs : ∀ b b' : Bench τ ω κ, AtSite Call.IsNeutral b b' → Spares k b b' :=
    fun _ _ => AtSite.spares
  have htake : Ends (takeDuties : BenchM τ ω κ (List (Nat × Duty κ))) b fun _ b' =>
      Spares k b b' := by
    refine ⟨refl_of (Unattempted k) b, ?_, rfl⟩
    intro h hlive
    cases hlive
  have hjournal (e : Registry.Entry (Duty κ) (Except (Fault τ) Unit)) :
      (enterJournal e : BenchM τ ω κ Unit).Along (Spares k) :=
    along_modify fun b => ⟨refl_of (Unattempted k) b, fun _ => id, rfl⟩
  apply drain_ends (fun _ _ _ => onSite_along hs (Site.makes_log _ _ _)) htake
  rintro ⟨handle, duty⟩ hd
  apply dischargeOne_along hjournal
  cases duty with
  | act a => exact act_along hs (hb none) a
  | teardown j =>
    have hj : j ≠ k := by
      rintro rfl
      exact hunregistered handle hd
    have hrules : TeardownRules r j (Spares k) :=
      { spares_rules hb j with
        withdraw := withdraw_spares hj
        clear := clearAway_spares hj }
    exact hrules.abortTeardown

end

/-- Of a framework whose teardown is cut in one of its deletions, the names up to that one have been
attempted when the run ends, whatever comes after the teardown: a drain of the registry does not
come back to it. So the rest is attempted only where it repeats these names. The cluster has been
asked for just these names in the teardown, and no report of it is left. -/
theorem cut_teardown_attempts {r : Runner τ ω κ} {b : Bench τ ω κ} {f : Framework τ κ}
    (hf : b.frameworks[k]? = some f) (hidle : Unregistered k b)
    (hb : ∀ owner body, (r.perform owner body).Along (Spares k))
    {test rest : BenchM τ ω κ Unit} (htest : test.Along (Spares k)) (hrest : rest.Along (Spares k))
    (component : Option String) (testFailed : Bool) :
    let setup := Trace.of (beforeEach r k component) b
    let used := Trace.of test setup.after
    let torn := Trace.of (afterEach r k testFailed) used.after
    let between := Trace.of rest torn.after
    let drained := Trace.of (drain r) between.after
    let tracked := torn.after.trackedNames k
    let attempted := namesOf Custody.attemptedNames k (custodies
      (setup.events ++ used.events ++ torn.events ++ between.events ++ drained.events))
    ∀ i, (attemptsOf k (custodies torn.events))[i]?.any isCut = true →
      attempted = tracked.take (i + 1) ∧
        ((∀ n ∈ tracked, n ∈ attempted) ↔ ∀ n ∈ tracked.drop (i + 1), n ∈ tracked.take (i + 1)) ∧
        IsCutAfter r k testFailed used.after.restarted torn.after (tracked.take (i + 1)) := by
  intro setup used torn between drained tracked attempted i hcut
  obtain ⟨hsetup, henrolled⟩ := unattempted_trace <|
    beforeEach_enrolls hb (b := b.restarted) hf hidle component
  obtain ⟨hused, henrolled⟩ := unattempted_trace (b := setup.after) <|
    (htest _).mono fun _ _ h => ⟨h.unattempted, h.enrolled henrolled⟩
  obtain ⟨hunregistered, hattempts, hasked⟩ := Trace.of_ends (Q := fun _ events after =>
    ∀ i, (attemptsOf k (custodies events))[i]?.any isCut = true → Unregistered k after ∧
      (attemptsOf k (custodies events)).map Prod.fst = (after.trackedNames k).take (i + 1) ∧
      IsCutAfter r k testFailed used.after.restarted after ((after.trackedNames k).take (i + 1)))
    (afterEach_cut hb (b := used.after.restarted) henrolled testFailed) i hcut
  obtain ⟨hbetween, hunregistered⟩ := unattempted_trace (b := torn.after) <|
    (hrest _).mono fun _ _ h => ⟨h.unattempted, h.unregistered hunregistered⟩
  obtain ⟨hdrained, _⟩ := unattempted_trace (b := between.after) <|
    (drain_spares hb (b := between.after.restarted) hunregistered).mono fun _ _ h =>
      ⟨h.unattempted, h.unregistered hunregistered⟩
  have hattempted : attempted = tracked.take (i + 1) := by
    show namesOf Custody.attemptedNames k _ = _
    rw [namesOf_attempted]
    simp only [custodies_append, attemptsOf_append]
    rw [hsetup, hused, hbetween, hdrained, List.append_nil, List.append_nil, List.nil_append,
      List.nil_append, hattempts]
  refine ⟨hattempted, ?_, hasked⟩
  rw [hattempted]
  constructor
  · intro hall n hn
    exact hall n (List.mem_of_mem_drop hn)
  · intro hrepeats n hn
    rw [← List.take_append_drop (i + 1) tracked] at hn
    exact (List.mem_append.1 hn).elim id (hrepeats n)

/-- A stub on which an interrupt hits the first deletion. -/
def interrupting : Scripted.World Rat :=
  .start 0 [("op.delete_namespace", [⟨some 1, 0, .raise (.plain .keyboardInterrupt [])⟩])] []

/-- A session of one test, which tracks a namespace of its own beside that of the setup. -/
def interruptedSession : Session Rat :=
  { options := {}, environment := [], host := .container, exitStatus := 2, live := false,
    provider := none, reached := true,
    tests := [⟨"t", some ⟨"Case", Scenario.equipped⟩, [.track none [some ⟨"spare", [], none⟩]],
      true⟩] }

/-- At the end of the session the second namespace is tracked still, and was never attempted. -/
theorem interruptedSession_leaves :
    let session := interruptedSession.run (Bench.start interrupting)
    let events := session.tests.flatMap (fun t => t.setup.events ++ t.body.flatMap (·.events) ++
      (t.teardown.map (·.events)).getD []) ++ session.finish.events
    namesOf Custody.attemptedNames 0 (custodies events) = ["web-00001"] ∧
      (requestsIn events).length = 1 ∧
      session.finish.after.trackedNames 0 = ["web-00001", "spare"] := by
  decide +kernel

theorem cut_teardown_attempts_first :
    let setup := Trace.of (beforeEach idleRunner 0 none) (lone .stub interrupting)
    let used := Trace.of (trackEach 0 [some ⟨"spare", [], none⟩]) setup.after
    let torn := Trace.of (afterEach idleRunner 0 false) used.after
    let between := Trace.of (pure () : BenchM Rat (Scripted.World Rat) Unit Unit) torn.after
    let drained := Trace.of (drain idleRunner) between.after
    let attempted := namesOf Custody.attemptedNames 0 (custodies
      (setup.events ++ used.events ++ torn.events ++ between.events ++ drained.events))
    (attemptsOf 0 (custodies torn.events))[0]?.any isCut = true ∧
      torn.after.trackedNames 0 = ["web-00001", "spare"] ∧
      attempted = (torn.after.trackedNames 0).take 1 ∧
      ((∀ n ∈ torn.after.trackedNames 0, n ∈ attempted) ↔
        ∀ n ∈ (torn.after.trackedNames 0).drop 1, n ∈ (torn.after.trackedNames 0).take 1) ∧
      IsCutAfter idleRunner 0 false used.after.restarted torn.after
        ((torn.after.trackedNames 0).take 1) := by
  intro setup used torn between drained attempted
  have hcut : (attemptsOf 0 (custodies torn.events))[0]?.any isCut = true := by decide +kernel
  have hidle : Unregistered 0 (lone .stub interrupting) := by
    intro h hlive
    cases hlive
  refine ⟨hcut, by decide +kernel, ?_⟩
  exact cut_teardown_attempts rfl hidle (fun _ _ => along_pure ()) (trackEach_spares 0 _)
    (along_pure ()) none false 0 hcut

end Framework

end Testbed
