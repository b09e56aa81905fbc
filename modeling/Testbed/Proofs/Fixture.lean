import Testbed.Proofs.Books
import Testbed.Proofs.Conservation

/-!
# The frameworks of a test

A test may ask for any number of frameworks. What then happens is told as a list of deeds: each is
one run of a setup or of a teardown, or something that the test does beside them. A `Course` says
that the deeds are all that happened between two benches, apart from log entries and from the
list of the frameworks that are to be torn down. The list of deeds is known: a setup that fails is
followed by a teardown at once, and the frameworks whose setup has succeeded are torn down after
the test, the latest first, however each of them ends.
-/

set_option autoImplicit false

namespace Testbed

open Proc Bench Framework

variable {τ ω κ α : Type}

namespace Bench

/-- The test is as it was, and no framework is gone. -/
structure KeepsTest (b b' : Bench τ ω κ) : Prop where
  trial : b'.trial = b.trial
  count : b.frameworks.length ≤ b'.frameworks.length

instance : IsPreorder (Bench τ ω κ) KeepsTest where
  refl _ := ⟨rfl, Nat.le_refl _⟩
  trans _ _ _ h h' := ⟨h'.trial.trans h.trial, Nat.le_trans h.count h'.count⟩

theorem KeepsBooks.keepsTest {b b' : Bench τ ω κ} (h : KeepsBooks b b') : KeepsTest b b' :=
  ⟨h.trial, h.count⟩

/-- The same frameworks are to be torn down after the test, and no framework is gone. -/
structure KeepsStack (b b' : Bench τ ω κ) : Prop where
  entered : b'.trial.entered = b.trial.entered
  count : b.frameworks.length ≤ b'.frameworks.length

instance : IsPreorder (Bench τ ω κ) KeepsStack where
  refl _ := ⟨rfl, Nat.le_refl _⟩
  trans _ _ _ h h' := ⟨h'.entered.trans h.entered, Nat.le_trans h.count h'.count⟩

theorem KeepsTest.keepsStack {b b' : Bench τ ω κ} (h : KeepsTest b b') : KeepsStack b b' :=
  ⟨congrArg _ h.trial, h.count⟩

/-- Only log entries were written, and the frameworks to be torn down may be others. -/
structure Aside (b b' : Bench τ ω κ) : Prop where
  rest : b' = { b with
    site := b'.site, trial := { b.trial with entered := b'.trial.entered } }
  world : b'.site.world = b.site.world
  logged : ∃ entries : List (LogEntry τ), b'.site.events = b.site.events ++ entries.map Event.log

theorem Aside.registry {b b' : Bench τ ω κ} (h : Aside b b') : b'.registry = b.registry := by
  rw [h.rest]

theorem Aside.refl (b : Bench τ ω κ) : Aside b b := ⟨rfl, rfl, [], (List.append_nil _).symm⟩

theorem Aside.trans {b b' b'' : Bench τ ω κ} (h : Aside b b') (h' : Aside b' b'') :
    Aside b b'' := by
  obtain ⟨entries, hentries⟩ := h.logged
  obtain ⟨later, hlater⟩ := h'.logged
  refine ⟨?_, ?_, entries ++ later, ?_⟩
  · rw [h'.rest, h.rest]
  · rw [h'.world, h.world]
  · rw [hlater, hentries, List.append_assoc, List.map_append]

/-- The list of the frameworks to be torn down is changed. -/
theorem aside_entered (b : Bench τ ω κ) (entered : List Nat) :
    Aside b { b with trial := { b.trial with entered } } :=
  ⟨rfl, rfl, [], (List.append_nil _).symm⟩

end Bench

/-- Something that happens while a test runs, with how it ended. -/
inductive Deed (τ ω κ : Type) where
  | work (x : BenchM τ ω κ Unit) (ending : Except (Fault τ) Unit)
  | build (x : BenchM τ ω κ Nat) (ending : Except (Fault τ) Nat)
  | setUp (framework : Nat) (ending : Except (Fault τ) Unit)
  | tearDown (framework : Nat) (testFailed : Bool) (ending : Except (Fault τ) (Report τ))

namespace Deed

/-- The framework of a setup. -/
def started? : Deed τ ω κ → Option Nat
  | .setUp k _ => some k
  | _ => none

/-- The framework of a setup that succeeded. -/
def standing? : Deed τ ω κ → Option Nat
  | .setUp k (.ok _) => some k
  | _ => none

/-- The framework of a teardown, with the outcome of the test that it is given. -/
def tornDown? : Deed τ ω κ → Option (Nat × Bool)
  | .tearDown k testFailed _ => some (k, testFailed)
  | _ => none

/-- The fault of a teardown. -/
def fault? : Deed τ ω κ → Option (Fault τ)
  | .tearDown _ _ (.error e) => some e
  | _ => none

variable [Seconds τ] [Host τ ω]

/-- The deed leads from one bench to another and ends as it says. -/
def Leads (r : Runner τ ω κ) (b b' : Bench τ ω κ) : Deed τ ω κ → Prop
  | .work x ending => x.run b = (ending, b')
  | .build x ending => x.run b = (ending, b')
  | .setUp k ending => (beforeEach r k (some b.trial.nodeId)).run b = (ending, b')
  | .tearDown k testFailed ending => (afterEach r k testFailed).run b = (ending, b')

end Deed

section

variable [Seconds τ] [Host τ ω]

/-- The deeds, in order, are all that happened. -/
inductive Course (r : Runner τ ω κ) : Bench τ ω κ → List (Deed τ ω κ) → Bench τ ω κ → Prop where
  | done {b b' : Bench τ ω κ} : Aside b b' → Course r b [] b'
  | next {b b₁ b₂ b' : Bench τ ω κ} {deed : Deed τ ω κ} {deeds : List (Deed τ ω κ)} :
      Aside b b₁ → deed.Leads r b₁ b₂ → Course r b₂ deeds b' → Course r b (deed :: deeds) b'

namespace Course

variable {r : Runner τ ω κ} {b b' b'' : Bench τ ω κ} {deeds later : List (Deed τ ω κ)}

theorem aside (h : Aside b b') (h' : Course r b' deeds b'') : Course r b deeds b'' := by
  cases h' with
  | done hrest => exact .done (h.trans hrest)
  | next hfirst hleads hrest => exact .next (h.trans hfirst) hleads hrest

/-- One deed, and nothing else. -/
theorem one {deed : Deed τ ω κ} (h : deed.Leads r b b') : Course r b [deed] b' :=
  .next (.refl b) h (.done (.refl b'))

end Course

end

namespace Framework

theorem update_keepsTest (k : Nat) (g : Framework τ κ → Framework τ κ) :
    (update k g : BenchM τ ω κ Unit).Along KeepsTest :=
  along_modify fun _ => ⟨rfl, Nat.le_of_eq (List.length_modify ..).symm⟩

/-- A change of the registry, and work at the site after it. -/
theorem keepsTest_of_registry {calls : Call τ → Prop}
    {registry : Registry (Duty κ) (Except (Fault τ) Unit)} {b b' : Bench τ ω κ}
    (h : AtSite calls { b with registry } b') : KeepsTest b b' :=
  ⟨h.keepsBooks.trial, h.keepsBooks.count⟩

theorem enroll_keepsTest (k : Nat) : (enroll k : BenchM τ ω κ Unit).Along KeepsTest := by
  have hregister : (register (.teardown k) : BenchM τ ω κ Nat).Along KeepsTest := by
    intro b
    apply (register_ends (.teardown k) b).mono
    rintro _ b' ⟨_, h⟩
    exact keepsTest_of_registry h
  exact hregister.bind fun _ => update_keepsTest k _

theorem withdraw_keepsTest (k : Nat) : (withdraw k : BenchM τ ω κ Unit).Along KeepsTest := by
  have hunregister (handle : Option Nat) :
      (unregister handle : BenchM τ ω κ Unit).Along KeepsTest := by
    intro b
    apply (unregister_ends handle b).mono
    rintro _ b' ⟨_, h⟩
    exact keepsTest_of_registry h
  exact (frameworkAt_along k).bind fun f =>
    (hunregister f.handle).bind fun _ => update_keepsTest k _

/-- What a teardown of several frameworks ends with: the fault of the one that was built first among
those whose teardown has one, as it leaves the generator of that framework. -/
def verdict (pending : Except (Fault τ) Unit) (downs : List (Deed τ ω κ)) : Except (Fault τ) Unit :=
  match downs.reverse.findSome? Deed.fault? with
  | some e => .error e.outOfGenerator
  | none => pending

theorem verdict_cons (pending : Except (Fault τ) Unit) (k : Nat) (testFailed : Bool)
    (ending : Except (Fault τ) (Report τ)) (downs : List (Deed τ ω κ)) :
    verdict pending (.tearDown k testFailed ending :: downs) =
      match ending with
      | .ok _ => verdict pending downs
      | .error e => verdict (.error e.outOfGenerator) downs := by
  unfold verdict
  rw [List.reverse_cons, List.findSome?_append]
  cases downs.reverse.findSome? Deed.fault? <;> cases ending <;> rfl

variable [Seconds τ] [Host τ ω]

/-- These frameworks are torn down in order, and nothing else happens. -/
structure TornDown (r : Runner τ ω κ) (b : Bench τ ω κ) (ks : List Nat)
    (pending res : Except (Fault τ) Unit) (b' : Bench τ ω κ) (downs : List (Deed τ ω κ)) : Prop where
  course : Course r b downs b'
  order : downs.map Deed.tornDown? = ks.map fun k => some (k, b.trial.hasFailed)
  result : res = verdict pending downs

variable {r : Runner τ ω κ}

theorem TornDown.nil {b : Bench τ ω κ} {pending : Except (Fault τ) Unit} :
    TornDown r b [] pending pending b [] := ⟨.done (.refl b), rfl, rfl⟩

/-- What comes aside before the first teardown changes nothing. -/
theorem TornDown.aside {b b₁ : Bench τ ω κ} {ks : List Nat} {pending res : Except (Fault τ) Unit}
    {b' : Bench τ ω κ} {downs : List (Deed τ ω κ)} (haside : Aside b b₁)
    (h : TornDown r b₁ ks pending res b' downs) : TornDown r b ks pending res b' downs := by
  refine ⟨h.course.aside haside, ?_, h.result⟩
  rw [h.order, haside.rest]
  rfl

variable (hb : ∀ owner body, (r.perform owner body).Along KeepsTest)

include hb

theorem beforeEach_keepsTest (k : Nat) (component : Option String) :
    (beforeEach r k component).Along KeepsTest :=
  (setupRules_of_books (fun _ _ => KeepsBooks.keepsTest) hb k).beforeEach (enroll_keepsTest k)
    component

theorem afterEach_keepsTest (k : Nat) (testFailed : Bool) :
    (afterEach r k testFailed).Along KeepsTest :=
  (teardownRules_of_books (fun _ _ => KeepsBooks.keepsTest) hb k
    (withdraw_keepsTest k)).afterEach testFailed

/-- The cleanup of a failed setup is one teardown, of a test that has failed. -/
theorem cleanUpFailedSetup_course (k : Nat) (b : Bench τ ω κ) :
    Ends (cleanUpFailedSetup r k) b fun _ b' =>
      KeepsTest b b' ∧ ∃ ending, Course r b [.tearDown k true ending] b' := by
  have hafter : Ends (afterEach r k true) b fun ending b' =>
      KeepsTest b b' ∧ (afterEach r k true).run b = (ending, b') :=
    ⟨afterEach_keepsTest hb k true b, rfl⟩
  have hteardown : Ends (do let _ ← afterEach r k true : BenchM τ ω κ Unit) b fun _ b' =>
      KeepsTest b b' ∧ ∃ ending, (afterEach r k true).run b = (ending, b') :=
    hafter.bind (fun report b' h => ⟨h.1, .ok report, h.2⟩) fun e b' h => ⟨h.1, .error e, h.2⟩
  apply hteardown.rescue
  · rintro _ b' ⟨hkeeps, ending, hrun⟩
    exact ⟨hkeeps, ending, .one hrun⟩
  · rintro e b₁ ⟨hkeeps, ending, hrun⟩
    apply Ends.ite
    · intro _
      have hnote (f : Framework τ κ) (fields : List (String × Detail τ)) :
          Ends (note f .error "framework.setup_cleanup_failed" fields : BenchM τ ω κ Unit) b₁
            fun _ b' => KeepsTest b₁ b' ∧ Aside b₁ b' :=
        ⟨⟨rfl, Nat.le_refl _⟩, rfl, rfl, [⟨.error, _, _⟩], Site.events_record _ b₁.site⟩
      apply Ends.bind (frameworkAt_found k b₁)
      · rintro f b₁ ⟨rfl, _⟩
        apply (hnote f _).mono
        rintro _ b' ⟨hkeeps', haside⟩
        exact ⟨trans_of KeepsTest hkeeps hkeeps', ending, .next (.refl b) hrun (.done haside)⟩
      · rintro e b₁ ⟨rfl, _⟩
        exact ⟨hkeeps, ending, .one hrun⟩
    · intro _
      exact ⟨hkeeps, ending, .one hrun⟩

/-- A framework is set up for the test: a setup that succeeds puts it on the list of those to be
torn down, and one that fails is followed by its teardown. -/
theorem enter_course (k : Nat) (b : Bench τ ω κ) :
    Ends (enter r k) b fun _ b' => b.frameworks.length ≤ b'.frameworks.length ∧
      (b'.trial.entered = k :: b.trial.entered ∧ Course r b [.setUp k (.ok ())] b' ∨
        b'.trial.entered = b.trial.entered ∧ ∃ e ending,
          Course r b [.setUp k (.error e), .tearDown k true ending] b') := by
  apply Ends.bind_ok (P := fun b₁ => b₁ = b) ⟨rfl, rfl⟩
  rintro b rfl
  have hbefore : Ends (beforeEach r k (some b.trial.nodeId)) b fun ending b₁ =>
      KeepsTest b b₁ ∧ (beforeEach r k (some b.trial.nodeId)).run b = (ending, b₁) :=
    ⟨beforeEach_keepsTest hb k _ b, rfl⟩
  apply Ends.bind_attempt hbefore
  rintro ending b₁ ⟨hkeeps, hrun⟩
  cases ending with
  | ok _ =>
    refine ⟨hkeeps.count, .inl ⟨?_, .next (.refl b) hrun (.done (aside_entered b₁ _))⟩⟩
    exact congrArg (k :: ·.entered) hkeeps.trial
  | error e =>
    have hcleanup := cleanUpFailedSetup_course hb k b₁
    have hend {b' : Bench τ ω κ}
        (h : KeepsTest b₁ b' ∧ ∃ ending, Course r b₁ [.tearDown k true ending] b') :
        b.frameworks.length ≤ b'.frameworks.length ∧ b'.trial.entered = b.trial.entered ∧
          ∃ e ending, Course r b [.setUp k (.error e), .tearDown k true ending] b' := by
      obtain ⟨hkeeps', ending, hcourse⟩ := h
      have hall := trans_of KeepsTest hkeeps hkeeps'
      exact ⟨hall.count, congrArg _ hall.trial, e, ending, .next (.refl b) hrun hcourse⟩
    apply Ends.bind hcleanup
    · intro _ b' h
      exact ⟨(hend h).1, .inr (hend h).2⟩
    · intro _ b' h
      exact ⟨(hend h).1, .inr (hend h).2⟩

/-- One framework is torn down, then the others, however the first teardown has ended. -/
theorem TornDown.cons {b b₂ : Bench τ ω κ} {k : Nat} {ks : List Nat}
    {pending res : Except (Fault τ) Unit} {b' : Bench τ ω κ} {downs : List (Deed τ ω κ)}
    {ending : Except (Fault τ) (Report τ)}
    (hrun : (afterEach r k b.trial.hasFailed).run b = (ending, b₂))
    (h : TornDown r b₂ ks (match ending with | .ok _ => pending | .error e => .error e.outOfGenerator)
      res b' downs) :
    TornDown r b (k :: ks) pending res b' (.tearDown k b.trial.hasFailed ending :: downs) := by
  have hkeeps := afterEach_keepsTest hb k b.trial.hasFailed b
  unfold Ends at hkeeps
  rw [hrun] at hkeeps
  refine ⟨.next (.refl b) hrun h.course, ?_, ?_⟩
  · rw [List.map_cons, List.map_cons, h.order, hkeeps.trial]
    rfl
  · rw [verdict_cons, h.result]
    cases ending <;> rfl

theorem leaveEach_tornDown (ks : List Nat) (pending : Except (Fault τ) Unit) (b : Bench τ ω κ) :
    Ends (leaveEach r pending ks) b fun res b' => ∃ downs, TornDown r b ks pending res b' downs := by
  induction ks generalizing pending b with
  | nil => exact ⟨[], .nil⟩
  | cons k rest ih =>
    apply Ends.bind_ok (P := fun b₁ => b₁ = b) ⟨rfl, rfl⟩
    rintro b rfl
    have hafter : Ends (afterEach r k b.trial.hasFailed) b fun ending b₂ =>
        (afterEach r k b.trial.hasFailed).run b = (ending, b₂) := rfl
    apply Ends.bind_attempt hafter
    intro ending b₂ hrun
    cases ending with
    | ok report =>
      apply (ih pending b₂).mono
      rintro res b' ⟨downs, h⟩
      exact ⟨_, .cons hb hrun h⟩
    | error e =>
      apply (ih (.error e.outOfGenerator) b₂).mono
      rintro res b' ⟨downs, h⟩
      exact ⟨_, .cons hb hrun h⟩

/-- However many frameworks are looked for, those on the list are torn down. -/
theorem leaveLatest_tornDown (n : Nat) (pending : Except (Fault τ) Unit) (b : Bench τ ω κ) :
    Ends (leaveLatest r n pending) b fun res b' =>
      ∃ downs, TornDown r b b.trial.entered pending res b' downs := by
  induction n generalizing pending b with
  | zero =>
    apply Ends.bind_ok (P := fun b₁ => b₁ = b) ⟨rfl, rfl⟩
    rintro b rfl
    apply Ends.bind_ok (P := fun b₁ => b₁ = { b with trial := { b.trial with entered := [] } })
      ⟨rfl, rfl⟩
    rintro _ rfl
    apply (leaveEach_tornDown hb _ pending _).mono
    rintro res b' ⟨downs, h⟩
    exact ⟨downs, h.aside (aside_entered b [])⟩
  | succ n ih =>
    apply Ends.bind_ok (P := fun b₁ => b₁ = b) ⟨rfl, rfl⟩
    rintro b rfl
    dsimp only
    cases hentered : b.trial.entered with
    | nil => exact ⟨[], .nil⟩
    | cons k rest =>
      let b₁ : Bench τ ω κ := { b with trial := { b.trial with entered := rest } }
      apply Ends.bind_ok (P := fun b' => b' = b₁) ⟨rfl, rfl⟩
      rintro _ rfl
      apply Ends.bind_attempt (P := fun ending b₂ => b₂.trial.entered = rest ∧
        (afterEach r k b₁.trial.hasFailed).run b₁ = (ending, b₂))
        ⟨congrArg _ (afterEach_keepsTest hb k _ b₁).trial, rfl⟩
      rintro ending b₂ ⟨hrest, hrun⟩
      cases ending with
      | ok report =>
        apply (ih pending b₂).mono
        rintro res b' ⟨downs, h⟩
        rw [hrest] at h
        exact ⟨_, (TornDown.cons hb hrun h).aside (aside_entered b rest)⟩
      | error e =>
        apply (ih (.error e.outOfGenerator) b₂).mono
        rintro res b' ⟨downs, h⟩
        rw [hrest] at h
        exact ⟨_, (TornDown.cons hb hrun h).aside (aside_entered b rest)⟩

end Framework

/-- What a test does: it asks for a framework, which is to be built in this way, or does something
else. -/
inductive Move (τ ω κ : Type) where
  | ask (build : BenchM τ ω κ Nat)
  | work (x : BenchM τ ω κ Unit)

namespace Move

/-- The move leaves the list of frameworks to be torn down alone, apart from the one that it asks
for, and that one is new. -/
def IsFair : Move τ ω κ → Prop
  | .ask build => ∀ b, Ends build b fun res b' => KeepsStack b b' ∧
      ∀ k, res = .ok k → b.frameworks.length ≤ k ∧ k < b'.frameworks.length
  | .work x => x.Along KeepsStack

/-- The deeds that a move consists of. A framework that is asked for is torn down at once, as of a
test that has failed, exactly if its setup fails. -/
inductive ConsistsOf : Move τ ω κ → List (Deed τ ω κ) → Prop where
  | work {x : BenchM τ ω κ Unit} {ending : Except (Fault τ) Unit} :
      ConsistsOf (.work x) [.work x ending]
  | unbuilt {build : BenchM τ ω κ Nat} {e : Fault τ} :
      ConsistsOf (.ask build) [.build build (.error e)]
  | standing {build : BenchM τ ω κ Nat} {k : Nat} :
      ConsistsOf (.ask build) [.build build (.ok k), .setUp k (.ok ())]
  | failed {build : BenchM τ ω κ Nat} {k : Nat} {e : Fault τ}
      {ending : Except (Fault τ) (Report τ)} :
      ConsistsOf (.ask build)
        [.build build (.ok k), .setUp k (.error e), .tearDown k true ending]

variable [Seconds τ] [Host τ ω]

/-- Makes a move. -/
def make (r : Runner τ ω κ) : Move τ ω κ → BenchM τ ω κ Unit
  | .ask build => do
    let k ← build
    enter r k
  | .work x => x

/-- The bench after moves, however each of them ended. -/
def after (r : Runner τ ω κ) (b : Bench τ ω κ) : List (Move τ ω κ) → Bench τ ω κ
  | [] => b
  | move :: rest => after r ((move.make r).run b).2 rest

/-- The deeds of moves. Those of each move happen before the move is left. -/
inductive Unfolds (r : Runner τ ω κ) :
    Bench τ ω κ → List (Move τ ω κ) → List (Deed τ ω κ) → Prop where
  | nil {b : Bench τ ω κ} : Unfolds r b [] []
  | cons {b : Bench τ ω κ} {move : Move τ ω κ} {rest : List (Move τ ω κ)}
      {deeds later : List (Deed τ ω κ)} : move.ConsistsOf deeds →
      Course r b deeds ((move.make r).run b).2 → Unfolds r ((move.make r).run b).2 rest later →
      Unfolds r b (move :: rest) (deeds ++ later)

/-- What deeds make of the list of frameworks to be torn down, with new frameworks between the two
numbers. -/
structure Stacks (deeds : List (Deed τ ω κ)) (b b' : Bench τ ω κ) : Prop where
  entered : b'.trial.entered = (deeds.filterMap Deed.standing?).reverse ++ b.trial.entered
  count : b.frameworks.length ≤ b'.frameworks.length
  started : ∀ k ∈ deeds.filterMap Deed.started?,
    b.frameworks.length ≤ k ∧ k < b'.frameworks.length
  increasing : (deeds.filterMap Deed.started?).Pairwise (· < ·)
  perm : (deeds.filterMap Deed.tornDown?).map Prod.fst ++ deeds.filterMap Deed.standing? |>.Perm
    (deeds.filterMap Deed.started?)

omit [Seconds τ] [Host τ ω] in
/-- Deeds without setups and teardowns. -/
theorem Stacks.of_none {deeds : List (Deed τ ω κ)} {b b' : Bench τ ω κ}
    (hstarted : deeds.filterMap Deed.started? = []) (hstanding : deeds.filterMap Deed.standing? = [])
    (htorn : deeds.filterMap Deed.tornDown? = []) (h : KeepsStack b b') : Stacks deeds b b' := by
  refine ⟨?_, h.count, ?_, ?_, ?_⟩
  · rw [hstanding, h.entered]
    rfl
  · simp [hstarted]
  · simp [hstarted]
  · simp [hstarted, hstanding, htorn]

omit [Seconds τ] [Host τ ω] in
theorem Stacks.trans {deeds later : List (Deed τ ω κ)} {b b' b'' : Bench τ ω κ}
    (h : Stacks deeds b b') (h' : Stacks later b' b'') : Stacks (deeds ++ later) b b'' := by
  refine ⟨?_, Nat.le_trans h.count h'.count, ?_, ?_, ?_⟩
  · rw [h'.entered, h.entered, List.filterMap_append, List.reverse_append, List.append_assoc]
  · intro k hk
    rw [List.filterMap_append, List.mem_append] at hk
    have hcount := h.count
    have hcount' := h'.count
    obtain hk | hk := hk
    · have := h.started k hk
      omega
    · have := h'.started k hk
      omega
  · rw [List.filterMap_append, List.pairwise_append]
    refine ⟨h.increasing, h'.increasing, ?_⟩
    intro j hj k hk
    have hbefore := (h.started j hj).2
    have hafter := (h'.started k hk).1
    omega
  · simp only [List.filterMap_append, List.map_append]
    have hswap := (List.perm_append_comm_assoc ((later.filterMap Deed.tornDown?).map Prod.fst)
      (deeds.filterMap Deed.standing?) (later.filterMap Deed.standing?)).append_left
      ((deeds.filterMap Deed.tornDown?).map Prod.fst)
    rw [← List.append_assoc, ← List.append_assoc _ _ (_ ++ _)] at hswap
    exact hswap.trans (h.perm.append h'.perm)

variable {r : Runner τ ω κ} (hb : ∀ owner body, (r.perform owner body).Along KeepsTest)

include hb

/-- One move. -/
theorem make_ends {move : Move τ ω κ} (hmove : move.IsFair) (b : Bench τ ω κ) :
    Ends (move.make r) b fun _ b' => ∃ deeds, move.ConsistsOf deeds ∧ Course r b deeds b' ∧
      Stacks deeds b b' := by
  cases move with
  | work x =>
    have hkeeps := hmove b
    exact ⟨_, .work, .one rfl, .of_none rfl rfl rfl hkeeps⟩
  | ask build =>
    have hbuild : Ends build b fun res b₁ => build.run b = (res, b₁) ∧ KeepsStack b b₁ ∧
        ∀ k, res = .ok k → b.frameworks.length ≤ k ∧ k < b₁.frameworks.length := ⟨rfl, hmove b⟩
    apply Ends.bind hbuild
    · rintro k b₁ ⟨hrun, hkeeps, hnew⟩
      obtain ⟨hle, hlt⟩ := hnew k rfl
      apply (enter_course hb k b₁).mono
      rintro _ b' ⟨hcount, ⟨hentered, hcourse⟩ | ⟨hentered, e, ending, hcourse⟩⟩
      · refine ⟨_, .standing, .next (.refl b) hrun hcourse, ?_⟩
        rw [hkeeps.entered] at hentered
        exact
          { entered := hentered
            count := Nat.le_trans hkeeps.count hcount
            started := by
              rintro j (_ | ⟨_, ⟨⟩⟩)
              exact ⟨hle, Nat.lt_of_lt_of_le hlt hcount⟩
            increasing := List.pairwise_singleton _ _
            perm := .refl _ }
      · refine ⟨_, .failed, .next (.refl b) hrun hcourse, ?_⟩
        rw [hkeeps.entered] at hentered
        exact
          { entered := hentered
            count := Nat.le_trans hkeeps.count hcount
            started := by
              rintro j (_ | ⟨_, ⟨⟩⟩)
              exact ⟨hle, Nat.lt_of_lt_of_le hlt hcount⟩
            increasing := List.pairwise_singleton _ _
            perm := .refl _ }
    · rintro e b' ⟨hrun, hkeeps, _⟩
      exact ⟨_, .unbuilt, .one hrun, .of_none rfl rfl rfl hkeeps⟩

/-- Any number of moves. -/
theorem after_unfolds (moves : List (Move τ ω κ)) (hmoves : ∀ move ∈ moves, move.IsFair)
    (b : Bench τ ω κ) :
    ∃ deeds, Unfolds r b moves deeds ∧ Stacks deeds b (after r b moves) := by
  induction moves generalizing b with
  | nil => exact ⟨[], .nil, .of_none rfl rfl rfl (refl_of KeepsStack b)⟩
  | cons move rest ih =>
    obtain ⟨deeds, hconsists, hcourse, hstacks⟩ := make_ends hb (hmoves move (List.mem_cons_self ..)) b
    obtain ⟨later, hunfolds, hlater⟩ :=
      ih (fun m hm => hmoves m (List.mem_cons_of_mem _ hm)) ((move.make r).run b).2
    exact ⟨deeds ++ later, .cons hconsists hcourse hunfolds, hstacks.trans hlater⟩

end Move

namespace Scenario

variable [Seconds τ]

/-- The framework that a test asks for is new. -/
theorem buildForTest_isFair {r : Runner τ ω (Body τ)}
    (hb : ∀ owner body, (r.perform owner body).Along KeepsTest) (s : Setting τ)
    (blueprint : Blueprint τ (Body τ)) : (Move.ask (buildForTest r s blueprint)).IsFair := by
  intro b
  apply Ends.bind (P := fun _ b₁ => KeepsStack b b₁) (optionsOf_along blueprint b)
  · intro options b₁ h₁
    apply Ends.bind (P := fun _ b₂ => KeepsStack b b₂)
      ((suiteOf_along s blueprint b₁).mono fun _ _ => trans_of KeepsStack h₁)
    · intro suite b₂ h₂
      let settings := settingsOf blueprint options suite (clusterOf s) (blueprint.provider.or s.provider)
      have hplace : Ends (place (Framework.fresh settings blueprint.client) : RunM τ ω Nat) b₂
          fun res b₃ => res = .ok b₂.frameworks.length ∧ KeepsStack b b₃ ∧
            b₂.frameworks.length < b₃.frameworks.length := by
        refine ⟨rfl, ⟨h₂.entered, ?_⟩, ?_⟩
        · exact Nat.le_trans h₂.count (List.length_append ▸ Nat.le_add_right ..)
        · exact List.length_append ▸ Nat.lt_succ_self _
      apply Ends.bind_ok hplace
      rintro b₃ ⟨h₃, hnew⟩
      apply Ends.bind (P := fun _ b₄ => KeepsStack b₃ b₄)
        ((extend_along hb b₂.frameworks.length _ b₃).mono fun _ _ => KeepsTest.keepsStack)
      · intro _ b₄ h₄
        refine ⟨trans_of KeepsStack h₃ h₄, ?_⟩
        rintro k ⟨⟩
        exact ⟨h₂.count, Nat.lt_of_lt_of_le hnew h₄.count⟩
      · intro e b₄ h₄
        exact ⟨trans_of KeepsStack h₃ h₄, nofun⟩
    · intro e b₂ h₂
      exact ⟨h₂, nofun⟩
  · intro e b₁ h₁
    exact ⟨h₁, nofun⟩

end Scenario

namespace Framework

variable [Seconds τ] [Host τ ω]

/-- Whatever a test asks for and however setups and teardowns end: each framework whose setup was
started is torn down exactly once. One whose setup fails is torn down before the test gets on, as of
a test that has failed. The others are torn down after the test, the latest first, each with what the
reports say, and the fault that is left is that of the one that was built first among those whose
teardown has a fault: this fault itself, unless it is a stop of iteration, which is then its
cause. -/
theorem asked_tornDown_once {r : Runner τ ω κ}
    (hb : ∀ owner body, (r.perform owner body).Along KeepsTest) {moves : List (Move τ ω κ)}
    (hmoves : ∀ move ∈ moves, move.IsFair) {b : Bench τ ω κ} (hentered : b.trial.entered = [])
    (reports : List (String × Bool)) :
    let tested := Move.after r b moves
    let reported : Bench τ ω κ := { tested with trial := { tested.trial with reports } }
    ∃ deeds downs, Move.Unfolds r b moves deeds ∧
      Ends (leaveAll r) reported (fun res b' => Course r reported downs b' ∧
        res = verdict (.ok ()) downs) ∧
      downs.map Deed.tornDown? = (deeds.filterMap Deed.standing?).reverse.map
        (fun k => some (k, reports.any Prod.snd)) ∧
      (deeds.filterMap Deed.started?).Nodup ∧
      (((deeds ++ downs).filterMap Deed.tornDown?).map Prod.fst).Perm
        (deeds.filterMap Deed.started?) := by
  intro tested reported
  obtain ⟨deeds, hunfolds, hstacks⟩ := Move.after_unfolds hb moves hmoves b
  obtain ⟨downs, hdowns⟩ := leaveLatest_tornDown hb r.patience (.ok ()) reported
  have hstanding : reported.trial.entered = (deeds.filterMap Deed.standing?).reverse := by
    show tested.trial.entered = _
    rw [hstacks.entered, hentered, List.append_nil]
  have horder := hdowns.order
  rw [hstanding] at horder
  have htorn : (downs.filterMap Deed.tornDown?).map Prod.fst =
      (deeds.filterMap Deed.standing?).reverse := by
    have hpairs : downs.filterMap Deed.tornDown? =
        (deeds.filterMap Deed.standing?).reverse.map fun k => (k, reported.trial.hasFailed) := by
      rw [← List.filterMap_eq_map]
      have hsome := congrArg (List.filterMap id) horder
      rwa [List.filterMap_map, List.filterMap_map] at hsome
    rw [hpairs, List.map_map]
    exact List.map_id _
  refine ⟨deeds, downs, hunfolds, ⟨hdowns.course, hdowns.result⟩, horder, ?_, ?_⟩
  · exact hstacks.increasing.imp Nat.ne_of_lt
  · rw [List.filterMap_append, List.map_append, htorn]
    exact ((List.reverse_perm _).append_left _).trans hstacks.perm

/-- Bodies that raise the fault of their first step, if that step raises one. -/
def raisingFirst : Runner Rat (Scripted.World Rat) (Body Rat) :=
  ⟨fun _ body => match body with
    | .raise e :: _ => .fail e
    | _ => pure (), 1⟩

/-- They change nothing, and so lead along whatever leads from a bench to itself. -/
theorem raisingFirst_along {R : Bench Rat (Scripted.World Rat) (Body Rat) →
    Bench Rat (Scripted.World Rat) (Body Rat) → Prop} [IsPreorder _ R] (owner : Option Nat)
    (body : Body Rat) : (raisingFirst.perform owner body).Along R := by
  unfold raisingFirst
  dsimp only
  split
  · exact along_fail _
  · exact along_pure ()

/-- A test asks for a framework with these hooks. -/
def askedWith (before after : Body Rat) : Move Rat (Scripted.World Rat) (Body Rat) :=
  .ask (Scenario.buildForTest raisingFirst Scenario.stubbed
    { Scenario.equipped with provider := some ⟨before, after⟩ })

/-- Of three frameworks the setup of the second is interrupted, and the teardowns of the others
fail, that of the first with a stop of iteration. -/
def threeAsked : List (Move Rat (Scripted.World Rat) (Body Rat)) :=
  [askedWith [] [.raise (.plain .stopIteration [])], askedWith [.raise (.plain .keyboardInterrupt [])] [],
    askedWith [] [.raise (.failed "late")]]

theorem asked_tornDown_once_three :
    let tested := Move.after raisingFirst (Bench.start (.start 0 [] [])) threeAsked
    let reported := { tested with trial := { tested.trial with reports := [("call", true)] } }
    tested.trial.entered = [2, 0] ∧
      ((leaveAll raisingFirst).run reported).1.mapError (fun e => (e.label, e.cause.map Fault.label)) =
        .error ("RuntimeError", some "StopIteration") ∧
      ∃ deeds downs, Move.Unfolds raisingFirst (Bench.start (.start 0 [] [])) threeAsked deeds ∧
        Ends (leaveAll raisingFirst) reported (fun res b' =>
          Course raisingFirst reported downs b' ∧ res = verdict (.ok ()) downs) ∧
        downs.map Deed.tornDown? =
          (deeds.filterMap Deed.standing?).reverse.map (fun k => some (k, true)) ∧
        (deeds.filterMap Deed.started?).Nodup ∧
        (((deeds ++ downs).filterMap Deed.tornDown?).map Prod.fst).Perm
          (deeds.filterMap Deed.started?) := by
  intro tested reported
  have hmoves : ∀ move ∈ threeAsked, move.IsFair := by
    intro move hmove
    simp only [threeAsked, List.mem_cons, List.not_mem_nil, or_false] at hmove
    obtain rfl | rfl | rfl := hmove <;> exact Scenario.buildForTest_isFair raisingFirst_along _ _
  refine ⟨by decide +kernel, by decide +kernel, ?_⟩
  exact asked_tornDown_once raisingFirst_along hmoves rfl [("call", true)]

end Framework

end Testbed
