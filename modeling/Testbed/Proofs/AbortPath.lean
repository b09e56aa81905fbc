import Testbed.Proofs.Enrolment
import Testbed.Proofs.SideBySide

/-!
# The abort path and the normal teardown

A drain of the registry tears down the frameworks that are still set up. Here it is compared with
the series in which each of them is torn down as after a failed test, the one that was set up last
first: both do the same at the site and to the frameworks, and both leave the registry empty. What
the drain returns are the faults of those teardowns, each under the handle of its framework.
-/

set_option autoImplicit false

namespace Testbed

open Proc Bench

variable {τ ω κ α : Type}

namespace Framework

variable [Seconds τ] [Host τ ω]

/-- Tears frameworks down one after the other, as after failed tests. Gives how each teardown
ended. -/
def tearEach (r : Runner τ ω κ) :
    List Nat → BenchM τ ω κ (List (Except (Fault τ) (Report τ)))
  | [] => pure []
  | k :: rest => do
    let ending ← (afterEach r k true).attempt
    let endings ← tearEach r rest
    pure (ending :: endings)

omit [Seconds τ] [Host τ ω] in
/-- The faults among endings, each under the handle that stands in its place. -/
def failuresOf (handles : List Nat) (endings : List (Except (Fault τ) α)) :
    List (Nat × Fault τ) :=
  (handles.zip endings).filterMap fun p =>
    match p.2 with
    | .ok _ => none
    | .error e => some (p.1, e)

/-- The duties to tear frameworks down, each under its handle. -/
def teardowns (duties : List (Nat × Nat)) : List (Nat × Duty κ) :=
  duties.map fun d => (d.1, .teardown d.2)

section Effects

variable {r : Runner τ ω κ} (hb : ∀ owner body, Unaware (r.perform owner body))
  {b c : Bench τ ω κ}

include hb

/-- The registry's own teardown of a framework is that of a failed test. -/
theorem abortTeardown_alike (k : Nat) (hbc : Alike b c) :
    Ends (abortTeardown r k) b fun res b' =>
      res = ((afterEach r k true).run c).1.map (fun _ => ()) ∧
        (∀ e, ((afterEach r k true).run c).1 = .error e → e.endsRun = false) ∧
        Alike b' ((afterEach r k true).run c).2 := by
  have missing {b : Bench τ ω κ} (hf : b.frameworks[k]? = none) :
      (frameworkAt k : BenchM τ ω κ (Framework τ κ)).run b =
        (.error (.plain .lookup [.text "no such framework"]), b) := by
    unfold frameworkAt
    rw [run_bind, run_get]
    dsimp only
    rw [hf]
    rfl
  cases hf : b.frameworks[k]? with
  | none =>
    have hwithdraw : (withdraw k).run c = _ := run_bind_error (missing (hbc.frameworks ▸ hf))
    have hafter : (afterEach r k true).run c = _ := run_bind_error hwithdraw
    have habort : (abortTeardown r k).run b = _ := run_bind_error (missing hf)
    unfold Ends
    rw [hafter, habort]
    exact ⟨rfl, by rintro _ ⟨⟩; rfl, hbc⟩
  | some f =>
    apply Ends.bind_ok (frameworkAt_ends hf)
    rintro b rfl
    apply Ends.bind_ok (log_registryOnly (by decide) b)
    intro b₁ h₁
    obtain ⟨hsame, hkind, halike⟩ :=
      afterEach_unaware (hb (some k)) true b₁ c (h₁.alike (.refl c) hbc)
    rw [hsame]
    apply Ends.bind (P := fun res b' => res = ((afterEach r k true).run b₁).1 ∧
      Alike b' ((afterEach r k true).run c).2) ⟨rfl, halike⟩
    · rintro report b' ⟨hok, h'⟩
      exact ⟨by rw [← hok]; rfl, hkind, h'⟩
    · rintro e b' ⟨herror, h'⟩
      exact ⟨by rw [← herror]; rfl, hkind, h'⟩

omit [Seconds τ] [Host τ ω] hb in
theorem noted_registryOnly (e : Registry.Entry (Duty κ) (Except (Fault τ) Unit))
    (b : Bench τ ω κ) : RegistryOnly b (b.noted e) := ⟨rfl, rfl, rfl⟩

/-- A drain does each teardown as the series does, and gives the faults among its endings. -/
theorem dischargeAll_alike (duties : List (Nat × Nat)) (hbc : Alike b c) :
    Ends (dischargeAll r (teardowns duties)) b fun res b' =>
      ∃ endings c', (tearEach r (duties.map Prod.snd)).run c = (.ok endings, c') ∧
        endings.length = duties.length ∧
        res = .ok (failuresOf (duties.map Prod.fst) endings) ∧ Alike b' c' := by
  induction duties generalizing b c with
  | nil => exact ⟨[], c, rfl, rfl, rfl, hbc⟩
  | cons duty rest ih =>
    obtain ⟨handle, k⟩ := duty
    rcases hrun : (afterEach r k true).run c with ⟨ending, c₁⟩
    have htear {endings : List (Except (Fault τ) (Report τ))} {c' : Bench τ ω κ}
        (hrest : (tearEach r (rest.map Prod.snd)).run c₁ = (.ok endings, c')) :
        (tearEach r (k :: rest.map Prod.snd)).run c = (.ok (ending :: endings), c') := by
      have hattempt : (afterEach r k true).attempt.run c = (.ok ending, c₁) := by
        rw [run_attempt, hrun]
      exact (run_bind_ok hattempt).trans (run_bind_ok hrest)
    have hone : Ends (dischargeOne r handle (.teardown k)) b fun res b' =>
        res = .ok (ending.map fun _ => ()) ∧
          (∀ e, ending = .error e → e.endsRun = false) ∧ Alike b' c₁ := by
      apply dischargeOne_ends
      have hbegun := (noted_registryOnly (.begun handle (.teardown k)) b).alike (.refl c) hbc
      apply (abortTeardown_alike hb k hbegun).mono
      rintro res b' ⟨rfl, hkind, h'⟩
      rw [hrun] at hkind h' ⊢
      exact ⟨rfl, hkind, (noted_registryOnly _ b').alike (.refl c₁) h'⟩
    apply Ends.bind_ok hone
    rintro b₁ ⟨hkind, h₁⟩
    cases ending with
    | ok report =>
      apply (ih h₁).mono
      rintro res b' ⟨endings, c', hrest, hlen, rfl, h'⟩
      exact ⟨.ok report :: endings, c', htear hrest, congrArg (· + 1) hlen, rfl, h'⟩
    | error e =>
      apply Ends.ite
      · intro hends
        rw [hkind e rfl] at hends
        cases hends
      · intro _
        apply Ends.bind_ok (log_registryOnly (by decide) b₁)
        intro b₂ h₂
        apply Ends.bind (ih (h₂.alike (.refl c₁) h₁))
        · rintro failures b' ⟨endings, c', hrest, hlen, hfailures, h'⟩
          cases hfailures
          exact ⟨.error e :: endings, c', htear hrest, congrArg (· + 1) hlen, rfl, h'⟩
        · rintro e b' ⟨_, _, _, _, hno, _⟩
          cases hno

/-- A drain of teardowns only, beside the series of the same teardowns. -/
theorem drain_alike {duties : List (Nat × Nat)}
    (hduties : b.registry.live.reverse = teardowns duties) (hbc : Alike b c) :
    Ends (drain r) b fun res b' =>
      ∃ endings c', (tearEach r (duties.map Prod.snd)).run c = (.ok endings, c') ∧
        endings.length = duties.length ∧
        res = .ok (failuresOf (duties.map Prod.fst) endings) ∧ Alike b' c' := by
  have htaken : RegistryOnly b { b with registry := b.registry.takeAll.2 } := ⟨rfl, rfl, rfl⟩
  have htake : Ends (takeDuties : BenchM τ ω κ (List (Nat × Duty κ))) b fun res b₁ =>
      res = .ok (teardowns duties) ∧ RegistryOnly b b₁ := ⟨congrArg Except.ok hduties, htaken⟩
  apply Ends.bind_ok htake
  intro b₁ h₁
  apply Ends.ite
  · intro hempty
    have hnil : duties = [] := List.map_eq_nil_iff.1 (List.isEmpty_iff.1 hempty)
    subst hnil
    exact ⟨[], c, rfl, rfl, rfl, h₁.alike (.refl c) hbc⟩
  · intro _
    apply Ends.bind_ok (log_registryOnly (by decide) b₁)
    intro b₂ h₂
    apply Ends.bind (dischargeAll_alike hb duties ((h₁.trans h₂).alike (.refl c) hbc))
    · rintro failures b₃ ⟨endings, c', htorn, hlen, hfailures, h₃⟩
      cases hfailures
      apply Ends.bind_ok (log_registryOnly (by decide) b₃)
      intro b₄ h₄
      exact ⟨endings, c', htorn, hlen, rfl, h₄.alike (.refl c') h₃⟩
    · rintro e b₃ ⟨_, _, _, _, hno, _⟩
      cases hno

end Effects

/-- No handle is given out. -/
def IssuesNone (b b' : Bench τ ω κ) : Prop := b'.registry.issued = b.registry.issued

instance : IsPreorder (Bench τ ω κ) IssuesNone where
  refl _ := rfl
  trans _ _ _ h h' := Eq.trans h' h

section Registry

variable {r : Runner τ ω κ} (hb : ∀ owner body, (r.perform owner body).Along Untouched)

include hb

/-- The series leaves nothing registered. -/
theorem tearEach_agrees {b : Bench τ ω κ} {duties : List (Nat × Nat)} (h : Agrees [] b)
    (hlive : b.registry.live.reverse = teardowns duties) :
    Ends (tearEach r (duties.map Prod.snd)) b fun _ b' =>
      Agrees [] b' ∧ b'.registry.live = [] := by
  induction duties generalizing b with
  | nil => exact ⟨h, List.reverse_eq_nil_iff.1 hlive⟩
  | cons duty rest ih =>
    obtain ⟨handle, k⟩ := duty
    have hfirst : (b.registry.live.filter fun e => b.handleOf k != some e.1).reverse =
        teardowns rest := by
      have htaken := h.taken
      rw [hlive] at htaken
      rw [← List.filter_reverse, hlive]
      exact htaken.filter_first rfl
    apply Ends.bind_attempt (afterEach_agrees hb h true)
    intro ending b₁ h₁
    have hrest := ih h₁.agrees (by rw [h₁.live, hfirst])
    exact hrest.bind (fun _ _ h' => h') fun _ _ h' => h'

theorem teardownRules_issuesNone (k : Nat) : TeardownRules r k IssuesNone := by
  have untouched {b b' : Bench τ ω κ} (h : Untouched b b') : IssuesNone b b' :=
    congrArg Registry.issued h.registry
  have hwithdraw : (withdraw k : BenchM τ ω κ Unit).Along IssuesNone := by
    apply Along.bind (frameworkAt_along k)
    intro f
    have hunregister : (unregister f.handle : BenchM τ ω κ Unit).Along IssuesNone := by
      intro b
      apply (unregister_ends f.handle b).mono
      rintro _ b' ⟨_, h'⟩
      unfold IssuesNone
      rw [h'.1]
      exact Registry.issued_without _ _
    exact hunregister.bind fun _ => along_modify fun _ => rfl
  exact teardownRules_of_books (fun _ _ h => untouched h.untouched)
    (fun owner body => (hb owner body).mono fun _ _ => untouched) k hwithdraw

theorem tearEach_issuesNone (ks : List Nat) : (tearEach r ks).Along IssuesNone := by
  induction ks with
  | nil => exact along_pure _
  | cons k rest ih =>
    have hfirst := (teardownRules_issuesNone hb k).afterEach true
    exact hfirst.attempt.bind fun _ => ih.bind fun _ => along_pure _

theorem drain_issuesNone : (drain r).Along IssuesNone := by
  have hsite (b b' : Bench τ ω κ) (h : AtSite Call.IsNeutral b b') : IssuesNone b b' := by
    unfold IssuesNone
    rw [h.1]
  have hdischarge (d : Duty κ) : (discharge r d).Along IssuesNone := by
    cases d with
    | teardown k => exact (teardownRules_issuesNone hb k).abortTeardown
    | act a =>
      exact act_along hsite
        (fun body => (hb none body).mono fun _ _ h => congrArg Registry.issued h.registry) a
  intro b
  exact drain_ends (fun _ _ _ => onSite_along hsite (Site.makes_log _ _ _)) (b := b) rfl fun d _ =>
    dischargeOne_along (fun _ => along_modify fun _ => rfl) (hdischarge d.2)

end Registry

namespace Stage

/-- The frameworks that are set up, the latest first. The latest stage comes first. -/
def standing : List (Stage τ ω κ) → List Nat
  | [] => []
  | .setUp k _ :: earlier => k :: standing earlier
  | .tearDown k _ :: earlier => (standing earlier).filter fun j => j != k
  | .drain :: _ => []
  | .work _ :: earlier => standing earlier

/-- The registry holds the teardowns of these frameworks, the first of them registered last. -/
def Holds (ks : List Nat) (b : Bench τ ω κ) : Prop :=
  b.registry.live.reverse.map Prod.snd = ks.map Duty.teardown

omit [Seconds τ] [Host τ ω] in
theorem enroll_holds {ks : List Nat} {b : Bench τ ω κ} (h : Holds ks b) (k : Nat) :
    Ends (enroll k : BenchM τ ω κ Unit) b fun _ b' => Holds (k :: ks) b' := by
  apply Ends.bind_ok (register_ends (.teardown k) b)
  intro b₁ h₁
  obtain ⟨new, hadds, _⟩ := h₁.adds
  apply (update_ends k _ b₁).mono
  rintro _ b₂ ⟨_, h₂, _⟩
  have hlive : b₂.registry.live = b.registry.live ++ [(b.registry.issued + 1, .teardown k)] := by
    rw [h₂.1, hadds.registry]
    rfl
  unfold Holds at h ⊢
  rw [hlive, List.reverse_append, List.map_append, h]
  rfl

omit [Seconds τ] [Host τ ω] in
/-- The framework that is gone from those set up is gone from the registry. -/
theorem Holds.withdrawn {k : Nat} {ks : List Nat} {b b' : Bench τ ω κ} (h : Holds ks b)
    (hagrees : Agrees [] b) (hb' : Withdrawn k [] b b') : Holds (ks.filter fun j => j != k) b' := by
  have hsame : ∀ e ∈ b.registry.live.reverse, (b.handleOf k != some e.1) = !e.2.tearsDown k := by
    rintro ⟨n, d⟩ he
    obtain ⟨j, rfl, hj⟩ := (hagrees.mem_iff n d).1 (by simpa using he)
    show (b.handleOf k != some n) = !(j == k)
    rw [Bool.eq_iff_iff, bne_iff_ne, Bool.not_eq_true', beq_eq_false_iff_ne, not_iff_not]
    constructor
    · exact fun hk => hagrees.injective j k n hj hk
    · rintro rfl
      exact hj
  unfold Holds at h ⊢
  rw [hb'.live, ← List.filter_reverse, List.filter_congr hsame]
  have hmap : ((b.registry.live.reverse.filter fun e => !e.2.tearsDown k).map Prod.snd) =
      (b.registry.live.reverse.map Prod.snd).filter fun d => !d.tearsDown k := by
    rw [List.filter_map]
    rfl
  rw [hmap, h, List.filter_map]
  rfl

variable {r : Runner τ ω κ} (hb : ∀ owner body, (r.perform owner body).Along Untouched)

include hb

/-- One stage keeps the registry in the order of the setups. -/
theorem perform_holds {earlier : List (Stage τ ω κ)} {b : Bench τ ω κ} (h : Agrees [] b)
    (hholds : Holds (standing earlier) b) (stage : Stage τ ω κ)
    (hstage : stage.Follows r earlier b) :
    Ends (stage.perform r) b fun _ b' => Holds (standing (stage :: earlier)) b' := by
  cases stage with
  | setUp k component =>
    apply (setupRules_of_books (fun _ _ => KeepsBooks.untouched) hb k).beforeEach_ends
      (enroll_holds hholds k)
    intro b₁ b₂ h₁ h₂
    unfold Holds
    rw [h₂.registry]
    exact h₁
  | tearDown k testFailed =>
    have hafter := afterEach_agrees (k := k) hb h testFailed
    exact hafter.bind (fun _ _ => hholds.withdrawn h) fun _ _ => hholds.withdrawn h
  | drain =>
    obtain ⟨failures, hok⟩ := hstage
    have hdrained : Ends (Framework.drain r) b fun res b' => (∃ failures, res = .ok failures) ∧
        b'.registry.live = [] := ⟨⟨failures, hok⟩, (drain_agrees hb h failures hok).2⟩
    have hempty {b' : Bench τ ω κ} (hlive : b'.registry.live = []) : Holds [] b' := by
      unfold Holds
      rw [hlive]
      rfl
    exact hdrained.bind (fun _ _ h' => hempty h'.2) fun _ _ h' => hempty h'.2
  | work x =>
    apply (hstage b).mono
    intro _ b' h'
    unfold Holds
    rw [h'.registry]
    exact hholds

/-- Over every run of stages that follow each other. -/
theorem after_holds {b : Bench τ ω κ} (hlive : b.registry.live = [])
    (hidle : ∀ f ∈ b.frameworks, f.handle = none) (stages : List (Stage τ ω κ))
    (hallowed : Allowed r b stages) : Holds (standing stages) (after r b stages) := by
  induction stages with
  | nil =>
    unfold Holds
    rw [after, hlive]
    rfl
  | cons stage earlier ih =>
    have h := (after_agrees hb hlive hidle earlier hallowed.1).1
    exact perform_holds hb h (ih hallowed.1) stage hallowed.2

omit [Seconds τ] [Host τ ω] hb in
/-- What is registered are teardowns, each under the handle that its framework knows. -/
theorem Holds.duties {ks : List Nat} {b : Bench τ ω κ} (h : Holds ks b) (hagrees : Agrees [] b) :
    ∃ duties, b.registry.live.reverse = teardowns duties ∧ duties.map Prod.snd = ks ∧
      (duties.map Prod.fst).map some = ks.map b.handleOf := by
  have paired (entries : List (Nat × Duty κ)) (hentries : entries.map Prod.snd = ks.map .teardown) :
      ∃ duties, entries = teardowns duties ∧ duties.map Prod.snd = ks := by
    clear h
    induction ks generalizing entries with
    | nil => exact ⟨[], List.map_eq_nil_iff.1 hentries, rfl⟩
    | cons k rest ih =>
      obtain ⟨⟨n, _⟩, later, rfl, rfl, hlater⟩ := List.map_eq_cons_iff.1 hentries
      obtain ⟨duties, rfl, rfl⟩ := ih later hlater
      exact ⟨(n, k) :: duties, rfl, rfl⟩
  obtain ⟨duties, hduties, rfl⟩ := paired _ h
  refine ⟨duties, hduties, rfl, ?_⟩
  rw [List.map_map, List.map_map]
  apply List.map_congr_left
  intro d hd
  have hlive : (d.1, Duty.teardown d.2) ∈ b.registry.live ++ [] := by
    rw [List.append_nil, ← List.mem_reverse, hduties]
    exact List.mem_map.2 ⟨d, hd, rfl⟩
  obtain ⟨j, hj, hhandle⟩ := (hagrees.mem_iff _ _).1 hlive
  cases hj
  exact hhandle.symm

/-- The abort path is the normal teardown. Frameworks have been set up and torn down in any way,
and nothing else has used the registry. From there on no call is answered with a fault that stops
the run, and bodies raise no such fault and are not aware of the registry. Then a drain does the
same as the series in which the frameworks that are still set up are torn down as after a failed
test, the latest first: at the site and to the frameworks all is the same but for what the registry
writes about itself, and nothing is left registered. The drain returns the faults of those
teardowns, each under the handle that its framework knew. -/
theorem drain_eq_tearEach (hunaware : ∀ owner body, Unaware (r.perform owner body))
    {b₀ : Bench τ ω κ} (hlive : b₀.registry.live = [])
    (hidle : ∀ f ∈ b₀.frameworks, f.handle = none) {stages : List (Stage τ ω κ)}
    (hallowed : Allowed r b₀ stages)
    (hcalm : Host.IsCalm (after r b₀ stages).site.world) :
    let b := after r b₀ stages
    let torn := (tearEach r (standing stages)).run b
    let drained := (Framework.drain r).run b
    ∃ handles endings,
      handles.map some = (standing stages).map b.handleOf ∧
      torn.1 = .ok endings ∧ endings.length = (standing stages).length ∧
      drained.1 = .ok (failuresOf handles endings) ∧
      Alike drained.2 torn.2 ∧
      drained.2.registry.live = [] ∧ torn.2.registry.live = [] ∧
      drained.2.registry.issued = torn.2.registry.issued := by
  intro b torn drained
  have hagrees : Agrees [] b := (after_agrees hb hlive hidle stages hallowed).1
  obtain ⟨duties, hduties, hstanding, hhandles⟩ :=
    (after_holds hb hlive hidle stages hallowed).duties hagrees
  have hself : Alike b b := ⟨⟨rfl, rfl, hcalm⟩, rfl, rfl, rfl⟩
  obtain ⟨endings, c', htorn, hlen, hdrained, halike⟩ := drain_alike hunaware hduties hself
  rw [hstanding] at htorn
  have htorn' : torn = (.ok endings, c') := htorn
  have hissued : drained.2.registry.issued = torn.2.registry.issued :=
    (drain_issuesNone hb b).trans (tearEach_issuesNone hb (standing stages) b).symm
  have htornLive : torn.2.registry.live = [] := by
    have h := tearEach_agrees hb hagrees hduties
    rw [hstanding] at h
    exact h.2
  refine ⟨duties.map Prod.fst, endings, hhandles, by rw [htorn'], ?_, hdrained, ?_, ?_,
    htornLive, hissued⟩
  · rw [hlen, ← hstanding, List.length_map]
  · rw [htorn']
    exact halike
  · exact (drain_agrees hb hagrees _ hdrained).2

omit hb

/-- Bodies that create a namespace on behalf of their framework and then fail the test. -/
def failing : Runner Rat (Scripted.World Rat) String where
  perform
    | some k, message => do
      let _ ← createNamespace k message []
      .fail (.failed message)
    | none, message => .fail (.failed message)
  patience := 4

theorem failing_untouched (owner : Option Nat) (body : String) :
    (failing.perform owner body).Along Untouched := by
  cases owner with
  | none => exact along_fail _
  | some k =>
    apply Along.bind ((createNamespace_keepsBooks k body []).mono fun _ _ => KeepsBooks.untouched)
    intro _
    exact along_fail _

theorem failing_unaware (owner : Option Nat) (body : String) :
    Unaware (failing.perform owner body) := by
  cases owner with
  | none => exact parallel_fail rfl
  | some k =>
    apply Parallel.bind (createNamespace_unaware k body [])
    intro _
    exact parallel_fail rfl

/-- A bench with two frameworks, of which the first one has a provider. The first deletion of a
namespace is refused. -/
def refusing : Bench Rat (Scripted.World Rat) String :=
  let f (provider : Option (Provider String)) : Framework Rat String := .fresh
    { baseName := "web", options := .standard, suite := .standard, cluster := .stub, provider,
      customCreation := false, skipNamespace := false, skipServiceAccountWait := false,
      deletionTimeout := none } none
  let refusal : Scripted.Turn Rat := ⟨some 1, 0, .raise (.api (some 403) none none)⟩
  { Bench.start (.start 0 [("op.delete_namespace", [refusal])] []) with
    frameworks := [f (some ⟨"early", "late"⟩), f none] }

/-- The setup of the first framework fails in its hook, that of the second one does not, and its test
defers an action. -/
def unfinished : List (Stage Rat (Scripted.World Rat) String) :=
  [.work (update 1 (·.defer ⟨"clean", "extra"⟩)), .setUp 1 none, .setUp 0 none]

/-- A drain tears the second framework down before the first one, and both teardowns fail. -/
theorem drain_eq_tearEach_unfinished :
    standing unfinished = [1, 0] ∧
      ((Framework.drain failing).run (after failing refusing unfinished)).1.toOption.map
        (·.map Prod.fst) = some [2, 1] ∧
      let b := after failing refusing unfinished
      let torn := (tearEach failing (standing unfinished)).run b
      let drained := (Framework.drain failing).run b
      ∃ handles endings,
        handles.map some = (standing unfinished).map b.handleOf ∧
        torn.1 = .ok endings ∧ endings.length = (standing unfinished).length ∧
        drained.1 = .ok (failuresOf handles endings) ∧
        Alike drained.2 torn.2 ∧
        drained.2.registry.live = [] ∧ torn.2.registry.live = [] ∧
        drained.2.registry.issued = torn.2.registry.issued := by
  have hidle : ∀ f ∈ refusing.frameworks, f.handle = none := by
    simp [refusing, fresh]
  have hdefer : (update 1 (·.defer ⟨"clean", "extra"⟩)
      : BenchM Rat (Scripted.World Rat) String Unit).Along Untouched :=
    (update_keepsBooks (k := 1) (g := (·.defer ⟨"clean", "extra"⟩)) fun _ => rfl).mono
      fun _ _ => KeepsBooks.untouched
  have hallowed : Allowed failing refusing unfinished := by
    refine ⟨⟨⟨trivial, ?_, rfl⟩, ?_, rfl⟩, hdefer⟩
    · decide
    · decide +kernel
  have hmild : Scripted.World.IsMild (after failing refusing unfinished).site.world :=
    ⟨by decide +kernel, by decide +kernel⟩
  exact ⟨rfl, by decide +kernel,
    drain_eq_tearEach failing_untouched failing_unaware rfl hidle hallowed hmild.isCalm⟩

end Stage

end Framework

end Testbed
