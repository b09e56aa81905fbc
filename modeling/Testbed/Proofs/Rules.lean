import Testbed.Proofs.Bench
import Testbed.Proofs.Parts

/-!
# Operations of frameworks along a relation

A relation between a bench and a later one is checked at the steps of which setting up and tearing
down are made. `SetupRules` and `TeardownRules` name those steps for one framework; a relation that
obeys them is one along which every setup, or every teardown, of that framework leads.
-/

set_option autoImplicit false

namespace Testbed

open Proc

variable {τ ω κ α : Type}

namespace Bench

section Along

variable {R : Bench τ ω κ → Bench τ ω κ → Prop} [IsPreorder (Bench τ ω κ) R]

theorem frameworkAt_along (k : Nat) : (frameworkAt k : BenchM τ ω κ (Framework τ κ)).Along R := by
  apply Along.bind along_get
  intro b
  split
  · exact along_pure _
  · exact along_fail _

variable (hs : ∀ b b', AtSite Call.IsNeutral b b' → R b b')

include hs

omit [IsPreorder (Bench τ ω κ) R] in
theorem onSite_along {x : SiteM τ ω α} (h : x.Along (Site.Makes Call.IsNeutral)) :
    (onSite x : BenchM τ ω κ α).Along R :=
  (onSite_atSite h).mono hs

omit [IsPreorder (Bench τ ω κ) R] in
theorem note_along (f : Framework τ κ) (level : Level) (name : String)
    (fields : List (String × Detail τ)) :
    (note f level name fields : BenchM τ ω κ Unit).Along R :=
  onSite_along hs (Site.makes_log _ _ _)

variable [Host τ ω] {r : Runner τ ω κ}

theorem act_along {owner : Option Nat} (hb : ∀ body, (r.perform owner body).Along R)
    (a : Action κ) : (act r owner a).Along R := by
  apply Along.bind (onSite_along hs (Site.makes_mark _))
  intro _
  exact hb a.body

end Along

end Bench

namespace Bench

section Enclose

variable [Seconds τ] {s : Span} {x : BenchM τ ω κ α} {b : Bench τ ω κ}
  {Q : Except (Fault τ) α → Bench τ ω κ → Prop}

/-- A procedure inside a span comes out as it does by itself, and then the span is recorded. -/
theorem enclose_records (hx : Ends x b fun r b₁ =>
      Q r { b₁ with site := b₁.site.recorded [.span (s.close s.attributes r)] }) :
    Ends (enclose s x) b Q :=
  Ends.bind_attempt hx fun _ _ hq => hq

/-- A procedure inside a span comes out as it does by itself, and the span tells how. -/
theorem enclose_ends
    (hx : Ends x b fun r b₁ => ∀ b₂, Adds [.span (s.close s.attributes r)] b₁ b₂ → Q r b₂) :
    Ends (enclose s x) b Q :=
  enclose_records (hx.mono fun _ _ hq => hq _ (SiteOnly.adds rfl rfl))

end Enclose

end Bench

namespace Framework

open Bench

variable {R : Bench τ ω κ → Bench τ ω κ → Prop} {r : Runner τ ω κ} {k : Nat}

/-- The steps of the library's own stages of a setup of the framework with number `k`, other than
the creation of its namespace. -/
structure StageRules (k : Nat) (R : Bench τ ω κ → Bench τ ω κ → Prop) : Prop where
  site : ∀ b b', AtSite Call.IsNeutral b b' → R b b'
  adjust : ∀ g : Framework τ κ → Framework τ κ, IsPrivate g →
    (update k g : BenchM τ ω κ Unit).Along R

/-- The steps that setup and teardown of the framework with number `k` share. -/
structure PartRules [Seconds τ] [Host τ ω] (r : Runner τ ω κ) (k : Nat)
    (R : Bench τ ω κ → Bench τ ω κ → Prop) : Prop extends StageRules k R where
  body : ∀ body, (r.perform (some k) body).Along R

/-- The steps of a setup of the framework with number `k`, once its teardown is registered. -/
structure SetupRules [Seconds τ] [Host τ ω] (r : Runner τ ω κ) (k : Nat)
    (R : Bench τ ω κ → Bench τ ω κ → Prop) : Prop extends PartRules r k R where
  create : ∀ baseName labels, (createNamespace k baseName labels
    : BenchM τ ω κ (Option Namespace.Record)).Along R

/-- The steps of a teardown of the framework with number `k`. -/
structure TeardownRules [Seconds τ] [Host τ ω] (r : Runner τ ω κ) (k : Nat)
    (R : Bench τ ω κ → Bench τ ω κ → Prop) : Prop extends PartRules r k R where
  withdraw : (withdraw k : BenchM τ ω κ Unit).Along R
  clear : ∀ testFailed before, (clearAway k testFailed before
    : BenchM τ ω κ (Report τ)).Along R

/-- Tracking namespaces from outside leads where taking them into custody, and the change of the
framework, lead. -/
theorem trackEach_along [IsPreorder (Bench τ ω κ) R] (records : List (Option Namespace.Record))
    (htake : (takeCustody k (records.filterMap id) : BenchM τ ω κ Unit).Along R)
    (htrack : (update k fun f => records.foldl track f : BenchM τ ω κ Unit).Along R) :
    (trackEach k records : BenchM τ ω κ Unit).Along R := by
  apply Along.bind (frameworkAt_along k)
  intro _
  apply Along.bind htake
  intro _
  exact htrack

section Setup

variable [Host τ ω] {x : BenchM τ ω κ α}

/-- Work at the site, together with looks at frameworks, changes the site only. -/
theorem atSite_of_madeOf {calls : Call τ → Prop}
    (hx : MadeOf (SiteStep (fun _ => True) calls) (fun _ => True) x) : x.Along (AtSite calls) := by
  apply hx.along
  intro _ _ hstep
  cases hstep with
  | work hwork => exact onSite_atSite (Site.makes hwork)
  | look j => exact frameworkAt_along j

variable [IsPreorder (Bench τ ω κ) R]

theorem StageRules.along [Seconds τ] (h : StageRules k R)
    (hx : MadeOf (StageStep (fun _ => True) k) (fun _ => True) x) : x.Along R := by
  have connect (component : Option String) : (connect k component : BenchM τ ω κ Unit).Along R := by
    apply (madeOf_connect (fun _ _ => trivial) component).along
    intro _ _ hstep
    cases hstep with
    | site hsite => exact (atSite_of_madeOf (.step hsite)).mono h.site
    | keep client =>
      exact h.adjust (fun f => { f with client := some client, ownsClient := true }) {}
  apply hx.along
  intro _ _ hstep
  cases hstep with
  | talk htalk =>
    exact (atSite_of_madeOf (.step htalk)).mono fun b b' hb =>
      h.site b b' (hb.mono fun _ => False.elim)
  | adjust hg => exact h.adjust _ hg.toIsPrivate
  | serve hserved => exact (atSite_of_madeOf hserved.madeOf).mono h.site
  | connect component => exact connect component

variable [Seconds τ]

theorem PartRules.along (h : PartRules r k R)
    (hx : MadeOf (PartStep (fun _ => True) r k) (fun _ => True) x) : x.Along R := by
  apply hx.along
  intro _ _ hstep
  cases hstep with
  | stage hstage => exact h.toStageRules.along (.step hstage)
  | hook stage baseName => exact onSite_along h.site (Site.makes_mark _)
  | body body => exact h.body body

theorem PartRules.windAlong (h : PartRules r k R)
    (hx : MadeOf (WindStep (fun _ => True) r k) (fun _ => True) x) : x.Along R := by
  apply hx.along
  intro _ _ hstep
  cases hstep with
  | part hpart => exact h.along (.step hpart)
  | start name => exact onSite_along h.site (Site.makes_mark _)

theorem SetupRules.along (h : SetupRules r k R)
    (hx : MadeOf (SetupStep (fun _ => True) r k) (fun _ => True) x) : x.Along R := by
  apply hx.along
  intro _ _ hstep
  cases hstep with
  | part hpart => exact h.toPartRules.along (.step hpart)
  | create baseName labels => exact h.create baseName labels

/-- A setup registers the teardown, and then its stages lead along a relation that obeys their
rules, however they end. -/
theorem SetupRules.beforeEach_ends (h : SetupRules r k R) {b : Bench τ ω κ}
    {enrolled Q : Bench τ ω κ → Prop}
    (henroll : Ends (enroll k : BenchM τ ω κ Unit) b fun _ b₁ => enrolled b₁)
    (hq : ∀ b₁ b₂, enrolled b₁ → R b₁ b₂ → Q b₂) (component : Option String) :
    Ends (beforeEach r k component) b fun _ b' => Q b' := by
  apply Ends.bind henroll
  · intro _ b₁ h₁
    have hstages := h.along (madeOf_stages (fun _ _ => trivial) component)
    exact (hstages b₁).mono fun _ b₂ h₂ => hq b₁ b₂ h₁ h₂
  · intro e b₁ h₁
    exact hq b₁ b₁ h₁ (refl_of R b₁)

/-- A setup leads along every relation that obeys its rules, the registration included. -/
theorem SetupRules.beforeEach (h : SetupRules r k R)
    (henroll : (enroll k : BenchM τ ω κ Unit).Along R) (component : Option String) :
    (beforeEach r k component).Along R := by
  intro b
  exact h.beforeEach_ends (henroll b) (fun _ _ => trans_of R) component

end Setup

section Teardown

variable [Seconds τ] [Host τ ω] [IsPreorder (Bench τ ω κ) R]

/-- A teardown leads where taking its registration back, its winding up and its deletions lead. -/
theorem PartRules.afterEach (h : PartRules r k R) {testFailed : Bool}
    (hwithdraw : (withdraw k : BenchM τ ω κ Unit).Along R)
    (hclear : ∀ before, (clearAway k testFailed before : BenchM τ ω κ (Report τ)).Along R) :
    (afterEach r k testFailed).Along R := by
  apply (madeOf_afterEach (fun _ _ => trivial) testFailed).along
  intro _ _ hstep
  cases hstep with
  | wind hwind => exact h.windAlong (.step hwind)
  | withdraw => exact hwithdraw
  | clear _ => exact hclear _

/-- A teardown leads along every relation that obeys its rules, however it ends. -/
theorem TeardownRules.afterEach (h : TeardownRules r k R) (testFailed : Bool) :
    (afterEach r k testFailed).Along R :=
  h.toPartRules.afterEach h.withdraw (h.clear testFailed)

omit [Seconds τ] [Host τ ω] [IsPreorder (Bench τ ω κ) R] in
/-- Taking the teardown of a framework back fails only if the framework is missing. -/
theorem withdraw_found (k : Nat) (b : Bench τ ω κ) :
    Ends (withdraw k : BenchM τ ω κ Unit) b fun r b' =>
      ∀ e, r = .error e → b'.frameworks[k]? = none := by
  apply Ends.bind (frameworkAt_found k b)
  · intro f b₁ _
    apply Ends.bind_ok (unregister_ends f.handle b₁)
    intro b₂ _ e he
    cases he
  · rintro e b ⟨rfl, hmissing⟩ _ _
    exact hmissing

omit [IsPreorder (Bench τ ω κ) R] in
/-- A teardown takes its registration back, winds up, deletes the namespaces, and records its
span. -/
theorem afterEach_comes {testFailed : Bool} {b : Bench τ ω κ} {withdrawn wound : Bench τ ω κ → Prop}
    {Q : Except (Fault τ) (Report τ) → Bench τ ω κ → Prop}
    (hw : Ends (withdraw k : BenchM τ ω κ Unit) b fun _ b₁ => withdrawn b₁)
    (hwind : ∀ f b₁, withdrawn b₁ → b₁.frameworks[k]? = some f →
      Ends (windUp r k testFailed) b₁ fun _ b₂ => wound b₂)
    (hclear : ∀ before b₂, wound b₂ → Ends (clearAway k testFailed before) b₂ fun r b₃ =>
      ∀ ended b₄, Adds [.span ended] b₃ b₄ → Q r b₄)
    (hmissing : ∀ e b₁, withdrawn b₁ → b₁.frameworks[k]? = none → Q (.error e) b₁) :
    Ends (afterEach r k testFailed) b Q := by
  apply Ends.bind (hw.and (withdraw_found k b))
  · rintro _ b₁ ⟨h₁, _⟩
    apply Ends.bind (frameworkAt_found k b₁)
    · rintro f b₁ ⟨rfl, hf⟩
      have hconclude : Ends (conclude r k testFailed) b₁ fun r b₃ =>
          ∀ ended b₄, Adds [.span ended] b₃ b₄ → Q r b₄ :=
        Ends.bind_attempt (hwind f b₁ h₁ hf) hclear
      exact enclose_ends (hconclude.mono fun _ _ hq b₄ h₄ => hq _ b₄ h₄)
    · rintro e b₁ ⟨rfl, hnone⟩
      exact hmissing e b₁ h₁ hnone
  · rintro e b₁ ⟨h₁, hnone⟩
    exact hmissing e b₁ h₁ (hnone e rfl)

/-- A teardown whose winding up leads along a relation. -/
theorem afterEach_ends (h : PartRules r k R) {testFailed : Bool} {b : Bench τ ω κ}
    {withdrawn : Bench τ ω κ → Prop} {Q : Except (Fault τ) (Report τ) → Bench τ ω κ → Prop}
    (hw : Ends (withdraw k : BenchM τ ω κ Unit) b fun _ b₁ => withdrawn b₁)
    (hclear : ∀ before b₁ b₂, withdrawn b₁ → R b₁ b₂ →
      Ends (clearAway k testFailed before) b₂ fun r b₃ =>
        ∀ ended b₄, Adds [.span ended] b₃ b₄ → Q r b₄)
    (hmissing : ∀ e b₁, withdrawn b₁ → b₁.frameworks[k]? = none → Q (.error e) b₁) :
    Ends (afterEach r k testFailed) b Q := by
  have hwound (f : Framework τ κ) (b₁ : Bench τ ω κ) (h₁ : withdrawn b₁)
      (_ : b₁.frameworks[k]? = some f) :
      Ends (windUp r k testFailed) b₁ fun _ b₂ => ∃ b₁, withdrawn b₁ ∧ R b₁ b₂ :=
    (h.windAlong (madeOf_windUp (fun _ _ => trivial) testFailed) b₁).mono fun _ _ h₂ =>
      ⟨b₁, h₁, h₂⟩
  apply afterEach_comes hw hwound _ hmissing
  rintro before b₂ ⟨b₁, h₁, h₂⟩
  exact hclear before b₁ b₂ h₁ h₂

section

variable (hlog : ∀ level name fields,
  (onSite (Site.log level name fields) : BenchM τ ω κ Unit).Along R)

include hlog

/-- A teardown of the registry's own leads where the teardown of a failed test leads. -/
theorem abortTeardown_along (hafter : (afterEach r k true).Along R) :
    (abortTeardown r k).Along R := by
  apply Along.bind (frameworkAt_along k)
  intro f
  apply Along.bind (hlog _ _ _)
  intro _
  apply Along.bind hafter
  intro _
  exact along_pure ()

omit hlog in
theorem TeardownRules.abortTeardown (h : TeardownRules r k R) : (abortTeardown r k).Along R :=
  abortTeardown_along (fun _ _ _ => onSite_along h.site (Site.makes_log _ _ _)) (h.afterEach true)

omit hlog [IsPreorder (Bench τ ω κ) R] in
/-- Doing one duty comes out as the duty does, between its two entries in the journal. -/
theorem dischargeOne_ends {handle : Nat} {duty : Duty κ} {b : Bench τ ω κ}
    {Q : Except (Fault τ) (Except (Fault τ) Unit) → Bench τ ω κ → Prop}
    (hd : Ends (discharge r duty) (b.noted (.begun handle duty)) fun ending b' =>
      Q (.ok ending) (b'.noted (.ended handle ending))) :
    Ends (dischargeOne r handle duty) b Q := by
  apply Ends.bind_ok (P := fun b' => b' = b.noted (.begun handle duty)) ⟨rfl, rfl⟩
  rintro _ rfl
  exact Ends.bind_attempt hd fun _ _ h => h

omit hlog in
/-- Doing one duty leads where the duty leads. -/
theorem dischargeOne_along {handle : Nat} {duty : Duty κ}
    (hj : ∀ e, (enterJournal e : BenchM τ ω κ Unit).Along R) (hd : (discharge r duty).Along R) :
    (dischargeOne r handle duty).Along R := by
  apply Along.bind (hj _)
  intro _
  apply Along.bind hd.attempt
  intro ending
  apply Along.bind (hj _)
  intro _
  exact along_pure ending

/-- Doing duties leads where doing each of them leads. -/
theorem dischargeAll_along (duties : List (Nat × Duty κ))
    (hd : ∀ d ∈ duties, (dischargeOne r d.1 d.2).Along R) :
    (dischargeAll r duties).Along R := by
  induction duties with
  | nil => exact along_pure []
  | cons d rest ih =>
    have hrest := ih fun d hmem => hd d (List.mem_cons_of_mem _ hmem)
    have hfirst := hd d (List.mem_cons_self ..)
    apply Along.bind hfirst
    intro ending
    cases ending with
    | ok _ => exact hrest
    | error e =>
      apply along_ite
      · intro _
        exact along_fail e
      · intro _
        apply Along.bind (hlog _ _ _)
        intro _
        apply Along.bind hrest
        intro failures
        exact along_pure _

/-- A drain leads where taking the duties out, and then doing each of them, leads. -/
theorem drain_ends {b : Bench τ ω κ}
    (htake : Ends (takeDuties : BenchM τ ω κ (List (Nat × Duty κ))) b fun _ b' => R b b')
    (hd : ∀ d ∈ b.registry.live, (dischargeOne r d.1 d.2).Along R) :
    Ends (drain r) b fun _ b' => R b b' := by
  have hduties : Ends (takeDuties : BenchM τ ω κ (List (Nat × Duty κ))) b fun r b' =>
      r = .ok b.registry.live.reverse ∧ R b b' := ⟨rfl, htake⟩
  have hall : (dischargeAll r b.registry.live.reverse).Along R := by
    apply dischargeAll_along hlog
    intro d hmem
    exact hd d (List.mem_reverse.1 hmem)
  have hrest : (if b.registry.live.reverse.isEmpty then pure [] else do
      onSite (Site.log .info "cleanup.drain_started"
        [("pending", .count (b.registry.live.reverse.length : Int))])
      let failures ← dischargeAll r b.registry.live.reverse
      onSite (Site.log .info "cleanup.drain_completed"
        [("ran", .count (b.registry.live.reverse.length : Int)),
         ("failed", .count (failures.length : Int))])
      pure failures : BenchM τ ω κ (List (Nat × Fault τ))).Along R := by
    apply along_ite
    · intro _
      exact along_pure _
    · intro _
      apply Along.bind (hlog _ _ _)
      intro _
      apply Along.bind hall
      intro failures
      exact (hlog _ _ _).bind fun _ => along_pure failures
  apply Ends.bind_ok hduties
  intro b₁ h₁
  exact (hrest b₁).mono fun _ _ => trans_of R h₁

end

end Teardown

end Framework

end Testbed
