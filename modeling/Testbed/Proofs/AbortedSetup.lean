import Testbed.Framework.Lifecycle
import Testbed.Proofs.Deletions
import Testbed.Proofs.Handover
import Testbed.Scenario.Trace
import Testbed.Scripted.World

/-!
# Setups that are aborted

A setup on a live cluster can be left at any of its calls by a fault that is not ordinary. What it
has obtained from the cluster by then is tracked, so that the teardown that follows attempts its
deletion, unless the fault leaves the wait for the namespace to be in use: then the namespace is
known to nobody.
-/

set_option autoImplicit false

namespace Testbed

open Proc Bench Framework

variable {τ ω κ α β : Type}

/-- An event that has no part in the namespaces of a framework: neither a call that creates, lists,
reads or deletes namespaces, nor a change of the framework's custody. -/
def Event.IsQuiet (k : Nat) : Event τ → Prop
  | .exchange _ c _ => c.IsIncidental
  | .custody j _ => j ≠ k
  | _ => True

namespace Event.IsQuiet

variable {k : Nat} {e : Event τ}

theorem of_among (h : e.Among Call.IsIncidental) : e.IsQuiet k := by
  cases e with
  | exchange time c reply => exact h
  | custody j c => exact h.elim
  | _ => trivial

theorem idle (h : e.IsQuiet k) : e.adopted = [] ∧ e.cutsRead = false := by
  cases e with
  | custody j c => exact ⟨rfl, rfl⟩
  | exchange time c reply => exact Event.Among.idle h
  | _ => exact ⟨rfl, rfl⟩

end Event.IsQuiet

namespace Bench

/-- Nothing has happened that concerns the namespaces of a framework, and it tracks the same ones
under the same settings. -/
def Quiet (k : Nat) (b b' : Bench τ ω κ) : Prop :=
  (∃ new, b'.site.events = b.site.events ++ new ∧ ∀ e ∈ new, e.IsQuiet k) ∧
    b'.trackedNames k = b.trackedNames k ∧ b'.settingsAt k = b.settingsAt k

/-- What was adopted on the way is tracked, unless the read of a namespace was cut. -/
def Secures (k : Nat) (b b' : Bench τ ω κ) : Prop :=
  ∃ new, b'.site.events = b.site.events ++ new ∧ b'.settingsAt k = b.settingsAt k ∧
    b'.trackedNames k = b.trackedNames k ++
      if new.any Event.cutsRead then [] else (new.flatMap Event.adopted).map (·.name)

section

variable {k : Nat} {b b' b'' : Bench τ ω κ}

instance : IsPreorder (Bench τ ω κ) (Quiet k) where
  refl b := ⟨⟨[], (List.append_nil _).symm, by simp⟩, rfl, rfl⟩
  trans := by
    rintro a b c ⟨⟨new, hnew, hquiet⟩, htracked, hsettings⟩
      ⟨⟨later, hlater, hquiet'⟩, htracked', hsettings'⟩
    refine ⟨⟨new ++ later, ?_, ?_⟩, ?_, ?_⟩
    · rw [hlater, hnew, List.append_assoc]
    · intro e he
      exact (List.mem_append.1 he).elim (hquiet e) (hquiet' e)
    · rw [htracked', htracked]
    · rw [hsettings', hsettings]

/-- A quiet stretch adopts nothing and cuts no read. -/
theorem quiet_events {new : List (Event τ)} (h : ∀ e ∈ new, e.IsQuiet k) :
    new.flatMap Event.adopted = [] ∧ new.any Event.cutsRead = false := by
  constructor
  · exact List.flatMap_eq_nil_iff.2 fun e he => (h e he).idle.1
  · apply List.any_eq_false.2
    intro e he
    rw [(h e he).idle.2]
    exact Bool.false_ne_true

theorem Quiet.secures (h : Quiet k b b') : Secures k b b' := by
  obtain ⟨⟨new, hnew, hquiet⟩, htracked, hsettings⟩ := h
  obtain ⟨hadopted, hcut⟩ := quiet_events hquiet
  refine ⟨new, hnew, hsettings, ?_⟩
  rw [htracked, hadopted, hcut]
  simp

theorem Quiet.trans_secures (h : Quiet k b b') (h' : Secures k b' b'') : Secures k b b'' := by
  obtain ⟨⟨new, hnew, hquiet⟩, htracked, hsettings⟩ := h
  obtain ⟨hadopted, hcut⟩ := quiet_events hquiet
  obtain ⟨later, hlater, hsettings', htracked'⟩ := h'
  refine ⟨new ++ later, ?_, ?_, ?_⟩
  · rw [hlater, hnew, List.append_assoc]
  · rw [hsettings', hsettings]
  · rw [htracked', htracked, List.any_append, List.flatMap_append, hadopted, hcut,
      List.nil_append, Bool.false_or]

theorem Secures.trans_quiet (h : Secures k b b') (h' : Quiet k b' b'') : Secures k b b'' := by
  obtain ⟨new, hnew, hsettings, htracked⟩ := h
  obtain ⟨⟨later, hlater, hquiet⟩, htracked', hsettings'⟩ := h'
  obtain ⟨hadopted, hcut⟩ := quiet_events hquiet
  refine ⟨new ++ later, ?_, ?_, ?_⟩
  · rw [hlater, hnew, List.append_assoc]
  · rw [hsettings', hsettings]
  · rw [htracked', htracked, List.any_append, List.flatMap_append, hadopted, hcut,
      List.append_nil, Bool.or_false]

theorem secures_bind {x : BenchM τ ω κ α} {f : α → BenchM τ ω κ β}
    (hx : Ends x b fun _ b' => Secures k b b') (hf : ∀ a, (f a).Along (Quiet k)) :
    Ends (x >>= f) b fun _ b' => Secures k b b' := by
  apply Ends.bind hx
  · intro a b' h
    exact ((hf a) b').mono fun _ _ => h.trans_quiet
  · intro _ b' h
    exact h

theorem quiet_bind {x : BenchM τ ω κ α} {f : α → BenchM τ ω κ β} (hx : x.Along (Quiet k))
    (hf : ∀ a b', Quiet k b b' → Ends (f a) b' fun _ b'' => Secures k b' b'') :
    Ends (x >>= f) b fun _ b' => Secures k b b' := by
  apply Ends.bind (hx b)
  · intro a b' h
    exact (hf a b' h).mono fun _ _ => h.trans_secures
  · intro _ b' h
    exact h.secures

theorem AtSite.quiet (h : AtSite Call.IsIncidental b b') : Quiet k b b' := by
  obtain ⟨new, hadds, hamong⟩ := h.adds
  refine ⟨⟨new, hadds.2, fun e he => .of_among (hamong e he)⟩, hadds.trackedNames k, ?_⟩
  unfold settingsAt
  rw [hadds.frameworks]

theorem quiet_of_eq (hsite : b'.site = b.site) (hframeworks : b'.frameworks = b.frameworks) :
    Quiet k b b' := by
  refine ⟨⟨[], ?_, by simp⟩, ?_, ?_⟩
  · rw [hsite, List.append_nil]
  · unfold trackedNames
    rw [hframeworks]
  · unfold settingsAt
    rw [hframeworks]

end

theorem update_quiet (k : Nat) {g : Framework τ κ → Framework τ κ}
    (hsettings : ∀ f, (g f).toSettings = f.toSettings) (htracked : ∀ f, (g f).tracked = f.tracked) :
    (update k g : BenchM τ ω κ Unit).Along (Quiet k) := by
  intro b
  apply (update_ends k g b).mono
  rintro _ b' ⟨_, hcontinues, hg⟩
  exact ⟨⟨[], hcontinues.2, by simp⟩, trackedNames_modify_eq hg htracked k,
    settingsAt_modify hg hsettings⟩

theorem onSite_quiet {k : Nat} {x : SiteM τ ω α} (h : x.Along (Site.Makes Call.IsIncidental)) :
    (onSite x : BenchM τ ω κ α).Along (Quiet k) :=
  (onSite_atSite h).mono fun _ _ => AtSite.quiet

end Bench

namespace Framework

/-- A change of the registry is quiet together with the handle that a framework then keeps. -/
theorem update_handle_quiet (k : Nat) {registry : Registry (Duty κ) (Except (Fault τ) Unit)}
    {b b' : Bench τ ω κ} (h : AtSite (fun _ => False) { b with registry } b') (handle : Option Nat) :
    Ends (update k fun f => { f with handle } : BenchM τ ω κ Unit) b' fun _ t => Quiet k b t := by
  have hquiet : Quiet k b b' := by
    apply trans_of (Quiet k) (quiet_of_eq rfl rfl)
    exact (h.mono fun _ => False.elim).quiet
  apply (update_quiet k _ _ b').mono
  · exact fun _ _ => trans_of (Quiet k) hquiet
  · exact fun _ => rfl
  · exact fun _ => rfl

theorem enroll_quiet (k : Nat) : (enroll k : BenchM τ ω κ Unit).Along (Quiet k) := by
  intro b
  apply Ends.bind_ok (register_ends _ b)
  intro b' h
  exact update_handle_quiet k h _

theorem withdraw_quiet (k : Nat) : (withdraw k : BenchM τ ω κ Unit).Along (Quiet k) := by
  apply Along.bind (frameworkAt_along k)
  intro f b
  apply Ends.bind_ok (unregister_ends _ b)
  intro b' h
  exact update_handle_quiet k h _

variable [Seconds τ] [Host τ ω]

omit [Seconds τ] [Host τ ω] in
/-- The stages of a setup other than the creation are quiet. -/
theorem quiet_stages (k : Nat) : StageRules k (Quiet k : Bench τ ω κ → Bench τ ω κ → Prop) where
  site _ _ h := (h.mono fun _ => Call.IsNeutral.isIncidental).quiet
  adjust _ hg := update_quiet k hg.settings hg.tracked

/-- What a live cluster provides, or the fault of the creation carries, is what was adopted unless a
read was cut. -/
theorem provide_handsOver {f : Framework τ κ} {config : Config.Suite τ}
    (hlive : f.cluster = .live config) (hown : f.customCreation = false) (baseName : String)
    (labels : Labels) (b : Bench τ ω κ) :
    Ends (provide f baseName labels) b fun r b' => ∃ new, Adds new b b' ∧
      (handedOver r).toList =
        if new.any Event.cutsRead then [] else new.flatMap Event.adopted := by
  unfold provide
  rw [hown, hlive]
  cases hclient : f.client with
  | none =>
    refine ⟨[], ?_, ?_⟩
    · unfold clientOf
      rw [hclient]
      exact Adds.refl b
    · unfold clientOf
      rw [hclient]
      rfl
  | some client =>
    have hclientOf : Ends (clientOf f : BenchM τ ω κ String) b fun r b' =>
        r = .ok client ∧ b' = b := by
      unfold clientOf
      rw [hclient]
      exact ⟨rfl, rfl⟩
    apply Ends.bind_ok hclientOf
    rintro b rfl
    show Ends (some <$> onSite (Namespace.createThrough client baseName labels _ _)) b _
    apply Ends.map
    apply Ends.focus
    apply (Namespace.create_handsOver client baseName labels _ _ b.site).mono
    rintro r t ⟨_, _, ⟨new, hnew, rfl, rfl⟩, hhanded⟩
    exact ⟨new, ⟨rfl, hnew⟩, hhanded⟩

omit [Seconds τ] [Host τ ω] in
theorem frameworkAt_settings {k : Nat} {b : Bench τ ω κ} {settings : Settings τ κ}
    (hsettings : b.settingsAt k = some settings) :
    ∃ f, b.frameworks[k]? = some f ∧ f.toSettings = settings :=
  Option.map_eq_some_iff.1 hsettings

theorem createNamespace_secures {k : Nat} {b : Bench τ ω κ} {settings : Settings τ κ}
    {config : Config.Suite τ} (hsettings : b.settingsAt k = some settings)
    (hlive : settings.cluster = .live config) (hown : settings.customCreation = false)
    (baseName : String) (labels : Labels) :
    Ends (createNamespace k baseName labels) b fun _ b' => Secures k b b' := by
  obtain ⟨f, hf, rfl⟩ := frameworkAt_settings hsettings
  apply Ends.bind_ok (frameworkAt_ends hf)
  rintro b rfl
  apply Ends.bind_attempt (provide_handsOver hlive hown baseName labels b)
  rintro r b₁ ⟨new, h₁, hhanded⟩
  apply Ends.bind_ok (record_adds _ b₁)
  intro b₂ h₂
  have h := h₁.trans h₂
  have tracks {b₃ : Bench τ ω κ} (h₃ : Continues [] b₂ b₃)
      (hg : b₃.frameworks = b₂.frameworks.modify k (·.track (handedOver r))) :
      Secures k b b₃ := by
    rw [h.frameworks] at hg
    refine ⟨_, (h.continues.trans h₃).2, ?_, ?_⟩
    · unfold settingsAt
      rw [hg, List.getElem?_modify_eq, hf]
      rfl
    · rw [trackedNames_modify hg hf, trackedNames_of_some hf]
      have hidle (c : Custody τ) : [Event.custody k c].flatMap Event.adopted = [] ∧
          [Event.custody k c].any Event.cutsRead = false := ⟨rfl, rfl⟩
      rw [List.append_nil, List.any_append, List.flatMap_append, (hidle _).1, (hidle _).2,
        Bool.or_false, List.append_nil]
      show (f.tracked ++ (handedOver r).toList).map _ = _
      rw [hhanded, List.map_append]
      split <;> rfl
  cases r with
  | ok record =>
    apply Ends.bind_ok (update_ends k _ b₂)
    rintro b₃ ⟨h₃, hg⟩
    exact tracks h₃ hg
  | error e =>
    apply Ends.bind_ok (update_ends k _ b₂)
    rintro b₃ ⟨h₃, hg⟩
    exact tracks h₃ hg

section

variable {r : Runner τ ω κ} {k : Nat} {b : Bench τ ω κ} {settings : Settings τ κ}
  {config : Config.Suite τ} (hsettings : b.settingsAt k = some settings)
  (hlive : settings.cluster = .live config) (hown : settings.customCreation = false)

include hsettings hlive hown

theorem createOwn_secures :
    Ends (createOwn k : BenchM τ ω κ Unit) b fun _ b' => Secures k b b' := by
  have hstages : StageRules k (Quiet k : Bench τ ω κ → Bench τ ω κ → Prop) := quiet_stages k
  apply quiet_bind (frameworkAt_along k)
  intro f b₁ h₁
  apply quiet_bind (note_along hstages.site _ _ _ _)
  intro _ b₂ h₂
  have hcreate : Ends (inStage f.baseName "namespace"
      (createNamespace k f.baseName (ownerLabels f.baseName))) b₂ fun _ b' => Secures k b₂ b' := by
    have hsettings₂ : b₂.settingsAt k = some settings := by rw [h₂.2.2, h₁.2.2, hsettings]
    apply Ends.rescue (createNamespace_secures hsettings₂ hlive hown _ _)
    · intro _ b' h
      exact h
    · intro e b' h
      apply Ends.ite
      · intro _
        exact h
      · intro _
        exact h
  apply secures_bind hcreate
  intro ns
  exact hstages.along (madeOf_moveIn (fun _ _ => trivial) f ns)

variable (hhook : ∀ p, settings.provider = some p → (r.perform (some k) p.before).Along (Quiet k))

omit [Seconds τ] hlive hown in
include hhook in
/-- A hook is quiet if its body is. -/
theorem hook_quiet : Ends (hook r k .before) b fun _ b' => Quiet k b b' := by
  obtain ⟨f, hf, rfl⟩ := frameworkAt_settings hsettings
  apply Ends.bind_ok (frameworkAt_ends hf)
  rintro b rfl
  cases hprovider : f.provider with
  | none => exact refl_of (Quiet k) b
  | some p =>
    have hmark : (onSite (Site.mark (.hook .before f.baseName)) : BenchM τ ω κ Unit).Along
        (Quiet k) := onSite_quiet (Site.makes_mark _)
    exact (hmark.bind fun _ => hhook p hprovider) b

include hhook

theorem prepare_secures (component : Option String) :
    Ends (prepare r k component) b fun _ b' => Secures k b b' := by
  have hstages : StageRules k (Quiet k : Bench τ ω κ → Bench τ ω κ → Prop) := quiet_stages k
  apply quiet_bind (hstages.along (.step (.connect component)))
  intro _ b₁ h₁
  have hsettings₁ : b₁.settingsAt k = some settings := by rw [h₁.2.2, hsettings]
  have hrest (b₂ : Bench τ ω κ) (h₂ : Quiet k b₁ b₂) :
      Ends (frameworkAt k >>= fun f => if f.skipNamespace then nameOnly k else createOwn k) b₂
        fun _ b' => Secures k b₂ b' := by
    apply quiet_bind (frameworkAt_along k)
    intro f b₃ h₃
    apply Ends.ite
    · intro _
      exact (hstages.along madeOf_nameOnly b₃).mono fun _ _ h => h.secures
    · intro _
      have hsettings₃ : b₃.settingsAt k = some settings := by rw [h₃.2.2, h₂.2.2, hsettings₁]
      exact createOwn_secures hsettings₃ hlive hown
  apply Ends.bind (hook_quiet hsettings₁ hhook)
  · intro _ b₂ h₂
    exact (hrest b₂ h₂).mono fun _ _ => h₂.trans_secures
  · intro _ b₂ h₂
    exact h₂.secures

/-- However a setup ends, what it has adopted is tracked, unless the read of a namespace was cut. -/
theorem beforeEach_secures (component : Option String) :
    Ends (beforeEach r k component) b fun _ b' => Secures k b b' := by
  apply quiet_bind (enroll_quiet k)
  intro _ b₁ h₁
  apply quiet_bind (frameworkAt_along k)
  intro f b₂ h₂
  have hsettings₂ : b₂.settingsAt k = some settings := by rw [h₂.2.2, h₁.2.2, hsettings]
  apply Ends.bind_attempt (prepare_secures hsettings₂ hlive hown hhook component)
  intro ending b₃ h₃
  apply Ends.bind_ok (record_adds _ b₃)
  intro b₄ h₄
  have hspan : AtSite Call.IsIncidental b₃ b₄ := ⟨h₄.1, _, h₄.2, by simp [Event.Among]⟩
  exact h₃.trans_quiet hspan.quiet

end

/-- Up to the deletions a teardown is quiet if its actions and its hook are. -/
theorem woundUp_quiet {r : Runner τ ω κ} {k : Nat}
    (hb : ∀ body, (r.perform (some k) body).Along (Quiet k)) (testFailed : Bool) (b : Bench τ ω κ) :
    Quiet k b (woundUp r k testFailed b).2 := by
  have hrules : PartRules r k (Quiet k) := { quiet_stages k with body := hb }
  have hwinds := hrules.windAlong (madeOf_windUp (fun _ _ => trivial) testFailed)
  exact trans_of (Quiet k) (withdraw_quiet k b) (hwinds _)

/-- A teardown that deletes, and that is not cut short, attempts every namespace that is tracked, if
its actions and its hook leave them alone. -/
theorem afterEach_attempts {r : Runner τ ω κ} {k : Nat} {b : Bench τ ω κ}
    {settings : Settings τ κ} (hsettings : b.settingsAt k = some settings) {testFailed : Bool}
    (hdeletes : settings.suite.deletesAfter testFailed = true)
    (hb : ∀ body, (r.perform (some k) body).Along (Quiet k)) :
    Ends (afterEach r k testFailed) b fun _ b' => ∃ new, b'.site.events = b.site.events ++ new ∧
      (Undisturbed new →
        namesOf Custody.attemptedNames k (custodies new) = b.trackedNames k ∧
          AsksFor r k testFailed b b' (b.trackedNames k)) := by
  obtain ⟨⟨first, hfirst, hquiet⟩, htracked, hkept⟩ := woundUp_quiet hb testFailed b
  obtain ⟨f, hf, _⟩ := frameworkAt_settings hsettings
  obtain ⟨g, hg, rfl⟩ := frameworkAt_settings (hkept.trans hsettings)
  rw [trackedNames_of_some hg] at htracked
  apply (afterEach_deletes hf hg hdeletes).mono
  rintro ending b' ⟨new, attempts, ended, hevents, hdone⟩
  refine ⟨first ++ new ++ [.span ended], by simp [hevents, hfirst], ?_⟩
  intro hcalm
  rw [Undisturbed.append, Undisturbed.append] at hcalm
  have hattempts := hdone.isCalm_of_undisturbed hcalm.1.2
  have hnone : namesOf Custody.attemptedNames k (custodies first) = [] := by
    apply namesOf_of_ne
    intro c hc
    exact hquiet _ (mem_custodies.1 hc)
  have hspan : custodies [Event.span (τ := τ) ended] = [] := rfl
  rw [← htracked]
  refine ⟨?_, hdone.asksFor hg hevents hattempts⟩
  rw [custodies_append, custodies_append, namesOf_append, namesOf_append, hnone, hspan, namesOf_nil,
    List.append_nil, List.nil_append, hdone.names_eq, hdone.all hattempts]

/-- No lookup finds more than one namespace. -/
def SingleFinds (events : List (Event τ)) : Prop := ∀ e ∈ events, e.obtained.length ≤ 1

instance (events : List (Event τ)) : Decidable (SingleFinds events) :=
  inferInstanceAs (Decidable (∀ e ∈ events, e.obtained.length ≤ 1))

omit [Seconds τ] [Host τ ω] in
/-- If lookups find one namespace at most, all that is obtained is adopted. -/
theorem SingleFinds.obtained_eq_adopted {events : List (Event τ)} (h : SingleFinds events) :
    events.flatMap Event.obtained = events.flatMap Event.adopted := by
  rw [List.flatMap_def, List.flatMap_def]
  apply congrArg List.flatten
  apply List.map_congr_left
  intro e he
  have hlen := h e he
  unfold Event.obtained at hlen ⊢
  unfold Event.adopted
  split
  · rfl
  · rename_i found
    cases found with
    | nil => rfl
    | cons first rest =>
      simp only [List.length_map, List.length_cons] at hlen
      have hrest : rest = [] := List.eq_nil_of_length_eq_zero (by omega)
      rw [hrest]
      rfl
  · rfl

/-- A setup that is left in any way adds to the tracked namespaces what it has adopted, or nothing if
the read of a namespace was cut. So where lookups find one namespace at most, all that the setup has
obtained from the cluster is tracked exactly if no read was cut, or all of it was tracked before.
What is tracked is what a teardown after it asks to be deleted, and reports as attempted. -/
theorem obtained_tracked_iff {r : Runner τ ω κ} {k : Nat} {b : Bench τ ω κ}
    {settings : Settings τ κ} {config : Config.Suite τ} (hsettings : b.settingsAt k = some settings)
    (hlive : settings.cluster = .live config) (hown : settings.customCreation = false)
    (hhook : ∀ p, settings.provider = some p → (r.perform (some k) p.before).Along (Quiet k))
    (component : Option String) :
    let setup := Trace.of (beforeEach r k component) b
    let teardown := Trace.of (afterEach r k true) setup.after
    (setup.after.trackedNames k = b.trackedNames k ++
      if setup.events.any Event.cutsRead then []
      else (setup.events.flatMap Event.adopted).map (·.name)) ∧
    (SingleFinds setup.events →
      ((∀ n ∈ setup.events.flatMap Event.obtained, n.name ∈ setup.after.trackedNames k) ↔
        (setup.events.any Event.cutsRead = false ∨
          ∀ n ∈ setup.events.flatMap Event.obtained, n.name ∈ b.trackedNames k))) ∧
    (settings.suite.deletesAfter true = true →
      (∀ body, (r.perform (some k) body).Along (Quiet k)) → Undisturbed teardown.events →
        namesOf Custody.attemptedNames k (custodies teardown.events) =
            setup.after.trackedNames k ∧
          AsksFor r k true setup.after.restarted teardown.after (setup.after.trackedNames k)) := by
  intro setup teardown
  have hsetup := beforeEach_secures (b := b.restarted) hsettings hlive
    hown hhook component
  obtain ⟨hsettings', htracked⟩ := Trace.of_ends (Q := fun _ events after =>
    after.settingsAt k = b.settingsAt k ∧ after.trackedNames k = b.trackedNames k ++
      if events.any Event.cutsRead then [] else (events.flatMap Event.adopted).map (·.name)) hsetup
  refine ⟨htracked, ?_, ?_⟩
  · intro hsingle
    rw [htracked, hsingle.obtained_eq_adopted]
    cases setup.events.any Event.cutsRead with
    | true => simp
    | false =>
      simp only [Bool.false_eq_true, if_false, true_or, iff_true]
      intro n hn
      exact List.mem_append_right _ (List.mem_map_of_mem hn)
  · intro hdeletes hb hcalm
    rw [hsettings] at hsettings'
    have hteardown := afterEach_attempts
      (b := setup.after.restarted) hsettings' hdeletes hb
    exact Trace.of_ends (Q := fun _ events after => Undisturbed events →
      namesOf Custody.attemptedNames k (custodies events) = setup.after.trackedNames k ∧
        AsksFor r k true setup.after.restarted after (setup.after.trackedNames k)) hteardown hcalm

/-- A bench with one framework that has a client, the standard configuration and no provider. -/
def lone (cluster : Cluster Rat) (world : Scripted.World Rat) :
    Bench Rat (Scripted.World Rat) Unit :=
  { Bench.start world with
    frameworks := [.fresh
      { baseName := "web", options := .standard, suite := .standard, cluster, provider := none,
        customCreation := false, skipNamespace := false, skipServiceAccountWait := false,
        deletionTimeout := none } (some "client")] }

/-- Bodies that do nothing. -/
def idleRunner : Runner Rat (Scripted.World Rat) Unit := ⟨fun _ _ => pure (), 1⟩

/-- A setup on a live cluster where an interrupt hits the first read of the new namespace. -/
def interruptedSetup : Trace Rat (Scripted.World Rat) Unit Unit :=
  Trace.of (beforeEach idleRunner 0 none) <| lone (.live .standard) <|
    .start 0 [("api.read_namespace", [⟨some 1, 0, .raise (.plain .keyboardInterrupt [])⟩])] []

/-- The namespace that was created is not tracked, so the teardown that follows leaves it. -/
theorem interruptedSetup_loses :
    interruptedSetup.events.flatMap (fun e => e.obtained.map (·.name)) = ["web-00001"] ∧
      interruptedSetup.after.trackedNames 0 = [] ∧
      namesOf Custody.attemptedNames 0
        (custodies (Trace.of (afterEach idleRunner 0 true) interruptedSetup.after).events) = [] ∧
      (requestsIn (Trace.of (afterEach idleRunner 0 true) interruptedSetup.after).events).length
        = 0 := by
  decide +kernel

theorem obtained_tracked_iff_interruptedSetup :
    let teardown := Trace.of (afterEach idleRunner 0 true) interruptedSetup.after
    SingleFinds interruptedSetup.events ∧ interruptedSetup.events.any Event.cutsRead = true ∧
      ((∀ n ∈ interruptedSetup.events.flatMap Event.obtained,
          n.name ∈ interruptedSetup.after.trackedNames 0) ↔
        (interruptedSetup.events.any Event.cutsRead = false ∨
          ∀ n ∈ interruptedSetup.events.flatMap Event.obtained, n.name ∈ ([] : List String))) ∧
      namesOf Custody.attemptedNames 0 (custodies teardown.events) =
        interruptedSetup.after.trackedNames 0 ∧
      AsksFor idleRunner 0 true interruptedSetup.after.restarted teardown.after
        (interruptedSetup.after.trackedNames 0) := by
  intro teardown
  have hsingle : SingleFinds interruptedSetup.events := by decide +kernel
  have hcalm : Undisturbed teardown.events := by decide +kernel
  obtain ⟨_, htracked, hattempts⟩ := obtained_tracked_iff (r := idleRunner) (k := 0)
    (b := lone (.live .standard) _) rfl rfl rfl (by rintro p ⟨⟩) none
  exact ⟨hsingle, by decide +kernel, htracked hsingle,
    hattempts rfl (fun _ => along_pure ()) hcalm⟩

end Framework

end Testbed
