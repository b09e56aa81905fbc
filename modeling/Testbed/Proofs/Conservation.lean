import Mathlib.Algebra.Order.Group.Multiset
import Mathlib.Tactic.Abel
import Testbed.Proofs.Custody
import Testbed.Proofs.Steps
import Testbed.Scripted.World

/-!
# Conservation of namespaces

No namespace is lost between the moment it is handed to a framework and the moment a teardown
attempts its deletion or says that it keeps it. `Conserves` states this as a balance of names in the
history, for every framework at once; each step of which operations consist leads along it, and so
does every run of steps, whatever the cluster, the hooks and the actions do. `Testbed.Proofs.Ledger`
says what these names are.
-/

set_option autoImplicit false

namespace Testbed

open Proc Bench Framework

variable {τ ω κ : Type}

/-- The names that a framework tracked and those it was handed are the ones that it has attempted
to delete, has kept, or still tracks. -/
def Balanced (k : Nat) (changes : List (Nat × Custody τ)) (b b' : Bench τ ω κ) : Prop :=
  (b.trackedNames k : Multiset String) + (namesOf Custody.takenNames k changes : Multiset String) =
    (namesOf Custody.attemptedNames k changes : Multiset String) +
      (namesOf Custody.keptNames k changes : Multiset String) + (b'.trackedNames k : Multiset String)

namespace Balanced

variable {k : Nat} {changes later : List (Nat × Custody τ)} {b b' b'' : Bench τ ω κ}

theorem of_silent (h : b'.trackedNames k = b.trackedNames k) :
    Balanced (τ := τ) k [] b b' := by
  unfold Balanced
  rw [h]
  simp

theorem trans (h : Balanced k changes b b') (h' : Balanced k later b' b'') :
    Balanced k (changes ++ later) b b'' := by
  unfold Balanced at h h' ⊢
  simp only [namesOf_append, ← Multiset.coe_add]
  rw [← add_assoc, h, add_assoc _ (b'.trackedNames k : Multiset String), h']
  abel

end Balanced

namespace Bench

/-- The second bench is a later one of the same run, and unless a teardown was cut short on the
way, the names of every framework are balanced. -/
def Conserves (b b' : Bench τ ω κ) : Prop :=
  ∃ new, b'.site.events = b.site.events ++ new ∧
    (Undisturbed new → ∀ k, Balanced k (custodies new) b b')

instance : IsPreorder (Bench τ ω κ) Conserves where
  refl b := ⟨[], (List.append_nil _).symm, fun _ _ => .of_silent rfl⟩
  trans := by
    rintro a b c ⟨new, hnew, hab⟩ ⟨later, hlater, hbc⟩
    refine ⟨new ++ later, by rw [hlater, hnew, List.append_assoc], ?_⟩
    intro hcalm k
    rw [Undisturbed.append] at hcalm
    rw [custodies_append]
    exact (hab hcalm.1 k).trans (hbc hcalm.2 k)

/-- Nothing comes into the custody of a framework or leaves it, and no call is made that concerns
namespaces as such. -/
def Idles (b b' : Bench τ ω κ) : Prop :=
  Site.Makes Call.IsNeutral b.site b'.site ∧ ∀ k, b'.trackedNames k = b.trackedNames k

instance : IsPreorder (Bench τ ω κ) Idles where
  refl b := ⟨refl_of (Site.Makes Call.IsNeutral) b.site, fun _ => rfl⟩
  trans := by
    rintro a b c ⟨hmakes, hab⟩ ⟨hmakes', hbc⟩
    refine ⟨trans_of (Site.Makes Call.IsNeutral) hmakes hmakes', ?_⟩
    intro k
    rw [hbc, hab]

theorem Idles.conserves {b b' : Bench τ ω κ} (h : Idles b b') : Conserves b b' := by
  obtain ⟨⟨new, hnew, hamong⟩, htracked⟩ := h
  refine ⟨new, hnew, ?_⟩
  intro _ k
  rw [custodies_eq_nil hamong]
  exact .of_silent (htracked k)

/-- A change that leaves the site and the tracked names as they are. -/
theorem idles_of_site_eq {b b' : Bench τ ω κ} (hsite : b'.site = b.site)
    (htracked : ∀ k, b'.trackedNames k = b.trackedNames k) : Idles b b' := by
  refine ⟨?_, htracked⟩
  rw [hsite]
  exact refl_of (Site.Makes Call.IsNeutral) b.site

theorem AtSite.idles {b b' : Bench τ ω κ} (h : AtSite Call.IsNeutral b b') : Idles b b' := by
  obtain ⟨new, hadds, hamong⟩ := h.adds
  exact ⟨⟨new, hadds.2, hamong⟩, hadds.trackedNames⟩

/-- A change of the bench that leaves its site and the tracked names as they are. -/
theorem idles_modify {g : Bench τ ω κ → Bench τ ω κ} (hsite : ∀ b, (g b).site = b.site)
    (htracked : ∀ b k, (g b).trackedNames k = b.trackedNames k) :
    (modify g : BenchM τ ω κ Unit).Along Idles :=
  along_modify fun b => idles_of_site_eq (hsite b) (htracked b)

theorem update_idles {k : Nat} {g : Framework τ κ → Framework τ κ}
    (h : ∀ f, (g f).tracked = f.tracked) : (update k g : BenchM τ ω κ Unit).Along Idles := by
  refine idles_modify (fun _ => rfl) ?_
  intro b j
  exact trackedNames_modify_eq rfl h j

/-- A change of the registry, and work at the site after it. -/
theorem idles_of_registry {registry : Registry (Duty κ) (Except (Fault τ) Unit)}
    {b b' : Bench τ ω κ} (h : AtSite (fun _ => False) { b with registry } b') : Idles b b' := by
  have hregistry : Idles b { b with registry } := idles_of_site_eq rfl fun _ => rfl
  exact trans_of Idles hregistry (h.mono fun _ => False.elim).idles

theorem register_idles (d : Duty κ) : (register d : BenchM τ ω κ Nat).Along Idles := by
  intro b
  apply (register_ends d b).mono
  rintro _ b' ⟨_, h⟩
  exact idles_of_registry h

theorem unregister_idles (handle : Option Nat) :
    (unregister handle : BenchM τ ω κ Unit).Along Idles := by
  intro b
  apply (unregister_ends handle b).mono
  rintro _ b' ⟨_, h⟩
  exact idles_of_registry h

/-- Namespaces are handed to a framework, and are tracked by it. -/
structure HandsOver (k : Nat) (records : List Namespace.Record) (b b' : Bench τ ω κ) : Prop where
  custody : ∃ new, b'.site.events = b.site.events ++ new ∧ custodies new = [(k, .taken records)]
  tracked : b'.trackedNames k = b.trackedNames k ++ records.map (·.name)
  others : ∀ j, k ≠ j → b'.trackedNames j = b.trackedNames j

theorem handsOver_of_modify {k : Nat} {f : Framework τ κ} {g : Framework τ κ → Framework τ κ}
    {records : List Namespace.Record} {new : List (Event τ)} {b b₁ b₂ : Bench τ ω κ}
    (hf : b.frameworks[k]? = some f) (h : Adds new b b₁)
    (hnew : custodies new = [(k, .taken records)]) (h₂ : Continues [] b₁ b₂)
    (hg : b₂.frameworks = b₁.frameworks.modify k g)
    (htracked : (g f).tracked = f.tracked ++ records) : HandsOver k records b b₂ := by
  have hf₁ : b₁.frameworks[k]? = some f := by rw [h.frameworks, hf]
  refine ⟨⟨new ++ [], (h.continues.trans h₂).2, by simpa using hnew⟩, ?_, ?_⟩
  · rw [trackedNames_of_some hf, trackedNames_modify hg hf₁, htracked, List.map_append]
  · intro j hj
    rw [trackedNames_modify_of_ne hg hj, h.trackedNames]

/-- What is handed over is tracked, and nothing of it is lost. -/
theorem HandsOver.conserves {k : Nat} {records : List Namespace.Record} {b b' : Bench τ ω κ}
    (h : HandsOver k records b b') : Conserves b b' := by
  obtain ⟨new, hevents, hnew⟩ := h.custody
  refine ⟨new, hevents, ?_⟩
  intro _ j
  unfold Balanced
  rw [hnew]
  by_cases hj : k = j
  · subst hj
    rw [h.tracked]
    simp [namesOf, Custody.takenNames, Custody.attemptedNames, Custody.keptNames]
  · have hne : ∀ c ∈ [(k, Custody.taken (τ := τ) records)], c.1 ≠ j := by simpa using hj
    rw [namesOf_of_ne hne, namesOf_of_ne hne, namesOf_of_ne hne, h.others j hj]
    simp

theorem place_idles (settings : Settings τ κ) (client : Option String) :
    (place (Framework.fresh settings client) : BenchM τ ω κ Nat).Along Idles := by
  apply Along.bind along_get
  intro b
  refine Along.bind (idles_modify (fun _ => rfl) ?_) fun _ => along_pure _
  intro b k
  unfold trackedNames
  by_cases hk : k < b.frameworks.length
  · rw [List.getElem?_append_left hk]
  · have hk := Nat.not_lt.1 hk
    rw [List.getElem?_append_right hk, List.getElem?_eq_none hk]
    cases k - b.frameworks.length <;> rfl

theorem takeDuties_idles : (takeDuties : BenchM τ ω κ (List (Nat × Duty κ))).Along Idles := by
  apply Along.bind along_get
  intro b
  apply Along.bind
  · exact idles_modify (fun _ => rfl) fun _ _ => rfl
  · intro _
    exact along_pure _

end Bench

namespace Framework

theorem tracked_foldl_track (records : List (Option Namespace.Record)) (f : Framework τ κ) :
    (records.foldl track f).tracked = f.tracked ++ records.filterMap id := by
  induction records generalizing f with
  | nil => simp
  | cons record rest ih =>
    rw [List.foldl_cons, ih]
    cases record <;> simp [track]

/-- Namespaces from outside are handed to the framework, unless this is missing. -/
theorem trackEach_hands (k : Nat) (records : List (Option Namespace.Record)) (b : Bench τ ω κ) :
    Ends (trackEach k records) b fun r b' =>
      (r = .ok () ∧ HandsOver k (records.filterMap id) b b') ∨
        (∃ e, r = .error e) ∧ b' = b := by
  apply Ends.bind (frameworkAt_found k b)
  · rintro f b ⟨rfl, hf⟩
    apply Ends.bind_ok (record_adds _ b)
    intro b₁ h₁
    apply (update_ends k _ b₁).mono
    rintro _ b₂ ⟨hok, h₂, hg⟩
    exact .inl ⟨hok, handsOver_of_modify hf h₁ rfl h₂ hg (tracked_foldl_track records f)⟩
  · rintro e b ⟨rfl, _⟩
    exact .inr ⟨⟨e, rfl⟩, rfl⟩

theorem trackEach_conserves (k : Nat) (records : List (Option Namespace.Record)) :
    (trackEach k records : BenchM τ ω κ Unit).Along Conserves := by
  intro b
  apply (trackEach_hands k records b).mono
  rintro _ b' (⟨_, h⟩ | ⟨_, rfl⟩)
  · exact h.conserves
  · exact refl_of Conserves b'

section

variable [Seconds τ] [Host τ ω]

/-- What the strategy of a framework gives is handed to the framework, also if it comes inside a
fault, unless the framework is missing. -/
theorem createNamespace_hands (k : Nat) (baseName : String) (labels : Labels) (b : Bench τ ω κ) :
    Ends (createNamespace k baseName labels) b fun r b' =>
      (∃ f b₁, b.frameworks[k]? = some f ∧ (provide f baseName labels).run b = (r, b₁) ∧
        HandsOver k (handedOver r).toList b b') ∨ b' = b ∧ b.frameworks[k]? = none := by
  apply Ends.bind (frameworkAt_found k b)
  · rintro f b ⟨rfl, hf⟩
    apply Ends.bind_attempt ((ends_run _ b).and (provide_atSite f baseName labels b))
    rintro r b₁ ⟨hrun, h₁⟩
    obtain ⟨new, h₁, hnone⟩ := h₁.silent
    apply Ends.bind_ok (record_adds _ b₁)
    intro b₂ h₂
    have hnew : custodies (new ++ [.custody k (.taken (handedOver r).toList)]) =
        [(k, .taken (handedOver r).toList)] := by
      rw [custodies_append, hnone]
      rfl
    cases r with
    | ok record =>
      apply Ends.bind_ok (update_ends k _ b₂)
      rintro b₃ ⟨h₃, hg⟩
      exact .inl ⟨f, b₁, hf, hrun, handsOver_of_modify hf (h₁.trans h₂) hnew h₃ hg rfl⟩
    | error e =>
      apply Ends.bind_ok (update_ends k _ b₂)
      rintro b₃ ⟨h₃, hg⟩
      exact .inl ⟨f, b₁, hf, hrun, handsOver_of_modify hf (h₁.trans h₂) hnew h₃ hg rfl⟩
  · rintro e b ⟨rfl, hnone⟩
    exact .inr ⟨rfl, hnone⟩

theorem createNamespace_conserves (k : Nat) (baseName : String) (labels : Labels) :
    (createNamespace k baseName labels
      : BenchM τ ω κ (Option Namespace.Record)).Along Conserves := by
  intro b
  apply (createNamespace_hands k baseName labels b).mono
  rintro _ b' (⟨_, _, _, _, h⟩ | ⟨rfl, _⟩)
  · exact h.conserves
  · exact refl_of Conserves b'

end

theorem Cleared.conserves {k : Nat} {f : Framework τ κ} {deletes : Bool} {new : List (Event τ)}
    {b b' : Bench τ ω κ} {r : Except (Fault τ) (Report τ)} (hf : b.frameworks[k]? = some f)
    (h : Cleared k deletes new b b' r) : Conserves b b' := by
  refine ⟨new, h.continues.2, ?_⟩
  intro hcalm j
  obtain ⟨_, hrelease, _⟩ := h.release
  have hreset := h.frameworks_eq hcalm
  unfold Balanced
  rw [hrelease.none_taken]
  by_cases hj : k = j
  · subst hj
    rw [trackedNames_modify hreset hf, ← hrelease.all_names (hrelease.ends_ok hcalm)]
    simp [reset]
  · have hne : ∀ c ∈ custodies new, c.1 ≠ j := fun c hc => by
      rw [hrelease.framework_eq hc]
      exact hj
    rw [namesOf_of_ne hne, namesOf_of_ne hne, trackedNames_modify_of_ne hreset hj]
    simp

section

variable [Seconds τ] [Host τ ω]

/-- However the test, its actions and its hook have ended, a teardown loses no namespace. -/
theorem clearAway_conserves (k : Nat) (testFailed : Bool) (before : Except (Fault τ) Unit) :
    (clearAway k testFailed before : BenchM τ ω κ (Report τ)).Along Conserves := by
  intro b
  apply (clearAway_found k testFailed before b).mono
  rintro r b' (⟨f, new, hf, h⟩ | ⟨rfl, _⟩)
  · exact h.conserves hf
  · exact refl_of Conserves b'

/-- Every step of which operations consist leads along a relation if what leaves the namespaces
alone does, and creating, tracking and clearing away do. -/
theorem rules_of_idles {R : Bench τ ω κ → Bench τ ω κ → Prop} [IsPreorder (Bench τ ω κ) R]
    (hidle : ∀ b b', Idles b b' → R b b')
    (hcreate : ∀ k baseName labels, (createNamespace k baseName labels
      : BenchM τ ω κ (Option Namespace.Record)).Along R)
    (htrack : ∀ k records, (trackEach k records : BenchM τ ω κ Unit).Along R)
    (hclear : ∀ k testFailed before, (clearAway k testFailed before
      : BenchM τ ω κ (Report τ)).Along R) : StepRules R := by
  have idle {α : Type} {x : BenchM τ ω κ α} (h : x.Along Idles) : x.Along R := h.mono hidle
  have quiet (b b' : Bench τ ω κ) (hsite : b'.site = b.site)
      (hframeworks : b'.frameworks = b.frameworks) : R b b' := by
    apply hidle
    apply idles_of_site_eq hsite
    intro k
    unfold trackedNames
    rw [hframeworks]
  have htake : (takeDuties : BenchM τ ω κ (List (Nat × Duty κ))).Along R := idle takeDuties_idles
  have hjournal (e : Registry.Entry (Duty κ) (Except (Fault τ) Unit)) :
      (enterJournal e : BenchM τ ω κ Unit).Along R :=
    along_modify fun b => quiet b _ rfl rfl
  have operations : OperationRules R :=
    { site := fun _ _ h => hidle _ _ h.idles
      names := fun b _ => quiet b _ rfl rfl
      trial := fun b _ => quiet b _ rfl rfl
      place := fun settings client => idle (place_idles settings client)
      enroll := fun k => idle ((register_idles _).bind fun _ => update_idles fun _ => rfl)
      withdraw := fun k => idle ((frameworkAt_along k).bind fun f =>
        (unregister_idles _).bind fun _ => update_idles fun _ => rfl)
      register := fun a => idle (register_idles _)
      unregister := fun handle => idle (unregister_idles handle)
      adjust := fun k g hg => idle (update_idles hg.tracked)
      resettle := fun k g => idle (update_idles fun _ => rfl)
      defer := fun k a => idle (update_idles fun _ => rfl)
      create := hcreate
      track := htrack
      clear := hclear }
  exact operations.withDuties htake hjournal

/-- Every step of which operations consist leads along the balance of names. -/
theorem conserves_rules : StepRules (Conserves : Bench τ ω κ → Bench τ ω κ → Prop) :=
  rules_of_idles (fun _ _ => Idles.conserves) createNamespace_conserves trackEach_conserves
    clearAway_conserves

end

end Framework

namespace Scenario

variable [Seconds τ] [Host τ ω]

/-- What happened while steps were performed in order, from the first event to the last. -/
def history (s : Setting τ) (b : Bench τ ω (Body τ)) (steps : List (Step τ)) : List (Event τ) :=
  (traces s b steps).flatMap (·.events)

/-- The bench after steps that were performed in order. -/
def benchAfter (s : Setting τ) (b : Bench τ ω (Body τ)) (steps : List (Step τ)) :
    Bench τ ω (Body τ) :=
  ((traces s b steps).getLast?.map (·.after)).getD b

theorem benchAfter_cons (s : Setting τ) (b : Bench τ ω (Body τ)) (step : Step τ)
    (rest : List (Step τ)) :
    benchAfter s b (step :: rest) = benchAfter s (Trace.of (perform s step) b).after rest := by
  unfold benchAfter
  rw [traces, List.getLast?_cons]
  cases (traces s (Trace.of (perform s step) b).after rest).getLast? <;> rfl

/-- One step of a scenario keeps the balance, unless it is cut short. -/
theorem balanced_step (s : Setting τ) (b : Bench τ ω (Body τ)) (step : Step τ)
    (h : Undisturbed (Trace.of (perform s step) b).events) (k : Nat) :
    Balanced k (custodies (Trace.of (perform s step) b).events) b
      (Trace.of (perform s step) b).after := by
  have hstep := perform_along s conserves_rules step b.restarted
  exact Trace.of_ends (Q := fun _ events after =>
    Undisturbed events → ∀ k, Balanced k (custodies events) b after) hstep h k

/-- Every run of steps keeps the balance, unless one of its teardowns is cut short. -/
theorem balanced_run (s : Setting τ) (b : Bench τ ω (Body τ)) (steps : List (Step τ))
    (h : Undisturbed (history s b steps)) (k : Nat) :
    Balanced k (custodies (history s b steps)) b (benchAfter s b steps) := by
  induction steps generalizing b with
  | nil => exact Balanced.of_silent rfl
  | cons step rest ih =>
    have hcons : history s b (step :: rest) = (Trace.of (perform s step) b).events ++
        history s (Trace.of (perform s step) b).after rest := rfl
    rw [hcons, Undisturbed.append] at h
    rw [hcons, custodies_append, benchAfter_cons]
    exact (balanced_step s b step h.1 k).trans (ih (Trace.of (perform s step) b).after h.2)

/-- A run on stubs of clusters, with the standard configuration. -/
def stubbed : Setting Rat :=
  { suite := .standard, environment := [], host := .container, live := false, extensions := [],
    provider := none }

/-- A framework that brings its client. -/
def equipped : Blueprint Rat (Body Rat) :=
  { baseName := "web", options := none, client := some "client", suite := none,
    fromEnvironment := false, skipNamespace := false, skipServiceAccountWait := false,
    deletionTimeout := none, customCreation := false, provider := none, extensions := none,
    maker := .plain }

end Scenario

end Testbed
