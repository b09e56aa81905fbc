import Mathlib.Data.List.Basic
import Testbed.Proofs.Parts
import Testbed.Proofs.Upholding

/-!
# The stages of a setup

A setup makes a client, runs the hook of the provider, creates a namespace, waits for its service
account, and names the framework. Which of these stages it has depends on the framework and its
settings. Each stage changes only the part of the framework that it is for, and a setup that goes
through some of them keeps what all of these keep.
-/

set_option autoImplicit false

namespace Testbed

open Proc Bench Framework

variable {τ ω κ α β : Type}

/-- The stages of a setup. -/
inductive SetupStage where
  /-- A client is made. -/
  | connection
  /-- The provider's hook runs. -/
  | hook
  /-- The namespace is created. -/
  | creation
  /-- The default service account of the namespace is waited for. -/
  | account
  /-- The framework gets a name of its own. -/
  | naming
  deriving DecidableEq, Repr

namespace SetupStage

/-- The name under which a fault tells of the stage, if it does. -/
def title? : SetupStage → Option String
  | .connection => some "client"
  | .creation => some "namespace"
  | .account => some "service account"
  | .hook | .naming => none

/-- What comes out of a setup if the stage raises a fault. -/
def raises [Seconds τ] (s : SetupStage) (baseName : String) (e : Fault τ) : Fault τ :=
  match s.title? with
  | some title => if e.isOrdinary then .setup baseName title e.message (some e) else e
  | none => e

/-- What the stage does by itself. -/
def work [Seconds τ] [Host τ ω] (r : Runner τ ω κ) (k : Nat) (component : Option String) :
    SetupStage → BenchM τ ω κ Unit
  | .connection => do
    let f ← frameworkAt k
    let client ← onSite (Cluster.connect f.options component)
    update k fun f => { f with client := some client, ownsClient := true }
  | .hook => do
    let f ← frameworkAt k
    match f.provider with
    | some p => r.perform (some k) p.before
    | none => pure ()
  | .creation => do
    let f ← frameworkAt k
    let ns ← createNamespace k f.baseName (ownerLabels f.baseName)
    update k fun f => { f with ns }
  | .account => do
    let f ← frameworkAt k
    let record ← present f.ns
    let client ← clientOf f
    onSite (f.cluster.awaitServiceAccount record.name client)
  | .naming => do
    let f ← frameworkAt k
    if f.skipNamespace then nameOnly k
    else do
      let record ← present f.ns
      update k fun f => { f with uniqueName := some record.name }
      note f .info "before_each.completed" [("namespace", .text record.name)]

end SetupStage

/-- The stages of a namespace: none, or its creation, and its service account unless the suite or the
framework is set not to wait for it. -/
def Settings.housing (s : Settings τ κ) : List SetupStage :=
  if s.skipNamespace then []
  else .creation ::
    if s.suite.verifyServiceAccount && !s.skipServiceAccountWait then [.account] else []

/-- The stages that a setup of the framework is to go through. -/
def Framework.plan (f : Framework τ κ) : List SetupStage :=
  (if f.client.isSome then [] else [.connection]) ++
    ((if f.provider.isSome then [.hook] else []) ++ (f.housing ++ [.naming]))

/-- Stages come in one order, and none comes twice. -/
theorem Framework.plan_sublist (f : Framework τ κ) :
    f.plan.Sublist [.connection, .hook, .creation, .account, .naming] := by
  unfold plan Settings.housing
  cases f.client.isSome <;> cases f.provider.isSome <;> cases f.skipNamespace <;>
    cases f.suite.verifyServiceAccount <;> cases f.skipServiceAccountWait <;> decide

theorem Framework.plan_nodup (f : Framework τ κ) : f.plan.Nodup := by
  have hstages :
      [SetupStage.connection, .hook, .creation, .account, .naming].Nodup := by decide
  exact f.plan_sublist.nodup hstages

/-- Nothing comes behind the naming. -/
theorem Framework.plan_behind_naming {f : Framework τ κ} {before later : List SetupStage}
    (h : f.plan = before ++ .naming :: later) : later = [] := by
  have hlast : f.plan.getLast? = some .naming := by simp [plan]
  have hnodup := f.plan_nodup
  rw [h] at hlast hnodup
  cases later with
  | nil => rfl
  | cons s rest =>
    rw [List.getLast?_append_cons, List.getLast?_cons_cons] at hlast
    exact absurd (List.mem_of_getLast? hlast) (List.nodup_cons.1 (List.nodup_append.1 hnodup).2.1).1

/-- Whether an event is an entry in the log or a mark. -/
def Event.isNote : Event τ → Bool
  | .log _ | .mark .. => true
  | _ => false

/-- Nothing has happened but that entries were logged and marks were left. -/
def Bench.Annotated (b b' : Bench τ ω κ) : Prop :=
  SiteOnly b b' ∧ ∃ new, b'.site = b.site.recorded new ∧ ∀ e ∈ new, e.isNote = true

namespace Bench

theorem Annotated.refl (b : Bench τ ω κ) : Annotated b b := ⟨rfl, [], rfl, by simp⟩

theorem Annotated.frameworks {b b' : Bench τ ω κ} (h : Annotated b b') :
    b'.frameworks = b.frameworks := h.1.frameworks

theorem note_annotated (f : Framework τ κ) (level : Level) (name : String)
    (fields : List (String × Detail τ)) (b : Bench τ ω κ) :
    Ends (note f level name fields) b fun r b' => r = .ok () ∧ Annotated b b' := by
  apply (record_ends _ b).mono
  rintro r b' ⟨hr, hsame, hs⟩
  exact ⟨hr, hsame, _, hs, by simp [Event.isNote]⟩

theorem mark_annotated [Host τ ω] (m : Mark) (b : Bench τ ω κ) :
    Ends (onSite (Site.mark m) : BenchM τ ω κ Unit) b fun r b' => r = .ok () ∧ Annotated b b' :=
  ⟨rfl, rfl, [_], rfl, by simp [Event.isNote]⟩

end Bench

/-- A stage of one run: where it starts, how it ends, and where. -/
structure Passage (τ ω κ : Type) where
  stage : SetupStage
  start : Bench τ ω κ
  ending : Except (Fault τ) Unit
  stop : Bench τ ω κ

section Passes

variable [Seconds τ] [Host τ ω]

/-- The work of the stage goes this way. -/
def Passage.Runs (r : Runner τ ω κ) (k : Nat) (component : Option String) (p : Passage τ ω κ) : Prop :=
  (p.stage.work r k component).run p.start = (p.ending, p.stop)

/-- A setup that is to go through the stages goes through these passages, ends this way, and leads
from the first bench to the second. Nothing but notes comes between the passages. -/
inductive Passes (r : Runner τ ω κ) (k : Nat) (component : Option String) (baseName : String) :
    List SetupStage → List (Passage τ ω κ) → Except (Fault τ) Unit → Bench τ ω κ → Bench τ ω κ → Prop
  | done (b : Bench τ ω κ) : Passes r k component baseName [] [] (.ok ()) b b
  | halt {plan : List SetupStage} {b : Bench τ ω κ} {p : Passage τ ω κ} {e : Fault τ}
      (leads : Annotated b p.start) (runs : p.Runs r k component) (raised : p.ending = .error e) :
      Passes r k component baseName (p.stage :: plan) [p] (.error (p.stage.raises baseName e)) b p.stop
  | next {plan : List SetupStage} {ps : List (Passage τ ω κ)} {b b' : Bench τ ω κ}
      {p : Passage τ ω κ} {ending : Except (Fault τ) Unit} (leads : Annotated b p.start)
      (runs : p.Runs r k component) (well : p.ending = .ok ())
      (rest : Passes r k component baseName plan ps ending p.stop b') :
      Passes r k component baseName (p.stage :: plan) (p :: ps) ending b b'

namespace Passes

variable {r : Runner τ ω κ} {k : Nat} {component : Option String} {baseName : String}
  {plan : List SetupStage} {ps : List (Passage τ ω κ)} {ending : Except (Fault τ) Unit}
  {b b' : Bench τ ω κ}

theorem runs (h : Passes r k component baseName plan ps ending b b') :
    ∀ p ∈ ps, p.Runs r k component := by
  induction h with
  | done => simp
  | halt _ runs _ => simpa using runs
  | next _ runs _ _ ih => exact List.forall_mem_cons.2 ⟨runs, ih⟩

/-- The stages are gone through in their order, from the first one on. -/
theorem order (h : Passes r k component baseName plan ps ending b b') :
    ps.map Passage.stage <+: plan := by
  induction h with
  | done => exact List.nil_prefix
  | halt _ _ _ => exact List.cons_prefix_cons.2 ⟨rfl, List.nil_prefix⟩
  | next _ _ _ _ ih => exact List.cons_prefix_cons.2 ⟨rfl, ih⟩

/-- No stage comes behind one that has raised a fault. -/
theorem halts (h : Passes r k component baseName plan ps ending b b') :
    ∀ p ∈ ps.dropLast, p.ending = .ok () := by
  induction h with
  | done => simp
  | halt _ _ _ => simp
  | @next _ ps _ _ p _ _ _ well _ ih =>
    cases ps with
    | nil => simp
    | cons q qs =>
      rw [List.dropLast_cons_cons]
      exact List.forall_mem_cons.2 ⟨well, ih⟩

/-- The fault of a stage is told as that of the setup, which stops there. -/
theorem tells (h : Passes r k component baseName plan ps ending b b') : ∀ p ∈ ps, ∀ e,
    p.ending = .error e → ending = .error (p.stage.raises baseName e) ∧ b' = p.stop := by
  induction h with
  | done => simp
  | halt _ _ raised =>
    simp only [List.mem_singleton]
    rintro p rfl e he
    rw [raised] at he
    cases he
    exact ⟨rfl, rfl⟩
  | next _ _ well _ ih =>
    refine List.forall_mem_cons.2 ⟨?_, ih⟩
    intro e he
    rw [well] at he
    cases he

/-- A setup of which no stage raises a fault goes through all of them and ends well. -/
theorem whole (h : Passes r k component baseName plan ps ending b b')
    (hwell : ∀ p ∈ ps, p.ending = .ok ()) : ps.map Passage.stage = plan ∧ ending = .ok () := by
  induction h with
  | done => exact ⟨rfl, rfl⟩
  | halt _ _ raised =>
    rw [hwell _ (List.mem_singleton_self _)] at raised
    cases raised
  | next _ _ _ _ ih =>
    obtain ⟨hstages, hending⟩ := ih fun p hp => hwell p (List.mem_cons_of_mem _ hp)
    exact ⟨congrArg _ hstages, hending⟩

/-- Behind a stage that has ended well, the setup goes through the rest of its plan. -/
theorem behind (h : Passes r k component baseName plan ps ending b b') {p : Passage τ ω κ}
    (hp : p ∈ ps) (hwell : p.ending = .ok ()) : ∃ before later qs, plan = before ++ p.stage :: later ∧
      qs ⊆ ps ∧ Passes r k component baseName later qs ending p.stop b' := by
  induction h with
  | done => cases hp
  | halt _ _ raised =>
    rw [List.mem_singleton.1 hp, raised] at hwell
    cases hwell
  | @next plan ps _ _ q _ _ _ _ rest ih =>
    rcases List.mem_cons.1 hp with rfl | hp
    · exact ⟨[], plan, ps, rfl, List.subset_cons_self _ _, rest⟩
    · obtain ⟨before, later, qs, hplan, hqs, hlater⟩ := ih hp
      exact ⟨q.stage :: before, later, qs, by rw [hplan]; rfl, List.subset_cons_of_subset _ hqs, hlater⟩

end Passes

end Passes

namespace Bench

/-- The framework is still there with the same part, and its registered teardowns are live as before. -/
structure Retains (part : Framework τ κ → β) (k : Nat) (b b' : Bench τ ω κ) : Prop where
  found : ∀ f, b.frameworks[k]? = some f → ∃ g, b'.frameworks[k]? = some g ∧ part g = part f
  live : ∀ h, (h, Duty.teardown k) ∈ b.registry.live → (h, Duty.teardown k) ∈ b'.registry.live

section Retains

variable {part : Framework τ κ → β} {k : Nat} {b b' : Bench τ ω κ}

instance : IsPreorder (Bench τ ω κ) (Retains part k) where
  refl _ := ⟨fun f hf => ⟨f, hf, rfl⟩, fun _ h => h⟩
  trans := by
    rintro a b c ⟨hfound, hlive⟩ ⟨hfound', hlive'⟩
    refine ⟨?_, fun h hmem => hlive' h (hlive h hmem)⟩
    intro f hf
    obtain ⟨g, hg, hsame⟩ := hfound f hf
    obtain ⟨g', hg', hsame'⟩ := hfound' g hg
    exact ⟨g', hg', hsame'.trans hsame⟩

theorem Retains.kept (h : Retains part k b b') {f g : Framework τ κ} (hf : b.frameworks[k]? = some f)
    (hg : b'.frameworks[k]? = some g) : part g = part f := by
  obtain ⟨g', hg', hsame⟩ := h.found f hf
  rw [hg, Option.some_inj] at hg'
  rw [hg', hsame]

theorem Retains.mono {γ : Type} {part' : Framework τ κ → γ} (h : Retains part k b b')
    (hpart : ∀ f g, part g = part f → part' g = part' f) : Retains part' k b b' := by
  refine ⟨?_, h.live⟩
  intro f hf
  obtain ⟨g, hg, hsame⟩ := h.found f hf
  exact ⟨g, hg, hpart f g hsame⟩

theorem SiteOnly.retains (h : SiteOnly b b') : Retains part k b b' := by
  rw [h]
  exact ⟨fun f hf => ⟨f, hf, rfl⟩, fun _ h => h⟩

theorem onSite_retains (x : SiteM τ ω α) : (onSite x : BenchM τ ω κ α).Along (Retains part k) :=
  fun _ => SiteOnly.retains rfl

theorem update_retains {g : Framework τ κ → Framework τ κ} (hg : ∀ f, part (g f) = part f) :
    (update k g : BenchM τ ω κ Unit).Along (Retains part k) := by
  intro b
  refine ⟨?_, fun _ h => h⟩
  intro f hf
  refine ⟨g f, ?_, hg f⟩
  show (b.frameworks.modify k g)[k]? = _
  rw [List.getElem?_modify_eq, hf]
  rfl

end Retains

end Bench

section Kept

variable [Seconds τ] [Host τ ω] {r : Runner τ ω κ} {k : Nat} {component : Option String}
  {baseName : String} {plan : List SetupStage} {ps : List (Passage τ ω κ)}
  {ending : Except (Fault τ) Unit} {b b' : Bench τ ω κ} {part : Framework τ κ → β}

/-- What every passage keeps is kept. -/
theorem Passes.retains (h : Passes r k component baseName plan ps ending b b')
    (hall : ∀ p ∈ ps, Retains part k p.start p.stop) : Retains part k b b' := by
  induction h with
  | done b => exact refl_of (Retains part k) b
  | halt leads _ _ =>
    exact trans_of (Retains part k) leads.1.retains (hall _ (List.mem_singleton_self _))
  | next leads _ _ _ ih =>
    obtain ⟨hhead, htail⟩ := List.forall_mem_cons.1 hall
    exact trans_of (Retains part k) leads.1.retains (trans_of (Retains part k) hhead (ih htail))

/-- What every passage keeps is there where each of them starts. -/
theorem Passes.reaches (h : Passes r k component baseName plan ps ending b b')
    (hall : ∀ p ∈ ps, Retains part k p.start p.stop) {p : Passage τ ω κ} (hp : p ∈ ps) :
    Retains part k b p.start := by
  induction h with
  | done => cases hp
  | halt leads _ _ =>
    rw [List.mem_singleton.1 hp]
    exact leads.1.retains
  | next leads _ _ _ ih =>
    obtain ⟨hhead, htail⟩ := List.forall_mem_cons.1 hall
    rcases List.mem_cons.1 hp with rfl | hp
    · exact leads.1.retains
    · exact trans_of (Retains part k) leads.1.retains (trans_of (Retains part k) hhead (ih htail hp))

end Kept

namespace Framework

/-- What a framework holds between its setup and its teardown, but for its client and what it tracks
and has deferred. -/
def standing (f : Framework τ κ) :
    Settings τ κ × Option Nat × Option Namespace.Record × Option String :=
  (f.toSettings, f.handle, f.ns, f.uniqueName)

end Framework

/-- What a stage leaves of a framework as it is. -/
def SetupStage.spares (s : SetupStage) (f : Framework τ κ) : Settings τ κ × Option Nat ×
    Option (Option Namespace.Record) × Option (Option String) :=
  (f.toSettings, f.handle, if s = .creation then none else some f.ns,
    if s = .naming then none else some f.uniqueName)

theorem SetupStage.spares_of_standing (s : SetupStage) (f g : Framework τ κ)
    (h : g.standing = f.standing) : s.spares g = s.spares f := by
  simp only [Framework.standing, Prod.mk.injEq] at h
  unfold spares
  rw [h.1, h.2.1, h.2.2.1, h.2.2.2]

namespace Framework

/-- What a framework is called that is to have no namespace. -/
def standIn (f : Framework τ κ) (bits : Nat) : String := f.baseName ++ "-" ++ Text.padded 16 8 bits

/-- The framework is called as a setup is to call it: as its namespace, or by a stand-in if it is to have
none. -/
def IsNamed (f : Framework τ κ) : Prop :=
  if f.skipNamespace then ∃ bits, f.uniqueName = some (f.standIn bits)
  else ∃ record, f.ns = some record ∧ f.uniqueName = some record.name

end Framework

section Effects

variable [Seconds τ] [Host τ ω] {r : Runner τ ω κ} {k : Nat} {component : Option String}

variable {part : Framework τ κ → β}

omit [Seconds τ] [Host τ ω] in
theorem present_retains (ns : Option Namespace.Record) :
    (present ns : BenchM τ ω κ _).Along (Retains part k) := by
  cases ns with
  | none => exact along_fail _
  | some record => exact along_pure record

omit [Seconds τ] [Host τ ω] in
theorem clientOf_retains (f : Framework τ κ) :
    (clientOf f : BenchM τ ω κ String).Along (Retains part k) := by
  unfold clientOf
  cases f.client with
  | none => exact along_fail _
  | some client => exact along_pure client

theorem createNamespace_retains (hpart : ∀ f record, part (f.track record) = part f)
    (baseName : String) (labels : Labels) :
    (createNamespace k baseName labels : BenchM τ ω κ _).Along (Retains part k) := by
  apply (madeOf_createNamespace (fun _ _ => trivial) baseName labels).along
  intro _ _ hstep
  cases hstep with
  | site h =>
    cases h with
    | work _ => exact onSite_retains _
    | look j => exact frameworkAt_along j
  | take records => exact onSite_retains _
  | track record => exact update_retains fun f => hpart f record

omit [Seconds τ] in
theorem nameOnly_retains (hpart : ∀ f name, part { f with uniqueName := some name } = part f) :
    (nameOnly k : BenchM τ ω κ Unit).Along (Retains part k) := by
  apply (frameworkAt_along k).bind
  intro f
  apply (onSite_retains _).bind
  intro bits
  apply (update_retains fun f => hpart f _).bind
  intro _
  exact onSite_retains _

/-- A stage of the library's own leaves the settings and the handle of the framework, and all but what
it is for. -/
theorem SetupStage.work_retains {s : SetupStage} (hown : s ≠ .hook) :
    (s.work r k component).Along (Retains s.spares k) := by
  cases s with
  | connection =>
    apply (frameworkAt_along k).bind
    intro f
    apply (onSite_retains _).bind
    intro client
    exact update_retains fun _ => rfl
  | hook => exact absurd rfl hown
  | creation =>
    apply (frameworkAt_along k).bind
    intro f
    apply (createNamespace_retains (fun _ _ => rfl) _ _).bind
    intro ns
    exact update_retains fun _ => rfl
  | account =>
    apply (frameworkAt_along k).bind
    intro f
    apply (present_retains f.ns).bind
    intro record
    apply (clientOf_retains f).bind
    intro client
    exact onSite_retains _
  | naming =>
    apply (frameworkAt_along k).bind
    intro f
    apply along_ite
    · intro _
      exact nameOnly_retains fun _ _ => rfl
    · intro _
      apply (present_retains f.ns).bind
      intro record
      have hnamed : (update k fun f => { f with uniqueName := some record.name }
          : BenchM τ ω κ Unit).Along (Retains SetupStage.naming.spares k) :=
        update_retains fun _ => rfl
      apply hnamed.bind
      intro _
      exact onSite_retains _

/-- The hook of a provider leaves what it does not own: the framework as it stands, and the registered
teardowns. -/
def Settings.HookSpares (r : Runner τ ω κ) (k : Nat) (s : Settings τ κ) : Prop :=
  ∀ p, s.provider = some p → (r.perform (some k) p.before).Along (Retains Framework.standing k)

/-- A passage leaves the settings and the handle of the framework, and all but what its stage is for,
if the hook does. -/
theorem Passage.Runs.retains {p : Passage τ ω κ} (h : p.Runs r k component) {f : Framework τ κ}
    (hf : p.start.frameworks[k]? = some f) (hhook : f.HookSpares r k) :
    Retains p.stage.spares k p.start p.stop := by
  by_cases hown : p.stage = .hook
  · unfold Passage.Runs at h
    rw [hown] at h ⊢
    have hspares : Ends (SetupStage.hook.work r k component) p.start fun _ b' =>
        Retains standing k p.start b' := by
      apply Ends.bind_ok (frameworkAt_ends hf)
      rintro _ rfl
      cases hp : f.provider with
      | none => exact refl_of (Retains standing k) p.start
      | some provider => exact hhook provider hp p.start
    exact (hspares.of_run h).mono (SetupStage.spares_of_standing .hook)
  · exact (SetupStage.work_retains hown).of_run h

/-- Every passage of a setup leaves all but what its stage is for, if the hook does. -/
theorem Passes.spares {baseName : String} {plan : List SetupStage} {ps : List (Passage τ ω κ)}
    {ending : Except (Fault τ) Unit} {b b' : Bench τ ω κ} {s : Settings τ κ}
    (h : Passes r k component baseName plan ps ending b b') (hhook : s.HookSpares r k) :
    (∃ f, b.frameworks[k]? = some f ∧ f.toSettings = s) →
      ∀ p ∈ ps, Retains p.stage.spares k p.start p.stop := by
  induction h with
  | done => simp
  | halt leads runs _ =>
    rintro ⟨f, hf, rfl⟩
    rw [← leads.frameworks] at hf
    simpa using runs.retains hf hhook
  | next leads runs _ _ ih =>
    rintro ⟨f, hf, rfl⟩
    rw [← leads.frameworks] at hf
    have hhead := runs.retains hf hhook
    obtain ⟨g, hg, hsame⟩ := hhead.found f hf
    exact List.forall_mem_cons.2 ⟨hhead, ih ⟨g, hg, congrArg Prod.fst hsame⟩⟩

/-- A framework's own way to create namespaces gives one whenever it ends well. -/
def Settings.GivesRecords (ω : Type) [Host τ ω] (s : Settings τ κ) : Prop :=
  s.customCreation = true → ∀ (w : ω) baseName client labels,
    (Host.reply (.customProvide baseName client labels) w).1 ≠ .ok none

/-- The creation of a namespace gives one whenever it ends well. -/
theorem createNamespace_gives {b : Bench τ ω κ} {f : Framework τ κ} (hf : b.frameworks[k]? = some f)
    (hgives : f.GivesRecords ω) (baseName : String) (labels : Labels) :
    Ends (createNamespace k baseName labels) b fun made _ =>
      ∀ ns, made = .ok ns → ∃ record, ns = some record := by
  have hprovide : Ends (provide f baseName labels) b fun made _ =>
      ∀ ns, made = .ok ns → ∃ record, ns = some record := by
    unfold provide clientOf
    cases f.client with
    | none => rintro _ ⟨⟩
    | some client =>
      apply Ends.ite
      · intro hcustom ns hns
        cases ns with
        | none => exact absurd hns (hgives hcustom _ _ _ _)
        | some record => exact ⟨record, rfl⟩
      · intro _
        apply Ends.map
        apply (ends_run _ b).mono
        rintro (e | record) _ _ _ ⟨⟩
        exact ⟨record, rfl⟩
  apply Ends.bind_ok (frameworkAt_ends hf)
  rintro b rfl
  apply Ends.bind_attempt hprovide
  intro made b₁ hmade
  apply Ends.bind_ok (P := fun _ => True) ⟨rfl, trivial⟩
  intro b₂ _
  cases made with
  | ok ns =>
    rintro _ ⟨⟩
    exact hmade ns rfl
  | error e => rintro _ ⟨⟩

/-- The creation of a namespace leaves the framework with what it has made, or as it stands. -/
theorem creation_ends (b : Bench τ ω κ) :
    Ends (SetupStage.creation.work r k component) b fun ending b' =>
      match ending with
      | .ok _ => ∃ f ns g, b.frameworks[k]? = some f ∧
          ((createNamespace k f.baseName (ownerLabels f.baseName)).run b).1 = .ok ns ∧
          b'.frameworks[k]? = some g ∧ g.ns = ns
      | .error _ => Retains standing k b b' := by
  apply Ends.bind (frameworkAt_found k b)
  · rintro f b ⟨rfl, hf⟩
    have hkeeps : (createNamespace k f.baseName (ownerLabels f.baseName)
        : BenchM τ ω κ _).Along (Retains standing k) := createNamespace_retains (fun _ _ => rfl) _ _
    apply Ends.bind ((ends_run _ b).and (hkeeps b))
    · rintro ns b₁ ⟨hrun, hretains⟩
      obtain ⟨g, hg, _⟩ := hretains.found f hf
      refine ⟨f, ns, { g with ns }, hf, by rw [hrun], ?_, rfl⟩
      show (b₁.frameworks.modify k _)[k]? = _
      rw [List.getElem?_modify_eq, hg]
      rfl
    · rintro e b₁ ⟨_, hretains⟩
      exact hretains
  · rintro e b ⟨rfl, _⟩
    exact refl_of (Retains standing k) b

/-- A framework is named if it has a namespace or is to have none. -/
theorem naming_succeeds {b : Bench τ ω κ} {f : Framework τ κ} (hf : b.frameworks[k]? = some f)
    (hready : f.skipNamespace = false → ∃ record, f.ns = some record) :
    Ends (SetupStage.naming.work r k component) b fun ending _ => ending = .ok () := by
  apply Ends.bind_ok (frameworkAt_ends hf)
  rintro b rfl
  cases hskip : f.skipNamespace with
  | true =>
    apply Ends.bind_ok (frameworkAt_ends hf)
    rintro b rfl
    rfl
  | false =>
    obtain ⟨record, hns⟩ := hready hskip
    rw [hns]
    rfl

/-- A framework is named, or left as it stands. -/
theorem naming_ends (b : Bench τ ω κ) :
    Ends (SetupStage.naming.work r k component) b fun ending b' =>
      match ending with
      | .ok _ => ∃ g, b'.frameworks[k]? = some g ∧ g.IsNamed
      | .error _ => Retains standing k b b' := by
  apply Ends.bind (frameworkAt_found k b)
  · rintro f b ⟨rfl, hf⟩
    have hnamed (name : String) (b₁ : Bench τ ω κ) (h₁ : b₁.frameworks = b.frameworks) :
        (b₁.frameworks.modify k fun f => { f with uniqueName := some name })[k]? =
          some { f with uniqueName := some name } := by
      rw [h₁, List.getElem?_modify_eq, hf]
      rfl
    unfold Framework.IsNamed
    cases hskip : f.skipNamespace with
    | true =>
      apply Ends.bind_ok (frameworkAt_ends hf)
      rintro b rfl
      have hbits : Ends (onSite Site.randomBits : BenchM τ ω κ Nat) b fun bits b₁ =>
          bits = .ok (Host.randomBits b.site.world).1 ∧ b₁.frameworks = b.frameworks := ⟨rfl, rfl⟩
      apply Ends.bind_ok hbits
      intro b₁ h₁
      refine ⟨_, hnamed _ b₁ h₁, ?_⟩
      rw [if_pos hskip]
      exact ⟨_, rfl⟩
    | false =>
      cases hns : f.ns with
      | none => exact refl_of (Retains standing k) b
      | some record =>
        refine ⟨_, hnamed _ b rfl, ?_⟩
        rw [hskip]
        exact ⟨record, hns, rfl⟩
  · rintro e b ⟨rfl, _⟩
    exact refl_of (Retains standing k) b

end Effects

end Testbed
