import Testbed.Proofs.Order
import Testbed.Proofs.SetupStages

/-!
# Where a setup stops

A setup goes through its stages in their order and stops at the first one that raises a fault. An
ordinary fault of one of the library's own stages comes out as the fault of that stage; any other
fault, and every fault of the hook, comes out as it is. However far the setup has come, its teardown
is registered, and the framework keeps what the stages before have made.
-/

set_option autoImplicit false

namespace Testbed

open Proc Bench Framework

variable {τ ω κ α β : Type}

section Existence

variable [Seconds τ] [Host τ ω] {r : Runner τ ω κ} {k : Nat} {component : Option String}
  {baseName : String} {plan : List SetupStage} {b : Bench τ ω κ} {f : Framework τ κ}

/-- How the setup goes on from a stage: a fault is told as that of the setup. -/
def Passage.told (baseName : String) (p : Passage τ ω κ) : Except (Fault τ) Unit :=
  p.ending.mapError (p.stage.raises baseName)

omit [Host τ ω] in
theorem Passage.ok_of_told {p : Passage τ ω κ} (h : .ok () = p.told baseName) : p.ending = .ok () := by
  unfold told at h
  cases hending : p.ending with
  | ok _ => rfl
  | error e =>
    rw [hending] at h
    cases h

omit [Host τ ω] in
theorem Passage.error_of_told {p : Passage τ ω κ} {e : Fault τ} (h : .error e = p.told baseName) :
    ∃ e₀, p.ending = .error e₀ ∧ e = p.stage.raises baseName e₀ := by
  unfold told at h
  cases hending : p.ending with
  | ok _ =>
    rw [hending] at h
    cases h
  | error e₀ =>
    rw [hending] at h
    exact ⟨e₀, rfl, Except.error.inj h⟩

/-- The procedure goes through the stage. -/
def GoesThrough (r : Runner τ ω κ) (k : Nat) (component : Option String) (baseName : String)
    (s : SetupStage) (x : BenchM τ ω κ Unit) (b : Bench τ ω κ) : Prop :=
  Ends x b fun out c => ∃ p : Passage τ ω κ, p.stage = s ∧ Annotated b p.start ∧
    p.Runs r k component ∧ out = p.told baseName ∧ c = p.stop

/-- What goes through a stage, and unless that raises a fault through those of a plan. -/
theorem passes_bind {s : SetupStage} {x y : BenchM τ ω κ Unit}
    (hx : GoesThrough r k component baseName s x b)
    (hy : ∀ p : Passage τ ω κ, p.stage = s → Annotated b p.start → p.Runs r k component →
      p.ending = .ok () →
      Ends y p.stop fun out c => ∃ ps, Passes r k component baseName plan ps out p.stop c) :
    Ends (x >>= fun _ => y) b fun out c =>
      ∃ ps, Passes r k component baseName (s :: plan) ps out b c := by
  apply Ends.bind hx
  · rintro ⟨⟩ c ⟨p, rfl, hleads, hruns, htold, rfl⟩
    have hwell := Passage.ok_of_told htold
    apply (hy p rfl hleads hruns hwell).mono
    rintro out c ⟨ps, hps⟩
    exact ⟨p :: ps, .next hleads hruns hwell hps⟩
  · rintro e c ⟨p, rfl, hleads, hruns, htold, rfl⟩
    obtain ⟨e₀, hending, rfl⟩ := Passage.error_of_told htold
    exact ⟨[p], .halt hleads hruns hending⟩

omit [Host τ ω] in
/-- A procedure in a stage comes out as it does by itself, but for the words of an ordinary fault. -/
theorem inStage_ends (baseName stage : String) (x : BenchM τ ω κ α) (b : Bench τ ω κ) :
    Ends (inStage baseName stage x) b fun out c =>
      match out with
      | .ok a => x.run b = (.ok a, c)
      | .error e => ∃ e₀, x.run b = (.error e₀, c) ∧
          e = if e₀.isOrdinary then .setup baseName stage e₀.message (some e₀) else e₀ := by
  apply Ends.rescue (ends_run x b)
  · intro a c hrun
    exact hrun
  · intro e₀ c hrun
    split
    · exact ⟨e₀, hrun, by simp [*]⟩
    · exact ⟨e₀, hrun, by simp [*]⟩

theorem connect_goesThrough (hf : b.frameworks[k]? = some f) (hnone : f.client = none) :
    GoesThrough r k component f.baseName .connection (connect k component) b := by
  apply Ends.bind_ok (frameworkAt_ends hf)
  rintro b rfl
  rw [hnone]
  apply Ends.bind_ok (note_annotated f _ _ _ b)
  intro b₁ h₁
  have hf₁ : b₁.frameworks[k]? = some f := by rw [h₁.frameworks, hf]
  apply Ends.bind (inStage_ends _ _ _ b₁)
  · intro client b₂ hrun
    refine ⟨⟨.connection, b₁, .ok (), _⟩, rfl, h₁, ?_, rfl, rfl⟩
    show (SetupStage.connection.work r k component).run b₁ = _
    unfold SetupStage.work
    rw [run_bind_ok (frameworkAt_run hf₁), run_bind_ok hrun]
    rfl
  · rintro _ b₂ ⟨e, hrun, rfl⟩
    refine ⟨⟨.connection, b₁, .error e, b₂⟩, rfl, h₁, ?_, rfl, rfl⟩
    show (SetupStage.connection.work r k component).run b₁ = _
    unfold SetupStage.work
    rw [run_bind_ok (frameworkAt_run hf₁), run_bind_error hrun]

theorem hook_goesThrough (hf : b.frameworks[k]? = some f) {p : Provider κ} (hp : f.provider = some p) :
    GoesThrough r k component f.baseName .hook (hook r k .before) b := by
  apply Ends.bind_ok (frameworkAt_ends hf)
  rintro b rfl
  rw [hp]
  apply Ends.bind_ok (mark_annotated _ b)
  intro b₁ h₁
  have hf₁ : b₁.frameworks[k]? = some f := by rw [h₁.frameworks, hf]
  apply (ends_run _ b₁).mono
  intro out b₂ hrun
  refine ⟨⟨.hook, b₁, out, b₂⟩, rfl, h₁, ?_, ?_, rfl⟩
  · show (SetupStage.hook.work r k component).run b₁ = _
    unfold SetupStage.work
    rw [run_bind_ok (frameworkAt_run hf₁), hp]
    exact hrun
  · cases out <;> rfl

theorem awaitServiceAccount_goesThrough (hf : b.frameworks[k]? = some f)
    {record : Namespace.Record} (hns : f.ns = some record)
    (hverify : (f.suite.verifyServiceAccount && !f.skipServiceAccountWait) = true) :
    GoesThrough r k component f.baseName .account (awaitServiceAccount k (some record)) b := by
  apply Ends.bind_ok (frameworkAt_ends hf)
  rintro b rfl
  rw [hverify]
  apply Ends.bind_ok (P := fun b₁ => b₁ = b) ⟨rfl, rfl⟩
  rintro b rfl
  apply Ends.bind_ok (note_annotated f _ _ _ b)
  intro b₁ h₁
  have hf₁ : b₁.frameworks[k]? = some f := by rw [h₁.frameworks, hf]
  have hwork (ending : Except (Fault τ) Unit) (b₂ : Bench τ ω κ) (hrun : (do
      let client ← clientOf f
      onSite (f.cluster.awaitServiceAccount record.name client) : BenchM τ ω κ Unit).run b₁ = (ending, b₂)) :
      (SetupStage.account.work r k component).run b₁ = (ending, b₂) := by
    unfold SetupStage.work
    rw [run_bind_ok (frameworkAt_run hf₁), hns]
    exact hrun
  apply (inStage_ends _ _ _ b₁).mono
  intro out b₂ hout
  cases out with
  | ok _ => exact ⟨⟨.account, b₁, .ok (), b₂⟩, rfl, h₁, hwork _ _ hout, rfl, rfl⟩
  | error _ =>
    obtain ⟨e, hrun, rfl⟩ := hout
    exact ⟨⟨.account, b₁, .error e, b₂⟩, rfl, h₁, hwork _ _ hrun, rfl, rfl⟩

/-- The last stage of a setup. -/
theorem passes_naming {c c' : Bench τ ω κ} {out : Except (Fault τ) Unit} (leads : Annotated b c)
    (hrun : (SetupStage.naming.work r k component).run c = (out, c')) :
    ∃ ps, Passes r k component baseName [.naming] ps out b c' := by
  cases out with
  | ok _ =>
    have hpassage : Passage.Runs r k component ⟨.naming, c, .ok (), c'⟩ := hrun
    exact ⟨_, .next leads hpassage rfl (.done c')⟩
  | error e =>
    have hpassage : Passage.Runs r k component ⟨.naming, c, .error e, c'⟩ := hrun
    exact ⟨_, .halt leads hpassage rfl⟩

/-- The naming for a namespace that is there. -/
theorem nameOwn_passes {c : Bench τ ω κ} {g : Framework τ κ} {record : Namespace.Record}
    (leads : Annotated b c) (hg : c.frameworks[k]? = some g) (hns : g.ns = some record)
    (hskip : g.skipNamespace = false) (hname : f.baseName = g.baseName) :
    Ends (do
      let record ← present (some record)
      update k fun f => { f with uniqueName := some record.name }
      note f .info "before_each.completed" [("namespace", .text record.name)]) c fun out c' =>
        ∃ ps, Passes r k component baseName [.naming] ps out b c' := by
  apply (ends_run _ c).mono
  intro out c' hrun
  apply passes_naming leads
  unfold SetupStage.work
  rw [run_bind_ok (frameworkAt_run hg), hskip, hns]
  unfold note at hrun ⊢
  rw [hname] at hrun
  exact hrun

/-- Where a passage stops, the framework is there as its stage leaves it. -/
theorem Passage.Runs.found {p : Passage τ ω κ} (h : p.Runs r k component) (leads : Annotated b p.start)
    (hf : b.frameworks[k]? = some f) (hhook : f.HookSpares r k) :
    ∃ g, p.stop.frameworks[k]? = some g ∧ p.stage.spares g = p.stage.spares f := by
  rw [← leads.frameworks] at hf
  exact (h.retains hf hhook).found f hf

variable (component) in
/-- What comes behind the creation of a namespace. -/
theorem moveIn_passes {g : Framework τ κ} {record : Namespace.Record}
    (hg : b.frameworks[k]? = some g) (hns : g.ns = some record) (hskip : g.skipNamespace = false)
    (hname : f.baseName = g.baseName) (hhook : g.HookSpares r k) :
    Ends (do
      awaitServiceAccount k (some record)
      let record ← present (some record)
      update k fun f => { f with uniqueName := some record.name }
      note f .info "before_each.completed" [("namespace", .text record.name)]) b fun out c =>
        ∃ ps, Passes r k component g.baseName
          ((if g.suite.verifyServiceAccount && !g.skipServiceAccountWait then [.account] else []) ++
            [.naming]) ps out b c := by
  cases hverify : g.suite.verifyServiceAccount && !g.skipServiceAccountWait with
  | true =>
    apply passes_bind (awaitServiceAccount_goesThrough hg hns hverify)
    rintro p hstage hleads hruns _
    obtain ⟨g', hg', hsame⟩ := hruns.found hleads hg hhook
    rw [hstage] at hsame
    simp only [SetupStage.spares, reduceCtorEq, if_false, Prod.mk.injEq, Option.some.injEq] at hsame
    apply nameOwn_passes (.refl _) hg' (hsame.2.2.1.trans hns)
    · rw [hsame.1, hskip]
    · rw [hname, hsame.1]
  | false =>
    have hskipped : Ends (awaitServiceAccount k (some record)) b fun out c =>
        out = .ok () ∧ Annotated b c := by
      apply Ends.bind_ok (frameworkAt_ends hg)
      rintro b rfl
      rw [hverify]
      exact note_annotated g _ _ _ b
    apply Ends.bind_ok hskipped
    intro c hc
    exact nameOwn_passes hc (by rw [hc.frameworks, hg]) hns hskip hname

/-- The stages of a framework that is to have a namespace. -/
theorem createOwn_passes (hf : b.frameworks[k]? = some f) (hgives : f.GivesRecords ω)
    (hhook : f.HookSpares r k)
    (hskip : f.skipNamespace = false) :
    Ends (createOwn k) b fun out c =>
      ∃ ps, Passes r k component f.baseName (f.housing ++ [.naming]) ps out b c := by
  unfold Settings.housing
  rw [hskip]
  apply Ends.bind_ok (frameworkAt_ends hf)
  rintro b rfl
  apply Ends.bind_ok (note_annotated f _ _ _ b)
  intro b₁ h₁
  have hf₁ : b₁.frameworks[k]? = some f := by rw [h₁.frameworks, hf]
  apply Ends.bind (inStage_ends _ _ _ b₁)
  · intro ns b₂ hrun
    obtain ⟨record, rfl⟩ := (createNamespace_gives hf₁ hgives _ _).of_run hrun ns rfl
    have hupdates : Ends (update k fun f => { f with ns := some record } : BenchM τ ω κ Unit) b₂
        fun out b₃ => out = .ok () ∧
          (SetupStage.creation.work r k component).run b₁ = (.ok (), b₃) := by
      refine ⟨rfl, ?_⟩
      unfold SetupStage.work
      rw [run_bind_ok (frameworkAt_run hf₁), run_bind_ok hrun]
      rfl
    apply Ends.bind_ok hupdates
    intro b₃ hwork
    have hruns : Passage.Runs r k component ⟨.creation, b₁, .ok (), b₃⟩ := hwork
    obtain ⟨g, hg, hsame⟩ := hruns.found h₁ hf hhook
    obtain ⟨f', ns, g', hf', hmade, hg', rfl⟩ := (creation_ends b₁).of_run hwork
    rw [hf₁, Option.some_inj] at hf'
    subst hf'
    rw [hg, Option.some_inj] at hg'
    subst hg'
    have hns : g.ns = some record := by
      rw [hrun] at hmade
      exact (Except.ok.inj hmade).symm
    have hsettings : g.toSettings = f.toSettings := congrArg Prod.fst hsame
    have hname : f.baseName = g.baseName := by rw [hsettings]
    have hlater := moveIn_passes component hg hns (by rw [hsettings, hskip]) hname
      (by rwa [hsettings])
    rw [hsettings] at hlater
    apply hlater.mono
    rintro out c ⟨ps, hps⟩
    exact ⟨_, .next h₁ hruns rfl hps⟩
  · rintro _ b₂ ⟨e, hrun, rfl⟩
    have hruns : Passage.Runs r k component ⟨.creation, b₁, .error e, b₂⟩ := by
      show (SetupStage.creation.work r k component).run b₁ = _
      unfold SetupStage.work
      rw [run_bind_ok (frameworkAt_run hf₁), run_bind_error hrun]
    exact ⟨_, .halt h₁ hruns rfl⟩

/-- The stages behind the hook. -/
theorem housing_passes (hf : b.frameworks[k]? = some f) (hgives : f.GivesRecords ω)
    (hhook : f.HookSpares r k) :
    Ends (do
      let f ← frameworkAt k
      if f.skipNamespace then nameOnly k else createOwn k) b fun out c =>
        ∃ ps, Passes r k component f.baseName (f.housing ++ [.naming]) ps out b c := by
  cases hskip : f.skipNamespace with
  | true =>
    unfold Settings.housing
    rw [hskip]
    apply (ends_run _ b).mono
    intro out c hrun
    apply passes_naming (.refl b)
    unfold SetupStage.work
    rw [run_bind_ok (frameworkAt_run hf), hskip] at hrun ⊢
    exact hrun
  | false =>
    apply Ends.bind_ok (frameworkAt_ends hf)
    rintro b rfl
    rw [hskip]
    exact createOwn_passes hf hgives hhook hskip

/-- The stages behind the client. -/
theorem hook_passes (hf : b.frameworks[k]? = some f) (hgives : f.GivesRecords ω)
    (hhook : f.HookSpares r k) :
    Ends (do
      hook r k .before
      let f ← frameworkAt k
      if f.skipNamespace then nameOnly k else createOwn k) b fun out c =>
        ∃ ps, Passes r k component f.baseName
          ((if f.provider.isSome then [.hook] else []) ++ (f.housing ++ [.naming])) ps out b c := by
  cases hp : f.provider with
  | none =>
    have habsent : Ends (hook r k .before) b fun out c => out = .ok () ∧ c = b := by
      apply Ends.bind_ok (frameworkAt_ends hf)
      rintro b rfl
      rw [hp]
      exact ⟨rfl, rfl⟩
    apply Ends.bind_ok habsent
    rintro b rfl
    exact housing_passes hf hgives hhook
  | some p =>
    apply passes_bind (hook_goesThrough hf hp)
    intro p _ hleads hruns _
    obtain ⟨g, hg, hsame⟩ := hruns.found hleads hf hhook
    have hsettings : g.toSettings = f.toSettings := congrArg Prod.fst hsame
    rw [← hsettings] at hgives hhook ⊢
    exact housing_passes hg hgives hhook

/-- A setup goes through the stages of its plan. -/
theorem prepare_passes (hf : b.frameworks[k]? = some f) (hgives : f.GivesRecords ω)
    (hhook : f.HookSpares r k) :
    Ends (prepare r k component) b fun out c =>
      ∃ ps, Passes r k component f.baseName f.plan ps out b c := by
  unfold plan
  cases hclient : f.client with
  | some client =>
    have hconnected : Ends (connect k component) b fun out c => out = .ok () ∧ c = b := by
      apply Ends.bind_ok (frameworkAt_ends hf)
      rintro b rfl
      rw [hclient]
      exact ⟨rfl, rfl⟩
    apply Ends.bind_ok hconnected
    rintro b rfl
    exact hook_passes hf hgives hhook
  | none =>
    apply passes_bind (connect_goesThrough hf hclient)
    intro p _ hleads hruns _
    obtain ⟨g, hg, hsame⟩ := hruns.found hleads hf hhook
    have hsettings : g.toSettings = f.toSettings := congrArg Prod.fst hsame
    rw [← hsettings] at hgives hhook ⊢
    exact hook_passes hg hgives hhook

end Existence

section Whole

variable [Seconds τ] [Host τ ω] {r : Runner τ ω κ} {k : Nat} {component : Option String}

/-- The bench once the teardown of a framework is registered. -/
def Framework.enrolled (k : Nat) (b : Bench τ ω κ) : Bench τ ω κ :=
  { b with
    site := b.site.recorded
      [.log ⟨.debug, "cleanup.action_added", [("handle", .count ((b.registry.issued + 1 : Nat) : Int))]⟩]
    registry := (b.registry.add (.teardown k)).2
    frameworks := b.frameworks.modify k fun f => { f with handle := some (b.registry.issued + 1) } }

/-- A passage that ends with a fault leaves the framework as it stands, if its stage leaves what it
is not for. -/
theorem Passage.Runs.spoilt {p : Passage τ ω κ} (h : p.Runs r k component)
    (hspares : Retains p.stage.spares k p.start p.stop) {e : Fault τ} (hending : p.ending = .error e) :
    Retains standing k p.start p.stop := by
  unfold Passage.Runs at h
  rw [hending] at h
  cases hstage : p.stage with
  | creation =>
    rw [hstage] at h
    exact (creation_ends p.start).of_run h
  | naming =>
    rw [hstage] at h
    exact (naming_ends p.start).of_run h
  | connection | hook | account =>
    rw [hstage] at hspares
    apply hspares.mono
    intro f g hsame
    simpa [SetupStage.spares, standing] using hsame

/-- A passage keeps what only one stage changes, unless it is of that stage and ends well. -/
theorem Passage.Runs.keeps {part : Framework τ κ → β} {s : SetupStage} {p : Passage τ ω κ}
    (h : p.Runs r k component) (hspares : Retains p.stage.spares k p.start p.stop)
    (hstanding : ∀ f g, g.standing = f.standing → part g = part f)
    (hspared : ∀ other : SetupStage, other ≠ s →
      ∀ f g, other.spares g = other.spares f → part g = part f)
    (hunless : p.stage = s → p.ending ≠ .ok ()) : Retains part k p.start p.stop := by
  cases hending : p.ending with
  | ok _ =>
    have hstage : p.stage ≠ s := fun hstage => hunless hstage hending
    exact hspares.mono (hspared p.stage hstage)
  | error e => exact (h.spoilt hspares hending).mono hstanding

/-- A passage keeps the namespace of a framework, unless it is a creation that ends well. -/
theorem Passage.Runs.keepsNamespace {p : Passage τ ω κ} (h : p.Runs r k component)
    (hspares : Retains p.stage.spares k p.start p.stop) :
    (p.stage = .creation → p.ending ≠ .ok ()) → Retains (fun f => f.ns) k p.start p.stop := by
  apply h.keeps hspares
  · intro f g hsame
    exact congrArg (fun part => part.2.2.1) hsame
  · intro other hother f g hsame
    simp only [SetupStage.spares, if_neg hother, Prod.mk.injEq, Option.some.injEq] at hsame
    exact hsame.2.2.1

/-- A passage keeps the name of a framework, unless it is a naming that ends well. -/
theorem Passage.Runs.keepsName {p : Passage τ ω κ} (h : p.Runs r k component)
    (hspares : Retains p.stage.spares k p.start p.stop) :
    (p.stage = .naming → p.ending ≠ .ok ()) → Retains (fun f => f.uniqueName) k p.start p.stop := by
  apply h.keeps hspares
  · intro f g hsame
    exact congrArg (fun part => part.2.2.2) hsame
  · intro other hother f g hsame
    simp only [SetupStage.spares, if_neg hother, Prod.mk.injEq, Option.some.injEq] at hsame
    exact hsame.2.2.2

variable {f g : Framework τ κ} {ps : List (Passage τ ω κ)} {ending : Except (Fault τ) Unit}
  {b b' : Bench τ ω κ}

/-- Once a setup comes to the naming, it has gone through all the stages before. -/
theorem Passes.before_naming (h : Passes r k component f.baseName f.plan ps ending b b')
    (hnaming : SetupStage.naming ∈ ps.map Passage.stage) :
    f.plan = ps.dropLast.map Passage.stage ++ [.naming] := by
  obtain ⟨rest, hplan⟩ := h.order
  obtain ⟨before, later, hstages⟩ := List.append_of_mem hnaming
  rw [hstages, List.append_assoc, List.cons_append] at hplan
  obtain ⟨rfl, rfl⟩ := List.append_eq_nil_iff.1 (plan_behind_naming hplan.symm)
  rw [← hplan, List.map_dropLast, hstages, List.dropLast_concat, List.nil_append]

/-- A setup that ends well has named its framework. -/
theorem Passes.named (h : Passes r k component f.baseName f.plan ps (.ok ()) b b')
    (hg : b'.frameworks[k]? = some g) : g.IsNamed := by
  have hwell : ∀ p ∈ ps, p.ending = .ok () := by
    intro p hp
    cases hending : p.ending with
    | ok _ => rfl
    | error e => cases (h.tells p hp e hending).1
  have hmem : SetupStage.naming ∈ ps.map Passage.stage := by
    rw [(h.whole hwell).1]
    simp [plan]
  obtain ⟨p, hp, hstage⟩ := List.mem_map.1 hmem
  obtain ⟨before, later, qs, hplan, _, hlater⟩ := h.behind hp (hwell p hp)
  rw [hstage] at hplan
  obtain rfl := plan_behind_naming hplan
  cases hlater
  have hruns := h.runs p hp
  unfold Passage.Runs at hruns
  rw [hstage] at hruns
  have hends := (naming_ends p.start).of_run hruns
  rw [hwell p hp] at hends
  obtain ⟨g', hg', hnamed⟩ := hends
  rw [hg, Option.some_inj] at hg'
  rwa [hg']

section Facts

variable (h : Passes r k component f.baseName f.plan ps ending b b')
  (hspares : ∀ p ∈ ps, Retains p.stage.spares k p.start p.stop)

include h hspares

omit h in
omit [Seconds τ] [Host τ ω] in
/-- Every passage keeps the settings and the handle of the framework. -/
theorem keepsSettings_of_spares :
    ∀ p ∈ ps, Retains (fun f => (f.toSettings, f.handle)) k p.start p.stop := by
  intro p hp
  apply (hspares p hp).mono
  intro f g hsame
  simp only [SetupStage.spares, Prod.mk.injEq] at hsame
  rw [hsame.1, hsame.2.1]

/-- A namespace that was created stays that of the framework. -/
theorem Passes.housed (hf : b.frameworks[k]? = some f) (hg : b'.frameworks[k]? = some g)
    (hgives : f.GivesRecords ω) {p : Passage τ ω κ} (hp : p ∈ ps) (hstage : p.stage = .creation)
    (hwell : p.ending = .ok ()) : ∃ record,
      ((createNamespace k f.baseName (ownerLabels f.baseName)).run p.start).1 = .ok (some record) ∧
      g.ns = some record := by
  obtain ⟨before, later, qs, hplan, hqs, hlater⟩ := h.behind hp hwell
  have hnotin : SetupStage.creation ∉ later := by
    have hnodup := f.plan_nodup
    rw [hplan, hstage] at hnodup
    exact (List.nodup_cons.1 (List.nodup_append.1 hnodup).2.1).1
  have hkept : Retains (fun f => f.ns) k p.stop b' := by
    apply hlater.retains
    intro q hq
    apply (hlater.runs q hq).keepsNamespace (hspares q (hqs hq))
    intro hagain
    exact absurd (hagain ▸ hlater.order.subset (List.mem_map_of_mem hq)) hnotin
  have hruns := h.runs p hp
  unfold Passage.Runs at hruns
  rw [hstage] at hruns
  have hends := (creation_ends p.start).of_run hruns
  rw [hwell] at hends
  obtain ⟨f', ns, g', hf', hmade, hg', hns⟩ := hends
  have hreaches := h.reaches (keepsSettings_of_spares hspares) hp
  have hsettings : f'.toSettings = f.toSettings := congrArg Prod.fst (hreaches.kept hf hf')
  rw [hsettings] at hmade
  rw [← hsettings] at hgives
  obtain ⟨record, rfl⟩ := (createNamespace_gives hf' hgives _ _) ns hmade
  exact ⟨record, hmade, (hkept.kept hg' hg).trans hns⟩

/-- The naming of a framework raises no fault. -/
theorem Passes.calm (hf : b.frameworks[k]? = some f) (hgives : f.GivesRecords ω) {p : Passage τ ω κ}
    (hp : p ∈ ps) (hstage : p.stage = .naming) : p.ending = .ok () := by
  cases hending : p.ending with
  | ok _ => rfl
  | error e =>
    have hruns := h.runs p hp
    have hreaches := h.reaches (keepsSettings_of_spares hspares) hp
    obtain ⟨g, hg, hsame⟩ := hreaches.found f hf
    have hready : g.skipNamespace = false → ∃ record, g.ns = some record := by
      intro hskip
      have hplan := h.before_naming (hstage ▸ List.mem_map_of_mem hp)
      have hcreation : SetupStage.creation ∈ f.plan := by
        have hsettings : g.toSettings = f.toSettings := congrArg Prod.fst hsame
        rw [hsettings] at hskip
        simp [plan, Settings.housing, hskip]
      rw [hplan, List.mem_append] at hcreation
      obtain ⟨q, hq, hcreates⟩ := List.mem_map.1 (hcreation.resolve_right (by simp))
      have hkept := hruns.keepsNamespace (hspares p hp) (by rw [hstage]; rintro ⟨⟩)
      obtain ⟨g', hg', hns⟩ := hkept.found g hg
      rw [← (h.tells p hp e hending).2] at hg'
      obtain ⟨record, _, hns'⟩ :=
        h.housed hspares hf hg' hgives (List.mem_of_mem_dropLast hq) hcreates (h.halts q hq)
      exact ⟨record, hns.symm.trans hns'⟩
    unfold Passage.Runs at hruns
    rw [hstage] at hruns
    rw [← hending]
    exact (naming_succeeds hg hready).of_run hruns

/-- A setup that ends with a fault leaves its framework the name that it had. -/
theorem Passes.unnamed {e : Fault τ} (hended : ending = .error e) :
    Retains (fun f => f.uniqueName) k b b' := by
  subst hended
  apply h.retains
  intro p hp
  apply (h.runs p hp).keepsName (hspares p hp)
  intro hstage hwell
  obtain ⟨before, later, qs, hplan, _, hlater⟩ := h.behind hp hwell
  rw [hstage] at hplan
  obtain rfl := plan_behind_naming hplan
  cases hlater

end Facts

namespace Framework

/-- What becomes of a setup of the framework `f` that goes through these passages and leaves the
framework `g`. -/
structure Stops (r : Runner τ ω κ) (k : Nat) (component : Option String) (f g : Framework τ κ)
    (b b' : Bench τ ω κ) (ps : List (Passage τ ω κ)) (ending : Except (Fault τ) Unit) : Prop where
  order : ps.map Passage.stage <+: f.plan
  once : (ps.map Passage.stage).Nodup
  halts : ∀ p ∈ ps.dropLast, p.ending = .ok ()
  whole : (∀ p ∈ ps, p.ending = .ok ()) → ps.map Passage.stage = f.plan ∧ ending = .ok ()
  told : ∀ p ∈ ps, ∀ e, p.ending = .error e → ending = .error (p.stage.raises f.baseName e)
  calm : ∀ p ∈ ps, p.stage = .naming → p.ending = .ok ()
  registered : g.handle = some (b.registry.issued + 1) ∧
    (b.registry.issued + 1, Duty.teardown k) ∈ b'.registry.live
  housed : ∀ p ∈ ps, p.stage = .creation → p.ending = .ok () → ∃ record,
    ((createNamespace k f.baseName (ownerLabels f.baseName)).run p.start).1 = .ok (some record) ∧
      g.ns = some record
  unhoused : (∀ p ∈ ps, p.stage = .creation → p.ending ≠ .ok ()) → g.ns = f.ns
  named : ending = .ok () → g.IsNamed
  unnamed : ∀ e, ending = .error e → g.uniqueName = f.uniqueName

/-- A setup goes through its stages in their order and stops at the first one that raises a fault,
which it tells of. Its teardown is registered wherever it stops. The framework has the namespace that
was created, if one was, and a name only if the setup has ended well. -/
theorem beforeEach_stops {b : Bench τ ω κ} {f : Framework τ κ} (hf : b.frameworks[k]? = some f)
    (hgives : f.GivesRecords ω) (hhook : f.HookSpares r k) :
    Ends (beforeEach r k component) b fun ending b' => ∃ ps b₁ g,
      Passes r k component f.baseName f.plan ps ending (enrolled k b) b₁ ∧
      b' = { b₁ with site := b₁.site.recorded [
        .span ((setupSpan f.baseName).close (setupSpan f.baseName).attributes ending)] } ∧
      b'.frameworks[k]? = some g ∧ Stops r k component f g b b' ps ending := by
  have hf₁ : (enrolled k b).frameworks[k]? =
      some { f with handle := some (b.registry.issued + 1) } := by
    unfold enrolled
    rw [List.getElem?_modify_eq, hf]
    rfl
  have hlive : (b.registry.issued + 1, Duty.teardown k) ∈ (enrolled k b).registry.live :=
    List.mem_append_right _ (List.mem_singleton_self _)
  apply Ends.bind_ok (P := fun c => c = enrolled k b) ⟨rfl, rfl⟩
  rintro _ rfl
  apply Ends.bind_ok (frameworkAt_ends hf₁)
  rintro _ rfl
  apply enclose_records
  apply (prepare_passes hf₁ hgives hhook).mono
  rintro ending b₁ ⟨ps, hps⟩
  have hspares := hps.spares hhook ⟨_, hf₁, rfl⟩
  have hkeeps := hps.retains (keepsSettings_of_spares hspares)
  obtain ⟨g, hg, hkept⟩ := hkeeps.found _ hf₁
  refine ⟨ps, b₁, g, hps, rfl, hg, ?_⟩
  exact {
    order := hps.order
    once := hps.order.sublist.nodup f.plan_nodup
    halts := hps.halts
    whole := hps.whole
    told := fun p hp e he => (hps.tells p hp e he).1
    calm := fun p hp => hps.calm hspares hf₁ hgives hp
    registered := ⟨congrArg Prod.snd hkept, hkeeps.live _ hlive⟩
    housed := fun p hp => hps.housed hspares hf₁ hg hgives hp
    unhoused := by
      intro hunmade
      have hkeeps := hps.retains fun p hp =>
        (hps.runs p hp).keepsNamespace (hspares p hp) (hunmade p hp)
      have hns := hkeeps.kept hf₁ hg
      exact hns
    named := by
      rintro rfl
      exact hps.named hg
    unnamed := by
      intro e he
      have hname := (hps.unnamed hspares he).kept hf₁ hg
      exact hname }

/-- How bodies are run on stubs of clusters. -/
def stubRunner : Runner Rat (Scripted.World Rat) (Body Rat) :=
  Scenario.runner Scenario.stubbed Scenario.maxDepth

/-- A hook that defers an action. -/
def deferringHook : Body Rat := [.defer none ⟨"unlock", []⟩]

theorem deferringHook_retains :
    (stubRunner.perform (some 0) deferringHook).Along (Retains standing 0) := by
  have hdefer : (update 0 (·.defer ⟨"unlock", []⟩)
      : BenchM Rat (Scripted.World Rat) (Body Rat) Unit).Along (Retains standing 0) :=
    update_retains fun _ => rfl
  intro b
  exact hdefer b

/-- A framework with that hook, which was not used yet, on a stub that refuses to wait for a service
account. -/
def refused : Bench Rat (Scripted.World Rat) (Body Rat) :=
  let refusal : Scripted.Turn Rat := ⟨some 1, 0, .raise (.plain .runtime [.text "refused"])⟩
  { (Bench.start (.start 0 [("op.wait_service_account", [refusal])] [])
      : Bench Rat (Scripted.World Rat) (Body Rat)) with
    frameworks := [.fresh
      { baseName := "web", options := .standard, suite := .standard, cluster := .stub,
        provider := some ⟨deferringHook, []⟩, customCreation := false, skipNamespace := false,
        skipServiceAccountWait := false, deletionTimeout := none } none] }

theorem beforeEach_stops_refused :
    (Trace.of (beforeEach stubRunner 0 none) refused).events.map eventTitle =
      ["cleanup.action_added", "before_each.creating_client", "op.load_config", "op.new_client_set",
       "hook", "before_each.creating_namespace", "op.create_namespace", "custody",
       "before_each.waiting_for_service_account", "op.wait_service_account", "e2e.before_each"] ∧
    ∃ f, refused.frameworks[0]? = some f ∧ f.GivesRecords (Scripted.World Rat) ∧
      f.HookSpares stubRunner 0 ∧
      Ends (beforeEach stubRunner 0 none) refused fun ending b' => ∃ ps b₁ g,
        Passes stubRunner 0 none f.baseName f.plan ps ending (enrolled 0 refused) b₁ ∧
        b' = { b₁ with site := b₁.site.recorded [
          .span ((setupSpan f.baseName).close (setupSpan f.baseName).attributes ending)] } ∧
        b'.frameworks[0]? = some g ∧ Stops stubRunner 0 none f g refused b' ps ending := by
  have hgives (f : Framework Rat (Body Rat)) (hf : refused.frameworks[0]? = some f) :
      f.GivesRecords (Scripted.World Rat) := by
    cases hf
    rintro ⟨⟩
  have hhook (f : Framework Rat (Body Rat)) (hf : refused.frameworks[0]? = some f) :
      f.HookSpares stubRunner 0 := by
    cases hf
    rintro _ ⟨⟩
    exact deferringHook_retains
  refine ⟨by decide +kernel, _, rfl, hgives _ rfl, hhook _ rfl, ?_⟩
  exact beforeEach_stops rfl (hgives _ rfl) (hhook _ rfl)

end Framework

end Whole

end Testbed
