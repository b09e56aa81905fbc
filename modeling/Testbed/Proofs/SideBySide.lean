import Testbed.Proofs.Rules
import Testbed.Scripted.World

/-!
# Teardowns side by side

Two benches are alike when they differ in their registries only, and in what the registry and the
abort path have written about themselves into the log. Nothing that a teardown does can tell such
benches apart, so it ends the same way on both and leaves them alike, whatever the registry knows
of it. Where no call is answered with a fault that stops the run, it ends with no such fault.
-/

set_option autoImplicit false

namespace Testbed

open Proc Bench

variable {τ ω κ α : Type}

namespace Host

variable [Host τ ω]

/-- What becomes of a host while it is asked and called. -/
inductive Reaches (w : ω) : ω → Prop
  | refl : Reaches w w
  | sleep {w' : ω} (length : τ) (h : Reaches w w') : Reaches w (Host.sleep length w')
  | freshId {w' : ω} (h : Reaches w w') : Reaches w (Host.freshId w').2
  | randomBits {w' : ω} (h : Reaches w w') : Reaches w (Host.randomBits w').2
  | reply {w' : ω} (call : Call τ) (h : Reaches w w') : Reaches w (Host.reply call w').2

theorem Reaches.trans {w w' w'' : ω} (h : Reaches w w') (h' : Reaches w' w'') : Reaches w w'' := by
  induction h' with
  | refl => exact h
  | sleep length _ ih => exact ih.sleep length
  | freshId _ ih => exact ih.freshId
  | randomBits _ ih => exact ih.randomBits
  | reply call _ ih => exact ih.reply call

/-- Whatever becomes of the host, it answers no call with a fault that stops the run. -/
def IsCalm (w : ω) : Prop :=
  ∀ w', Reaches w w' → ∀ (call : Call τ) e, (Host.reply call w').1 = .error e → e.endsRun = false

theorem IsCalm.reaches {w w' : ω} (hw : IsCalm w) (h : Reaches w w') : IsCalm w' :=
  fun w'' h' => hw w'' (h.trans h')

end Host

namespace Scripted

/-- How a call is answered that ends well or with a fault that does not stop the run. -/
def Effect.IsMild : Effect τ → Prop
  | .raise e => e.endsRun = false
  | .standard => True
  | .give _ => False

instance : (effect : Effect τ) → Decidable effect.IsMild
  | .raise e => inferInstanceAs (Decidable (e.endsRun = false))
  | .standard => inferInstanceAs (Decidable True)
  | .give _ => inferInstanceAs (Decidable False)

/-- All turns of the script answer so. -/
def Script.IsMild (s : Script τ) : Prop := ∀ e ∈ s, ∀ t ∈ e.2, t.effect.IsMild

instance (s : Script τ) : Decidable s.IsMild :=
  inferInstanceAs (Decidable (∀ e ∈ s, ∀ t ∈ e.2, t.effect.IsMild))

namespace World

/-- What a mild world knows that is to come. -/
structure IsMild (w : World τ) : Prop where
  script : w.script.IsMild
  listings : w.listings = []

/-- The standard answers stop no run. -/
theorem IsMild.standard {w : World τ} (h : w.IsMild) (call : Call τ) :
    (w.standard call).2.IsMild ∧ ∀ e, (w.standard call).1 = .error e → e.endsRun = false := by
  obtain ⟨hscript, hlistings⟩ := h
  cases call with
  | readNamespace client name =>
    refine ⟨⟨hscript, hlistings⟩, ?_⟩
    intro e he
    simp only [World.standard] at he
    split at he
    · cases he
      rfl
    · cases he
  | listResource client resource ns =>
    refine ⟨⟨hscript, hlistings⟩, ?_⟩
    intro e he
    simp [World.standard, hlistings] at he
  | discover client => exact ⟨⟨hscript, rfl⟩, by rintro _ ⟨⟩⟩
  | _ => exact ⟨⟨hscript, hlistings⟩, by rintro _ ⟨⟩⟩

theorem IsMild.reply [Seconds τ] {w : World τ} (h : w.IsMild) (call : Call τ) :
    (World.reply call w).2.IsMild ∧
      ∀ e, (World.reply call w).1 = .error e → e.endsRun = false := by
  obtain ⟨hturn, hscript⟩ :=
    Script.take_each (P := fun _ effect => effect.IsMild) h.script call.name
  unfold World.reply
  rcases htake : w.script.take call.name with ⟨_ | turn, script⟩
  · exact h.standard call
  · rw [htake] at hturn hscript
    have hmild : turn.effect.IsMild := hturn turn rfl
    have hw : IsMild { w with script, clock := w.clock + turn.took } := ⟨hscript, h.listings⟩
    dsimp only
    cases heffect : turn.effect with
    | raise e =>
      rw [heffect] at hmild
      exact ⟨hw, by rintro _ ⟨⟩; exact hmild⟩
    | standard => exact hw.standard call
    | give v =>
      rw [heffect] at hmild
      exact hmild.elim

/-- A world whose script stops no run is calm. -/
theorem IsMild.isCalm [Seconds τ] {w : World τ} (h : w.IsMild) : Host.IsCalm w := by
  intro w' hreaches
  have hmild : w'.IsMild := by
    induction hreaches with
    | refl => exact h
    | sleep _ _ ih => exact ⟨ih.script, ih.listings⟩
    | freshId _ ih => exact ⟨ih.script, ih.listings⟩
    | randomBits _ ih => exact ⟨ih.script, ih.listings⟩
    | reply call _ ih => exact (ih.reply call).1
  exact fun call => (hmild.reply call).2

end World

end Scripted

/-- The entries that the registry and the abort path make in the log about themselves. -/
def registryEntries : List String :=
  ["cleanup.action_added", "cleanup.action_removed", "cleanup.drain_started",
    "cleanup.drain_action_failed", "cleanup.drain_completed", "framework.abort_teardown"]

/-- Whether an event is such an entry. -/
def Event.isOfRegistry : Event τ → Bool
  | .log e => registryEntries.contains e.name
  | _ => false

/-- The events but for what the registry and the abort path write about themselves. -/
def audible (events : List (Event τ)) : List (Event τ) := events.filter fun e => !e.isOfRegistry

@[simp] theorem audible_append (events later : List (Event τ)) :
    audible (events ++ later) = audible events ++ audible later := List.filter_append ..

namespace Site

variable [Host τ ω]

/-- Sites that differ in nothing audible, on a host that is calm. -/
structure Alike (s t : Site τ ω) : Prop where
  world : t.world = s.world
  audible : audible t.events = audible s.events
  calm : Host.IsCalm s.world

omit [Host τ ω] in
theorem audible_record {history history' : List (Event τ)}
    (h : Testbed.audible history'.reverse = Testbed.audible history.reverse) (e : Event τ) :
    Testbed.audible (e :: history').reverse = Testbed.audible (e :: history).reverse := by
  rw [List.reverse_cons, List.reverse_cons, audible_append, audible_append]
  exact congrArg (· ++ Testbed.audible [e]) h

theorem record_parallel (e : Event τ) :
    Parallel Alike (fun e => e.endsRun = false) (record e : SiteM τ ω Unit) :=
  fun _ _ h => ⟨rfl, (by rintro _ ⟨⟩), h.world, audible_record h.audible e, h.calm⟩

/-- A step at a site cannot tell sites apart that are alike. -/
theorem Step.parallel {calls : Call τ → Prop} {x : SiteM τ ω α} (h : Step calls α x) :
    Parallel Alike (fun e => e.endsRun = false) x := by
  rintro ⟨_, history⟩ ⟨w, history'⟩ hst
  obtain ⟨rfl, haudible, hcalm⟩ := hst
  cases h with
  | @record e _ _ => exact record_parallel e _ _ ⟨rfl, haudible, hcalm⟩
  | now => exact ⟨rfl, by rintro _ ⟨⟩, rfl, haudible, hcalm⟩
  | elapse length =>
    exact ⟨rfl, by rintro _ ⟨⟩, rfl, haudible, hcalm.reaches (.sleep length .refl)⟩
  | freshId => exact ⟨rfl, by rintro _ ⟨⟩, rfl, haudible, hcalm.reaches (.freshId .refl)⟩
  | randomBits => exact ⟨rfl, by rintro _ ⟨⟩, rfl, haudible, hcalm.reaches (.randomBits .refl)⟩
  | @call c _ =>
    exact ⟨rfl, hcalm w .refl c, rfl, audible_record haudible _,
      hcalm.reaches (.reply c .refl)⟩

end Site

namespace Bench

variable [Host τ ω]

/-- Benches that differ in their registries, and in nothing audible, on a host that is calm. -/
structure Alike (b c : Bench τ ω κ) : Prop where
  site : Site.Alike b.site c.site
  frameworks : c.frameworks = b.frameworks
  names : c.names = b.names
  trial : c.trial = b.trial

/-- The runs of the procedure on benches that are alike end the same way, with no fault that stops
the run, and leave the benches alike. -/
def Unaware (x : BenchM τ ω κ α) : Prop := Parallel Alike (fun e => e.endsRun = false) x

theorem onSite_unaware {x : SiteM τ ω α}
    (h : Parallel Site.Alike (fun e => e.endsRun = false) x) :
    Unaware (onSite x : BenchM τ ω κ α) := by
  intro b c hbc
  obtain ⟨hsame, hkind, hsite⟩ := h b.site c.site hbc.site
  exact ⟨hsame, hkind, hsite, hbc.frameworks, hbc.names, hbc.trial⟩

theorem frameworkAt_unaware (k : Nat) :
    Unaware (frameworkAt k : BenchM τ ω κ (Framework τ κ)) := by
  intro b c hbc
  unfold frameworkAt
  rw [run_bind, run_bind, run_get, run_get]
  dsimp only
  rw [hbc.frameworks]
  cases b.frameworks[k]? with
  | none => exact ⟨rfl, (by rintro _ ⟨⟩; rfl), hbc⟩
  | some f => exact ⟨rfl, (by rintro _ ⟨⟩), hbc⟩

theorem update_unaware (k : Nat) (g : Framework τ κ → Framework τ κ) :
    Unaware (update k g : BenchM τ ω κ Unit) := by
  intro b c hbc
  refine ⟨rfl, by rintro _ ⟨⟩, hbc.site, ?_, hbc.names, hbc.trial⟩
  exact congrArg (·.modify k g) hbc.frameworks

/-- Only the registry has changed, and what it writes about itself into the log. -/
structure RegistryOnly (b b' : Bench τ ω κ) : Prop where
  eq : b' = { b with site := b'.site, registry := b'.registry }
  world : b'.site.world = b.site.world
  audible : audible b'.site.events = audible b.site.events

namespace RegistryOnly

variable {b b' b'' c c' : Bench τ ω κ}

omit [Host τ ω] in
theorem refl (b : Bench τ ω κ) : RegistryOnly b b := ⟨rfl, rfl, rfl⟩

omit [Host τ ω] in
theorem trans (h : RegistryOnly b b') (h' : RegistryOnly b' b'') : RegistryOnly b b'' := by
  refine ⟨?_, h'.world.trans h.world, h'.audible.trans h.audible⟩
  rw [h'.eq, h.eq]

/-- Benches that are alike stay so when only their registries change. -/
theorem alike (hb : RegistryOnly b b') (hc : RegistryOnly c c') (h : Alike b c) : Alike b' c' := by
  refine ⟨⟨?_, ?_, ?_⟩, ?_, ?_, ?_⟩
  · rw [hb.world, hc.world, h.site.world]
  · rw [hb.audible, hc.audible, h.site.audible]
  · rw [hb.world]
    exact h.site.calm
  · rw [hb.eq, hc.eq]
    exact h.frameworks
  · rw [hb.eq, hc.eq]
    exact h.names
  · rw [hb.eq, hc.eq]
    exact h.trial

end RegistryOnly

omit [Host τ ω] in
/-- An entry of the registry in the log is not audible. -/
theorem log_registryOnly {level : Level} {name : String} {fields : List (String × Detail τ)}
    (h : registryEntries.contains name = true) (b : Bench τ ω κ) :
    Ends (onSite (Site.log level name fields) : BenchM τ ω κ Unit) b fun r b' =>
      r = .ok () ∧ RegistryOnly b b' := by
  refine ⟨rfl, rfl, rfl, ?_⟩
  show Testbed.audible ((.log ⟨level, name, fields⟩ :: b.site.history).reverse) = _
  rw [List.reverse_cons, audible_append]
  have hsilent : Testbed.audible [.log ⟨level, name, fields⟩] = [] := by
    unfold Testbed.audible
    rw [List.filter_cons_of_neg (by simpa [Event.isOfRegistry] using h), List.filter_nil]
  rw [hsilent, List.append_nil]
  rfl

omit [Host τ ω] in
theorem unregister_registryOnly (handle : Option Nat) (b : Bench τ ω κ) :
    Ends (unregister handle : BenchM τ ω κ Unit) b fun r b' => r = .ok () ∧ RegistryOnly b b' := by
  apply Ends.bind_ok (P := fun b' => b' = b) ⟨rfl, rfl⟩
  rintro b rfl
  cases handle.filter b.registry.contains with
  | none => exact ⟨rfl, .refl b⟩
  | some h =>
    have hremoved : RegistryOnly b { b with registry := b.registry.remove h } := ⟨rfl, rfl, rfl⟩
    apply Ends.bind_ok (P := fun b' => b' = { b with registry := b.registry.remove h }) ⟨rfl, rfl⟩
    rintro _ rfl
    refine (log_registryOnly ?_ _).mono ?_
    · decide
    · rintro _ b' ⟨hok, hlog⟩
      exact ⟨hok, hremoved.trans hlog⟩

/-- Taking a duty back cannot be told from finding it gone. -/
theorem unregister_unaware (handle : Option Nat) :
    Unaware (unregister handle : BenchM τ ω κ Unit) := by
  intro b c hbc
  obtain ⟨hb, hb'⟩ := unregister_registryOnly handle b
  obtain ⟨hc, hc'⟩ := unregister_registryOnly handle c
  rw [hb, hc]
  exact ⟨rfl, by rintro _ ⟨⟩, hb'.alike hc' hbc⟩

end Bench

namespace Framework

variable [Host τ ω] {r : Runner τ ω κ} {k : Nat}

/-- A fault that may be absorbed does not stop the run. -/
theorem endsRun_of_isOrdinary (e : Fault τ) (h : e.isOrdinary = true) : e.endsRun = false := by
  rw [← Bool.not_eq_true]
  intro hends
  rw [Fault.isOrdinary_eq_false_of_endsRun hends] at h
  cases h

theorem SiteStep.unaware {calls : Call τ → Prop} {x : BenchM τ ω κ α}
    (h : SiteStep (fun e => e.endsRun = false) calls α x) : Unaware x := by
  cases h with
  | work hwork => exact onSite_unaware (hwork.parallel Site.Step.parallel)
  | look j => exact frameworkAt_unaware j

theorem CreateStep.unaware {x : BenchM τ ω κ α}
    (h : CreateStep (fun e => e.endsRun = false) k α x) : Unaware x := by
  cases h with
  | site h => exact h.unaware
  | take records => exact onSite_unaware (Site.record_parallel _)
  | track record => exact update_unaware k _

theorem withdraw_unaware (k : Nat) : Unaware (withdraw k : BenchM τ ω κ Unit) := by
  apply Parallel.bind (frameworkAt_unaware k)
  intro f
  apply Parallel.bind (unregister_unaware f.handle)
  intro _
  exact update_unaware k _

theorem mark_unaware (m : Mark) : Unaware (onSite (Site.mark m) : BenchM τ ω κ Unit) := by
  apply onSite_unaware
  have hnow : Site.Step (fun _ => True) τ (Site.now : SiteM τ ω τ) := .now
  apply Parallel.bind hnow.parallel
  intro _
  exact Site.record_parallel _

theorem IsServed.unaware {calls : Call τ → Prop} {x : BenchM τ ω κ α}
    (h : IsServed (fun e => e.endsRun = false) k calls x) : Unaware x :=
  h.madeOf.parallel SiteStep.unaware

variable [Seconds τ]

theorem resetAt_unaware (k : Nat) : Unaware (resetAt k : BenchM τ ω κ Unit) := by
  apply Parallel.bind (frameworkAt_unaware k)
  intro f
  apply Parallel.bind ((madeOf_closeClient f).parallel SiteStep.unaware)
  intro _
  exact update_unaware k _

theorem createNamespace_unaware (k : Nat) (baseName : String) (labels : Labels) :
    Unaware (createNamespace k baseName labels : BenchM τ ω κ (Option Namespace.Record)) :=
  (madeOf_createNamespace endsRun_of_isOrdinary baseName labels).parallel CreateStep.unaware

omit [Seconds τ] in
theorem DeleteStep.unaware {x : BenchM τ ω κ α}
    (h : DeleteStep (fun e => e.endsRun = false) k α x) : Unaware x := by
  cases h with
  | talk h => exact h.unaware
  | serve h => exact h.unaware
  | custody change => exact onSite_unaware (Site.record_parallel _)

theorem ClearStep.unaware {x : BenchM τ ω κ α}
    (h : ClearStep (fun e => e.endsRun = false) k α x) : Unaware x := by
  cases h with
  | delete h => exact h.unaware
  | reset => exact resetAt_unaware k

theorem StageStep.unaware {x : BenchM τ ω κ α}
    (h : StageStep (fun e => e.endsRun = false) k α x) : Unaware x := by
  cases h with
  | talk h => exact h.unaware
  | adjust _ => exact update_unaware k _
  | serve h => exact h.unaware
  | connect component =>
    apply (madeOf_connect endsRun_of_isOrdinary component).parallel
    intro _ _ hstep
    cases hstep with
    | site h => exact h.unaware
    | keep client => exact update_unaware k _

variable (hb : ∀ body, Unaware (r.perform (some k) body))

include hb

theorem WindStep.unaware {x : BenchM τ ω κ α}
    (h : WindStep (fun e => e.endsRun = false) r k α x) : Unaware x := by
  cases h with
  | part h =>
    cases h with
    | stage h => exact h.unaware
    | hook stage baseName => exact mark_unaware _
    | body body => exact hb body
  | start name => exact mark_unaware _

/-- A teardown is not aware of what the registry knows of it. -/
theorem afterEach_unaware (testFailed : Bool) : Unaware (afterEach r k testFailed) := by
  apply (madeOf_afterEach endsRun_of_isOrdinary testFailed).parallel
  intro _ _ hstep
  cases hstep with
  | wind h => exact h.unaware hb
  | withdraw => exact withdraw_unaware k
  | clear hbefore =>
    exact (madeOf_clearAway endsRun_of_isOrdinary testFailed hbefore).parallel ClearStep.unaware

end Framework

end Testbed
