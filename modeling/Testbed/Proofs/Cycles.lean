import Testbed.Proofs.Akin
import Testbed.Proofs.Reset
import Testbed.Scripted.World

/-!
# Cycles of a framework

A test uses a framework in a cycle: it sets the framework up, works with it, and tears it down, by
its own teardown or by a drain. Since that leaves a framework like a new one, what happened in
earlier cycles has no part in later ones: these run as they would with a new framework.
-/

set_option autoImplicit false

namespace Testbed

open Proc Bench

variable {τ ω κ α : Type}

/-- A runner whose bodies respect the framework with number `k`, and cannot tell akin benches
apart. -/
structure Runner.IsFair (r : Runner τ ω κ) (k : Nat) : Prop extends r.Respects k where
  oblivious : ∀ past owner body, Oblivious past (r.perform owner body)

/-- How a cycle ends: by the teardown of the test, or by a drain. -/
inductive Cycle.Ending where
  | afterEach (testFailed : Bool)
  | drain

/-- One use of a framework. -/
structure Cycle (τ ω κ : Type) where
  component : Option String
  /-- What the test does, given how its setup has ended. -/
  test : Except (Fault τ) Unit → BenchM τ ω κ Unit
  ending : Cycle.Ending

/-- What the parts of a cycle leave. The teardown gives its report, or the faults of the drain. -/
structure Cycle.Run (τ ω κ : Type) where
  setup : Trace τ ω κ Unit
  test : Trace τ ω κ Unit
  teardown : Trace τ ω κ (Framework.Report τ ⊕ List (Fault τ))

/-- The same ending and the same events, up to handles. -/
def Trace.Matches (t t' : Trace τ ω κ α) : Prop :=
  t'.ending = t.ending ∧ t'.events.map Event.unnumbered = t.events.map Event.unnumbered

/-- All parts have the same ending and the same events, up to handles. -/
structure Cycle.Run.Matches (run run' : Cycle.Run τ ω κ) : Prop where
  setup : run.setup.Matches run'.setup
  test : run.test.Matches run'.test
  teardown : run.teardown.Matches run'.teardown

/-- What a test does keeps the settings of the framework with number `k`, and cannot tell akin
benches apart. -/
structure Cycle.IsFair (k : Nat) (c : Cycle τ ω κ) : Prop where
  settings : ∀ ending, (c.test ending).Along fun b b' => b'.settingsAt k = b.settingsAt k
  oblivious : ∀ past ending, Oblivious past (c.test ending)

namespace Bench

/-- The bench in another world, with a history that begins anew. -/
def inWorld (b : Bench τ ω κ) (world : ω) : Bench τ ω κ := { b with site := .start world }

/-- The bench with a new framework in the place of the one with number `k`. -/
def renewed (k : Nat) (settings : Settings τ κ) (b : Bench τ ω κ) : Bench τ ω κ :=
  { b with frameworks := b.frameworks.set k (.fresh settings none) }

/-- The second bench is akin to the first one, and has a new framework with number `k`. -/
def Renews (k : Nat) (settings : Settings τ κ) (b c : Bench τ ω κ) : Prop :=
  c.frameworks[k]? = some (.fresh settings none) ∧
    ∃ past, b.Akin (fun j => if j = k then past else []) c

/-- A blank framework may be replaced by a new one. -/
theorem renews_renewed {k : Nat} {settings : Settings τ κ} {b : Bench τ ω κ} (hissued : b.Issued)
    (hblank : IsBlank k settings b) : Renews k settings b (b.renewed k settings) := by
  obtain ⟨uniqueName, pastActions, hf⟩ := hblank
  have hnew : (b.renewed k settings).frameworks[k]? = some (.fresh settings none) := by
    unfold renewed
    rw [List.getElem?_set_self]
    exact (List.getElem?_eq_some_iff.1 hf).1
  have hother {j : Nat} (hj : j ≠ k) : (b.renewed k settings).frameworks[j]? = b.frameworks[j]? :=
    List.getElem?_set_ne hj.symm
  have hhandle (j : Nat) : (b.renewed k settings).handleOf j = b.handleOf j := by
    by_cases hj : j = k
    · rw [hj, handleOf_of_some hnew, handleOf_of_some hf]
    · unfold handleOf
      rw [hother hj]
  refine ⟨hnew, pastActions, .refl b.site, ?_, rfl, rfl, ?_, hissued, hissued.live, ?_⟩
  · intro j
    by_cases hj : j = k
    · rw [hj, hnew, hf, if_pos rfl]
      exact .some ⟨rfl, rfl, rfl, rfl, rfl, rfl, rfl⟩
    · rw [hother hj, if_neg hj]
      exact (Akin.refl hissued).frameworks j
  · apply List.forall₂_same.2
    intro e _
    refine ⟨rfl, ?_⟩
    intro j
    rw [hhandle]
  · intro j
    rw [hhandle]
    exact hissued.known j

end Bench

namespace Cycle

open Framework

variable [Seconds τ] [Host τ ω]

/-- Tears the framework down. -/
def Ending.perform (r : Runner τ ω κ) (k : Nat) :
    Ending → BenchM τ ω κ (Report τ ⊕ List (Fault τ))
  | .afterEach testFailed => .inl <$> Framework.afterEach r k testFailed
  | .drain => (fun failures => .inr (failures.map Prod.snd)) <$> Framework.drain r

/-- The teardown that ends a cycle on this bench comes to the framework: a drain finds it
registered, and no duty before it stops the run. -/
def Ending.Comes (r : Runner τ ω κ) (k : Nat) (b : Bench τ ω κ) : Ending → Prop
  | .afterEach _ => True
  | .drain => (∃ handle, (handle, .teardown k) ∈ b.registry.live) ∧
      ∃ failures, (Trace.of (drainUpTo r k) b).ending = .ok failures

/-- A drain comes to the teardown that was registered last. -/
theorem Ending.comes_of_latest {r : Runner τ ω κ} {k : Nat} {b : Bench τ ω κ} {handle : Nat}
    {live : List (Nat × Duty κ)} (h : b.registry.live = live ++ [(handle, .teardown k)])
    (ending : Ending) : ending.Comes r k b := by
  cases ending with
  | afterEach testFailed => trivial
  | drain =>
    refine ⟨⟨handle, by simp [h]⟩, [], ?_⟩
    have htaken : (b.registry.live.reverse.takeWhile fun d => !d.2.tearsDown k) = [] := by
      rw [h, List.reverse_append]
      exact List.takeWhile_cons_of_neg (by simp [Duty.tearsDown])
    have hfirst : Ends (drainUpTo r k) b.restarted fun ending _ => ending = .ok [] := by
      apply Ends.bind_ok (a := b.registry.live.reverse) (P := fun _ => True) ⟨rfl, trivial⟩
      intro _ _
      apply Ends.bind_ok (P := fun _ => True) ⟨rfl, trivial⟩
      intro _ _
      rw [htaken]
      exact rfl
    exact hfirst

/-- Runs a cycle, each part on the bench that the one before left. -/
def run (r : Runner τ ω κ) (k : Nat) (c : Cycle τ ω κ) (b : Bench τ ω κ) : Run τ ω κ :=
  let setup := Trace.of (beforeEach r k c.component) b
  let test := Trace.of (c.test setup.ending) setup.after
  ⟨setup, test, Trace.of (c.ending.perform r k) test.after⟩

/-- The bench after cycles. -/
def after (r : Runner τ ω κ) (k : Nat) : List (Cycle τ ω κ) → Bench τ ω κ → Bench τ ω κ
  | [], b => b
  | c :: rest, b => after r k rest (c.run r k b).teardown.after

/-- The runs of cycles, each on the bench that the one before left. -/
def runs (r : Runner τ ω κ) (k : Nat) : List (Cycle τ ω κ) → Bench τ ω κ → List (Run τ ω κ)
  | [], _ => []
  | c :: rest, b => c.run r k b :: runs r k rest (c.run r k b).teardown.after

variable {r : Runner τ ω κ} {k : Nat} {settings : Settings τ κ} {b : Bench τ ω κ} {c : Cycle τ ω κ}

omit [Seconds τ] in
/-- What a test does is fair if it is a routine, such as tracking namespaces and deferring
actions. -/
theorem isFair_of_routine (hr : r.IsFair k)
    (h : ∀ ending, Routine (fun _ => True) r k (c.test ending)) : c.IsFair k where
  settings ending := ((h ending).keepsSettings hr.own).mono fun _ _ h => h.settingsAt_eq
  oblivious past ending := (h ending).oblivious (hr.oblivious past (some k))

/-- A setup whose hook leaves the books registers the teardown and nothing else. -/
theorem beforeEach_latest (hhook : (hook r k .before).Along KeepsBooks) (component : Option String)
    (b : Bench τ ω κ) : Ends (beforeEach r k component) b fun _ b' => ∃ live handle,
      b'.registry.live = live ++ [(handle, .teardown k)] := by
  have hidle : SetupRules (⟨fun _ _ => pure (), 0⟩ : Runner τ ω κ) k KeepsBooks :=
    setupRules_of_books (fun _ _ h => h) (fun _ _ => along_pure ()) k
  have hprepare : (prepare r k component).Along KeepsBooks := by
    apply Along.bind (hidle.along (.step (.part (.stage (.connect component)))))
    intro _
    apply hhook.bind
    intro _
    apply Along.bind (frameworkAt_along k)
    intro f
    apply along_ite
    · intro _
      exact hidle.toStageRules.along madeOf_nameOnly
    · intro _
      exact hidle.along (madeOf_createOwn fun _ _ => trivial)
  apply Ends.bind (enroll_rebooked k b)
  · rintro _ b₁ ⟨_, h₁⟩
    have hrest : (frameworkAt k >>= fun f => enclose
        { operation := "before_each", baseName := some f.baseName }
        (prepare r k component)).Along KeepsBooks := by
      apply Along.bind (frameworkAt_along k)
      intro f
      apply hprepare.attempt.bind
      intro ending
      apply Along.bind
      · intro b
        obtain ⟨_, hspan⟩ := record_adds _ b
        exact hspan.keepsBooks
      · intro _
        exact along_conclude ending
    apply (hrest b₁).mono
    intro _ b₂ h₂
    exact ⟨b.registry.live, b.registry.issued + 1, by rw [h₂.registry, h₁.live]⟩
  · rintro e b₁ ⟨hok, _⟩
    cases hok

theorem run_latest (hhook : (hook r k .before).Along KeepsBooks)
    (htest : ∀ ending, (c.test ending).Along KeepsBooks) :
    ∃ live handle, (c.run r k b).test.after.registry.live = live ++ [(handle, .teardown k)] := by
  obtain ⟨live, handle, hsetup⟩ := beforeEach_latest hhook c.component b.restarted
  have hbooks : (c.run r k b).test.after.registry = (c.run r k b).setup.after.registry :=
    (htest (c.run r k b).setup.ending (c.run r k b).setup.after.restarted).registry
  refine ⟨live, handle, ?_⟩
  rw [hbooks]
  exact hsetup

section

variable (hr : r.IsFair k) (hc : c.IsFair k)

include hr

theorem Ending.perform_keepsBlank (ending : Ending) :
    (ending.perform r k).Along (KeepsBlank k settings) := by
  cases ending with
  | afterEach testFailed =>
    apply Along.map
    intro b hsettings
    exact Blanks.keepsBlank (afterEach_blanks hr.own hsettings testFailed) hsettings
  | drain => exact (drain_keepsBlank hr.toRespects).map _

theorem Ending.perform_blanks (hsettings : b.settingsAt k = some settings) {ending : Ending}
    (hcomes : ending.Comes r k b) :
    Ends (ending.perform r k) b.restarted fun _ b' => Blanks k settings b.restarted b' := by
  cases ending with
  | afterEach testFailed =>
    exact (afterEach_blanks hr.own (b := b.restarted) hsettings testFailed).map Sum.inl
  | drain =>
    obtain ⟨hlive, hreaches⟩ := hcomes
    exact (drain_blanks (b := b.restarted) hr.toRespects hsettings hlive hreaches).map _

include hc

/-- The framework keeps its settings up to the teardown, and through it. -/
theorem run_settings (hsettings : b.settingsAt k = some settings) :
    (c.run r k b).test.after.settingsAt k = some settings ∧
      (c.run r k b).teardown.after.settingsAt k = some settings := by
  have hroutine : Routine (fun _ => True) r k (beforeEach r k c.component) :=
    routine_beforeEach (fun _ => trivial) c.component
  have hsetup := hroutine.keepsSettings hr.own b.restarted
  have hsettings₁ : (c.run r k b).setup.after.settingsAt k = some settings :=
    hsetup.settingsAt_eq.trans hsettings
  have hsettings₂ : (c.run r k b).test.after.settingsAt k = some settings :=
    (hc.settings _ (c.run r k b).setup.after.restarted).trans hsettings₁
  obtain ⟨hsettings₃, _⟩ :=
    Ending.perform_keepsBlank hr c.ending (c.run r k b).test.after.restarted hsettings₂
  exact ⟨hsettings₂, hsettings₃⟩

/-- After the teardown of a cycle the framework is blank, unless a teardown was cut short. -/
theorem run_isBlank (hsettings : b.settingsAt k = some settings)
    (hcomes : c.ending.Comes r k (c.run r k b).test.after)
    (hcalm : Undisturbed (c.run r k b).teardown.events) :
    IsBlank k settings (c.run r k b).teardown.after := by
  obtain ⟨hsettings₂, _⟩ := run_settings hr hc hsettings
  obtain ⟨_, hblank⟩ := Ending.perform_blanks hr hsettings₂ hcomes
  exact Trace.of_ends (Q := fun _ events b' => Undisturbed events → IsBlank k settings b') hblank
    hcalm

end

section

variable {past : Nat → List (List (Action κ))} {b' : Bench τ ω κ}

omit [Seconds τ] [Host τ ω] in
/-- On akin benches a procedure that cannot tell them apart leaves traces that match. -/
theorem trace_matches {x : BenchM τ ω κ α} (hx : Oblivious past x) (h : b.Akin past b') :
    (Trace.of x b).Matches (Trace.of x b') ∧
      (Trace.of x b).after.Akin past (Trace.of x b').after := by
  have hrestarted : b.restarted.Akin past b'.restarted :=
    ⟨⟨h.site.world, rfl⟩, h.frameworks, h.names, h.trial, h.live,
      ⟨h.issued.live, h.issued.known⟩, ⟨h.issued'.live, h.issued'.known⟩⟩
  obtain ⟨hends, hakin⟩ := hx b.restarted b'.restarted hrestarted
  exact ⟨⟨hends.eq, hakin.site.events⟩, hakin⟩

variable (hr : r.IsFair k)

include hr

theorem Ending.perform_oblivious (ending : Ending) : Oblivious past (ending.perform r k) := by
  cases ending with
  | afterEach testFailed =>
    exact (afterEach_oblivious (hr.oblivious past (some k)) testFailed).map fun _ _ h => by rw [h]
  | drain => exact (drain_couples (hr.oblivious past)).map fun _ _ h => by rw [h]

/-- One cycle on akin benches. -/
theorem run_matches (hc : c.IsFair k) (h : b.Akin past b') :
    (c.run r k b).Matches (c.run r k b') ∧
      (c.run r k b).teardown.after.Akin past (c.run r k b').teardown.after := by
  obtain ⟨hsetup, h₁⟩ :=
    trace_matches (beforeEach_oblivious (hr.oblivious past (some k)) c.component) h
  have hsame : (c.run r k b').test =
      Trace.of (c.test (c.run r k b).setup.ending) (c.run r k b').setup.after := by
    have hending : (c.run r k b').setup.ending = (c.run r k b).setup.ending := hsetup.1
    rw [← hending]
    rfl
  have htest : (c.run r k b).test.Matches (c.run r k b').test ∧
      (c.run r k b).test.after.Akin past (c.run r k b').test.after := by
    rw [hsame]
    exact trace_matches (hc.oblivious past _) h₁
  obtain ⟨hteardown, h₃⟩ := trace_matches (Ending.perform_oblivious hr c.ending) htest.2
  exact ⟨⟨hsetup, htest.1, hteardown⟩, h₃⟩

/-- Cycles on akin benches have runs that match, one by one. -/
theorem runs_match {cycles : List (Cycle τ ω κ)} (hcycles : ∀ c ∈ cycles, c.IsFair k)
    (h : b.Akin past b') : List.Forall₂ Run.Matches (runs r k cycles b) (runs r k cycles b') := by
  induction cycles generalizing b b' with
  | nil => exact .nil
  | cons c rest ih =>
    obtain ⟨hfirst, hafter⟩ := run_matches hr (hcycles c (List.mem_cons_self ..)) h
    exact .cons hfirst (ih (fun c hc => hcycles c (List.mem_cons_of_mem _ hc)) hafter)

/-- Cycles keep the settings of the framework, and give out all handles that are used. -/
theorem after_keeps {cycles : List (Cycle τ ω κ)} (hcycles : ∀ c ∈ cycles, c.IsFair k)
    (hsettings : b.settingsAt k = some settings) (hissued : b.Issued) :
    (after r k cycles b).settingsAt k = some settings ∧ (after r k cycles b).Issued := by
  induction cycles generalizing b with
  | nil => exact ⟨hsettings, hissued⟩
  | cons c rest ih =>
    have hc := hcycles c (List.mem_cons_self ..)
    obtain ⟨_, hsettings'⟩ := run_settings hr hc hsettings
    obtain ⟨_, hakin⟩ := run_matches hr hc (Akin.refl hissued)
    exact ih (fun c hc => hcycles c (List.mem_cons_of_mem _ hc)) hsettings' hakin.issued

end

/-- Cycles are independent. After any cycles of a framework whose settings stay, the last of which
comes to its teardown and is not cut short there, the framework is like a new one with the same
settings and no client, but for its unique name. So with a new one in its place, and with other
handles in the registry, every later cycle makes the same calls, writes the same logs and spans, and
ends the same way, whatever the world answers. The teardown comes to the framework if the hook and
the test before it register nothing. -/
theorem cycles_independent (hr : r.IsFair k) (hissued : b.Issued)
    (hsettings : b.settingsAt k = some settings) {earlier : List (Cycle τ ω κ)}
    (hearlier : ∀ c ∈ earlier, c.IsFair k) {last : Cycle τ ω κ} (hlast : last.IsFair k) :
    let run := last.run r k (after r k earlier b)
    let torn := run.teardown.after
    ((hook r k .before).Along KeepsBooks → (∀ ending, (last.test ending).Along KeepsBooks) →
      last.ending.Comes r k run.test.after) ∧
    (last.ending.Comes r k run.test.after → Undisturbed run.teardown.events →
      IsBlank k settings torn ∧ ∀ world,
        Renews k settings (torn.inWorld world) ((torn.inWorld world).renewed k settings) ∧
        ∀ b', Renews k settings (torn.inWorld world) b' →
          ∀ later : List (Cycle τ ω κ), (∀ c ∈ later, c.IsFair k) →
            List.Forall₂ Run.Matches (runs r k later (torn.inWorld world))
              (runs r k later b')) := by
  intro run torn
  obtain ⟨hsettings', hissued'⟩ := after_keeps hr hearlier hsettings hissued
  constructor
  · intro hhook htest
    obtain ⟨live, handle, hlatest⟩ := run_latest hhook htest
    exact Ending.comes_of_latest hlatest last.ending
  · intro hcomes hcalm
    have hblank : IsBlank k settings torn := run_isBlank hr hlast hsettings' hcomes hcalm
    obtain ⟨_, htorn⟩ := run_matches hr hlast (Akin.refl hissued')
    refine ⟨hblank, ?_⟩
    intro world
    have hissued'' : (torn.inWorld world).Issued := ⟨htorn.issued.live, htorn.issued.known⟩
    refine ⟨renews_renewed hissued'' hblank, ?_⟩
    rintro b' ⟨_, past, hakin⟩ later hlater
    exact runs_match hr hlater hakin

/-- Bodies that track a namespace for the framework on whose behalf they run. -/
def trackingRunner : Runner Rat (Scripted.World Rat) Namespace.Record where
  perform owner record :=
    match owner with
    | some j => trackEach j [some record]
    | none => pure ()
  patience := 8

theorem trackingRunner_isFair (k : Nat) : trackingRunner.IsFair k := by
  refine ⟨⟨?_, ?_⟩, ?_⟩
  · intro record b
    have hkeeps : (trackingRunner.perform (some k) record).Along (KeepsSettings k) :=
      trackEach_along _ (record_upholds trivial) (update_upholds (isPlain_trackAll _).settings)
    have hbooks : KeepsBooks b ((trackingRunner.perform (some k) record).run b).2 :=
      trackEach_keepsBooks k _ b
    exact ⟨hkeeps b, (hbooks.handleOf k).trans⟩
  · intro owner howner record
    cases owner with
    | none => exact along_pure ()
    | some j =>
      have hj : j ≠ k := fun h => howner (congrArg some h)
      apply trackEach_along _ _ (update_leavesAlone hj _)
      intro b
      exact (record_adds _ b).mono fun _ _ h => h.2.leavesAlone
  · intro past owner record
    cases owner with
    | none => exact couples_pure rfl
    | some j =>
      apply (frameworkAt_couples j).bind
      intro _ _ _
      apply Couples.bind_self (record_couples rfl)
      intro _
      exact update_oblivious (isPlain_trackAll _)

theorem trackingRunner_hook (k : Nat) : (hook trackingRunner k .before).Along KeepsBooks := by
  have hmark (m : Mark) : (onSite (Site.mark m)
      : BenchM Rat (Scripted.World Rat) Namespace.Record Unit).Along (AtSite fun _ => False) :=
    onSite_atSite (Site.makes_mark m)
  apply Along.bind (frameworkAt_along k)
  intro f
  split
  · exact along_pure ()
  · apply Along.bind ((hmark _).mono fun _ _ h => h.keepsBooks)
    intro _
    exact trackEach_keepsBooks k _

/-- Settings with hooks that track a namespace each. -/
def hooked : Settings Rat Namespace.Record :=
  { baseName := "web", options := .standard, suite := .standard, cluster := .stub,
    provider := some ⟨⟨"early", [], none⟩, ⟨"late", [], none⟩⟩, customCreation := false,
    skipNamespace := false, skipServiceAccountWait := false, deletionTimeout := none }

/-- A bench with a framework that was not used yet. -/
def unused : Bench Rat (Scripted.World Rat) Namespace.Record :=
  { Bench.start (.start 0 [] []) with frameworks := [.fresh hooked none] }

/-- A cycle whose test tracks a namespace and defers an action that tracks another one. -/
def busy (ending : Ending) : Cycle Rat (Scripted.World Rat) Namespace.Record where
  component := none
  test _ := do
    trackEach 0 [some ⟨"spare", [], none⟩]
    update 0 (·.defer ⟨"more", ⟨"extra", [], none⟩⟩)
  ending := ending

theorem busy_isFair (ending : Ending) : (busy ending).IsFair 0 := by
  apply isFair_of_routine (trackingRunner_isFair 0)
  intro _
  apply (routine_trackEach (fun _ _ => trivial) _).bind
  intro _
  exact .update (isPlain_defer _)

/-- A busy cycle that a drain ends, after one whose test has failed. -/
def drained : Run Rat (Scripted.World Rat) Namespace.Record :=
  (busy .drain).run trackingRunner 0 (after trackingRunner 0 [busy (.afterEach true)] unused)

theorem cycles_independent_busy :
    let torn := drained.teardown.after.inWorld (.start 7 [] [])
    Undisturbed drained.teardown.events ∧ IsBlank 0 hooked drained.teardown.after ∧
      List.Forall₂ Run.Matches (runs trackingRunner 0 [busy (.afterEach false)] torn)
        (runs trackingRunner 0 [busy (.afterEach false)] (torn.renewed 0 hooked)) := by
  have hissued : unused.Issued := by
    refine ⟨by rintro _ ⟨⟩, ?_⟩
    rintro (_ | _) _ ⟨⟩
  have hbusy (ending : Ending) : ∀ c ∈ [busy ending], Cycle.IsFair 0 c := by
    intro c hc
    rw [List.mem_singleton.1 hc]
    exact busy_isFair ending
  have htest (ending : Except (Fault Rat) Unit) : ((busy .drain).test ending).Along KeepsBooks := by
    apply (trackEach_keepsBooks 0 _).bind
    intro _
    exact update_keepsBooks fun _ => rfl
  have hcalm : Undisturbed drained.teardown.events := by decide +kernel
  have hsettings : unused.settingsAt 0 = some hooked := rfl
  obtain ⟨hcomes, hindependent⟩ := cycles_independent (trackingRunner_isFair 0) hissued hsettings
    (hbusy _) (busy_isFair .drain)
  obtain ⟨hblank, hlater⟩ := hindependent (hcomes (trackingRunner_hook 0) htest) hcalm
  obtain ⟨hrenews, hmatch⟩ := hlater (.start 7 [] [])
  exact ⟨hcalm, hblank, hmatch _ hrenews _ (hbusy _)⟩

end Cycle

end Testbed
