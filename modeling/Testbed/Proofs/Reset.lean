import Mathlib.Data.List.TakeWhile
import Testbed.Proofs.Books
import Testbed.Proofs.Upholding

/-!
# What a teardown leaves of a framework

A teardown that is not cut short leaves a blank framework, whatever came before it and however it
ends: a framework that differs from a new one with the same settings in its unique name only. So
does a drain that comes to the teardown, since what it does after it leaves the framework alone.
-/

set_option autoImplicit false

namespace Testbed

open Proc Bench

variable {τ ω κ α : Type}

namespace Bench

/-- The history goes on, and the framework with number `k` keeps its settings. -/
abbrev KeepsSettings (k : Nat) : Bench τ ω κ → Bench τ ω κ → Prop := Upholds (fun _ => True) id k

/-- The history goes on, the framework with number `k` keeps its settings, and no teardown of it is
registered unless one was. -/
structure StaysDown (k : Nat) (b b' : Bench τ ω κ) : Prop where
  keeps : KeepsSettings k b b'
  handle : b.handleOf k = none → b'.handleOf k = none

/-- The history goes on, and the framework with number `k` is as it was. -/
structure LeavesAlone (k : Nat) (b b' : Bench τ ω κ) : Prop where
  history : Site.Leaves (fun _ => True) b.site b'.site
  framework : b'.frameworks[k]? = b.frameworks[k]?

/-- The framework with number `k` is like a new one with these settings and no client, but for its
unique name, and for the queues that its resets have put away. -/
def IsBlank (k : Nat) (settings : Settings τ κ) (b : Bench τ ω κ) : Prop :=
  ∃ uniqueName pastActions, b.frameworks[k]? =
    some { Framework.fresh settings none with uniqueName, pastActions }

/-- The framework with number `k` has these settings, and is blank unless a teardown was cut short
in between. -/
def Blanks (k : Nat) (settings : Settings τ κ) (b b' : Bench τ ω κ) : Prop :=
  b'.settingsAt k = some settings ∧ ∃ new, b'.site.events = b.site.events ++ new ∧
    (Undisturbed new → IsBlank k settings b')

/-- A framework with these settings keeps them, and stays blank, if it was, unless a teardown was
cut short in between. -/
def KeepsBlank (k : Nat) (settings : Settings τ κ) (b b' : Bench τ ω κ) : Prop :=
  b.settingsAt k = some settings → b'.settingsAt k = some settings ∧
    ∃ new, b'.site.events = b.site.events ++ new ∧
      (Undisturbed new → IsBlank k settings b → IsBlank k settings b')

instance {k : Nat} : IsPreorder (Bench τ ω κ) (StaysDown k) where
  refl b := ⟨refl_of (KeepsSettings k) b, id⟩
  trans _ _ _ h h' := ⟨trans_of (KeepsSettings k) h.keeps h'.keeps,
    fun hb => h'.handle (h.handle hb)⟩

instance {k : Nat} : IsPreorder (Bench τ ω κ) (LeavesAlone k) where
  refl b := ⟨refl_of (Site.Leaves fun _ => True) b.site, rfl⟩
  trans _ _ _ h h' := ⟨trans_of (Site.Leaves fun _ => True) h.history h'.history,
    h'.framework.trans h.framework⟩

instance {k : Nat} {settings : Settings τ κ} :
    IsPreorder (Bench τ ω κ) (KeepsBlank k settings) where
  refl b := fun h => ⟨h, [], (List.append_nil _).symm, fun _ => id⟩
  trans := by
    intro a b c h h' ha
    obtain ⟨hb, new, hnew, hblank⟩ := h ha
    obtain ⟨hc, later, hlater, hblank'⟩ := h' hb
    refine ⟨hc, new ++ later, ?_, ?_⟩
    · rw [hlater, hnew, List.append_assoc]
    · intro hcalm hblanka
      rw [Undisturbed.append] at hcalm
      exact hblank' hcalm.2 (hblank hcalm.1 hblanka)

section

variable {k : Nat} {settings : Settings τ κ} {b b' b'' : Bench τ ω κ}

theorem Upholds.settingsAt_eq {P : Event τ → Prop} (h : Upholds P id k b b') :
    b'.settingsAt k = b.settingsAt k := by
  have hsame := h.2
  rw [Option.map_id] at hsame
  exact hsame

theorem Adds.keepsSettings {new : List (Event τ)} (h : Adds new b b') :
    KeepsSettings k b b' := by
  refine ⟨⟨new, h.2, fun _ _ => trivial⟩, ?_⟩
  unfold settingsAt
  rw [h.frameworks]

theorem AtSite.keepsSettings {calls : Call τ → Prop} (h : AtSite calls b b') :
    KeepsSettings k b b' := by
  obtain ⟨new, hadds, _⟩ := h.adds
  exact hadds.keepsSettings

theorem AtSite.staysDown {calls : Call τ → Prop} (h : AtSite calls b b') : StaysDown k b b' := by
  refine ⟨h.keepsSettings, ?_⟩
  rw [h.keepsBooks.handleOf]
  exact id

theorem Adds.leavesAlone {new : List (Event τ)} (h : Adds new b b') : LeavesAlone k b b' :=
  ⟨⟨new, h.2, fun _ _ => trivial⟩, by rw [h.frameworks]⟩

theorem AtSite.leavesAlone {calls : Call τ → Prop} (h : AtSite calls b b') :
    LeavesAlone k b b' := by
  obtain ⟨new, hadds, _⟩ := h.adds
  exact hadds.leavesAlone

theorem LeavesAlone.isBlank (h : LeavesAlone k b b') (hb : IsBlank k settings b) :
    IsBlank k settings b' := by
  obtain ⟨uniqueName, pastActions, hf⟩ := hb
  exact ⟨uniqueName, pastActions, by rw [h.framework, hf]⟩

theorem LeavesAlone.settingsAt_eq (h : LeavesAlone k b b') :
    b'.settingsAt k = b.settingsAt k := by
  unfold settingsAt
  rw [h.framework]

theorem LeavesAlone.keepsBlank (h : LeavesAlone k b b') : KeepsBlank k settings b b' := by
  intro hsettings
  obtain ⟨new, hnew, _⟩ := h.history
  exact ⟨by rw [h.settingsAt_eq, hsettings], new, hnew, fun _ => h.isBlank⟩

theorem Blanks.keepsBlank (h : Blanks k settings b b') : KeepsBlank k settings b b' := by
  obtain ⟨hsettings, new, hnew, hblank⟩ := h
  exact fun _ => ⟨hsettings, new, hnew, fun hcalm _ => hblank hcalm⟩

/-- What comes before a teardown does not matter. -/
theorem Blanks.after (h' : Blanks k settings b' b'')
    (h : Site.Leaves (fun _ => True) b.site b'.site) : Blanks k settings b b'' := by
  obtain ⟨hsettings, later, hlater, hblank⟩ := h'
  obtain ⟨new, hnew, _⟩ := h
  refine ⟨hsettings, new ++ later, ?_, ?_⟩
  · rw [hlater, hnew, List.append_assoc]
  · intro hcalm
    rw [Undisturbed.append] at hcalm
    exact hblank hcalm.2

/-- What comes after it keeps the framework blank. -/
theorem Blanks.before (h : Blanks k settings b b') (h' : KeepsBlank k settings b' b'') :
    Blanks k settings b b'' := by
  obtain ⟨hsettings, new, hnew, hblank⟩ := h
  obtain ⟨hsettings', later, hlater, hblank'⟩ := h' hsettings
  refine ⟨hsettings', new ++ later, ?_, ?_⟩
  · rw [hlater, hnew, List.append_assoc]
  · intro hcalm
    rw [Undisturbed.append] at hcalm
    exact hblank' hcalm.2 (hblank hcalm.1)

/-- A framework that is not registered is blank once it is reset. -/
theorem isBlank_reset (hsettings : b.settingsAt k = some settings) (hhandle : b.handleOf k = none)
    (hreset : b'.frameworks = b.frameworks.modify k Framework.reset) : IsBlank k settings b' := by
  obtain ⟨f, hf, rfl⟩ := Option.map_eq_some_iff.1 hsettings
  rw [handleOf_of_some hf] at hhandle
  refine ⟨f.uniqueName, f.actions :: f.pastActions, ?_⟩
  rw [hreset, List.getElem?_modify_eq, hf]
  show some { f.reset with } = _
  simp [Framework.reset, Framework.fresh, hhandle]

end

end Bench

namespace Framework

variable [Seconds τ] [Host τ ω] {r : Runner τ ω κ} {k : Nat} {settings : Settings τ κ}
  {b : Bench τ ω κ}

omit [Seconds τ] [Host τ ω] in
theorem withdraw_takesDown (hsettings : b.settingsAt k = some settings) :
    Ends (withdraw k : BenchM τ ω κ Unit) b fun _ b' =>
      KeepsSettings k b b' ∧ b'.handleOf k = none := by
  obtain ⟨f, hf, _⟩ := Option.map_eq_some_iff.1 hsettings
  have hupholds : (withdraw k : BenchM τ ω κ Unit).Along (KeepsSettings k) :=
    withdraw_upholds fun _ _ => trivial
  apply ((hupholds b).and (withdraw_ends hf)).mono
  rintro _ b' ⟨h, _, hf'⟩
  exact ⟨h, handleOf_of_some hf'⟩

omit [Seconds τ] [Host τ ω] in
theorem update_staysDown {g : Framework τ κ → Framework τ κ} (hg : IsPrivate g) :
    (update k g : BenchM τ ω κ Unit).Along (StaysDown k) := by
  intro b
  have hbooks : KeepsBooks b ((update k g).run b).2 := update_keepsBooks hg.handle b
  refine ⟨update_upholds hg.settings b, ?_⟩
  rw [hbooks.handleOf]
  exact id

variable (hb : ∀ body, (r.perform (some k) body).Along (StaysDown k))

include hb

omit [Seconds τ] in
/-- Routines that run such bodies keep the settings. -/
theorem Routine.keepsSettings {x : BenchM τ ω κ α} (hx : Routine (fun _ => True) r k x) :
    x.Along (KeepsSettings k) :=
  hx.upholds (fun _ _ => trivial) (fun body => (hb body).mono fun _ _ h => h.keeps)
    fun _ _ => trivial

/-- A teardown that is not cut short leaves a blank framework, however it ends. -/
theorem afterEach_blanks (hsettings : b.settingsAt k = some settings) (testFailed : Bool) :
    Ends (afterEach r k testFailed) b fun _ b' => Blanks k settings b b' := by
  have hrules : PartRules r k (StaysDown k) :=
    { site := fun _ _ h => h.staysDown
      body := hb
      adjust := fun _ => update_staysDown }
  have hkeeps := (routine_afterEach (fun _ => trivial) testFailed).keepsSettings hb b
  apply (hkeeps.and (afterEach_ends hrules (withdraw_takesDown hsettings) ?_ ?_)).mono
  · rintro _ b' ⟨h, hblank⟩
    exact ⟨by rw [h.settingsAt_eq, hsettings], hblank⟩
  · rintro before b₁ b₂ ⟨hfirst, hhandle⟩ h₂
    have h₂' := trans_of (KeepsSettings k) hfirst h₂.keeps
    have hsettings₂ : b₂.settingsAt k = some settings := by rw [h₂'.settingsAt_eq, hsettings]
    obtain ⟨first, hfirst, _⟩ := h₂'.1
    obtain ⟨f, hf, _⟩ := Option.map_eq_some_iff.1 hsettings₂
    apply (clearAway_ends testFailed before hf).mono
    rintro r b₃ ⟨new, hcleared⟩ ended b₄ h₄
    refine ⟨first ++ new ++ [.span ended], ?_, ?_⟩
    · rw [h₄.2, hcleared.continues.2, hfirst, List.append_assoc, List.append_assoc,
        List.append_assoc]
    · intro hcalm
      rw [Undisturbed.append, Undisturbed.append] at hcalm
      apply isBlank_reset hsettings₂ (h₂.handle hhandle)
      rw [h₄.frameworks, hcleared.frameworks_eq hcalm.1.2]
  · rintro e b₁ ⟨hfirst, _⟩ hmissing
    have hsettings₁ := hfirst.settingsAt_eq
    rw [hsettings, settingsAt, hmissing] at hsettings₁
    cases hsettings₁

/-- So does a teardown of the registry's own. -/
theorem abortTeardown_blanks (hsettings : b.settingsAt k = some settings) :
    Ends (abortTeardown r k) b fun _ b' => Blanks k settings b b' := by
  obtain ⟨f, hf, _⟩ := Option.map_eq_some_iff.1 hsettings
  apply Ends.bind_ok (frameworkAt_ends hf)
  rintro b rfl
  apply Ends.bind_ok (record_adds _ b)
  intro b₁ h₁
  have hnoted : KeepsSettings k b b₁ := h₁.keepsSettings
  have hsettings₁ : b₁.settingsAt k = some settings := by rw [hnoted.settingsAt_eq, hsettings]
  have hblanks : Ends (afterEach r k true) b₁ fun _ b' => Blanks k settings b b' :=
    (afterEach_blanks hb hsettings₁ true).mono fun _ _ h => h.after hnoted.1
  exact hblanks.bind (fun _ _ h => h) fun _ _ h => h

omit hb

section Others

variable {j : Nat} (hj : j ≠ k)

include hj

omit [Seconds τ] [Host τ ω] in
theorem update_leavesAlone (g : Framework τ κ → Framework τ κ) :
    (update j g : BenchM τ ω κ Unit).Along (LeavesAlone k) := by
  intro b
  apply (update_ends j g b).mono
  rintro _ b' ⟨_, h, hframeworks⟩
  refine ⟨⟨[], h.2, by simp⟩, ?_⟩
  rw [hframeworks, List.getElem?_modify_ne _ _ hj]

omit [Seconds τ] [Host τ ω] in
theorem withdraw_leavesAlone : (withdraw j : BenchM τ ω κ Unit).Along (LeavesAlone k) := by
  apply Along.bind (frameworkAt_along j)
  intro f
  have hunregister : (unregister f.handle : BenchM τ ω κ Unit).Along (LeavesAlone k) := by
    intro b
    apply (unregister_ends f.handle b).mono
    rintro _ b' ⟨_, h⟩
    have hregistry : LeavesAlone k b { b with registry := b.registry.without f.handle } :=
      ⟨refl_of (Site.Leaves fun _ => True) b.site, rfl⟩
    exact trans_of (LeavesAlone k) hregistry h.leavesAlone
  apply hunregister.bind
  intro _
  exact update_leavesAlone hj _

theorem clearAway_leavesAlone (testFailed : Bool) (before : Except (Fault τ) Unit) :
    (clearAway j testFailed before : BenchM τ ω κ (Report τ)).Along (LeavesAlone k) := by
  intro b
  apply (clearAway_found j testFailed before b).mono
  rintro r b' (⟨f, new, _, h⟩ | ⟨rfl, _⟩)
  · refine ⟨⟨new, h.continues.2, fun _ _ => trivial⟩, ?_⟩
    obtain ⟨ending, _, hframeworks⟩ := h.release
    cases ending with
    | error e => rw [hframeworks.2]
    | ok _ =>
      obtain hreset | ⟨hsame, _⟩ := hframeworks
      · rw [hreset, List.getElem?_modify_ne _ _ hj]
      · rw [hsame]
  · exact refl_of (LeavesAlone k) b'

/-- The teardown of another framework leaves this one alone if its bodies do. -/
theorem abortTeardown_leavesAlone
    (hbj : ∀ body, (r.perform (some j) body).Along (LeavesAlone k)) :
    (abortTeardown r j).Along (LeavesAlone k) := by
  have hrules : TeardownRules r j (LeavesAlone k) :=
    { site := fun _ _ h => h.leavesAlone
      body := hbj
      adjust := fun g _ => update_leavesAlone hj g
      withdraw := withdraw_leavesAlone hj
      clear := clearAway_leavesAlone hj }
  exact hrules.abortTeardown

end Others

end Framework

/-- What a runner's bodies do to the framework with number `k`: its own neither change its settings
nor set it up again, and all others leave it alone. -/
structure Runner.Respects (r : Runner τ ω κ) (k : Nat) : Prop where
  own : ∀ body, (r.perform (some k) body).Along (StaysDown k)
  others : ∀ owner, owner ≠ some k → ∀ body, (r.perform owner body).Along (LeavesAlone k)

namespace Framework

variable [Seconds τ] [Host τ ω] {r : Runner τ ω κ} {k : Nat} {settings : Settings τ κ}
  {b : Bench τ ω κ}

/-- The part of a drain that comes before the teardown of the framework. -/
def drainUpTo (r : Runner τ ω κ) (k : Nat) : BenchM τ ω κ (List (Nat × Fault τ)) := do
  let duties ← takeDuties
  onSite (Site.log .info "cleanup.drain_started" [("pending", .count (duties.length : Int))])
  dischargeAll r (duties.takeWhile fun d => !d.2.tearsDown k)

/-- Duties are done in two parts, unless the first one stops the run. -/
theorem dischargeAll_append (duties later : List (Nat × Duty κ)) :
    dischargeAll r (duties ++ later) = dischargeAll r duties >>= fun failures =>
      (failures ++ ·) <$> dischargeAll r later := by
  induction duties with
  | nil => simp [dischargeAll]
  | cons d rest ih =>
    rw [List.cons_append, dischargeAll, dischargeAll, ih]
    rw [LawfulMonad.bind_assoc]
    apply bind_congr
    intro ending
    cases ending with
    | ok _ => rfl
    | error e =>
      dsimp only
      split
      · rfl
      · simp

omit [Seconds τ] [Host τ ω] in
theorem enterJournal_leavesAlone (e : Registry.Entry (Duty κ) (Except (Fault τ) Unit)) :
    (enterJournal e : BenchM τ ω κ Unit).Along (LeavesAlone k) :=
  along_modify fun b => ⟨refl_of (Site.Leaves fun _ => True) b.site, rfl⟩

omit [Seconds τ] [Host τ ω] in
theorem log_leavesAlone (level : Level) (name : String) (fields : List (String × Detail τ)) :
    (onSite (Site.log level name fields) : BenchM τ ω κ Unit).Along (LeavesAlone k) :=
  fun b => (record_adds _ b).mono fun _ _ h => h.2.leavesAlone

omit [Seconds τ] [Host τ ω] in
theorem log_keepsBlank (level : Level) (name : String) (fields : List (String × Detail τ)) :
    (onSite (Site.log level name fields) : BenchM τ ω κ Unit).Along (KeepsBlank k settings) :=
  (log_leavesAlone level name fields).mono fun _ _ h => h.keepsBlank

section

variable (hr : r.Respects k)

include hr

/-- Whatever duty is done, a framework that is blank stays so. -/
theorem discharge_keepsBlank (duty : Duty κ) :
    (discharge r duty).Along (KeepsBlank k settings) := by
  cases duty with
  | act a =>
    have hact : (act r none a).Along (LeavesAlone k) :=
      act_along (fun _ _ h => h.leavesAlone) (hr.others none (by rintro ⟨⟩)) a
    exact hact.mono fun _ _ h => h.keepsBlank
  | teardown j =>
    by_cases hj : j = k
    · subst hj
      intro b hsettings
      exact Blanks.keepsBlank (abortTeardown_blanks hr.own hsettings) hsettings
    · have hbj := hr.others (some j) (by simpa using hj)
      exact (abortTeardown_leavesAlone hj hbj).mono fun _ _ h => h.keepsBlank

theorem dischargeOne_keepsBlank (handle : Nat) (duty : Duty κ) :
    (dischargeOne r handle duty).Along (KeepsBlank k settings) :=
  dischargeOne_along (fun e => (enterJournal_leavesAlone e).mono fun _ _ h => h.keepsBlank)
    (discharge_keepsBlank hr duty)

theorem dischargeAll_keepsBlank (duties : List (Nat × Duty κ)) :
    (dischargeAll r duties).Along (KeepsBlank k settings) :=
  dischargeAll_along log_keepsBlank duties
    fun d _ => dischargeOne_keepsBlank hr d.1 d.2

theorem drain_keepsBlank : (drain r).Along (KeepsBlank k settings) := by
  intro b
  have htake : LeavesAlone k b ((takeDuties : BenchM τ ω κ (List (Nat × Duty κ))).run b).2 :=
    ⟨refl_of (Site.Leaves fun _ => True) b.site, rfl⟩
  exact drain_ends log_keepsBlank htake.keepsBlank fun d _ => dischargeOne_keepsBlank hr d.1 d.2

/-- Duties of which the first one is the teardown of the framework. -/
theorem dischargeAll_blanks (hsettings : b.settingsAt k = some settings) {d : Nat × Duty κ}
    (hd : d.2.tearsDown k = true) (rest : List (Nat × Duty κ)) :
    Ends (dischargeAll r (d :: rest)) b fun _ b' => Blanks k settings b b' := by
  obtain ⟨handle, duty⟩ := d
  cases duty with
  | act a => cases hd
  | teardown j =>
    obtain rfl : j = k := by simpa [Duty.tearsDown] using hd
    have hfirst : Ends (dischargeOne r handle (.teardown j)) b fun _ b' =>
        Blanks j settings b b' := by
      apply dischargeOne_ends
      apply (abortTeardown_blanks hr.own (b := b.noted (.begun handle (.teardown j)))
        hsettings).mono
      intro ending b' h
      exact h
    apply hfirst.bind
    · intro ending b₁ h₁
      have hrest : (dischargeAll r rest).Along (KeepsBlank j settings) :=
        dischargeAll_keepsBlank hr rest
      cases ending with
      | ok _ => exact (hrest b₁).mono fun _ _ => h₁.before
      | error e =>
        apply Ends.ite
        · exact fun _ => h₁
        · intro _
          apply Ends.mono (Along.bind (log_keepsBlank _ _ _) (fun _ => ?_) b₁)
          · exact fun _ _ => h₁.before
          · exact hrest.bind fun failures => along_pure ((handle, e) :: failures)
    · exact fun _ _ h => h

/-- Duties of which one is the teardown of the framework, where those before it do not stop the
run. -/
theorem dischargeAll_comes (hsettings : b.settingsAt k = some settings) {handle : Nat}
    {duties : List (Nat × Duty κ)} (hmem : (handle, .teardown k) ∈ duties)
    {failures : List (Nat × Fault τ)}
    (hbefore : ((dischargeAll r (duties.takeWhile fun d => !d.2.tearsDown k)).run b).1 =
      .ok failures) :
    Ends (dischargeAll r duties) b fun _ b' => Blanks k settings b b' := by
  have hfirst : Ends (dischargeAll r (duties.takeWhile fun d => !d.2.tearsDown k)) b
      fun ending b₁ => ending = .ok failures ∧ KeepsBlank k settings b b₁ :=
    ⟨hbefore, dischargeAll_keepsBlank hr _ b⟩
  rw [← List.takeWhile_append_dropWhile (p := fun d => !d.2.tearsDown k) (l := duties),
    dischargeAll_append]
  apply Ends.bind_ok hfirst
  intro b₁ h₁
  obtain ⟨hsettings₁, new, hnew, _⟩ := h₁ hsettings
  apply Ends.map
  have hhead := List.head?_dropWhile_not (fun d : Nat × Duty κ => !d.2.tearsDown k) duties
  cases hdrop : duties.dropWhile fun d => !d.2.tearsDown k with
  | nil =>
    have hnone := List.dropWhile_eq_nil_iff.1 hdrop _ hmem
    simp [Duty.tearsDown] at hnone
  | cons d rest =>
    rw [hdrop] at hhead
    have hd : d.2.tearsDown k = true := by simpa using hhead
    apply (dischargeAll_blanks hr hsettings₁ hd rest).mono
    intro _ b₂ h₂
    exact h₂.after ⟨new, hnew, fun _ _ => trivial⟩

/-- A drain that comes to the teardown of the framework leaves it blank, unless a teardown is cut
short. -/
theorem drain_blanks (hsettings : b.settingsAt k = some settings)
    (hlive : ∃ handle, (handle, .teardown k) ∈ b.registry.live)
    (hreaches : ∃ failures, ((drainUpTo r k).run b).1 = .ok failures) :
    Ends (drain r) b fun _ b' => Blanks k settings b b' := by
  obtain ⟨handle, hmem⟩ := hlive
  obtain ⟨failures, hreaches⟩ := hreaches
  rw [← List.mem_reverse] at hmem
  have hnonempty : b.registry.live.reverse.isEmpty = false := by
    rw [List.isEmpty_eq_false_iff_exists_mem]
    exact ⟨_, hmem⟩
  unfold drain
  apply Ends.bind_ok (P := fun b' => b' = { b with registry := b.registry.takeAll.2 }) ⟨rfl, rfl⟩
  rintro _ rfl
  dsimp only [Registry.takeAll]
  rw [hnonempty]
  -- The bench on which the duties are done.
  let opened : Bench τ ω κ := ((onSite (Site.log .info "cleanup.drain_started"
    [("pending", .count (b.registry.live.reverse.length : Int))]) : BenchM τ ω κ Unit).run
      { b with registry := b.registry.takeAll.2 }).2
  have hopened : LeavesAlone k { b with registry := b.registry.takeAll.2 } opened :=
    log_leavesAlone _ _ _ _
  have hsettings₁ : opened.settingsAt k = some settings := hopened.settingsAt_eq.trans hsettings
  apply Ends.bind_ok (P := fun b' => b' = opened) ⟨rfl, rfl⟩
  rintro _ rfl
  apply (dischargeAll_comes hr hsettings₁ hmem hreaches).bind
  · intro failures b₂ h₂
    apply Ends.mono (Along.bind (log_keepsBlank _ _ _) (fun _ => along_pure failures) b₂)
    exact fun _ _ h => (h₂.after hopened.history).before h
  · exact fun _ _ h => h.after hopened.history

end

end Framework

end Testbed
