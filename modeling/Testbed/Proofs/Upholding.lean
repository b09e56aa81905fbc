import Testbed.Proofs.Routine
import Testbed.Proofs.Rules

/-!
# What routines uphold

A routine adds to the history, keeps the framework, and leaves its settings. So it upholds a part of
the settings whenever the bodies that it runs do. What a teardown starts its deletions with is
known as far as that goes, whatever the actions and hooks before them have done.
-/

set_option autoImplicit false

namespace Testbed

open Proc Bench

variable {τ ω κ α β : Type}

/-- What the operations of the library leave at a site is no notice. -/
theorem Event.IsWork.isNotice {e : Event τ} (h : e.IsWork) : e.isNotice = false := by
  rcases h with h | ⟨length, rfl⟩
  · cases e with
    | log entry =>
      have hname : entry.name ∈ entryNames := h
      simp only [entryNames, List.mem_cons, List.not_mem_nil, or_false] at hname
      rcases hname with h | h | h | h | h | h | h | h | h <;>
        simp [Event.isNotice, noticeNames, h]
    | span ended => exact h.elim
    | _ => rfl
  · rfl

namespace Bench

/-- The history went on with such events, and the framework with number `k` is still there, if it
was, with the same part of its settings. -/
def Upholds (P : Event τ → Prop) (part : Settings τ κ → β) (k : Nat) (b b' : Bench τ ω κ) : Prop :=
  Site.Leaves P b.site b'.site ∧ (b'.settingsAt k).map part = (b.settingsAt k).map part

variable {P : Event τ → Prop} {part : Settings τ κ → β} {k : Nat}

instance : IsPreorder (Bench τ ω κ) (Upholds P part k) where
  refl b := ⟨refl_of (Site.Leaves P) b.site, rfl⟩
  trans := by
    intro a b c h h'
    exact ⟨trans_of (Site.Leaves P) h.1 h'.1, h'.2.trans h.2⟩

/-- A framework that was there is there, with the part that is upheld. -/
theorem Upholds.found {b b' : Bench τ ω κ} (h : Upholds P part k b b') {f : Framework τ κ}
    (hf : b.frameworks[k]? = some f) :
    ∃ f', b'.frameworks[k]? = some f' ∧ part f'.toSettings = part f.toSettings := by
  have hpart := h.2
  simp only [settingsAt, hf, Option.map_some, Option.map_map] at hpart
  obtain ⟨f', hf', hsame⟩ := Option.map_eq_some_iff.1 hpart
  exact ⟨f', hf', hsame⟩

theorem onSite_upholds {x : SiteM τ ω α} (h : x.Along (Site.Leaves P)) :
    (onSite x : BenchM τ ω κ α).Along (Upholds P part k) :=
  h.focus fun _ _ hs => ⟨hs, rfl⟩

theorem record_upholds {e : Event τ} (h : P e) :
    (onSite (Site.record e) : BenchM τ ω κ Unit).Along (Upholds P part k) :=
  onSite_upholds fun s => ⟨[e], Site.events_record e s, by simpa using h⟩

theorem update_upholds {g : Framework τ κ → Framework τ κ}
    (hg : ∀ f, (g f).toSettings = f.toSettings) :
    (update k g : BenchM τ ω κ Unit).Along (Upholds P part k) := by
  intro b
  apply (update_ends k g b).mono
  rintro _ b' ⟨_, hcontinues, hframeworks⟩
  refine ⟨Site.leaves_of_eq (by simpa using hcontinues.2), ?_⟩
  rw [settingsAt_modify hframeworks hg]

variable (hlog : ∀ entry : LogEntry τ, entry.name ∉ noticeNames → P (.log entry))

include hlog

theorem register_upholds (d : Duty κ) :
    (register d : BenchM τ ω κ Nat).Along (Upholds P part k) := by
  apply Along.bind along_get
  intro b
  have hset : (Proc.modify fun b' => { b' with registry := (b.registry.add d).2 }
      : BenchM τ ω κ Unit).Along (Upholds P part k) :=
    along_modify fun b' => ⟨refl_of (Site.Leaves P) b'.site, rfl⟩
  apply hset.bind
  intro _
  apply Along.bind (record_upholds (hlog _ (by simp [noticeNames])))
  intro _
  exact along_pure _

theorem unregister_upholds (handle : Option Nat) :
    (unregister handle : BenchM τ ω κ Unit).Along (Upholds P part k) := by
  apply Along.bind along_get
  intro b
  split
  · apply Along.bind (along_modify fun b' => ⟨refl_of (Site.Leaves P) b'.site, rfl⟩)
    intro _
    exact record_upholds (hlog _ (by simp [noticeNames]))
  · exact along_pure ()

end Bench

namespace Framework

variable {P : Event τ → Prop} {part : Settings τ κ → β} {k : Nat}

section

variable (hlog : ∀ entry : LogEntry τ, entry.name ∉ noticeNames → P (.log entry))

include hlog

theorem enroll_upholds : (enroll k : BenchM τ ω κ Unit).Along (Upholds P part k) := by
  apply Along.bind (register_upholds hlog _)
  intro handle
  exact update_upholds fun _ => rfl

theorem withdraw_upholds : (withdraw k : BenchM τ ω κ Unit).Along (Upholds P part k) := by
  apply Along.bind (frameworkAt_along k)
  intro f
  apply Along.bind (unregister_upholds hlog _)
  intro _
  exact update_upholds fun _ => rfl

end

variable (hP : ∀ e : Event τ, e.isNotice = false → P e)

include hP

theorem log_of_quiet (entry : LogEntry τ) (h : entry.name ∉ noticeNames) : P (.log entry) :=
  hP _ (by simpa [Event.isNotice] using h)

variable [Host τ ω] {r : Runner τ ω κ} (hb : ∀ body, (r.perform (some k) body).Along (Upholds P part k))

include hb

theorem walk_upholds (cycle steps i : Nat) : (walk r k cycle steps i).Along (Upholds P part k) := by
  induction steps generalizing i with
  | zero => exact along_fail _
  | succ steps ih =>
    apply Along.bind (frameworkAt_along k)
    intro f
    split
    · exact along_pure ()
    · rename_i action _
      have hstart : (onSite (Site.mark (.action action.name)) : BenchM τ ω κ Unit).Along
          (Upholds P part k) :=
        onSite_upholds fun s => ⟨[_], Site.events_record _ s, by simpa using hP _ rfl⟩
      have hact : (act r (some k) action).Along (Upholds P part k) :=
        hstart.bind fun _ => hb action.body
      apply hact.bind
      intro _
      exact ih (i + 1)

/-- A routine upholds what the bodies that it runs uphold. -/
theorem Routine.upholds {allowed : Event τ → Prop} (hallowed : ∀ e, allowed e → P e)
    {x : BenchM τ ω κ α} (h : Routine allowed r k x) : x.Along (Upholds P part k) := by
  induction h with
  | pure a => exact along_pure a
  | fail e => exact along_fail e
  | bind _ _ hx hf => exact hx.bind hf
  | attempt _ hx => exact hx.attempt
  | rescue _ _ hx hh => exact hx.rescue hh
  | work hwork =>
    apply onSite_upholds
    apply (hwork.along Site.Work.leaves).mono
    rintro s t ⟨new, hnew, hleft⟩
    exact ⟨new, hnew, fun e he => hP e (hleft e he).isNotice⟩
  | randomBits => exact onSite_upholds fun s => Site.leaves_of_eq rfl
  | mark m => exact onSite_upholds fun s => ⟨[_], Site.events_record _ s, by simpa using hP _ rfl⟩
  | record he => exact record_upholds (hallowed _ he)
  | read _ _ hrest => exact (frameworkAt_along k).bind hrest
  | update hg => exact update_upholds hg.settings
  | body body => exact hb body
  | walk =>
    apply (frameworkAt_along k).bind
    intro f
    exact walk_upholds hP hb f.cycle r.patience 0
  | enroll => exact enroll_upholds (log_of_quiet hP)
  | withdraw => exact withdraw_upholds (log_of_quiet hP)

end Framework

namespace Framework

/-- The span around a setup. -/
def setupSpan (baseName : String) : Span := { operation := "before_each", baseName := some baseName }

/-- The span around a teardown. -/
def teardownSpan (baseName : String) (testFailed : Bool) : Span :=
  { operation := "after_each", baseName := some baseName,
    extra := [("e2e.test_failed", .flag testFailed)] }

variable [Host τ ω] (r : Runner τ ω κ) (k : Nat) (testFailed : Bool) (b : Bench τ ω κ)

/-- How the winding up of a teardown ends, and the bench at which the teardown then comes to the
namespaces. -/
def woundUp : Except (Fault τ) Unit × Bench τ ω κ :=
  (windUp r k testFailed).run ((withdraw k).run b).2

variable {r k testFailed b}

/-- Up to the deletions a teardown upholds what the bodies uphold that it runs. -/
theorem woundUp_upholds {P : Event τ → Prop} {part : Settings τ κ → β}
    (hP : ∀ e : Event τ, e.isNotice = false → P e)
    (hb : ∀ body, (r.perform (some k) body).Along (Upholds P part k)) :
    Upholds P part k b (woundUp r k testFailed b).2 := by
  have hwithdraw : Upholds P part k b ((withdraw k).run b).2 := withdraw_upholds (log_of_quiet hP) b
  have hwindUp : (windUp r k testFailed).Along (Upholds P part k) :=
    (routine_windUp (fun _ h => h) testFailed).upholds hP hb hP
  exact trans_of (Upholds P part k) hwithdraw (hwindUp _)

omit [Host τ ω] in
theorem withdraw_ends {f : Framework τ κ} (hf : b.frameworks[k]? = some f) :
    Ends (withdraw k : BenchM τ ω κ Unit) b fun ending b' => ending = .ok () ∧
      b'.frameworks[k]? = some { f with handle := none } := by
  apply Ends.bind_ok (frameworkAt_ends hf)
  rintro b rfl
  apply Ends.bind_ok (unregister_ends f.handle b)
  intro b₁ h₁
  apply (update_ends k _ b₁).mono
  rintro _ b₂ ⟨rfl, _, hframeworks⟩
  refine ⟨rfl, ?_⟩
  obtain ⟨_, hadds, _⟩ := h₁.adds
  rw [hframeworks, hadds.frameworks, List.getElem?_modify_eq, hf]
  rfl

/-- A teardown comes out as what it does with the namespaces once it has wound up, and then its span
is recorded. -/
theorem afterEach_records [Seconds τ] {f : Framework τ κ} (hf : b.frameworks[k]? = some f)
    {Q : Except (Fault τ) (Report τ) → Bench τ ω κ → Prop}
    (h : Ends (clearAway k testFailed (woundUp r k testFailed b).1) (woundUp r k testFailed b).2
      fun ending b₁ => Q ending { b₁ with site := b₁.site.recorded [.span
        ((teardownSpan f.baseName testFailed).close (teardownSpan f.baseName testFailed).attributes
          ending)] }) :
    Ends (afterEach r k testFailed) b Q := by
  have hwithdraw : Ends (withdraw k : BenchM τ ω κ Unit) b fun ending b₁ => ending = .ok () ∧
      b₁ = ((withdraw k : BenchM τ ω κ Unit).run b).2 ∧
      b₁.frameworks[k]? = some { f with handle := none } := by
    obtain ⟨hok, hpresent⟩ := withdraw_ends hf
    exact ⟨hok, rfl, hpresent⟩
  apply Ends.bind_ok hwithdraw
  rintro b₁ ⟨hb₁, hf₁⟩
  apply Ends.bind_ok (frameworkAt_ends hf₁)
  rintro b₁ rfl
  apply enclose_records
  have hwound : Ends (windUp r k testFailed) b₁ fun before b₂ =>
      (before, b₂) = woundUp r k testFailed b := by
    rw [woundUp, ← hb₁]
    rfl
  apply Ends.bind_attempt hwound
  intro before b₂ hbefore
  rw [← hbefore] at h
  exact h

/-- A teardown comes out as what it does with the namespaces once it has wound up, and its span tells
how. -/
theorem afterEach_closes [Seconds τ] {f : Framework τ κ} (hf : b.frameworks[k]? = some f)
    {Q : Except (Fault τ) (Report τ) → Bench τ ω κ → Prop}
    (h : Ends (clearAway k testFailed (woundUp r k testFailed b).1) (woundUp r k testFailed b).2
      fun ending b₁ => ∀ b₂, Adds [.span ((teardownSpan f.baseName testFailed).close
        (teardownSpan f.baseName testFailed).attributes ending)] b₁ b₂ → Q ending b₂) :
    Ends (afterEach r k testFailed) b Q :=
  afterEach_records hf (h.mono fun _ _ hq => hq _ (SiteOnly.adds rfl rfl))

end Framework

end Testbed
