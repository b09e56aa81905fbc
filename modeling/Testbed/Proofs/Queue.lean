import Testbed.Proofs.Deferral

/-!
# The queue of deferred actions

A teardown runs the actions of its queue from first to last, also those that are added meanwhile, and
stops behind the first one that raises a fault. While it runs them the queue may become longer, but no
action leaves it, not even if a teardown of the same framework runs inside this one: that puts the
queue away, and the outer teardown goes on through it.
-/

set_option autoImplicit false

namespace Testbed

open Proc Bench

variable {τ ω κ α : Type}

namespace Framework

/-- Of two frameworks with the same queues put away, the queues are compared by the actions that the
last one holds. -/
theorem queue_prefix {f g : Framework τ κ} (hpast : g.pastActions = f.pastActions)
    (hactions : f.actions <+: g.actions) (cycle : Nat) : f.queue cycle <+: g.queue cycle := by
  unfold queue
  rw [hpast, List.getD_eq_getElem?_getD, List.getD_eq_getElem?_getD]
  rcases lt_trichotomy cycle f.pastActions.reverse.length with h | rfl | h
  · rw [List.getElem?_append_left h, List.getElem?_append_left h]
  · simpa using hactions
  · rw [List.getElem?_eq_none (by simp at h ⊢; omega)]
    exact List.nil_prefix

/-- A reset puts the last queue away and leaves every queue as it is. -/
theorem queue_prefix_reset (f : Framework τ κ) (cycle : Nat) :
    f.queue cycle <+: f.reset.queue cycle := by
  have hreset : f.reset.queue cycle =
      (f.pastActions.reverse ++ [f.actions] ++ [[]]).getD cycle [] := by
    simp [queue, reset]
  rw [hreset, queue, List.getD_eq_getElem?_getD, List.getD_eq_getElem?_getD]
  rcases lt_or_ge cycle (f.pastActions.reverse ++ [f.actions]).length with h | h
  · rw [List.getElem?_append_left h]
  · rw [List.getElem?_eq_none h]
    exact List.nil_prefix

end Framework

namespace Bench

/-- The second bench is a later one of the same run: the history went on, the frameworks are still
there, and no queue has lost an action. -/
structure Onward (b b' : Bench τ ω κ) : Prop where
  history : ∃ new, b'.site.events = b.site.events ++ new
  queues : ∀ (k : Nat) f, b.frameworks[k]? = some f → ∃ f', b'.frameworks[k]? = some f' ∧
    ∀ cycle, f.queue cycle <+: f'.queue cycle

instance : IsPreorder (Bench τ ω κ) Onward where
  refl b := ⟨⟨[], (List.append_nil _).symm⟩, fun _ f hf => ⟨f, hf, fun _ => List.prefix_rfl⟩⟩
  trans := by
    rintro a b c ⟨⟨new, hnew⟩, hqueues⟩ ⟨⟨later, hlater⟩, hqueues'⟩
    refine ⟨⟨new ++ later, by rw [hlater, hnew, List.append_assoc]⟩, ?_⟩
    intro k f hf
    obtain ⟨f', hf', hstart⟩ := hqueues k f hf
    obtain ⟨f'', hf'', hstart'⟩ := hqueues' k f' hf'
    exact ⟨f'', hf'', fun cycle => (hstart cycle).trans (hstart' cycle)⟩

theorem Defers.onward {b b' : Bench τ ω κ} (h : Defers b b') : Onward b b' := by
  obtain ⟨new, hnew, _⟩ := h.quiet
  refine ⟨⟨new, hnew⟩, ?_⟩
  intro k f hf
  obtain ⟨f', hf', hpast, hactions⟩ := h.queues k f hf
  exact ⟨f', hf', Framework.queue_prefix hpast hactions⟩

theorem Adds.onward {new : List (Event τ)} {b b' : Bench τ ω κ} (h : Adds new b b') : Onward b b' := by
  refine ⟨⟨new, h.2⟩, ?_⟩
  intro k f hf
  exact ⟨f, by rw [h.frameworks, hf], fun _ => List.prefix_rfl⟩

theorem mark_onward [Host τ ω] (m : Mark) :
    (onSite (Site.mark m) : BenchM τ ω κ Unit).Along Onward := by
  intro b
  exact (mark_adds m b).mono fun _ _ ⟨_, _, h⟩ => h.onward

/-- Of a framework of an earlier bench, the queues are known as far as they were filled. -/
theorem Onward.queue {b b' : Bench τ ω κ} (h : Onward b b') {k : Nat} {f g : Framework τ κ}
    (hf : b.frameworks[k]? = some f) (hg : b'.frameworks[k]? = some g) (cycle : Nat) :
    f.queue cycle <+: g.queue cycle := by
  obtain ⟨f', hf', hstart⟩ := h.queues k f hf
  obtain rfl := Option.some_inj.1 (hf'.symm.trans hg)
  exact hstart cycle

end Bench

namespace Framework

variable [Host τ ω] {r : Runner τ ω κ} {k cycle : Nat}

section Acts

/-- A deferred action that a teardown has run: when it started, what its body left, and how it
ended. -/
structure Acted (τ κ : Type) where
  action : Action κ
  time : τ
  during : List (Event τ)
  ending : Except (Fault τ) Unit

/-- The events of an action, which is marked when it starts. -/
def Acted.events (a : Acted τ κ) : List (Event τ) :=
  .mark a.time (.action a.action.name) :: a.during

/-- The action leads from the first bench to the second. -/
def Acted.Runs (r : Runner τ ω κ) (k : Nat) (a : Acted τ κ) (b b' : Bench τ ω κ) : Prop :=
  (act r (some k) a.action).run b = (a.ending, b') ∧ b'.site.events = b.site.events ++ a.events

/-- The actions of a queue, from a place on, lead from the first bench to the second. They are run one
after the other, each as it stands in the queue when its turn comes, until there is none left or one
raises a fault. -/
inductive Acts (r : Runner τ ω κ) (k cycle : Nat) :
    Nat → List (Acted τ κ) → Except (Fault τ) Unit → Bench τ ω κ → Bench τ ω κ → Prop
  | finished {i : Nat} {b : Bench τ ω κ} {f : Framework τ κ} (hf : b.frameworks[k]? = some f)
      (done : (f.queue cycle)[i]? = none) : Acts r k cycle i [] (.ok ()) b b
  | next {i : Nat} {a : Acted τ κ} {acted : List (Acted τ κ)} {ending : Except (Fault τ) Unit}
      {b b₁ b₂ : Bench τ ω κ} {f : Framework τ κ} (hf : b.frameworks[k]? = some f)
      (due : (f.queue cycle)[i]? = some a.action) (ran : a.Runs r k b b₁)
      (well : a.ending = .ok ()) (rest : Acts r k cycle (i + 1) acted ending b₁ b₂) :
      Acts r k cycle i (a :: acted) ending b b₂
  | raised {i : Nat} {a : Acted τ κ} {e : Fault τ} {b b₁ : Bench τ ω κ} {f : Framework τ κ}
      (hf : b.frameworks[k]? = some f) (due : (f.queue cycle)[i]? = some a.action)
      (ran : a.Runs r k b b₁) (bad : a.ending = .error e) : Acts r k cycle i [a] (.error e) b b₁

namespace Acts

variable {i : Nat} {acted : List (Acted τ κ)} {ending : Except (Fault τ) Unit} {b b' : Bench τ ω κ}

theorem events (h : Acts r k cycle i acted ending b b') :
    b'.site.events = b.site.events ++ acted.flatMap Acted.events := by
  induction h with
  | finished => simp
  | next _ _ ran _ _ ih => rw [ih, ran.2, List.flatMap_cons, List.append_assoc]
  | raised _ _ ran _ => simp [ran.2]

/-- If none is left, all have ended well. -/
theorem well (h : Acts r k cycle i acted ending b b') (hok : ending = .ok ()) :
    ∀ a ∈ acted, a.ending = .ok () := by
  induction h with
  | finished => simp
  | next _ _ _ well _ ih => exact List.forall_mem_cons.2 ⟨well, ih hok⟩
  | raised => cases hok

/-- A fault that ends the walk was raised by the last action, and by none before it. -/
theorem last_raised (h : Acts r k cycle i acted ending b b') {e : Fault τ} (he : ending = .error e) :
    ∃ before a, acted = before ++ [a] ∧ a.ending = .error e ∧ ∀ a ∈ before, a.ending = .ok () := by
  induction h with
  | finished => cases he
  | @next _ a _ _ _ _ _ _ _ _ _ well _ ih =>
    obtain ⟨before, last, rfl, hlast, hbefore⟩ := ih he
    exact ⟨a :: before, last, rfl, hlast, List.forall_mem_cons.2 ⟨well, hbefore⟩⟩
  | @raised _ a _ _ _ _ _ _ _ bad =>
    cases he
    exact ⟨[], a, rfl, bad, by simp⟩

end Acts

variable (hb : ∀ body, (r.perform (some k) body).Along Onward)

include hb

theorem act_onward (a : Action κ) : (act r (some k) a).Along Onward :=
  (mark_onward _).bind fun _ => hb a.body

namespace Acts

variable {i : Nat} {acted : List (Acted τ κ)} {ending : Except (Fault τ) Unit} {b b' : Bench τ ω κ}

theorem onward (h : Acts r k cycle i acted ending b b') : Onward b b' := by
  induction h with
  | finished => exact refl_of Onward _
  | next _ _ ran _ _ ih => exact trans_of Onward ((act_onward hb _).of_run ran.1) ih
  | raised _ _ ran _ => exact (act_onward hb _).of_run ran.1

omit [Host τ ω] hb in
/-- What was due at a bench stands at its place later on. -/
theorem stands {i : Nat} {a : Action κ} {f g : Framework τ κ} (h : Onward b b')
    (hf : b.frameworks[k]? = some f) (hg : b'.frameworks[k]? = some g)
    (due : (f.queue cycle)[i]? = some a) :
    (g.queue cycle).drop i = a :: (g.queue cycle).drop (i + 1) := by
  obtain ⟨later, hlater⟩ := h.queue hf hg cycle
  have hi : (g.queue cycle)[i]? = some a := by
    rw [← hlater, List.getElem?_append_left (List.getElem?_eq_some_iff.1 due).1, due]
  rw [List.drop_eq_getElem?_toList_append, hi]
  rfl

/-- What has run is what stands in the queue in the end, from the place on, in the same order. -/
theorem prefix_queue (h : Acts r k cycle i acted ending b b') {g : Framework τ κ}
    (hg : b'.frameworks[k]? = some g) :
    acted.map Acted.action <+: (g.queue cycle).drop i := by
  induction h with
  | finished => exact List.nil_prefix
  | next hf due ran _ rest ih =>
    have hall := trans_of Onward ((act_onward hb _).of_run ran.1) (rest.onward hb)
    rw [stands hall hf hg due]
    exact (List.prefix_cons_inj _).2 (ih hg)
  | raised hf due ran _ =>
    rw [stands ((act_onward hb _).of_run ran.1) hf hg due]
    exact (List.prefix_cons_inj _).2 List.nil_prefix

/-- If no action has raised a fault, all that stand in the queue in the end have run. -/
theorem exhausts (h : Acts r k cycle i acted ending b b') (hok : ending = .ok ()) :
    ∃ g, b'.frameworks[k]? = some g ∧ acted.map Acted.action = (g.queue cycle).drop i := by
  induction h with
  | finished hf done =>
    refine ⟨_, hf, ?_⟩
    rw [List.drop_eq_getElem?_toList_append, done, List.drop_eq_nil_of_le]
    · rfl
    · have hlength := List.getElem?_eq_none_iff.1 done
      omega
  | next hf due ran _ rest ih =>
    obtain ⟨g, hg, hqueue⟩ := ih hok
    have hall := trans_of Onward ((act_onward hb _).of_run ran.1) (rest.onward hb)
    exact ⟨g, hg, by rw [stands hall hf hg due, List.map_cons, hqueue]⟩
  | raised => cases hok

end Acts

theorem act_runs (a : Action κ) (b : Bench τ ω κ) :
    Ends (act r (some k) a) b fun ending b' => Onward b b' ∧
      ∃ one : Acted τ κ, one.action = a ∧ one.ending = ending ∧ one.Runs r k b b' := by
  have hevents : Ends (act r (some k) a) b fun _ b' => ∃ time during,
      b'.site.events = b.site.events ++ .mark time (.action a.name) :: during := by
    apply Ends.bind_ok (mark_adds _ b)
    rintro b₁ ⟨time, h₁⟩
    apply (hb a.body b₁).mono
    rintro _ b₂ ⟨⟨during, hduring⟩, _⟩
    exact ⟨time, during, by simp [hduring, h₁.2]⟩
  apply (((act_onward hb a b).and hevents).and (ends_run _ b)).mono
  rintro ending b' ⟨⟨h, time, during, hduring⟩, hrun⟩
  exact ⟨h, ⟨a, time, during, ending⟩, rfl, rfl, hrun, hduring⟩

/-- A walk runs the actions of the queue, if it is ready for as many as the queue holds in the end. -/
theorem walk_acts (steps i : Nat) {f : Framework τ κ} {b : Bench τ ω κ}
    (hf : b.frameworks[k]? = some f) (hi : i ≤ (f.queue cycle).length) :
    Ends (walk r k cycle steps i) b fun ending b' => Onward b b' ∧
      ∀ g, b'.frameworks[k]? = some g → (g.queue cycle).length < i + steps →
        ∃ acted, Acts r k cycle i acted ending b b' := by
  induction steps generalizing i f b with
  | zero =>
    refine ⟨refl_of Onward b, ?_⟩
    intro g hg hfew
    obtain rfl := Option.some_inj.1 (hf.symm.trans hg)
    omega
  | succ steps ih =>
    unfold walk
    apply Ends.bind_ok (frameworkAt_ends hf)
    rintro b rfl
    cases due : (f.queue cycle)[i]? with
    | none => exact ⟨refl_of Onward b, fun _ _ _ => ⟨[], .finished hf due⟩⟩
    | some a =>
      apply Ends.bind (act_runs hb a b)
      · rintro _ b₁ ⟨h₁, one, rfl, hone, ran⟩
        obtain ⟨f₁, hf₁, hstart⟩ := h₁.queues k f hf
        have hi₁ : i + 1 ≤ (f₁.queue cycle).length := by
          have hlength := (hstart cycle).length_le
          have hplace := (List.getElem?_eq_some_iff.1 due).1
          omega
        apply (ih (i + 1) hf₁ hi₁).mono
        rintro ending b₂ ⟨h₂, hrest⟩
        refine ⟨trans_of Onward h₁ h₂, ?_⟩
        intro g hg hfew
        obtain ⟨acted, hacted⟩ := hrest g hg (by omega)
        exact ⟨one :: acted, .next hf due ran hone hacted⟩
      · rintro e b₁ ⟨h₁, one, rfl, hone, ran⟩
        exact ⟨h₁, fun _ _ _ => ⟨[one], .raised hf due ran hone⟩⟩

end Acts

section TestCode

variable [Seconds τ]

theorem useRules_onward (injected : String → Prop) :
    UseRules injected (Onward : Bench τ ω κ → Bench τ ω κ → Prop) :=
  (useRules_defers injected).mono fun _ _ => Defers.onward

theorem resetAt_onward : (resetAt k : BenchM τ ω κ Unit).Along Onward := by
  have hclose (f : Framework τ κ) : (closeClient f : BenchM τ ω κ Unit).Along Onward :=
    ((madeOf_closeClient f).along siteStep_defers).mono fun _ _ => Defers.onward
  apply Along.bind (frameworkAt_along k)
  intro f
  apply Along.bind (hclose f)
  intro _ b
  refine ⟨⟨[], (List.append_nil _).symm⟩, ?_⟩
  intro j g hg
  refine ⟨if k = j then g.reset else g, ?_, ?_⟩
  · show (b.frameworks.modify k Framework.reset)[j]? = _
    rw [List.getElem?_modify, hg]
    rfl
  · intro cycle
    split
    · exact queue_prefix_reset g cycle
    · exact List.prefix_rfl

theorem clearAway_onward (testFailed : Bool) (before : Except (Fault τ) Unit) :
    (clearAway k testFailed before : BenchM τ ω κ (Report τ)).Along Onward := by
  apply (madeOf_clearAway (fun _ _ => trivial) testFailed fun _ _ => trivial).along
  intro _ _ hstep
  cases hstep with
  | delete hdelete => exact (deletion_defers hdelete).mono fun _ _ => Defers.onward
  | reset => exact resetAt_onward

variable (hb : ∀ owner body, (r.perform owner body).Along Onward)

include hb

theorem afterEach_onward (testFailed : Bool) : (afterEach r k testFailed).Along Onward := by
  have hrules : UseRules (fun _ => True) (Onward : Bench τ ω κ → Bench τ ω κ → Prop) :=
    useRules_onward _
  apply (madeOf_afterEach (fun _ _ => trivial) testFailed).along
  intro _ _ hstep
  cases hstep with
  | wind hwind =>
    cases hwind with
    | part hpart => exact hrules.part hb hpart
    | start name => exact mark_onward _
  | withdraw => exact hrules.withdraw
  | clear _ => exact clearAway_onward testFailed _

theorem drain_onward : (drain r).Along Onward := by
  have hrules : UseRules (fun _ => True) (Onward : Bench τ ω κ → Bench τ ω κ → Prop) :=
    useRules_onward _
  have hregistry (b : Bench τ ω κ) (registry : Registry (Duty κ) (Except (Fault τ) Unit)) :
      Onward b { b with registry } :=
    ⟨⟨[], (List.append_nil _).symm⟩, fun _ f hf => ⟨f, hf, fun _ => List.prefix_rfl⟩⟩
  have hdischarge (d : Duty κ) : (discharge r d).Along Onward := by
    cases d with
    | teardown k => exact abortTeardown_along hrules.log (afterEach_onward hb true)
    | act a => exact (mark_onward _).bind fun _ => hb none a.body
  intro b
  apply drain_ends hrules.log
  · exact hregistry b _
  · intro d _
    exact dischargeOne_along (fun _ => along_modify fun b => hregistry b _) (hdischarge d.2)

end TestCode

end Framework

/-- Whatever code of tests does, also if it tears down or drains, no queue loses an action. -/
theorem IsTestCode.onward [Seconds τ] [Host τ ω] {injected : String → Prop} {nests tears : Prop}
    {x : BenchM τ ω κ α} (hx : IsTestCode injected nests tears x) : x.Along Onward :=
  hx.along (Framework.useRules_onward injected) fun _ _ _ hb =>
    ⟨fun _ => Framework.afterEach_onward hb, Framework.drain_onward hb⟩

end Testbed
