import Mathlib.Data.List.Infix
import Testbed.Proofs.Clients
import Testbed.Proofs.Conservation
import Testbed.Proofs.Enrolment

/-!
# Deferred actions

A teardown starts the actions of its queue in order and then puts the queue away. So what was
started over a whole run are actions that were put away, each once, as long as no hook and no action
tears down or drains: a teardown that runs inside another one walks the queue of the outer one
again. Registered actions are started by drains, and the journal of the registry tells of them.
-/

set_option autoImplicit false

namespace Testbed

open Proc Bench Framework

variable {τ ω κ α : Type}

/-- The name of the action that starts with an event, if one does. -/
def Event.started? : Event τ → Option String
  | .mark _ (.action name) => some name
  | _ => none

/-- The names of the actions that were started, in order. -/
def startedIn (events : List (Event τ)) : List String := events.filterMap Event.started?

@[simp] theorem startedIn_append (events later : List (Event τ)) :
    startedIn (events ++ later) = startedIn events ++ startedIn later := by
  simp [startedIn]

theorem startedIn_of_unmarked {events : List (Event τ)} (h : ∀ e ∈ events, e.isMark = false) :
    startedIn events = [] := by
  apply List.filterMap_eq_nil_iff.2
  intro e he
  have hmark := h e he
  cases e with
  | mark => cases hmark
  | _ => rfl

/-- The names of the actions in the queues that a framework has put away. -/
def Framework.putAway (f : Framework τ κ) : List String := f.pastActions.flatten.map (·.name)

/-- The names of all actions that were ever deferred by a framework. -/
def Framework.deferred (f : Framework τ κ) : List String :=
  (f.actions :: f.pastActions).flatten.map (·.name)

/-- The name of the registered action that a drain begins with an entry, if it does. -/
def Registry.Entry.begun? {ε : Type} : Registry.Entry (Duty κ) ε → Option String
  | .begun _ (.act a) => some a.name
  | _ => none

/-- The names of the registered actions that drains have begun. -/
def Registry.begunActions {ε : Type} (r : Registry (Duty κ) ε) : List String :=
  r.journal.filterMap Registry.Entry.begun?

namespace Site

/-- The history of the second site is that of the first, continued without marks. -/
def Unmarked (s t : Site τ ω) : Prop :=
  ∃ new, t.events = s.events ++ new ∧ ∀ e ∈ new, e.isMark = false

instance : IsPreorder (Site τ ω) Unmarked where
  refl s := ⟨[], by simp, by simp⟩
  trans := by
    rintro s t u ⟨new, hnew, hmarks⟩ ⟨later, hlater, hmarks'⟩
    refine ⟨new ++ later, by rw [hlater, hnew, List.append_assoc], ?_⟩
    intro e he
    exact (List.mem_append.1 he).elim (hmarks e) (hmarks' e)

/-- The steps of procedures at a site leave no marks. -/
theorem Step.unmarked [Host τ ω] {calls : Call τ → Prop} {x : SiteM τ ω α}
    (h : Step calls α x) : x.Along Unmarked := by
  have silent {s t : Site τ ω} (h : t.events = s.events) : Unmarked s t :=
    ⟨[], by rw [h, List.append_nil], fun _ he => nomatch he⟩
  have single {s t : Site τ ω} {e : Event τ} (he : e.isMark = false)
      (h : t.events = s.events ++ [e]) : Unmarked s t :=
    ⟨[e], h, by simpa using he⟩
  intro s
  cases h with
  | record _ hmark => exact single hmark (events_record _ s)
  | now => exact silent rfl
  | elapse length => exact silent rfl
  | freshId => exact silent rfl
  | randomBits => exact silent rfl
  | @call c _ => exact single rfl (events_call c s)

end Site

namespace Bench

/-- The names of the actions that were put away, and of the registered ones that were begun. -/
def filed (b : Bench τ ω κ) : Multiset String :=
  tally Framework.putAway b.frameworks + b.registry.begunActions

/-- The second bench is a later one of the same run, and no action is started in between. -/
def StartsNone (b b' : Bench τ ω κ) : Prop :=
  ∃ new, b'.site.events = b.site.events ++ new ∧ startedIn new = []

instance : IsPreorder (Bench τ ω κ) StartsNone where
  refl b := ⟨[], (List.append_nil _).symm, rfl⟩
  trans := by
    rintro a b c ⟨new, hnew, hnone⟩ ⟨later, hlater, hnone'⟩
    refine ⟨new ++ later, by rw [hlater, hnew, List.append_assoc], ?_⟩
    rw [startedIn_append, hnone, hnone']
    rfl

/-- No queue is put away, and none loses an action. -/
structure KeepsQueues (b b' : Bench τ ω κ) : Prop where
  queues : ∀ (k : Nat) f, b.frameworks[k]? = some f → ∃ f', b'.frameworks[k]? = some f' ∧
    f'.pastActions = f.pastActions ∧ f.actions <+: f'.actions
  filed : b'.filed = b.filed

theorem KeepsQueues.trans {a b c : Bench τ ω κ} (h : KeepsQueues a b) (h' : KeepsQueues b c) :
    KeepsQueues a c := by
  refine ⟨?_, by rw [h'.filed, h.filed]⟩
  intro k f hf
  obtain ⟨f', hf', hpast, hactions⟩ := h.queues k f hf
  obtain ⟨f'', hf'', hpast', hactions'⟩ := h'.queues k f' hf'
  exact ⟨f'', hf'', by rw [hpast', hpast], hactions.trans hactions'⟩

/-- No action is started, and no queue is put away; queues may become longer. -/
structure Defers (b b' : Bench τ ω κ) : Prop extends KeepsQueues b b' where
  quiet : StartsNone b b'

instance : IsPreorder (Bench τ ω κ) Defers where
  refl b :=
    { queues := fun _ f hf => ⟨f, hf, rfl, List.prefix_rfl⟩
      filed := rfl
      quiet := refl_of StartsNone b }
  trans _ _ _ h h' :=
    { toKeepsQueues := h.toKeepsQueues.trans h'.toKeepsQueues
      quiet := trans_of StartsNone h.quiet h'.quiet }

/-- Nothing has changed but the site, the handles given out, and what the registry holds. -/
theorem defers_of_events {new : List (Event τ)} {b b' : Bench τ ω κ}
    (hevents : b'.site.events = b.site.events ++ new) (hnone : startedIn new = [])
    (hframeworks : b'.frameworks = b.frameworks)
    (hbegun : b'.registry.begunActions = b.registry.begunActions) : Defers b b' where
  quiet := ⟨new, hevents, hnone⟩
  queues := by
    intro k f hf
    rw [hframeworks]
    exact ⟨f, hf, rfl, List.prefix_rfl⟩
  filed := by
    unfold Bench.filed
    rw [hframeworks, hbegun]

theorem Adds.defers {new : List (Event τ)} {b b' : Bench τ ω κ} (h : Adds new b b')
    (hnone : startedIn new = []) : Defers b b' :=
  defers_of_events h.2 hnone h.frameworks (by rw [h.registry])

theorem onSite_defers {x : SiteM τ ω α} (h : x.Along Site.Unmarked) :
    (onSite x : BenchM τ ω κ α).Along Defers := by
  apply h.focus
  rintro b site ⟨new, hnew, hmarks⟩
  exact defers_of_events hnew (startedIn_of_unmarked hmarks) rfl rfl

theorem record_defers {e : Event τ} (he : e.started? = none) :
    (onSite (Site.record e) : BenchM τ ω κ Unit).Along Defers := by
  intro b
  apply (record_adds e b).mono
  rintro _ b' ⟨_, h⟩
  exact h.defers (by simp [startedIn, he])

theorem update_defers {k : Nat} {g : Framework τ κ → Framework τ κ}
    (hpast : ∀ f, (g f).pastActions = f.pastActions) (hactions : ∀ f, f.actions <+: (g f).actions) :
    (update k g : BenchM τ ω κ Unit).Along Defers := by
  intro b
  refine ⟨⟨?_, ?_⟩, [], (List.append_nil _).symm, rfl⟩
  · intro i f hf
    refine ⟨if k = i then g f else f, ?_, ?_, ?_⟩
    · show (b.frameworks.modify k g)[i]? = _
      rw [List.getElem?_modify, hf]
      rfl
    · split
      · exact hpast f
      · rfl
    · split
      · exact hactions f
      · exact List.prefix_rfl
  · show tally Framework.putAway (b.frameworks.modify k g) + _ = _
    rw [tally_modify_eq fun f => by rw [Framework.putAway, Framework.putAway, hpast]]
    rfl

theorem place_defers (settings : Settings τ κ) (client : Option String) :
    (place (.fresh settings client) : BenchM τ ω κ Nat).Along Defers := by
  apply Along.bind along_get
  intro b
  refine Along.bind (along_modify ?_) fun _ => along_pure _
  intro b
  refine ⟨⟨?_, ?_⟩, [], (List.append_nil _).symm, rfl⟩
  · intro k f hf
    have hk := (List.getElem?_eq_some_iff.1 hf).1
    exact ⟨f, by rw [List.getElem?_append_left hk, hf], rfl, List.prefix_rfl⟩
  · have hnone : (Framework.fresh settings client).putAway = [] := rfl
    simp [Bench.filed, tally, hnone]

/-- A change of the registry that begins no action. -/
theorem defers_of_registry {registry : Registry (Duty κ) (Except (Fault τ) Unit)} {b : Bench τ ω κ}
    (h : registry.begunActions = b.registry.begunActions) : Defers b { b with registry } :=
  defers_of_events (List.append_nil _).symm rfl rfl h

/-- A change of the registry that begins no action, and then an entry in the log. -/
theorem registry_defers {registry : Registry (Duty κ) (Except (Fault τ) Unit)} {b : Bench τ ω κ}
    {a : α} {entry : LogEntry τ} (h : registry.begunActions = b.registry.begunActions) :
    Ends (do
      Proc.modify fun b => { b with registry }
      onSite (Site.record (.log entry))
      pure a : BenchM τ ω κ α) b fun _ b' => Defers b b' := by
  apply Ends.bind_ok (P := fun b' => b' = { b with registry }) ⟨rfl, rfl⟩
  rintro _ rfl
  apply Ends.bind_ok (record_adds (.log entry) _)
  intro b' h'
  exact trans_of Defers (defers_of_registry h) (h'.defers rfl)

theorem register_defers (d : Duty κ) : (register d : BenchM τ ω κ Nat).Along Defers := by
  intro b
  apply Ends.bind_ok (P := fun b' => b' = b) ⟨rfl, rfl⟩
  rintro b rfl
  apply registry_defers
  simp [Registry.begunActions, Registry.Entry.begun?]

theorem unregister_defers (handle : Option Nat) :
    (unregister handle : BenchM τ ω κ Unit).Along Defers := by
  intro b
  apply Ends.bind_ok (P := fun b' => b' = b) ⟨rfl, rfl⟩
  rintro b rfl
  split
  · apply registry_defers (a := ())
    simp [Registry.begunActions, Registry.remove, Registry.Entry.begun?]
  · exact refl_of Defers b

/-- Leaving a mark leaves only that. -/
theorem mark_adds [Host τ ω] (m : Mark) (b : Bench τ ω κ) :
    Ends (onSite (Site.mark m) : BenchM τ ω κ Unit) b fun ending b' =>
      ending = .ok () ∧ ∃ time, Adds [.mark time m] b b' :=
  ⟨rfl, Host.now b.site.world, rfl, Site.events_record _ b.site⟩

end Bench

namespace Framework

variable [Host τ ω] {k : Nat}

theorem siteStep_defers {calls : Call τ → Prop} {x : BenchM τ ω κ α}
    (h : SiteStep (fun _ => True) calls α x) : x.Along Defers := by
  cases h with
  | work hwork => exact onSite_defers (hwork.along Site.Step.unmarked)
  | look j => exact frameworkAt_along j

theorem serve_defers {calls : Call τ → Prop} {x : BenchM τ ω κ α}
    (h : IsServed (fun _ => True) k calls x) : x.Along Defers :=
  h.madeOf.along siteStep_defers

theorem deletion_defers {x : BenchM τ ω κ α} (h : DeleteStep (fun _ => True) k α x) :
    x.Along Defers := by
  cases h with
  | talk htalk => exact siteStep_defers htalk
  | serve hserved => exact serve_defers hserved
  | custody change => exact record_defers rfl

theorem connect_defers [Seconds τ] (component : Option String) :
    (connect k component : BenchM τ ω κ Unit).Along Defers := by
  apply (madeOf_connect (fun _ _ => trivial) component).along
  intro _ _ hstep
  cases hstep with
  | site hsite => exact siteStep_defers hsite
  | keep client =>
    exact update_defers (g := fun f => { f with client := some client, ownsClient := true })
      (fun _ => rfl) fun _ => List.prefix_rfl

theorem createNamespace_defers [Seconds τ] (baseName : String) (labels : Labels) :
    (createNamespace k baseName labels
      : BenchM τ ω κ (Option Namespace.Record)).Along Defers := by
  apply (madeOf_createNamespace (fun _ _ => trivial) baseName labels).along
  intro _ _ hstep
  cases hstep with
  | site hsite => exact siteStep_defers hsite
  | take records => exact record_defers rfl
  | track record =>
    exact update_defers (g := (·.track record)) (fun _ => rfl) fun _ => List.prefix_rfl

variable [Seconds τ]

theorem useRules_defers (injected : String → Prop) :
    UseRules injected (Defers : Bench τ ω κ → Bench τ ω κ → Prop) where
  site hx := onSite_defers (hx.along Site.Step.unmarked)
  custody _ _ := record_defers rfl
  hook stage baseName b := (mark_adds (.hook stage baseName) b).mono fun _ _ h => by
    obtain ⟨_, _, h⟩ := h
    exact h.defers rfl
  serve := serve_defers
  connect _ := connect_defers
  create _ := createNamespace_defers
  change _ _ hg := update_defers hg.pastActions hg.actions
  place settings client _ := place_defers settings client
  register := register_defers
  unregister := unregister_defers
  note b _ _ := defers_of_events (List.append_nil _).symm rfl rfl rfl

/-- Between the benches the queue of a framework was walked from a place on: what was started is
a first part of what the queue holds there in the end. -/
structure Walks (k i : Nat) (b b' : Bench τ ω κ) : Prop extends KeepsQueues b b' where
  started : ∃ new, b'.site.events = b.site.events ++ new ∧ ∀ f, b'.frameworks[k]? = some f →
    startedIn new <+: (f.actions.drop i).map (·.name)

omit [Host τ ω] [Seconds τ] in
theorem walks_of_defers {b b' : Bench τ ω κ} (h : Defers b b') (i : Nat) : Walks k i b b' := by
  obtain ⟨new, hnew, hnone⟩ := h.quiet
  refine ⟨h.toKeepsQueues, new, hnew, ?_⟩
  intro f _
  rw [hnone]
  exact List.nil_prefix

namespace Walks

variable {i : Nat} {b b₁ b₂ : Bench τ ω κ}

omit [Host τ ω] [Seconds τ]

theorem after (h : Walks k i b₁ b₂) (hb : Defers b b₁) : Walks k i b b₂ := by
  obtain ⟨new, hnew, hnone⟩ := hb.quiet
  obtain ⟨later, hlater, hstarted⟩ := h.started
  refine ⟨hb.toKeepsQueues.trans h.toKeepsQueues, new ++ later, ?_, ?_⟩
  · rw [hlater, hnew, List.append_assoc]
  · rw [startedIn_append, hnone]
    exact hstarted

theorem before (h : Walks k i b b₁) (hb : Defers b₁ b₂) (hk : ∃ f, b.frameworks[k]? = some f) :
    Walks k i b b₂ := by
  obtain ⟨new, hnew, hstarted⟩ := h.started
  obtain ⟨later, hlater, hnone⟩ := hb.quiet
  refine ⟨h.toKeepsQueues.trans hb.toKeepsQueues, new ++ later, ?_, ?_⟩
  · rw [hlater, hnew, List.append_assoc]
  · intro f₂ hf₂
    obtain ⟨f, hf⟩ := hk
    obtain ⟨f₁, hf₁, _⟩ := h.queues k f hf
    obtain ⟨f', hf', _, hactions⟩ := hb.queues k f₁ hf₁
    obtain rfl := Option.some_inj.1 (hf'.symm.trans hf₂)
    rw [startedIn_append, hnone, List.append_nil]
    exact (hstarted f₁ hf₁).trans ((List.IsPrefix.drop hactions i).map _)

/-- The action at a place is started, and then the walk goes on behind it. -/
theorem step {f : Framework τ κ} {a : Action κ} {time : τ} (h : Walks k (i + 1) b₁ b₂)
    (hf : b.frameworks[k]? = some f) (ha : f.actions[i]? = some a)
    (hmark : Adds [.mark time (.action a.name)] b b₁) : Walks k i b b₂ := by
  obtain ⟨new, hnew, hstarted⟩ := h.started
  have hb : KeepsQueues b b₂ := by
    refine ⟨?_, ?_⟩
    · rw [← hmark.frameworks]
      exact h.queues
    · rw [h.filed, Bench.filed, Bench.filed, hmark.frameworks, hmark.registry]
  refine ⟨hb, [.mark time (.action a.name)] ++ new, ?_, ?_⟩
  · rw [hnew, hmark.2, List.append_assoc]
  · intro f₂ hf₂
    obtain ⟨f', hf', _, hactions⟩ := hb.queues k f hf
    obtain rfl := Option.some_inj.1 (hf'.symm.trans hf₂)
    obtain ⟨rest, hrest⟩ := hactions
    have hi : f'.actions[i]? = some a := by
      rw [← hrest, List.getElem?_append_left (List.getElem?_eq_some_iff.1 ha).1, ha]
    rw [List.drop_eq_getElem?_toList_append, hi, startedIn_append]
    exact (List.prefix_cons_inj a.name).2 (hstarted f' hf₂)

end Walks

/-- The second bench is a later one of the same run, and unless a teardown was cut short on the
way, what was started was put away, or begun as a registered action, in the meantime. -/
def Files (b b' : Bench τ ω κ) : Prop :=
  ∃ new, b'.site.events = b.site.events ++ new ∧
    (Undisturbed new → (startedIn new : Multiset String) + b.filed ≤ b'.filed)

omit [Host τ ω] [Seconds τ] in
instance : IsPreorder (Bench τ ω κ) Files where
  refl b := ⟨[], (List.append_nil _).symm, fun _ => by simp [startedIn]⟩
  trans := by
    rintro a b c ⟨new, hnew, hab⟩ ⟨later, hlater, hbc⟩
    refine ⟨new ++ later, by rw [hlater, hnew, List.append_assoc], ?_⟩
    intro hcalm
    rw [Undisturbed.append] at hcalm
    calc (startedIn (new ++ later) : Multiset String) + a.filed
        = startedIn later + (startedIn new + a.filed) := by
          rw [startedIn_append, ← Multiset.coe_add]
          abel
      _ ≤ startedIn later + b.filed := by gcongr; exact hab hcalm.1
      _ ≤ c.filed := hbc hcalm.2

omit [Host τ ω] [Seconds τ] in
theorem files_of_defers {b b' : Bench τ ω κ} (h : Defers b b') : Files b b' := by
  obtain ⟨new, hnew, hnone⟩ := h.quiet
  refine ⟨new, hnew, ?_⟩
  intro _
  rw [hnone, h.filed, Multiset.coe_nil, zero_add]

section Teardown

variable {r : Runner τ ω κ} (hb : ∀ owner body, (r.perform owner body).Along Defers)

include hb

omit [Seconds τ] in
theorem act_starts (owner : Option Nat) (a : Action κ) (b : Bench τ ω κ) :
    Ends (act r owner a) b fun _ b₂ =>
      ∃ time b₁, Adds [.mark time (.action a.name)] b b₁ ∧ Defers b₁ b₂ := by
  apply Ends.bind_ok (mark_adds _ b)
  rintro b₁ ⟨time, h₁⟩
  exact (hb owner a.body b₁).mono fun _ b₂ h₂ => ⟨time, b₁, h₁, h₂⟩

omit [Seconds τ] in
/-- A walk starts the actions of the queue in order. -/
theorem walk_walks (cycle steps i : Nat) {f : Framework τ κ} {b : Bench τ ω κ}
    (hf : b.frameworks[k]? = some f) (hcycle : f.cycle = cycle) :
    Ends (walk r k cycle steps i) b fun _ b' => Walks k i b b' := by
  induction steps generalizing i f b with
  | zero => exact walks_of_defers (refl_of Defers b) i
  | succ steps ih =>
    have hqueue : f.queue cycle = f.actions := by rw [← hcycle, queue_cycle]
    apply Ends.bind_ok (frameworkAt_ends hf)
    rintro b rfl
    rw [hqueue]
    split
    · exact walks_of_defers (refl_of Defers b) i
    · rename_i a ha
      apply Ends.bind (act_starts hb (some k) a b)
      · rintro _ b₂ ⟨time, b₁, h₁, h₂⟩
        have hf₁ : b₁.frameworks[k]? = some f := by rw [h₁.frameworks, hf]
        obtain ⟨f₂, hf₂, hpast, _⟩ := h₂.queues k f hf₁
        have hcycle₂ : f₂.cycle = cycle := by rw [← hcycle, Framework.cycle, hpast]; rfl
        apply (ih (i + 1) hf₂ hcycle₂).mono
        intro _ b₃ h₃
        exact (h₃.after h₂).step hf ha h₁
      · rintro e b₂ ⟨time, b₁, h₁, h₂⟩
        exact (walks_of_defers h₂ (i + 1)).step hf ha h₁

theorem windUp_walks (testFailed : Bool) {f : Framework τ κ} {b : Bench τ ω κ}
    (hf : b.frameworks[k]? = some f) :
    Ends (windUp r k testFailed) b fun _ b' => Walks k 0 b b' := by
  have hhook : (hook r k .after).Along Defers :=
    (madeOf_hook .after).along ((useRules_defers fun _ => True).part hb)
  have hdump : (dumpFailed k testFailed : BenchM τ ω κ Unit).Along Defers :=
    serve_defers (isServed_dumpFailed (fun _ _ => trivial) testFailed)
  apply Ends.bind (hdump b)
  · intro _ b₁ h₁
    obtain ⟨f₁, hf₁, _⟩ := h₁.queues k f hf
    apply Ends.bind_ok (frameworkAt_ends hf₁)
    rintro b₁ rfl
    apply Ends.bind (walk_walks hb f₁.cycle r.patience 0 hf₁ rfl)
    · intro _ b₂ h₂
      apply (hhook b₂).mono
      intro _ b₃ h₃
      exact (h₂.before h₃ ⟨f₁, hf₁⟩).after h₁
    · intro e b₂ h₂
      exact h₂.after h₁
  · intro e b₁ h₁
    exact walks_of_defers h₁ 0

omit hb in
/-- The deletions and the reset of a teardown start no action. -/
theorem clearAway_startsNone (testFailed : Bool) (before : Except (Fault τ) Unit) :
    (clearAway k testFailed before : BenchM τ ω κ (Report τ)).Along StartsNone := by
  have quiet {α : Type} {x : BenchM τ ω κ α} (h : x.Along Defers) : x.Along StartsNone :=
    h.mono fun _ _ => Defers.quiet
  have hclose (f : Framework τ κ) : (closeClient f : BenchM τ ω κ Unit).Along Defers :=
    (madeOf_closeClient f).along siteStep_defers
  apply (madeOf_clearAway (fun _ _ => trivial) testFailed fun _ _ => trivial).along
  intro _ _ hstep
  cases hstep with
  | delete hdelete => exact quiet (deletion_defers hdelete)
  | reset =>
    apply Along.bind (frameworkAt_along k)
    intro f
    apply Along.bind (quiet (hclose f))
    intro _
    exact along_modify fun b => ⟨[], (List.append_nil _).symm, rfl⟩

omit hb in
/-- What a walk has started is put away by the reset that follows. -/
theorem clearAway_files (testFailed : Bool) (before : Except (Fault τ) Unit) {f : Framework τ κ}
    {b b₂ : Bench τ ω κ} (hwalk : Walks k 0 b b₂) (hf : b₂.frameworks[k]? = some f) :
    Ends (clearAway k testFailed before) b₂ fun _ b₃ => Files b b₃ := by
  apply ((clearAway_ends testFailed before hf).and (clearAway_startsNone testFailed before b₂)).mono
  rintro _ b₃ ⟨⟨cleared, h⟩, later, hlater, hnone⟩
  obtain rfl : cleared = later := List.append_cancel_left (h.continues.2.symm.trans hlater)
  obtain ⟨new, hnew, hstarted⟩ := hwalk.started
  refine ⟨new ++ cleared, by rw [hlater, hnew, List.append_assoc], ?_⟩
  intro hcalm
  rw [Undisturbed.append] at hcalm
  have hprefix : (startedIn new : Multiset String) ≤ f.actions.map (·.name) :=
    Multiset.coe_le.2 (hstarted f hf).sublist.subperm
  have htally := tally_modify (w := Framework.putAway) (g := Framework.reset) hf
  have hreset : f.reset.putAway = f.actions.map (·.name) ++ f.putAway := by
    simp [Framework.putAway, Framework.reset]
  rw [hreset, ← Multiset.coe_add, ← add_assoc, add_left_inj,
    ← h.frameworks_eq hcalm.2] at htally
  have hbegun : b₃.registry.begunActions = b₂.registry.begunActions := by rw [h.continues.1]
  rw [startedIn_append, hnone, List.append_nil, ← hwalk.filed, Bench.filed, Bench.filed, htally,
    hbegun]
  calc (startedIn new : Multiset String) +
        (tally Framework.putAway b₂.frameworks + b₂.registry.begunActions)
      ≤ (f.actions.map (·.name) : List String) +
        (tally Framework.putAway b₂.frameworks + b₂.registry.begunActions) := by gcongr
    _ = tally Framework.putAway b₂.frameworks + (f.actions.map (·.name) : List String) +
        b₂.registry.begunActions := by abel

/-- However it ends, a teardown starts each action of its queue once at most. -/
theorem afterEach_files (testFailed : Bool) : (afterEach r k testFailed).Along Files := by
  intro b
  have hwithdraw : Ends (withdraw k : BenchM τ ω κ Unit) b fun _ b₁ => Defers b b₁ :=
    (useRules_defers fun _ => True).withdraw b
  have hwind (f : Framework τ κ) (b₁ : Bench τ ω κ) (h₁ : Defers b b₁)
      (hf : b₁.frameworks[k]? = some f) :
      Ends (windUp r k testFailed) b₁ fun _ b₂ =>
        Walks k 0 b b₂ ∧ ∃ f, b₂.frameworks[k]? = some f := by
    apply (windUp_walks hb testFailed hf).mono
    intro _ b₂ h₂
    obtain ⟨f₂, hf₂, _⟩ := h₂.queues k f hf
    exact ⟨h₂.after h₁, f₂, hf₂⟩
  apply afterEach_comes hwithdraw hwind
  · rintro before b₂ ⟨hwalk, f, hf⟩
    apply (clearAway_files testFailed before hwalk hf).mono
    intro _ b₃ h₃ ended b₄ h₄
    exact trans_of Files h₃ (files_of_defers (h₄.defers rfl))
  · intro e b₁ h₁ _
    exact files_of_defers h₁

/-- A drain begins each registered action once, and tears frameworks down. -/
theorem dischargeOne_files (handle : Nat) (duty : Duty κ) :
    (dischargeOne r handle duty).Along Files := by
  have hlog (level : Level) (name : String) (fields : List (String × Detail τ)) :
      (onSite (Site.log level name fields) : BenchM τ ω κ Unit).Along Files :=
    (record_defers rfl).mono fun _ _ => files_of_defers
  have hnoted (b : Bench τ ω κ) (e : Registry.Entry (Duty κ) (Except (Fault τ) Unit)) :
      (b.noted e).filed = b.filed + (e.begun?.toList : Multiset String) := by
    have hbegun : (b.noted e).registry.begunActions =
        b.registry.begunActions ++ e.begun?.toList := by
      cases hbegun : e.begun? <;>
        simp [noted, Registry.note, Registry.begunActions, List.filterMap_append, hbegun]
    rw [Bench.filed, Bench.filed, hbegun, ← Multiset.coe_add, add_assoc]
    rfl
  cases duty with
  | teardown k =>
    apply dischargeOne_along
    · intro e
      apply along_modify
      intro b
      refine ⟨[], (List.append_nil _).symm, ?_⟩
      intro _
      show 0 + b.filed ≤ (b.noted e).filed
      rw [hnoted, zero_add]
      exact Multiset.le_add_right _ _
    · exact abortTeardown_along hlog (afterEach_files hb true)
  | act a =>
    intro b
    apply dischargeOne_ends
    apply (act_starts hb none a _).mono
    rintro ending b₂ ⟨time, b₁, h₁, h₂⟩
    obtain ⟨new, hnew, hnone⟩ := h₂.quiet
    refine ⟨[.mark time (.action a.name)] ++ new, ?_, ?_⟩
    · show b₂.site.events = _
      rw [hnew, h₁.2, List.append_assoc]
      rfl
    · intro _
      have hfiled : b₂.filed = b.filed + {a.name} := by
        rw [h₂.filed, Bench.filed, h₁.frameworks, h₁.registry]
        exact hnoted b (.begun handle (.act a))
      rw [hnoted, hfiled, startedIn_append, hnone, List.append_nil]
      show {a.name} + b.filed ≤ b.filed + {a.name} + 0
      rw [add_zero, add_comm]

theorem drain_files : (drain r).Along Files := by
  intro b
  apply drain_ends
  · exact fun _ _ _ => (record_defers rfl).mono fun _ _ => files_of_defers
  · have htaken : Defers b { b with registry := b.registry.takeAll.2 } := by
      apply defers_of_registry
      simp [Registry.begunActions, Registry.takeAll, Registry.Entry.begun?]
    exact files_of_defers htaken
  · intro d _
    exact dischargeOne_files hb d.1 d.2

end Teardown

end Framework

section

variable [Seconds τ] [Host τ ω] {injected : String → Prop} {nests tears : Prop}

/-- Code that neither tears down nor drains, and runs no such code, starts no action. -/
theorem IsTestCode.defers {x : BenchM τ ω κ α} (hx : IsTestCode injected nests tears x)
    (hnests : ¬nests) (htears : ¬tears) : x.Along Defers :=
  hx.along (useRules_defers injected) fun h => absurd h (not_or.2 ⟨htears, hnests⟩)

/-- Code whose hooks and actions neither tear down nor drain starts each action once at most. -/
theorem IsTestCode.files {x : BenchM τ ω κ α} (hx : IsTestCode injected nests tears x)
    (hnests : ¬nests) : x.Along Files := by
  apply hx.along ((useRules_defers injected).mono fun _ _ => files_of_defers)
  intro _ r hr _
  have hb (owner : Option Nat) (body : κ) : (r.perform owner body).Along Defers :=
    (hr owner body).defers hnests hnests
  exact ⟨fun _ => afterEach_files hb, drain_files hb⟩

end

/-- What was put away was deferred. -/
theorem tally_putAway_le (fs : List (Framework τ κ)) :
    tally Framework.putAway fs ≤ tally Framework.deferred fs := by
  induction fs with
  | nil => exact le_refl _
  | cons f rest ih =>
    have hf : (f.putAway : Multiset String) ≤ f.deferred := by
      rw [Framework.deferred, List.flatten_cons, List.map_append, ← Multiset.coe_add]
      exact Multiset.le_add_left _ _
    exact add_le_add hf ih

/-- However code of tests sets frameworks up, uses them, tears them down and drains the registry,
and however each of these ends, as long as no deletion and no close is cut short: the clients that
were made are those that were closed and those that frameworks still own, a client is closed only
if it was made more often than it was closed before, and no call goes through a client but an open
or an injected one. So a client that no setup has made is never closed. Every teardown, also one
that a drain does, leaves its framework without a client. If neither hooks nor actions tear down or
drain, each action is started at most as often as it was deferred or registered. -/
theorem Framework.clients_closed_actions_started_once [Seconds τ] [Host τ ω]
    (injected : String → Prop) (nests : Prop) :
    (∀ (x : BenchM τ ω κ α), IsTestCode injected nests True x → ∀ world,
      Ends x (.start world) fun _ b => Undisturbed b.site.events →
        Accounts injected b.site.events b.frameworks ∧
        (∀ client, client ∉ madeIn b.site.events → client ∉ closedIn b.site.events) ∧
        (¬nests → (startedIn b.site.events : Multiset String) ≤
          tally Framework.deferred b.frameworks + b.registry.begunActions)) ∧
    (∀ r : Runner τ ω κ, (∀ owner body, IsTestCode injected nests nests (r.perform owner body)) →
      ∀ k b, (∀ testFailed, Ends (afterEach r k testFailed) b fun _ b' => Forgets k b b') ∧
        Ends (discharge r (.teardown k)) b fun _ b' => Forgets k b b') := by
  refine ⟨?_, ?_⟩
  · intro x hx world
    have hopen : Accounts injected [] ((Bench.start world : Bench τ ω κ).frameworks) := by
      refine ⟨?_, rfl, fun _ _ _ hf => nomatch hf⟩
      intro past time c reply later heq
      cases past <;> cases heq
    have hall : Ends x (.start world) fun _ b => KeepsAccounts injected (.start world) b ∧
        (¬nests → Files (.start world) b) :=
      ⟨hx.keepsAccounts (.start world), fun hnests => hx.files hnests (.start world)⟩
    apply hall.mono
    rintro _ b ⟨⟨new, hnew, hkeeps⟩, hfiles⟩ hcalm
    have hevents : b.site.events = new := hnew
    rw [hevents] at hcalm ⊢
    have haccounts : Accounts injected new b.frameworks := hkeeps hcalm [] hopen
    refine ⟨haccounts, ?_, ?_⟩
    · intro client hunmade hclosed
      rw [haccounts.balance, Multiset.mem_add] at hunmade
      exact hunmade (.inl hclosed)
    · intro hnests
      obtain ⟨new', hnew', hfiled⟩ := hfiles hnests
      obtain rfl : new = new' := hevents.symm.trans hnew'
      have hstart : (Bench.start world : Bench τ ω κ).filed = 0 := rfl
      have hle := hfiled hcalm
      rw [hstart, add_zero] at hle
      exact hle.trans (add_le_add_left (tally_putAway_le b.frameworks) _)
  · intro r hr k b
    have hb (owner : Option Nat) (body : κ) : (r.perform owner body).Along (KeepsAccounts injected) :=
      (hr owner body).keepsAccounts
    exact ⟨fun testFailed => afterEach_forgets hb testFailed b, discharge_forgets hb b⟩

/-- Settings whose hook before a test raises an interrupt, and whose hook after it raises another
fault. -/
def interrupting : Settings Rat (Fault Rat) :=
  { baseName := "web", options := .standard, suite := .standard, cluster := .stub,
    provider := some ⟨.plain .keyboardInterrupt [], .plain .lookup []⟩, customCreation := false,
    skipNamespace := false, skipServiceAccountWait := false, deletionTimeout := none }

/-- A framework goes through a cycle with a client from outside, and through one in which it makes a
client and is set up twice. Each has an action that raises a fault. The second one is ended by a
drain, and a teardown follows that finds nothing left. -/
def twoCycles : BenchM Rat (Scripted.World Rat) (Fault Rat) Unit := do
  let k ← place (.fresh interrupting (some "given"))
  let _ ← (beforeEach Stage.raising k none).attempt
  update k (·.defer ⟨"first", .plain .lookup []⟩)
  let _ ← (afterEach Stage.raising k true).attempt
  let _ ← (beforeEach Stage.raising k none).attempt
  let _ ← (beforeEach Stage.raising k none).attempt
  update k (·.defer ⟨"second", .plain .lookup []⟩)
  let _ ← drain Stage.raising
  let _ ← (afterEach Stage.raising k false).attempt

theorem isTestCode_twoCycles : IsTestCode (· = "given") False True twoCycles := by
  have hraising (owner : Option Nat) (body : Fault Rat) :
      IsTestCode (· = "given") False False (Stage.raising.perform owner body) := .fail body
  have hgiven : ∀ c, some "given" = some c → c = "given" := fun _ h => (Option.some_inj.1 h).symm
  have hup (k : Nat) : IsTestCode (· = "given") False True
      (beforeEach Stage.raising k none).attempt := .attempt (.setUp hraising k none)
  have hdown (k : Nat) (testFailed : Bool) : IsTestCode (· = "given") False True
      (afterEach Stage.raising k testFailed).attempt := .attempt (.tearDown trivial hraising k _)
  exact .bind (.place _ hgiven) fun k => .bind (hup k) fun _ => .bind (.change k (.defer _)) fun _ =>
    .bind (hdown k true) fun _ => .bind (hup k) fun _ => .bind (hup k) fun _ =>
      .bind (.change k (.defer _)) fun _ => .bind (.drain trivial hraising) fun _ =>
        .bind (hdown k false) fun _ => .pure ()

theorem Framework.clients_closed_actions_started_once_twoCycles :
    let b := (twoCycles.run (.start (.start 0 [] []))).2
    Undisturbed b.site.events ∧ b.site.events.filterMap Event.closed? = ["client-1"] ∧
      startedIn b.site.events = ["first", "second"] ∧
      Accounts (· = "given") b.site.events b.frameworks ∧ "given" ∉ closedIn b.site.events ∧
      (startedIn b.site.events : Multiset String) ≤
        tally Framework.deferred b.frameworks + b.registry.begunActions ∧
      Ends (discharge Stage.raising (.teardown 0)) b fun _ b' => Forgets 0 b b' := by
  intro b
  have hcalm : Undisturbed b.site.events := by decide +kernel
  have hraising (owner : Option Nat) (body : Fault Rat) :
      IsTestCode (· = "given") False False (Stage.raising.perform owner body) := .fail body
  obtain ⟨hruns, hforgets⟩ := Framework.clients_closed_actions_started_once
    (τ := Rat) (ω := Scripted.World Rat) (κ := Fault Rat) (α := Unit) (· = "given") False
  obtain ⟨haccounts, hunmade, hstarted⟩ :=
    hruns twoCycles isTestCode_twoCycles (.start 0 [] []) hcalm
  exact ⟨hcalm, by decide +kernel, by decide +kernel, haccounts, hunmade "given" (by decide +kernel),
    hstarted id, (hforgets Stage.raising hraising 0 b).2⟩

namespace Scenario

/-- A framework without a namespace whose hooks do this. -/
def hooked (before after : Body Rat) : Blueprint Rat (Body Rat) :=
  { equipped with client := none, skipNamespace := true, provider := some ⟨before, after⟩ }

/-- A framework whose hook after a test drains the registry is set up twice, and torn down once. -/
def drainingHook : List (Step Rat) :=
  [.build defaultName (hooked [] [.drain]), .beforeEach none none, .beforeEach none none,
   .defer none ⟨"a", []⟩, .afterEach none false]

/-- The hook before a test gives the framework another client. -/
def exchangingHook : List (Step Rat) :=
  [.build defaultName (hooked [.set none (.client (some "mine"))] []), .beforeEach none none,
   .afterEach none false]

/-- What hooks must not do. The action that was deferred once is started twice, since the teardown
that the first registration stands for runs inside the other one, before that has reset the
framework. And the client that a setup made is never closed, since the teardown closes the one that
the hook has put in its place. -/
theorem hooks_tearDown_and_exchange :
    let world : Scripted.World Rat := .start 0 [] []
    let torn := benchAfter stubbed (Bench.start world) drainingHook
    let events := history stubbed (Bench.start world) drainingHook
    let events' := history stubbed (Bench.start world) exchangingHook
    (Undisturbed events ∧ torn.frameworks.map Framework.deferred = [["a"]] ∧
        torn.registry.begunActions = [] ∧ startedIn events = ["a", "a"] ∧
        ¬(startedIn events : Multiset String) ≤
          tally Framework.deferred torn.frameworks + torn.registry.begunActions) ∧
      Undisturbed events' ∧ events'.filterMap Event.made? = ["client-1"] ∧
        events'.filterMap Event.closed? = ["mine"] := by
  decide +kernel

end Scenario

end Testbed
