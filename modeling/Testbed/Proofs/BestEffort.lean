import Testbed.Proofs.Order

/-!
# Best-effort steps

A teardown logs the diagnostics of a failed test and closes the client as well as it can: an ordinary
fault of either is logged, and nothing else comes of it. Two teardowns are compared here that run on
hosts which answer these two steps differently and everything else alike. They end the same way, and
their histories differ in nothing but what the two steps have left there themselves.
-/

set_option autoImplicit false

namespace Testbed

open Proc Bench

variable {τ ω κ α : Type} {E : ω → ω → Prop} {past past' : List (Event τ)} {kind : κ → Prop}

/-- From sites whose hosts are related, runs of the procedure may end differently, but they end well or
with ordinary faults, and leave related hosts. -/
def Site.Harmless (E : ω → ω → Prop) (x : SiteM τ ω α) : Prop :=
  ∀ s t : Site τ ω, E s.world t.world → E (x.run s).2.world (x.run t).2.world ∧
    (∀ e, (x.run s).1 = .error e → e.isOrdinary = true) ∧
    ∀ e, (x.run t).1 = .error e → e.isOrdinary = true

/-- Related hosts differ at most in how they answer the diagnostics of a namespace and the close of a
client, and raise no other than ordinary faults there. -/
structure Host.Indifferent [Host τ ω] (E : ω → ω → Prop) : Prop where
  now {p q : ω} (h : E p q) : Host.now q = Host.now p
  sleep (length : τ) {p q : ω} (h : E p q) : E (Host.sleep length p) (Host.sleep length q)
  freshId {p q : ω} (h : E p q) :
    (Host.freshId q).1 = (Host.freshId p).1 ∧ E (Host.freshId p).2 (Host.freshId q).2
  randomBits {p q : ω} (h : E p q) :
    (Host.randomBits q).1 = (Host.randomBits p).1 ∧ E (Host.randomBits p).2 (Host.randomBits q).2
  reply {c : Call τ} (needed : c.isBestEffort = false) {p q : ω} (h : E p q) :
    (Host.reply c q).1 = (Host.reply c p).1 ∧ E (Host.reply c p).2 (Host.reply c q).2
  dump (cluster : Cluster τ) (ns client : String) : Site.Harmless E (cluster.dump ns client)
  close (client : String) : Site.Harmless E (Site.call (.closeClient client) : SiteM τ ω Unit)

/-- Sites on related hosts whose histories go on alike from these ones. -/
structure Site.InStep (E : ω → ω → Prop) (past past' : List (Event τ)) (s t : Site τ ω) : Prop where
  world : E s.world t.world
  since : ∃ new, s.events = past ++ new ∧ t.events = past' ++ new

theorem Site.record_inStep (e : Event τ) :
    Parallel (Site.InStep E past past') (fun _ => True) (Site.record e : SiteM τ ω Unit) := by
  rintro s t ⟨hworld, new, hs, ht⟩
  refine ⟨rfl, fun _ _ => trivial, hworld, new ++ [e], ?_, ?_⟩
  · rw [Site.events_record, hs, List.append_assoc]
  · rw [Site.events_record, ht, List.append_assoc]

/-- A step at a site goes the same way on hosts that answer its call alike. -/
theorem Site.Step.inStep [Host τ ω] (hE : Host.Indifferent E) {x : SiteM τ ω α}
    (h : Site.Step (fun c => c.isBestEffort = false) α x) :
    Parallel (Site.InStep E past past') (fun _ => True) x := by
  cases h with
  | @record e _ _ => exact Site.record_inStep e
  | now =>
    rintro s t hst
    exact ⟨congrArg Except.ok (hE.now hst.world), fun _ _ => trivial, hst⟩
  | elapse length =>
    rintro s t ⟨hworld, hsince⟩
    exact ⟨rfl, fun _ _ => trivial, hE.sleep length hworld, hsince⟩
  | freshId =>
    rintro s t ⟨hworld, hsince⟩
    obtain ⟨hid, hworld⟩ := hE.freshId hworld
    exact ⟨congrArg Except.ok hid, fun _ _ => trivial, hworld, hsince⟩
  | randomBits =>
    rintro s t ⟨hworld, hsince⟩
    obtain ⟨hbits, hworld⟩ := hE.randomBits hworld
    exact ⟨congrArg Except.ok hbits, fun _ _ => trivial, hworld, hsince⟩
  | @call c needed =>
    rintro s t ⟨hworld, new, hs, ht⟩
    obtain ⟨hreply, hafter⟩ := hE.reply needed hworld
    refine ⟨hreply, fun _ _ => trivial, hafter,
      new ++ [.exchange (Host.now s.world) c (Host.reply c s.world).1], ?_, ?_⟩
    · rw [Site.events_call, hs, List.append_assoc]
    · rw [Site.events_call, ht, hE.now hworld, hreply, List.append_assoc]

/-- A teardown of the framework runs bodies of this kind only: its deferred actions and its hook have
such bodies. -/
structure Framework.RunsOnly (kind : κ → Prop) (f : Framework τ κ) : Prop where
  actions : ∀ a ∈ f.actions, kind a.body
  past : ∀ queue ∈ f.pastActions, ∀ a ∈ queue, kind a.body
  hook : ∀ p, f.provider = some p → kind p.after

namespace Framework

theorem RunsOnly.queue {f : Framework τ κ} (h : f.RunsOnly kind) {cycle : Nat} {a : Action κ}
    (ha : a ∈ f.queue cycle) : kind a.body := by
  unfold Framework.queue at ha
  rw [List.getD_eq_getElem?_getD] at ha
  cases hqueue : (f.pastActions.reverse ++ [f.actions])[cycle]? with
  | none => simp [hqueue] at ha
  | some queue =>
    rw [hqueue, Option.getD_some] at ha
    rcases List.mem_append.1 (List.mem_of_getElem? hqueue) with hpast | hlast
    · exact h.past queue (List.mem_reverse.1 hpast) a ha
    · rw [List.mem_singleton.1 hlast] at ha
      exact h.actions a ha

theorem RunsOnly.defer {f : Framework τ κ} (h : f.RunsOnly kind) {a : Action κ} (ha : kind a.body) :
    (f.defer a).RunsOnly kind where
  actions := List.forall_mem_append.2 ⟨h.actions, List.forall_mem_singleton.2 ha⟩
  past := h.past
  hook := h.hook

end Framework

namespace Bench

/-- Benches that differ in their sites only, on related hosts. -/
structure Twins (E : ω → ω → Prop) (b c : Bench τ ω κ) : Prop where
  same : SiteOnly b c
  worlds : E b.site.world c.site.world

/-- Twins whose histories go on alike from these ones, and on which a teardown of the framework with
number `k` runs bodies of this kind only. -/
structure InStep (E : ω → ω → Prop) (kind : κ → Prop) (k : Nat) (past past' : List (Event τ))
    (b c : Bench τ ω κ) : Prop where
  same : SiteOnly b c
  site : Site.InStep E past past' b.site c.site
  only : ∀ f, b.frameworks[k]? = some f → f.RunsOnly kind

/-- Whatever has happened on twins before, the procedure ends the same way on both, leaves twins, adds
the same events to their histories, and leaves the framework no bodies of another kind to run. -/
def Unswayed (E : ω → ω → Prop) (kind : κ → Prop) (k : Nat) (x : BenchM τ ω κ α) : Prop :=
  ∀ past past', Parallel (InStep E kind k past past') (fun _ => True) x

variable {k : Nat}

theorem InStep.twins {b c : Bench τ ω κ} (h : InStep E kind k past past' b c) : Twins E b c :=
  ⟨h.same, h.site.world⟩

/-- Twins are in step from where they are. -/
theorem Twins.inStep {b c : Bench τ ω κ} (h : Twins E b c)
    (honly : ∀ f, b.frameworks[k]? = some f → f.RunsOnly kind) :
    InStep E kind k b.site.events c.site.events b c :=
  ⟨h.same, ⟨h.worlds, [], (List.append_nil _).symm, (List.append_nil _).symm⟩, honly⟩

/-- Twins stay twins while only their sites change. -/
theorem Twins.of_sites {b b' c c' : Bench τ ω κ} (h : Twins E b c) (hb : SiteOnly b b')
    (hc : SiteOnly c c') (hworlds : E b'.site.world c'.site.world) : Twins E b' c' := by
  refine ⟨?_, hworlds⟩
  unfold SiteOnly at *
  rw [hc, h.same, hb]

/-- Twins take the same registration back. -/
theorem Twins.withdrawn {b c : Bench τ ω κ} (h : Twins E b c) (k : Nat) (f : Framework τ κ) :
    Twins E (Framework.withdrawn k f b) (Framework.withdrawn k f c) := by
  refine ⟨?_, h.worlds⟩
  show Framework.withdrawn k f c = _
  rw [h.same]
  rfl

theorem onSite_unswayed {x : SiteM τ ω α}
    (h : ∀ past past', Parallel (Site.InStep E past past') (fun _ => True) x) :
    Unswayed E kind k (onSite x : BenchM τ ω κ α) := by
  rintro past past' b c ⟨hsame, hsite, honly⟩
  obtain ⟨hends, _, hsite⟩ := h past past' b.site c.site hsite
  refine ⟨hends, fun _ _ => trivial, ?_, hsite, honly⟩
  show ({ c with site := _ } : Bench τ ω κ) = { b with site := _ }
  rw [hsame]
  rfl

theorem frameworkAt_unswayed (j : Nat) :
    Unswayed E kind k (frameworkAt j : BenchM τ ω κ (Framework τ κ)) := by
  intro past past' b c hbc
  unfold frameworkAt
  rw [run_bind, run_bind, run_get, run_get]
  dsimp only
  rw [hbc.same.frameworks]
  cases b.frameworks[j]? with
  | none => exact ⟨rfl, fun _ _ => trivial, hbc⟩
  | some f => exact ⟨rfl, fun _ _ => trivial, hbc⟩

/-- What is done with the framework itself may count on what it runs. -/
theorem frameworkAt_bind_unswayed {x : Framework τ κ → BenchM τ ω κ α}
    (hx : ∀ f, f.RunsOnly kind → Unswayed E kind k (x f)) :
    Unswayed E kind k (frameworkAt k >>= x) := by
  intro past past' b c hbc
  obtain ⟨hends, _, _⟩ := frameworkAt_unswayed k past past' b c hbc
  rcases hran : (frameworkAt k).run b with ⟨found, b₁⟩
  rcases hran' : (frameworkAt k).run c with ⟨found', c₁⟩
  rw [hran, hran'] at hends
  obtain rfl : found' = found := hends
  have hfound := (frameworkAt_found k b).of_run hran
  have hfound' := (frameworkAt_found k c).of_run hran'
  cases found' with
  | ok f =>
    obtain ⟨rfl, hf⟩ := hfound
    obtain ⟨rfl, _⟩ := hfound'
    rw [run_bind_ok hran, run_bind_ok hran']
    exact hx f (hbc.only f hf) past past' b₁ c₁ hbc
  | error e =>
    obtain ⟨rfl, _⟩ := hfound
    obtain ⟨rfl, _⟩ := hfound'
    rw [run_bind_error hran, run_bind_error hran']
    exact ⟨rfl, fun _ _ => trivial, hbc⟩

theorem update_unswayed {g : Framework τ κ → Framework τ κ}
    (hg : ∀ f, f.RunsOnly kind → (g f).RunsOnly kind) :
    Unswayed E kind k (update k g : BenchM τ ω κ Unit) := by
  rintro past past' b c ⟨hsame, hsite, honly⟩
  refine ⟨rfl, fun _ _ => trivial, ?_, hsite, ?_⟩
  · show ({ c with frameworks := c.frameworks.modify k g } : Bench τ ω κ) = { b with
      frameworks := b.frameworks.modify k g, site := c.site }
    rw [hsame]
  · intro f' hf'
    have hmodified : (b.frameworks.modify k g)[k]? = some f' := hf'
    rw [List.getElem?_modify_eq] at hmodified
    obtain ⟨f, hf, rfl⟩ := Option.map_eq_some_iff.1 hmodified
    exact hg f (honly f hf)

variable [Host τ ω]

theorem mark_unswayed (hE : Host.Indifferent E) (m : Mark) :
    Unswayed E kind k (onSite (Site.mark m) : BenchM τ ω κ Unit) := by
  apply onSite_unswayed
  intro past past'
  apply Parallel.bind (Site.Step.now.inStep hE)
  intro _
  exact Site.record_inStep _

end Bench

namespace Framework

variable [Host τ ω] {r : Runner τ ω κ} {k : Nat} {testFailed : Bool} (hE : Host.Indifferent E)

include hE

theorem SiteStep.unswayed {calls : Call τ → Prop} (hcalls : ∀ c, calls c → c.isBestEffort = false)
    {x : BenchM τ ω κ α} (h : SiteStep (fun _ => True) calls α x) : Unswayed E kind k x := by
  cases h with
  | work hwork =>
    apply onSite_unswayed
    intro past past'
    exact hwork.parallel fun hstep => (hstep.mono hcalls).inStep hE
  | look j => exact frameworkAt_unswayed j

theorem DeleteStep.unswayed {x : BenchM τ ω κ α} (h : DeleteStep (fun _ => True) k α x) :
    Unswayed E kind k x := by
  cases h with
  | talk h => exact SiteStep.unswayed hE (fun _ hcall => hcall.elim) h
  | serve h =>
    intro past past'
    exact h.madeOf.parallel fun hstep => SiteStep.unswayed hE (fun _ => id) hstep past past'
  | custody change =>
    exact onSite_unswayed fun _ _ => Site.record_inStep _

section Winding

variable (hb : ∀ body, kind body → Unswayed E kind k (r.perform (some k) body))

include hb

theorem act_unswayed {action : Action κ} (haction : kind action.body) :
    Unswayed E kind k (act r (some k) action) := by
  intro past past'
  apply Parallel.bind (mark_unswayed hE _ past past')
  intro _
  exact hb action.body haction past past'

theorem walk_unswayed (cycle steps i : Nat) : Unswayed E kind k (walk r k cycle steps i) := by
  induction steps generalizing i with
  | zero => exact fun _ _ => parallel_fail trivial
  | succ steps ih =>
    apply frameworkAt_bind_unswayed
    intro f honly past past'
    cases hnext : (f.queue cycle)[i]? with
    | none => exact parallel_pure ()
    | some action =>
      have haction : kind action.body := honly.queue (List.mem_of_getElem? hnext)
      apply (act_unswayed hE hb haction past past').bind
      intro _
      exact ih (i + 1) past past'

theorem hook_unswayed : Unswayed E kind k (hook r k .after) := by
  apply frameworkAt_bind_unswayed
  intro f honly past past'
  cases hp : f.provider with
  | none => exact parallel_pure ()
  | some p =>
    apply (mark_unswayed hE _ past past').bind
    intro _
    exact hb p.after (honly.hook p hp) past past'

/-- What a teardown does behind the diagnostics and before the deletions. -/
theorem wind_unswayed : Unswayed E kind k (do
    let f ← frameworkAt k
    walk r k f.cycle r.patience 0
    hook r k .after) := by
  apply frameworkAt_bind_unswayed
  intro f _ past past'
  apply (walk_unswayed hE hb f.cycle r.patience 0 past past').bind
  intro _
  exact hook_unswayed hE hb past past'

end Winding

/-- The deletions of a teardown. -/
theorem deleteTracked_unswayed [Seconds τ] (testFailed : Bool) :
    Unswayed E kind k (deleteTracked k testFailed : BenchM τ ω κ (Report τ)) := by
  intro past past'
  exact (madeOf_deleteTracked (fun _ _ => trivial) testFailed).parallel fun hstep =>
    DeleteStep.unswayed hE hstep past past'

end Framework

namespace Effort

/-- The step lets no fault pass, and what it logs of its end tells whether it has raised one. -/
def Absorbed (e : Option (Effort τ)) : Prop :=
  ∀ d ∈ e, d.ending = .ok () ∧ (d.noted = [] ↔ d.raised = .ok ())

theorem Absorbed.endingOf {e : Option (Effort τ)} (h : Absorbed e) : Effort.endingOf e = .ok () := by
  cases e with
  | none => rfl
  | some d => exact (h d rfl).1

theorem Goes.absorbed {x : SiteM τ ω Unit} {entry : Fault τ → LogEntry τ} {d : Effort τ}
    {s t : Site τ ω} (h : d.Goes x entry s t)
    (hordinary : ∀ e, (x.run s).1 = .error e → e.isOrdinary = true) : Absorbed (some d) := by
  obtain ⟨⟨u, hran, _, _⟩, hnoted⟩ := h
  rw [hran] at hordinary
  rintro _ ⟨⟩
  rw [hnoted]
  unfold ending note
  cases hraised : d.raised with
  | ok _ => exact ⟨rfl, fun _ => rfl, fun _ => rfl⟩
  | error e => simp [hordinary e hraised]

/-- A harmless step, if it is made, is absorbed on related hosts, and leaves related hosts. -/
theorem GoesFor.harmless {β : Type} {x : β → SiteM τ ω Unit} {entry : β → Fault τ → LogEntry τ}
    {target : Option β} {e e' : Option (Effort τ)} {s s' t t' : Site τ ω}
    (hx : ∀ target, Site.Harmless E (x target)) (h : GoesFor x entry target e s s')
    (h' : GoesFor x entry target e' t t') (hst : E s.world t.world) :
    E s'.world t'.world ∧ Absorbed e ∧ Absorbed e' := by
  cases h with
  | spared =>
    cases h'
    exact ⟨hst, by rintro _ ⟨⟩, by rintro _ ⟨⟩⟩
  | @made target e _ _ goes =>
    cases h' with
    | @made _ e' _ _ goes' =>
      obtain ⟨hworlds, hs, ht⟩ := hx target s t hst
      refine ⟨?_, goes.absorbed hs, goes'.absorbed ht⟩
      obtain ⟨⟨u, hran, _, rfl⟩, _⟩ := goes
      obtain ⟨⟨u', hran', _, rfl⟩, _⟩ := goes'
      rw [hran, hran'] at hworlds
      exact hworlds

end Effort

namespace Framework

variable [Host τ ω] {r : Runner τ ω κ} {k : Nat} {testFailed : Bool} {f : Framework τ κ}

/-- How a teardown ends that has wound up this way, given how its deletions end: with the fault by
which one of them is cut, or with their report, once the client is closed. -/
inductive Finishes [Seconds τ] (k : Nat) (wound : Except (Fault τ) Unit × Bench τ ω κ) :
    Except (Fault τ) (Report τ) → Option (Effort τ) → Except (Fault τ) (Report τ) → Prop
  | cut (e : Fault τ) : Finishes k wound (.error e) none (.error e)
  | closed {g : Framework τ κ} {report : Report τ} {close : Option (Effort τ)} {s t : Site τ ω}
      (hg : wound.2.frameworks[k]? = some g) (closes : Closes g close s t) :
      Finishes k wound (.ok report) close (settle wound.1 report)

/-- Deletions that are not cut are those of a framework, and leave it as it is. -/
theorem deleteTracked_found [Seconds τ] (testFailed : Bool) (b : Bench τ ω κ) :
    Ends (deleteTracked k testFailed) b fun cleared b' => ∀ report, cleared = .ok report →
      ∃ g, b.frameworks[k]? = some g ∧ b'.frameworks[k]? = some g := by
  cases hg : b.frameworks[k]? with
  | some g =>
    apply (deleteTracked_disposes hg).mono
    rintro cleared b' ⟨hsame, _⟩ report _
    exact ⟨g, rfl, by rw [hsame.frameworks, hg]⟩
  | none =>
    apply Ends.bind (frameworkAt_found k b)
    · rintro g _ ⟨rfl, hfound⟩
      rw [hg] at hfound
      cases hfound
    · rintro e b' _ report ⟨⟩

section Pairs

variable (hE : Host.Indifferent E) {b c : Bench τ ω κ}

include hE

/-- The winding up of twins goes the same way behind the diagnostics. -/
theorem windUp_twins (hb : ∀ body, kind body → Unswayed E kind k (r.perform (some k) body))
    (h : Twins E b c) (hf : b.frameworks[k]? = some f) (honly : f.RunsOnly kind)
    (testFailed : Bool) : ∃ dump dump' s t,
      Dumps f testFailed dump b.site s ∧ Dumps f testFailed dump' c.site t ∧
      Effort.Absorbed dump ∧ Effort.Absorbed dump' ∧
      ((windUp r k testFailed).run c).1 = ((windUp r k testFailed).run b).1 ∧
      InStep E kind k s.events t.events ((windUp r k testFailed).run b).2
        ((windUp r k testFailed).run c).2 := by
  have hf' : c.frameworks[k]? = some f := by rw [h.same.frameworks, hf]
  rcases hran : (dumpFailed k testFailed).run b with ⟨ending, b₁⟩
  rcases hran' : (dumpFailed k testFailed).run c with ⟨ending', c₁⟩
  obtain ⟨hb₁, dump, rfl, dumps⟩ := (dumpFailed_goes hf).of_run hran
  obtain ⟨hc₁, dump', rfl, dumps'⟩ := (dumpFailed_goes hf').of_run hran'
  obtain ⟨hworlds, habsorbed, habsorbed'⟩ :=
    Effort.GoesFor.harmless
      (fun target : String × String => hE.dump f.cluster target.1 target.2) dumps dumps' h.worlds
  rw [habsorbed.endingOf] at hran
  rw [habsorbed'.endingOf] at hran'
  have honly₁ : ∀ g, b₁.frameworks[k]? = some g → g.RunsOnly kind := by
    intro g hg
    rw [hb₁.frameworks, hf, Option.some_inj] at hg
    rwa [← hg]
  obtain ⟨hends, _, hstep⟩ :=
    wind_unswayed hE hb _ _ b₁ c₁ ((h.of_sites hb₁ hc₁ hworlds).inStep honly₁)
  refine ⟨dump, dump', b₁.site, c₁.site, dumps, dumps', habsorbed, habsorbed', ?_, ?_⟩
  · unfold windUp
    rw [run_bind_ok hran, run_bind_ok hran']
    exact hends
  · unfold windUp
    rw [run_bind_ok hran, run_bind_ok hran']
    exact hstep

/-- Twins that are in step clear away in the same way, up to the close of their client. -/
theorem clearAway_twins [Seconds τ] (testFailed : Bool) (before : Except (Fault τ) Unit)
    (h : InStep E kind k past past' b c) :
    Ends (clearAway k testFailed before) b fun ending b' =>
      Ends (clearAway k testFailed before) c fun ending' c' =>
        ending' = ending ∧ Twins E b' c' ∧ ∃ rest cleared close close',
          b'.site.events = past ++ rest ++ Effort.eventsOf close ∧
          c'.site.events = past' ++ rest ++ Effort.eventsOf close' ∧
          Finishes k (before, b) cleared close ending ∧
          Finishes k (before, c) cleared close' ending ∧
          Effort.Absorbed close ∧ Effort.Absorbed close' ∧ close'.isSome = close.isSome := by
  obtain ⟨hends, _, hstep⟩ := deleteTracked_unswayed (k := k) hE testFailed past past' b c h
  rcases hdeleted : (deleteTracked k testFailed).run b with ⟨cleared, b₁⟩
  rcases hdeleted' : (deleteTracked k testFailed).run c with ⟨cleared', c₁⟩
  rw [hdeleted, hdeleted'] at hends hstep
  obtain rfl : cleared' = cleared := hends
  obtain ⟨rest, hs, ht⟩ := hstep.site.since
  unfold Ends clearAway
  cases cleared' with
  | error e =>
    rw [run_bind_error hdeleted, run_bind_error hdeleted']
    refine ⟨rfl, hstep.twins, rest, .error e, none, none, ?_, ?_, .cut e, .cut e, ?_, ?_, rfl⟩
    · rw [hs]
      exact (List.append_nil _).symm
    · rw [ht]
      exact (List.append_nil _).symm
    · rintro _ ⟨⟩
    · rintro _ ⟨⟩
  | ok report =>
    obtain ⟨g, hg, hg₁⟩ := (deleteTracked_found testFailed b).of_run hdeleted report rfl
    have hg' : c.frameworks[k]? = some g := by rw [h.same.frameworks, hg]
    have hg₁' : c₁.frameworks[k]? = some g := by rw [hstep.same.frameworks, hg₁]
    rcases hreset : (resetAt k).run b₁ with ⟨ending, b₂⟩
    rcases hreset' : (resetAt k).run c₁ with ⟨ending', c₂⟩
    obtain ⟨close, rfl, closes, hb₂⟩ := (resetAt_goes hg₁).of_run hreset
    obtain ⟨close', rfl, closes', hc₂⟩ := (resetAt_goes hg₁').of_run hreset'
    obtain ⟨hworlds, habsorbed, habsorbed'⟩ :=
      Effort.GoesFor.harmless hE.close closes closes' hstep.site.world
    rw [habsorbed.endingOf] at hreset hb₂
    rw [habsorbed'.endingOf] at hreset' hc₂
    rw [run_bind_ok hdeleted, run_bind_ok hdeleted', run_bind_ok hreset, run_bind_ok hreset',
      run_conclude, run_conclude]
    refine ⟨rfl, ⟨?_, hworlds⟩, rest, .ok report, close, close', ?_, ?_, .closed hg closes,
      .closed hg' closes', habsorbed, habsorbed', ?_⟩
    · show c₂ = { b₂ with site := c₂.site }
      have hsame : SiteOnly b₁ c₁ := hstep.same
      rw [hc₂, hb₂, hsame]
    · rw [closes.history, hs]
    · rw [closes'.history, ht]
    · rw [closes'.isSome_eq, closes.isSome_eq]

end Pairs

variable [Seconds τ]

/-- One run of the teardown of a framework `f`, with its best-effort steps set apart from the rest of
its events. -/
structure SetsApart (r : Runner τ ω κ) (k : Nat) (testFailed : Bool) (f : Framework τ κ)
    (rest : List (Event τ)) (cleared ending : Except (Fault τ) (Report τ))
    (dump close : Option (Effort τ)) (b b' : Bench τ ω κ) : Prop where
  events : b'.site.events = b.site.events ++ removal b.registry f.handle ++ Effort.eventsOf dump ++
    rest ++ Effort.eventsOf close ++ [.span ((teardownSpan f.baseName testFailed).close
      (teardownSpan f.baseName testFailed).attributes ending)]
  dumps : ∃ s, Dumps f testFailed dump (withdrawn k f b).site s
  dumpAbsorbed : Effort.Absorbed dump
  finishes : Finishes k (woundUp r k testFailed b) cleared close ending
  closeAbsorbed : Effort.Absorbed close

/-- Best-effort steps do not influence a teardown. On twins, it ends the same way and leaves twins,
whatever the diagnostics and the close of the client come to, if the bodies that it runs are of a kind
that is not swayed by what these two have come to. Each history has the same rest besides the events of
the two steps, which are made on both or on neither. -/
theorem afterEach_unswayed (hE : Host.Indifferent E)
    (hb : ∀ body, kind body → Unswayed E kind k (r.perform (some k) body)) {b c : Bench τ ω κ}
    (hbc : Twins E b c) (hf : b.frameworks[k]? = some f) (honly : f.RunsOnly kind)
    (testFailed : Bool) :
    Ends (afterEach r k testFailed) b fun ending b' =>
      Ends (afterEach r k testFailed) c fun ending' c' =>
        ending' = ending ∧ Twins E b' c' ∧ ∃ rest cleared dump dump' close close',
          SetsApart r k testFailed f rest cleared ending dump close b b' ∧
          SetsApart r k testFailed f rest cleared ending dump' close' c c' ∧
          dump'.isSome = dump.isSome ∧ close'.isSome = close.isSome := by
  have hf' : c.frameworks[k]? = some f := by rw [hbc.same.frameworks, hf]
  have honly₁ : ({ f with handle := none } : Framework τ κ).RunsOnly kind :=
    ⟨honly.actions, honly.past, honly.hook⟩
  obtain ⟨dump, dump', s, t, dumps, dumps', hdump, hdump', hwound, hstep⟩ :=
    windUp_twins hE hb (hbc.withdrawn k f) (withdrawn_found hf) honly₁ testFailed
  rw [← woundUp_run testFailed hf, ← woundUp_run testFailed hf'] at hwound hstep
  apply afterEach_records hf
  apply (clearAway_twins hE testFailed _ hstep).mono
  intro ending b₁ hpair
  apply afterEach_records hf'
  rw [hwound]
  apply hpair.mono
  rintro ending' c₁ ⟨rfl, htwins, rest, cleared, close, close', hs, ht, hfin, hfin', hclose, hclose',
    hsome⟩
  refine ⟨rfl, htwins.of_sites rfl rfl htwins.worlds, rest, cleared, dump, dump', close, close',
    ⟨?_, ⟨s, dumps⟩, hdump, hfin, hclose⟩, ⟨?_, ⟨t, dumps'⟩, hdump', ?_, hclose'⟩, ?_, hsome⟩
  · rw [Site.events_recorded, hs, dumps.history]
    simp [withdrawn]
  · rw [Site.events_recorded, ht, dumps'.history]
    simp [withdrawn]
  · rw [← hwound] at hfin'
    exact hfin'
  · rw [dumps'.isSome_eq, dumps.isSome_eq]

end Framework

/-- A scripted host that answers each best-effort call according to its mood: it may refuse it. -/
structure Moody where
  base : Scripted.World Rat
  refuses : List Bool

namespace Moody

/-- The answer to a best-effort call. -/
def answer (w : Moody) (value : α) : Except (Fault Rat) α × Moody :=
  (if w.refuses.headD false then .error (.plain .runtime [.text "refused"]) else .ok value,
    { w with refuses := w.refuses.tail })

instance : Host Rat Moody where
  now w := Host.now w.base
  sleep length w := { w with base := Host.sleep length w.base }
  freshId w := ("id", w)
  randomBits w := (0, w)
  reply
    | .describe .., w => w.answer ()
    | .closeClient _, w => w.answer ()
    | .listOccurrences .., w => w.answer []
    | .listPods .., w => w.answer []
    | c, w => ((Host.reply c w.base).1, { w with base := (Host.reply c w.base).2 })

/-- Hosts that differ in their moods only. -/
def Alike (p q : Moody) : Prop := q.base = p.base

theorem answer_kept (w : Moody) (value : α) : (w.answer value).2.base = w.base ∧
    ∀ e, (w.answer value).1 = .error e → e.isOrdinary = true := by
  refine ⟨rfl, ?_⟩
  intro e he
  unfold answer at he
  dsimp only at he
  split at he
  · cases he
    rfl
  · cases he

theorem reply_bestEffort {c : Call Rat} (h : c.isBestEffort = true) (w : Moody) :
    (Host.reply c w).2.base = w.base ∧ ∀ e, (Host.reply c w).1 = .error e → e.isOrdinary = true := by
  cases c with
  | describe _ _ => exact answer_kept w ()
  | closeClient _ => exact answer_kept w ()
  | listOccurrences _ _ => exact answer_kept w []
  | listPods _ _ => exact answer_kept w []
  | _ => cases h

theorem reply_needed {c : Call Rat} (h : c.isBestEffort = false) (w : Moody) :
    Host.reply c w = ((Host.reply c w.base).1, { w with base := (Host.reply c w.base).2 }) := by
  cases c <;> first | rfl | cases h

/-- What makes best-effort calls only is harmless. -/
theorem harmless {x : SiteM Rat Moody α} (hx : MadeOf (Site.Talk fun c => c.isBestEffort = true)
    (fun e => e.isOrdinary = true) x) : Site.Harmless Alike x := by
  have alone (base : Scripted.World Rat) : Parallel (fun s t => t = s ∧ s.world.base = base)
      (fun e => e.isOrdinary = true) x := by
    apply hx.parallel
    rintro _ _ hstep _ s ⟨rfl, hbase⟩
    cases hstep with
    | log level _ fields => exact ⟨rfl, by rintro _ ⟨⟩, rfl, hbase⟩
    | freshId => exact ⟨rfl, by rintro _ ⟨⟩, rfl, hbase⟩
    | call h =>
      obtain ⟨hkept, hordinary⟩ := reply_bestEffort h s.world
      exact ⟨rfl, hordinary, rfl, hkept.trans hbase⟩
  intro s t hst
  obtain ⟨_, hs, _, hsbase⟩ := alone s.world.base s s ⟨rfl, rfl⟩
  obtain ⟨_, ht, _, htbase⟩ := alone t.world.base t t ⟨rfl, rfl⟩
  exact ⟨htbase.trans (hst.trans hsbase.symm), hs, ht⟩

theorem harmless_call {c : Call Rat} (h : c.isBestEffort = true) :
    Site.Harmless Alike (Site.call c : SiteM Rat Moody c.Reply) := by
  apply harmless
  exact Site.talk_call h

theorem indifferent : Host.Indifferent Alike where
  now {p q} h := by
    show Host.now q.base = Host.now p.base
    rw [show q.base = p.base from h]
  sleep length p q h := congrArg (Host.sleep length) (show q.base = p.base from h)
  freshId h := ⟨rfl, h⟩
  randomBits h := ⟨rfl, h⟩
  reply needed p q h := by
    unfold Alike at *
    rw [reply_needed needed, reply_needed needed, h]
    exact ⟨rfl, rfl⟩
  dump cluster ns client := by
    cases cluster with
    | live config => exact harmless (Diagnostics.madeOf_dump (fun _ h => h) client ns rfl rfl)
    | stub => exact harmless_call (c := .describe client ns) rfl
  close client := harmless_call (c := .closeClient client) rfl

end Moody

namespace Framework

/-- Bodies that do nothing, or defer an action that does nothing. -/
def IsCalm (body : Body Rat) : Prop := body = [] ∨ body = [.defer none ⟨"third", []⟩]

/-- How bodies are run on hosts of such moods. -/
def moodyRunner : Runner Rat Moody (Body Rat) := Scenario.runner Scenario.stubbed Scenario.maxDepth

theorem moodyRunner_unswayed {body : Body Rat} (h : IsCalm body) :
    Unswayed Moody.Alike IsCalm 0 (moodyRunner.perform (some 0) body) := by
  have hdefer : Unswayed Moody.Alike IsCalm 0
      (update 0 (·.defer ⟨"third", []⟩) : BenchM Rat Moody (Body Rat) Unit) :=
    update_unswayed fun _ hf => hf.defer (.inl rfl)
  rcases h with rfl | rfl
  · exact fun _ _ => parallel_pure ()
  · exact hdefer

/-- A crowded framework on a host of such moods, of whose deletions the first one fails. -/
def moody (refuses : List Bool) : Bench Rat Moody (Body Rat) :=
  let refused : Scripted.Turn Rat := ⟨some 1, 0, .raise (.plain .runtime [.text "refused"])⟩
  let deferring : Body Rat := [.defer none ⟨"third", []⟩]
  { (Bench.start ⟨.start 0 [("op.delete_namespace", [refused])] [], refuses⟩
      : Bench Rat Moody (Body Rat)) with
    registry := (Registry.empty.add (.teardown 0)).2,
    frameworks := [laden ⟨[], deferring⟩ [⟨"first", deferring⟩, ⟨"second", []⟩]] }

theorem moody_runsOnly : (laden ⟨[], [.defer none ⟨"third", []⟩]⟩
    [⟨"first", [.defer none ⟨"third", []⟩]⟩, ⟨"second", []⟩]).RunsOnly IsCalm where
  actions := by
    simp only [laden, List.forall_mem_cons]
    exact ⟨.inr rfl, .inl rfl, by simp⟩
  past := by simp [laden]
  hook := by
    rintro _ ⟨⟩
    exact .inr rfl

theorem afterEach_unswayed_moody :
    (Trace.of (afterEach moodyRunner 0 true) (moody [true, false])).events.map eventTitle =
      ["cleanup.action_removed", "op.dump", "after_each.dump_failed", "first", "second", "third",
       "hook", "after_each.destroying_namespace", "op.delete_namespace", "e2e.delete_namespace",
       "custody", "after_each.namespace_deletion_failed", "after_each.destroying_namespace",
       "op.delete_namespace", "e2e.delete_namespace", "custody", "close", "e2e.after_each"] ∧
    (Trace.of (afterEach moodyRunner 0 true) (moody [false, true])).events.map eventTitle =
      ["cleanup.action_removed", "op.dump", "first", "second", "third", "hook",
       "after_each.destroying_namespace", "op.delete_namespace", "e2e.delete_namespace", "custody",
       "after_each.namespace_deletion_failed", "after_each.destroying_namespace",
       "op.delete_namespace", "e2e.delete_namespace", "custody", "close",
       "after_each.client_close_failed", "e2e.after_each"] ∧
    Host.Indifferent Moody.Alike ∧
    (∀ body, IsCalm body → Unswayed Moody.Alike IsCalm 0 (moodyRunner.perform (some 0) body)) ∧
    Twins Moody.Alike (moody [true, false]) (moody [false, true]) ∧
    ∃ f, (moody [true, false]).frameworks[0]? = some f ∧ f.RunsOnly IsCalm ∧
      Ends (afterEach moodyRunner 0 true) (moody [true, false]) fun ending b' =>
        Ends (afterEach moodyRunner 0 true) (moody [false, true]) fun ending' c' =>
          ending' = ending ∧ Twins Moody.Alike b' c' ∧ ∃ rest cleared dump dump' close close',
            SetsApart moodyRunner 0 true f rest cleared ending dump close (moody [true, false]) b' ∧
            SetsApart moodyRunner 0 true f rest cleared ending dump' close' (moody [false, true])
              c' ∧
            dump'.isSome = dump.isSome ∧ close'.isSome = close.isSome := by
  have hbodies (body : Body Rat) (hbody : IsCalm body) :
      Unswayed Moody.Alike IsCalm 0 (moodyRunner.perform (some 0) body) := moodyRunner_unswayed hbody
  have htwins : Twins Moody.Alike (moody [true, false]) (moody [false, true]) := ⟨rfl, rfl⟩
  refine ⟨by decide +kernel, by decide +kernel, Moody.indifferent, hbodies, htwins, _, rfl,
    moody_runsOnly, ?_⟩
  exact afterEach_unswayed Moody.indifferent hbodies htwins rfl moody_runsOnly true

end Framework

end Testbed
