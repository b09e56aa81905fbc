import Testbed.Proofs.Classification
import Testbed.Proofs.Queue

/-!
# The order of a teardown

A teardown takes its own registration back, logs the diagnostics of a failed test, runs the deferred
actions and the hook, deletes the namespaces that are tracked by then, closes the client, and resets
the framework. A fault that is not ordinary and ends the diagnostics, or any fault of an action, keeps
what comes next from running, up to the deletions, which always come.
-/

set_option autoImplicit false

namespace Testbed

open Proc Bench

variable {τ ω κ : Type}

/-- A step of which ordinary faults are only logged: what it did, how it ended, and what was logged of
that. -/
structure Effort (τ : Type) where
  during : List (Event τ)
  raised : Except (Fault τ) Unit
  noted : List (Event τ)

namespace Effort

/-- The events of a step and of its log. -/
def events (e : Effort τ) : List (Event τ) := e.during ++ e.noted

/-- What is left of the end of a step once its ordinary faults are logged. -/
def ending (e : Effort τ) : Except (Fault τ) Unit :=
  match e.raised with
  | .ok _ => .ok ()
  | .error fault => if fault.isOrdinary then .ok () else .error fault

/-- What is logged of the end of a step. -/
def note (entry : Fault τ → LogEntry τ) : Except (Fault τ) Unit → List (Event τ)
  | .ok _ => []
  | .error fault => if fault.isOrdinary then [.log (entry fault)] else []

/-- The step leads from the first site to the second: the procedure runs, and what is to be logged of
its end is logged. -/
structure Goes (x : SiteM τ ω Unit) (entry : Fault τ → LogEntry τ) (e : Effort τ) (s t : Site τ ω) :
    Prop where
  ran : ∃ u, x.run s = (e.raised, u) ∧ u.events = s.events ++ e.during ∧ t = u.recorded e.noted
  noted : e.noted = note entry e.raised

variable {x : SiteM τ ω Unit} {entry : Fault τ → LogEntry τ} {s t : Site τ ω}

theorem Goes.history {e : Effort τ} (h : e.Goes x entry s t) : t.events = s.events ++ e.events := by
  obtain ⟨u, _, hduring, rfl⟩ := h.ran
  simp [events, hduring]

/-- A procedure whose ordinary faults are logged comes out as such a step. -/
theorem rescue_goes (entry : Fault τ → LogEntry τ) {P : Event τ → Prop} (hx : x.Along (Site.Leaves P))
    (b : Bench τ ω κ) :
    Ends (Proc.rescue (onSite x) fun fault =>
        if fault.isOrdinary then onSite (Site.record (.log (entry fault))) else .fail fault
      : BenchM τ ω κ Unit) b fun r b' => SiteOnly b b' ∧
        ∃ e : Effort τ, r = e.ending ∧ e.Goes x entry b.site b'.site := by
  have hran : Ends (onSite x : BenchM τ ω κ Unit) b fun r b₁ => SiteOnly b b₁ ∧
      x.run b.site = (r, b₁.site) ∧ ∃ during, b₁.site.events = b.site.events ++ during := by
    refine ⟨rfl, rfl, ?_⟩
    obtain ⟨during, hduring, _⟩ := hx b.site
    exact ⟨during, hduring⟩
  apply Ends.rescue hran
  · rintro ⟨⟩ b₁ ⟨h₁, hrun, during, hduring⟩
    exact ⟨h₁, ⟨during, .ok (), []⟩, rfl, ⟨_, hrun, hduring, rfl⟩, rfl⟩
  · rintro fault b₁ ⟨h₁, hrun, during, hduring⟩
    apply Ends.ite
    · intro hordinary
      apply (record_ends _ b₁).mono
      rintro _ b₂ ⟨rfl, h₂, hs₂⟩
      refine ⟨h₁.trans h₂, ⟨during, .error fault, [.log (entry fault)]⟩, ?_, ⟨_, hrun, hduring, hs₂⟩, ?_⟩
      · simp [ending, hordinary]
      · simp [note, hordinary]
    · intro hpassing
      refine ⟨h₁, ⟨during, .error fault, []⟩, ?_, ⟨_, hrun, hduring, rfl⟩, ?_⟩
      · simp [ending, hpassing]
      · simp [note, hpassing]

/-- The step is made for a target, if there is one, and leads from the first site to the second. -/
inductive GoesFor {β : Type} (x : β → SiteM τ ω Unit) (entry : β → Fault τ → LogEntry τ) :
    Option β → Option (Effort τ) → Site τ ω → Site τ ω → Prop
  | spared (s : Site τ ω) : GoesFor x entry none none s s
  | made {target : β} {e : Effort τ} {s t : Site τ ω}
      (goes : e.Goes (x target) (entry target) s t) : GoesFor x entry (some target) (some e) s t

/-- The events of a step, if it is made. -/
def eventsOf (e : Option (Effort τ)) : List (Event τ) := e.elim [] events

/-- How a step ends, if it is made. -/
def endingOf (e : Option (Effort τ)) : Except (Fault τ) Unit := e.elim (.ok ()) ending

theorem GoesFor.isSome_eq {β : Type} {x : β → SiteM τ ω Unit} {entry : β → Fault τ → LogEntry τ}
    {target : Option β} {e : Option (Effort τ)} {s t : Site τ ω}
    (h : GoesFor x entry target e s t) : e.isSome = target.isSome := by
  cases h with
  | spared => rfl
  | made _ => rfl

theorem GoesFor.history {β : Type} {x : β → SiteM τ ω Unit} {entry : β → Fault τ → LogEntry τ}
    {target : Option β} {e : Option (Effort τ)} {s t : Site τ ω}
    (h : GoesFor x entry target e s t) : t.events = s.events ++ eventsOf e := by
  cases h with
  | spared => exact (List.append_nil _).symm
  | made goes => exact goes.history

end Effort

namespace Framework

variable {k : Nat} {f : Framework τ κ} {b : Bench τ ω κ} {testFailed : Bool}

section Withdrawal

/-- What is logged when the registration of a handle is taken back, if it is live. -/
def removal (registry : Registry (Duty κ) (Except (Fault τ) Unit)) (handle : Option Nat) :
    List (Event τ) :=
  match handle.filter registry.contains with
  | some h => [.log ⟨.debug, "cleanup.action_removed", [("handle", .count (h : Int))]⟩]
  | none => []

/-- The bench once a framework has taken its own registration back. -/
def withdrawn (k : Nat) (f : Framework τ κ) (b : Bench τ ω κ) : Bench τ ω κ :=
  { b with
    site := b.site.recorded (removal b.registry f.handle)
    registry := b.registry.without f.handle
    frameworks := b.frameworks.modify k fun f => { f with handle := none } }

theorem unregister_run (handle : Option Nat) (b : Bench τ ω κ) :
    (unregister handle : BenchM τ ω κ Unit).run b = (.ok (), { b with
      site := b.site.recorded (removal b.registry handle)
      registry := b.registry.without handle }) := by
  unfold removal Registry.without unregister
  rw [run_bind, run_get]
  dsimp only
  cases handle.filter b.registry.contains with
  | none => rfl
  | some h => rfl

theorem withdraw_run (hf : b.frameworks[k]? = some f) :
    (withdraw k : BenchM τ ω κ Unit).run b = (.ok (), withdrawn k f b) := by
  have hends : Ends (withdraw k : BenchM τ ω κ Unit) b fun r b' =>
      r = .ok () ∧ b' = withdrawn k f b := by
    apply Ends.bind_ok (frameworkAt_ends hf)
    rintro b rfl
    apply Ends.bind_ok (ends_of_run (unregister_run f.handle b))
    rintro _ rfl
    exact ⟨rfl, rfl⟩
  exact Prod.ext hends.1 hends.2

theorem withdrawn_found (hf : b.frameworks[k]? = some f) :
    (withdrawn k f b).frameworks[k]? = some { f with handle := none } := by
  show (b.frameworks.modify k _)[k]? = _
  rw [List.getElem?_modify_eq, hf]
  rfl

theorem woundUp_run [Host τ ω] {r : Runner τ ω κ} (testFailed : Bool)
    (hf : b.frameworks[k]? = some f) :
    woundUp r k testFailed b = (windUp r k testFailed).run (withdrawn k f b) := by
  rw [woundUp, withdraw_run hf]

end Withdrawal

/-- The namespace of which a teardown logs what happened there, and the client through which it does:
its own ones, of a failed test, unless it is set not to. -/
def dumpTarget (f : Framework τ κ) (testFailed : Bool) : Option (String × String) :=
  if testFailed && f.suite.dumpLogsOnFailure && !f.skipNamespace then
    match f.ns, f.client with
    | some record, some client => some (record.name, client)
    | _, _ => none
  else none

theorem dumpTarget_isSome : (f.dumpTarget testFailed).isSome = true ↔
    testFailed = true ∧ f.suite.dumpLogsOnFailure = true ∧ f.skipNamespace = false ∧
      f.ns.isSome = true ∧ f.client.isSome = true := by
  unfold dumpTarget
  rcases f.ns with _ | record <;> rcases f.client with _ | client <;> simp [and_assoc]

/-- The entry that tells that a dump has failed. -/
def dumpFailure (f : Framework τ κ) (target : String × String) (_ : Fault τ) : LogEntry τ :=
  ⟨.error, "after_each.dump_failed",
    [("base_name", .text f.baseName), ("namespace", .text target.1), ("exc_info", .flag true)]⟩

/-- The client that a teardown closes: that of the framework, if the framework has made it. -/
def closeTarget (f : Framework τ κ) : Option String := if f.ownsClient then f.client else none

theorem closeTarget_isSome : f.closeTarget.isSome = true ↔
    f.ownsClient = true ∧ f.client.isSome = true := by
  unfold closeTarget
  split <;> simp [*]

/-- The entry that tells that a close has failed. -/
def closeFailure [Seconds τ] (f : Framework τ κ) (_ : String) (e : Fault τ) : LogEntry τ :=
  ⟨.warning, "after_each.client_close_failed",
    [("base_name", .text f.baseName), ("error", .text e.message)]⟩

section Parts

variable [Host τ ω]

/-- A teardown does about the diagnostics of a failed test what it is to do. -/
def Dumps (f : Framework τ κ) (testFailed : Bool) (dump : Option (Effort τ)) (s t : Site τ ω) : Prop :=
  Effort.GoesFor (fun target => f.cluster.dump target.1 target.2) f.dumpFailure
    (f.dumpTarget testFailed) dump s t

/-- A teardown closes the client that it is to close. -/
def Closes [Seconds τ] (f : Framework τ κ) (close : Option (Effort τ)) (s t : Site τ ω) : Prop :=
  Effort.GoesFor (fun client => Site.call (.closeClient client)) f.closeFailure f.closeTarget close s t

theorem dumpFailed_goes (hf : b.frameworks[k]? = some f) :
    Ends (dumpFailed k testFailed : BenchM τ ω κ Unit) b fun r b' => SiteOnly b b' ∧
      ∃ dump, r = Effort.endingOf dump ∧ Dumps f testFailed dump b.site b'.site := by
  apply Ends.bind_ok (frameworkAt_ends hf)
  rintro b rfl
  unfold Dumps dumpTarget dumpOwn
  split
  · rcases f.ns with _ | record <;> rcases f.client with _ | client
    · exact ⟨rfl, none, rfl, .spared _⟩
    · exact ⟨rfl, none, rfl, .spared _⟩
    · exact ⟨rfl, none, rfl, .spared _⟩
    · have hwork : MadeOf (Site.Work fun _ => True) (fun _ => True)
          (f.cluster.dump record.name client : SiteM τ ω Unit) :=
        Cluster.madeOf_dump (fun _ _ => trivial) client (fun _ _ _ => trivial) f.cluster record.name
      have hleaves := hwork.along Site.Work.leaves
      apply (Effort.rescue_goes (f.dumpFailure (record.name, client)) hleaves b).mono
      rintro r b' ⟨h, e, hr, goes⟩
      exact ⟨h, some e, hr, .made goes⟩
  · exact ⟨rfl, none, rfl, .spared _⟩

theorem closeClient_goes [Seconds τ] (f : Framework τ κ) (b : Bench τ ω κ) :
    Ends (closeClient f) b fun r b' => SiteOnly b b' ∧
      ∃ close, r = Effort.endingOf close ∧ Closes f close b.site b'.site := by
  unfold Closes closeTarget closeClient
  rcases f.ownsClient with _ | _ <;> rcases f.client with _ | client
  · exact ⟨rfl, none, rfl, .spared _⟩
  · exact ⟨rfl, none, rfl, .spared _⟩
  · exact ⟨rfl, none, rfl, .spared _⟩
  · have hleaves : (Site.call (.closeClient client) : SiteM τ ω Unit).Along
        (Site.Leaves fun _ => True) := fun s => ⟨_, Site.events_call _ s, fun _ _ => trivial⟩
    apply (Effort.rescue_goes (f.closeFailure client) hleaves b).mono
    rintro r b' ⟨h, e, hr, goes⟩
    exact ⟨h, some e, hr, .made goes⟩

/-- The hook of the provider after a test leads from the first bench to the second, if there is one. -/
inductive Hooks (r : Runner τ ω κ) (k : Nat) :
    List (Event τ) → Except (Fault τ) Unit → Bench τ ω κ → Bench τ ω κ → Prop
  | absent {b : Bench τ ω κ} {f : Framework τ κ} (hf : b.frameworks[k]? = some f)
      (missing : f.provider = none) : Hooks r k [] (.ok ()) b b
  | runs {b b₁ b₂ : Bench τ ω κ} {f : Framework τ κ} {p : Provider κ} {time : τ}
      {during : List (Event τ)} {ending : Except (Fault τ) Unit}
      (hf : b.frameworks[k]? = some f) (provided : f.provider = some p)
      (starts : Adds [.mark time (.hook .after f.baseName)] b b₁)
      (ran : (r.perform (some k) p.after).run b₁ = (ending, b₂))
      (left : b₂.site.events = b₁.site.events ++ during) :
      Hooks r k (.mark time (.hook .after f.baseName) :: during) ending b b₂

omit [Host τ ω] in
theorem Hooks.history {r : Runner τ ω κ} {hooked : List (Event τ)} {ending : Except (Fault τ) Unit}
    {b b' : Bench τ ω κ} (h : Hooks r k hooked ending b b') :
    b'.site.events = b.site.events ++ hooked := by
  cases h with
  | absent => exact (List.append_nil _).symm
  | runs _ _ starts _ left => simp [left, starts.2]

/-- What comes before the deletions leads from the first bench to the second: diagnostics, deferred
actions, hook, each unless one before it has ended with a fault. -/
inductive WindsUp (r : Runner τ ω κ) (k : Nat) (testFailed : Bool) :
    Option (Effort τ) → List (Acted τ κ) → List (Event τ) → Except (Fault τ) Unit →
      Bench τ ω κ → Bench τ ω κ → Prop
  | cut {f : Framework τ κ} {dump : Option (Effort τ)} {e : Fault τ} {b b' : Bench τ ω κ}
      (hf : b.frameworks[k]? = some f) (same : SiteOnly b b')
      (dumps : Dumps f testFailed dump b.site b'.site) (left : Effort.endingOf dump = .error e) :
      WindsUp r k testFailed dump [] [] (.error e) b b'
  | raised {f : Framework τ κ} {dump : Option (Effort τ)} {acted : List (Acted τ κ)} {e : Fault τ}
      {b b₁ b₂ : Bench τ ω κ} (hf : b.frameworks[k]? = some f) (same : SiteOnly b b₁)
      (dumps : Dumps f testFailed dump b.site b₁.site) (kept : Effort.endingOf dump = .ok ())
      (acts : Acts r k f.cycle 0 acted (.error e) b₁ b₂) :
      WindsUp r k testFailed dump acted [] (.error e) b b₂
  | hooked {f : Framework τ κ} {dump : Option (Effort τ)} {acted : List (Acted τ κ)}
      {hooked : List (Event τ)} {ending : Except (Fault τ) Unit} {b b₁ b₂ b₃ : Bench τ ω κ}
      (hf : b.frameworks[k]? = some f) (same : SiteOnly b b₁)
      (dumps : Dumps f testFailed dump b.site b₁.site) (kept : Effort.endingOf dump = .ok ())
      (acts : Acts r k f.cycle 0 acted (.ok ()) b₁ b₂) (hooks : Hooks r k hooked ending b₂ b₃) :
      WindsUp r k testFailed dump acted hooked ending b b₃

theorem WindsUp.history {r : Runner τ ω κ} {dump : Option (Effort τ)} {acted : List (Acted τ κ)}
    {hooked : List (Event τ)} {ending : Except (Fault τ) Unit} {b b' : Bench τ ω κ}
    (h : WindsUp r k testFailed dump acted hooked ending b b') :
    b'.site.events = b.site.events ++
      (Effort.eventsOf dump ++ acted.flatMap Acted.events ++ hooked) := by
  cases h with
  | cut _ _ dumps _ => simp [dumps.history]
  | raised _ _ dumps _ acts => simp [acts.events, dumps.history]
  | hooked _ _ dumps _ acts hooks => simp [hooks.history, acts.events, dumps.history]

namespace WindsUp

variable {r : Runner τ ω κ} {dump : Option (Effort τ)} {acted : List (Acted τ κ)}
  {hooked : List (Event τ)} {before : Except (Fault τ) Unit} {b b' : Bench τ ω κ}

/-- No action runs behind one that has raised a fault. -/
theorem halts (h : WindsUp r k testFailed dump acted hooked before b b') :
    ∀ a ∈ acted.dropLast, a.ending = .ok () := by
  cases h with
  | cut => simp
  | raised _ _ _ _ acts =>
    obtain ⟨earlier, last, rfl, _, hwell⟩ := acts.last_raised rfl
    simpa using hwell
  | hooked _ _ _ _ acts _ => exact fun a ha => acts.well rfl a (List.mem_of_mem_dropLast ha)

/-- Whichever way a teardown winds up, it has done about diagnostics what it is to do. -/
theorem dumps (h : WindsUp r k testFailed dump acted hooked before b b')
    (hf : b.frameworks[k]? = some f) : ∃ t, Dumps f testFailed dump b.site t := by
  cases h with
  | cut hf' _ dumps _ | raised hf' _ dumps _ _ | hooked hf' _ dumps _ _ _ =>
    obtain rfl := Option.some_inj.1 (hf'.symm.trans hf)
    exact ⟨_, dumps⟩

/-- Where a fault has come before the hook, the hook does not run. -/
theorem unhooked (h : WindsUp r k testFailed dump acted hooked before b b')
    (hfault : Effort.endingOf dump ≠ .ok () ∨ ∃ a ∈ acted, a.ending ≠ .ok ()) : hooked = [] := by
  cases h with
  | cut => rfl
  | raised => rfl
  | hooked _ _ _ kept acts _ =>
    obtain hleft | ⟨a, ha, hbad⟩ := hfault
    · exact absurd kept hleft
    · exact absurd (acts.well rfl a ha) hbad

end WindsUp

section Winding

variable {r : Runner τ ω κ} (hb : ∀ body, (r.perform (some k) body).Along Onward)

include hb

omit [Host τ ω] in
theorem Hooks.onward {hooked : List (Event τ)} {ending : Except (Fault τ) Unit} {b b' : Bench τ ω κ}
    (h : Hooks r k hooked ending b b') : Onward b b' := by
  cases h with
  | absent => exact refl_of Onward b
  | @runs _ _ _ _ p _ _ _ _ _ starts ran _ =>
    exact trans_of Onward starts.onward ((hb p.after).of_run ran)

theorem hook_hooks (hf : b.frameworks[k]? = some f) :
    Ends (hook r k .after) b fun ending b' => Onward b b' ∧ ∃ hooked, Hooks r k hooked ending b b' := by
  apply Ends.bind_ok (frameworkAt_ends hf)
  rintro b rfl
  cases hp : f.provider with
  | none => exact ⟨refl_of Onward b, [], .absent hf hp⟩
  | some p =>
    apply Ends.bind_ok (mark_adds _ b)
    rintro b₁ ⟨time, h₁⟩
    apply ((hb p.after b₁).and (ends_run _ b₁)).mono
    rintro ending b₂ ⟨h₂, hrun⟩
    obtain ⟨during, hduring⟩ := h₂.history
    exact ⟨trans_of Onward h₁.onward h₂, _, .runs hf hp h₁ hrun hduring⟩

namespace WindsUp

variable {dump : Option (Effort τ)} {acted : List (Acted τ κ)} {hooked : List (Event τ)}
  {before : Except (Fault τ) Unit} {b b' : Bench τ ω κ}

/-- Where no fault has come before it, the hook runs once nothing is left of the queue. -/
theorem hooks (h : WindsUp r k testFailed dump acted hooked before b b')
    (hf : b.frameworks[k]? = some f) (hkept : Effort.endingOf dump = .ok ())
    (hwell : ∀ a ∈ acted, a.ending = .ok ()) :
    ∃ b₂ f₂, b₂.frameworks[k]? = some f₂ ∧ acted.map Acted.action = f₂.queue f.cycle ∧
      Hooks r k hooked before b₂ b' := by
  cases h with
  | cut _ _ _ left =>
    rw [hkept] at left
    cases left
  | raised _ _ _ _ acts =>
    obtain ⟨_, last, rfl, hbad, _⟩ := acts.last_raised rfl
    rw [hwell last (by simp)] at hbad
    cases hbad
  | hooked hf' _ _ _ acts hooks =>
    obtain rfl := Option.some_inj.1 (hf'.symm.trans hf)
    obtain ⟨f₂, hf₂, hqueue⟩ := acts.exhausts hb rfl
    exact ⟨_, f₂, hf₂, hqueue, hooks⟩

/-- What has run is a first part of the queue as it stands in the end. -/
theorem queue (h : WindsUp r k testFailed dump acted hooked before b b') {g : Framework τ κ}
    (hf : b.frameworks[k]? = some f) (hg : b'.frameworks[k]? = some g) :
    acted.map Acted.action <+: g.queue f.cycle := by
  cases h with
  | cut => exact List.nil_prefix
  | raised hf' _ _ _ acts =>
    obtain rfl := Option.some_inj.1 (hf'.symm.trans hf)
    exact acts.prefix_queue hb hg
  | hooked hf' _ _ _ acts hooks =>
    obtain rfl := Option.some_inj.1 (hf'.symm.trans hf)
    obtain ⟨f₂, hf₂, hqueue⟩ := acts.exhausts hb rfl
    rw [hqueue]
    exact (hooks.onward hb).queue hf₂ hg _

end WindsUp

/-- The winding up goes this way, if the teardown is ready for as many actions as the queue holds in
the end. -/
theorem windUp_windsUp (testFailed : Bool) (hf : b.frameworks[k]? = some f) :
    Ends (windUp r k testFailed) b fun before b' => Onward b b' ∧
      ∀ g, b'.frameworks[k]? = some g → (g.queue f.cycle).length < r.patience →
        ∃ dump acted hooked, WindsUp r k testFailed dump acted hooked before b b' := by
  apply Ends.bind (dumpFailed_goes hf)
  · rintro ⟨⟩ b₁ ⟨same, dump, hkept, dumps⟩
    have h₁ : Onward b b₁ := Adds.onward ⟨same, dumps.history⟩
    have hf₁ : b₁.frameworks[k]? = some f := by rw [same.frameworks, hf]
    apply Ends.bind_ok (frameworkAt_ends hf₁)
    rintro b₁ rfl
    apply Ends.bind (walk_acts hb r.patience 0 hf₁ (Nat.zero_le _))
    · rintro ⟨⟩ b₂ ⟨h₂, hacts⟩
      obtain ⟨f₂, hf₂, _⟩ := h₂.queues k f hf₁
      apply (hook_hooks hb hf₂).mono
      rintro ending b₃ ⟨h₃, hooked, hooks⟩
      refine ⟨trans_of Onward h₁ (trans_of Onward h₂ h₃), ?_⟩
      intro g hg hfew
      -- The hook may defer more, which is not run any more.
      have hlength := (h₃.queue hf₂ hg f.cycle).length_le
      obtain ⟨acted, acts⟩ := hacts f₂ hf₂ (by omega)
      exact ⟨dump, acted, hooked, .hooked hf same dumps hkept.symm acts hooks⟩
    · rintro e b₂ ⟨h₂, hacts⟩
      refine ⟨trans_of Onward h₁ h₂, ?_⟩
      intro g hg hfew
      obtain ⟨acted, acts⟩ := hacts g hg (by omega)
      exact ⟨dump, acted, [], .raised hf same dumps hkept.symm acts⟩
  · rintro e b₁ ⟨same, dump, hleft, dumps⟩
    exact ⟨Adds.onward ⟨same, dumps.history⟩,
      fun _ _ _ => ⟨dump, [], [], .cut hf same dumps hleft.symm⟩⟩

end Winding

end Parts

section Clearing

variable [Seconds τ] [Host τ ω] {g : Framework τ κ}

/-- What is done with the namespaces that are tracked leads from the first site to the second: they
are attempted one after the other, or they are all kept. -/
inductive Disposes (g : Framework τ κ) (k : Nat) (testFailed : Bool) :
    List (Attempt τ) → List (Event τ) → Except (Fault τ) Unit → Site τ ω → Site τ ω → Prop
  | each {attempts : List (Attempt τ)} {swept : Except (Fault τ) Unit} {s t : Site τ ω}
      (deletes : g.suite.deletesAfter testFailed = true)
      (tries : TriesEach g k (deletionLimit g) (g.tracked.map (·.name)) attempts swept s t) :
      Disposes g k testFailed attempts [] swept s t
  | keep (s : Site τ ω) (keeps : g.suite.deletesAfter testFailed = false) :
      Disposes g k testFailed [] (g.keeping k) (.ok ()) s (s.recorded (g.keeping k))

/-- For an attempt the cluster is asked once, through the client; without a client it is not. -/
def Asks (ω : Type) [Host τ ω] (g : Framework τ κ) (a : Attempt τ) : Prop :=
  match g.client with
  | some client => ∃ s t : Site τ ω, t.events = s.events ++ a.during ∧
      (g.cluster.deleteNamespace a.name client (deletionLimit g)).run s = (a.ending, t)
  | none => a.during = []

theorem Tries.asks {a : Attempt τ} {s t : Site τ ω} (h : g.Tries k (deletionLimit g) a s t) :
    g.Asks ω a := by
  obtain ⟨u, hrun, hduring, _⟩ := h
  rw [← Site.events_recorded] at hduring
  unfold Asks
  unfold disposal at hrun
  cases hclient : g.client with
  | some client =>
    rw [hclient] at hrun
    exact ⟨_, u, hduring, hrun⟩
  | none =>
    rw [hclient] at hrun
    obtain ⟨-, rfl⟩ := Prod.mk.inj hrun
    exact List.self_eq_append_right.1 hduring

namespace Disposes

variable {attempts : List (Attempt τ)} {kept : List (Event τ)} {swept : Except (Fault τ) Unit}
  {s t : Site τ ω}

theorem sweep (h : Disposes g k testFailed attempts kept swept s t) :
    Sweep (g.doomed testFailed) (attempts.map Attempt.outcome) swept := by
  unfold doomed
  cases h with
  | each deletes tries =>
    rw [if_pos deletes]
    exact tries.sweep
  | keep _ keeps =>
    rw [keeps]
    exact .done

theorem asks (h : Disposes g k testFailed attempts kept swept s t) :
    ∀ a ∈ attempts, g.Asks ω a := by
  intro a ha
  cases h with
  | each _ tries =>
    obtain ⟨_, _, tried⟩ := tries.each a ha
    exact tried.asks
  | keep => cases ha

theorem history (h : Disposes g k testFailed attempts kept swept s t) : t.events = s.events ++
    (attempts.flatMap (Attempt.events k g.baseName (deletionLimit g)) ++ kept) := by
  cases h with
  | each _ tries => simp [tries.events]
  | keep _ _ => simp

end Disposes

theorem deleteTracked_disposes (hg : b.frameworks[k]? = some g) :
    Ends (deleteTracked k testFailed) b fun r b' => SiteOnly b b' ∧ ∃ attempts kept,
      Disposes g k testFailed attempts kept (r.map fun _ => ()) b.site b'.site ∧
      ∀ report, r = .ok report → ReportsOn attempts report := by
  cases hflag : g.suite.deletesAfter testFailed with
  | true =>
    apply deleteTracked_attempts hg hflag
    apply (deleteEach_tries (deletionLimit g) _ .empty hg).mono
    rintro r b' ⟨hsame, attempts, htries, hreport⟩
    refine ⟨hsame, attempts, [], .each hflag htries, ?_⟩
    intro report hr
    exact ⟨report.skipped, by rw [← hreport report hr]⟩
  | false =>
    apply (deleteTracked_keeps hg hflag).mono
    rintro _ b' ⟨rfl, hsame, hsite⟩
    refine ⟨hsame, [], g.keeping k, ?_, ?_⟩
    · rw [hsite]
      exact .keep _ hflag
    · rintro report ⟨⟩
      exact ⟨_, rfl⟩

/-- What comes after the winding up leads from the first bench to the second. Unless a deletion is cut
the client is closed, and unless that is cut the framework is reset, and the teardown settles from its
report. -/
inductive ClearsAway (g : Framework τ κ) (k : Nat) (testFailed : Bool)
    (before : Except (Fault τ) Unit) : List (Attempt τ) → List (Event τ) → Option (Effort τ) →
      Except (Fault τ) (Report τ) → Bench τ ω κ → Bench τ ω κ → Prop
  | cut {attempts : List (Attempt τ)} {kept : List (Event τ)} {e : Fault τ} {b b' : Bench τ ω κ}
      (same : SiteOnly b b')
      (disposes : Disposes g k testFailed attempts kept (.error e) b.site b'.site) :
      ClearsAway g k testFailed before attempts kept none (.error e) b b'
  | unclosed {attempts : List (Attempt τ)} {kept : List (Event τ)} {close : Option (Effort τ)}
      {e : Fault τ} {s : Site τ ω} {b b' : Bench τ ω κ} (same : SiteOnly b b')
      (disposes : Disposes g k testFailed attempts kept (.ok ()) b.site s)
      (closes : Closes g close s b'.site) (left : Effort.endingOf close = .error e) :
      ClearsAway g k testFailed before attempts kept close (.error e) b b'
  | settled {attempts : List (Attempt τ)} {kept : List (Event τ)} {close : Option (Effort τ)}
      {report : Report τ} {s : Site τ ω} {b b' : Bench τ ω κ}
      (disposes : Disposes g k testFailed attempts kept (.ok ()) b.site s)
      (closes : Closes g close s b'.site) (closed : Effort.endingOf close = .ok ())
      (reset : b' = { b with site := b'.site, frameworks := b.frameworks.modify k Framework.reset })
      (reports : ReportsOn attempts report) :
      ClearsAway g k testFailed before attempts kept close (settle before report) b b'

theorem ClearsAway.history {before : Except (Fault τ) Unit} {attempts : List (Attempt τ)}
    {kept : List (Event τ)} {close : Option (Effort τ)} {ending : Except (Fault τ) (Report τ)}
    {b b' : Bench τ ω κ} (h : ClearsAway g k testFailed before attempts kept close ending b b') :
    b'.site.events = b.site.events ++
      (attempts.flatMap (Attempt.events k g.baseName (deletionLimit g)) ++ kept ++
        Effort.eventsOf close) := by
  cases h with
  | cut _ disposes => simp [disposes.history, Effort.eventsOf]
  | unclosed _ disposes closes _ => simp [closes.history, disposes.history]
  | settled disposes closes _ _ _ => simp [closes.history, disposes.history]

/-- What is neither cut in a deletion nor in the close does all that it is to do. -/
theorem ClearsAway.whole {before : Except (Fault τ) Unit} {attempts : List (Attempt τ)}
    {kept : List (Event τ)} {close : Option (Effort τ)} {ending : Except (Fault τ) (Report τ)}
    {b b' : Bench τ ω κ} (h : ClearsAway g k testFailed before attempts kept close ending b b')
    (hcalm : ∀ a ∈ attempts, a.IsCalm) (hclosed : Effort.endingOf close = .ok ()) :
    attempts.map Attempt.name = g.doomed testFailed ∧
      (close.isSome = true ↔ g.ownsClient = true ∧ g.client.isSome = true) ∧
      b'.frameworks = b.frameworks.modify k Framework.reset ∧
      ∃ report, ReportsOn attempts report ∧ ending = settle before report := by
  cases h with
  | cut _ disposes => cases disposes.sweep.ends_ok hcalm
  | unclosed _ _ _ left =>
    rw [hclosed] at left
    cases left
  | @settled _ _ _ report _ disposes closes _ reset reports =>
    have hnames := disposes.sweep.attempted_all rfl
    rw [List.map_map] at hnames
    exact ⟨hnames, by rw [closes.isSome_eq, closeTarget_isSome], by rw [reset], _, reports, rfl⟩

/-- Whichever way a teardown clears away, it has done something with its namespaces. -/
theorem ClearsAway.disposes {before : Except (Fault τ) Unit} {attempts : List (Attempt τ)}
    {kept : List (Event τ)} {close : Option (Effort τ)} {ending : Except (Fault τ) (Report τ)}
    {b b' : Bench τ ω κ} (h : ClearsAway g k testFailed before attempts kept close ending b b') :
    ∃ swept t, Disposes g k testFailed attempts kept swept b.site t := by
  cases h with
  | cut _ disposes => exact ⟨_, _, disposes⟩
  | unclosed _ disposes _ _ => exact ⟨_, _, disposes⟩
  | settled disposes _ _ _ _ => exact ⟨_, _, disposes⟩

/-- A reset closes the client as it is to be closed, and goes on unless that is cut. -/
theorem resetAt_goes (hg : b.frameworks[k]? = some g) :
    Ends (resetAt k : BenchM τ ω κ Unit) b fun r b' => ∃ close,
      r = Effort.endingOf close ∧ Closes g close b.site b'.site ∧
      b' = { b with
        site := b'.site
        frameworks := match r with
          | .ok _ => b.frameworks.modify k Framework.reset
          | .error _ => b.frameworks } := by
  apply Ends.bind_ok (frameworkAt_ends hg)
  rintro b rfl
  apply Ends.bind (closeClient_goes g b)
  · rintro ⟨⟩ b₁ ⟨h₁, close, hclosed, closes⟩
    refine ⟨close, hclosed, closes, ?_⟩
    show ({ b₁ with frameworks := b₁.frameworks.modify k Framework.reset } : Bench τ ω κ) = _
    rw [h₁]
    rfl
  · rintro e b₁ ⟨h₁, close, hleft, closes⟩
    exact ⟨close, hleft, closes, h₁⟩

theorem clearAway_clearsAway (testFailed : Bool) (before : Except (Fault τ) Unit)
    (hg : b.frameworks[k]? = some g) :
    Ends (clearAway k testFailed before) b fun ending b' => ∃ attempts kept close,
      ClearsAway g k testFailed before attempts kept close ending b b' := by
  apply Ends.bind (deleteTracked_disposes hg)
  · rintro report b₁ ⟨h₁, attempts, kept, disposes, hreport⟩
    have hg₁ : b₁.frameworks[k]? = some g := by rw [h₁.frameworks, hg]
    apply Ends.bind (resetAt_goes hg₁)
    · rintro ⟨⟩ b₂ ⟨close, hclosed, closes, h₂⟩
      refine ⟨attempts, kept, close, .settled disposes closes hclosed.symm ?_ (hreport report rfl)⟩
      rw [h₂, h₁]
      rfl
    · rintro e b₂ ⟨close, hleft, closes, h₂⟩
      exact ⟨attempts, kept, close, .unclosed (h₁.trans h₂) disposes closes hleft.symm⟩
  · rintro e b₁ ⟨h₁, attempts, kept, disposes, _⟩
    exact ⟨attempts, kept, none, .cut h₁ disposes⟩

end Clearing

section Whole

variable [Seconds τ] [Host τ ω]

/-- What a teardown does, part by part. -/
structure Course (τ κ : Type) where
  dump : Option (Effort τ)
  acted : List (Acted τ κ)
  hooked : List (Event τ)
  attempts : List (Attempt τ)
  kept : List (Event τ)
  close : Option (Effort τ)

/-- The events of a teardown in their order, from the removal of its registration to its span. The
namespaces are those of the framework as the winding up has left it. -/
def Course.events (k : Nat) (removed : List (Event τ)) (g : Framework τ κ) (record : SpanRecord)
    (c : Course τ κ) : List (Event τ) :=
  removed ++ Effort.eventsOf c.dump ++ c.acted.flatMap Acted.events ++ c.hooked ++
    c.attempts.flatMap (Attempt.events k g.baseName (deletionLimit g)) ++ c.kept ++
    Effort.eventsOf c.close ++ [.span record]

/-- The teardown of a framework `f` goes this way, with the framework `g` once it has wound up. -/
structure InOrder (r : Runner τ ω κ) (k : Nat) (testFailed : Bool) (f g : Framework τ κ)
    (b b' : Bench τ ω κ) (ending : Except (Fault τ) (Report τ)) (c : Course τ κ) : Prop where
  events : b'.site.events = b.site.events ++ c.events k (removal b.registry f.handle) g
    ((teardownSpan f.baseName testFailed).close (teardownSpan f.baseName testFailed).attributes ending)
  winds : WindsUp r k testFailed c.dump c.acted c.hooked (woundUp r k testFailed b).1
    (withdrawn k f b) (woundUp r k testFailed b).2
  /-- Diagnostics come if the test has failed, the framework is set to log them, and it has a namespace
  and a client. -/
  dumped : c.dump.isSome = true ↔ testFailed = true ∧ f.suite.dumpLogsOnFailure = true ∧
    f.skipNamespace = false ∧ f.ns.isSome = true ∧ f.client.isSome = true
  /-- Actions run in the order in which they were deferred, also those that were deferred meanwhile. -/
  queue : c.acted.map Acted.action <+: g.queue f.cycle
  /-- No action runs behind one that has raised a fault. -/
  halts : ∀ a ∈ c.acted.dropLast, a.ending = .ok ()
  /-- If the diagnostics were not cut and no action has raised a fault, the hook runs once nothing is
  left of the queue. -/
  hooks : Effort.endingOf c.dump = .ok () → (∀ a ∈ c.acted, a.ending = .ok ()) → ∃ b₂ f₂,
    b₂.frameworks[k]? = some f₂ ∧ c.acted.map Acted.action = f₂.queue f.cycle ∧
      Hooks r k c.hooked (woundUp r k testFailed b).1 b₂ (woundUp r k testFailed b).2
  unhooked : (Effort.endingOf c.dump ≠ .ok () ∨ ∃ a ∈ c.acted, a.ending ≠ .ok ()) → c.hooked = []
  clears : ∃ b₁, ClearsAway g k testFailed (woundUp r k testFailed b).1 c.attempts c.kept c.close
    ending (woundUp r k testFailed b).2 b₁ ∧ SiteOnly b₁ b'
  asked : ∀ a ∈ c.attempts, g.Asks ω a
  /-- If neither a deletion nor the close is cut, all is attempted that is to be deleted, the client is
  closed if it is to be closed, and the framework is reset. -/
  whole : (∀ a ∈ c.attempts, a.IsCalm) → Effort.endingOf c.close = .ok () →
    c.attempts.map Attempt.name = g.doomed testFailed ∧
      (c.close.isSome = true ↔ g.ownsClient = true ∧ g.client.isSome = true) ∧
      b'.frameworks = (woundUp r k testFailed b).2.frameworks.modify k Framework.reset ∧
      ∃ report, ReportsOn c.attempts report ∧ ending = settle (woundUp r k testFailed b).1 report

/-- The events of a teardown come in one order, whatever actions and hooks do that take no action out
of a queue, however they end, and however dump, deletions and close end. It is known as long as the
teardown is ready for as many actions as its queue holds in the end. -/
theorem afterEach_inOrder {r : Runner τ ω κ} (hb : ∀ body, (r.perform (some k) body).Along Onward)
    (hf : b.frameworks[k]? = some f) (testFailed : Bool) :
    Ends (afterEach r k testFailed) b fun ending b' => ∃ g,
      (woundUp r k testFailed b).2.frameworks[k]? = some g ∧
      ((g.queue f.cycle).length < r.patience → ∃ c, InOrder r k testFailed f g b b' ending c) := by
  have hf₁ := withdrawn_found hf
  obtain ⟨honward, hwinds⟩ := windUp_windsUp hb testFailed hf₁
  rw [← woundUp_run testFailed hf] at honward hwinds
  obtain ⟨g, hg, _⟩ := honward.queues k _ hf₁
  apply afterEach_closes hf
  apply (clearAway_clearsAway testFailed _ hg).mono
  rintro ending b₁ ⟨attempts, kept, close, clears⟩ b₂ h₂
  refine ⟨g, hg, ?_⟩
  intro hfew
  obtain ⟨dump, acted, hooked, winds⟩ := hwinds g hg hfew
  obtain ⟨_, _, disposes⟩ := clears.disposes
  obtain ⟨_, dumps⟩ := winds.dumps hf₁
  have hdumped := dumps.isSome_eq ▸ dumpTarget_isSome
  have hqueue := winds.queue hb hf₁ hg
  have hhooks := winds.hooks hb hf₁
  refine ⟨⟨dump, acted, hooked, attempts, kept, close⟩, ?_, winds, hdumped, hqueue, winds.halts, hhooks,
    winds.unhooked, ⟨b₁, clears, h₂.1⟩, disposes.asks, ?_⟩
  · rw [h₂.2, clears.history, winds.history]
    simp [Course.events, withdrawn]
  · intro hcalm hclosed
    rw [h₂.frameworks]
    exact clears.whole hcalm hclosed

end Whole

/-- A short name of an event. -/
def eventTitle : Event τ → String
  | .exchange _ c _ => c.name
  | .pause _ => "pause"
  | .log entry => entry.name
  | .span ended => ended.name
  | .mark _ (.action name) => name
  | .mark _ (.hook ..) => "hook"
  | .mark _ (.caught label) => label
  | .custody .. => "custody"

/-- Bodies of which some defer one more action. -/
def deferringRunner {ω : Type} : Runner Rat ω Bool :=
  ⟨fun owner defers =>
    match owner, defers with
    | some k, true => update k (·.defer ⟨"third", false⟩)
    | _, _ => pure (), 5⟩

theorem deferringRunner_onward {ω : Type} (owner : Option Nat) (body : Bool) :
    ((deferringRunner (ω := ω)).perform owner body).Along Onward := by
  unfold deferringRunner
  rcases owner with _ | k <;> cases body
  · exact along_pure ()
  · exact along_pure ()
  · exact along_pure ()
  · have hdefer : IsUse (τ := Rat) (κ := Bool) (·.defer ⟨"third", false⟩) := .defer _
    exact (update_defers hdefer.pastActions hdefer.actions).mono fun _ _ => Defers.onward

/-- A framework that is set up with two namespaces. -/
def laden (provider : Provider κ) (actions : List (Action κ)) : Framework Rat κ :=
  { baseName := "web", options := .standard, suite := .standard, cluster := .stub,
    provider := some provider, customCreation := false, skipNamespace := false,
    skipServiceAccountWait := false, deletionTimeout := none, client := some "client",
    ownsClient := true, uniqueName := some "web-1", ns := some ⟨"web-1", [], none⟩,
    tracked := [⟨"web-1", [], none⟩, ⟨"web-2", [], none⟩], actions, pastActions := [],
    handle := some 1 }

/-- A stub on which neither the dump, nor the first deletion, nor the close goes well. The first action
of the framework defers another one, and so does its hook. -/
def crowded : Bench Rat (Scripted.World Rat) Bool :=
  let refused : Scripted.Turn Rat := ⟨some 1, 0, .raise (.plain .runtime [.text "refused"])⟩
  let world := .start 0
    [("op.dump", [refused]), ("op.delete_namespace", [refused]), ("close", [refused])] []
  { (Bench.start world : Bench Rat (Scripted.World Rat) Bool) with
    registry := (Registry.empty.add (.teardown 0)).2,
    frameworks := [laden ⟨false, true⟩ [⟨"first", true⟩, ⟨"second", false⟩]] }

theorem afterEach_inOrder_crowded :
    (Trace.of (afterEach deferringRunner 0 true) crowded).events.map eventTitle =
      ["cleanup.action_removed", "op.dump", "after_each.dump_failed", "first", "second", "third",
       "hook", "after_each.destroying_namespace", "op.delete_namespace", "e2e.delete_namespace",
       "custody", "after_each.namespace_deletion_failed", "after_each.destroying_namespace",
       "op.delete_namespace", "e2e.delete_namespace", "custody", "close",
       "after_each.client_close_failed", "e2e.after_each"] ∧
    (∀ body, ((deferringRunner : Runner Rat (Scripted.World Rat) Bool).perform (some 0) body).Along
      Onward) ∧
    ∃ f, crowded.frameworks[0]? = some f ∧
      Ends (afterEach deferringRunner 0 true) crowded fun ending b' => ∃ g,
        (woundUp deferringRunner 0 true crowded).2.frameworks[0]? = some g ∧
        (g.queue f.cycle).length < 5 ∧
        ∃ c, InOrder deferringRunner 0 true f g crowded b' ending c := by
  have hfew : ∀ g, (woundUp deferringRunner 0 true crowded).2.frameworks[0]? = some g →
      (g.queue 0).length < 5 := by
    have hall : ((woundUp deferringRunner 0 true crowded).2.frameworks[0]?.map
        fun g => (g.queue 0).length) = some 4 := by decide +kernel
    intro g hg
    rw [hg, Option.map_some, Option.some_inj] at hall
    rw [hall]
    decide
  refine ⟨by decide +kernel, deferringRunner_onward _, _, rfl, ?_⟩
  apply (afterEach_inOrder (b := crowded) (deferringRunner_onward _) rfl true).mono
  rintro ending b' ⟨g, hg, hcourse⟩
  exact ⟨g, hg, hfew g hg, hcourse (hfew g hg)⟩

end Framework

end Testbed
