import Testbed.Proofs.Parts

/-!
# Routines of a framework

The stages of setup and teardown read the framework that they are for, but not all of it: neither
its unique name, nor its handle, nor the queues that earlier resets have put away. A `Routine` is a
procedure of which this is plain from how it is put together. Each stage is shown once to be a
routine, and what holds of all routines holds of it.

Notices are the events that the stages do not leave by themselves: spans, and the entries in the
log that tell of deletions.
-/

set_option autoImplicit false

namespace Testbed

open Proc Bench

variable {τ ω κ α : Type}

/-- The entries in the log that tell of the deletion of a namespace. -/
def noticeNames : List String :=
  ["after_each.destroying_namespace", "after_each.namespace_already_deleted",
   "after_each.namespace_deletion_failed"]

/-- Whether an event is a span, or tells of the deletion of a namespace. -/
def Event.isNotice : Event τ → Bool
  | .span _ => true
  | .log entry => noticeNames.contains entry.name
  | _ => false

namespace Framework

/-- What is made of a framework does not depend on its unique name, the queues that it has put away,
and its handle. -/
def IsBlind {β : Type} (rest : Framework τ κ → β) : Prop :=
  ∀ f uniqueName pastActions handle, rest { f with uniqueName, pastActions, handle } = rest f

/-- The frameworks differ in unique name and handle only, and in queues that the first one had put
away before the second one was made. -/
structure Akin (past : List (List (Action κ))) (f g : Framework τ κ) : Prop where
  settings : g.toSettings = f.toSettings
  client : g.client = f.client
  ownsClient : g.ownsClient = f.ownsClient
  ns : g.ns = f.ns
  tracked : g.tracked = f.tracked
  actions : g.actions = f.actions
  pastActions : f.pastActions = g.pastActions ++ past

/-- What does not depend on what akin frameworks differ in is the same for both. -/
theorem Akin.eq_of_blind {β : Type} {past : List (List (Action κ))} {f g : Framework τ κ}
    (h : Akin past f g) {rest : Framework τ κ → β} (hrest : IsBlind rest) : rest g = rest f := by
  have hg : g = { f with
      uniqueName := g.uniqueName, pastActions := g.pastActions, handle := g.handle } := by
    rw [← h.settings, ← h.client, ← h.ownsClient, ← h.ns, ← h.tracked, ← h.actions]
  rw [hg]
  exact hrest f _ _ _

/-- A change of a framework that leaves its settings and its handle, and does the same to akin
frameworks. -/
structure IsPlain (g : Framework τ κ → Framework τ κ) : Prop where
  settings : ∀ f, (g f).toSettings = f.toSettings := by exact fun _ => rfl
  handle : ∀ f, (g f).handle = f.handle := by exact fun _ => rfl
  akin : ∀ {past : List (List (Action κ))} {f f' : Framework τ κ}, Akin past f f' →
    Akin past (g f) (g f')

theorem isPlain_connected (client : String) : IsPlain fun f : Framework τ κ =>
    { f with client := some client, ownsClient := true } where
  akin h := ⟨h.settings, rfl, rfl, h.ns, h.tracked, h.actions, h.pastActions⟩

theorem isPlain_named (name : String) : IsPlain fun f : Framework τ κ =>
    { f with uniqueName := some name } where
  akin h := ⟨h.settings, h.client, h.ownsClient, h.ns, h.tracked, h.actions, h.pastActions⟩

theorem isPlain_housed (ns : Option Namespace.Record) : IsPlain fun f : Framework τ κ =>
    { f with ns } where
  akin h := ⟨h.settings, h.client, h.ownsClient, rfl, h.tracked, h.actions, h.pastActions⟩

theorem isPlain_track (record : Option Namespace.Record) :
    IsPlain fun f : Framework τ κ => f.track record where
  akin h := by
    have htracked := congrArg (· ++ record.toList) h.tracked
    exact ⟨h.settings, h.client, h.ownsClient, h.ns, htracked, h.actions, h.pastActions⟩

/-- Two plain changes, one after the other. -/
theorem IsPlain.comp {g g' : Framework τ κ → Framework τ κ} (hg : IsPlain g) (hg' : IsPlain g') :
    IsPlain fun f => g' (g f) where
  settings f := by rw [hg'.settings, hg.settings]
  handle f := by rw [hg'.handle, hg.handle]
  akin h := hg'.akin (hg.akin h)

theorem isPlain_trackAll (records : List (Option Namespace.Record)) :
    IsPlain fun f : Framework τ κ => records.foldl Framework.track f := by
  induction records with
  | nil => exact ⟨fun _ => rfl, fun _ => rfl, id⟩
  | cons record rest ih => exact (isPlain_track record).comp ih

theorem isPlain_defer (a : Action κ) : IsPlain fun f : Framework τ κ => f.defer a where
  akin h := by
    have hactions := congrArg (· ++ [a]) h.actions
    exact ⟨h.settings, h.client, h.ownsClient, h.ns, h.tracked, hactions, h.pastActions⟩

theorem isPlain_reset : IsPlain (Framework.reset : Framework τ κ → Framework τ κ) where
  akin h := by
    refine ⟨h.settings, rfl, rfl, rfl, rfl, rfl, ?_⟩
    rw [reset, reset, h.actions, h.pastActions, List.cons_append]

section

variable [Host τ ω]

/-- A procedure that reads the framework with number `k` blindly and changes it plainly. Besides, it
works at the site, runs bodies on behalf of the framework, and registers its teardown or takes it
back. Of events that it records by itself, it leaves only such as are allowed. -/
inductive Routine (allowed : Event τ → Prop) (r : Runner τ ω κ) (k : Nat) :
    {α : Type} → BenchM τ ω κ α → Prop
  | pure {α : Type} (a : α) : Routine allowed r k (Pure.pure a)
  | fail {α : Type} (e : Fault τ) : Routine allowed r k (Proc.fail e : BenchM τ ω κ α)
  | bind {α β : Type} {x : BenchM τ ω κ α} {f : α → BenchM τ ω κ β} (hx : Routine allowed r k x)
      (hf : ∀ a, Routine allowed r k (f a)) : Routine allowed r k (x >>= f)
  | attempt {α : Type} {x : BenchM τ ω κ α} (hx : Routine allowed r k x) :
      Routine allowed r k x.attempt
  | rescue {α : Type} {x : BenchM τ ω κ α} {handler : Fault τ → BenchM τ ω κ α}
      (hx : Routine allowed r k x) (hh : ∀ e, Routine allowed r k (handler e)) :
      Routine allowed r k (x.rescue handler)
  | work {α : Type} {x : SiteM τ ω α}
      (h : MadeOf (Site.Work fun _ => True) (fun _ => True) x) : Routine allowed r k (onSite x)
  | randomBits : Routine allowed r k (onSite Site.randomBits)
  | mark (m : Mark) : Routine allowed r k (onSite (Site.mark m))
  | record {e : Event τ} (h : allowed e) : Routine allowed r k (onSite (Site.record e))
  | read {α : Type} {rest : Framework τ κ → BenchM τ ω κ α} (hblind : IsBlind rest)
      (hrest : ∀ f, Routine allowed r k (rest f)) : Routine allowed r k (frameworkAt k >>= rest)
  | update {g : Framework τ κ → Framework τ κ} (h : IsPlain g) : Routine allowed r k (update k g)
  | body (body : κ) : Routine allowed r k (r.perform (some k) body)
  | walk : Routine allowed r k (frameworkAt k >>= fun f => walk r k f.cycle r.patience 0)
  | enroll : Routine allowed r k (enroll k)
  | withdraw : Routine allowed r k (withdraw k)

end

section Routine

variable [Host τ ω] {allowed : Event τ → Prop} {r : Runner τ ω κ} {k : Nat}

theorem Routine.map {β : Type} {x : BenchM τ ω κ α} (g : α → β) (hx : Routine allowed r k x) :
    Routine allowed r k (g <$> x) := by
  rw [map_eq_pure_bind]
  exact hx.bind fun a => .pure (g a)

theorem Routine.ite {c : Prop} [Decidable c] {x y : BenchM τ ω κ α}
    (hx : c → Routine allowed r k x) (hy : ¬c → Routine allowed r k y) :
    Routine allowed r k (if c then x else y) := by
  split
  · exact hx ‹_›
  · exact hy ‹_›

theorem routine_conclude (ending : Except (Fault τ) α) :
    Routine allowed r k (Proc.conclude ending : BenchM τ ω κ α) := by
  cases ending with
  | ok a => exact .pure a
  | error e => exact .fail e

theorem routine_clientOf (f : Framework τ κ) : Routine allowed r k (clientOf f) := by
  unfold clientOf
  split
  · exact .pure _
  · exact .fail _

theorem routine_present (ns : Option Namespace.Record) : Routine allowed r k (present ns) := by
  unfold present
  split
  · exact .pure _
  · exact .fail _

theorem routine_hook (stage : HookStage) : Routine allowed r k (hook r k stage) := by
  apply Routine.read
  · exact fun _ _ _ _ => rfl
  · intro f
    split
    · exact .pure _
    · exact (Routine.mark _).bind fun _ => .body _

variable [Seconds τ]

theorem routine_inStage (baseName stage : String) {x : BenchM τ ω κ α}
    (hx : Routine allowed r k x) : Routine allowed r k (inStage baseName stage x) := by
  apply hx.rescue
  intro e
  apply Routine.ite
  · intro _
    exact .fail _
  · intro _
    exact .fail _

theorem routine_work_deletion (c : Cluster τ) (name client : String) (timeout : τ) :
    Routine allowed r k (onSite (c.deleteNamespace name client timeout)) :=
  .work (Cluster.madeOf_deleteNamespace (fun _ _ => trivial) c name client timeout
    fun _ _ _ => trivial)

section Quiet

variable (hquiet : ∀ e : Event τ, e.isNotice = false → allowed e)

include hquiet

omit [Seconds τ] in
theorem routine_note (f : Framework τ κ) (level : Level) {name : String}
    (fields : List (String × Detail τ)) (h : noticeNames.contains name = false) :
    Routine allowed r k (note f level name fields) :=
  .record (hquiet _ h)

theorem routine_connect (component : Option String) :
    Routine allowed r k (connect k component) := by
  apply Routine.read
  · exact fun _ _ _ _ => rfl
  · intro f
    apply Routine.ite
    · intro _
      exact .pure _
    · intro _
      have hconnect : MadeOf (Site.Work fun _ => True) (fun _ => True)
          (Cluster.connect f.options component : SiteM τ ω String) :=
        Site.Work.ofTalk ((Site.talk_call trivial).bind fun _ => Site.talk_call trivial)
      apply (routine_note hquiet f .info _ (by simp [noticeNames])).bind
      intro _
      apply (routine_inStage _ _ (.work hconnect)).bind
      intro client
      exact .update (isPlain_connected client)

omit [Seconds τ] in
theorem routine_nameOnly : Routine allowed r k (nameOnly k) := by
  apply Routine.read
  · exact fun _ _ _ _ => rfl
  · intro f
    apply Routine.randomBits.bind
    intro bits
    apply (Routine.update (isPlain_named _)).bind
    intro _
    exact routine_note hquiet f .info _ (by simp [noticeNames])

omit [Seconds τ] in
theorem routine_takeCustody (records : List Namespace.Record) :
    Routine allowed r k (takeCustody k records) :=
  .record (hquiet _ rfl)

omit hquiet in
theorem routine_provide (f : Framework τ κ) (baseName : String) (labels : Labels) :
    Routine allowed r k (provide f baseName labels) := by
  apply (routine_clientOf f).bind
  intro client
  apply Routine.ite
  · intro _
    exact .work (Site.Work.ofTalk (Site.talk_call trivial))
  · intro _
    apply Routine.map
    exact .work (Cluster.madeOf_createNamespace (fun _ _ => trivial) _ _ client _
      fun _ _ _ => trivial)

/-- Creating a namespace of the framework is a routine. -/
theorem routine_createNamespace (baseName : String) (labels : Labels) :
    Routine allowed r k (createNamespace k baseName labels) := by
  apply Routine.read
  · exact fun _ _ _ _ => rfl
  · intro f
    apply (routine_provide f baseName labels).attempt.bind
    intro made
    apply (routine_takeCustody hquiet _).bind
    intro _
    cases made with
    | ok record => exact (Routine.update (isPlain_track record)).bind fun _ => .pure record
    | error e => exact (Routine.update (isPlain_track (leftoverOf e))).bind fun _ => .fail e

omit [Seconds τ] in
/-- Tracking namespaces from outside is a routine. -/
theorem routine_trackEach (records : List (Option Namespace.Record)) :
    Routine allowed r k (trackEach k records) := by
  apply Routine.read
  · exact fun _ _ _ _ => rfl
  · intro _
    apply (routine_takeCustody hquiet _).bind
    intro _
    exact .update (isPlain_trackAll records)

theorem routine_awaitServiceAccount (ns : Option Namespace.Record) :
    Routine allowed r k (awaitServiceAccount k ns) := by
  apply Routine.read
  · exact fun _ _ _ _ => rfl
  · intro f
    apply Routine.ite
    · intro _
      apply (routine_present ns).bind
      intro record
      apply (routine_note hquiet f .info _ (by simp [noticeNames])).bind
      intro _
      apply routine_inStage
      apply (routine_clientOf f).bind
      intro client
      exact .work (Cluster.madeOf_awaitServiceAccount (fun _ _ => trivial) client
        (fun _ _ _ => trivial) _ _)
    · intro _
      exact routine_note hquiet f .info _ (by simp [noticeNames])

theorem routine_createOwn : Routine allowed r k (createOwn k) := by
  apply Routine.read
  · exact fun _ _ _ _ => rfl
  · intro f
    apply (routine_note hquiet f .info _ (by simp [noticeNames])).bind
    intro _
    apply (routine_inStage _ _ (routine_createNamespace hquiet _ _)).bind
    intro ns
    apply (Routine.update (isPlain_housed ns)).bind
    intro _
    apply (routine_awaitServiceAccount hquiet ns).bind
    intro _
    apply (routine_present ns).bind
    intro record
    apply (Routine.update (isPlain_named _)).bind
    intro _
    exact routine_note hquiet f .info _ (by simp [noticeNames])

/-- The stages of a setup are a routine. -/
theorem routine_prepare (component : Option String) :
    Routine allowed r k (prepare r k component) := by
  apply (routine_connect hquiet component).bind
  intro _
  apply (routine_hook .before).bind
  intro _
  apply Routine.read
  · exact fun _ _ _ _ => rfl
  · intro f
    apply Routine.ite
    · intro _
      exact routine_nameOnly hquiet
    · intro _
      exact routine_createOwn hquiet

omit [Seconds τ] in
theorem routine_dumpFailed (testFailed : Bool) : Routine allowed r k (dumpFailed k testFailed) := by
  apply Routine.read
  · exact fun _ _ _ _ => rfl
  · intro f
    apply Routine.ite
    · intro _
      unfold dumpOwn
      split
      · rename_i record client _ _
        apply Routine.rescue (.work (Cluster.madeOf_dump (fun _ _ => trivial) client
          (fun _ _ _ => trivial) _ _))
        intro e
        apply Routine.ite
        · intro _
          exact routine_note hquiet f .error _ (by simp [noticeNames])
        · intro _
          exact .fail e
      · exact .pure _
    · intro _
      exact .pure _

omit [Seconds τ] in
/-- Winding up is a routine. -/
theorem routine_windUp (testFailed : Bool) : Routine allowed r k (windUp r k testFailed) := by
  have hwalks : windUp r k testFailed = dumpFailed k testFailed >>= fun _ =>
      (frameworkAt k >>= fun f => walk r k f.cycle r.patience 0) >>= fun _ => hook r k .after := by
    simp only [bind_assoc]
    rfl
  rw [hwalks]
  apply (routine_dumpFailed hquiet testFailed).bind
  intro _
  exact Routine.walk.bind fun _ => routine_hook .after

theorem routine_closeClient (f : Framework τ κ) : Routine allowed r k (closeClient f) := by
  unfold closeClient
  split
  · apply Routine.rescue (.work (Site.Work.ofTalk (Site.talk_call trivial)))
    intro e
    apply Routine.ite
    · intro _
      exact routine_note hquiet f .warning _ (by simp [noticeNames])
    · intro _
      exact .fail e
  · exact .pure _

theorem routine_resetAt : Routine allowed r k (resetAt k) := by
  apply Routine.read
  · exact fun _ _ _ _ => rfl
  · intro f
    apply (routine_closeClient hquiet f).bind
    intro _
    exact .update isPlain_reset

end Quiet

section All

variable (hall : ∀ e : Event τ, allowed e)

include hall

theorem routine_enclose (s : Span) {x : BenchM τ ω κ α} (hx : Routine allowed r k x) :
    Routine allowed r k (enclose s x) := by
  apply hx.attempt.bind
  intro ending
  exact (Routine.record (hall _)).bind fun _ => routine_conclude ending

/-- A setup is a routine. -/
theorem routine_beforeEach (component : Option String) :
    Routine allowed r k (beforeEach r k component) := by
  apply Routine.enroll.bind
  intro _
  apply Routine.read
  · exact fun _ _ _ _ => rfl
  · intro f
    exact routine_enclose hall _ (routine_prepare (fun e _ => hall e) component)

theorem routine_deleteOne (name : String) (timeout : τ) :
    Routine allowed r k (deleteOne k name timeout) := by
  apply routine_enclose hall
  apply Routine.read
  · exact fun _ _ _ _ => rfl
  · intro f
    apply (routine_clientOf f).bind
    intro client
    exact routine_work_deletion f.cluster name client timeout

theorem routine_deleteEach (timeout : τ) (names : List String) (report : Report τ) :
    Routine allowed r k (deleteEach k timeout report names) := by
  induction names generalizing report with
  | nil => exact .pure report
  | cons name rest ih =>
    apply Routine.read
    · exact fun _ _ _ _ => rfl
    · intro f
      apply (Routine.record (hall _)).bind
      intro _
      apply (routine_deleteOne hall name timeout).attempt.bind
      intro one
      apply (Routine.record (hall _)).bind
      intro _
      cases one with
      | ok _ => exact ih _
      | error e =>
        apply Routine.ite
        · intro _
          have hnoted : Routine allowed r k (noteDeletion f name (.error e)) := by
            unfold noteDeletion
            split
            · exact .pure _
            · exact .record (hall _)
            · exact .record (hall _)
          exact hnoted.bind fun _ => ih _
        · intro _
          exact .fail e

theorem routine_deleteTracked (testFailed : Bool) :
    Routine allowed r k (deleteTracked k testFailed) := by
  apply Routine.read
  · exact fun _ _ _ _ => rfl
  · intro f
    apply Routine.ite
    · intro _
      exact routine_deleteEach hall _ _ _
    · intro _
      apply (Routine.record (hall _)).bind
      intro _
      exact (Routine.record (hall _)).bind fun _ => .pure _

/-- A teardown is a routine. -/
theorem routine_afterEach (testFailed : Bool) : Routine allowed r k (afterEach r k testFailed) := by
  apply Routine.withdraw.bind
  intro _
  apply Routine.read
  · exact fun _ _ _ _ => rfl
  · intro f
    apply routine_enclose hall
    apply (routine_windUp (fun e _ => hall e) testFailed).attempt.bind
    intro before
    apply (routine_deleteTracked hall testFailed).bind
    intro report
    apply (routine_resetAt fun e _ => hall e).bind
    intro _
    exact routine_conclude _

end All

end Routine

end Framework

end Testbed
