import Testbed.Framework.Lifecycle
import Testbed.Proofs.History

/-!
# What the operations of frameworks are made of

Setting up and tearing down are put together from a few steps that change the bench, from work at
the site, and from bodies that belong to the user. The sorts of steps below say which ones each
part of an operation takes, and each part is shown once to be made of them.
-/

set_option autoImplicit false

namespace Testbed

open Proc

variable {τ ω κ α : Type}

namespace Framework

open Bench

/-- A change of a framework that touches neither its settings, nor its tracked namespaces, actions
and handle. -/
structure IsPrivate (g : Framework τ κ → Framework τ κ) : Prop where
  settings : ∀ f, (g f).toSettings = f.toSettings := by exact fun _ => rfl
  tracked : ∀ f, (g f).tracked = f.tracked := by exact fun _ => rfl
  actions : ∀ f, (g f).actions = f.actions := by exact fun _ => rfl
  pastActions : ∀ f, (g f).pastActions = f.pastActions := by exact fun _ => rfl
  handle : ∀ f, (g f).handle = f.handle := by exact fun _ => rfl

/-- A private change that leaves the client of the framework as well. -/
structure IsAside (g : Framework τ κ → Framework τ κ) : Prop extends IsPrivate g where
  client : ∀ f, (g f).client = f.client := by exact fun _ => rfl
  ownsClient : ∀ f, (g f).ownsClient = f.ownsClient := by exact fun _ => rfl

section Sorts

variable [Host τ ω] (kind : Fault τ → Prop)

/-- Work at the site that makes such calls, and looks at frameworks. -/
inductive SiteStep (calls : Call τ → Prop) : (α : Type) → BenchM τ ω κ α → Prop
  | work {α : Type} {x : SiteM τ ω α} (h : MadeOf (Site.Step calls) kind x) :
      SiteStep calls α (onSite x)
  | look (j : Nat) : SiteStep calls (Framework τ κ) (frameworkAt j)

/-- The procedure looks a framework up, and then works at the site with such calls only as are
made through the client of that framework. -/
def IsServed (k : Nat) (calls : Call τ → Prop) (x : BenchM τ ω κ α) : Prop :=
  ∃ rest : Framework τ κ → BenchM τ ω κ α, x = frameworkAt k >>= rest ∧
    ∀ f, MadeOf (SiteStep kind fun c => calls c ∧ ∃ client, f.client = some client ∧
      c.GoesThrough client) kind (rest f)

/-- The steps in which a framework gets its client. -/
inductive ConnectStep (k : Nat) : (α : Type) → BenchM τ ω κ α → Prop
  | site {α : Type} {x : BenchM τ ω κ α} (h : SiteStep kind Call.IsNeutral α x) : ConnectStep k α x
  | keep (client : String) :
      ConnectStep k Unit (update k fun f => { f with client := some client, ownsClient := true })

variable [Seconds τ]

/-- The steps of the library's own stages, other than the creation and the deletion of
namespaces. -/
inductive StageStep (k : Nat) : (α : Type) → BenchM τ ω κ α → Prop
  | talk {α : Type} {x : BenchM τ ω κ α} (h : SiteStep kind (fun _ => False) α x) :
      StageStep k α x
  | adjust {g : Framework τ κ → Framework τ κ} (h : IsAside g) : StageStep k Unit (update k g)
  | serve {α : Type} {x : BenchM τ ω κ α} (h : IsServed kind k Call.IsNeutral x) : StageStep k α x
  | connect (component : Option String) : StageStep k Unit (connect k component)

/-- The steps that setup and teardown of a framework share. -/
inductive PartStep (r : Runner τ ω κ) (k : Nat) : (α : Type) → BenchM τ ω κ α → Prop
  | stage {α : Type} {x : BenchM τ ω κ α} (h : StageStep kind k α x) : PartStep r k α x
  | hook (stage : HookStage) (baseName : String) :
      PartStep r k Unit (onSite (Site.mark (.hook stage baseName)))
  | body (body : κ) : PartStep r k Unit (r.perform (some k) body)

/-- The steps of a setup, once its teardown is registered. -/
inductive SetupStep (r : Runner τ ω κ) (k : Nat) : (α : Type) → BenchM τ ω κ α → Prop
  | part {α : Type} {x : BenchM τ ω κ α} (h : PartStep kind r k α x) : SetupStep r k α x
  | create (baseName : String) (labels : Labels) :
      SetupStep r k (Option Namespace.Record) (createNamespace k baseName labels)

/-- The steps of a teardown before the deletion. -/
inductive WindStep (r : Runner τ ω κ) (k : Nat) : (α : Type) → BenchM τ ω κ α → Prop
  | part {α : Type} {x : BenchM τ ω κ α} (h : PartStep kind r k α x) : WindStep r k α x
  | start (name : String) : WindStep r k Unit (onSite (Site.mark (.action name)))

/-- The steps of a teardown. -/
inductive TeardownStep (r : Runner τ ω κ) (k : Nat) (testFailed : Bool) :
    (α : Type) → BenchM τ ω κ α → Prop
  | wind {α : Type} {x : BenchM τ ω κ α} (h : WindStep kind r k α x) :
      TeardownStep r k testFailed α x
  | withdraw : TeardownStep r k testFailed Unit (withdraw k)
  | clear {before : Except (Fault τ) Unit} (h : ∀ e, before = .error e → kind e) :
      TeardownStep r k testFailed (Report τ) (clearAway k testFailed before)

/-- The steps with which a teardown deletes namespaces. -/
inductive DeleteStep (k : Nat) : (α : Type) → BenchM τ ω κ α → Prop
  | talk {α : Type} {x : BenchM τ ω κ α} (h : SiteStep kind (fun _ => False) α x) :
      DeleteStep k α x
  | serve {α : Type} {x : BenchM τ ω κ α} (h : IsServed kind k (fun c => c.isBestEffort = false) x) :
      DeleteStep k α x
  | custody (change : Custody τ) : DeleteStep k Unit (onSite (Site.record (.custody k change)))

/-- The steps with which a teardown deletes namespaces and resets the framework. -/
inductive ClearStep (k : Nat) : (α : Type) → BenchM τ ω κ α → Prop
  | delete {α : Type} {x : BenchM τ ω κ α} (h : DeleteStep kind k α x) : ClearStep k α x
  | reset : ClearStep k Unit (resetAt k)

/-- The steps of the creation of a namespace. -/
inductive CreateStep (k : Nat) : (α : Type) → BenchM τ ω κ α → Prop
  | site {α : Type} {x : BenchM τ ω κ α} (h : SiteStep kind (fun c => c.isDeletion = false) α x) :
      CreateStep k α x
  | take (records : List Namespace.Record) : CreateStep k Unit (takeCustody k records)
  | track (record : Option Namespace.Record) : CreateStep k Unit (update k (·.track record))

end Sorts

section

variable {Step : (α : Type) → BenchM τ ω κ α → Prop} {kind : Fault τ → Prop}

/-- Running a procedure inside a span takes the steps of the procedure and records the span. -/
theorem madeOf_enclose [Seconds τ] (hspan : ∀ ended, MadeOf Step kind
      (onSite (Site.record (.span ended)) : BenchM τ ω κ Unit))
    (s : Span) {x : BenchM τ ω κ α} (hx : MadeOf Step kind x) :
    MadeOf Step kind (enclose s x) := by
  apply MadeOf.handle hx
  intro r hr
  exact (hspan _).bind fun _ => madeOf_conclude hr

variable (hkind : ∀ e : Fault τ, e.isOrdinary = true → kind e)

include hkind

theorem madeOf_inStage [Seconds τ] (baseName stage : String) {x : BenchM τ ω κ α}
    (hx : MadeOf Step kind x) : MadeOf Step kind (inStage baseName stage x) := by
  apply hx.rescue
  intro e he
  apply madeOf_ite
  · intro _
    exact .fail (hkind _ rfl)
  · intro _
    exact .fail he

theorem madeOf_present (ns : Option Namespace.Record) :
    MadeOf Step kind (present ns : BenchM τ ω κ Namespace.Record) := by
  unfold present
  split
  · exact .pure _
  · exact .fail (hkind _ rfl)

end

variable [Host τ ω] {kind : Fault τ → Prop} {r : Runner τ ω κ} {k : Nat}

section Site

variable {calls : Call τ → Prop}

theorem SiteStep.mono {calls' : Call τ → Prop} (hc : ∀ c, calls c → calls' c)
    {x : BenchM τ ω κ α} (h : SiteStep kind calls α x) : SiteStep kind calls' α x := by
  cases h with
  | work h => exact .work (h.refine fun h => .step (h.mono hc))
  | look j => exact .look j

theorem madeOf_frameworkAt (j : Nat) :
    MadeOf (SiteStep kind calls) kind (frameworkAt j : BenchM τ ω κ (Framework τ κ)) :=
  .step (.look j)

theorem madeOf_onSite {x : SiteM τ ω α} (h : MadeOf (Site.Step calls) kind x) :
    MadeOf (SiteStep kind calls) kind (onSite x : BenchM τ ω κ α) :=
  .step (.work h)

theorem madeOf_note (f : Framework τ κ) (level : Level) (name : String)
    (fields : List (String × Detail τ)) :
    MadeOf (SiteStep kind calls) kind (note f level name fields : BenchM τ ω κ Unit) :=
  madeOf_onSite (Site.madeOf_log _ _ _)

theorem madeOf_recordSpan (ended : SpanRecord) :
    MadeOf (SiteStep kind calls) kind
      (onSite (Site.record (.span ended)) : BenchM τ ω κ Unit) :=
  madeOf_onSite (.step (.record trivial rfl))

/-- What is served by the client is work at the site. -/
theorem IsServed.madeOf {x : BenchM τ ω κ α} (h : IsServed kind k calls x) :
    MadeOf (SiteStep kind calls) kind x := by
  obtain ⟨rest, rfl, hrest⟩ := h
  apply MadeOf.bind (madeOf_frameworkAt k)
  intro f
  exact (hrest f).refine fun h => .step (h.mono fun _ hc => hc.1)

theorem IsServed.mono {calls' : Call τ → Prop} (hc : ∀ c, calls c → calls' c)
    {x : BenchM τ ω κ α} (h : IsServed kind k calls x) : IsServed kind k calls' x := by
  obtain ⟨rest, rfl, hrest⟩ := h
  refine ⟨rest, rfl, ?_⟩
  intro f
  exact (hrest f).refine fun h => .step (h.mono fun c hcall => ⟨hc c hcall.1, hcall.2⟩)

end Site

section Served

variable [Seconds τ] (hkind : ∀ e : Fault τ, e.isOrdinary = true → kind e)

include hkind

omit [Seconds τ] in
/-- Work that asks for the client of a framework, and then makes calls through it. -/
theorem madeOf_withClient {f : Framework τ κ} {calls : Call τ → Prop} {x : String → BenchM τ ω κ α}
    (hx : ∀ client, MadeOf (SiteStep kind fun c => calls c ∧ c.GoesThrough client) kind
      (x client)) :
    MadeOf (SiteStep kind fun c => calls c ∧ ∃ client, f.client = some client ∧
      c.GoesThrough client) kind (clientOf f >>= x) := by
  unfold clientOf
  cases hclient : f.client with
  | none => exact .fail (hkind _ rfl)
  | some client =>
    show MadeOf _ _ (pure client >>= x)
    rw [pure_bind]
    exact (hx client).refine fun h => .step (h.mono fun c hc => ⟨hc.1, client, rfl, hc.2⟩)

theorem isServed_awaitServiceAccount (ns : Option Namespace.Record) :
    IsServed kind k Call.IsNeutral (awaitServiceAccount k ns : BenchM τ ω κ Unit) := by
  refine ⟨_, rfl, ?_⟩
  intro f
  apply madeOf_ite
  · intro _
    apply MadeOf.bind (madeOf_present hkind ns)
    intro record
    apply MadeOf.bind (madeOf_note _ _ _ _)
    intro _
    apply madeOf_inStage hkind
    exact madeOf_withClient hkind fun client => madeOf_onSite (Site.Step.ofWork
      (Cluster.madeOf_awaitServiceAccount hkind client (fun _ => And.intro) _ _))
  · intro _
    exact madeOf_note _ _ _ _

omit [Seconds τ] in
theorem isServed_dumpFailed (testFailed : Bool) :
    IsServed kind k Call.IsNeutral (dumpFailed k testFailed : BenchM τ ω κ Unit) := by
  refine ⟨_, rfl, ?_⟩
  intro f
  apply madeOf_ite
  · intro _
    unfold dumpOwn
    split
    · rename_i record client _ hclient
      have hserved : MadeOf (SiteStep kind fun c => c.IsNeutral ∧ ∃ client,
          f.client = some client ∧ c.GoesThrough client) kind
          (onSite (f.cluster.dump record.name client) : BenchM τ ω κ Unit) :=
        madeOf_onSite (Site.Step.ofWork (Cluster.madeOf_dump hkind client
          (fun c hneutral hthrough => ⟨hneutral, client, hclient, hthrough⟩) _ _))
      apply hserved.rescue
      intro e he
      apply madeOf_ite
      · intro _
        exact madeOf_note _ _ _ _
      · intro _
        exact .fail he
    · exact .pure _
  · intro _
    exact .pure _

theorem isServed_awaitPod (pod : String) (timeout : τ) :
    IsServed kind k Call.IsNeutral (awaitPod k pod timeout : BenchM τ ω κ Unit) := by
  refine ⟨_, rfl, ?_⟩
  intro f
  split
  · exact .fail (hkind _ rfl)
  · exact madeOf_withClient hkind fun client => madeOf_onSite (Site.Step.ofWork
      (Cluster.madeOf_awaitPod hkind client (fun _ => And.intro) _ _ _ _))

/-- The deletion of one namespace, without its span. -/
theorem isServed_delete (name : String) (timeout : τ) :
    IsServed kind k (fun c => c.isBestEffort = false) (do
      let f ← frameworkAt k
      let client ← clientOf f
      onSite (f.cluster.deleteNamespace name client timeout) : BenchM τ ω κ Unit) := by
  refine ⟨_, rfl, ?_⟩
  intro f
  apply madeOf_withClient hkind
  intro client
  exact madeOf_onSite (Site.Step.ofWork
    (Cluster.madeOf_deleteNamespace hkind _ _ client _ fun _ => And.intro))

/-- The way of a framework to create a namespace goes through its client. -/
theorem madeOf_provide (f : Framework τ κ) (baseName : String) (labels : Labels) :
    MadeOf (SiteStep kind fun c => c.isDeletion = false ∧ ∃ client, f.client = some client ∧
      c.GoesThrough client) kind
      (provide f baseName labels : BenchM τ ω κ (Option Namespace.Record)) := by
  apply madeOf_withClient hkind
  intro client
  apply madeOf_ite
  · intro _
    exact madeOf_onSite (Site.madeOf_call ⟨rfl, rfl⟩)
  · intro _
    apply MadeOf.map
    exact madeOf_onSite (Site.Step.ofWork
      (Cluster.madeOf_createNamespace hkind _ _ client _ fun _ => And.intro))

theorem madeOf_createNamespace (baseName : String) (labels : Labels) :
    MadeOf (CreateStep kind k) kind
      (createNamespace k baseName labels : BenchM τ ω κ (Option Namespace.Record)) := by
  apply MadeOf.bind (.step (.site (.look k)))
  intro f
  apply MadeOf.handle ((madeOf_provide hkind f baseName labels).refine fun h =>
    .step (.site (h.mono fun _ hc => hc.1)))
  intro r hr
  apply MadeOf.bind (.step (.take _))
  intro _
  cases r with
  | ok record => exact MadeOf.bind (.step (.track _)) fun _ => .pure record
  | error e => exact MadeOf.bind (.step (.track _)) fun _ => .fail (hr e rfl)

theorem madeOf_connect (component : Option String) :
    MadeOf (ConnectStep kind k) kind (connect k component : BenchM τ ω κ Unit) := by
  have site {α : Type} {x : BenchM τ ω κ α} (hx : MadeOf (SiteStep kind Call.IsNeutral) kind x) :
      MadeOf (ConnectStep kind k) kind x := hx.refine fun h => .step (.site h)
  apply MadeOf.bind (site (madeOf_frameworkAt k))
  intro f
  apply madeOf_ite
  · intro _
    exact .pure _
  · intro _
    have hconnect : MadeOf (Site.Step Call.IsNeutral) kind
        (Cluster.connect f.options component : SiteM τ ω String) :=
      (Site.madeOf_call trivial).bind fun _ => Site.madeOf_call trivial
    apply MadeOf.bind (site (madeOf_note _ _ _ _))
    intro _
    apply MadeOf.bind (madeOf_inStage hkind _ _ (site (madeOf_onSite hconnect)))
    intro client
    exact .step (.keep client)

end Served

section Setup

variable [Seconds τ] (hkind : ∀ e : Fault τ, e.isOrdinary = true → kind e)

theorem madeOf_talk {x : BenchM τ ω κ α} (hx : MadeOf (SiteStep kind fun _ => False) kind x) :
    MadeOf (StageStep kind k) kind x :=
  hx.refine fun h => .step (.talk h)

theorem madeOf_adjust {g : Framework τ κ → Framework τ κ} (h : IsAside g) :
    MadeOf (StageStep kind k) kind (update k g : BenchM τ ω κ Unit) :=
  .step (.adjust h)

/-- What is made of steps of a stage is part of an operation. -/
theorem PartStep.ofStage {x : BenchM τ ω κ α} (hx : MadeOf (StageStep kind k) kind x) :
    MadeOf (PartStep kind r k) kind x :=
  hx.refine fun h => .step (.stage h)

/-- What is part of an operation is part of a setup. -/
theorem SetupStep.ofPart {x : BenchM τ ω κ α} (hx : MadeOf (PartStep kind r k) kind x) :
    MadeOf (SetupStep kind r k) kind x :=
  hx.refine fun h => .step (.part h)

theorem SetupStep.ofTalk {x : BenchM τ ω κ α}
    (hx : MadeOf (SiteStep kind fun _ => False) kind x) : MadeOf (SetupStep kind r k) kind x :=
  SetupStep.ofPart (PartStep.ofStage (madeOf_talk hx))

theorem madeOf_hook (stage : HookStage) : MadeOf (PartStep kind r k) kind (hook r k stage) := by
  apply MadeOf.bind (PartStep.ofStage (madeOf_talk (madeOf_frameworkAt k)))
  intro f
  split
  · exact .pure _
  · apply MadeOf.bind (.step (.hook _ _))
    intro _
    exact .step (.body _)

theorem madeOf_nameOnly : MadeOf (StageStep kind k) kind (nameOnly k : BenchM τ ω κ Unit) := by
  apply MadeOf.bind (madeOf_talk (madeOf_frameworkAt k))
  intro f
  apply MadeOf.bind (madeOf_talk (madeOf_onSite (.step .randomBits)))
  intro bits
  apply MadeOf.bind (madeOf_adjust {})
  intro _
  exact madeOf_talk (madeOf_note _ _ _ _)

include hkind

/-- What follows the creation of a test's namespace. -/
theorem madeOf_moveIn (f : Framework τ κ) (ns : Option Namespace.Record) :
    MadeOf (StageStep kind k) kind (do
      update k fun f => { f with ns }
      awaitServiceAccount k ns
      let record ← present ns
      update k fun f => { f with uniqueName := some record.name }
      note f .info "before_each.completed" [("namespace", .text record.name)]
        : BenchM τ ω κ Unit) := by
  apply MadeOf.bind (madeOf_adjust {})
  intro _
  apply MadeOf.bind (.step (.serve (isServed_awaitServiceAccount hkind ns)))
  intro _
  apply MadeOf.bind (madeOf_present hkind ns)
  intro record
  apply MadeOf.bind (madeOf_adjust {})
  intro _
  exact madeOf_talk (madeOf_note _ _ _ _)

theorem madeOf_createOwn :
    MadeOf (SetupStep kind r k) kind (createOwn k : BenchM τ ω κ Unit) := by
  apply MadeOf.bind (SetupStep.ofTalk (madeOf_frameworkAt k))
  intro f
  apply MadeOf.bind (SetupStep.ofTalk (madeOf_note _ _ _ _))
  intro _
  apply MadeOf.bind (madeOf_inStage hkind _ _ (.step (.create _ _)))
  intro ns
  exact SetupStep.ofPart (PartStep.ofStage (madeOf_moveIn hkind f ns))

theorem madeOf_prepare (component : Option String) :
    MadeOf (SetupStep kind r k) kind (prepare r k component) := by
  apply MadeOf.bind (.step (.part (.stage (.connect component))))
  intro _
  apply MadeOf.bind (SetupStep.ofPart (madeOf_hook .before))
  intro _
  apply MadeOf.bind (SetupStep.ofTalk (madeOf_frameworkAt k))
  intro f
  apply madeOf_ite
  · intro _
    exact SetupStep.ofPart (PartStep.ofStage madeOf_nameOnly)
  · intro _
    exact madeOf_createOwn hkind

/-- The stages of a setup inside their span. -/
theorem madeOf_stages (component : Option String) :
    MadeOf (SetupStep kind r k) kind (do
      let f ← frameworkAt k
      enclose { operation := "before_each", baseName := some f.baseName }
        (prepare r k component)) := by
  apply MadeOf.bind (SetupStep.ofTalk (madeOf_frameworkAt k))
  intro f
  exact madeOf_enclose (fun _ => SetupStep.ofTalk (madeOf_recordSpan _)) _
    (madeOf_prepare hkind component)

end Setup

section Teardown

variable [Seconds τ] (hkind : ∀ e : Fault τ, e.isOrdinary = true → kind e)

/-- What is part of an operation is part of the winding up. -/
theorem WindStep.ofPart {x : BenchM τ ω κ α} (hx : MadeOf (PartStep kind r k) kind x) :
    MadeOf (WindStep kind r k) kind x :=
  hx.refine fun h => .step (.part h)

theorem WindStep.ofTalk {x : BenchM τ ω κ α}
    (hx : MadeOf (SiteStep kind fun _ => False) kind x) : MadeOf (WindStep kind r k) kind x :=
  WindStep.ofPart (PartStep.ofStage (madeOf_talk hx))

theorem madeOf_act (a : Action κ) : MadeOf (WindStep kind r k) kind (act r (some k) a) := by
  apply MadeOf.bind (.step (.start a.name))
  intro _
  exact .step (.part (.body a.body))

theorem madeOf_closeClient (f : Framework τ κ) :
    MadeOf (SiteStep kind fun _ => True) kind (closeClient f : BenchM τ ω κ Unit) := by
  unfold closeClient
  split
  · apply MadeOf.rescue (madeOf_onSite (Site.madeOf_call trivial))
    intro e he
    apply madeOf_ite
    · intro _
      exact madeOf_note _ _ _ _
    · intro _
      exact .fail he
  · exact .pure _

include hkind

theorem madeOf_walk (cycle steps i : Nat) :
    MadeOf (WindStep kind r k) kind (walk r k cycle steps i) := by
  induction steps generalizing i with
  | zero => exact .fail (hkind _ rfl)
  | succ steps ih =>
    apply MadeOf.bind (WindStep.ofTalk (madeOf_frameworkAt k))
    intro f
    split
    · exact .pure _
    · apply MadeOf.bind (madeOf_act _)
      intro _
      exact ih (i + 1)

theorem madeOf_windUp (testFailed : Bool) :
    MadeOf (WindStep kind r k) kind (windUp r k testFailed) := by
  apply MadeOf.bind (.step (.part (.stage (.serve (isServed_dumpFailed hkind testFailed)))))
  intro _
  apply MadeOf.bind (WindStep.ofTalk (madeOf_frameworkAt k))
  intro f
  apply MadeOf.bind (madeOf_walk hkind f.cycle r.patience 0)
  intro _
  exact WindStep.ofPart (madeOf_hook .after)

theorem madeOf_deleteOne (name : String) (timeout : τ) :
    MadeOf (DeleteStep kind k) kind (deleteOne k name timeout : BenchM τ ω κ Unit) := by
  apply madeOf_enclose fun _ => (madeOf_recordSpan _).refine fun h => .step (.talk h)
  exact .step (.serve (isServed_delete hkind name timeout))

theorem madeOf_deleteEach (timeout : τ) (names : List String) (report : Report τ) :
    MadeOf (DeleteStep kind k) kind
      (deleteEach k timeout report names : BenchM τ ω κ (Report τ)) := by
  have hnote (f : Framework τ κ) (level : Level) (name : String)
      (fields : List (String × Detail τ)) :
      MadeOf (DeleteStep kind k) kind (note f level name fields : BenchM τ ω κ Unit) :=
    (madeOf_note _ _ _ _).refine fun h => .step (.talk h)
  induction names generalizing report with
  | nil => exact .pure _
  | cons name rest ih =>
    apply MadeOf.bind (.step (.talk (.look k)))
    intro f
    apply MadeOf.bind (hnote _ _ _ _)
    intro _
    apply MadeOf.handle (madeOf_deleteOne hkind name timeout)
    intro one hone
    apply MadeOf.bind (.step (.custody _))
    intro _
    cases one with
    | ok _ => exact ih _
    | error e =>
      apply madeOf_ite
      · intro _
        have hnoted : MadeOf (DeleteStep kind k) kind
            (noteDeletion f name (.error e) : BenchM τ ω κ Unit) := by
          unfold noteDeletion
          split
          · exact .pure _
          · exact hnote _ _ _ _
          · exact hnote _ _ _ _
        exact hnoted.bind fun _ => ih _
      · intro _
        exact .fail (hone e rfl)

theorem madeOf_deleteTracked (testFailed : Bool) :
    MadeOf (DeleteStep kind k) kind
      (deleteTracked k testFailed : BenchM τ ω κ (Report τ)) := by
  apply MadeOf.bind (.step (.talk (.look k)))
  intro f
  apply madeOf_ite
  · intro _
    exact madeOf_deleteEach hkind _ _ _
  · intro _
    apply MadeOf.bind (.step (.custody _))
    intro _
    apply MadeOf.bind ((madeOf_note _ _ _ _).refine fun h => .step (.talk h))
    intro _
    exact .pure _

/-- Deleting the namespaces and resetting the framework. -/
theorem madeOf_clearAway (testFailed : Bool) {before : Except (Fault τ) Unit}
    (hbefore : ∀ e, before = .error e → kind e) :
    MadeOf (ClearStep kind k) kind
      (clearAway k testFailed before : BenchM τ ω κ (Report τ)) := by
  have hsettle (report : Report τ) (e : Fault τ) (he : settle before report = .error e) :
      kind e := by
    unfold settle at he
    split at he
    · split at he
      · cases he
      · cases he
        exact hkind _ rfl
    · split at he
      · cases he
        exact hkind _ rfl
      · cases he
        exact hbefore _ rfl
  apply MadeOf.bind ((madeOf_deleteTracked hkind testFailed).refine fun h => .step (.delete h))
  intro report
  apply MadeOf.bind (.step .reset)
  intro _
  exact madeOf_conclude (hsettle report)

/-- A teardown takes its registration back, winds up, and clears away. -/
theorem madeOf_afterEach (testFailed : Bool) :
    MadeOf (TeardownStep kind r k testFailed) kind (afterEach r k testFailed) := by
  have wind {α : Type} {x : BenchM τ ω κ α} (hx : MadeOf (WindStep kind r k) kind x) :
      MadeOf (TeardownStep kind r k testFailed) kind x := hx.refine fun h => .step (.wind h)
  have talk {α : Type} {x : BenchM τ ω κ α} (hx : MadeOf (SiteStep kind fun _ => False) kind x) :
      MadeOf (TeardownStep kind r k testFailed) kind x :=
    wind (WindStep.ofTalk hx)
  apply MadeOf.bind (.step .withdraw)
  intro _
  apply MadeOf.bind (talk (madeOf_frameworkAt k))
  intro f
  apply madeOf_enclose fun _ => talk (madeOf_recordSpan _)
  apply MadeOf.handle (wind (madeOf_windUp hkind testFailed))
  intro before hbefore
  exact .step (.clear hbefore)

end Teardown

end Framework

end Testbed
