import Testbed.Proofs.Rules

/-!
# Code of tests

What the code of a test, of a deferred or registered action, or of a hook does at the bench is put
together from what the library offers. `IsTestCode` says from what, with one restriction: nothing
but setups and teardowns gives a framework a client or takes it away. Setups and teardowns run hooks
and actions, which are such code again. A relation is checked at the steps of which the operations
consist, and then all code leads along it.
-/

set_option autoImplicit false

namespace Testbed

open Proc Bench Framework

variable {τ ω κ α : Type}

/-- The call concerns no client: it neither makes or closes one nor goes through one. -/
def Call.isClientless : Call τ → Bool
  | .loadFile .. | .loadInside | .loadCluster | .condition => true
  | _ => false

/-- A change of a framework that leaves its client and the queues that were put away, and takes no
action out of its queue. -/
structure IsUse (g : Framework τ κ → Framework τ κ) : Prop where
  client : ∀ f, (g f).client = f.client := by exact fun _ => rfl
  ownsClient : ∀ f, (g f).ownsClient = f.ownsClient := by exact fun _ => rfl
  pastActions : ∀ f, (g f).pastActions = f.pastActions := by exact fun _ => rfl
  actions : ∀ f, f.actions <+: (g f).actions := by exact fun _ => List.prefix_rfl

theorem Framework.IsAside.isUse {g : Framework τ κ → Framework τ κ} (h : IsAside g) : IsUse g where
  client := h.client
  ownsClient := h.ownsClient
  pastActions := h.pastActions
  actions f := ⟨[], by rw [h.actions f, List.append_nil]⟩

theorem IsUse.defer (a : Action κ) : IsUse (τ := τ) (·.defer a) where
  actions _ := List.prefix_append _ _

theorem IsUse.trackAll (records : List (Option Namespace.Record)) :
    IsUse (τ := τ) (κ := κ) fun f => records.foldl Framework.track f := by
  induction records with
  | nil => exact {}
  | cons record rest ih =>
    exact ⟨fun f => ih.client (f.track record), fun f => ih.ownsClient (f.track record),
      fun f => ih.pastActions (f.track record), fun f => ih.actions (f.track record)⟩

variable [Seconds τ] [Host τ ω]

/-- What code of tests does. It brings only such clients as `injected` holds of. It tears frameworks
down if `tears`; hooks and actions do so if `nests`. -/
inductive IsTestCode (injected : String → Prop) (nests : Prop) :
    (tears : Prop) → {α : Type} → BenchM τ ω κ α → Prop
  | pure {tears : Prop} {α : Type} (a : α) :
      IsTestCode injected nests tears (Pure.pure a : BenchM τ ω κ α)
  | fail {tears : Prop} {α : Type} (e : Fault τ) :
      IsTestCode injected nests tears (Proc.fail e : BenchM τ ω κ α)
  | bind {tears : Prop} {α β : Type} {x : BenchM τ ω κ α} {f : α → BenchM τ ω κ β}
      (hx : IsTestCode injected nests tears x) (hf : ∀ a, IsTestCode injected nests tears (f a)) :
      IsTestCode injected nests tears (x >>= f)
  | attempt {tears : Prop} {α : Type} {x : BenchM τ ω κ α}
      (hx : IsTestCode injected nests tears x) : IsTestCode injected nests tears x.attempt
  | get {tears : Prop} : IsTestCode injected nests tears (Proc.get : BenchM τ ω κ (Bench τ ω κ))
  /-- It works at the site, but makes no call that concerns a client. -/
  | site {tears : Prop} {α : Type} {x : SiteM τ ω α}
      (h : MadeOf (Site.Step fun c => c.isClientless = true) (fun _ => True) x) :
      IsTestCode injected nests tears (onSite x : BenchM τ ω κ α)
  | note {tears : Prop} (names : List (String × Nat)) (trial : Trial) :
      IsTestCode injected nests tears
        (Proc.modify fun b => { b with names, trial } : BenchM τ ω κ Unit)
  | place {tears : Prop} (settings : Settings τ κ) {client : Option String}
      (h : ∀ c, client = some c → injected c) :
      IsTestCode injected nests tears (place (.fresh settings client) : BenchM τ ω κ Nat)
  | change {tears : Prop} (k : Nat) {g : Framework τ κ → Framework τ κ} (h : IsUse g) :
      IsTestCode injected nests tears (update k g : BenchM τ ω κ Unit)
  | register {tears : Prop} (d : Duty κ) :
      IsTestCode injected nests tears (register d : BenchM τ ω κ Nat)
  | unregister {tears : Prop} (handle : Option Nat) :
      IsTestCode injected nests tears (unregister handle : BenchM τ ω κ Unit)
  | create {tears : Prop} (k : Nat) (baseName : String) (labels : Labels) :
      IsTestCode injected nests tears
        (createNamespace k baseName labels : BenchM τ ω κ (Option Namespace.Record))
  | track {tears : Prop} (k : Nat) (records : List (Option Namespace.Record)) :
      IsTestCode injected nests tears (trackEach k records : BenchM τ ω κ Unit)
  | awaitPod {tears : Prop} (k : Nat) (pod : String) (timeout : τ) :
      IsTestCode injected nests tears (awaitPod k pod timeout : BenchM τ ω κ Unit)
  | setUp {tears : Prop} {r : Runner τ ω κ}
      (hr : ∀ owner body, IsTestCode injected nests nests (r.perform owner body)) (k : Nat)
      (component : Option String) : IsTestCode injected nests tears (beforeEach r k component)
  | tearDown {tears : Prop} (h : tears) {r : Runner τ ω κ}
      (hr : ∀ owner body, IsTestCode injected nests nests (r.perform owner body)) (k : Nat)
      (testFailed : Bool) : IsTestCode injected nests tears (afterEach r k testFailed)
  | drain {tears : Prop} (h : tears) {r : Runner τ ω κ}
      (hr : ∀ owner body, IsTestCode injected nests nests (r.perform owner body)) :
      IsTestCode injected nests tears (drain r)

/-- The steps of which the operations consist that neither tear down nor drain. -/
structure UseRules (injected : String → Prop) (R : Bench τ ω κ → Bench τ ω κ → Prop) : Prop where
  site : ∀ {α : Type} {x : SiteM τ ω α},
    MadeOf (Site.Step fun c => c.isClientless = true) (fun _ => True) x →
      (onSite x : BenchM τ ω κ α).Along R
  custody : ∀ k change, (onSite (Site.record (.custody k change)) : BenchM τ ω κ Unit).Along R
  hook : ∀ stage baseName, (onSite (Site.mark (.hook stage baseName)) : BenchM τ ω κ Unit).Along R
  serve : ∀ {α : Type} {k : Nat} {x : BenchM τ ω κ α},
    IsServed (fun _ => True) k (fun _ => True) x → x.Along R
  connect : ∀ k component, (connect k component : BenchM τ ω κ Unit).Along R
  create : ∀ k baseName labels,
    (createNamespace k baseName labels : BenchM τ ω κ (Option Namespace.Record)).Along R
  change : ∀ k (g : Framework τ κ → Framework τ κ), IsUse g →
    (update k g : BenchM τ ω κ Unit).Along R
  place : ∀ settings client, (∀ c, client = some c → injected c) →
    (place (.fresh settings client) : BenchM τ ω κ Nat).Along R
  register : ∀ d, (register d : BenchM τ ω κ Nat).Along R
  unregister : ∀ handle, (unregister handle : BenchM τ ω κ Unit).Along R
  note : ∀ (b : Bench τ ω κ) names trial, R b { b with names, trial }

namespace UseRules

variable {injected : String → Prop} {R : Bench τ ω κ → Bench τ ω κ → Prop} {r : Runner τ ω κ}
  {k : Nat} (h : UseRules injected R)

include h

theorem mono {S : Bench τ ω κ → Bench τ ω κ → Prop} (hrs : ∀ b b', R b b' → S b b') :
    UseRules injected S where
  site hx := (h.site hx).mono hrs
  custody k change := (h.custody k change).mono hrs
  hook stage baseName := (h.hook stage baseName).mono hrs
  serve hx := (h.serve hx).mono hrs
  connect k component := (h.connect k component).mono hrs
  create k baseName labels := (h.create k baseName labels).mono hrs
  change k g hg := (h.change k g hg).mono hrs
  place settings client hc := (h.place settings client hc).mono hrs
  register d := (h.register d).mono hrs
  unregister handle := (h.unregister handle).mono hrs
  note b names trial := hrs _ _ (h.note b names trial)

theorem log (level : Level) (name : String) (fields : List (String × Detail τ)) :
    (onSite (Site.log level name fields) : BenchM τ ω κ Unit).Along R :=
  h.site (Site.madeOf_log level name fields)

theorem awaitPod (pod : String) (timeout : τ) :
    (awaitPod k pod timeout : BenchM τ ω κ Unit).Along R :=
  h.serve ((isServed_awaitPod (fun _ _ => trivial) pod timeout).mono fun _ _ => trivial)

variable [IsPreorder (Bench τ ω κ) R]

theorem talk {x : BenchM τ ω κ α} (hx : SiteStep (fun _ => True) (fun _ => False) α x) :
    x.Along R := by
  cases hx with
  | work hx => exact h.site (hx.refine fun hstep => .step (hstep.mono fun _ => False.elim))
  | look j => exact frameworkAt_along j

theorem trackEach (records : List (Option Namespace.Record)) :
    (trackEach k records : BenchM τ ω κ Unit).Along R :=
  trackEach_along records (h.custody k _) (h.change k _ (.trackAll records))

theorem enroll : (enroll k : BenchM τ ω κ Unit).Along R := by
  apply Along.bind (h.register _)
  intro handle
  exact h.change k (fun f => { f with handle := some handle }) {}

theorem withdraw : (withdraw k : BenchM τ ω κ Unit).Along R := by
  apply Along.bind (frameworkAt_along k)
  intro f
  apply Along.bind (h.unregister f.handle)
  intro _
  exact h.change k (fun f => { f with handle := none }) {}

variable (hb : ∀ owner body, (r.perform owner body).Along R)

include hb

/-- What setup and teardown share leads along the relation, if the bodies do. -/
theorem part {x : BenchM τ ω κ α} (hx : PartStep (fun _ => True) r k α x) : x.Along R := by
  cases hx with
  | stage hstage =>
    cases hstage with
    | talk htalk => exact h.talk htalk
    | adjust hg => exact h.change k _ hg.isUse
    | serve hserved => exact h.serve (hserved.mono fun _ _ => trivial)
    | connect component => exact h.connect k component
  | hook stage baseName => exact h.hook stage baseName
  | body body => exact hb (some k) body

theorem beforeEach (component : Option String) : (beforeEach r k component).Along R := by
  apply Along.bind h.enroll
  intro _
  apply (madeOf_stages (fun _ _ => trivial) component).along
  intro _ _ hstep
  cases hstep with
  | part hpart => exact h.part hb hpart
  | create baseName labels => exact h.create k baseName labels

end UseRules

/-- Code of tests leads along a relation that obeys the rules, if teardowns and drains do. -/
theorem IsTestCode.along {injected : String → Prop} {nests tears : Prop}
    {R : Bench τ ω κ → Bench τ ω κ → Prop} [IsPreorder (Bench τ ω κ) R] (h : UseRules injected R)
    (htear : tears ∨ nests → ∀ r : Runner τ ω κ,
      (∀ owner body, IsTestCode injected nests nests (r.perform owner body)) →
      (∀ owner body, (r.perform owner body).Along R) →
        (∀ k testFailed, (afterEach r k testFailed).Along R) ∧ (Framework.drain r).Along R)
    {x : BenchM τ ω κ α} (hx : IsTestCode injected nests tears x) : x.Along R := by
  have inside {tears P : Prop} (h : tears ∨ nests → P) (hnests : nests ∨ nests) : P :=
    h (.inr (hnests.elim id id))
  induction hx with
  | pure a => exact along_pure a
  | fail e => exact along_fail e
  | bind _ _ hx hf => exact (hx htear).bind fun a => hf a htear
  | attempt _ hx => exact (hx htear).attempt
  | get => exact along_get
  | site hx => exact h.site hx
  | note names trial => exact along_modify fun b => h.note b names trial
  | place settings hc => exact h.place settings _ hc
  | change k hg => exact h.change k _ hg
  | register d => exact h.register d
  | unregister handle => exact h.unregister handle
  | create k baseName labels => exact h.create k baseName labels
  | track k records => exact h.trackEach records
  | awaitPod k pod timeout => exact h.awaitPod pod timeout
  | setUp _ k component hb =>
    exact h.beforeEach (fun owner body => hb owner body (inside htear)) component
  | tearDown ht hr k testFailed hb =>
    exact (htear (.inl ht) _ hr fun owner body => hb owner body (inside htear)).1 k testFailed
  | drain ht hr hb =>
    exact (htear (.inl ht) _ hr fun owner body => hb owner body (inside htear)).2

end Testbed
