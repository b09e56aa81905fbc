import Testbed.Client.Limited
import Testbed.Proofs.Grants
import Testbed.Proofs.TestCode

/-!
# The pace of limited clients

What every step at a site keeps is kept by all code of tests, setups and teardowns included. On a
limited host the clients are such a thing: each stays a client set of the rate, the burst and the
component with which a framework has asked for it, and the grants of its requests keep to them. As
for a single bucket, all that matters is the time at which the bucket of a client would be empty,
which no grant is ahead of by more than burst and rate allow.
-/

set_option autoImplicit false

namespace Testbed

open Proc Bench Framework

variable {τ ω κ α : Type}

/-- What is kept from a state to a later one. -/
def Proc.Keeping {σ : Type} (P : σ → Prop) (s t : σ) : Prop := P s → P t

instance {σ : Type} {P : σ → Prop} : IsPreorder σ (Keeping P) where
  refl _ := id
  trans _ _ _ h h' := h' ∘ h

section Kept

variable [Host τ ω] {P : Site τ ω → Prop} {calls : Call τ → Prop} {k : Nat}

/-- Every step at a site keeps this: what is recorded, waits, what is drawn, and calls. -/
structure Site.IsKept (P : Site τ ω → Prop) : Prop where
  record : ∀ s, P s → ∀ e, P (s.recorded [e])
  elapse : ∀ s, P s → ∀ length, P { s with world := Host.sleep length s.world }
  freshId : ∀ s, P s → P { s with world := (Host.freshId s.world).2 }
  randomBits : ∀ s, P s → P { s with world := (Host.randomBits s.world).2 }
  call : ∀ s, P s → ∀ c, P ((Site.call c).run s).2

variable (h : Site.IsKept P)

include h

theorem Site.Step.keeping {x : SiteM τ ω α} (hx : Step calls α x) : x.Along (Keeping P) := by
  intro s hs
  cases hx with
  | record _ _ => exact h.record s hs _
  | now => exact hs
  | elapse length => exact h.elapse s hs length
  | freshId => exact h.freshId s hs
  | randomBits => exact h.randomBits s hs
  | call _ => exact h.call s hs _

namespace Bench

theorem onSite_keeping {x : SiteM τ ω α} (hx : MadeOf (Site.Step calls) (fun _ => True) x) :
    (onSite x : BenchM τ ω κ α).Along (Keeping fun b => P b.site) :=
  (hx.along (Site.Step.keeping h)).focus fun _ _ => id

theorem record_keeping (e : Event τ) :
    (onSite (Site.record e) : BenchM τ ω κ Unit).Along (Keeping fun b => P b.site) :=
  fun b hb => h.record b.site hb e

theorem log_keeping (level : Level) (name : String) (fields : List (String × Detail τ)) :
    (onSite (Site.log level name fields) : BenchM τ ω κ Unit).Along (Keeping fun b => P b.site) :=
  record_keeping h _

theorem mark_keeping (m : Mark) :
    (onSite (Site.mark m) : BenchM τ ω κ Unit).Along (Keeping fun b => P b.site) :=
  fun b hb => h.record b.site hb _

end Bench

namespace Framework

theorem siteStep_keeping {x : BenchM τ ω κ α} (hx : SiteStep (fun _ => True) calls α x) :
    x.Along (Keeping fun b => P b.site) := by
  cases hx with
  | work hwork => exact onSite_keeping h hwork
  | look j => exact frameworkAt_along j

theorem serve_keeping {x : BenchM τ ω κ α} (hx : IsServed (fun _ => True) k calls x) :
    x.Along (Keeping fun b => P b.site) := by
  obtain ⟨rest, rfl, hrest⟩ := hx
  apply Along.bind (frameworkAt_along k)
  intro f
  exact (hrest f).along (siteStep_keeping h)

omit [Host τ ω] h in
theorem update_keeping (g : Framework τ κ → Framework τ κ) :
    (update k g : BenchM τ ω κ Unit).Along (Keeping fun b => P b.site) :=
  fun _ hb => hb

theorem unregister_keeping (handle : Option Nat) :
    (unregister handle : BenchM τ ω κ Unit).Along (Keeping fun b => P b.site) := by
  apply Along.bind along_get
  intro b
  split
  · apply Along.bind (along_modify fun _ hb => hb)
    intro _
    exact log_keeping h _ _ _
  · exact along_pure ()

variable [Seconds τ]

theorem useRules_keeping (injected : String → Prop) :
    UseRules injected (Keeping fun b : Bench τ ω κ => P b.site) where
  site hx := onSite_keeping h hx
  custody _ _ := record_keeping h _
  hook _ _ := mark_keeping h _
  serve hx := serve_keeping h hx
  connect k component := by
    apply (madeOf_connect (fun _ _ => trivial) component).along
    intro _ _ hstep
    cases hstep with
    | site hsite => exact siteStep_keeping h hsite
    | keep client => exact update_keeping _
  create k baseName labels := by
    apply (madeOf_createNamespace (fun _ _ => trivial) baseName labels).along
    intro _ _ hstep
    cases hstep with
    | site hsite => exact siteStep_keeping h hsite
    | take records => exact record_keeping h _
    | track record => exact update_keeping _
  change _ _ _ := update_keeping _
  place _ _ _ := fun _ hb => hb
  register _ := fun b hb => h.record b.site hb _
  unregister := unregister_keeping h
  note _ _ _ := id

theorem clearAway_keeping (testFailed : Bool) (before : Except (Fault τ) Unit) :
    (clearAway k testFailed before
      : BenchM τ ω κ (Report τ)).Along (Keeping fun b => P b.site) := by
  have hclose (f : Framework τ κ) :
      (closeClient f : BenchM τ ω κ Unit).Along (Keeping fun b => P b.site) :=
    (madeOf_closeClient f).along (siteStep_keeping h)
  apply (madeOf_clearAway (fun _ _ => trivial) testFailed fun _ _ => trivial).along
  intro _ _ hstep
  cases hstep with
  | delete hdelete =>
    cases hdelete with
    | talk htalk => exact siteStep_keeping h htalk
    | serve hserved => exact serve_keeping h hserved
    | custody _ => exact record_keeping h _
  | reset =>
    apply Along.bind (frameworkAt_along k)
    intro f
    exact (hclose f).bind fun _ => update_keeping _

variable {r : Runner τ ω κ}
  (hb : ∀ owner body, (r.perform owner body).Along (Keeping fun b => P b.site))

include hb

theorem afterEach_keeping (testFailed : Bool) :
    (afterEach r k testFailed).Along (Keeping fun b => P b.site) := by
  have hrules := useRules_keeping (κ := κ) h fun _ => True
  apply (madeOf_afterEach (fun _ _ => trivial) testFailed).along
  intro _ _ hstep
  cases hstep with
  | wind hwind =>
    cases hwind with
    | part hpart => exact hrules.part hb hpart
    | start name => exact mark_keeping h _
  | withdraw => exact hrules.withdraw
  | clear _ => exact clearAway_keeping h testFailed _

theorem drain_keeping : (drain r).Along (Keeping fun b => P b.site) := by
  have hdischarge (d : Duty κ) : (discharge r d).Along (Keeping fun b => P b.site) := by
    cases d with
    | teardown k => exact abortTeardown_along (log_keeping h) (afterEach_keeping h hb true)
    | act a => exact (mark_keeping h _).bind fun _ => hb none a.body
  intro b
  apply drain_ends (log_keeping h)
  · exact fun hb => hb
  · intro d _
    exact dischargeOne_along (fun _ => along_modify fun _ hb => hb) (hdischarge d.2)

end Framework

/-- What every step at a site keeps, all code of tests keeps. -/
theorem IsTestCode.keeping [Seconds τ] {injected : String → Prop} {nests tears : Prop}
    {x : BenchM τ ω κ α} (hx : IsTestCode injected nests tears x) :
    x.Along (Keeping fun b => P b.site) :=
  hx.along (useRules_keeping h injected) fun _ _ _ hb =>
    ⟨fun _ => afterEach_keeping h hb, drain_keeping h hb⟩

end Kept

namespace Client

/-- Requests with these grants, the latest one first, keep to this rate and burst: from any one of
them to a later one there are no more than the burst and what the rate lets through in between. -/
def Paced (qps : Rat) (burst : Int) (grants : List Rat) : Prop :=
  ∀ (i j : Nat) (late early : Rat), i ≤ j → grants[i]? = some late → grants[j]? = some early →
    (j : Rat) - i + 1 ≤ burst + qps * (late - early)

/-- A grant before all others keeps to rate and burst together with each of them. -/
theorem Paced.cons {qps : Rat} {burst : Int} {grants : List Rat} (h : Paced qps burst grants)
    (hburst : 1 ≤ burst) {late : Rat} (hlate : ∀ (j : Nat) early, grants[j]? = some early →
      (j : Rat) + 2 ≤ burst + qps * (late - early)) : Paced qps burst (late :: grants) := by
  intro i j late' early hij hi hj
  cases i with
  | zero =>
    obtain rfl := Option.some_inj.1 hi
    cases j with
    | zero =>
      obtain rfl := Option.some_inj.1 hj
      have hone : (1 : Rat) ≤ burst := by exact_mod_cast hburst
      simpa using hone
    | succ j =>
      have hj := hlate j early hj
      push_cast
      linarith
  | succ i =>
    cases j with
    | zero => omega
    | succ j =>
      have hrest := h i j late' early (by omega) hi hj
      push_cast
      linarith

section Reserved

variable {b : TokenBucket Rat} {grants : List Rat} (hq : 0 < b.qps) (hburst : 1 ≤ b.burst)
  (h : ∀ (k : Nat) t, grants[k]? = some t → t - b.fillTime + (k + 1) * (1 / b.qps) ≤ b.emptyAt)
  (now : Rat)

include hq hburst h

/-- Where no grant is ahead of the bucket, none is after the next reservation, that of the
reservation included. -/
theorem TokenBucket.ahead_reserve (k : Nat) (t : Rat)
    (ht : ((now + (b.reserve now).1) :: grants)[k]? = some t) :
    t - b.fillTime + (k + 1) * (1 / b.qps) ≤ (b.reserve now).2.emptyAt := by
  have hempty := emptyAt_reserve hq now
  cases k with
  | zero =>
    obtain rfl := Option.some_inj.1 ht
    have htime := token_le_fillTime hq hburst
    have hfresh := le_max_left (now - b.fillTime) b.emptyAt
    rw [granted_eq hq]
    rcases max_cases now (b.reserve now).2.emptyAt with ⟨hmax, _⟩ | ⟨hmax, _⟩
    · rw [hmax]
      push_cast
      linarith
    · rw [hmax]
      push_cast
      linarith
  | succ k =>
    have hk := h k t ht
    have hheld := le_max_right (now - b.fillTime) b.emptyAt
    push_cast
    linarith

omit hburst in
/-- The grant of a reservation comes no sooner than every grant before it allows. -/
theorem TokenBucket.late_reserve (j : Nat) (early : Rat) (hj : grants[j]? = some early) :
    (j : Rat) + 2 ≤ b.burst + b.qps * (now + (b.reserve now).1 - early) := by
  have hempty := emptyAt_reserve hq now
  have hheld := le_max_right (now - b.fillTime) b.emptyAt
  have hahead := h j early hj
  have hlate : (b.reserve now).2.emptyAt ≤ now + (b.reserve now).1 := by
    rw [granted_eq hq]
    exact le_max_right _ _
  have hquot : ((j : Rat) + 2 - b.burst) / b.qps ≤ now + (b.reserve now).1 - early := by
    have hsplit : ((j : Rat) + 2 - b.burst) / b.qps =
        (j + 1) * (1 / b.qps) + 1 / b.qps - b.fillTime := by
      unfold fillTime
      ring
    linarith
  rw [div_le_iff₀ hq] at hquot
  linarith

end Reserved

namespace Sender

/-- The limiter of a client has this rate and burst, and its grants keep to them. No grant is ahead of
the time at which the bucket would be empty by more than they allow. -/
structure Sound (qps : Rat) (burst : Int) (c : Sender Rat) : Prop where
  bucket : ∃ b, c.limiter = some b ∧ b.qps = qps ∧ b.burst = burst ∧
    ∀ (k : Nat) t, c.grants[k]? = some t → t - b.fillTime + (k + 1) * (1 / b.qps) ≤ b.emptyAt
  paced : Paced qps burst c.grants

variable {ω : Type} [Host Rat ω] {qps : Rat} {burst : Int} {c : Sender Rat}

theorem takeToken_inside {b : TokenBucket Rat} (hq : 0 < b.qps) (w : ω) :
    (inside (ClientSet.takeToken (some b)) w).1 = .ok (some (b.reserve (Host.now w)).2) := by
  have htoken : Ends (ClientSet.takeToken (some b)) (Site.start w) fun r _ =>
      r = .ok (some (b.reserve (Host.now w)).2) := by
    apply Ends.map
    apply (b.acquire_ends hq (Site.start w)).mono
    intro _ _ hends
    obtain ⟨rfl, _⟩ := hends
    rfl
  exact htoken

/-- A client that takes a token makes one reservation, and notes its grant. -/
theorem wait_eq {b : TokenBucket Rat} (hlimiter : c.limiter = some b) (hq : 0 < b.qps) (w : ω) :
    (c.wait w).1 = { c with
      limiter := some (b.reserve (Host.now w)).2
      grants := (Host.now w + (b.reserve (Host.now w)).1) :: c.grants } := by
  have htoken := takeToken_inside hq w
  have hgrant : c.grant (Host.now w) = Host.now w + (b.reserve (Host.now w)).1 := by
    unfold grant
    rw [hlimiter]
    exact if_neg (by rw [Seconds.zero_eq]; exact not_le.2 hq)
  unfold wait
  rw [hlimiter]
  revert htoken
  rcases inside (ClientSet.takeToken (some b)) w with ⟨r, w'⟩
  rintro rfl
  rw [hgrant]

/-- A client that takes a token stays sound. -/
theorem Sound.wait (h : c.Sound qps burst) (hq : 0 < qps) (hburst : 1 ≤ burst) (w : ω) :
    (c.wait w).1.Sound qps burst := by
  obtain ⟨b, hlimiter, rfl, rfl, hahead⟩ := h.bucket
  rw [wait_eq hlimiter hq]
  constructor
  · exact ⟨_, rfl, rfl, rfl, TokenBucket.ahead_reserve hq hburst hahead (Host.now w)⟩
  · exact h.paced.cons hburst (TokenBucket.late_reserve hq hahead (Host.now w))

/-- A client that has made no request. -/
theorem sound_fresh (set : ClientSet Rat) (now : Rat)
    (hset : set.limiter = some (.full qps burst now)) :
    ({ toClientSet := set, grants := [] } : Sender Rat).Sound qps (max 1 burst) := by
  constructor
  · refine ⟨.full qps burst now, hset, rfl, rfl, ?_⟩
    rintro k t ⟨⟩
  · rintro i j late early _ ⟨⟩

end Sender

namespace Limited

variable {ω : Type} [Host Rat ω]

/-- What is true of a client with this label on a limited host: a framework has asked for it, its
name is that of the component, and it keeps to rate and burst if there is a rate. -/
def Known (events : List (Event Rat)) (label : String) (c : Sender Rat) : Prop :=
  ∃ time qps burst component,
    .exchange time (.newClient qps burst component) (.ok label) ∈ events ∧
    c.userAgent = ClientSet.agentFor component ∧ (0 < qps → c.Sound qps (max 1 burst))

theorem Known.later {events new : List (Event Rat)} {label : String} {c : Sender Rat}
    (h : Known events label c) : Known (events ++ new) label c := by
  obtain ⟨time, qps, burst, component, hmade, hrest⟩ := h
  exact ⟨time, qps, burst, component, List.mem_append_left new hmade, hrest⟩

theorem userAgent_wait (c : Sender Rat) (w : ω) : (c.wait w).1.userAgent = c.userAgent := by
  unfold Sender.wait
  split <;> rfl

theorem Known.waitAll {events : List (Event Rat)} {label : String} {c : Sender Rat}
    (h : Known events label c) (w : ω) (n : Nat) : Known events label (c.waitAll w n).1 := by
  induction n generalizing c w with
  | zero => exact h
  | succ n ih =>
    obtain ⟨time, qps, burst, component, hmade, hagent, hsound⟩ := h
    apply ih
    refine ⟨time, qps, burst, component, hmade, (userAgent_wait c w).trans hagent, ?_⟩
    intro hq
    exact (hsound hq).wait hq (le_max_left 1 burst) w

/-- All clients of the host are known. -/
def AllKnown (events : List (Event Rat)) (l : Limited Rat ω) : Prop :=
  ∀ e ∈ l.senders, Known events e.1 e.2

variable {l : Limited Rat ω} {events : List (Event Rat)}

theorem AllKnown.afterWait (h : l.AllKnown events) (c : Call Rat) :
    (l.afterWait c).AllKnown events := by
  unfold Limited.afterWait
  split
  · exact h
  · rename_i client _
    split
    · exact h
    · rename_i sender hsender
      obtain ⟨e, he, rfl⟩ := Option.map_eq_some_iff.1 hsender
      have hkey : e.1 = client := by simpa using List.find?_some he
      have hmem : e ∈ l.senders := List.mem_reverse.1 (List.mem_of_find?_eq_some he)
      intro e' he'
      rcases of_mem_putEntry he' with hold | rfl
      · exact h e' hold
      · have hknown := h e hmem
        rw [hkey] at hknown
        exact hknown.waitAll l.world (l.requests c)

/-- A client that a host has made is told by the exchange. -/
theorem AllKnown.answered (h : l.AllKnown events) (time : Rat) (c : Call Rat)
    (r : Except (Fault Rat) c.Reply) :
    (l.answered c r).AllKnown (events ++ [.exchange time c r]) := by
  have hlater : l.AllKnown (events ++ [.exchange time c r]) := fun e he => (h e he).later
  unfold Limited.answered
  split
  · rename_i qps burst component client
    intro e he
    rcases of_mem_putEntry he with hold | rfl
    · exact hlater e hold
    · refine ⟨time, qps, burst, component, List.mem_append_right _ (List.mem_singleton_self _), rfl,
        fun _ => Sender.sound_fresh _ (Host.now l.world) rfl⟩
  · exact hlater

theorem isKept_allKnown :
    Site.IsKept fun s : Site Rat (Limited Rat ω) => s.world.AllKnown s.events where
  record s hs e := by
    show s.world.AllKnown (s.recorded [e]).events
    rw [Site.events_recorded]
    exact fun sender hsender => (hs sender hsender).later
  elapse _ hs _ := hs
  freshId _ hs := hs
  randomBits _ hs := hs
  call s hs c := by
    rw [Site.events_call]
    have hwaited : (s.world.afterWait c).AllKnown s.events := AllKnown.afterWait hs c
    exact AllKnown.answered (l := { s.world.afterWait c with
      world := (Host.reply c (s.world.afterWait c).world).2 }) hwaited _ c _

end Limited

end Client

/-- Whatever code of tests does on a limited host, setups, teardowns and drains included: each client
that a framework was given has the name, the rate and the burst with which it was asked for, and from
any of its requests to a later one there are no more grants than burst and rate allow. -/
theorem IsTestCode.paced {ω : Type} [Host Rat ω] {injected : String → Prop} {nests tears : Prop}
    {x : BenchM Rat (Client.Limited Rat ω) κ α} (hx : IsTestCode injected nests tears x)
    {b : Bench Rat (Client.Limited Rat ω) κ} (hb : b.site.world.senders = []) :
    Ends x b fun _ b' => ∀ e ∈ b'.site.world.senders, ∃ time qps burst component,
      .exchange time (.newClient qps burst component) (.ok e.1) ∈ b'.site.events ∧
      e.2.userAgent = Client.ClientSet.agentFor component ∧
      (0 < qps → Client.Paced qps (max 1 burst) e.2.grants) := by
  have hstart : b.site.world.AllKnown b.site.events := by
    intro e he
    rw [hb] at he
    cases he
  apply (hx.keeping Client.Limited.isKept_allKnown b).mono
  intro _ b' h e he
  obtain ⟨time, qps, burst, component, hmade, hagent, hsound⟩ := h hstart e he
  exact ⟨time, qps, burst, component, hmade, hagent, fun hq => (hsound hq).paced⟩

/-- The setup of a framework whose client may send two requests a second, and only one at a time. -/
def slowSetup : BenchM Rat (Client.Limited Rat (Scripted.World Rat)) Unit Unit := do
  let k ← place (.fresh
    { baseName := "web", options := ⟨2, 1⟩, suite := .standard, cluster := .live .standard,
      provider := none, customCreation := false, skipNamespace := false,
      skipServiceAccountWait := false, deletionTimeout := none } none)
  beforeEach ⟨fun _ _ => pure (), 1⟩ k none

example :
    let host : Client.Limited Rat (Scripted.World Rat) := ⟨.start 0 [] [], [], fun _ => 1⟩
    (slowSetup.run (.start host)).2.site.world.senders.map (fun e => (e.1, e.2.grants)) =
      [("client-1", [1, 1 / 2, 0])] := by
  decide +kernel

end Testbed
