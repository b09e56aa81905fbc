import Testbed.Proofs.Spending
import Testbed.Proofs.Timely

/-!
# How long a setup takes

A setup on a live cluster sleeps in three waits: while it tries to create its namespace, while the
namespace comes into use, and while it gets its service account. Each of them keeps to its own
timeout and comes at most once, so their timeouts bound what the whole setup sleeps, apart from
what the hook of the provider does.
-/

set_option autoImplicit false

namespace Testbed

open Proc Bench

variable {τ ω κ : Type}

/-- The requests of an attempt to create a namespace: the creation itself, and the search for what
it may have created after all. -/
def Call.IsCreation : Call τ → Prop
  | .createNamespace .. | .listNamespaces .. => True
  | _ => False

/-- The request with which an attempt to create a namespace begins. -/
def Call.IsCreate : Call τ → Prop
  | .createNamespace .. => True
  | _ => False

/-- A call to a strategy of the framework's own. -/
def Call.IsStrategy : Call τ → Prop
  | .customProvide .. => True
  | _ => False

/-- A creation of a namespace, if any: one call to the framework's own strategy, or a wait. -/
def Creates (timeout : Rat) (events : List (Event Rat)) : Prop :=
  Asides Call.IsStrategy (fun _ => False) 1 0 events ∨
    Waits Call.IsCreation Call.IsCreate (looks timeout * 2) timeout events

/-- A wait for a namespace to come into use, if any. -/
def Activates (timeout : Rat) (events : List (Event Rat)) : Prop :=
  ∃ client name, Waits (.readNamespace client name = ·) (.readNamespace client name = ·)
    (looks timeout) timeout events

/-- A wait for the default service account of a namespace, if any. -/
def Awaits (timeout : Rat) (events : List (Event Rat)) : Prop :=
  ∃ client ns, Waits (.readServiceAccount client Namespace.defaultAccount ns = ·)
    (.readServiceAccount client Namespace.defaultAccount ns = ·) (looks timeout) timeout events

theorem Creates.nil (timeout : Rat) : Creates timeout [] := .inr (.inl rfl)

theorem Activates.nil (timeout : Rat) : Activates timeout [] := ⟨"", "", .inl rfl⟩

theorem Awaits.nil (timeout : Rat) : Awaits timeout [] := ⟨"", "", .inl rfl⟩

/-- The exchanges and pauses in which a namespace is provided: it is created, and comes into use. -/
def Provides (timeout : Rat) : List (Event Rat) → Prop :=
  Splits (Creates timeout) (Activates timeout)

theorem Provides.nil (timeout : Rat) : Provides timeout [] := Splits.nil (.nil timeout) (.nil timeout)

/-- The exchanges and pauses in which a framework gets a namespace of its own: it is provided, and
gets its service account. -/
def CreatesOwn (config : Config.Suite Rat) : List (Event Rat) → Prop :=
  Splits (Provides config.namespaceCreationTimeout) (Awaits config.serviceAccountTimeout)

theorem CreatesOwn.nil (config : Config.Suite Rat) : CreatesOwn config [] :=
  Splits.nil (.nil _) (.nil _)

namespace Namespace

variable [Host Rat ω] (hpunctual : Punctual ω) (client baseName : String)

include hpunctual

/-- The search for a namespace that was created after all makes one call, and no attempt. -/
theorem findCreated_advances (id : String) (failure : Fault Rat) (s : Site Rat ω) :
    Ends (findCreated client baseName id failure) s fun _ t =>
      s.Advances (Asides Call.IsCreation Call.IsCreate 1) t := by
  have hsearch : Ends (Site.call (.listNamespaces client (creationSelector id)) : SiteM Rat ω _) s
      fun _ t => s.Advances (Asides Call.IsCreation Call.IsCreate 1) t :=
    Site.aside_advances hpunctual trivial not_false s
  apply hsearch.bind_attempt
  intro reply t hsearched
  cases reply with
  | ok found =>
    cases found with
    | nil => exact hsearched
    | cons found _ =>
      apply Ends.bind_ok (Site.log_advances _ _ _ t)
      intro u hlogged
      have hadopted : s.Advances (Asides Call.IsCreation Call.IsCreate 1) u :=
        hsearched.append hlogged fun _ _ _ _ h h' => h.append h'
      exact hadopted
  | error e =>
    apply Ends.ite
    · intro _
      exact hsearched
    · intro _
      exact hsearched

/-- An attempt to create a namespace is a request to create it, and at most one search. -/
theorem tryCreate_advances (labels : Labels) (s : Site Rat ω) :
    Ends (tryCreate client baseName labels) s fun _ t =>
      s.Advances (Wait Call.IsCreation Call.IsCreate 2 0) t := by
  apply Ends.bind_ok (Site.freshId_ends s)
  rintro s₁ ⟨hworld, hevents⟩
  have hnow : Host.now s₁.world = Host.now s.world := by
    rw [hworld]
    exact hpunctual.freshId s.world
  generalize (Host.freshId s.world).1 = id
  unfold Site.Advances
  rw [← hnow, ← hevents]
  have hask : Ends (Site.call (.createNamespace client (generateName baseName)
      (putEntry labels creationLabel id)) : SiteM Rat ω _) s₁ fun _ t => s₁.Advances (Wait Call.IsCreation Call.IsCreate 1 0) t :=
    Site.call_advances hpunctual trivial trivial s₁
  apply hask.bind_attempt
  intro reply t hasked
  have more {u : Site Rat ω} {most : Nat} (hmost : most ≤ 1)
      (h : t.Advances (Asides Call.IsCreation Call.IsCreate most) u) :
      s₁.Advances (Wait Call.IsCreation Call.IsCreate 2 0) u :=
    hasked.append h fun start _ _ _ h h' => h.append (h'.mono hmost : Asides _ _ 1 start _)
  have only : s₁.Advances (Wait Call.IsCreation Call.IsCreate 2 0) t :=
    hasked.mono fun _ _ h => ⟨h.toCosts.mono (by decide) le_rfl le_rfl, h.opens⟩
  cases reply with
  | ok made => exact only
  | error e =>
    apply Ends.ite
    · intro _
      exact only
    · intro _
      cases refusal? e with
      | some status =>
        apply Ends.bind_ok (Site.log_advances _ _ _ t)
        intro u hlogged
        exact more (Nat.zero_le 1) hlogged
      | none =>
        apply (findCreated_advances hpunctual client baseName id e t).bind
        · intro found u hsearched
          cases found with
          | none => exact more le_rfl hsearched
          | some _ => exact more le_rfl hsearched
        · intro _ u hsearched
          exact more le_rfl hsearched

variable {timeout : Rat} (htimeout : 0 ≤ timeout)

include htimeout

/-- The attempts to create a namespace are a wait. -/
theorem createWithin_spends (labels : Labels) (s : Site Rat ω) :
    Ends (createWithin client baseName labels timeout Poll.standardInterval) s fun _ t =>
      s.Spends (Waits Call.IsCreation Call.IsCreate (looks timeout * 2) timeout) t := by
  have hsubject : ("namespace creation for " ++ baseName).isEmpty = false :=
    Poll.isEmpty_append (by decide)
  apply Poll.spends hpunctual htimeout hsubject (tryCreate_advances hpunctual client baseName labels)
  rintro _ (_ | _) t <;> rfl

/-- A namespace comes into use during a wait. -/
theorem awaitActive_spends (record : Record) (s : Site Rat ω) :
    Ends (awaitActive client baseName record timeout Poll.standardInterval) s fun _ t =>
      s.Spends (Waits (.readNamespace client record.name = ·) (.readNamespace client record.name = ·)
        (looks timeout) timeout) t := by
  have hsubject : ("namespace " ++ record.name ++ " to become Active").isEmpty = false :=
    Poll.isEmpty_append_append (by decide)
  have hlook (s : Site Rat ω) :
      Ends ((·.isActive) <$> (Site.call (.readNamespace client record.name) : SiteM Rat ω Remote)) s
        fun _ t => s.Advances
          (Wait (.readNamespace client record.name = ·) (.readNamespace client record.name = ·) 1 0) t := by
    apply Ends.map
    exact Site.call_advances hpunctual rfl rfl s
  rw [← Nat.mul_one (looks timeout)]
  apply Poll.spends hpunctual htimeout hsubject fun s => Poll.whether_advances (hlook s)
  rintro _ (_ | _) t <;> rfl

/-- Creating a namespace is one wait, and bringing it into use another. -/
theorem create_spends (labels : Labels) (s : Site Rat ω) :
    Ends (createThrough client baseName labels timeout Poll.standardInterval) s fun _ t =>
      s.Spends (Provides timeout) t := by
  apply (createWithin_spends hpunctual client baseName htimeout labels s).bind
  · intro record s₁ h₁
    apply Ends.bind_ok (Site.log_ends _ _ _ s₁)
    rintro s₂ ⟨_, hlogged⟩
    have h₂ : s.Spends (Creates timeout) s₂ :=
      (h₁.mono fun _ => .inr).before_nothing (.log hlogged)
    apply Ends.ite
    · intro _
      have hactive := (awaitActive_spends hpunctual client baseName htimeout record s₂).mono
        fun _ t h₃ => h₂.append (h₃.mono fun events hwaits => (⟨client, record.name, hwaits⟩ : Activates timeout events))
      apply hactive.bind
      · exact fun _ _ h => h
      · exact fun _ _ h => h
    · intro _
      exact h₂.alone (.nil timeout)
  · intro _ t h
    exact (h.mono fun _ => .inr).alone (.nil timeout)

omit baseName in
/-- A service account comes during a wait. -/
theorem awaitServiceAccount_spends (ns : String) (s : Site Rat ω) :
    Ends (awaitServiceAccountThrough client ns timeout Poll.standardInterval) s fun _ t =>
      s.Spends (Awaits timeout) t := by
  have hsubject : ("service account " ++ defaultAccount ++ " in " ++ ns).isEmpty = false := by
    rw [String.append_assoc]
    exact Poll.isEmpty_append_append (by decide)
  have hlook (s : Site Rat ω) : Ends (do
      Site.call (.readServiceAccount client defaultAccount ns)
      pure true : SiteM Rat ω Bool) s fun _ t => s.Advances
        (Wait (.readServiceAccount client defaultAccount ns = ·)
          (.readServiceAccount client defaultAccount ns = ·) 1 0) t := by
    have hcall : Ends (Site.call (.readServiceAccount client defaultAccount ns) : SiteM Rat ω Unit) s
        fun _ t => s.Advances (Wait (.readServiceAccount client defaultAccount ns = ·)
          (.readServiceAccount client defaultAccount ns = ·) 1 0) t :=
      Site.call_advances hpunctual rfl rfl s
    apply hcall.bind
    · exact fun _ _ h => h
    · exact fun _ _ h => h
  have hwait : Ends (awaitServiceAccountThrough client ns timeout Poll.standardInterval) s fun _ t =>
      s.Spends (Waits (.readServiceAccount client defaultAccount ns = ·)
        (.readServiceAccount client defaultAccount ns = ·) (looks timeout * 1) timeout) t := by
    apply Poll.spends hpunctual htimeout hsubject fun s => Poll.whether_advances (hlook s)
    rintro _ (_ | _) t <;> rfl
  rw [Nat.mul_one] at hwait
  exact hwait.mono fun _ _ h => h.mono fun _ hwaits => ⟨client, ns, hwaits⟩

end Namespace

/-- Calls that make a client for a framework. -/
def Call.IsConnection : Call τ → Prop
  | .loadCluster | .newClient .. => True
  | _ => False

namespace Framework

theorem clientOf_isInstant {k : Nat} (f : Framework τ κ) :
    (clientOf f : BenchM τ ω κ String).Along (IsInstant k) := by
  unfold clientOf
  split
  · exact along_pure _
  · exact along_fail _

theorem present_isInstant {k : Nat} (ns : Option Namespace.Record) :
    (present ns : BenchM τ ω κ Namespace.Record).Along (IsInstant k) := by
  unfold present
  split
  · exact along_pure _
  · exact along_fail _

theorem nameOnly_isInstant [Host τ ω] (k : Nat) :
    (nameOnly k : BenchM τ ω κ Unit).Along (IsInstant k) := by
  apply (frameworkAt_along k).bind
  intro f
  apply Along.bind (onSite_upholds fun s => Site.leaves_of_eq rfl)
  intro bits
  refine Along.bind (update_upholds ?_) ?_
  · exact fun _ => rfl
  · exact fun _ => note_isInstant f _ _ _

variable [Host Rat ω] {config : Config.Suite Rat} {r : Runner Rat ω κ} {k : Nat}

/-- The making of a client, if any. -/
def IsConnecting : List (Event Rat) → Prop := Asides Call.IsConnection (fun _ => False) 2 0

/-- The exchanges and pauses of a setup: those in which it makes its client, those of its hook, and
those of its three waits. -/
structure Phases where
  connecting : List (Event Rat)
  hooked : List (Event Rat)
  creating : List (Event Rat)
  activating : List (Event Rat)
  awaiting : List (Event Rat)

namespace Phases

/-- All of them, in their order. -/
def events (p : Phases) : List (Event Rat) :=
  p.connecting ++ (p.hooked ++ ((p.creating ++ p.activating) ++ p.awaiting))

/-- The phases keep to the timeouts of this configuration. What the hook does has the property that
hooks are supposed to have, if the setup comes to it. -/
structure KeepTo (p : Phases) (config : Config.Suite Rat) (H : List (Event Rat) → Prop) : Prop where
  connecting : IsConnecting p.connecting
  hooked : p.hooked = [] ∨ H p.hooked
  creating : Creates config.namespaceCreationTimeout p.creating
  activating : Activates config.namespaceCreationTimeout p.activating
  awaiting : Awaits config.serviceAccountTimeout p.awaiting

variable {p : Phases} {config : Config.Suite Rat} {H : List (Event Rat) → Prop}

theorem KeepTo.slept_le (h : p.KeepTo config H) (hcreation : 0 ≤ config.namespaceCreationTimeout)
    (haccount : 0 ≤ config.serviceAccountTimeout) :
    slept p.creating ≤ config.namespaceCreationTimeout ∧
      slept p.activating ≤ config.namespaceCreationTimeout ∧
      slept p.awaiting ≤ config.serviceAccountTimeout ∧
      slept p.events ≤
        slept p.hooked + (2 * config.namespaceCreationTimeout + config.serviceAccountTimeout) := by
  have hconnecting : slept p.connecting ≤ 0 := (h.connecting 0).slept
  have hcreating : slept p.creating ≤ config.namespaceCreationTimeout := by
    rcases h.creating with hstrategy | hwaits
    · exact (hstrategy 0).slept.trans hcreation
    · exact hwaits.slept_le hcreation
  obtain ⟨_, _, hactive⟩ := h.activating
  obtain ⟨_, _, hawaits⟩ := h.awaiting
  have hactivating := hactive.slept_le hcreation
  have hawaiting := hawaits.slept_le haccount
  refine ⟨hcreating, hactivating, hawaiting, ?_⟩
  simp only [events, slept_append]
  linarith

theorem KeepTo.calls_le (h : p.KeepTo config H) :
    (callsIn p.events).length ≤ (callsIn p.hooked).length +
      (2 + 3 * looks config.namespaceCreationTimeout + looks config.serviceAccountTimeout) := by
  have hconnecting := (h.connecting 0).count
  have hcreating : (callsIn p.creating).length ≤ looks config.namespaceCreationTimeout * 2 := by
    rcases h.creating with hstrategy | hwaits
    · have hone := (hstrategy 0).count
      unfold looks
      omega
    · exact hwaits.count_le
  obtain ⟨_, _, hactive⟩ := h.activating
  obtain ⟨_, _, hawaits⟩ := h.awaiting
  have hactivating := hactive.count_le
  have hawaiting := hawaits.count_le
  simp only [events, callsIn_append, List.length_append]
  omega

end Phases

section Stages

variable (hpunctual : Punctual ω)

include hpunctual

theorem takes_connect (component : Option String) :
    Takes config k IsConnecting (connect k component : BenchM Rat ω κ Unit) := by
  have hmake (options : Config.ClientOptions Rat) (s : Site Rat ω) :
      Ends (Cluster.connect options component) s fun _ t => s.Spends IsConnecting t := by
    have hload : Ends (Site.call .loadCluster : SiteM Rat ω Unit) s fun _ t =>
        s.Advances (Asides Call.IsConnection (fun _ => False) 1) t :=
      Site.aside_advances hpunctual trivial not_false s
    apply hload.bind
    · intro _ s₁ h₁
      have hnew : Ends (Site.call (.newClient options.qps options.burst component)
          : SiteM Rat ω String) s₁ fun _ t =>
          s₁.Advances (Asides Call.IsConnection (fun _ => False) 1) t :=
        Site.aside_advances hpunctual trivial not_false s₁
      apply hnew.mono
      intro _ t h₂
      have hboth : s.Advances (Asides Call.IsConnection (fun _ => False) 2) t :=
        h₁.append h₂ fun _ _ _ _ h h' => h.append h'
      obtain ⟨_, new, hevents, hcosts⟩ := hboth
      exact ⟨new, hevents, hcosts.timed⟩
    · rintro _ t ⟨_, new, hevents, hcosts⟩
      exact ⟨new, hevents, (hcosts.mono (Nat.le_succ 1)).timed⟩
  apply Takes.read
  intro f _
  apply Takes.ite
  · intro _
    apply (Takes.of_isInstant (along_pure ())).mono
    rintro _ rfl
    exact Asides.nil 0
  · intro _
    apply Takes.after (note_isInstant f _ _ _)
    · intro _
      apply ((Takes.onSite (hmake f.options)).inStage _ _).before
      exact fun client => update_upholds fun _ => rfl
    · exact Asides.nil 0

variable (hcreation : 0 ≤ config.namespaceCreationTimeout)

include hcreation

theorem takes_provide {f : Framework Rat κ} (hlive : f.cluster = .live config) (baseName : String)
    (labels : Labels) : Takes config k (Provides config.namespaceCreationTimeout)
      (provide f baseName labels : BenchM Rat ω κ (Option Namespace.Record)) := by
  apply Takes.after (clientOf_isInstant f)
  · intro client
    apply Takes.ite
    · intro _
      apply Takes.onSite
      intro s
      have hcall : Ends (Site.call (.customProvide baseName client labels) : SiteM Rat ω _) s
          fun _ t => s.Advances (Asides Call.IsStrategy (fun _ => False) 1) t :=
        Site.aside_advances hpunctual trivial not_false s
      apply hcall.mono
      rintro _ t ⟨_, new, hevents, hcosts⟩
      refine Site.Spends.alone ⟨new, hevents, ?_⟩ (.nil _)
      exact .inl hcosts.timed
    · intro _
      rw [hlive, map_eq_pure_bind]
      apply (Takes.onSite fun s => Namespace.create_spends hpunctual client baseName hcreation labels s).before
      exact fun _ => along_pure _
  · exact .nil _

theorem takes_createNamespace (baseName : String) (labels : Labels) :
    Takes config k (Provides config.namespaceCreationTimeout)
      (createNamespace k baseName labels : BenchM Rat ω κ (Option Namespace.Record)) := by
  apply Takes.read
  intro f hlive
  apply (takes_provide hpunctual hcreation hlive baseName labels).attempt.before
  intro ending
  have htaken : (takeCustody k (handedOver ending).toList : BenchM Rat ω κ Unit).Along (IsInstant k) :=
    record_upholds rfl
  apply htaken.bind
  intro _
  cases ending with
  | ok record => exact Along.bind (update_upholds fun _ => rfl) fun _ => along_pure record
  | error e => exact Along.bind (update_upholds fun _ => rfl) fun _ => along_fail e

omit hcreation in
theorem takes_awaitServiceAccount (haccount : 0 ≤ config.serviceAccountTimeout)
    (ns : Option Namespace.Record) : Takes config k (Awaits config.serviceAccountTimeout)
      (awaitServiceAccount k ns : BenchM Rat ω κ Unit) := by
  apply Takes.read
  intro f hlive
  apply Takes.ite
  · intro _
    apply Takes.after (present_isInstant ns)
    · intro record
      apply Takes.after (note_isInstant f _ _ _)
      · intro _
        apply Takes.inStage
        apply Takes.after (clientOf_isInstant f)
        · intro client
          rw [hlive]
          apply Takes.onSite
          exact Namespace.awaitServiceAccount_spends hpunctual client haccount record.name
        · exact .nil _
      · exact .nil _
    · exact .nil _
  · intro _
    apply (Takes.of_isInstant (note_isInstant f _ _ _)).mono
    rintro _ rfl
    exact .nil _

variable (haccount : 0 ≤ config.serviceAccountTimeout) {H : List (Event Rat) → Prop}

include haccount

theorem takes_createOwn :
    Takes config k (CreatesOwn config) (createOwn k : BenchM Rat ω κ Unit) := by
  apply Takes.read
  intro f _
  apply Takes.after (note_isInstant f _ _ _) _ (.nil config)
  intro _
  apply ((takes_createNamespace hpunctual hcreation _ _).inStage _ _).bind _ (.nil _)
  intro ns
  refine Takes.after (update_upholds ?_) ?_ (.nil _)
  · exact fun _ => rfl
  · intro _
    apply (takes_awaitServiceAccount hpunctual haccount ns).before
    intro _
    apply (present_isInstant ns).bind
    intro record
    refine Along.bind (update_upholds ?_) ?_
    · exact fun _ => rfl
    · exact fun _ => note_isInstant f _ _ _

theorem takes_prepare (hhook : Takes config k H (hook r k .before)) (component : Option String) :
    Takes config k (fun events => ∃ p : Phases, events = p.events ∧ p.KeepTo config H)
      (prepare r k component) := by
  have howned : Takes config k (CreatesOwn config) (do
      let f ← frameworkAt k
      if f.skipNamespace then nameOnly k else createOwn k : BenchM Rat ω κ Unit) := by
    apply Takes.read
    intro f _
    apply Takes.ite
    · intro _
      apply (Takes.of_isInstant (nameOnly_isInstant k)).mono
      rintro _ rfl
      exact .nil config
    · intro _
      exact takes_createOwn hpunctual hcreation haccount
  have hhooked : Takes config k (fun events => events = [] ∨ H events) (hook r k .before) :=
    hhook.mono fun _ => .inr
  have hrest := hhooked.bind (fun _ => howned) (.nil config)
  have hnil : Splits (fun events => events = [] ∨ H events) (CreatesOwn config) [] :=
    .nil (.inl rfl) (.nil config)
  apply ((takes_connect hpunctual component).bind (fun _ => hrest) hnil).mono
  rintro _ ⟨connecting, _, rfl, hconnecting, hooked, _, rfl, hhooked, _, awaiting, rfl,
    ⟨creating, activating, rfl, hcreating, hactivating⟩, hawaiting⟩
  exact ⟨⟨connecting, hooked, creating, activating, awaiting⟩, rfl,
    ⟨hconnecting, hhooked, hcreating, hactivating, hawaiting⟩⟩

/-- A setup on a live cluster ends after a bounded number of calls. Beyond its hook it sleeps no
longer than its three waits may, each of which comes at most once, keeps to its own timeout, and
begins no poll after its own deadline. -/
theorem setup_within_timeouts {b : Bench Rat ω κ} {f : Framework Rat κ}
    (hf : b.frameworks[k]? = some f) (hlive : f.cluster = .live config)
    (hhook : Takes config k H (hook r k .before)) (component : Option String) :
    Ends (beforeEach r k component) b fun _ b' => ∃ (new : List (Event Rat)) (p : Phases),
      b'.site.events = b.site.events ++ new ∧ timed new = p.events ∧ p.KeepTo config H ∧
      slept p.creating ≤ config.namespaceCreationTimeout ∧
      slept p.activating ≤ config.namespaceCreationTimeout ∧
      slept p.awaiting ≤ config.serviceAccountTimeout ∧
      slept new ≤
        slept p.hooked + (2 * config.namespaceCreationTimeout + config.serviceAccountTimeout) ∧
      (callsIn new).length ≤ (callsIn p.hooked).length +
        (2 + 3 * looks config.namespaceCreationTimeout + looks config.serviceAccountTimeout) := by
  have hsetup : Takes config k (fun events => ∃ p : Phases, events = p.events ∧ p.KeepTo config H)
      (beforeEach r k component) := by
    have hnil : ∃ p : Phases, [] = p.events ∧ p.KeepTo config H :=
      ⟨⟨[], [], [], [], []⟩, rfl, Asides.nil 0, .inl rfl, .nil _, .nil _, .nil _⟩
    have henrolls : (enroll k : BenchM Rat ω κ Unit).Along (IsInstant k) := enroll_upholds fun _ _ => rfl
    apply Takes.after henrolls _ hnil
    intro _
    apply Takes.read
    intro f _
    apply (takes_prepare hpunctual hcreation haccount hhook component).attempt.before
    intro ending
    refine Along.bind (record_upholds ?_) ?_
    · rfl
    · exact fun _ => along_conclude ending
  apply (hsetup b ⟨f, hf, hlive⟩).mono
  rintro _ b' ⟨⟨new, hnew, p, hphases, hkeeps⟩, _⟩
  obtain ⟨hcreating, hactivating, hawaiting, hall⟩ := hkeeps.slept_le hcreation haccount
  have hcalls := hkeeps.calls_le
  rw [← hphases, slept_timed] at hall
  rw [← hphases, callsIn_timed] at hcalls
  exact ⟨new, p, hnew, hphases, hkeeps, hcreating, hactivating, hawaiting, hall, hcalls⟩

end Stages

section Slow

open Scripted

/-- A world on which the first attempt of each wait fails. -/
def slowWorld : Timely :=
  .start
    [("api.create_namespace", [⟨some 1, 1, .raise (.plain .connection [])⟩]),
     ("api.read_namespace",
       [⟨some 1, 0, .give (.table [("name", .text "web-00001"), ("phase", .text "Pending")])⟩]),
     ("api.read_service_account", [⟨some 1, 0, .raise .notFound⟩])]
    (by decide +kernel)

/-- Half a minute for each part of the creation, and two minutes for the service account. -/
def slowConfig : Config.Suite Rat :=
  { (Config.Suite.standard : Config.Suite Rat) with
    namespaceCreationTimeout := 30, serviceAccountTimeout := 120 }

/-- A framework of a live cluster whose provider has hooks. -/
def slowSetup : Bench Rat Timely Unit :=
  { Bench.start slowWorld with
    frameworks := [.fresh
      { baseName := "web", options := .standard, suite := .standard, cluster := .live slowConfig,
        provider := some ⟨(), ()⟩, customCreation := false, skipNamespace := false,
        skipServiceAccountWait := false, deletionTimeout := none } none] }

/-- Hooks that sleep for a second. -/
def slowHooks : Runner Rat Timely Unit := ⟨fun _ _ => onSite (Site.pause 1), 1⟩

theorem takes_slowHooks :
    Takes slowConfig 0 (fun events => slept events ≤ 1) (hook slowHooks 0 .before) := by
  apply Takes.read
  intro f _
  cases f.provider with
  | none =>
    apply (Takes.of_isInstant (along_pure ())).mono
    rintro _ rfl
    decide +kernel
  | some p =>
    refine Takes.after (onSite_upholds fun s => ?_) (fun _ => Takes.onSite fun s => ?_) ?_
    · exact ⟨_, Site.events_record _ s, by simp [Event.isTimed]⟩
    · exact ⟨[.pause 1], (Site.pause_ends 1 s).2.2, by decide +kernel⟩
    · decide +kernel

/-- Each wait sleeps once, and the hook sleeps a second. -/
theorem setup_within_timeouts_slow :
    (0 : Rat) ≤ 30 ∧ (0 : Rat) ≤ 120 ∧
      slept (Trace.of (beforeEach slowHooks 0 none) slowSetup).events = 7 ∧
      Ends (beforeEach slowHooks 0 none) slowSetup fun _ b' =>
        ∃ (new : List (Event Rat)) (p : Phases),
          b'.site.events = slowSetup.site.events ++ new ∧ timed new = p.events ∧
          p.KeepTo slowConfig (fun events => slept events ≤ 1) ∧
          slept p.creating ≤ 30 ∧ slept p.activating ≤ 30 ∧ slept p.awaiting ≤ 120 ∧
          slept new ≤ slept p.hooked + (2 * 30 + 120) ∧
          (callsIn new).length ≤ (callsIn p.hooked).length + (2 + 3 * looks 30 + looks 120) := by
  have hcreation : (0 : Rat) ≤ 30 := by decide +kernel
  have haccount : (0 : Rat) ≤ 120 := by decide +kernel
  refine ⟨hcreation, haccount, by decide +kernel, ?_⟩
  exact setup_within_timeouts (b := slowSetup) Timely.punctual hcreation haccount rfl rfl
    takes_slowHooks none

end Slow

end Framework

end Testbed
