import Mathlib.Algebra.Order.Group.Multiset
import Mathlib.Tactic.Abel
import Testbed.Proofs.Custody
import Testbed.Proofs.TestCode

/-!
# Clients of frameworks

A framework that brings no client makes one when it is set up, and owns it until a teardown closes
it. `Accounts` relates the history of a run to the frameworks at its end: the clients that were made
are those that were closed and those that are owned, and every call fits what came before it. All
code of tests keeps these accounts, however its parts end.
-/

set_option autoImplicit false

namespace Testbed

open Proc Bench Framework

variable {τ ω κ α : Type}

/-- The client that an event makes, if it does. -/
def Event.made? : Event τ → Option String
  | .exchange _ (.newClient ..) (.ok client) => some client
  | _ => none

/-- The client that an event closes, if it does. An attempt counts, however it ends. -/
def Event.closed? : Event τ → Option String
  | .exchange _ (.closeClient client) _ => some client
  | _ => none

/-- The clients that were made, each as often as it was. -/
def madeIn (events : List (Event τ)) : Multiset String := events.filterMap Event.made?

/-- The clients that were closed, each as often as it was. -/
def closedIn (events : List (Event τ)) : Multiset String := events.filterMap Event.closed?

/-- The client was made more often than it was closed. -/
def IsOpen (events : List (Event τ)) (client : String) : Prop :=
  (closedIn events).count client < (madeIn events).count client

/-- After these events the call uses clients as it may: it closes none but an open one, and goes
through none but an open or an injected one. -/
structure Call.Fits (injected : String → Prop) (past : List (Event τ)) (c : Call τ) : Prop where
  closes : ∀ client, c = .closeClient client → IsOpen past client
  goes : c.isOperation = true →
    ∃ client, c.GoesThrough client ∧ (IsOpen past client ∨ injected client)

/-- Every call fits what came before it. -/
def Orderly (injected : String → Prop) (events : List (Event τ)) : Prop :=
  ∀ past time c reply later, events = past ++ .exchange time c reply :: later → c.Fits injected past

/-- The event makes and closes no client, and goes through none. -/
structure Event.IsIdle (e : Event τ) : Prop where
  made : e.made? = none
  closed : e.closed? = none
  call : ∀ c, e.call? = some c → c.isOperation = false

/-- The client that a framework has made and not yet closed, if any. -/
def Framework.owned (f : Framework τ κ) : List String := if f.ownsClient then f.client.toList else []

/-- What frameworks hold together. -/
def tally (w : Framework τ κ → List String) (fs : List (Framework τ κ)) : Multiset String :=
  fs.flatMap w

section Tally

variable {w : Framework τ κ → List String} {g : Framework τ κ → Framework τ κ}
  {fs : List (Framework τ κ)} {k : Nat}

theorem tally_modify_eq (h : ∀ f, w (g f) = w f) : tally w (fs.modify k g) = tally w fs := by
  have hmap : (fs.modify k g).map w = fs.map w := by
    apply List.ext_getElem?
    intro i
    rw [List.getElem?_map, List.getElem?_map, List.getElem?_modify]
    cases fs[i]? with
    | none => rfl
    | some f =>
      by_cases hi : k = i
      · simp [hi, h]
      · simp [hi]
  unfold tally
  rw [List.flatMap_def, List.flatMap_def, hmap]

/-- When one framework changes, the others hold what they held. -/
theorem tally_modify {f : Framework τ κ} (hf : fs[k]? = some f) :
    tally w (fs.modify k g) + (w f : Multiset String) =
      tally w fs + (w (g f) : Multiset String) := by
  obtain ⟨hk, hfk⟩ := List.getElem?_eq_some_iff.1 hf
  obtain ⟨earlier, a, later, rfl, rfl, hmodify⟩ := List.exists_of_modify g hk
  have ha : a = f := by simpa using hfk
  subst ha
  rw [hmodify]
  simp only [tally, List.flatMap_append, List.flatMap_cons, ← Multiset.coe_add]
  abel

theorem mem_tally {f : Framework τ κ} {client : String} (hf : fs[k]? = some f)
    (hmem : client ∈ w f) : client ∈ tally w fs :=
  Multiset.mem_coe.2 (List.mem_flatMap.2 ⟨f, List.mem_of_getElem? hf, hmem⟩)

end Tally

/-- The books on clients, after these events and with these frameworks. -/
structure Accounts (injected : String → Prop) (past : List (Event τ)) (fs : List (Framework τ κ)) :
    Prop where
  orderly : Orderly injected past
  balance : madeIn past = closedIn past + tally Framework.owned fs
  held : ∀ (k : Nat) f client, fs[k]? = some f → f.client = some client →
    f.ownsClient = true ∨ injected client

section

variable {injected : String → Prop} {past new later : List (Event τ)} {fs fs' : List (Framework τ κ)}
  {k : Nat} {f : Framework τ κ} {client : String}

@[simp] theorem madeIn_append : madeIn (past ++ new) = madeIn past + madeIn new := by
  simp [madeIn]

@[simp] theorem closedIn_append : closedIn (past ++ new) = closedIn past + closedIn new := by
  simp [closedIn]

theorem Orderly.snoc {e : Event τ} (h : Orderly injected past)
    (he : ∀ c, e.call? = some c → c.Fits injected past) : Orderly injected (past ++ [e]) := by
  intro before time c reply after heq
  obtain rfl | ⟨rest, last, rfl⟩ := List.eq_nil_or_concat after
  · obtain ⟨rfl, hlast⟩ := List.append_inj' heq rfl
    cases hlast
    exact he c rfl
  · rw [List.concat_eq_append, ← List.cons_append, ← List.append_assoc] at heq
    obtain ⟨hpast, _⟩ := List.append_inj' heq rfl
    exact h before time c reply rest hpast

theorem Event.IsIdle.fits {e : Event τ} (h : e.IsIdle) {c : Call τ} (hc : e.call? = some c) :
    c.Fits injected past := by
  refine ⟨?_, ?_⟩
  · rintro client rfl
    cases e with
    | exchange _ c _ =>
      cases hc
      cases h.closed
    | _ => cases hc
  · intro hop
    rw [h.call c hc] at hop
    cases hop

/-- An exchange for a call that concerns no client, or that only goes through one, makes and closes
none. -/
theorem made_closed_eq_none {c : Call τ} (h : c.isClientless = true ∨ c.isOperation = true) (time : τ)
    (reply : Except (Fault τ) c.Reply) :
    (Event.exchange time c reply).made? = none ∧ (Event.exchange time c reply).closed? = none := by
  cases c <;> first
    | exact ⟨rfl, rfl⟩
    | simp [Call.isClientless, Call.isOperation] at h

theorem Event.Among.isIdle {calls : Call τ → Prop} (hcalls : ∀ c, calls c → c.isClientless = true)
    {e : Event τ} (h : e.Among calls) : e.IsIdle := by
  cases e with
  | exchange time c reply =>
    have hc := hcalls c h
    obtain ⟨hmade, hclosed⟩ := made_closed_eq_none (.inl hc) time reply
    refine ⟨hmade, hclosed, ?_⟩
    rintro _ ⟨⟩
    cases c <;> first | rfl | cases hc
  | custody => exact h.elim
  | _ => exact ⟨rfl, rfl, by rintro _ ⟨⟩⟩

theorem idle_of_log (entry : LogEntry τ) : ∀ e ∈ [Event.log entry], e.IsIdle := by
  rintro _ (_ | ⟨_, ⟨⟩⟩)
  exact ⟨rfl, rfl, by rintro _ ⟨⟩⟩

namespace Accounts

/-- A client that a framework holds is open, or was injected. -/
theorem isOpen (h : Accounts injected past fs) (hf : fs[k]? = some f)
    (hclient : f.client = some client) : IsOpen past client ∨ injected client := by
  apply (h.held k f client hf hclient).imp_left
  intro howns
  have hmem : client ∈ f.owned := by simp [Framework.owned, howns, hclient]
  have hcount := Multiset.count_pos.2 (mem_tally hf hmem)
  unfold IsOpen
  rw [h.balance, Multiset.count_add]
  omega

/-- An event that makes and closes no client. -/
theorem event {e : Event τ} (h : Accounts injected past fs)
    (hfits : ∀ c, e.call? = some c → c.Fits injected past) (hmade : e.made? = none)
    (hclosed : e.closed? = none) : Accounts injected (past ++ [e]) fs where
  orderly := h.orderly.snoc hfits
  balance := by simpa [madeIn, closedIn, hmade, hclosed] using h.balance
  held := h.held

theorem idle (h : Accounts injected past fs) (hnew : ∀ e ∈ new, e.IsIdle) :
    Accounts injected (past ++ new) fs := by
  induction new generalizing past with
  | nil => rwa [List.append_nil]
  | cons e rest ih =>
    have he := hnew e (List.mem_cons_self ..)
    rw [List.append_cons]
    apply ih (h.event (fun _ => he.fits) he.made he.closed)
    exact fun e' he' => hnew e' (List.mem_cons_of_mem _ he')

/-- Calls through the client that a framework holds. -/
theorem serve {calls : Call τ → Prop} (h : Accounts injected past fs) (hf : fs[k]? = some f)
    (hcalls : ∀ c, calls c → ∃ client, f.client = some client ∧ c.GoesThrough client)
    (hnew : ∀ e ∈ new, e.Among calls) : Accounts injected (past ++ new) fs := by
  induction new generalizing past with
  | nil => rwa [List.append_nil]
  | cons e rest ih =>
    rw [List.append_cons]
    apply ih _ fun e' he' => hnew e' (List.mem_cons_of_mem _ he')
    have he := hnew e (List.mem_cons_self ..)
    cases e with
    | exchange time c reply =>
      obtain ⟨client, hclient, hgoes⟩ := hcalls c he
      obtain ⟨hmade, hclosed⟩ := made_closed_eq_none (.inr hgoes.isOperation) time reply
      refine h.event ?_ hmade hclosed
      rintro _ ⟨⟩
      refine ⟨?_, fun _ => ⟨client, hgoes, h.isOpen hf hclient⟩⟩
      rintro _ rfl
      cases hgoes
    | custody => exact he.elim
    | _ => exact h.event (by rintro _ ⟨⟩) rfl rfl

/-- Nothing has changed in the clients of the frameworks. -/
theorem congr (h : Accounts injected past fs)
    (hsame : fs'.map (fun f => (f.client, f.ownsClient)) =
      fs.map fun f => (f.client, f.ownsClient)) : Accounts injected past fs' where
  orderly := h.orderly
  balance := by
    have howned (fs : List (Framework τ κ)) : tally Framework.owned fs =
        ((fs.map fun f => (f.client, f.ownsClient)).flatMap fun p =>
          if p.2 then p.1.toList else [] : List String) := by
      rw [tally, List.flatMap_map]
      rfl
    rw [howned, hsame, ← howned]
    exact h.balance
  held := by
    intro k f client hf hclient
    have hpair := congrArg (·[k]?) hsame
    simp only [List.getElem?_map, hf, Option.map_some] at hpair
    obtain ⟨f', hf', heq⟩ := Option.map_eq_some_iff.1 hpair.symm
    obtain ⟨hclient', howns⟩ := Prod.mk.inj heq
    rw [← howns]
    exact h.held k f' client hf' (by rw [hclient', hclient])

/-- One framework has changed, and the others hold their clients as before. -/
theorem held_modify {g : Framework τ κ → Framework τ κ} (h : Accounts injected past fs)
    (hg : ∀ f client, (g f).client = some client → (g f).ownsClient = true) (j : Nat)
    (f : Framework τ κ) (client : String) (hf : (fs.modify k g)[j]? = some f)
    (hclient : f.client = some client) : f.ownsClient = true ∨ injected client := by
  rw [List.getElem?_modify] at hf
  obtain ⟨f', hf', rfl⟩ := Option.map_eq_some_iff.1 hf
  split at hclient
  · rename_i hj
    rw [if_pos hj]
    exact .inl (hg f' client hclient)
  · rename_i hj
    rw [if_neg hj]
    exact h.held j f' client hf' hclient

/-- A framework without a client makes one and owns it. -/
theorem make (h : Accounts injected past fs) (hf : fs[k]? = some f) (hnone : f.client = none)
    (time qps : τ) (burst : Int) (component : Option String) :
    Accounts injected (past ++ [.exchange time (.newClient qps burst component) (.ok client)])
      (fs.modify k fun f => { f with client := some client, ownsClient := true }) where
  orderly := by
    apply h.orderly.snoc
    rintro _ ⟨⟩
    exact ⟨(by rintro _ ⟨⟩), (by rintro ⟨⟩)⟩
  balance := by
    have hunowned : f.owned = [] := by simp [Framework.owned, hnone]
    have htally := tally_modify (w := Framework.owned)
      (g := fun f => { f with client := some client, ownsClient := true }) hf
    have hmade : madeIn [.exchange time (.newClient qps burst component) (.ok client)] =
        {client} := rfl
    have hclosed : closedIn [.exchange time (.newClient qps burst component) (.ok client)] = 0 := rfl
    rw [hunowned, Multiset.coe_nil, add_zero] at htally
    rw [madeIn_append, closedIn_append, h.balance, htally, hmade, hclosed, add_zero, add_assoc]
    rfl
  held := h.held_modify fun _ _ _ => rfl

/-- A framework that owns its client closes it and forgets it. -/
theorem close (h : Accounts injected past fs) (hf : fs[k]? = some f) (howns : f.ownsClient = true)
    (hclient : f.client = some client) (time : τ) (reply : Except (Fault τ) Unit) :
    Accounts injected (past ++ [.exchange time (.closeClient client) reply])
      (fs.modify k Framework.reset) where
  orderly := by
    apply h.orderly.snoc
    rintro _ ⟨⟩
    refine ⟨?_, by rintro ⟨⟩⟩
    rintro _ ⟨⟩
    have hmem : client ∈ f.owned := by simp [Framework.owned, howns, hclient]
    have hcount := Multiset.count_pos.2 (mem_tally hf hmem)
    unfold IsOpen
    rw [h.balance, Multiset.count_add]
    omega
  balance := by
    have htally := tally_modify (w := Framework.owned) (g := Framework.reset) hf
    have howned : f.owned = [client] := by simp [Framework.owned, howns, hclient]
    have hreset : f.reset.owned = [] := rfl
    have hmade : madeIn [.exchange time (.closeClient client) reply] = 0 := rfl
    have hclosed : closedIn [.exchange time (.closeClient client) reply] = {client} := rfl
    rw [howned, hreset, Multiset.coe_nil, add_zero, Multiset.coe_singleton] at htally
    rw [madeIn_append, closedIn_append, h.balance, ← htally, hmade, hclosed]
    abel
  held := h.held_modify fun _ _ hnone => by cases hnone

/-- A framework that owns no client forgets the one that it holds. -/
theorem forget (h : Accounts injected past fs) (hf : fs[k]? = some f) (hunowned : f.owned = []) :
    Accounts injected past (fs.modify k Framework.reset) where
  orderly := h.orderly
  balance := by
    have htally := tally_modify (w := Framework.owned) (g := Framework.reset) hf
    have hreset : f.reset.owned = [] := rfl
    rw [hunowned, hreset, add_left_inj] at htally
    rw [htally]
    exact h.balance
  held := h.held_modify fun _ _ hnone => by cases hnone

end Accounts

end

namespace Bench

/-- The frameworks keep their clients, and nothing is done with any client. -/
structure Steady (b b' : Bench τ ω κ) : Prop where
  events : ∃ new, b'.site.events = b.site.events ++ new ∧ ∀ e ∈ new, e.IsIdle
  clients : b'.frameworks.map (fun f => (f.client, f.ownsClient)) =
    b.frameworks.map fun f => (f.client, f.ownsClient)

/-- The second bench is a later one of the same run, and unless a teardown was cut short on the
way, the accounts hold on it if they hold on the first one. -/
def KeepsAccounts (injected : String → Prop) (b b' : Bench τ ω κ) : Prop :=
  ∃ new, b'.site.events = b.site.events ++ new ∧ (Undisturbed new → ∀ past,
    Accounts injected past b.frameworks → Accounts injected (past ++ new) b'.frameworks)

/-- The second bench is a later one of the same run, and unless a teardown was cut short on the
way, the framework has no client on it. -/
def Forgets (k : Nat) (b b' : Bench τ ω κ) : Prop :=
  ∃ new, b'.site.events = b.site.events ++ new ∧ (Undisturbed new → ∀ f,
    b'.frameworks[k]? = some f → f.client = none ∧ f.ownsClient = false)

variable {injected : String → Prop}

instance : IsPreorder (Bench τ ω κ) (KeepsAccounts injected) where
  refl b := by
    refine ⟨[], (List.append_nil _).symm, ?_⟩
    intro _ past h
    rwa [List.append_nil]
  trans := by
    rintro a b c ⟨new, hnew, hab⟩ ⟨later, hlater, hbc⟩
    refine ⟨new ++ later, by rw [hlater, hnew, List.append_assoc], ?_⟩
    intro hcalm past h
    rw [Undisturbed.append] at hcalm
    rw [← List.append_assoc]
    exact hbc hcalm.2 _ (hab hcalm.1 past h)

theorem Steady.keepsAccounts {b b' : Bench τ ω κ} (h : Steady b b') :
    KeepsAccounts injected b b' := by
  obtain ⟨new, hnew, hidle⟩ := h.events
  exact ⟨new, hnew, fun _ _ haccounts => (haccounts.congr h.clients).idle hidle⟩

theorem Adds.steady {new : List (Event τ)} {b b' : Bench τ ω κ} (h : Adds new b b')
    (hidle : ∀ e ∈ new, e.IsIdle) : Steady b b' where
  events := ⟨new, h.2, hidle⟩
  clients := by rw [h.frameworks]

theorem AtSite.steady {calls : Call τ → Prop} (hcalls : ∀ c, calls c → c.isClientless = true)
    {b b' : Bench τ ω κ} (h : AtSite calls b b') : Steady b b' := by
  obtain ⟨new, hadds, hamong⟩ := h.adds
  exact hadds.steady fun e he => (hamong e he).isIdle hcalls

/-- A change of the registry, and work at the site after it. -/
theorem steady_of_registry {registry : Registry (Duty κ) (Except (Fault τ) Unit)}
    {b b' : Bench τ ω κ} (h : AtSite (fun _ => False) { b with registry } b') : Steady b b' := by
  obtain ⟨hevents, hclients⟩ := h.steady fun _ => False.elim
  exact ⟨hevents, hclients⟩

/-- A change of the bench that leaves its site and its frameworks. -/
theorem steady_of_eq {b b' : Bench τ ω κ} (hsite : b'.site = b.site)
    (hframeworks : b'.frameworks = b.frameworks) : Steady b b' where
  events := ⟨[], by rw [hsite, List.append_nil], fun _ he => nomatch he⟩
  clients := by rw [hframeworks]

theorem update_steady {k : Nat} {g : Framework τ κ → Framework τ κ}
    (hclient : ∀ f, (g f).client = f.client) (howns : ∀ f, (g f).ownsClient = f.ownsClient) :
    (update k g : BenchM τ ω κ Unit).Along Steady := by
  apply along_modify
  intro b
  refine ⟨⟨[], (List.append_nil _).symm, fun _ he => nomatch he⟩, ?_⟩
  apply List.ext_getElem?
  intro i
  rw [List.getElem?_map, List.getElem?_map, List.getElem?_modify]
  cases b.frameworks[i]? with
  | none => rfl
  | some f =>
    by_cases hi : k = i
    · simp [hi, hclient, howns]
    · simp [hi]

theorem record_steady {e : Event τ} (he : e.IsIdle) :
    (onSite (Site.record e) : BenchM τ ω κ Unit).Along Steady := by
  intro b
  apply (record_adds e b).mono
  rintro _ b' ⟨_, h⟩
  apply h.steady
  rintro _ (_ | ⟨_, ⟨⟩⟩)
  exact he

theorem mark_steady [Host τ ω] (m : Mark) :
    (onSite (Site.mark m) : BenchM τ ω κ Unit).Along Steady :=
  (onSite_atSite (Site.makes_mark m)).mono fun _ _ h => h.steady fun _ => False.elim

theorem place_keepsAccounts (settings : Settings τ κ) {client : Option String}
    (h : ∀ c, client = some c → injected c) :
    (place (.fresh settings client) : BenchM τ ω κ Nat).Along (KeepsAccounts injected) := by
  apply Along.bind along_get
  intro b
  refine Along.bind (along_modify ?_) fun _ => along_pure _
  intro b
  refine ⟨[], (List.append_nil _).symm, ?_⟩
  intro _ past haccounts
  rw [List.append_nil]
  refine ⟨haccounts.orderly, ?_, ?_⟩
  · have hunowned : (Framework.fresh settings client).owned = [] := rfl
    have htally : tally Framework.owned (b.frameworks ++ [.fresh settings client]) =
        tally Framework.owned b.frameworks := by
      simp [tally, hunowned]
    rw [htally]
    exact haccounts.balance
  · intro k f c hf hc
    rw [List.getElem?_append] at hf
    split at hf
    · exact haccounts.held k f c hf hc
    · obtain rfl := List.mem_singleton.1 (List.mem_of_getElem? hf)
      exact .inr (h c hc)

end Bench

namespace Framework

variable {injected : String → Prop} {k : Nat} [Host τ ω]

omit [Host τ ω] in
/-- Calls through the client of a framework keep the accounts. -/
theorem keepsAccounts_of_calls {calls : Call τ → Prop} {f : Framework τ κ} {b b' : Bench τ ω κ}
    (hf : b.frameworks[k]? = some f)
    (hcalls : ∀ c, calls c → ∃ client, f.client = some client ∧ c.GoesThrough client)
    (h : AtSite calls b b') : KeepsAccounts injected b b' := by
  obtain ⟨new, hadds, hamong⟩ := h.adds
  refine ⟨new, hadds.2, ?_⟩
  intro _ past haccounts
  rw [hadds.frameworks]
  exact haccounts.serve hf hcalls hamong

/-- Work that a client of a framework serves keeps the accounts. -/
theorem serve_keepsAccounts {x : BenchM τ ω κ α}
    (h : IsServed (fun _ => True) k (fun _ => True) x) : x.Along (KeepsAccounts injected) := by
  obtain ⟨rest, rfl, hrest⟩ := h
  intro b
  apply Ends.bind (frameworkAt_found k b)
  · rintro f b ⟨rfl, hf⟩
    apply (atSite_of_madeOf (hrest f) b).mono
    intro _ b' h'
    exact keepsAccounts_of_calls hf (fun _ hc => hc.2) h'
  · rintro e b ⟨rfl, _⟩
    exact refl_of (KeepsAccounts injected) b

/-- A creation goes through the client of its framework. -/
theorem createNamespace_keepsAccounts [Seconds τ] (baseName : String) (labels : Labels) :
    (createNamespace k baseName labels
      : BenchM τ ω κ (Option Namespace.Record)).Along (KeepsAccounts injected) := by
  have hcustody (records : List Namespace.Record) :
      (takeCustody k records : BenchM τ ω κ Unit).Along (KeepsAccounts injected) :=
    (record_steady ⟨rfl, rfl, by rintro _ ⟨⟩⟩).mono fun _ _ => Steady.keepsAccounts
  have htrack (record : Option Namespace.Record) :
      (update k (·.track record) : BenchM τ ω κ Unit).Along (KeepsAccounts injected) :=
    (update_steady (g := (·.track record)) (fun _ => rfl) fun _ => rfl).mono
      fun _ _ => Steady.keepsAccounts
  intro b
  apply Ends.bind (frameworkAt_found k b)
  · rintro f b ⟨rfl, hf⟩
    have hprovide : Ends (provide f baseName labels) b fun _ b₁ => KeepsAccounts injected b b₁ :=
      (atSite_of_madeOf (madeOf_provide (fun _ _ => trivial) f baseName labels) b).mono
        fun _ _ h => keepsAccounts_of_calls hf (fun _ hc => hc.2) h
    apply Ends.bind_attempt hprovide
    intro r b₁ h₁
    have hadded := hcustody (handedOver r).toList
    cases r with
    | ok record =>
      have hrest := hadded.bind fun _ => (htrack record).bind fun _ => along_pure record
      exact (hrest b₁).mono fun _ _ => trans_of (KeepsAccounts injected) h₁
    | error e =>
      have hrest := hadded.bind fun _ => (htrack (leftoverOf e)).bind fun _ =>
        along_fail (α := Option Namespace.Record) e
      exact (hrest b₁).mono fun _ _ => trans_of (KeepsAccounts injected) h₁
  · rintro e b ⟨rfl, _⟩
    exact refl_of (KeepsAccounts injected) b

/-- Connecting ends well with the client that it makes last, and otherwise makes none. -/
def Connects (options : Config.ClientOptions τ) (component : Option String) (b : Bench τ ω κ) :
    Except (Fault τ) String → Bench τ ω κ → Prop
  | .ok client, b' => ∃ idle time, (∀ e ∈ idle, e.IsIdle) ∧ Adds (idle ++
      [.exchange time (.newClient options.qps options.burst component) (.ok client)]) b b'
  | .error _, b' => ∃ idle, (∀ e ∈ idle, e.IsIdle) ∧ Adds idle b b'

theorem connect_ends (options : Config.ClientOptions τ) (component : Option String)
    (b : Bench τ ω κ) :
    Ends (onSite (Cluster.connect options component)) b (Connects options component b) := by
  unfold Cluster.connect
  rw [onSite_bind]
  have hidle {c : Call τ} {time : τ} {reply : Except (Fault τ) c.Reply}
      (hmade : (Event.exchange time c reply).made? = none)
      (hclosed : (Event.exchange time c reply).closed? = none) (hc : c.isOperation = false) :
      (Event.exchange time c reply).IsIdle := by
    refine ⟨hmade, hclosed, ?_⟩
    rintro _ ⟨⟩
    exact hc
  apply Ends.bind (call_adds .loadCluster b)
  · rintro _ b₁ ⟨time, h₁⟩
    apply (call_adds _ b₁).mono
    rintro (e | client) b₂ ⟨time', h₂⟩
    · refine ⟨_, ?_, h₁.trans h₂⟩
      rintro _ (_ | ⟨_, _ | ⟨_, ⟨⟩⟩⟩)
      · exact hidle rfl rfl rfl
      · exact hidle rfl rfl rfl
    · refine ⟨_, time', ?_, h₁.trans h₂⟩
      rintro _ (_ | ⟨_, ⟨⟩⟩)
      exact hidle rfl rfl rfl
  · rintro e b₁ ⟨time, h₁⟩
    refine ⟨_, ?_, h₁⟩
    rintro _ (_ | ⟨_, ⟨⟩⟩)
    exact hidle rfl rfl rfl

theorem connect_keepsAccounts [Seconds τ] (component : Option String) :
    (connect k component : BenchM τ ω κ Unit).Along (KeepsAccounts injected) := by
  intro b
  apply Ends.bind (frameworkAt_found k b)
  · rintro f b ⟨rfl, hf⟩
    apply Ends.ite
    · intro _
      exact refl_of (KeepsAccounts injected) b
    · intro hnone
      have hstage (b₁ : Bench τ ω κ) :
          Ends (inStage f.baseName "client" (onSite (Cluster.connect f.options component))) b₁
            (Connects f.options component b₁) := by
        apply (connect_ends f.options component b₁).rescue
        · exact fun _ _ h => h
        · intro e b₂ h₂
          exact Ends.ite (fun _ => h₂) fun _ => h₂
      apply Ends.bind_ok (record_adds (.log _) b)
      intro b₁ h₁
      apply Ends.bind (hstage b₁)
      · rintro client b₂ ⟨idle, time, hidle, h₂⟩
        apply (update_ends k _ b₂).mono
        rintro _ b₃ ⟨_, h₃, hframeworks⟩
        refine ⟨_, ((h₁.trans h₂).continues.trans h₃).2, ?_⟩
        intro _ past haccounts
        have hnone : f.client = none := by simpa using hnone
        rw [hframeworks, h₂.frameworks, h₁.frameworks, List.append_nil, ← List.append_assoc,
          ← List.append_assoc]
        exact ((haccounts.idle (idle_of_log _)).idle hidle).make hf hnone time _ _ _
      · rintro e b₂ ⟨idle, hidle, h₂⟩
        exact trans_of (KeepsAccounts injected) (h₁.steady (idle_of_log _)).keepsAccounts
          (h₂.steady hidle).keepsAccounts
  · rintro e b ⟨rfl, _⟩
    exact refl_of (KeepsAccounts injected) b

variable [Seconds τ]

/-- A framework closes the client that it owns. Only a close that is cut short ends with a fault. -/
theorem closeClient_closes {f : Framework τ κ} {client : String} (howns : f.ownsClient = true)
    (hclient : f.client = some client) (b : Bench τ ω κ) :
    Ends (closeClient f) b fun ending b' => ∃ time reply idle, (∀ e ∈ idle, e.IsIdle) ∧
      Adds ([.exchange time (.closeClient client) reply] ++ idle) b b' ∧
      ∀ e, ending = .error e → (Event.exchange time (.closeClient client) reply).isCutShort = true := by
  unfold closeClient
  simp only [howns, hclient]
  apply Ends.rescue (call_adds (.closeClient client) b)
  · rintro _ b₁ ⟨time, h₁⟩
    exact ⟨time, _, [], (fun _ he => nomatch he), h₁, by rintro _ ⟨⟩⟩
  · rintro e b₁ ⟨time, h₁⟩
    apply Ends.ite
    · intro _
      apply (record_adds (.log _) b₁).mono
      rintro _ b₂ ⟨rfl, h₂⟩
      exact ⟨time, _, _, idle_of_log _, h₁.trans h₂, by rintro _ ⟨⟩⟩
    · intro hpassing
      refine ⟨time, _, [], (fun _ he => nomatch he), h₁, ?_⟩
      rintro _ ⟨⟩
      simpa [Event.isCutShort] using hpassing

/-- A framework that is reset closes its client if it owns one. -/
theorem resetAt_keepsAccounts :
    (resetAt k : BenchM τ ω κ Unit).Along (KeepsAccounts injected) := by
  intro b
  apply Ends.bind (frameworkAt_found k b)
  · rintro f b ⟨rfl, hf⟩
    by_cases howned : f.owned = []
    · have hidle : closeClient f = (pure () : BenchM τ ω κ Unit) := by
        unfold closeClient
        split
        · rename_i client howns hclient
          simp [Framework.owned, howns, hclient] at howned
        · rfl
      rw [hidle]
      apply (update_ends k Framework.reset b).mono
      rintro _ b₁ ⟨_, h₁, hframeworks⟩
      refine ⟨[], h₁.2, ?_⟩
      intro _ past haccounts
      rw [List.append_nil, hframeworks]
      exact haccounts.forget hf howned
    · have hholds : ∃ client, f.ownsClient = true ∧ f.client = some client := by
        unfold Framework.owned at howned
        cases howns : f.ownsClient with
        | false => simp [howns] at howned
        | true =>
          cases hclient : f.client with
          | none => simp [hclient] at howned
          | some client => exact ⟨client, rfl, rfl⟩
      obtain ⟨client, howns, hclient⟩ := hholds
      apply Ends.bind (closeClient_closes howns hclient b)
      · rintro _ b₁ ⟨time, reply, idle, hidle, h₁, _⟩
        apply (update_ends k Framework.reset b₁).mono
        rintro _ b₂ ⟨_, h₂, hframeworks⟩
        refine ⟨_, (h₁.continues.trans h₂).2, ?_⟩
        intro _ past haccounts
        rw [hframeworks, h₁.frameworks, List.append_nil, ← List.append_assoc]
        exact (haccounts.close hf howns hclient time reply).idle hidle
      · rintro e b₁ ⟨time, reply, idle, _, h₁, hcut⟩
        refine ⟨_, h₁.2, ?_⟩
        intro hcalm
        rw [hcalm _ (List.mem_append_left _ (List.mem_singleton_self _))] at hcut
        cases hcut e rfl
  · rintro e b ⟨rfl, _⟩
    exact refl_of (KeepsAccounts injected) b

theorem useRules_keepsAccounts :
    UseRules injected (KeepsAccounts injected : Bench τ ω κ → Bench τ ω κ → Prop) := by
  have steady {α : Type} {x : BenchM τ ω κ α} (h : x.Along Steady) :
      x.Along (KeepsAccounts injected) := h.mono fun _ _ => Steady.keepsAccounts
  exact
    { site := fun hx => steady
        ((onSite_atSite (Site.makes hx)).mono fun _ _ h => h.steady fun _ => id)
      custody := fun _ _ => steady (record_steady ⟨rfl, rfl, by rintro _ ⟨⟩⟩)
      hook := fun _ _ => steady (mark_steady _)
      serve := serve_keepsAccounts
      connect := fun _ component => connect_keepsAccounts component
      create := fun _ baseName labels => createNamespace_keepsAccounts baseName labels
      change := fun k g hg => steady (update_steady hg.client hg.ownsClient)
      place := place_keepsAccounts
      register := fun d b => (register_ends d b).mono fun _ _ h =>
        (steady_of_registry h.2).keepsAccounts
      unregister := fun handle b => (unregister_ends handle b).mono fun _ _ h =>
        (steady_of_registry h.2).keepsAccounts
      note := fun b _ _ => (steady_of_eq rfl rfl).keepsAccounts }

section Teardown

variable {r : Runner τ ω κ} (hb : ∀ owner body, (r.perform owner body).Along (KeepsAccounts injected))

include hb

theorem wind_keepsAccounts {x : BenchM τ ω κ α}
    (hx : MadeOf (WindStep (fun _ => True) r k) (fun _ => True) x) :
    x.Along (KeepsAccounts injected) := by
  apply hx.along
  intro _ _ hstep
  cases hstep with
  | part hpart => exact useRules_keepsAccounts.part hb hpart
  | start name => exact (mark_steady _).mono fun _ _ => Steady.keepsAccounts

omit hb in
theorem clearAway_keepsAccounts (testFailed : Bool) (before : Except (Fault τ) Unit) :
    (clearAway k testFailed before
      : BenchM τ ω κ (Report τ)).Along (KeepsAccounts injected) := by
  apply (madeOf_clearAway (fun _ _ => trivial) testFailed fun _ _ => trivial).along
  intro _ _ hstep
  cases hstep with
  | delete hdelete =>
    cases hdelete with
    | talk htalk => exact useRules_keepsAccounts.talk htalk
    | serve hserved => exact serve_keepsAccounts (hserved.mono fun _ _ => trivial)
    | custody change => exact useRules_keepsAccounts.custody k change
  | reset => exact resetAt_keepsAccounts

theorem afterEach_keepsAccounts (testFailed : Bool) :
    (afterEach r k testFailed).Along (KeepsAccounts injected) := by
  apply (madeOf_afterEach (fun _ _ => trivial) testFailed).along
  intro _ _ hstep
  cases hstep with
  | wind hwind => exact wind_keepsAccounts hb (.step hwind)
  | withdraw => exact useRules_keepsAccounts.withdraw
  | clear _ => exact clearAway_keepsAccounts testFailed _

theorem drain_keepsAccounts : (drain r).Along (KeepsAccounts injected) := by
  have hquiet (b b' : Bench τ ω κ) (hsite : b'.site = b.site)
      (hframeworks : b'.frameworks = b.frameworks) : KeepsAccounts injected b b' :=
    (steady_of_eq hsite hframeworks).keepsAccounts
  have hlog := (useRules_keepsAccounts
    : UseRules injected (KeepsAccounts injected : Bench τ ω κ → Bench τ ω κ → Prop)).log
  have hdischarge (d : Duty κ) : (discharge r d).Along (KeepsAccounts injected) := by
    cases d with
    | teardown k => exact abortTeardown_along hlog (afterEach_keepsAccounts hb true)
    | act a =>
      exact ((mark_steady _).mono fun _ _ => Steady.keepsAccounts).bind fun _ => hb none a.body
  intro b
  apply drain_ends hlog
  · exact hquiet b _ rfl rfl
  · intro d _
    exact dischargeOne_along (fun _ => along_modify fun b => hquiet b _ rfl rfl) (hdischarge d.2)

/-- A teardown that is not cut short leaves its framework without a client. -/
theorem afterEach_forgets (testFailed : Bool) (b : Bench τ ω κ) :
    Ends (afterEach r k testFailed) b fun _ b' => Forgets k b b' := by
  have grows {b₁ b₂ : Bench τ ω κ} (h : KeepsAccounts injected b₁ b₂) :
      ∃ new, b₂.site.events = b₁.site.events ++ new := h.imp fun _ h => h.1
  have hwithdraw : Ends (withdraw k : BenchM τ ω κ Unit) b fun _ b₁ => KeepsAccounts injected b b₁ :=
    useRules_keepsAccounts.withdraw b
  have hwind (f : Framework τ κ) (b₁ : Bench τ ω κ) (h₁ : KeepsAccounts injected b b₁)
      (_ : b₁.frameworks[k]? = some f) :
      Ends (windUp r k testFailed) b₁ fun _ b₂ => KeepsAccounts injected b b₂ :=
    (wind_keepsAccounts hb (madeOf_windUp (fun _ _ => trivial) testFailed) b₁).mono
      fun _ _ => trans_of (KeepsAccounts injected) h₁
  apply afterEach_comes hwithdraw hwind
  · intro before b₂ h₂
    obtain ⟨new, hnew⟩ := grows h₂
    apply (clearAway_found k testFailed before b₂).mono
    rintro _ b₃ hclear ended b₄ h₄
    obtain ⟨f, cleared, hf, h⟩ | ⟨rfl, hmissing⟩ := hclear
    · refine ⟨new ++ (cleared ++ [.span ended]), ?_, ?_⟩
      · rw [h₄.2, h.continues.2, hnew, List.append_assoc, List.append_assoc]
      · intro hcalm f' hf'
        simp only [Undisturbed.append] at hcalm
        rw [h₄.frameworks, h.frameworks_eq hcalm.2.1, List.getElem?_modify_eq, hf] at hf'
        cases hf'
        exact ⟨rfl, rfl⟩
    · refine ⟨new ++ [.span ended], ?_, ?_⟩
      · rw [h₄.2, hnew, List.append_assoc]
      · intro _ f' hf'
        rw [h₄.frameworks, hmissing] at hf'
        cases hf'
  · intro e b₁ h₁ hmissing
    obtain ⟨new, hnew⟩ := grows h₁
    refine ⟨new, hnew, ?_⟩
    intro _ f' hf'
    rw [hmissing] at hf'
    cases hf'

/-- A drain that does the teardown of a framework leaves it without a client. -/
theorem discharge_forgets (b : Bench τ ω κ) :
    Ends (discharge r (.teardown k)) b fun _ b' => Forgets k b b' := by
  apply Ends.bind (frameworkAt_found k b)
  · rintro f b ⟨rfl, _⟩
    apply Ends.bind_ok (record_adds _ b)
    intro b₁ h₁
    obtain ⟨first, h₁⟩ : ∃ first, Adds first b b₁ := ⟨_, h₁⟩
    have hafter : Ends (afterEach r k true) b₁ fun _ b₂ => Forgets k b b₂ := by
      apply (afterEach_forgets hb true b₁).mono
      rintro _ b₂ ⟨new, hnew, hforgets⟩
      refine ⟨first ++ new, by rw [hnew, h₁.2, List.append_assoc], ?_⟩
      intro hcalm
      rw [Undisturbed.append] at hcalm
      exact hforgets hcalm.2
    apply hafter.bind
    · exact fun _ _ h => h
    · exact fun _ _ h => h
  · rintro e b ⟨rfl, hmissing⟩
    refine ⟨[], (List.append_nil _).symm, ?_⟩
    intro _ f hf
    rw [hmissing] at hf
    cases hf

end Teardown

end Framework

/-- All code of tests keeps the accounts. -/
theorem IsTestCode.keepsAccounts [Seconds τ] [Host τ ω] {injected : String → Prop}
    {nests tears : Prop} {x : BenchM τ ω κ α} (hx : IsTestCode injected nests tears x) :
    x.Along (KeepsAccounts injected) :=
  hx.along useRules_keepsAccounts fun _ _ _ hb =>
    ⟨fun _ => afterEach_keepsAccounts hb, drain_keepsAccounts hb⟩

end Testbed
