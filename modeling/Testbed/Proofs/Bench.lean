import Testbed.Proofs.History
import Testbed.Scenario.Trace

/-!
# What the steps at a bench do

`AtSite` relates a bench to a later one on which only the site has changed, by making calls of a
given kind. `Adds` and `Continues` say which events were added, and that the rest of the bench is
as it was, in the second case apart from the frameworks. Each of the small steps of which
operations are made is described in these terms.
-/

set_option autoImplicit false

namespace Testbed

open Proc

variable {τ ω κ α : Type}

namespace Registry

variable {β ε : Type}

/-- The registry after a duty was taken back, if the handle stands for one. -/
def without (r : Registry β ε) (handle : Option Nat) : Registry β ε :=
  match handle.filter r.contains with
  | some h => r.remove h
  | none => r

/-- Taking a duty back leaves those under other handles. -/
theorem live_without (r : Registry β ε) (handle : Option Nat) :
    (r.without handle).live = r.live.filter fun e => handle != some e.1 := by
  have untouched (h : ∀ e ∈ r.live, handle ≠ some e.1) :
      r.live = r.live.filter fun e => handle != some e.1 := by
    symm
    apply List.filter_eq_self.2
    intro e he
    rw [bne_iff_ne]
    exact h e he
  unfold without
  cases handle with
  | none => exact untouched (by simp)
  | some h =>
    by_cases hlive : r.contains h = true
    · have hfound : (some h).filter r.contains = some h := by simp [hlive]
      simp only [hfound]
      apply List.filter_congr
      intro e _
      rw [Bool.eq_iff_iff, bne_iff_ne, bne_iff_ne, Ne, Ne, Option.some_inj, eq_comm]
    · have hfound : (some h).filter r.contains = none := by simp [hlive]
      simp only [hfound]
      apply untouched
      rintro e he heq
      apply hlive
      rw [contains, List.any_eq_true]
      exact ⟨e, he, by rw [Option.some_inj.1 heq, beq_self_eq_true]⟩

@[simp] theorem issued_without (r : Registry β ε) (handle : Option Nat) :
    (r.without handle).issued = r.issued := by
  unfold without
  split <;> rfl

end Registry

namespace Site

/-- The site after events of which nothing but its history tells. -/
def recorded (s : Site τ ω) (new : List (Event τ)) : Site τ ω :=
  { s with history := new.reverse ++ s.history }

variable (s : Site τ ω) (new later : List (Event τ))

@[simp] theorem world_recorded : (s.recorded new).world = s.world := rfl

@[simp] theorem events_recorded : (s.recorded new).events = s.events ++ new := by
  simp [recorded, events]

@[simp] theorem recorded_nil : s.recorded [] = s := rfl

@[simp] theorem recorded_recorded : (s.recorded new).recorded later = s.recorded (new ++ later) := by
  simp [recorded]

end Site

namespace Bench

/-- Only the site has changed, by making such calls. -/
def AtSite (calls : Call τ → Prop) (b b' : Bench τ ω κ) : Prop :=
  b' = { b with site := b'.site } ∧ Site.Makes calls b.site b'.site

instance {calls : Call τ → Prop} : IsPreorder (Bench τ ω κ) (AtSite calls) where
  refl b := ⟨rfl, refl_of (Site.Makes calls) b.site⟩
  trans := by
    rintro a b c ⟨hab, hs⟩ ⟨hbc, hs'⟩
    refine ⟨?_, trans_of (Site.Makes calls) hs hs'⟩
    rw [hbc, hab]

section

variable {calls : Call τ → Prop}

theorem onSite_atSite {x : SiteM τ ω α} (h : x.Along (Site.Makes calls)) :
    (onSite x : BenchM τ ω κ α).Along (AtSite calls) :=
  h.focus fun _ _ hs => ⟨rfl, hs⟩

theorem note_atSite (f : Framework τ κ) (level : Level) (name : String)
    (fields : List (String × Detail τ)) :
    (note f level name fields : BenchM τ ω κ Unit).Along (AtSite calls) :=
  onSite_atSite (Site.makes_log _ _ _)

theorem AtSite.mono {calls' : Call τ → Prop} (h : ∀ c, calls c → calls' c) {b b' : Bench τ ω κ}
    (hb : AtSite calls b b') : AtSite calls' b b' :=
  ⟨hb.1, hb.2.mono h⟩

end

/-- Nothing has changed but the site. -/
def SiteOnly (b b' : Bench τ ω κ) : Prop := b' = { b with site := b'.site }

namespace SiteOnly

variable {b b' b'' : Bench τ ω κ}

theorem trans (h : SiteOnly b b') (h' : SiteOnly b' b'') : SiteOnly b b'' := by
  unfold SiteOnly at *
  rw [h', h]

theorem frameworks (h : SiteOnly b b') : b'.frameworks = b.frameworks := by rw [h]

end SiteOnly

/-- The second bench is the first one after these events at its site. -/
def Adds (new : List (Event τ)) (b b' : Bench τ ω κ) : Prop :=
  b' = { b with site := b'.site } ∧ b'.site.events = b.site.events ++ new

namespace Adds

variable {new later : List (Event τ)} {b b' b'' : Bench τ ω κ}

theorem refl (b : Bench τ ω κ) : Adds [] b b := ⟨rfl, (List.append_nil _).symm⟩

theorem trans (h : Adds new b b') (h' : Adds later b' b'') : Adds (new ++ later) b b'' := by
  refine ⟨?_, ?_⟩
  · rw [h'.1, h.1]
  · rw [h'.2, h.2, List.append_assoc]

theorem frameworks (h : Adds new b b') : b'.frameworks = b.frameworks := by rw [h.1]

theorem registry (h : Adds new b b') : b'.registry = b.registry := by rw [h.1]

end Adds

theorem SiteOnly.adds {new : List (Event τ)} {b b' : Bench τ ω κ} (h : SiteOnly b b')
    (hs : b'.site = b.site.recorded new) : Adds new b b' := by
  refine ⟨h, ?_⟩
  rw [hs, Site.events_recorded]

/-- The second bench is the first one after these events, apart from its frameworks. -/
def Continues (new : List (Event τ)) (b b' : Bench τ ω κ) : Prop :=
  b' = { b with site := b'.site, frameworks := b'.frameworks } ∧
    b'.site.events = b.site.events ++ new

theorem Adds.continues {new : List (Event τ)} {b b' : Bench τ ω κ} (h : Adds new b b') :
    Continues new b b' := by
  refine ⟨?_, h.2⟩
  rw [h.1]

theorem Continues.trans {new later : List (Event τ)} {b b' b'' : Bench τ ω κ}
    (h : Continues new b b') (h' : Continues later b' b'') : Continues (new ++ later) b b'' := by
  refine ⟨?_, ?_⟩
  · rw [h'.1, h.1]
  · rw [h'.2, h.2, List.append_assoc]

theorem update_ends (k : Nat) (g : Framework τ κ → Framework τ κ) (b : Bench τ ω κ) :
    Ends (update k g : BenchM τ ω κ Unit) b fun r b' =>
      r = .ok () ∧ Continues [] b b' ∧ b'.frameworks = b.frameworks.modify k g := by
  refine ⟨rfl, ⟨rfl, ?_⟩, rfl⟩
  exact (List.append_nil _).symm

/-- Work at the site adds events that change no custody. -/
theorem AtSite.adds {calls : Call τ → Prop} {b b' : Bench τ ω κ} (h : AtSite calls b b') :
    ∃ new, Adds new b b' ∧ (∀ e ∈ new, e.Among calls) := by
  obtain ⟨hb, new, hnew, hamong⟩ := h
  exact ⟨new, ⟨hb, hnew⟩, hamong⟩

/-- Recording an event changes nothing but the history. -/
theorem record_ends (e : Event τ) (b : Bench τ ω κ) :
    Ends (onSite (Site.record e) : BenchM τ ω κ Unit) b fun r b' =>
      r = .ok () ∧ SiteOnly b b' ∧ b'.site = b.site.recorded [e] := ⟨rfl, rfl, rfl⟩

theorem record_adds (e : Event τ) (b : Bench τ ω κ) :
    Ends (onSite (Site.record e) : BenchM τ ω κ Unit) b fun r b' => r = .ok () ∧ Adds [e] b b' := by
  refine ⟨rfl, rfl, ?_⟩
  exact Site.events_record e b.site

/-- Working at the site in two parts. -/
theorem onSite_bind {β : Type} (x : SiteM τ ω α) (f : α → SiteM τ ω β) :
    (onSite (x >>= f) : BenchM τ ω κ β) = onSite x >>= fun a => onSite (f a) := by
  funext b
  change Proc.run _ b = Proc.run _ b
  unfold onSite
  rw [run_bind, run_focus, run_focus, run_bind]
  rcases x.run b.site with ⟨e | a, site⟩ <;> rfl

theorem call_adds [Host τ ω] (c : Call τ) (b : Bench τ ω κ) :
    Ends (onSite (Site.call c) : BenchM τ ω κ c.Reply) b fun r b' =>
      ∃ time, Adds [.exchange time c r] b b' :=
  ⟨_, rfl, Site.events_call c b.site⟩

/-- Looking a framework up changes nothing, and fails if and only if it is missing. -/
theorem frameworkAt_found (k : Nat) (b : Bench τ ω κ) :
    Ends (frameworkAt k : BenchM τ ω κ (Framework τ κ)) b fun r b' => b' = b ∧
      match r with
      | .ok f => b.frameworks[k]? = some f
      | .error _ => b.frameworks[k]? = none := by
  unfold Ends frameworkAt
  rw [run_bind, run_get]
  cases hk : b.frameworks[k]? with
  | none => simp [hk]
  | some f => simp [hk]

theorem frameworkAt_ends {b : Bench τ ω κ} {k : Nat} {f : Framework τ κ}
    (h : b.frameworks[k]? = some f) :
    Ends (frameworkAt k : BenchM τ ω κ (Framework τ κ)) b fun r b' => r = .ok f ∧ b' = b := by
  unfold Ends frameworkAt
  rw [run_bind, run_get]
  simp [h]

theorem frameworkAt_run {b : Bench τ ω κ} {k : Nat} {f : Framework τ κ}
    (h : b.frameworks[k]? = some f) :
    (frameworkAt k : BenchM τ ω κ (Framework τ κ)).run b = (.ok f, b) :=
  Prod.ext (frameworkAt_ends h).1 (frameworkAt_ends h).2

theorem register_ends (d : Duty κ) (b : Bench τ ω κ) :
    Ends (register d : BenchM τ ω κ Nat) b fun r b' => r = .ok (b.registry.add d).1 ∧
      AtSite (fun _ => False) { b with registry := (b.registry.add d).2 } b' :=
  ⟨rfl, onSite_atSite (Site.makes_log _ _ _) { b with registry := (b.registry.add d).2 }⟩

theorem unregister_ends (handle : Option Nat) (b : Bench τ ω κ) :
    Ends (unregister handle : BenchM τ ω κ Unit) b fun r b' => r = .ok () ∧
      AtSite (fun _ => False) { b with registry := b.registry.without handle } b' := by
  apply Ends.bind_ok (P := fun b' => b' = b) ⟨rfl, rfl⟩
  rintro b rfl
  unfold Registry.without
  cases handle.filter b.registry.contains with
  | none => exact ⟨rfl, refl_of (AtSite fun _ => False) b⟩
  | some h =>
    exact ⟨rfl, onSite_atSite (Site.makes_log _ _ _) { b with registry := b.registry.remove h }⟩

/-- The settings of a framework. -/
def settingsAt (b : Bench τ ω κ) (k : Nat) : Option (Settings τ κ) :=
  b.frameworks[k]?.map (·.toSettings)

theorem settingsAt_modify {b b' : Bench τ ω κ} {k : Nat} {g : Framework τ κ → Framework τ κ}
    (hg : b'.frameworks = b.frameworks.modify k g) (hsettings : ∀ f, (g f).toSettings = f.toSettings) :
    b'.settingsAt k = b.settingsAt k := by
  unfold settingsAt
  rw [hg, List.getElem?_modify_eq]
  cases b.frameworks[k]? with
  | none => rfl
  | some f => simp [hsettings]

/-- The bench after an entry in the journal of its registry. -/
def noted (b : Bench τ ω κ) (e : Registry.Entry (Duty κ) (Except (Fault τ) Unit)) : Bench τ ω κ :=
  { b with registry := b.registry.note e }

/-- The bench with a history that begins anew. -/
def restarted (b : Bench τ ω κ) : Bench τ ω κ := { b with site := .start b.site.world }

end Bench

/-- What a procedure does on a bench whose history begins anew, its trace tells. -/
theorem Trace.of_ends {x : BenchM τ ω κ α} {b : Bench τ ω κ}
    {Q : Except (Fault τ) α → List (Event τ) → Bench τ ω κ → Prop}
    (h : Ends x b.restarted fun r b' =>
      ∃ new, b'.site.events = [] ++ new ∧ Q r new b') :
    Q (Trace.of x b).ending (Trace.of x b).events (Trace.of x b).after := by
  obtain ⟨new, hnew, hq⟩ := h
  rw [List.nil_append] at hnew
  rw [← hnew] at hq
  exact hq

end Testbed
