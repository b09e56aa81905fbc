import Mathlib.Data.List.Forall2
import Testbed.Proofs.Books
import Testbed.Proofs.Coupling
import Testbed.Proofs.Routine

/-!
# Akin benches

Two benches are akin when a run can hardly tell them apart: they differ in the handles that their
registries give out, and for each framework in what akin frameworks differ in. What is registered
stands in the same order on both, and the same frameworks know it. On akin benches routines end the
same way, write the same events up to handles, and leave the benches akin, and so do drains.
-/

set_option autoImplicit false

namespace Testbed

open Proc Bench

variable {τ ω κ α : Type}

/-- The event without the handle that it may name. -/
def Event.unnumbered : Event τ → Event τ
  | .log e => .log { e with fields := e.fields.filter fun field => field.1 != "handle" }
  | e => e

namespace Site

/-- The same world, and the same events up to handles. -/
structure Akin (s t : Site τ ω) : Prop where
  world : t.world = s.world
  events : t.events.map Event.unnumbered = s.events.map Event.unnumbered

theorem Akin.refl (s : Site τ ω) : Akin s s := ⟨rfl, rfl⟩

/-- Two events that differ in a handle at most. -/
theorem Akin.record {s t : Site τ ω} (h : Akin s t) {e e' : Event τ}
    (he : e'.unnumbered = e.unnumbered) :
    Akin ((record e : SiteM τ ω Unit).run s).2 ((record e' : SiteM τ ω Unit).run t).2 := by
  refine ⟨h.world, ?_⟩
  rw [events_record, events_record, List.map_append, List.map_append, h.events, List.map_singleton,
    List.map_singleton, he]

variable [Host τ ω]

/-- A step at a site cannot tell akin sites apart. -/
theorem Step.akin {calls : Call τ → Prop} {x : SiteM τ ω α} (h : Step calls α x) :
    Parallel Akin (fun _ => True) x := by
  rintro ⟨w, history⟩ ⟨_, history'⟩ hst
  have hworld := hst.world
  cases hworld
  cases h with
  | record _ _ => exact ⟨rfl, fun _ _ => trivial, hst.record rfl⟩
  | now => exact ⟨rfl, fun _ _ => trivial, hst⟩
  | elapse length => exact ⟨rfl, fun _ _ => trivial, rfl, hst.events⟩
  | freshId => exact ⟨rfl, fun _ _ => trivial, rfl, hst.events⟩
  | randomBits => exact ⟨rfl, fun _ _ => trivial, rfl, hst.events⟩
  | @call c _ =>
    refine ⟨rfl, fun _ _ => trivial, rfl, ?_⟩
    rw [events_call, events_call, List.map_append, List.map_append, hst.events]

end Site

namespace Framework

variable {past : List (List (Action κ))} {f g : Framework τ κ}

theorem Akin.refl (f : Framework τ κ) : Akin [] f f :=
  ⟨rfl, rfl, rfl, rfl, rfl, rfl, (List.append_nil _).symm⟩

/-- Frameworks stay akin under whatever handles they know. -/
theorem Akin.handle (h : Akin past f g) (handle handle' : Option Nat) :
    Akin past { f with handle } { g with handle := handle' } :=
  ⟨h.settings, h.client, h.ownsClient, h.ns, h.tracked, h.actions, h.pastActions⟩

theorem Akin.cycle (h : Akin past f g) : f.cycle = g.cycle + past.length := by
  rw [Framework.cycle, Framework.cycle, h.pastActions, List.length_append]

/-- The queue with a number of the second framework is that of the first one behind those that only
the first one has put away. -/
theorem Akin.queue (h : Akin past f g) (cycle : Nat) :
    f.queue (cycle + past.length) = g.queue cycle := by
  unfold Framework.queue
  rw [h.pastActions, h.actions, List.reverse_append, List.append_assoc, List.getD_eq_getElem?_getD,
    List.getD_eq_getElem?_getD, ← List.length_reverse, Nat.add_comm,
    List.getElem?_append_right (by omega)]
  simp

end Framework

namespace Bench

/-- No handle that is registered or known is above the latest one given out. -/
structure Issued (b : Bench τ ω κ) : Prop where
  live : ∀ e ∈ b.registry.live, e.1 ≤ b.registry.issued
  known : ∀ j h, b.handleOf j = some h → h ≤ b.registry.issued

/-- The same duty, under handles that the same frameworks know. -/
def SameDuty (b c : Bench τ ω κ) (e e' : Nat × Duty κ) : Prop :=
  e'.2 = e.2 ∧ ∀ j, b.handleOf j = some e.1 ↔ c.handleOf j = some e'.1

/-- Benches that differ in their handles, and for each framework in what akin frameworks differ in.
The first one has put away further queues of each framework. -/
structure Akin (past : Nat → List (List (Action κ))) (b c : Bench τ ω κ) : Prop where
  site : b.site.Akin c.site
  frameworks : ∀ j, Option.Rel (Framework.Akin (past j)) b.frameworks[j]? c.frameworks[j]?
  names : c.names = b.names
  trial : c.trial = b.trial
  live : List.Forall₂ (SameDuty b c) b.registry.live c.registry.live
  issued : b.Issued
  issued' : c.Issued

theorem Akin.refl {b : Bench τ ω κ} (h : b.Issued) : b.Akin (fun _ => []) b where
  site := .refl b.site
  frameworks j := by
    cases b.frameworks[j]? with
    | none => exact .none
    | some f => exact .some (.refl f)
  names := rfl
  trial := rfl
  live := List.forall₂_same.2 fun _ _ => ⟨rfl, fun _ => Iff.rfl⟩
  issued := h
  issued' := h

/-- The procedure cannot tell akin benches apart. -/
def Oblivious (past : Nat → List (List (Action κ))) (x : BenchM τ ω κ α) : Prop :=
  Couples (Akin past) Eq x x

variable {past : Nat → List (List (Action κ))} {b c : Bench τ ω κ} {k : Nat}

theorem onSite_oblivious {x : SiteM τ ω α} (h : Couples Site.Akin Eq x x) :
    Oblivious past (onSite x : BenchM τ ω κ α) := by
  intro b c hbc
  obtain ⟨hends, hsite⟩ := h b.site c.site hbc.site
  refine ⟨hends, hsite, hbc.frameworks, hbc.names, hbc.trial, hbc.live, ?_, ?_⟩
  · exact ⟨hbc.issued.live, hbc.issued.known⟩
  · exact ⟨hbc.issued'.live, hbc.issued'.known⟩

/-- Events that differ in a handle at most. -/
theorem record_couples {e e' : Event τ} (he : e'.unnumbered = e.unnumbered) :
    Couples (Akin past) Eq (onSite (Site.record e) : BenchM τ ω κ Unit)
      (onSite (Site.record e')) := by
  intro b c hbc
  refine ⟨.ok rfl, hbc.site.record he, hbc.frameworks, hbc.names, hbc.trial, hbc.live, ?_, ?_⟩
  · exact ⟨hbc.issued.live, hbc.issued.known⟩
  · exact ⟨hbc.issued'.live, hbc.issued'.known⟩

theorem frameworkAt_couples (k : Nat) :
    Couples (Akin past) (Framework.Akin (past k)) (frameworkAt k : BenchM τ ω κ (Framework τ κ))
      (frameworkAt k) := by
  intro b c hbc
  have hk := hbc.frameworks k
  unfold frameworkAt
  rw [run_bind, run_bind, run_get, run_get]
  dsimp only
  revert hk
  cases b.frameworks[k]? <;> cases c.frameworks[k]? <;> intro hk
  · exact ⟨.error _, hbc⟩
  · cases hk
  · cases hk
  · cases hk with
    | some h => exact ⟨.ok h, hbc⟩

theorem frameworkAt_missing (h : b.frameworks[k]? = none) :
    (frameworkAt k : BenchM τ ω κ (Framework τ κ)).run b =
      (.error (.plain .lookup [.text "no such framework"]), b) := by
  unfold frameworkAt
  rw [run_bind, run_get]
  dsimp only
  rw [h]
  rfl

/-- Akin frameworks that change in a way that leaves them akin. -/
theorem Akin.modify (hbc : Akin past b c) {g g' : Framework τ κ → Framework τ κ}
    (hg : ∀ f f', Framework.Akin (past k) f f' → Framework.Akin (past k) (g f) (g' f')) (j : Nat) :
    Option.Rel (Framework.Akin (past j)) (b.frameworks.modify k g)[j]?
      (c.frameworks.modify k g')[j]? := by
  have hj := hbc.frameworks j
  rw [List.getElem?_modify, List.getElem?_modify]
  split
  · rename_i heq
    subst heq
    revert hj
    cases b.frameworks[k]? <;> cases c.frameworks[k]? <;> intro hj
    · exact .none
    · cases hj
    · cases hj
    · cases hj with
      | some h => exact .some (hg _ _ h)
  · simpa using hj

theorem update_oblivious {g : Framework τ κ → Framework τ κ} (hg : Framework.IsPlain g) :
    Oblivious past (update k g : BenchM τ ω κ Unit) := by
  intro b c hbc
  have hb (j : Nat) : ((update k g).run b).2.handleOf j = b.handleOf j :=
    handleOf_modify_eq rfl hg.handle j
  have hc (j : Nat) : ((update k g).run c).2.handleOf j = c.handleOf j :=
    handleOf_modify_eq rfl hg.handle j
  refine ⟨.ok rfl, hbc.site, hbc.modify fun _ _ => hg.akin, hbc.names, hbc.trial, ?_, ?_, ?_⟩
  · apply hbc.live.imp
    rintro e e' ⟨hduty, hknown⟩
    refine ⟨hduty, ?_⟩
    intro j
    rw [hb, hc]
    exact hknown j
  · refine ⟨hbc.issued.live, ?_⟩
    intro j h
    rw [hb]
    exact hbc.issued.known j h
  · refine ⟨hbc.issued'.live, ?_⟩
    intro j h
    rw [hc]
    exact hbc.issued'.known j h

/-- The teardown of a framework was registered or taken back: what is registered now, the latest
handle given out, the handle that the framework knows, and the entries in the log up to handles. -/
structure Rebooked (k : Nat) (live : List (Nat × Duty κ)) (issued : Nat) (handle : Option Nat)
    (entries : List (Event τ)) (b b' : Bench τ ω κ) : Prop where
  live : b'.registry.live = live
  issued : b'.registry.issued = issued
  frameworks : b'.frameworks = b.frameworks.modify k fun f => { f with handle }
  names : b'.names = b.names
  trial : b'.trial = b.trial
  world : b'.site.world = b.site.world
  events : b'.site.events.map Event.unnumbered = b.site.events.map Event.unnumbered ++ entries

theorem enroll_rebooked (k : Nat) (b : Bench τ ω κ) :
    Ends (Framework.enroll k : BenchM τ ω κ Unit) b fun r b' => r = .ok () ∧
      Rebooked k (b.registry.live ++ [(b.registry.issued + 1, .teardown k)])
        (b.registry.issued + 1) (some (b.registry.issued + 1))
        [.log ⟨.debug, "cleanup.action_added", []⟩] b b' := by
  refine ⟨rfl, rfl, rfl, rfl, rfl, rfl, rfl, ?_⟩
  show List.map _ (List.reverse (_ :: _)) = _
  rw [List.reverse_cons, List.map_append]
  rfl

/-- A handle stands for a duty if one is registered under it. -/
theorem isSome_filter_contains (registry : Registry (Duty κ) (Except (Fault τ) Unit))
    (handle : Option Nat) : (handle.filter registry.contains).isSome =
      registry.live.any fun e => handle == some e.1 := by
  cases handle with
  | none => simp
  | some h =>
    have hcontains : registry.contains h = registry.live.any fun e => some h == some e.1 := by
      unfold Registry.contains
      congr 1
      funext e
      rw [Bool.eq_iff_iff, beq_iff_eq, beq_iff_eq, Option.some_inj, eq_comm]
    rw [← hcontains]
    cases hlive : registry.contains h <;> simp [hlive]

theorem withdraw_rebooked {f : Framework τ κ} (hf : b.frameworks[k]? = some f) :
    Ends (Framework.withdraw k : BenchM τ ω κ Unit) b fun r b' => r = .ok () ∧
      Rebooked k (b.registry.live.filter fun e => f.handle != some e.1) b.registry.issued none
        (if b.registry.live.any fun e => f.handle == some e.1 then
          [.log ⟨.debug, "cleanup.action_removed", []⟩] else []) b b' := by
  apply Ends.bind_ok (frameworkAt_ends hf)
  rintro b rfl
  rw [← Registry.live_without, ← isSome_filter_contains]
  unfold Ends unregister Registry.without
  rw [bind_assoc, run_bind, run_get]
  dsimp only
  cases f.handle.filter b.registry.contains with
  | none =>
    refine ⟨rfl, rfl, rfl, rfl, rfl, rfl, rfl, ?_⟩
    exact (List.append_nil _).symm
  | some h =>
    refine ⟨rfl, rfl, rfl, rfl, rfl, rfl, rfl, ?_⟩
    show List.map _ (List.reverse (_ :: _)) = _
    rw [List.reverse_cons, List.map_append]
    rfl

section Rebooked

variable {live live' : List (Nat × Duty κ)} {issued issued' : Nat} {handle handle' : Option Nat}
  {entries : List (Event τ)} {b' c' : Bench τ ω κ}

theorem Rebooked.handleOf_of_ne (h : Rebooked k live issued handle entries b b') {j : Nat}
    (hj : j ≠ k) : b'.handleOf j = b.handleOf j :=
  handleOf_modify_of_ne h.frameworks hj

theorem Rebooked.handleOf_self (h : Rebooked k live issued handle entries b b') :
    b'.handleOf k = b.frameworks[k]?.bind fun _ => handle := by
  cases hf : b.frameworks[k]? with
  | none => simp [handleOf, h.frameworks, hf]
  | some f => exact handleOf_modify h.frameworks hf

/-- Benches stay akin when both register a teardown, or both take it back. -/
theorem Akin.rebook (hbc : Akin past b c) (hb : Rebooked k live issued handle entries b b')
    (hc : Rebooked k live' issued' handle' entries c c')
    (hlive : List.Forall₂ (SameDuty b' c') live live') (hissued : b'.Issued)
    (hissued' : c'.Issued) : Akin past b' c' where
  site := by
    refine ⟨?_, ?_⟩
    · rw [hc.world, hb.world, hbc.site.world]
    · rw [hc.events, hb.events, hbc.site.events]
  frameworks := by
    intro j
    rw [hb.frameworks, hc.frameworks]
    exact hbc.modify (fun _ _ h => h.handle handle handle') j
  names := by rw [hc.names, hb.names, hbc.names]
  trial := by rw [hc.trial, hb.trial, hbc.trial]
  live := by rwa [hb.live, hc.live]
  issued := hissued
  issued' := hissued'

end Rebooked

/-- On akin benches the same frameworks are there. -/
theorem Akin.isSome_framework (h : Akin past b c) (k : Nat) :
    b.frameworks[k]?.isSome = c.frameworks[k]?.isSome := by
  have hk := h.frameworks k
  revert hk
  cases b.frameworks[k]? <;> cases c.frameworks[k]? <;> intro hk
  · rfl
  · cases hk
  · cases hk
  · rfl

/-- What is registered on akin benches, together with what bounds the handles. -/
theorem Akin.live_issued (h : Akin past b c) : List.Forall₂ (fun e e' => e.1 ≤ b.registry.issued ∧
    e'.1 ≤ c.registry.issued ∧ SameDuty b c e e') b.registry.live c.registry.live := by
  have hright := (List.forall₂_and_left _ _).2 ⟨h.issued'.live, h.live.flip⟩
  exact (List.forall₂_and_left _ _).2 ⟨h.issued.live, hright.flip⟩

section

variable {live live' : List (Nat × Duty κ)} {issued issued' : Nat} {handle handle' : Option Nat}
  {entries : List (Event τ)} {b' c' : Bench τ ω κ}

theorem Rebooked.sameDuty (hb : Rebooked k live issued handle entries b b')
    (hc : Rebooked k live' issued' handle' entries c c') {e e' : Nat × Duty κ}
    (h : SameDuty b c e e') (hk : b'.handleOf k = some e.1 ↔ c'.handleOf k = some e'.1) :
    SameDuty b' c' e e' := by
  refine ⟨h.1, ?_⟩
  intro j
  by_cases hj : j = k
  · rwa [hj]
  · rw [hb.handleOf_of_ne hj, hc.handleOf_of_ne hj]
    exact h.2 j

theorem Rebooked.bounded (h : Rebooked k live issued handle entries b b') (hb : b.Issued)
    (hle : b.registry.issued ≤ issued) (hlive : ∀ e ∈ live, e.1 ≤ issued)
    (hhandle : ∀ n, handle = some n → n ≤ issued) : b'.Issued := by
  constructor
  · rw [h.live, h.issued]
    exact hlive
  · intro j n hn
    rw [h.issued]
    by_cases hj : j = k
    · subst hj
      rw [h.handleOf_self, Option.bind_eq_some_iff] at hn
      obtain ⟨_, _, hn⟩ := hn
      exact hhandle n hn
    · rw [h.handleOf_of_ne hj] at hn
      exact Nat.le_trans (hb.known j n hn) hle

end

theorem Rebooked.enrolled {b' : Bench τ ω κ} {entries : List (Event τ)} (hb : b.Issued)
    (h : Rebooked k (b.registry.live ++ [(b.registry.issued + 1, .teardown k)])
      (b.registry.issued + 1) (some (b.registry.issued + 1)) entries b b') : b'.Issued := by
  apply h.bounded hb (Nat.le_succ _)
  · intro e he
    rw [List.mem_append, List.mem_singleton] at he
    rcases he with he | rfl
    · exact Nat.le_succ_of_le (hb.live e he)
    · exact Nat.le_refl _
  · rintro n ⟨⟩
    exact Nat.le_refl _

theorem Rebooked.withdrawn {b' : Bench τ ω κ} {handle : Option Nat} {entries : List (Event τ)}
    (hb : b.Issued) (h : Rebooked k (b.registry.live.filter fun e => handle != some e.1)
      b.registry.issued none entries b b') : b'.Issued := by
  apply h.bounded hb (Nat.le_refl _)
  · intro e he
    exact hb.live e (List.mem_filter.1 he).1
  · rintro n ⟨⟩

theorem enroll_oblivious (k : Nat) : Oblivious past (Framework.enroll k : BenchM τ ω κ Unit) := by
  intro b c hbc
  obtain ⟨hok, hb⟩ := enroll_rebooked k b
  obtain ⟨hok', hc⟩ := enroll_rebooked k c
  rw [hok, hok']
  refine ⟨.ok rfl, hbc.rebook hb hc ?_ (hb.enrolled hbc.issued) (hc.enrolled hbc.issued')⟩
  have hpresent := hbc.isSome_framework k
  have hself := hb.handleOf_self
  have hself' := hc.handleOf_self
  apply List.rel_append
  · -- The handles of earlier duties are below the one that the framework knows now.
    apply hbc.live_issued.imp
    rintro e e' ⟨hle, hle', hsame⟩
    apply hb.sameDuty hc hsame
    rw [hself, hself']
    cases b.frameworks[k]? <;> cases c.frameworks[k]? <;> simp <;> omega
  · apply List.Forall₂.cons _ .nil
    refine ⟨rfl, ?_⟩
    intro j
    by_cases hj : j = k
    · subst hj
      rw [hself, hself']
      revert hpresent
      cases b.frameworks[j]? <;> cases c.frameworks[j]? <;> simp
    · rw [hb.handleOf_of_ne hj, hc.handleOf_of_ne hj]
      constructor
      · intro h
        have := hbc.issued.known j _ h
        omega
      · intro h
        have := hbc.issued'.known j _ h
        omega

/-- What akin frameworks know of their registered teardowns, on akin benches: the one knows the
handle of a duty if the other knows that of the same duty. -/
theorem SameDuty.handle_beq {f g : Framework τ κ} (hf : b.frameworks[k]? = some f)
    (hg : c.frameworks[k]? = some g) {e e' : Nat × Duty κ} (h : SameDuty b c e e') :
    (f.handle == some e.1) = (g.handle == some e'.1) := by
  rw [Bool.eq_iff_iff, beq_iff_eq, beq_iff_eq, ← handleOf_of_some hf, ← handleOf_of_some hg]
  exact h.2 k

/-- Whether a framework's teardown is still registered, akin benches agree on. -/
theorem Akin.any_handle (h : Akin past b c) {f g : Framework τ κ} (hf : b.frameworks[k]? = some f)
    (hg : c.frameworks[k]? = some g) : (b.registry.live.any fun e => f.handle == some e.1) =
      c.registry.live.any fun e => g.handle == some e.1 := by
  have hlive := h.live
  generalize b.registry.live = live at hlive ⊢
  generalize c.registry.live = live' at hlive ⊢
  induction hlive with
  | nil => rfl
  | cons hfirst _ ih => rw [List.any_cons, List.any_cons, hfirst.handle_beq hf hg, ih]

theorem withdraw_oblivious (k : Nat) :
    Oblivious past (Framework.withdraw k : BenchM τ ω κ Unit) := by
  intro b c hbc
  have hk := hbc.frameworks k
  cases hf : b.frameworks[k]? <;> cases hg : c.frameworks[k]? <;> rw [hf, hg] at hk
  · have missing {d : Bench τ ω κ} (hd : d.frameworks[k]? = none) :
        (Framework.withdraw k : BenchM τ ω κ Unit).run d = (.error _, d) :=
      run_bind_error (frameworkAt_missing hd)
    rw [missing hf, missing hg]
    exact ⟨.error _, hbc⟩
  · cases hk
  · cases hk
  · rename_i f g
    obtain ⟨hok, hb⟩ := withdraw_rebooked hf
    obtain ⟨hok', hc⟩ := withdraw_rebooked hg
    have hself := hb.handleOf_self
    have hself' := hc.handleOf_self
    rw [Option.bind_fun_none] at hself hself'
    rw [hbc.any_handle hf hg] at hb
    rw [hok, hok']
    refine ⟨.ok rfl, hbc.rebook hb hc ?_ ?_ ?_⟩
    · have hfiltered : List.Forall₂ (SameDuty b c)
          (b.registry.live.filter fun e => f.handle != some e.1)
          (c.registry.live.filter fun e => g.handle != some e.1) := by
        apply List.rel_filter _ hbc.live
        intro e e' h
        show (f.handle != some e.1) = true ↔ (g.handle != some e'.1) = true
        rw [bne, bne, h.handle_beq hf hg]
      apply hfiltered.imp
      intro e e' h
      apply hb.sameDuty hc h
      rw [hself, hself']
      simp
    · exact hb.withdrawn hbc.issued
    · exact hc.withdrawn hbc.issued'

end Bench

namespace Framework

variable [Host τ ω] {past : Nat → List (List (Action κ))} {r : Runner τ ω κ}

theorem mark_oblivious (m : Mark) : Oblivious past (onSite (Site.mark m) : BenchM τ ω κ Unit) := by
  apply onSite_oblivious
  have hnow : Site.Step (fun _ => True) τ (Site.now : SiteM τ ω τ) := .now
  apply hnow.akin.couples.bind_self
  intro time s t hst
  exact ⟨.ok rfl, hst.record rfl⟩

theorem act_oblivious {owner : Option Nat} (hb : ∀ body, Oblivious past (r.perform owner body))
    (a : Action κ) : Oblivious past (act r owner a) := by
  apply (mark_oblivious _).bind_self
  intro _
  exact hb a.body

section

variable {k : Nat} (hb : ∀ body, Oblivious past (r.perform (some k) body))

include hb

/-- The walks of the same queue, which has different numbers on the two benches. -/
theorem walk_couples (cycle steps i : Nat) :
    Couples (Bench.Akin past) Eq (walk r k (cycle + (past k).length) steps i)
      (walk r k cycle steps i) := by
  induction steps generalizing i with
  | zero => exact couples_fail _
  | succ steps ih =>
    apply (frameworkAt_couples k).bind
    intro f g hfg
    rw [hfg.queue]
    cases (g.queue cycle)[i]? with
    | none => exact couples_pure rfl
    | some action =>
      apply (act_oblivious hb action).bind_self
      intro _
      exact ih (i + 1)

/-- A routine cannot tell akin benches apart if the bodies that it runs cannot. -/
theorem Routine.oblivious {allowed : Event τ → Prop} {x : BenchM τ ω κ α}
    (h : Routine allowed r k x) : Oblivious past x := by
  induction h with
  | pure a => exact couples_pure rfl
  | fail e => exact couples_fail e
  | bind _ _ hx hf => exact hx.bind_self hf
  | attempt _ hx => exact hx.attempt_self
  | rescue _ _ hx hh => exact hx.rescue hh
  | work hwork =>
    apply onSite_oblivious
    exact ((Site.Step.ofWork hwork).parallel Site.Step.akin).couples
  | randomBits =>
    apply onSite_oblivious
    have hstep : Site.Step (fun _ => True) Nat (Site.randomBits : SiteM τ ω Nat) := .randomBits
    exact hstep.akin.couples
  | mark m => exact mark_oblivious m
  | record _ => exact record_couples rfl
  | read hblind _ hrest =>
    apply (frameworkAt_couples k).bind
    intro f g hfg
    rw [hfg.eq_of_blind hblind]
    exact hrest f
  | update hg => exact update_oblivious hg
  | body body => exact hb body
  | walk =>
    apply (frameworkAt_couples k).bind
    intro f g hfg
    rw [hfg.cycle]
    exact walk_couples hb g.cycle r.patience 0
  | enroll => exact enroll_oblivious k
  | withdraw => exact withdraw_oblivious k

end

variable [Seconds τ]

section

variable {k : Nat} (hb : ∀ body, Oblivious past (r.perform (some k) body))

include hb

theorem beforeEach_oblivious (component : Option String) :
    Oblivious past (beforeEach r k component) := by
  have hroutine : Routine (fun _ => True) r k (beforeEach r k component) :=
    routine_beforeEach (fun _ => trivial) component
  exact hroutine.oblivious hb

theorem afterEach_oblivious (testFailed : Bool) : Oblivious past (afterEach r k testFailed) := by
  have hroutine : Routine (fun _ => True) r k (afterEach r k testFailed) :=
    routine_afterEach (fun _ => trivial) testFailed
  exact hroutine.oblivious hb

theorem abortTeardown_oblivious : Oblivious past (abortTeardown r k) := by
  have hroutine : Routine (fun _ => True) r k (abortTeardown r k) := by
    apply Routine.read
    · exact fun _ _ _ _ => rfl
    · intro f
      apply (Routine.record trivial).bind
      intro _
      exact (routine_afterEach (fun _ => trivial) true).bind fun _ => .pure ()
  exact hroutine.oblivious hb

end

/-- The same faults of duties, under whatever handles. -/
def SameFaults (failures failures' : List (Nat × Fault τ)) : Prop :=
  failures'.map Prod.snd = failures.map Prod.snd

variable (hb : ∀ owner body, Oblivious past (r.perform owner body))

omit [Host τ ω] [Seconds τ] in
/-- The journal of the registry is for nobody on the bench. -/
theorem enterJournal_couples (e e' : Registry.Entry (Duty κ) (Except (Fault τ) Unit)) :
    Couples (Bench.Akin past) Eq (enterJournal e : BenchM τ ω κ Unit) (enterJournal e') := by
  intro b c hbc
  refine ⟨.ok rfl, hbc.site, hbc.frameworks, hbc.names, hbc.trial, hbc.live, ?_, ?_⟩
  · exact ⟨hbc.issued.live, hbc.issued.known⟩
  · exact ⟨hbc.issued'.live, hbc.issued'.known⟩

include hb

theorem discharge_oblivious (duty : Duty κ) : Oblivious past (discharge r duty) := by
  cases duty with
  | teardown k => exact abortTeardown_oblivious (hb (some k))
  | act a => exact act_oblivious (hb none) a

/-- The same duty under two handles. -/
theorem dischargeOne_couples (handle handle' : Nat) (duty : Duty κ) :
    Couples (Bench.Akin past) Eq (dischargeOne r handle duty) (dischargeOne r handle' duty) := by
  apply (enterJournal_couples _ _).bind
  intro _ _ _
  apply (discharge_oblivious hb duty).attempt_self.bind_self
  intro ending
  apply (enterJournal_couples _ _).bind
  intro _ _ _
  exact couples_pure rfl

/-- The same duties under other handles end with the same faults. -/
theorem dischargeAll_couples {duties duties' : List (Nat × Duty κ)}
    (hsame : List.Forall₂ (fun d d' => d'.2 = d.2) duties duties') :
    Couples (Bench.Akin past) SameFaults
      (dischargeAll r duties) (dischargeAll r duties') := by
  induction hsame with
  | nil => exact couples_pure rfl
  | @cons d d' rest rest' hduty _ ih =>
    obtain ⟨handle, duty⟩ := d
    obtain ⟨handle', _⟩ := d'
    cases hduty
    apply (dischargeOne_couples hb handle handle' duty).bind
    rintro ending _ rfl
    cases ending with
    | ok _ => exact ih
    | error e =>
      dsimp only
      split
      · exact couples_fail e
      · -- The entry names the handle, so the two sides differ in it.
        apply Couples.bind (V := Eq)
        · exact record_couples rfl
        · intro _ _ _
          apply ih.bind
          intro failures failures' hfailures
          apply couples_pure
          rw [SameFaults, List.map_cons, List.map_cons, hfailures]

omit [Host τ ω] [Seconds τ] hb in
theorem takeDuties_couples : Couples (Bench.Akin past) (List.Forall₂ fun d d' => d'.2 = d.2)
    (takeDuties : BenchM τ ω κ (List (Nat × Duty κ))) takeDuties := by
  intro b c hbc
  refine ⟨.ok ?_, hbc.site, hbc.frameworks, hbc.names, hbc.trial, .nil, ?_, ?_⟩
  · exact List.rel_reverse (hbc.live.imp fun _ _ h => h.1)
  · exact ⟨by rintro _ ⟨⟩, hbc.issued.known⟩
  · exact ⟨by rintro _ ⟨⟩, hbc.issued'.known⟩

/-- Drains of akin benches end with the same faults. -/
theorem drain_couples :
    Couples (Bench.Akin past) SameFaults
      (drain r) (drain r) := by
  apply takeDuties_couples.bind
  intro duties duties' hsame
  have hlength := hsame.length_eq
  cases hsame with
  | nil => exact couples_pure rfl
  | cons hfirst hrest =>
    rw [hlength]
    apply (record_couples rfl).bind_self
    intro _
    apply (dischargeAll_couples hb (.cons hfirst hrest)).bind
    intro failures failures' hfailures
    have hcount : failures'.length = failures.length := by
      rw [← List.length_map, hfailures, List.length_map]
    rw [hcount]
    apply (record_couples rfl).bind_self
    intro _
    exact couples_pure hfailures

end Framework

end Testbed
