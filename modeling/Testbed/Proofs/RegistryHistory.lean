import Testbed.Proofs.Fixture
import Testbed.Proofs.NestedDrains

/-!
# The history of the registry

Whatever a run does, its registry changes by calls only, and the journal tells them: `Called` is the
relation between benches that says so. Registering and taking back are one entry each. A drain is
followed duty by duty, each of which leads along the same relation while the rest of the drain is
still to come. So all steps lead along it, with bodies that call the registry however deeply, and
the law of the journal holds of every registry that a run has used from its beginning.
-/

set_option autoImplicit false

namespace Testbed

open Proc Bench Framework Registry

variable {τ ω κ : Type}

/-- Whether a duty ended with a fault that stops the run. -/
def Framework.cutsShort : Except (Fault τ) Unit → Bool
  | .ok _ => false
  | .error e => e.endsRun

/-- The failure that a round adds to those of its drain. -/
def Registry.Round.failure {β : Type} (round : Round β (Except (Fault τ) Unit)) :
    Option (Nat × Fault τ) :=
  match round.ending with
  | .ok _ => none
  | .error e => some (round.handle, e)

namespace Bench

/-- The registry has gone through calls that its journal tells. -/
def Called (b b' : Bench τ ω κ) : Prop :=
  ∃ es, Tells es b.registry b'.registry ∧ Calls cutsShort es

instance : IsPreorder (Bench τ ω κ) Called where
  refl b := ⟨[], .nil _, .nil⟩
  trans := by
    rintro a b c ⟨es, ht, hc⟩ ⟨es', ht', hc'⟩
    exact ⟨es ++ es', ht.append ht', hc.append hc'⟩

theorem Called.of_registry {b b' : Bench τ ω κ} (h : b'.registry = b.registry) : Called b b' := by
  refine ⟨[], ?_, .nil⟩
  rw [h]
  exact .nil _

theorem update_called (k : Nat) (g : Framework τ κ → Framework τ κ) :
    (update k g : BenchM τ ω κ Unit).Along Called :=
  along_modify fun _ => Called.of_registry rfl

theorem register_called (d : Duty κ) : (register d : BenchM τ ω κ Nat).Along Called := by
  intro b
  apply (register_ends d b).mono
  intro _ b' hends
  obtain ⟨_, h⟩ := hends
  have hregistry : b'.registry = (b.registry.add d).2 := h.keepsBooks.registry
  refine ⟨[.added (b.registry.issued + 1) d], ?_, .add _ d .nil⟩
  rw [hregistry]
  exact .cons rfl (.nil _)

theorem unregister_called (handle : Option Nat) :
    (unregister handle : BenchM τ ω κ Unit).Along Called := by
  intro b
  apply (unregister_ends handle b).mono
  intro _ b' hends
  obtain ⟨_, h⟩ := hends
  have hregistry : b'.registry = b.registry.without handle := h.keepsBooks.registry
  unfold Registry.without at hregistry
  split at hregistry
  · rename_i n hn
    obtain ⟨_, hlive⟩ := Option.filter_eq_some_iff.1 hn
    refine ⟨[.removed n], ?_, .remove n .nil⟩
    rw [hregistry]
    refine .cons ?_ (.nil _)
    obtain ⟨e, he, heq⟩ := List.any_eq_true.1 hlive
    exact List.mem_map.2 ⟨e, he, beq_iff_eq.1 heq⟩
  · exact Called.of_registry hregistry

end Bench

namespace Framework

/-- How a drain ends, by its rounds and what it has left undone: with one failure for each duty that
ended with a fault, in the order of the rounds, or with the fault that has cut it short. -/
def EndsWith (rounds : List (Round (Duty κ) (Except (Fault τ) Unit)))
    (undone : List (Nat × Duty κ)) : Except (Fault τ) (List (Nat × Fault τ)) → Prop
  | .ok failures => undone = [] ∧ (∀ round ∈ rounds, cutsShort round.ending = false) ∧
      failures = rounds.filterMap Round.failure
  | .error e => e.endsRun = true ∧ ∃ round ∈ rounds.getLast?, round.ending = .error e

section

variable {round : Round (Duty κ) (Except (Fault τ) Unit)}
  {rounds : List (Round (Duty κ) (Except (Fault τ) Unit))} {undone : List (Nat × Duty κ)}
  {ending : Except (Fault τ) (List (Nat × Fault τ))}

/-- A first round that goes on adds its failure, if it has one. -/
theorem EndsWith.cons (h : EndsWith rounds undone ending) (hr : cutsShort round.ending = false) :
    EndsWith (round :: rounds) undone (ending.map (round.failure.toList ++ ·)) := by
  cases ending with
  | ok failures =>
    obtain ⟨hundone, hpassed, rfl⟩ := h
    refine ⟨hundone, List.forall_mem_cons.2 ⟨hr, hpassed⟩, ?_⟩
    rw [List.filterMap_cons]
    cases round.failure <;> rfl
  | error e =>
    obtain ⟨hends, last, hlast, hending⟩ := h
    refine ⟨hends, last, ?_, hending⟩
    rw [List.getLast?_cons, Option.mem_def.1 hlast]
    rfl

end

theorem enroll_called (k : Nat) : (enroll k : BenchM τ ω κ Unit).Along Called := by
  apply Along.bind (register_called _)
  intro handle
  exact update_called k _

theorem withdraw_called (k : Nat) : (withdraw k : BenchM τ ω κ Unit).Along Called := by
  apply Along.bind (frameworkAt_along k)
  intro f
  apply Along.bind (unregister_called f.handle)
  intro _
  exact update_called k _

theorem log_aside (level : Level) (name : String) (fields : List (String × Detail τ))
    (b : Bench τ ω κ) : Ends (onSite (Site.log level name fields) : BenchM τ ω κ Unit) b
      fun ending b' => ending = .ok () ∧ Aside b b' :=
  ⟨rfl, rfl, rfl, [⟨level, name, fields⟩], Site.events_record _ b.site⟩

section

variable [Seconds τ] [Host τ ω]

/-- Between these benches the duties of the rounds are done, one after the other. Each is run where
its beginning has been noted, and ends as its round tells. -/
inductive Discharges (r : Runner τ ω κ) :
    List (Round (Duty κ) (Except (Fault τ) Unit)) → Bench τ ω κ → Bench τ ω κ → Prop
  | done {b b' : Bench τ ω κ} (aside : Aside b b') : Discharges r [] b b'
  | next {round : Round (Duty κ) (Except (Fault τ) Unit)}
      {rounds : List (Round (Duty κ) (Except (Fault τ) Unit))} {b b₁ b₂ b' : Bench τ ω κ}
      (aside : Aside b b₁)
      (run : (discharge r round.duty).run (b₁.noted (.begun round.handle round.duty)) =
        (round.ending, b₂))
      (rest : Discharges r rounds (b₂.noted (.ended round.handle round.ending)) b') :
      Discharges r (round :: rounds) b b'

variable {r : Runner τ ω κ}

theorem Discharges.aside {rounds : List (Round (Duty κ) (Except (Fault τ) Unit))}
    {b b₁ b' : Bench τ ω κ} (h : Discharges r rounds b₁ b') (haside : Aside b b₁) :
    Discharges r rounds b b' := by
  cases h with
  | done aside => exact .done (haside.trans aside)
  | next aside run rest => exact .next (haside.trans aside) run rest

theorem Discharges.trans_aside {rounds : List (Round (Duty κ) (Except (Fault τ) Unit))}
    {b b₁ b' : Bench τ ω κ} (h : Discharges r rounds b b₁) (haside : Aside b₁ b') :
    Discharges r rounds b b' := by
  induction h with
  | done aside => exact .done (aside.trans haside)
  | next aside run _ ih => exact .next aside run (ih haside)

/-- Duties were done in rounds that the journal tells. -/
def Drained (r : Runner τ ω κ) (duties : List (Nat × Duty κ)) (b : Bench τ ω κ)
    (ending : Except (Fault τ) (List (Nat × Fault τ))) (b' : Bench τ ω κ) : Prop :=
  ∃ rounds undone, Drains cutsShort duties rounds undone ∧ Discharges r rounds b b' ∧
    Tells (rounds.flatMap Round.entries) b.registry b'.registry ∧
    (∀ round ∈ rounds, Calls cutsShort round.inner) ∧ EndsWith rounds undone ending

/-- Between these benches a duty is done in this round. -/
structure Rounds (r : Runner τ ω κ) (round : Round (Duty κ) (Except (Fault τ) Unit))
    (b b' : Bench τ ω κ) : Prop where
  runs : ∃ b₁, (discharge r round.duty).run (b.noted (.begun round.handle round.duty)) =
    (round.ending, b₁) ∧ b' = b₁.noted (.ended round.handle round.ending)
  tells : Tells round.entries b.registry b'.registry
  calls : Calls cutsShort round.inner

section

variable {round : Round (Duty κ) (Except (Fault τ) Unit)} {duties : List (Nat × Duty κ)}
  {ending : Except (Fault τ) (List (Nat × Fault τ))} {b b₁ b' : Bench τ ω κ}

theorem drained_nil (b : Bench τ ω κ) : Drained r [] b (.ok []) b := by
  refine ⟨[], [], drains_nil, .done (.refl b), .nil _, ?_, rfl, ?_, rfl⟩
  · exact List.forall_mem_nil _
  · exact List.forall_mem_nil _

/-- Log entries before the rounds, and after them, are no part of them. -/
theorem Drained.aside (h : Drained r duties b₁ ending b') (haside : Aside b b₁) :
    Drained r duties b ending b' := by
  obtain ⟨rounds, undone, hdrains, hruns, htells, hrest⟩ := h
  rw [haside.registry] at htells
  exact ⟨rounds, undone, hdrains, hruns.aside haside, htells, hrest⟩

theorem Drained.trans_aside (h : Drained r duties b ending b₁) (haside : Aside b₁ b') :
    Drained r duties b ending b' := by
  obtain ⟨rounds, undone, hdrains, hruns, htells, hrest⟩ := h
  rw [← haside.registry] at htells
  exact ⟨rounds, undone, hdrains, hruns.trans_aside haside, htells, hrest⟩

theorem Drained.cons (h : Drained r duties b₁ ending b') (hround : Rounds r round b b₁)
    (hr : cutsShort round.ending = false) :
    Drained r (round.what :: duties) b (ending.map (round.failure.toList ++ ·)) b' := by
  obtain ⟨rounds, undone, hdrains, hruns, htells, hcalls, hends⟩ := h
  obtain ⟨b₂, hrun, rfl⟩ := hround.runs
  exact ⟨round :: rounds, undone, hdrains.cons hr, .next (.refl b) hrun hruns,
    hround.tells.append htells, List.forall_mem_cons.2 ⟨hround.calls, hcalls⟩, hends.cons hr⟩

/-- A first round that stops the run is the only one. -/
theorem Drained.stop {e : Fault τ} (hround : Rounds r round b b') (hr : round.ending = .error e)
    (hends : e.endsRun = true) : Drained r (round.what :: duties) b (.error e) b' := by
  obtain ⟨b₁, hrun, hb'⟩ := hround.runs
  have hruns : Discharges r [round] b b' := by
    subst hb'
    exact .next (.refl b) hrun (.done (.refl _))
  refine ⟨[round], duties, drains_stop (by rwa [hr]) duties, hruns, ?_, ?_, hends, round, rfl, hr⟩
  · rw [List.flatMap_cons, List.flatMap_nil, List.append_nil]
    exact hround.tells
  · exact List.forall_mem_singleton.2 hround.calls

end

/-- One duty of a drain is one round, with the calls of the duty inside. -/
theorem dischargeOne_round {handle : Nat} {duty : Duty κ}
    (hd : (discharge r duty).Along Called) (b : Bench τ ω κ) :
    Ends (dischargeOne r handle duty) b fun ending b' => ∃ round : Round _ _,
      round.what = (handle, duty) ∧ ending = .ok round.ending ∧ Rounds r round b b' := by
  apply dischargeOne_ends
  apply ((ends_run _ _).and (hd (b.noted (.begun handle duty)))).mono
  intro ending b' hends
  obtain ⟨hrun, inner, htells, hcalls⟩ := hends
  have hended : Tells [.ended handle ending] b'.registry
      (b'.registry.note (.ended handle ending)) := .cons trivial (.nil _)
  exact ⟨⟨handle, duty, inner, ending⟩, rfl, rfl, ⟨b', hrun, rfl⟩,
    .cons trivial (htells.append hended), hcalls⟩

/-- By induction on the duties that are still to be done. -/
theorem dischargeAll_drained (hd : ∀ duty, (discharge r duty).Along Called)
    (duties : List (Nat × Duty κ)) (b : Bench τ ω κ) :
    Ends (dischargeAll r duties) b fun ending b' => Drained r duties b ending b' := by
  induction duties generalizing b with
  | nil => exact drained_nil b
  | cons first rest ih =>
    obtain ⟨handle, duty⟩ := first
    apply Ends.bind (dischargeOne_round (hd duty) b)
    · intro ending b₁ hout
      obtain ⟨round, hwhat, hending, hdone⟩ := hout
      cases hwhat
      cases hending
      cases hround : round.ending with
      | ok _ =>
        apply (ih b₁).mono
        intro result b' h
        have hcons := h.cons hdone (by rw [hround]; rfl)
        rw [Round.failure, hround] at hcons
        cases result <;> exact hcons
      | error e =>
        apply Ends.ite
        · intro hends
          exact Drained.stop hdone hround hends
        · intro hgoes
          have hcut : cutsShort round.ending = false := by
            rw [hround]
            exact Bool.eq_false_iff.2 hgoes
          apply Ends.bind_ok (log_aside _ _ _ b₁)
          intro b₂ haside
          apply (ih b₂).bind
          · intro failures b' h
            have hcons := (h.aside haside).cons hdone hcut
            rw [Round.failure, hround] at hcons
            exact hcons
          · intro e' b' h
            exact (h.aside haside).cons hdone hcut
    · intro e b₁ hout
      obtain ⟨round, _, hending, _⟩ := hout
      cases hending

/-- A drain takes out all duties that are live, and does them. -/
theorem drain_drained (hd : ∀ duty, (discharge r duty).Along Called) (b : Bench τ ω κ) :
    Ends (drain r) b fun ending b' => Drained r b.registry.live.reverse
      { b with registry := b.registry.takeAll.2 } ending b' := by
  have htake : Ends (takeDuties : BenchM τ ω κ (List (Nat × Duty κ))) b fun ending b₁ =>
      ending = .ok b.registry.live.reverse ∧ b₁ = { b with registry := b.registry.takeAll.2 } :=
    ⟨rfl, rfl⟩
  apply Ends.bind_ok htake
  intro b₁ h₁
  rw [← h₁]
  apply Ends.ite
  · intro hempty
    rw [List.isEmpty_iff.1 hempty]
    exact drained_nil b₁
  · intro _
    apply Ends.bind_ok (log_aside _ _ _ b₁)
    intro b₂ h₂
    apply (dischargeAll_drained hd _ b₂).bind
    · intro failures b₃ h₃
      apply Ends.bind_ok (log_aside _ _ _ b₃)
      intro b₄ h₄
      exact (h₃.aside h₂).trans_aside h₄
    · intro e b₃ h₃
      exact h₃.aside h₂

theorem drain_called (hd : ∀ duty, (discharge r duty).Along Called) : (drain r).Along Called := by
  intro b
  apply (drain_drained hd b).mono
  intro ending b' hends
  obtain ⟨rounds, undone, hdrains, _, htells, hcalls, _⟩ := hends
  have htaken : Tells [.taken b.registry.live.reverse] b.registry
      (b.registry.replay (.taken b.registry.live.reverse)) := .cons rfl (.nil _)
  refine ⟨_, htaken.append htells, ?_⟩
  rw [← List.append_nil (rounds.flatMap Round.entries)]
  exact .drain hdrains hcalls .nil

/-- Every operation leads along the calls of the registry. -/
theorem called_rules : StepRules (Called : Bench τ ω κ → Bench τ ω κ → Prop) := by
  have operations : OperationRules (Called : Bench τ ω κ → Bench τ ω κ → Prop) :=
    operationRules_of_books (fun _ _ h => Called.of_registry h.registry)
      (fun _ _ => Called.of_registry rfl) (fun _ _ => Called.of_registry rfl) enroll_called
      withdraw_called (fun a => register_called (.act a)) unregister_called
  exact { operations with drain := fun r hb => drain_called (operations.discharge hb) }

end

end Framework

namespace Scenario

variable [Seconds τ] [Host τ ω]

/-- The bench after steps that were performed in order, however each has ended. Bodies may nest as
deeply as the number says. -/
def afterSteps (s : Setting τ) (depth : Nat) (b : Bench τ ω (Body τ)) :
    List (Step τ) → Bench τ ω (Body τ)
  | [] => b
  | step :: rest => afterSteps s depth ((execute (runner s depth) s none step).run b).2 rest

theorem afterSteps_called (s : Setting τ) (depth : Nat) (b : Bench τ ω (Body τ))
    (steps : List (Step τ)) : Called b (afterSteps s depth b steps) := by
  induction steps generalizing b with
  | nil => exact refl_of Called b
  | cons step rest ih =>
    have hstep : (execute (runner s depth) s none step : RunM τ ω (Outcome τ)).Along Called :=
      execute_along s called_rules (runner_along s called_rules depth) none step
    exact trans_of Called (hstep b) (ih _)

section

variable (s : Setting τ) (depth : Nat) (current : Option Nat) (b : Bench τ ω (Body τ))

theorem execute_add (action : Action (Body τ)) :
    Ends (execute (runner s depth) s current (.add action)) b fun ending b' =>
      ending = .ok (.number (b.registry.issued + 1)) ∧
        b'.registry = (b.registry.add (.act action)).2 := by
  apply Ends.map
  apply (register_ends (.act action) b).mono
  intro _ b' hends
  obtain ⟨rfl, h⟩ := hends
  exact ⟨rfl, h.keepsBooks.registry⟩

theorem execute_remove (handle : Option Int) :
    Ends (execute (runner s depth) s current (.remove handle)) b fun ending b' =>
      ending = .ok .nothing ∧ b'.registry = b.registry.without (handleOf handle) := by
  apply (unregister_ends (handleOf handle) b).bind
  · intro _ b' hends
    obtain ⟨_, h⟩ := hends
    exact ⟨rfl, h.keepsBooks.registry⟩
  · intro e b' hends
    obtain ⟨hending, _⟩ := hends
    cases hending

/-- A drain runs its rounds and tells them, and ends with their failures or with the fault that has
cut it short. -/
theorem execute_drain :
    Ends (execute (runner s depth) s current .drain) b fun ending b' =>
      ∃ rounds undone result, Drains cutsShort b.registry.live.reverse rounds undone ∧
        Discharges (runner s depth) rounds { b with registry := b.registry.takeAll.2 } b' ∧
        b'.registry.journal = b.registry.journal ++
          .taken b.registry.live.reverse :: rounds.flatMap Round.entries ∧
        EndsWith rounds undone result ∧ ending = result.map .failures := by
  have hbodies := runner_along (ω := ω) s called_rules depth
  apply Ends.map
  apply (drain_drained (called_rules.discharge hbodies) b).mono
  intro result b' hout
  obtain ⟨rounds, undone, hdrains, hruns, htells, _, hends⟩ := hout
  refine ⟨rounds, undone, result, hdrains, hruns, ?_, hends, rfl⟩
  rw [htells.journal]
  show b.registry.journal ++ [.taken b.registry.live.reverse] ++ rounds.flatMap Round.entries = _
  rw [List.append_assoc, List.singleton_append]

end

/-- The law of the registry's history, whatever the steps and the bodies that they run do: the
registry and its journal are lawful. Every registration, every removal and every drain on the way is
told by the journal, at whatever bench and however deep inside others it is called. A drain runs the
duties of the rounds that it tells, each of which ends as it tells, and ends itself with one failure
for each duty that ended with a fault, unless one of these faults has cut it short. -/
theorem registry_lawful (s : Setting τ) (depth : Nat) {b : Bench τ ω (Body τ)}
    (hb : b.registry = .empty) (steps : List (Step τ)) :
    (afterSteps s depth b steps).registry.Lawful cutsShort ∧
    ∀ (left : Nat) (current : Option Nat) (m : Bench τ ω (Body τ)),
      (∀ action, Ends (execute (runner s left) s current (.add action)) m fun ending m' =>
        ending = .ok (.number (m.registry.issued + 1)) ∧
          m'.registry = (m.registry.add (.act action)).2) ∧
      (∀ handle, Ends (execute (runner s left) s current (.remove handle)) m fun ending m' =>
        ending = .ok .nothing ∧ m'.registry = m.registry.without (handleOf handle)) ∧
      Ends (execute (runner s left) s current .drain) m fun ending m' =>
        ∃ rounds undone result, Drains cutsShort m.registry.live.reverse rounds undone ∧
          Discharges (runner s left) rounds { m with registry := m.registry.takeAll.2 } m' ∧
          m'.registry.journal = m.registry.journal ++
            .taken m.registry.live.reverse :: rounds.flatMap Round.entries ∧
          EndsWith rounds undone result ∧ ending = result.map .failures := by
  constructor
  · obtain ⟨es, htells, hcalls⟩ := afterSteps_called s depth b steps
    rw [hb] at htells
    exact htells.lawful hcalls
  · intro left current m
    exact ⟨execute_add s left current m, execute_remove s left current m,
      execute_drain s left current m⟩

/-- The duty that is done first adds another one, drains it, takes back too late the one after its
own, and fails. That one is an interrupt, so the last one is left undone. A second drain finds only
what was added during the first one. -/
def nestedDrains : List (Step Rat) :=
  [.add ⟨"left", []⟩, .add ⟨"interrupt", [.terminate]⟩,
   .add ⟨"nest", [.add ⟨"inner", [.add ⟨"late", []⟩]⟩, .drain, .remove (some 2),
     .raise (.plain .lookup [])]⟩,
   .add ⟨"gone", []⟩, .remove (some 4), .remove none, .drain, .remove (some 1), .drain]

/-- The bench before the first step. -/
def unused : Bench Rat (Scripted.World Rat) (Body Rat) := .start (.start 0 [] [])

theorem registry_lawful_nestedDrains :
    let r := (afterSteps stubbed 3 unused nestedDrains).registry
    unused.registry = .empty ∧ r.Lawful cutsShort ∧
      (addedIn r.journal).map Prod.fst = [1, 2, 3, 4, 5, 6] ∧ removedIn r.journal = [4] ∧
      (takenIn r.journal).map Prod.fst = [3, 2, 1, 5, 6] ∧
      (begunIn r.journal).map Prod.fst = [3, 5, 2, 6] := by
  have hempty : unused.registry = .empty := rfl
  refine ⟨hempty, (registry_lawful stubbed 3 hempty nestedDrains).1, ?_, ?_, ?_, ?_⟩
  all_goals decide +kernel

end Scenario

end Testbed
