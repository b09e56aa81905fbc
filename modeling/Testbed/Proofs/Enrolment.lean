import Mathlib.Data.List.Nodup
import Testbed.Proofs.Books
import Testbed.Scripted.World
import Testbed.Session.Run

/-!
# Registered teardowns and the handles of frameworks

When only frameworks use the registry, it holds the teardowns of those frameworks that are set up
and not yet torn down, each under the handle that its framework knows. A setup and a teardown keep
this agreement at once, however they end. A drain takes all teardowns out and then does them one by
one, so in between they are pending: `Agrees` counts them beside the registered ones.
-/

set_option autoImplicit false

namespace Testbed

open Proc Bench Framework

variable {τ ω κ α : Type}

namespace Bench

/-- Neither the registry nor the handle of a framework is touched. -/
structure Untouched (b b' : Bench τ ω κ) : Prop where
  registry : b'.registry = b.registry
  handleOf : ∀ k, b'.handleOf k = b.handleOf k

instance : IsPreorder (Bench τ ω κ) Untouched where
  refl _ := ⟨rfl, fun _ => rfl⟩
  trans := by
    intro a b c h h'
    refine ⟨?_, ?_⟩
    · rw [h'.registry, h.registry]
    · intro k
      rw [h'.handleOf, h.handleOf]

theorem KeepsBooks.untouched {b b' : Bench τ ω κ} (h : KeepsBooks b b') : Untouched b b' :=
  ⟨h.registry, h.handleOf⟩

/-- The duties that are registered or pending are the teardowns of the frameworks that know a
handle, each under its own. -/
structure Agrees (pending : List (Nat × Duty κ)) (b : Bench τ ω κ) : Prop where
  mem_iff : ∀ h d, (h, d) ∈ b.registry.live ++ pending ↔
    ∃ k, d = .teardown k ∧ b.handleOf k = some h
  distinct : ((b.registry.live ++ pending).map Prod.fst).Nodup
  injective : ∀ j k h, b.handleOf j = some h → b.handleOf k = some h → j = k
  issued : ∀ k h, b.handleOf k = some h → h ≤ b.registry.issued

/-- Nothing but the journal of the registry has changed, and no handle. -/
theorem Agrees.congr {pending : List (Nat × Duty κ)} {b b' : Bench τ ω κ} (h : Agrees pending b)
    (hlive : b'.registry.live = b.registry.live) (hissued : b'.registry.issued = b.registry.issued)
    (hhandle : ∀ k, b'.handleOf k = b.handleOf k) : Agrees pending b' := by
  refine ⟨?_, ?_, ?_, ?_⟩
  · simpa only [hlive, hhandle] using h.mem_iff
  · simpa only [hlive] using h.distinct
  · simpa only [hhandle] using h.injective
  · simpa only [hhandle, hissued] using h.issued

theorem Agrees.untouched {pending : List (Nat × Duty κ)} {b b' : Bench τ ω κ}
    (h : Agrees pending b) (hb : Untouched b b') : Agrees pending b' :=
  h.congr (by rw [hb.registry]) (by rw [hb.registry]) hb.handleOf

/-- A framework has forgotten its handle, the duty under that is gone, and that is all. -/
structure Withdrawn (k : Nat) (pending : List (Nat × Duty κ)) (b b' : Bench τ ω κ) : Prop where
  agrees : Agrees (pending.filter fun e => b.handleOf k != some e.1) b'
  live : b'.registry.live = b.registry.live.filter fun e => b.handleOf k != some e.1
  handleOf : ∀ j, b'.handleOf j = if k = j then none else b.handleOf j

theorem Withdrawn.untouched {k : Nat} {pending : List (Nat × Duty κ)} {b b' b'' : Bench τ ω κ}
    (h : Withdrawn k pending b b') (hb : Untouched b' b'') : Withdrawn k pending b b'' := by
  refine ⟨h.agrees.untouched hb, ?_, ?_⟩
  · rw [hb.registry, h.live]
  · intro j
    rw [hb.handleOf, h.handleOf]

theorem Withdrawn.of_untouched {k : Nat} {pending : List (Nat × Duty κ)} {b b' b'' : Bench τ ω κ}
    (h : Withdrawn k pending b' b'') (hb : Untouched b b') : Withdrawn k pending b b'' := by
  refine ⟨?_, ?_, ?_⟩
  · simpa only [hb.handleOf] using h.agrees
  · simpa only [hb.handleOf, hb.registry] using h.live
  · simpa only [hb.handleOf] using h.handleOf

/-- At the beginning nothing is registered, and no framework knows a handle. -/
theorem agrees_of_empty {b : Bench τ ω κ} (hlive : b.registry.live = [])
    (hidle : ∀ k, b.handleOf k = none) : Agrees [] b := by
  refine ⟨?_, ?_, ?_, ?_⟩ <;> simp [hlive, hidle]

section

variable {pending : List (Nat × Duty κ)} {k : Nat} {b b' : Bench τ ω κ} (h : Agrees pending b)

include h

theorem Agrees.le_issued {e : Nat × Duty κ} (he : e ∈ b.registry.live ++ pending) :
    e.1 ≤ b.registry.issued := by
  obtain ⟨j, _, hj⟩ := (h.mem_iff e.1 e.2).1 he
  exact h.issued j e.1 hj

/-- The handle that is given out next is no one's yet. -/
theorem Agrees.distinct_add
    (hlive : b'.registry.live = b.registry.live ++ [(b.registry.issued + 1, .teardown k)]) :
    ((b'.registry.live ++ pending).map Prod.fst).Nodup := by
  rw [hlive, List.append_assoc, List.singleton_append]
  apply (List.perm_middle.map Prod.fst).nodup_iff.2
  refine List.nodup_cons.2 ⟨?_, h.distinct⟩
  intro hmem
  obtain ⟨e, he, heq⟩ := List.mem_map.1 hmem
  have := h.le_issued he
  omega

omit h in
/-- When a framework that knew no handle learns one, the others know theirs as before. -/
theorem handleOf_learned {handle : Nat} (hidle : b.handleOf k = none)
    (hnew : b'.handleOf k = some handle) (hold : ∀ j, j ≠ k → b'.handleOf j = b.handleOf j)
    (j n : Nat) :
    b'.handleOf j = some n ↔ j = k ∧ n = handle ∨ b.handleOf j = some n := by
  by_cases hj : j = k
  · subst hj
    rw [hnew, hidle, Option.some_inj, eq_comm]
    simp
  · rw [hold j hj]
    simp [hj]

/-- A framework that knew no handle is registered under a new one. -/
theorem Agrees.add (hidle : b.handleOf k = none)
    (hlive : b'.registry.live = b.registry.live ++ [(b.registry.issued + 1, .teardown k)])
    (hissued : b'.registry.issued = b.registry.issued + 1)
    (hnew : b'.handleOf k = some (b.registry.issued + 1))
    (hold : ∀ j, j ≠ k → b'.handleOf j = b.handleOf j) : Agrees pending b' := by
  have hlearned := handleOf_learned hidle hnew hold
  have hfresh {j n : Nat} (hj : b.handleOf j = some n) : n ≠ b.registry.issued + 1 := by
    have := h.issued j n hj
    omega
  refine ⟨?_, h.distinct_add hlive, ?_, ?_⟩
  · intro n d
    have hmem : (n, d) ∈ b'.registry.live ++ pending ↔
        (n, d) ∈ b.registry.live ++ pending ∨ (n, d) = (b.registry.issued + 1, .teardown k) := by
      rw [hlive]
      simp only [List.mem_append, List.mem_singleton]
      exact or_right_comm
    rw [hmem, h.mem_iff]
    constructor
    · rintro (⟨j, rfl, hj⟩ | hlast)
      · exact ⟨j, rfl, (hlearned j n).2 (.inr hj)⟩
      · cases hlast
        exact ⟨k, rfl, hnew⟩
    · rintro ⟨j, rfl, hj⟩
      obtain ⟨rfl, rfl⟩ | hj := (hlearned j n).1 hj
      · exact .inr rfl
      · exact .inl ⟨j, rfl, hj⟩
  · intro i j n hi hj
    obtain ⟨rfl, rfl⟩ | hi := (hlearned i n).1 hi
    · obtain ⟨rfl, _⟩ | hj := (hlearned j _).1 hj
      · rfl
      · exact absurd rfl (hfresh hj)
    · obtain ⟨_, rfl⟩ | hj := (hlearned j n).1 hj
      · exact absurd rfl (hfresh hi)
      · exact h.injective i j n hi hj
  · intro j n hj
    rw [hissued]
    obtain ⟨_, rfl⟩ | hj := (hlearned j n).1 hj
    · exact Nat.le_refl _
    · exact Nat.le_succ_of_le (h.issued j n hj)

/-- A framework forgets its handle, and the duty under that is gone. -/
theorem Agrees.drop
    (hlive : b'.registry.live = b.registry.live.filter fun e => b.handleOf k != some e.1)
    (hissued : b'.registry.issued = b.registry.issued)
    (hhandle : ∀ j, b'.handleOf j = if k = j then none else b.handleOf j) :
    Agrees (pending.filter fun e => b.handleOf k != some e.1) b' := by
  have hold {j n : Nat} (hj : b'.handleOf j = some n) : k ≠ j ∧ b.handleOf j = some n := by
    rw [hhandle] at hj
    split at hj
    · cases hj
    · exact ⟨‹_›, hj⟩
  refine ⟨?_, ?_, ?_, ?_⟩
  · intro n d
    rw [hlive, ← List.filter_append, List.mem_filter, h.mem_iff, bne_iff_ne]
    constructor
    · rintro ⟨⟨j, rfl, hj⟩, hother⟩
      have hjk : k ≠ j := by
        rintro rfl
        exact hother hj
      exact ⟨j, rfl, by rw [hhandle, if_neg hjk, hj]⟩
    · rintro ⟨j, rfl, hj⟩
      obtain ⟨hjk, hj⟩ := hold hj
      refine ⟨⟨j, rfl, hj⟩, ?_⟩
      intro hk
      exact hjk (h.injective k j n hk hj)
  · rw [hlive, ← List.filter_append]
    exact h.distinct.sublist ((List.filter_sublist ..).map Prod.fst)
  · intro i j n hi hj
    exact h.injective i j n (hold hi).2 (hold hj).2
  · intro j n hj
    rw [hissued]
    exact h.issued j n (hold hj).2

end

/-- When all duties are taken out, they are pending, the latest first. -/
theorem Agrees.taken {b : Bench τ ω κ} (h : Agrees [] b) :
    Agrees b.registry.live.reverse { b with registry := b.registry.takeAll.2 } := by
  refine ⟨?_, ?_, h.injective, h.issued⟩
  · intro n d
    have hmem : (n, d) ∈ [] ++ b.registry.live.reverse ↔ (n, d) ∈ b.registry.live ++ [] := by simp
    exact hmem.trans (h.mem_iff n d)
  · have hdistinct := h.distinct
    simpa [Registry.takeAll, List.nodup_reverse] using hdistinct

/-- The first of the pending teardowns is the one under the handle that its framework knows. -/
theorem Agrees.filter_first {k handle : Nat} {rest : List (Nat × Duty κ)} {b : Bench τ ω κ}
    (h : Agrees ((handle, .teardown k) :: rest) b) (hlive : b.registry.live = []) :
    ((handle, Duty.teardown k) :: rest).filter (fun e => b.handleOf k != some e.1) = rest := by
  have hk : b.handleOf k = some handle := by
    obtain ⟨j, hj, hhandle⟩ := (h.mem_iff handle (.teardown k)).1 (by simp)
    cases hj
    exact hhandle
  have hdistinct := h.distinct
  rw [hlive, List.nil_append, List.map_cons, List.nodup_cons] at hdistinct
  rw [hk, List.filter_cons_of_neg (by simp)]
  apply List.filter_eq_self.2
  rintro e he
  rw [bne_iff_ne, Ne, Option.some_inj]
  rintro rfl
  exact hdistinct.1 (List.mem_map.2 ⟨e, he, rfl⟩)

end Bench

namespace Framework

variable {k : Nat} {pending : List (Nat × Duty κ)} {b : Bench τ ω κ}

/-- A framework that is registered learns a new handle. -/
theorem enroll_agrees {f : Framework τ κ} (hf : b.frameworks[k]? = some f)
    (hidle : b.handleOf k = none) (h : Agrees pending b) :
    Ends (enroll k : BenchM τ ω κ Unit) b fun _ b' => Agrees pending b' ∧
      ∀ j, (b'.handleOf j).isSome = (k == j || (b.handleOf j).isSome) := by
  apply Ends.bind_ok (register_ends (.teardown k) b)
  intro b₁ h₁
  obtain ⟨new, hadds, _⟩ := h₁.adds
  apply (update_ends k _ b₁).mono
  rintro _ b₂ ⟨_, h₂, hg⟩
  have hlive : b₂.registry.live =
      b.registry.live ++ [(b.registry.issued + 1, .teardown k)] := by
    rw [h₂.1, hadds.registry]
    rfl
  have hissued : b₂.registry.issued = b.registry.issued + 1 := by
    rw [h₂.1, hadds.registry]
    rfl
  have hf₁ : b₁.frameworks[k]? = some f := by rw [hadds.frameworks, hf]
  have hnew : b₂.handleOf k = some (b.registry.issued + 1) := handleOf_modify hg hf₁
  have hold (j : Nat) (hj : j ≠ k) : b₂.handleOf j = b.handleOf j := by
    rw [handleOf_modify_of_ne hg hj]
    exact handleOf_of_frameworks hadds.frameworks j
  refine ⟨h.add hidle hlive hissued hnew hold, ?_⟩
  intro j
  by_cases hj : j = k
  · subst hj
    simp [hnew]
  · rw [hold j hj, beq_eq_false_iff_ne.2 (Ne.symm hj), Bool.false_or]

/-- A framework that takes its teardown back forgets its handle, whether or not the teardown is
still registered. -/
theorem withdraw_agrees (h : Agrees pending b) :
    Ends (withdraw k : BenchM τ ω κ Unit) b fun _ b' => Withdrawn k pending b b' := by
  apply Ends.bind (frameworkAt_found k b)
  · rintro f b ⟨rfl, hf⟩
    apply Ends.bind_ok (unregister_ends f.handle b)
    intro b₁ h₁
    obtain ⟨new, hadds, _⟩ := h₁.adds
    apply (update_ends k _ b₁).mono
    rintro _ b₂ ⟨_, h₂, hg⟩
    have hlive : b₂.registry.live = b.registry.live.filter fun e => b.handleOf k != some e.1 := by
      rw [h₂.1, hadds.registry, handleOf_of_some hf]
      exact Registry.live_without _ _
    have hissued : b₂.registry.issued = b.registry.issued := by
      rw [h₂.1, hadds.registry]
      exact Registry.issued_without _ _
    have hf₁ : b₁.frameworks[k]? = some f := by rw [hadds.frameworks, hf]
    have hhandle (j : Nat) : b₂.handleOf j = if k = j then none else b.handleOf j := by
      split
      · subst j
        exact handleOf_modify hg hf₁
      · rename_i hj
        rw [handleOf_modify_of_ne hg (Ne.symm hj)]
        exact handleOf_of_frameworks hadds.frameworks j
    exact ⟨h.drop hlive hissued hhandle, hlive, hhandle⟩
  · rintro e b ⟨rfl, hmissing⟩
    have hnone : b.handleOf k = none := by
      unfold handleOf
      rw [hmissing]
      rfl
    have hall (l : List (Nat × Duty κ)) : (l.filter fun e => b.handleOf k != some e.1) = l := by
      rw [hnone]
      exact List.filter_eq_self.2 fun _ _ => rfl
    refine ⟨by rwa [hall], by rw [hall], ?_⟩
    intro j
    split
    · subst j
      exact hnone
    · rfl

section

variable [Seconds τ] [Host τ ω] {r : Runner τ ω κ}
  (hb : ∀ owner body, (r.perform owner body).Along Untouched)

include hb

/-- After a setup its framework is registered, however the setup ends. -/
theorem beforeEach_agrees {f : Framework τ κ} (hf : b.frameworks[k]? = some f)
    (hidle : b.handleOf k = none) (h : Agrees pending b) (component : Option String) :
    Ends (beforeEach r k component) b fun _ b' => Agrees pending b' ∧
      ∀ j, (b'.handleOf j).isSome = (k == j || (b.handleOf j).isSome) := by
  apply (setupRules_of_books (fun _ _ => KeepsBooks.untouched) hb k).beforeEach_ends
    (enroll_agrees hf hidle h)
  rintro b₁ b₂ ⟨h₁, hhandle⟩ h₂
  refine ⟨h₁.untouched h₂, ?_⟩
  intro j
  rw [h₂.handleOf, hhandle]

/-- After a teardown its framework is not registered, however the teardown ends. -/
theorem afterEach_agrees (h : Agrees pending b) (testFailed : Bool) :
    Ends (afterEach r k testFailed) b fun _ b' => Withdrawn k pending b b' := by
  apply afterEach_ends (partRules_of_books (fun _ _ => KeepsBooks.untouched) hb k)
    (withdraw_agrees h)
  · intro before b₁ b₂ h₁ h₂
    apply (clearAway_keepsBooks k testFailed before b₂).mono
    intro _ b₃ h₃ ended b₄ h₄
    exact ((h₁.untouched h₂).untouched h₃.untouched).untouched h₄.keepsBooks.untouched
  · intro e b₁ h₁ _
    exact h₁

theorem abortTeardown_agrees {f : Framework τ κ} (hf : b.frameworks[k]? = some f)
    (h : Agrees pending b) :
    Ends (abortTeardown r k) b fun _ b' => Withdrawn k pending b b' := by
  apply Ends.bind_ok (frameworkAt_ends hf)
  rintro b rfl
  apply Ends.bind_ok (record_adds _ b)
  intro b₁ h₁
  have hb₁ : Untouched b b₁ := h₁.keepsBooks.untouched
  apply Ends.bind (afterEach_agrees hb (h.untouched hb₁) true)
  · intro _ b₂ h₂
    exact h₂.of_untouched hb₁
  · intro _ b₂ h₂
    exact h₂.of_untouched hb₁

/-- A drain that comes to the teardown of a framework has one duty less pending. -/
theorem dischargeOne_agrees {handle : Nat} {rest : List (Nat × Duty κ)}
    (h : Agrees ((handle, .teardown k) :: rest) b) (hlive : b.registry.live = []) :
    Ends (dischargeOne r handle (.teardown k)) b fun _ b' =>
      Agrees rest b' ∧ b'.registry.live = [] := by
  have hk : b.handleOf k = some handle := by
    obtain ⟨j, hj, hhandle⟩ := (h.mem_iff handle (.teardown k)).1 (by simp)
    cases hj
    exact hhandle
  obtain ⟨f, hf, _⟩ := Option.bind_eq_some_iff.1 hk
  apply dischargeOne_ends
  apply (abortTeardown_agrees hb hf (b := b.noted (.begun handle (.teardown k)))
    (h.congr rfl rfl fun _ => rfl)).mono
  intro ending b' h'
  have hagrees : Agrees rest b' := by
    rw [← h.filter_first hlive]
    exact h'.agrees
  have hlive' : b'.registry.live = [] := by
    rw [h'.live, show (b.noted (.begun handle (.teardown k))).registry.live = [] from hlive]
    rfl
  exact ⟨hagrees.congr rfl rfl fun _ => rfl, hlive'⟩

/-- A drain that is not stopped leaves nothing pending. -/
theorem dischargeAll_agrees (h : Agrees pending b) (hlive : b.registry.live = []) :
    Ends (dischargeAll r pending) b fun res b' =>
      ∀ failures, res = .ok failures → Agrees [] b' ∧ b'.registry.live = [] := by
  induction pending generalizing b with
  | nil => exact fun _ _ => ⟨h, hlive⟩
  | cons first rest ih =>
    obtain ⟨handle, duty⟩ := first
    obtain ⟨k, rfl, _⟩ := (h.mem_iff handle duty).1 (by simp)
    apply Ends.bind (dischargeOne_agrees hb h hlive)
    · rintro ending b₁ ⟨h₁, hlive₁⟩
      cases ending with
      | ok _ => exact ih h₁ hlive₁
      | error e =>
        apply Ends.ite
        · intro _ failures hok
          cases hok
        · intro _
          apply Ends.bind_ok (record_adds _ b₁)
          intro b₂ h₂
          have hrest := ih (h₁.untouched h₂.keepsBooks.untouched) (by rw [h₂.registry, hlive₁])
          apply Ends.bind hrest
          · intro failures b₃ h₃ _ _
            exact h₃ failures rfl
          · intro e b₃ _ failures hok
            cases hok
    · intro e b₁ _ failures hok
      cases hok

/-- After a drain that is not stopped no framework is registered. -/
theorem drain_agrees (h : Agrees [] b) :
    Ends (drain r) b fun res b' =>
      ∀ failures, res = .ok failures → Agrees [] b' ∧ b'.registry.live = [] := by
  have htake : Ends (takeDuties : BenchM τ ω κ (List (Nat × Duty κ))) b fun res b₁ =>
      res = .ok b.registry.live.reverse ∧ b₁ = { b with registry := b.registry.takeAll.2 } :=
    ⟨rfl, rfl⟩
  apply Ends.bind_ok htake
  rintro b₁ rfl
  have hpending := h.taken
  apply Ends.ite
  · intro hempty _ _
    rw [List.isEmpty_iff.1 hempty] at hpending
    exact ⟨hpending, rfl⟩
  · intro _
    apply Ends.bind_ok (record_adds _ _)
    intro b₂ h₂
    have hall := dischargeAll_agrees hb (hpending.untouched h₂.keepsBooks.untouched)
      (by rw [h₂.registry]; rfl)
    apply Ends.bind hall
    · intro failures b₃ h₃
      obtain ⟨h₃, hlive₃⟩ := h₃ failures rfl
      apply Ends.bind_ok (record_adds _ b₃)
      intro b₄ h₄ _ _
      exact ⟨h₃.untouched h₄.keepsBooks.untouched, by rw [run_pure, h₄.registry, hlive₃]⟩
    · intro e b₃ _ failures hok
      cases hok

end

/-- A step in the life of frameworks that share the registry. -/
inductive Stage (τ ω κ : Type) where
  | setUp (framework : Nat) (component : Option String)
  | tearDown (framework : Nat) (testFailed : Bool)
  | drain
  /-- Anything else. -/
  | work (x : BenchM τ ω κ Unit)

namespace Stage

/-- Whether the latest step in the life of a framework is a setup. The latest stage comes first. -/
def isUp (k : Nat) : List (Stage τ ω κ) → Bool
  | [] => false
  | .setUp j _ :: earlier => k == j || isUp k earlier
  | .tearDown j _ :: earlier => k != j && isUp k earlier
  | .drain :: _ => false
  | .work _ :: earlier => isUp k earlier

variable [Seconds τ] [Host τ ω]

/-- Performs a stage. -/
def perform (r : Runner τ ω κ) : Stage τ ω κ → BenchM τ ω κ Unit
  | .setUp k component => beforeEach r k component
  | .tearDown k testFailed => do
    let _ ← afterEach r k testFailed
  | .drain => do
    let _ ← Framework.drain r
  | .work x => x

/-- The bench after stages, however each of them ended. -/
def after (r : Runner τ ω κ) (b : Bench τ ω κ) : List (Stage τ ω κ) → Bench τ ω κ
  | [] => b
  | stage :: earlier => ((stage.perform r).run (after r b earlier)).2

/-- What a stage may do after the earlier ones: set up a framework that is there and is not set up,
tear any one down, drain if no action stops the run, or leave registry and handles alone. -/
def Follows (r : Runner τ ω κ) (earlier : List (Stage τ ω κ)) (b : Bench τ ω κ) :
    Stage τ ω κ → Prop
  | .setUp k _ => k < b.frameworks.length ∧ isUp k earlier = false
  | .tearDown _ _ => True
  | .drain => ∃ failures, ((Framework.drain r).run b).1 = .ok failures
  | .work x => x.Along Untouched

/-- Each stage may come after the earlier ones. -/
def Allowed (r : Runner τ ω κ) (b : Bench τ ω κ) : List (Stage τ ω κ) → Prop
  | [] => True
  | stage :: earlier => Allowed r b earlier ∧ stage.Follows r earlier (after r b earlier)

variable {r : Runner τ ω κ} (hb : ∀ owner body, (r.perform owner body).Along Untouched)

include hb

/-- One stage keeps the agreement. -/
theorem perform_agrees {earlier : List (Stage τ ω κ)} {b : Bench τ ω κ} (h : Agrees [] b)
    (hup : ∀ k, (b.handleOf k).isSome = isUp k earlier) (stage : Stage τ ω κ)
    (hstage : stage.Follows r earlier b) :
    Ends (stage.perform r) b fun _ b' =>
      Agrees [] b' ∧ ∀ k, (b'.handleOf k).isSome = isUp k (stage :: earlier) := by
  cases stage with
  | setUp k component =>
    obtain ⟨hthere, hdown⟩ := hstage
    have hidle : b.handleOf k = none := by
      rw [← Option.not_isSome_iff_eq_none, hup, hdown]
      exact Bool.false_ne_true
    apply (beforeEach_agrees hb (List.getElem?_eq_getElem hthere) hidle h component).mono
    rintro _ b' ⟨h', hhandle⟩
    refine ⟨h', ?_⟩
    intro j
    rw [hhandle, hup, isUp, Bool.beq_comm]
  | tearDown k testFailed =>
    have hend {b' : Bench τ ω κ} (h' : Withdrawn k [] b b') : Agrees [] b' ∧
        ∀ j, (b'.handleOf j).isSome = isUp j (.tearDown k testFailed :: earlier) := by
      refine ⟨h'.agrees, ?_⟩
      intro j
      rw [h'.handleOf, isUp, ← hup]
      by_cases hj : k = j
      · simp [hj]
      · simp [hj, Ne.symm hj]
    exact (afterEach_agrees hb h testFailed).bind (fun _ _ => hend) fun _ _ => hend
  | drain =>
    obtain ⟨failures, hok⟩ := hstage
    have hdrained : Ends (Framework.drain r) b fun res b' => (∃ failures, res = .ok failures) ∧
        Agrees [] b' ∧ b'.registry.live = [] :=
      ⟨⟨failures, hok⟩, drain_agrees hb h failures hok⟩
    apply hdrained.bind
    · rintro _ b' ⟨_, h', hlive⟩
      refine ⟨h', ?_⟩
      intro k
      cases hk : b'.handleOf k with
      | none => exact congrArg _ hk
      | some n =>
        have hmem := (h'.mem_iff n (.teardown k)).2 ⟨k, rfl, hk⟩
        rw [hlive] at hmem
        cases hmem
    · rintro e b' ⟨⟨_, hno⟩, _⟩
      cases hno
  | work x =>
    apply (hstage b).mono
    intro _ b' h'
    refine ⟨h.untouched h', ?_⟩
    intro k
    rw [h'.handleOf, hup]
    rfl

/-- Over every run of stages that follow each other. -/
theorem after_agrees {b : Bench τ ω κ} (hlive : b.registry.live = [])
    (hidle : ∀ f ∈ b.frameworks, f.handle = none) (stages : List (Stage τ ω κ))
    (hallowed : Allowed r b stages) :
    Agrees [] (after r b stages) ∧ ∀ k, ((after r b stages).handleOf k).isSome = isUp k stages := by
  induction stages with
  | nil =>
    have hnone (k : Nat) : b.handleOf k = none := by
      unfold handleOf
      rw [Option.bind_eq_none_iff]
      intro f hf
      exact hidle f (List.mem_of_getElem? hf)
    refine ⟨agrees_of_empty hlive hnone, ?_⟩
    intro k
    rw [after, hnone]
    rfl
  | cons stage earlier ih =>
    obtain ⟨h, hup⟩ := ih hallowed.1
    exact perform_agrees hb h hup stage hallowed.2

omit hb in
/-- A session that ends with nothing registered does nothing at its end. -/
theorem drainAtEnd_idle {b : Bench τ ω κ} (hlive : b.registry.live = []) (exitStatus : Int) :
    Ends (Session.drainAtEnd r exitStatus) b fun res b' =>
      res = .ok () ∧ b'.site = b.site ∧ b'.frameworks = b.frameworks := by
  have hdrain : Ends (Framework.drain r) b fun res b' =>
      res = .ok [] ∧ b'.site = b.site ∧ b'.frameworks = b.frameworks := by
    have htake : Ends (takeDuties : BenchM τ ω κ (List (Nat × Duty κ))) b fun res b' =>
        res = .ok b.registry.live.reverse ∧ b'.site = b.site ∧ b'.frameworks = b.frameworks :=
      ⟨rfl, rfl, rfl⟩
    rw [hlive] at htake
    exact htake.bind_ok fun _ h => ⟨rfl, h⟩
  exact hdrain.bind_ok fun _ h => ⟨rfl, h⟩

/-- However stages follow each other and end, the registry holds the teardowns of exactly those
frameworks whose latest step is a setup, each under the handle that its framework knows. No two
frameworks know the same handle, and those that are not set up know none. So if all have been torn
down, nothing is done when the session ends. -/
theorem live_iff_isUp {b : Bench τ ω κ} (hlive : b.registry.live = [])
    (hidle : ∀ f ∈ b.frameworks, f.handle = none) {stages : List (Stage τ ω κ)}
    (hallowed : Allowed r b stages) :
    let b' := after r b stages
    (∀ n d, (n, d) ∈ b'.registry.live ↔
      ∃ k, isUp k stages = true ∧ d = .teardown k ∧ b'.handleOf k = some n) ∧
    (∀ k, isUp k stages = true → ∃ n, b'.handleOf k = some n) ∧
    (∀ j k n, b'.handleOf j = some n → b'.handleOf k = some n → j = k) ∧
    (∀ k, isUp k stages = false → b'.handleOf k = none) ∧
    ((∀ k, isUp k stages = false) → ∀ exitStatus,
      Ends (Session.drainAtEnd r exitStatus) b' fun res b'' =>
        res = .ok () ∧ b''.site = b'.site ∧ b''.frameworks = b'.frameworks) := by
  intro b'
  obtain ⟨h, hup⟩ := after_agrees hb hlive hidle stages hallowed
  have hmem (n : Nat) (d : Duty κ) : (n, d) ∈ b'.registry.live ↔
      ∃ k, isUp k stages = true ∧ d = .teardown k ∧ b'.handleOf k = some n := by
    rw [← List.append_nil b'.registry.live, h.mem_iff]
    constructor
    · rintro ⟨k, rfl, hk⟩
      refine ⟨k, ?_, rfl, hk⟩
      rw [← hup, hk]
      rfl
    · rintro ⟨k, _, rfl, hk⟩
      exact ⟨k, rfl, hk⟩
  refine ⟨hmem, ?_, h.injective, ?_, ?_⟩
  · intro k hk
    rw [← hup] at hk
    exact Option.isSome_iff_exists.1 hk
  · intro k hk
    rw [← Option.not_isSome_iff_eq_none, hup, hk]
    exact Bool.false_ne_true
  · intro hdown exitStatus
    apply drainAtEnd_idle
    apply List.eq_nil_iff_forall_not_mem.2
    rintro ⟨n, d⟩ hlive
    obtain ⟨k, hk, _⟩ := (hmem n d).1 hlive
    rw [hdown k] at hk
    cases hk

omit hb

/-- Bodies that raise the fault they are. -/
def raising : Runner Rat (Scripted.World Rat) (Fault Rat) := ⟨fun _ e => .fail e, 1⟩

/-- A bench with two frameworks, whose hook before the test raises an interrupt, and whose hook after
it raises another fault. -/
def troubled : Bench Rat (Scripted.World Rat) (Fault Rat) :=
  let f : Framework Rat (Fault Rat) := .fresh
    { baseName := "web", options := .standard, suite := .standard, cluster := .stub,
      provider := some ⟨.plain .keyboardInterrupt [], .plain .lookup []⟩, customCreation := false,
      skipNamespace := false, skipServiceAccountWait := false, deletionTimeout := none } none
  { Bench.start (.start 0 [] []) with frameworks := [f, f] }

/-- Both setups fail; one framework is torn down, the other one by a drain. -/
theorem live_iff_isUp_troubled :
    let up := after raising troubled [.setUp 1 none, .tearDown 0 true, .setUp 0 none]
    let down := after raising troubled [.drain, .setUp 1 none, .tearDown 0 true, .setUp 0 none]
    up.registry.live.map Prod.fst = [2] ∧ (∃ n, up.handleOf 1 = some n) ∧ up.handleOf 0 = none ∧
      ∀ exitStatus, Ends (Session.drainAtEnd raising exitStatus) down fun res b'' =>
        res = .ok () ∧ b''.site = down.site ∧ b''.frameworks = down.frameworks := by
  intro up down
  have hbodies : ∀ owner body, (raising.perform owner body).Along Untouched :=
    fun _ e => along_fail e
  have hallowed : Allowed raising troubled [.setUp 1 none, .tearDown 0 true, .setUp 0 none] :=
    ⟨⟨⟨trivial, by decide, rfl⟩, trivial⟩, by decide +kernel, rfl⟩
  have hidle : ∀ f ∈ troubled.frameworks, f.handle = none := by
    simp [troubled, fresh]
  have hdrained : ∃ failures, ((Framework.drain raising).run up).1 = .ok failures := by
    have hok : ((Framework.drain raising).run up).1.isOk = true := by decide +kernel
    exact exists_of_isOk hok
  have hended : Allowed raising troubled
      [.drain, .setUp 1 none, .tearDown 0 true, .setUp 0 none] := ⟨hallowed, hdrained⟩
  obtain ⟨_, hknown, _, hforgot, _⟩ := live_iff_isUp hbodies rfl hidle hallowed
  obtain ⟨_, _, _, _, hend⟩ := live_iff_isUp hbodies rfl hidle hended
  exact ⟨by decide +kernel, hknown 1 rfl, hforgot 0 rfl, hend fun _ => rfl⟩

end Stage

end Framework

end Testbed
