import Testbed.Proofs.Custody
import Testbed.Proofs.Steps

/-!
# The books of a bench

The books of a bench are its registry, the frameworks that are there with the handles under which
they know their registered teardowns, and the running test. All that happens between a registration
and its withdrawal keeps them: work at the site, the creation and the deletion of namespaces, and
changes of what else a framework holds. So a relation that looks at nothing but the books is checked
at registrations, withdrawals and drains only.
-/

set_option autoImplicit false

namespace Testbed

open Proc Bench Framework

variable {τ ω κ α : Type}

/-- Whether the duty is the teardown of the framework. -/
def Duty.tearsDown (k : Nat) : Duty κ → Bool
  | .teardown j => j == k
  | .act _ => false

namespace Bench

/-- The handle under which a framework knows its registered teardown. One that is missing knows
none. -/
def handleOf (b : Bench τ ω κ) (k : Nat) : Option Nat := b.frameworks[k]?.bind (·.handle)

/-- The books are the same, apart from new frameworks. -/
structure KeepsBooks (b b' : Bench τ ω κ) : Prop where
  registry : b'.registry = b.registry
  handleOf : ∀ k, b'.handleOf k = b.handleOf k
  count : b.frameworks.length ≤ b'.frameworks.length
  trial : b'.trial = b.trial

instance : IsPreorder (Bench τ ω κ) KeepsBooks where
  refl _ := ⟨rfl, fun _ => rfl, Nat.le_refl _, rfl⟩
  trans := by
    intro a b c h h'
    refine ⟨?_, ?_, Nat.le_trans h.count h'.count, ?_⟩
    · rw [h'.registry, h.registry]
    · intro k
      rw [h'.handleOf, h.handleOf]
    · rw [h'.trial, h.trial]

theorem handleOf_of_some {b : Bench τ ω κ} {k : Nat} {f : Framework τ κ}
    (h : b.frameworks[k]? = some f) : b.handleOf k = f.handle := by
  unfold handleOf
  rw [h]
  rfl

theorem handleOf_of_frameworks {b b' : Bench τ ω κ} (h : b'.frameworks = b.frameworks) (k : Nat) :
    b'.handleOf k = b.handleOf k := by
  unfold handleOf
  rw [h]

section

variable {k j : Nat} {g : Framework τ κ → Framework τ κ} {b b' : Bench τ ω κ}

theorem handleOf_modify_of_ne (hg : b'.frameworks = b.frameworks.modify k g) (hj : j ≠ k) :
    b'.handleOf j = b.handleOf j := by
  unfold handleOf
  rw [hg, List.getElem?_modify_ne _ _ hj.symm]

theorem handleOf_modify (hg : b'.frameworks = b.frameworks.modify k g) {f : Framework τ κ}
    (hf : b.frameworks[k]? = some f) : b'.handleOf k = (g f).handle := by
  unfold handleOf
  rw [hg, List.getElem?_modify_eq, hf]
  rfl

/-- A change of a framework that leaves its handle. -/
theorem handleOf_modify_eq (hg : b'.frameworks = b.frameworks.modify k g)
    (hhandle : ∀ f, (g f).handle = f.handle) (j : Nat) : b'.handleOf j = b.handleOf j := by
  by_cases hj : j = k
  · subst hj
    cases hf : b.frameworks[j]? with
    | none => simp [handleOf, hg, hf]
    | some f => rw [handleOf_modify hg hf, handleOf_of_some hf, hhandle]
  · exact handleOf_modify_of_ne hg hj

theorem Continues.keepsBooks_of_modify {new : List (Event τ)} (h : Continues new b b')
    (hg : b'.frameworks = b.frameworks.modify k g) (hhandle : ∀ f, (g f).handle = f.handle) :
    KeepsBooks b b' := by
  refine ⟨?_, handleOf_modify_eq hg hhandle, ?_, ?_⟩
  · rw [h.1]
  · exact Nat.le_of_eq (by rw [hg, List.length_modify])
  · rw [h.1]

theorem Continues.keepsBooks_of_eq {new : List (Event τ)} (h : Continues new b b')
    (hframeworks : b'.frameworks = b.frameworks) : KeepsBooks b b' := by
  refine ⟨?_, handleOf_of_frameworks hframeworks, ?_, ?_⟩
  · rw [h.1]
  · exact Nat.le_of_eq (by rw [hframeworks])
  · rw [h.1]

theorem Adds.keepsBooks {new : List (Event τ)} (h : Adds new b b') : KeepsBooks b b' :=
  h.continues.keepsBooks_of_eq h.frameworks

theorem AtSite.keepsBooks {calls : Call τ → Prop} (h : AtSite calls b b') : KeepsBooks b b' := by
  obtain ⟨new, hadds, _⟩ := h.adds
  exact hadds.keepsBooks

end

theorem update_keepsBooks {k : Nat} {g : Framework τ κ → Framework τ κ}
    (hhandle : ∀ f, (g f).handle = f.handle) :
    (update k g : BenchM τ ω κ Unit).Along KeepsBooks := by
  intro b
  apply (update_ends k g b).mono
  rintro _ b' ⟨_, h, hg⟩
  exact h.keepsBooks_of_modify hg hhandle

/-- A new framework is not registered. -/
theorem place_keepsBooks (settings : Settings τ κ) (client : Option String) :
    (place (Framework.fresh settings client) : BenchM τ ω κ Nat).Along KeepsBooks := by
  apply Along.bind along_get
  intro b
  refine Along.bind (along_modify fun b => ⟨rfl, fun k => ?_, ?_, rfl⟩) fun _ => along_pure _
  · unfold handleOf
    by_cases hk : k < b.frameworks.length
    · rw [List.getElem?_append_left hk]
    · have hk := Nat.not_lt.1 hk
      rw [List.getElem?_append_right hk, List.getElem?_eq_none hk]
      cases k - b.frameworks.length <;> rfl
  · simp

end Bench

namespace Framework

theorem takeCustody_keepsBooks (k : Nat) (records : List Namespace.Record) :
    (takeCustody k records : BenchM τ ω κ Unit).Along KeepsBooks := by
  intro b
  apply (record_adds (.custody k (.taken records)) b).mono
  rintro _ b' ⟨_, h⟩
  exact h.keepsBooks

theorem trackEach_keepsBooks (k : Nat) (records : List (Option Namespace.Record)) :
    (trackEach k records : BenchM τ ω κ Unit).Along KeepsBooks :=
  trackEach_along records (takeCustody_keepsBooks k _)
    (update_keepsBooks (handle_foldl_track records))

variable [Seconds τ] [Host τ ω]

theorem createNamespace_keepsBooks (k : Nat) (baseName : String) (labels : Labels) :
    (createNamespace k baseName labels
      : BenchM τ ω κ (Option Namespace.Record)).Along KeepsBooks :=
  createNamespace_along (fun _ _ => AtSite.keepsBooks) (takeCustody_keepsBooks k)
    (fun _ => update_keepsBooks fun _ => rfl) baseName labels

theorem clearAway_keepsBooks (k : Nat) (testFailed : Bool) (before : Except (Fault τ) Unit) :
    (clearAway k testFailed before : BenchM τ ω κ (Report τ)).Along KeepsBooks := by
  intro b
  apply (clearAway_found k testFailed before b).mono
  rintro r b' (⟨f, new, _, h⟩ | ⟨rfl, _⟩)
  · obtain ⟨ending, _, hframeworks⟩ := h.release
    cases ending with
    | error e => exact h.continues.keepsBooks_of_eq hframeworks.2
    | ok _ =>
      obtain hreset | ⟨hsame, _⟩ := hframeworks
      · exact h.continues.keepsBooks_of_modify hreset fun _ => rfl
      · exact h.continues.keepsBooks_of_eq hsame
  · exact refl_of KeepsBooks b'

section

variable {R : Bench τ ω κ → Bench τ ω κ → Prop} (hbooks : ∀ b b', KeepsBooks b b' → R b b')
  {r : Runner τ ω κ}

include hbooks

/-- A relation that looks at the books only, and along which bodies lead, obeys the rules of setups
and teardowns but for registration. -/
theorem partRules_of_books (hb : ∀ owner body, (r.perform owner body).Along R) (k : Nat) :
    PartRules r k R where
  site b b' h := hbooks b b' h.keepsBooks
  adjust _ hg := (update_keepsBooks hg.handle).mono hbooks
  body := hb (some k)

theorem setupRules_of_books (hb : ∀ owner body, (r.perform owner body).Along R) (k : Nat) :
    SetupRules r k R where
  toPartRules := partRules_of_books hbooks hb k
  create baseName labels := (createNamespace_keepsBooks k baseName labels).mono hbooks

theorem teardownRules_of_books (hb : ∀ owner body, (r.perform owner body).Along R) (k : Nat)
    (hwithdraw : (withdraw k : BenchM τ ω κ Unit).Along R) : TeardownRules r k R where
  toPartRules := partRules_of_books hbooks hb k
  withdraw := hwithdraw
  clear testFailed before := (clearAway_keepsBooks k testFailed before).mono hbooks

/-- A relation that looks at the books only obeys the rules of all operations if it obeys those that
change the books. -/
theorem operationRules_of_books (hnames : ∀ (b : Bench τ ω κ) names, R b { b with names })
    (htrial : ∀ (b : Bench τ ω κ) trial, R b { b with trial })
    (henroll : ∀ k, (enroll k : BenchM τ ω κ Unit).Along R)
    (hwithdraw : ∀ k, (withdraw k : BenchM τ ω κ Unit).Along R)
    (hregister : ∀ a, (register (.act a) : BenchM τ ω κ Nat).Along R)
    (hunregister : ∀ handle, (unregister handle : BenchM τ ω κ Unit).Along R) :
    OperationRules R where
  site b b' h := hbooks b b' h.keepsBooks
  names := hnames
  trial := htrial
  place settings client := (place_keepsBooks settings client).mono hbooks
  enroll := henroll
  withdraw := hwithdraw
  register := hregister
  unregister := hunregister
  adjust _ _ hg := (update_keepsBooks hg.handle).mono hbooks
  resettle k change := (update_keepsBooks (k := k)
    (g := fun f => { f with toSettings := change f.toSettings }) fun _ => rfl).mono hbooks
  defer k a := (update_keepsBooks (k := k) (g := (·.defer a)) fun _ => rfl).mono hbooks
  create k baseName labels := (createNamespace_keepsBooks k baseName labels).mono hbooks
  track k records := (trackEach_keepsBooks k records).mono hbooks
  clear k testFailed before := (clearAway_keepsBooks k testFailed before).mono hbooks

end

end Framework

end Testbed
