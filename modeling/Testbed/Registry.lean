/-!
# The registry of cleanup duties

Whoever sets something up registers the duty to tear it down and gets a handle. Handles count up
and are never used again. The duties that are left when a run ends are taken out all at once,
the latest first. A journal keeps what happens to duties, in order; nothing else reads it.
-/

set_option autoImplicit false

namespace Testbed

/-- What happens to the duties of a registry. -/
inductive Registry.Entry (α ε : Type) where
  | added (handle : Nat) (duty : α)
  | removed (handle : Nat)
  /-- All duties were taken out, to be done in this order. -/
  | taken (duties : List (Nat × α))
  /-- A duty that was taken out is being done from here on. -/
  | begun (handle : Nat) (duty : α)
  | ended (handle : Nat) (ending : ε)
  deriving DecidableEq, Repr

/-- Registered duties under their handles, in the order of registration. The type `ε` is how duties
end. -/
structure Registry (α ε : Type) where
  /-- The latest handle that was given out. -/
  issued : Nat
  live : List (Nat × α)
  journal : List (Registry.Entry α ε)
  deriving DecidableEq, Repr

namespace Registry

variable {α ε : Type}

/-- A registry that was never used. -/
def empty : Registry α ε := ⟨0, [], []⟩

/-- The number of duties. -/
def size (r : Registry α ε) : Nat := r.live.length

/-- The registry with one more entry in its journal. -/
def note (r : Registry α ε) (e : Entry α ε) : Registry α ε := { r with journal := r.journal ++ [e] }

/-- The handle of the next duty, and the registry with it. -/
def add (r : Registry α ε) (a : α) : Nat × Registry α ε :=
  (r.issued + 1,
    ⟨r.issued + 1, r.live ++ [(r.issued + 1, a)], r.journal ++ [.added (r.issued + 1) a]⟩)

/-- Whether a handle stands for a duty. -/
def contains (r : Registry α ε) (h : Nat) : Bool := r.live.any fun e => e.1 == h

/-- The registry without the duty of a handle. -/
def remove (r : Registry α ε) (h : Nat) : Registry α ε :=
  { r with live := r.live.filter fun e => e.1 != h, journal := r.journal ++ [.removed h] }

/-- All duties, the latest first, and the registry without them. -/
def takeAll (r : Registry α ε) : List (Nat × α) × Registry α ε :=
  (r.live.reverse,
    { r with live := [], journal := r.journal ++ [.taken r.live.reverse] })

/-- Handles ascend, and none is above the latest one given out. -/
def WellFormed (r : Registry α ε) : Prop :=
  (r.live.map Prod.fst).Pairwise (· < ·) ∧ ∀ e ∈ r.live, e.1 ≤ r.issued

theorem wellFormed_empty : (empty : Registry α ε).WellFormed := by simp [WellFormed, empty]

theorem WellFormed.add {r : Registry α ε} (h : r.WellFormed) (a : α) :
    (r.add a).2.WellFormed := by
  refine ⟨?_, ?_⟩
  · simp only [Registry.add, List.map_append, List.map_cons, List.map_nil]
    refine List.pairwise_append.2 ⟨h.1, by simp, ?_⟩
    intro x hx y hy
    obtain ⟨e, he, rfl⟩ := List.mem_map.1 hx
    have := h.2 e he
    simp only [List.mem_singleton] at hy
    omega
  · intro e he
    simp only [Registry.add, List.mem_append, List.mem_singleton] at he ⊢
    rcases he with he | rfl
    · have := h.2 e he
      omega
    · exact Nat.le_refl _

theorem WellFormed.remove {r : Registry α ε} (h : r.WellFormed) (n : Nat) :
    (r.remove n).WellFormed := by
  refine ⟨?_, fun e he => h.2 e (List.mem_filter.1 he).1⟩
  exact h.1.sublist ((List.filter_sublist (l := r.live)).map Prod.fst)

theorem wellFormed_takeAll (r : Registry α ε) : r.takeAll.2.WellFormed := by
  simp [WellFormed, takeAll]

/-- The duties that are taken come in descending order of their handles. -/
theorem WellFormed.descending {r : Registry α ε} (h : r.WellFormed) :
    (r.takeAll.1.map Prod.fst).Pairwise (· > ·) := by
  simp only [Registry.takeAll, List.map_reverse]
  exact List.pairwise_reverse.2 h.1

/-- A handle that was given out is not given out again. -/
theorem WellFormed.add_fresh {r : Registry α ε} (h : r.WellFormed) (a : α) :
    r.contains (r.add a).1 = false := by
  simp only [contains, Registry.add, List.any_eq_false, beq_iff_eq]
  intro e he
  have := h.2 e he
  omega

end Registry

end Testbed
