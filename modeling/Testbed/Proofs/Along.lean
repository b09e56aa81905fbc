import Mathlib.Order.Defs.Unbundled
import Testbed.Proc

/-!
# How runs of procedures come out

`Ends` is a statement about one run: its end, and the state it leaves. `Along` is a statement about
all runs of a procedure: however one ends, it leads from its first state to its last along a
relation. For a preorder this is closed under every way to put procedures together, so a relation
is checked at the smallest procedures only.
-/

set_option autoImplicit false

namespace Testbed.Proc

variable {ε σ ρ α β : Type}

/-- The run of the procedure on the state comes out as `Q` says. -/
def Ends (x : Proc ε σ α) (s : σ) (Q : Except ε α → σ → Prop) : Prop :=
  Q (x.run s).1 (x.run s).2

section Ends

variable {s : σ}

theorem Ends.mono {x : Proc ε σ α} {P Q : Except ε α → σ → Prop} (h : Ends x s P)
    (hpq : ∀ r t, P r t → Q r t) : Ends x s Q :=
  hpq _ _ h

/-- What a run leads to is how its procedure ends. -/
theorem ends_of_run {x : Proc ε σ α} {r : Except ε α} {t : σ} (h : x.run s = (r, t)) :
    Ends x s fun r' t' => r' = r ∧ t' = t := by
  unfold Ends
  rw [h]
  exact ⟨rfl, rfl⟩

/-- A run comes out as itself. -/
theorem ends_run (x : Proc ε σ α) (s : σ) : Ends x s fun r t => x.run s = (r, t) := rfl

/-- A run comes out as is known of its end. -/
theorem Ends.of_run {x : Proc ε σ α} {Q : Except ε α → σ → Prop} (h : Ends x s Q) {r : Except ε α}
    {t : σ} (hrun : x.run s = (r, t)) : Q r t := by
  unfold Ends at h
  rwa [hrun] at h

/-- An end that is tested to be a value is one. -/
theorem exists_of_isOk {r : Except ε α} (h : r.isOk = true) : ∃ a, r = .ok a := by
  cases r with
  | ok a => exact ⟨a, rfl⟩
  | error e => cases h

/-- A sequence comes out as its second part does, or as its first part when that is a fault. -/
theorem Ends.bind {x : Proc ε σ α} {f : α → Proc ε σ β} {P : Except ε α → σ → Prop}
    {Q : Except ε β → σ → Prop} (hx : Ends x s P) (hf : ∀ a t, P (.ok a) t → Ends (f a) t Q)
    (he : ∀ e t, P (.error e) t → Q (.error e) t) : Ends (x >>= f) s Q := by
  unfold Ends at hx ⊢
  rw [run_bind]
  revert hx
  rcases x.run s with ⟨e | a, t⟩
  · exact he e t
  · exact hf a t

/-- A sequence whose first part ends with a known value. -/
theorem Ends.bind_ok {x : Proc ε σ α} {f : α → Proc ε σ β} {a : α} {P : σ → Prop}
    {Q : Except ε β → σ → Prop} (hx : Ends x s fun r t => r = .ok a ∧ P t)
    (hf : ∀ t, P t → Ends (f a) t Q) : Ends (x >>= f) s Q := by
  apply Ends.bind hx
  · rintro _ t ⟨h, hp⟩
    cases h
    exact hf t hp
  · rintro e t ⟨h, _⟩
    cases h

/-- A sequence whose second part is given how the first one ended. -/
theorem Ends.bind_attempt {x : Proc ε σ α} {f : Except ε α → Proc ε σ β}
    {P : Except ε α → σ → Prop} {Q : Except ε β → σ → Prop} (hx : Ends x s P)
    (hf : ∀ r t, P r t → Ends (f r) t Q) : Ends (x.attempt >>= f) s Q := by
  unfold Ends
  rw [run_bind, run_attempt]
  exact hf _ _ hx

theorem Ends.map {x : Proc ε σ α} (g : α → β) {Q : Except ε β → σ → Prop}
    (hx : Ends x s fun r t => Q (r.map g) t) : Ends (g <$> x) s Q := by
  rw [map_eq_pure_bind]
  exact hx.bind (fun _ _ h => h) fun _ _ h => h

theorem Ends.rescue {x : Proc ε σ α} {handler : ε → Proc ε σ α} {P Q : Except ε α → σ → Prop}
    (hx : Ends x s P) (ha : ∀ a t, P (.ok a) t → Q (.ok a) t)
    (he : ∀ e t, P (.error e) t → Ends (handler e) t Q) : Ends (x.rescue handler) s Q := by
  unfold Ends at hx ⊢
  rw [run_rescue]
  revert hx
  rcases x.run s with ⟨e | a, t⟩
  · exact he e t
  · exact ha a t

theorem Ends.focus {part : σ → ρ} {put : ρ → σ → σ} {x : Proc ε ρ α}
    {Q : Except ε α → σ → Prop} (hx : Ends x (part s) fun r p => Q r (put p s)) :
    Ends (Proc.focus part put x) s Q := hx

/-- A choice between procedures comes out as the chosen one does. -/
theorem Ends.ite {c : Prop} [Decidable c] {x y : Proc ε σ α} {Q : Except ε α → σ → Prop}
    (hx : c → Ends x s Q) (hy : ¬c → Ends y s Q) : Ends (if c then x else y) s Q := by
  split
  · exact hx ‹_›
  · exact hy ‹_›

/-- Two statements about one run. -/
theorem Ends.and {x : Proc ε σ α} {P Q : Except ε α → σ → Prop} (hp : Ends x s P)
    (hq : Ends x s Q) : Ends x s fun r t => P r t ∧ Q r t := ⟨hp, hq⟩

end Ends

/-- Every run of the procedure leads along the relation. -/
def Along (R : σ → σ → Prop) (x : Proc ε σ α) : Prop := ∀ s, Ends x s fun _ t => R s t

section Along

variable {R : σ → σ → Prop}

theorem Along.mono {x : Proc ε σ α} {S : σ → σ → Prop} (h : Along R x)
    (hrs : ∀ s t, R s t → S s t) : Along S x := fun s => hrs _ _ (h s)

theorem along_modify {f : σ → σ} (h : ∀ s, R s (f s)) : Along R (modify f : Proc ε σ Unit) := h

theorem Along.of_run {x : Proc ε σ α} (h : Along R x) {s t : σ} {r : Except ε α}
    (hrun : x.run s = (r, t)) : R s t := (h s).of_run hrun

theorem Along.attempt {x : Proc ε σ α} (h : Along R x) : Along R x.attempt := h

/-- A procedure on a part of the state, whose relation on the part gives one on the whole. -/
theorem Along.focus {S : ρ → ρ → Prop} {part : σ → ρ} {put : ρ → σ → σ} {x : Proc ε ρ α}
    (h : Along S x) (hs : ∀ s p, S (part s) p → R s (put p s)) :
    Along R (Proc.focus part put x) := fun s => hs s _ (h (part s))

variable [IsPreorder σ R]

theorem along_pure (a : α) : Along R (pure a : Proc ε σ α) := fun s => refl_of R s

theorem along_fail (e : ε) : Along R (fail e : Proc ε σ α) := fun s => refl_of R s

theorem along_get : Along R (get : Proc ε σ σ) := fun s => refl_of R s

theorem along_conclude (r : Except ε α) : Along R (conclude r : Proc ε σ α) := fun s => refl_of R s

theorem Along.bind {x : Proc ε σ α} {f : α → Proc ε σ β} (hx : Along R x)
    (hf : ∀ a, Along R (f a)) : Along R (x >>= f) := fun s =>
  (hx s).bind (fun a t h => (hf a t).mono fun _ _ => trans_of R h) fun _ _ h => h

theorem Along.map {x : Proc ε σ α} (g : α → β) (hx : Along R x) : Along R (g <$> x) := by
  rw [map_eq_pure_bind]
  exact hx.bind fun a => along_pure (g a)

theorem Along.rescue {x : Proc ε σ α} {handler : ε → Proc ε σ α} (hx : Along R x)
    (hh : ∀ e, Along R (handler e)) : Along R (x.rescue handler) := fun s =>
  (hx s).rescue (fun _ _ h => h) fun e t h => (hh e t).mono fun _ _ => trans_of R h

omit [IsPreorder σ R] in
/-- A choice between procedures. -/
theorem along_ite {c : Prop} [Decidable c] {x y : Proc ε σ α} (hx : c → Along R x)
    (hy : ¬c → Along R y) : Along R (if c then x else y) := by
  split
  · exact hx ‹_›
  · exact hy ‹_›

end Along

end Testbed.Proc
