import Testbed.Proofs.Along

/-!
# What procedures are made of

`MadeOf` says from which steps a procedure is put together. It is shown once for each procedure,
and what is kept by putting procedures together then holds of the procedure as soon as it holds of
the steps. One such fact is that runs lead along a preorder. Another one is about two runs:
`Parallel` says that a procedure cannot tell apart the states that a relation relates, and leaves
such states again. The faults that can come up on the way are followed by their kind.
-/

set_option autoImplicit false

namespace Testbed.Proc

variable {ε σ α β : Type}

/-- The procedure is put together of such steps. Where it raises a fault of its own, or passes one
on, the fault is of the given kind if those of its steps are. -/
inductive MadeOf (Step : (α : Type) → Proc ε σ α → Prop) (kind : ε → Prop) :
    {α : Type} → Proc ε σ α → Prop
  | step {α : Type} {x : Proc ε σ α} (h : Step α x) : MadeOf Step kind x
  | pure {α : Type} (a : α) : MadeOf Step kind (Pure.pure a : Proc ε σ α)
  | fail {α : Type} {e : ε} (h : kind e) : MadeOf Step kind (Proc.fail e : Proc ε σ α)
  | bind {α β : Type} {x : Proc ε σ α} {f : α → Proc ε σ β} (hx : MadeOf Step kind x)
      (hf : ∀ a, MadeOf Step kind (f a)) : MadeOf Step kind (x >>= f)
  | handle {α β : Type} {x : Proc ε σ α} {f : Except ε α → Proc ε σ β} (hx : MadeOf Step kind x)
      (hf : ∀ r, (∀ e, r = .error e → kind e) → MadeOf Step kind (f r)) :
      MadeOf Step kind (x.attempt >>= f)
  | rescue {α : Type} {x : Proc ε σ α} {handler : ε → Proc ε σ α} (hx : MadeOf Step kind x)
      (hh : ∀ e, kind e → MadeOf Step kind (handler e)) : MadeOf Step kind (x.rescue handler)

section MadeOf

variable {Step Step' : (α : Type) → Proc ε σ α → Prop} {kind : ε → Prop}

theorem MadeOf.map {x : Proc ε σ α} (g : α → β) (hx : MadeOf Step kind x) :
    MadeOf Step kind (g <$> x) := by
  rw [map_eq_pure_bind]
  exact hx.bind fun a => .pure (g a)

/-- Ending the way an earlier attempt ended. -/
theorem madeOf_conclude {r : Except ε α} (h : ∀ e, r = .error e → kind e) :
    MadeOf Step kind (conclude r : Proc ε σ α) := by
  cases r with
  | ok a => exact .pure a
  | error e => exact .fail (h e rfl)

/-- A choice between procedures. -/
theorem madeOf_ite {c : Prop} [Decidable c] {x y : Proc ε σ α} (hx : c → MadeOf Step kind x)
    (hy : ¬c → MadeOf Step kind y) : MadeOf Step kind (if c then x else y) := by
  split
  · exact hx ‹_›
  · exact hy ‹_›

/-- Steps of one sort may themselves be made of steps of another one. -/
theorem MadeOf.refine {x : Proc ε σ α} (hx : MadeOf Step kind x)
    (hs : ∀ {α : Type} {y : Proc ε σ α}, Step α y → MadeOf Step' kind y) : MadeOf Step' kind x := by
  induction hx with
  | step h => exact hs h
  | pure a => exact .pure a
  | fail h => exact .fail h
  | bind _ _ hx hf => exact hx.bind hf
  | handle _ _ hx hf => exact hx.handle hf
  | rescue _ _ hx hh => exact hx.rescue hh

/-- A procedure leads along a preorder along which its steps lead. -/
theorem MadeOf.along {R : σ → σ → Prop} [IsPreorder σ R] {x : Proc ε σ α}
    (hx : MadeOf Step (fun _ => True) x)
    (hs : ∀ {α : Type} {y : Proc ε σ α}, Step α y → y.Along R) : x.Along R := by
  induction hx with
  | step h => exact hs h
  | pure a => exact along_pure a
  | fail _ => exact along_fail _
  | bind _ _ hx hf => exact hx.bind hf
  | handle _ _ hx hf => exact hx.attempt.bind fun r => hf r fun _ _ => trivial
  | rescue _ _ hx hh => exact hx.rescue fun e => hh e trivial

end MadeOf

/-- From states of which the relation holds, two runs of the procedure end the same way, with a
fault of the given kind if any, and leave such states again. -/
def Parallel (S : σ → σ → Prop) (kind : ε → Prop) (x : Proc ε σ α) : Prop :=
  ∀ s t, S s t → (x.run t).1 = (x.run s).1 ∧ (∀ e, (x.run s).1 = .error e → kind e) ∧
    S (x.run s).2 (x.run t).2

section Parallel

variable {S : σ → σ → Prop} {kind : ε → Prop}

theorem parallel_pure (a : α) : Parallel S kind (pure a : Proc ε σ α) :=
  fun _ _ h => ⟨rfl, (by rintro _ ⟨⟩), h⟩

theorem parallel_fail {e : ε} (he : kind e) : Parallel S kind (fail e : Proc ε σ α) :=
  fun _ _ h => ⟨rfl, (by rintro _ ⟨⟩; exact he), h⟩

theorem Parallel.bind {x : Proc ε σ α} {f : α → Proc ε σ β} (hx : Parallel S kind x)
    (hf : ∀ a, Parallel S kind (f a)) : Parallel S kind (x >>= f) := by
  intro s t h
  have h := hx s t h
  rw [run_bind, run_bind]
  revert h
  rcases x.run s with ⟨ending, s'⟩
  rcases x.run t with ⟨ending', t'⟩
  rintro ⟨rfl, hkind, h⟩
  cases ending' with
  | ok a => exact hf a s' t' h
  | error e => exact ⟨rfl, (by rintro _ ⟨⟩; exact hkind e rfl), h⟩

theorem Parallel.handle {x : Proc ε σ α} {f : Except ε α → Proc ε σ β} (hx : Parallel S kind x)
    (hf : ∀ r, (∀ e, r = .error e → kind e) → Parallel S kind (f r)) :
    Parallel S kind (x.attempt >>= f) := by
  intro s t h
  obtain ⟨hsame, hkind, h⟩ := hx s t h
  rw [run_bind, run_bind, run_attempt, run_attempt]
  dsimp only
  rw [hsame]
  exact hf _ hkind _ _ h

theorem Parallel.rescue {x : Proc ε σ α} {handler : ε → Proc ε σ α} (hx : Parallel S kind x)
    (hh : ∀ e, kind e → Parallel S kind (handler e)) : Parallel S kind (x.rescue handler) := by
  intro s t h
  have h := hx s t h
  rw [run_rescue, run_rescue]
  revert h
  rcases x.run s with ⟨ending, s'⟩
  rcases x.run t with ⟨ending', t'⟩
  rintro ⟨rfl, hkind, h⟩
  cases ending' with
  | ok a => exact ⟨rfl, (by rintro _ ⟨⟩), h⟩
  | error e => exact hh e (hkind e rfl) s' t' h

/-- A procedure runs in parallel where its steps do. -/
theorem MadeOf.parallel {Step : (α : Type) → Proc ε σ α → Prop} {x : Proc ε σ α}
    (hx : MadeOf Step kind x)
    (hs : ∀ {α : Type} {y : Proc ε σ α}, Step α y → Parallel S kind y) : Parallel S kind x := by
  induction hx with
  | step h => exact hs h
  | pure a => exact parallel_pure a
  | fail h => exact parallel_fail h
  | bind _ _ hx hf => exact hx.bind hf
  | handle _ _ hx hf => exact hx.handle hf
  | rescue _ _ hx hh => exact hx.rescue hh

end Parallel

end Testbed.Proc
