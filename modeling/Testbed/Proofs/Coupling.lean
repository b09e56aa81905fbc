import Testbed.Proofs.MadeOf

/-!
# Coupled runs

Two procedures are coupled when their runs end alike on states that are related, and leave such
states again: with the same fault, or with values that are related as well. The two may differ, as
the halves of one operation do on states where it goes by different numbers. A procedure that is
coupled with itself by equality cannot tell the related states apart.
-/

set_option autoImplicit false

namespace Testbed.Proc

variable {ε σ α α' β β' : Type}

/-- Both procedures end with values of which the relation holds, or both with the same fault. -/
inductive SameEnd (V : α → β → Prop) : Except ε α → Except ε β → Prop
  | ok {a : α} {b : β} (h : V a b) : SameEnd V (.ok a) (.ok b)
  | error (e : ε) : SameEnd V (.error e) (.error e)

theorem SameEnd.refl {V : α → α → Prop} (h : ∀ a, V a a) (r : Except ε α) : SameEnd V r r := by
  cases r with
  | ok a => exact .ok (h a)
  | error e => exact .error e

theorem SameEnd.eq {r r' : Except ε α} (h : SameEnd Eq r r') : r' = r := by
  cases h with
  | ok h => rw [h]
  | error e => rfl

/-- From states of which the first relation holds, the procedures end with the same fault, or with
values of which the second one holds, and leave such states again. -/
def Couples (S : σ → σ → Prop) (V : α → β → Prop) (x : Proc ε σ α) (y : Proc ε σ β) : Prop :=
  ∀ s t, S s t → SameEnd V (x.run s).1 (y.run t).1 ∧ S (x.run s).2 (y.run t).2

section Couples

variable {S : σ → σ → Prop} {V : α → β → Prop}

theorem couples_pure {a : α} {b : β} (h : V a b) :
    Couples S V (pure a : Proc ε σ α) (pure b : Proc ε σ β) :=
  fun _ _ hst => ⟨.ok h, hst⟩

theorem couples_fail (e : ε) : Couples S V (fail e : Proc ε σ α) (fail e : Proc ε σ β) :=
  fun _ _ hst => ⟨.error e, hst⟩

theorem Couples.bind {W : α' → β' → Prop} {x : Proc ε σ α} {y : Proc ε σ β}
    {f : α → Proc ε σ α'} {g : β → Proc ε σ β'} (hx : Couples S V x y)
    (hf : ∀ a b, V a b → Couples S W (f a) (g b)) : Couples S W (x >>= f) (y >>= g) := by
  intro s t hst
  have h := hx s t hst
  rw [run_bind, run_bind]
  revert h
  rcases x.run s with ⟨ending, s'⟩
  rcases y.run t with ⟨ending', t'⟩
  rintro ⟨hends, hst⟩
  cases hends with
  | ok h => exact hf _ _ h s' t' hst
  | error e => exact ⟨.error e, hst⟩

theorem Couples.rescue {x : Proc ε σ α} {y : Proc ε σ β} {handler : ε → Proc ε σ α}
    {handler' : ε → Proc ε σ β} (hx : Couples S V x y)
    (hh : ∀ e, Couples S V (handler e) (handler' e)) :
    Couples S V (x.rescue handler) (y.rescue handler') := by
  intro s t hst
  have h := hx s t hst
  rw [run_rescue, run_rescue]
  revert h
  rcases x.run s with ⟨ending, s'⟩
  rcases y.run t with ⟨ending', t'⟩
  rintro ⟨hends, hst⟩
  cases hends with
  | ok h => exact ⟨.ok h, hst⟩
  | error e => exact hh e s' t' hst

theorem Couples.map {W : α' → β' → Prop} {x : Proc ε σ α} {y : Proc ε σ β} {f : α → α'} {g : β → β'}
    (hx : Couples S V x y) (hf : ∀ a b, V a b → W (f a) (g b)) :
    Couples S W (f <$> x) (g <$> y) := by
  rw [map_eq_pure_bind, map_eq_pure_bind]
  apply hx.bind
  intro a b h
  exact couples_pure (hf a b h)

/-- A procedure that is coupled with itself, followed by another one. -/
theorem Couples.bind_self {W : α' → β' → Prop} {x : Proc ε σ α} {f : α → Proc ε σ α'}
    {g : α → Proc ε σ β'} (hx : Couples S Eq x x) (hf : ∀ a, Couples S W (f a) (g a)) :
    Couples S W (x >>= f) (x >>= g) := by
  apply hx.bind
  rintro a _ rfl
  exact hf a

theorem Couples.attempt_self {x : Proc ε σ α} (hx : Couples S Eq x x) :
    Couples S Eq x.attempt x.attempt := by
  intro s t hst
  obtain ⟨hends, hst⟩ := hx s t hst
  exact ⟨.ok hends.eq.symm, hst⟩

theorem Parallel.couples {kind : ε → Prop} {x : Proc ε σ α} (hx : Parallel S kind x) :
    Couples S Eq x x := by
  intro s t hst
  obtain ⟨hsame, _, hst⟩ := hx s t hst
  rw [hsame]
  exact ⟨.refl (fun _ => rfl) _, hst⟩

end Couples

end Testbed.Proc
