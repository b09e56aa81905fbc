/-!
# Procedures

A procedure runs on a state and ends with a value or a fault. The state it leaves is kept either
way, so what was done before a fault stays done. `attempt` turns the end of a procedure into a
value, from which every way of handling faults is built.
-/

set_option autoImplicit false

namespace Testbed

/-- A procedure over states `σ` that ends with a value of `α` or a fault of `ε`. -/
def Proc (ε σ α : Type) : Type := σ → Except ε α × σ

namespace Proc

variable {ε σ ρ α β : Type}

/-- Runs a procedure on a state. -/
def run (x : Proc ε σ α) (s : σ) : Except ε α × σ := x s

/-- Ends with a fault. -/
def fail (e : ε) : Proc ε σ α := fun s => (.error e, s)

/-- Runs the second procedure on what the first one left, unless that ended with a fault. -/
def andThen (x : Proc ε σ α) (f : α → Proc ε σ β) : Proc ε σ β := fun s =>
  match x s with
  | (.ok a, t) => f a t
  | (.error e, t) => (.error e, t)

instance : Monad (Proc ε σ) where
  pure a := fun s => (.ok a, s)
  bind := andThen

/-- The state. -/
def get : Proc ε σ σ := fun s => (.ok s, s)

/-- Changes the state. -/
def modify (f : σ → σ) : Proc ε σ Unit := fun s => (.ok (), f s)

/-- How a procedure ended, as a value. -/
def attempt (x : Proc ε σ α) : Proc ε σ (Except ε α) := fun s =>
  match x s with
  | (r, t) => (.ok r, t)

/-- Ends the way an earlier attempt ended. -/
def conclude (r : Except ε α) : Proc ε σ α := fun s => (r, s)

/-- Hands the fault of a procedure, if it ends with one, to the handler. -/
def rescue (x : Proc ε σ α) (handler : ε → Proc ε σ α) : Proc ε σ α := fun s =>
  match x s with
  | (.ok a, t) => (.ok a, t)
  | (.error e, t) => handler e t

/-- Runs a procedure on a part of the state. -/
def focus (part : σ → ρ) (put : ρ → σ → σ) (x : Proc ε ρ α) : Proc ε σ α := fun s =>
  match x (part s) with
  | (r, p) => (r, put p s)

@[simp] theorem run_pure (a : α) (s : σ) : (pure a : Proc ε σ α).run s = (.ok a, s) := rfl

@[simp] theorem run_fail (e : ε) (s : σ) : (fail e : Proc ε σ α).run s = (.error e, s) := rfl

@[simp] theorem run_get (s : σ) : (get : Proc ε σ σ).run s = (.ok s, s) := rfl

@[simp] theorem run_modify (f : σ → σ) (s : σ) :
    (modify f : Proc ε σ Unit).run s = (.ok (), f s) := rfl

@[simp] theorem run_conclude (r : Except ε α) (s : σ) :
    (conclude r : Proc ε σ α).run s = (r, s) := rfl

theorem run_bind (x : Proc ε σ α) (f : α → Proc ε σ β) (s : σ) :
    (x >>= f).run s =
      match x.run s with
      | (.ok a, t) => (f a).run t
      | (.error e, t) => (.error e, t) := rfl

@[simp] theorem run_attempt (x : Proc ε σ α) (s : σ) :
    x.attempt.run s = (.ok (x.run s).1, (x.run s).2) := rfl

theorem run_rescue (x : Proc ε σ α) (handler : ε → Proc ε σ α) (s : σ) :
    (x.rescue handler).run s =
      match x.run s with
      | (.ok a, t) => (.ok a, t)
      | (.error e, t) => (handler e).run t := rfl

@[simp] theorem run_focus (part : σ → ρ) (put : ρ → σ → σ) (x : Proc ε ρ α) (s : σ) :
    (focus part put x).run s = ((x.run (part s)).1, put (x.run (part s)).2 s) := rfl

theorem run_bind_ok {x : Proc ε σ α} {f : α → Proc ε σ β} {s t : σ} {a : α}
    (h : x.run s = (.ok a, t)) : (x >>= f).run s = (f a).run t := by
  rw [run_bind, h]

theorem run_bind_error {x : Proc ε σ α} {f : α → Proc ε σ β} {s t : σ} {e : ε}
    (h : x.run s = (.error e, t)) : (x >>= f).run s = (.error e, t) := by
  rw [run_bind, h]

theorem bind_pure (x : Proc ε σ α) : (x >>= pure) = x := by
  funext s
  show andThen x (fun a => fun s => (.ok a, s)) s = x s
  unfold andThen
  rcases x s with ⟨_ | _, _⟩ <;> rfl

theorem bind_assoc {γ : Type} (x : Proc ε σ α) (f : α → Proc ε σ β) (g : β → Proc ε σ γ) :
    (x >>= f >>= g) = (x >>= fun a => f a >>= g) := by
  funext s
  show andThen (andThen x f) g s = andThen x (fun a => andThen (f a) g) s
  unfold andThen
  rcases x s with ⟨_ | _, _⟩ <;> rfl

instance : LawfulMonad (Proc ε σ) :=
  LawfulMonad.mk' _ bind_pure (fun _ _ => rfl) bind_assoc

end Proc

end Testbed
