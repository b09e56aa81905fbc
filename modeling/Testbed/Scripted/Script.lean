import Testbed.Document.Fault

/-!
# Scripts

A script says how calls are answered: under the name of a call it holds turns, which are taken one
after the other. A turn can stand for several calls, or for all that are left.
-/

set_option autoImplicit false

namespace Testbed.Scripted

/-- How a call is answered: with a fault, with a value, or the way calls of its name always are. -/
inductive Effect (τ : Type) where
  | raise (e : Fault τ)
  | give (v : Value)
  | standard

/-- A turn: for how many calls it stands, if not for all, how long each takes, and how it is
answered. -/
structure Turn (τ : Type) where
  remaining : Option Nat
  took : τ
  effect : Effect τ

/-- The turns that are left, by the names of their calls. -/
abbrev Script (τ : Type) : Type := List (String × List (Turn τ))

variable {τ : Type}

/-- What is left of a turn after one call. -/
def Turn.spent (t : Turn τ) : Option (Turn τ) :=
  match t.remaining with
  | none => some t
  | some n => if n ≤ 1 then none else some { t with remaining := some (n - 1) }

/-- The turn of the next call, if there is one, and the turns after it. -/
def takeTurn : List (Turn τ) → Option (Turn τ) × List (Turn τ)
  | [] => (none, [])
  | t :: rest => if t.remaining = some 0 then takeTurn rest else (some t, t.spent.toList ++ rest)

/-- The turn of the next call of a name, and the script after it. -/
def Script.take (s : Script τ) (name : String) : Option (Turn τ) × Script τ :=
  match s.find? fun e => e.1 == name with
  | none => (none, s)
  | some (_, turns) =>
    match takeTurn turns with
    | (turn, rest) => (turn, putEntry s name rest)

/-- A turn for all calls is never used up. -/
theorem takeTurn_forever {t : Turn τ} {rest : List (Turn τ)} (h : t.remaining = none) :
    takeTurn (t :: rest) = (some t, t :: rest) := by
  simp [takeTurn, Turn.spent, h]

/-- What every turn of the script is like, by the time that it takes and by its effect. -/
def Script.Each (P : τ → Effect τ → Prop) (s : Script τ) : Prop :=
  ∀ e ∈ s, ∀ t ∈ e.2, P t.took t.effect

theorem takeTurn_each {P : τ → Effect τ → Prop} {turns : List (Turn τ)}
    (h : ∀ t ∈ turns, P t.took t.effect) :
    (∀ t, (takeTurn turns).1 = some t → P t.took t.effect) ∧
      ∀ t ∈ (takeTurn turns).2, P t.took t.effect := by
  induction turns with
  | nil => exact ⟨by rintro _ ⟨⟩, by rintro _ ⟨⟩⟩
  | cons t rest ih =>
    have hrest : ∀ t ∈ rest, P t.took t.effect := fun t ht => h t (List.mem_cons_of_mem _ ht)
    have hfirst : P t.took t.effect := h t (List.mem_cons_self ..)
    unfold takeTurn
    split
    · exact ih hrest
    · refine ⟨by rintro _ ⟨⟩; exact hfirst, ?_⟩
      intro u hu
      obtain hspent | hu := List.mem_append.1 hu
      · have hsame : u.took = t.took ∧ u.effect = t.effect := by
          unfold Turn.spent at hspent
          split at hspent
          · simp_all
          · split at hspent <;> simp_all
        rw [hsame.1, hsame.2]
        exact hfirst
      · exact hrest u hu

/-- The turn that is taken is like all others, and so are those that are left. -/
theorem Script.take_each {P : τ → Effect τ → Prop} {s : Script τ} (h : s.Each P) (name : String) :
    (∀ t, (s.take name).1 = some t → P t.took t.effect) ∧ (s.take name).2.Each P := by
  unfold Script.take
  cases hfind : s.find? fun e => e.1 == name with
  | none => exact ⟨by rintro _ ⟨⟩, h⟩
  | some found =>
    obtain ⟨hturn, hrest⟩ := takeTurn_each (h found (List.mem_of_find?_eq_some hfind))
    refine ⟨hturn, ?_⟩
    intro e he t ht
    obtain he | rfl := of_mem_putEntry he
    · exact h e he t ht
    · exact hrest t ht

variable [Seconds τ]

/-- Reads how a call is answered. -/
def effect? (v : Value) : Option (Effect τ) :=
  if v.hasEntry "raise" then (Document.fault? (v.entry "raise")).map .raise
  else if v.hasEntry "return" then some (.give (v.entry "return"))
  else some .standard

/-- Reads a turn. -/
def turn? (v : Value) : Option (Turn τ) := do
  let times ← Document.orElse? 1 Document.count? (v.entry "times")
  let forever ← Document.flag? (v.entry "forever")
  let took ← Document.orElse? 0.0 Document.seconds? (v.entry "took")
  let effect ← effect? v
  some ⟨if forever then none else some times, took, effect⟩

/-- Reads a script. -/
def script? (v : Value) : Option (Script τ) := Document.table? (Document.each? turn?) v

end Testbed.Scripted
