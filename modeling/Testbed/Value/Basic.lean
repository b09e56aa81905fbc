import Testbed.Number.Numeral

/-!
# Structured values

Settings, replies and arguments come as structured values: nothing, truth values, integers, other
numbers, texts, lists, and tables with named entries. Integers and other numbers stay apart, since
settings that count something accept the one more readily than the other.
-/

set_option autoImplicit false

namespace Testbed

/-- A structured value. -/
inductive Value where
  | null
  | flag (b : Bool)
  | int (n : Int)
  | real (x : Numeral)
  | text (s : String)
  | list (items : List Value)
  | table (entries : List (String × Value))
  deriving Repr, Inhabited

/-- The value of a key, the latest entry winning. -/
def lookupLast {α : Type} (key : String) (entries : List (String × α)) : Option α :=
  (entries.reverse.find? fun e => e.1 == key).map Prod.snd

/-- The entries after `key` gets a value: an entry with that key keeps its place. -/
def putEntry {α : Type} (entries : List (String × α)) (key : String) (value : α) :
    List (String × α) :=
  if entries.any fun e => e.1 == key then
    entries.map fun e => if e.1 == key then (key, value) else e
  else entries ++ [(key, value)]

/-- Every entry of the second table put into the first. -/
def putEntries {α : Type} (entries added : List (String × α)) : List (String × α) :=
  added.foldl (fun t e => putEntry t e.1 e.2) entries

namespace Value

/-- The entry of a table, or `null`. -/
def entry (v : Value) (key : String) : Value :=
  match v with
  | .table entries => (lookupLast key entries).getD .null
  | _ => .null

/-- Whether a table has an entry of that name. -/
def hasEntry (v : Value) (key : String) : Bool :=
  match v with
  | .table entries => entries.any fun e => e.1 == key
  | _ => false

/-- A text. -/
def text? : Value → Option String
  | .text s => some s
  | _ => none

/-- An integer. -/
def int? : Value → Option Int
  | .int n => some n
  | _ => none

/-- A truth value. -/
def flag? : Value → Option Bool
  | .flag b => some b
  | _ => none

/-- The items of a list; none for any other value. -/
def items : Value → List Value
  | .list items => items
  | _ => []

/-- The entries of a table; none for any other value. -/
def entries : Value → List (String × Value)
  | .table entries => entries
  | _ => []

/-- A text or nothing. -/
def ofText? : Option String → Value
  | some s => .text s
  | none => .null

/-- A list of texts. -/
def ofTexts (ss : List String) : Value := .list (ss.map .text)

/-- A table of texts. -/
def ofTable (entries : List (String × String)) : Value :=
  .table (entries.map fun e => (e.1, .text e.2))

/-- Whether a value counts as true: not nothing, false, zero or empty. -/
def isTruthy : Value → Bool
  | .null => false
  | .flag b => b
  | .int n => n != 0
  | .real (.finite _ digits _) => digits != 0
  | .real _ => true
  | .text s => !s.isEmpty
  | .list items => !items.isEmpty
  | .table entries => !entries.isEmpty

end Value

@[simp] theorem putEntry_nil {α : Type} (key : String) (value : α) :
    putEntry [] key value = [(key, value)] := rfl

/-- The key that was put is found with its new value. -/
theorem lookupLast_putEntry {α : Type} (entries : List (String × α)) (key : String) (value : α) :
    lookupLast key (putEntry entries key value) = some value := by
  unfold lookupLast putEntry
  split
  · rename_i h
    obtain ⟨e, he, hk⟩ := List.any_eq_true.1 h
    have hmem : (key, value) ∈ (entries.map fun e => if e.1 == key then (key, value) else e).reverse :=
      List.mem_reverse.2 (List.mem_map.2 ⟨e, he, by simp [hk]⟩)
    cases hf : (entries.map fun e => if e.1 == key then (key, value) else e).reverse.find?
        (fun e => e.1 == key) with
    | none => exact absurd (List.find?_eq_none.1 hf _ hmem) (by simp)
    | some found =>
      have hkey := List.find?_some hf
      obtain ⟨e, -, rfl⟩ := List.mem_map.1 (List.mem_reverse.1 (List.mem_of_find?_eq_some hf))
      by_cases hek : e.1 == key <;> simp_all
  · simp

/-- An entry was there before, or is the one that was put. -/
theorem of_mem_putEntry {α : Type} {entries : List (String × α)} {key : String} {value : α}
    {e : String × α} (h : e ∈ putEntry entries key value) : e ∈ entries ∨ e = (key, value) := by
  unfold putEntry at h
  split at h
  · obtain ⟨e, he, rfl⟩ := List.mem_map.1 h
    split
    · exact .inr rfl
    · exact .inl he
  · simpa using h

/-- The key that was put is there with its new value. -/
theorem mem_putEntry {α : Type} (entries : List (String × α)) (key : String) (value : α) :
    (key, value) ∈ putEntry entries key value := by
  unfold putEntry
  split
  · rename_i h
    obtain ⟨e, he, hk⟩ := List.any_eq_true.1 h
    exact List.mem_map.2 ⟨e, he, by simp [hk]⟩
  · simp

end Testbed
