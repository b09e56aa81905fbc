import Testbed.Namespace.Record
import Testbed.Seconds
import Testbed.Timestamp

/-!
# Parts of documents

Scripts, steps and tests come as documents: structured values of a fixed form. A reader gives what
a value describes, or nothing if the value has another form. An entry that a document leaves out
reads as null.
-/

set_option autoImplicit false

namespace Testbed.Document

variable {α : Type}

/-- Reads a part that may be missing. -/
def optional? (read : Value → Option α) : Value → Option (Option α)
  | .null => some none
  | v => (read v).map some

/-- Reads a part that has a standard value. -/
def orElse? (standard : α) (read : Value → Option α) : Value → Option α
  | .null => some standard
  | v => read v

/-- Reads every item of a list; a missing list has none. -/
def each? (read : Value → Option α) : Value → Option (List α)
  | .null => some []
  | .list items => items.mapM read
  | _ => none

/-- Reads a text that may be missing. -/
def optionalText? : Value → Option (Option String) := optional? Value.text?

/-- Reads a truth value; a missing one is false. -/
def flag? : Value → Option Bool := orElse? false Value.flag?

/-- Reads a natural number. -/
def count? : Value → Option Nat
  | .int n => if 0 ≤ n then some n.toNat else none
  | _ => none

/-- Reads a number of seconds. Infinities come as texts. -/
def seconds? {τ : Type} [Seconds τ] : Value → Option τ
  | .int n => some (Seconds.ofInt n)
  | .real x => Seconds.ofNumeral? x
  | .text s => (Numeral.ofChars? s.toList).bind Seconds.ofNumeral?
  | _ => none

/-- Reads a timestamp. -/
def timestamp? (v : Value) : Option Timestamp := v.text?.bind Timestamp.ofText?

/-- Reads a table of which every entry is of one kind. A key that comes again takes the place of
the earlier one. -/
def table? (read : Value → Option α) : Value → Option (List (String × α))
  | .null => some []
  | .table entries => do
    let pairs ← entries.mapM fun e => (read e.2).map fun a => (e.1, a)
    some (putEntries [] pairs)
  | _ => none

/-- Reads labels; missing ones are none. -/
def labels? : Value → Option Labels := table? Value.text?

/-- Reads the entries of settings; missing ones are none. -/
def settings? : Value → Option (List (String × Value)) := table? some

/-- A missing entry reads as null. -/
theorem entry_of_not_hasEntry {v : Value} {key : String} (h : v.hasEntry key = false) :
    v.entry key = .null := by
  cases v with
  | table entries =>
    simp only [Value.hasEntry, List.any_eq_false] at h
    have : entries.reverse.find? (fun e => e.1 == key) = none := by
      rw [List.find?_eq_none]
      intro e he
      exact h e (List.mem_reverse.1 he)
    simp [Value.entry, lookupLast, this]
  | _ => rfl

end Testbed.Document
