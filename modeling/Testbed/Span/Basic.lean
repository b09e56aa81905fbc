import Testbed.Fault.Message
import Testbed.Host.Site

/-!
# Spans

A span encloses an operation and records how it ended: well, with an ordinary fault whose label and
message it then carries, or with a fault that passed through, which leaves the span unmarked.
-/

set_option autoImplicit false

namespace Testbed

/-- What a span is opened for. -/
structure Span where
  operation : String
  baseName : Option String := none
  ns : Option String := none
  extra : List (String × Value) := []

namespace Span

/-- Attributes of a span. -/
abbrev Attributes : Type := List (String × Value)

/-- The most attributes that a span holds. -/
def attributeLimit : Nat := 128

mutual

/-- A value as an attribute holds it: entries without a name are left out of its tables. -/
def held : Value → Value
  | .list items => .list (heldItems items)
  | .table entries => .table (heldEntries entries)
  | v => v

/-- The items of a list as an attribute holds them. -/
def heldItems : List Value → List Value
  | [] => []
  | v :: rest => held v :: heldItems rest

/-- The entries of a table as an attribute holds them. -/
def heldEntries : List (String × Value) → List (String × Value)
  | [] => []
  | (key, v) :: rest =>
    if key.isEmpty then heldEntries rest else (key, held v) :: heldEntries rest

end

/-- The attributes with room for one of that name: its earlier value goes away, and otherwise, if
there are as many as a span holds, the oldest one. -/
def makeRoom (a : Attributes) (key : String) : Attributes :=
  if a.any fun e => e.1 == key then a.filter fun e => e.1 != key
  else if a.length < attributeLimit then a
  else a.drop (a.length + 1 - attributeLimit)

/-- Sets an attribute, which becomes the newest one. One without a name is not set. -/
def put (a : Attributes) (key : String) (v : Value) : Attributes :=
  if key.isEmpty then a else makeRoom a key ++ [(key, held v)]

/-- An attribute that was set is the newest. -/
theorem getLast?_put {a : Attributes} {key : String} {v : Value} (h : key.isEmpty = false) :
    (put a key v).getLast? = some (key, held v) := by
  simp [put, h]

/-- A span never holds more attributes than its limit. -/
theorem length_put_le {a : Attributes} {key : String} {v : Value} (h : a.length ≤ attributeLimit) :
    (put a key v).length ≤ attributeLimit := by
  unfold put makeRoom
  split
  · exact h
  · split
    · rename_i hany
      obtain ⟨e, he, hk⟩ := List.any_eq_true.1 hany
      have : (a.filter fun e => e.1 != key).length < a.length :=
        List.length_filter_lt_length_iff_exists.2 ⟨e, he, by simpa using hk⟩
      simp only [List.length_append, List.length_singleton]
      omega
    · split
      · simp only [List.length_append, List.length_singleton]
        omega
      · simp only [List.length_append, List.length_drop, List.length_singleton]
        have : 0 < attributeLimit := by decide
        omega

/-- The attributes that a span starts with. -/
def attributes (s : Span) : Attributes :=
  let own := ("e2e.operation", Value.text s.operation) ::
    ((s.baseName.map fun b => ("e2e.base_name", Value.text b)).toList ++
      (s.ns.map fun n => ("e2e.namespace", Value.text n)).toList)
  (putEntries own s.extra).foldl (fun a e => put a e.1 e.2) []

variable {τ ω : Type} [Seconds τ]

/-- The record of a span that has ended with the given attributes. -/
def close {α : Type} (s : Span) (a : Attributes) : Except (Fault τ) α → SpanRecord
  | .ok _ => ⟨"e2e." ++ s.operation, a, .ok⟩
  | .error e =>
    if e.isOrdinary then
      ⟨"e2e." ++ s.operation,
        put (put a "exception.type" (.text e.label)) "exception.message" (.text e.message),
        .error e.label⟩
    else ⟨"e2e." ++ s.operation, a, .unset⟩

/-- Runs a procedure inside a span, which is recorded when the procedure has ended. -/
def enclose {α : Type} (s : Span) (x : SiteM τ ω α) : SiteM τ ω α := do
  let r ← x.attempt
  Site.record (.span (s.close s.attributes r))
  Proc.conclude r

/-- A span does not change how its procedure ends. -/
theorem run_enclose_fst {α : Type} (s : Span) (x : SiteM τ ω α) (site : Site τ ω) :
    ((s.enclose x).run site).1 = (x.run site).1 := rfl

/-- A span that is enclosed ends right after its procedure. -/
theorem events_enclose {α : Type} (s : Span) (x : SiteM τ ω α) (site : Site τ ω) :
    ((s.enclose x).run site).2.events =
      (x.run site).2.events ++ [.span (s.close s.attributes (x.run site).1)] := by
  show (((x.run site).2.history.cons _).reverse) = _
  rw [List.reverse_cons]
  rfl

end Span

end Testbed
