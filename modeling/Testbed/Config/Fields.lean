import Testbed.Config.Scalar

/-!
# Reading all fields of a setting

The fields of a setting are read independently of each other, and all their issues are reported
together, ordered by field. Fields that were not given keep their defaults, and entries that
belong to no field are issues too.
-/

set_option autoImplicit false

namespace Testbed.Config

/-- Values by the names of the fields they are for. -/
abbrev Entries : Type := List (String × Value)

/-- A value, or all issues with what it was to be made of. -/
abbrev Checked (α : Type) : Type := Except (List Issue) α

namespace Checked

/-- The function applied to the argument if both are there, and otherwise the issues of both. -/
def ap {α β : Type} (f : Checked (α → β)) (x : Checked α) : Checked β :=
  match f, x with
  | .ok f, .ok a => .ok (f a)
  | .ok _, .error e => .error e
  | .error d, .ok _ => .error d
  | .error d, .error e => .error (d ++ e)

/-- The issues of a checked value. -/
def issues {α : Type} : Checked α → List Issue
  | .ok _ => []
  | .error issues => issues

/-- The value of a field among the entries, or its default. -/
def field {α : Type} (entries : Entries) (name : String) (fallback : α)
    (read : Value → Except Problem α) : Checked α :=
  match lookupLast name entries with
  | none => .ok fallback
  | some v =>
    match read v with
    | .ok a => .ok a
    | .error p => .error [⟨name, p⟩]

/-- The entries that belong to none of the fields, as issues. -/
def unknown (entries : Entries) (fields : List String) : List Issue :=
  (entries.filter fun e => !fields.contains e.1).map fun e => ⟨e.1, .unknownField⟩

/-- Issues in the order of their fields. -/
def ordered (issues : List Issue) : List Issue :=
  issues.mergeSort fun a b => !decide (b.field < a.field)

/-- A checked value to which the unknown entries are added as issues, all issues in order. -/
def closed {α : Type} (entries : Entries) (fields : List String) (x : Checked α) : Checked α :=
  match x, unknown entries fields with
  | .ok a, [] => .ok a
  | x, extra => .error (ordered (x.issues ++ extra))

/-- The issues of an application are those of its parts. -/
@[simp] theorem issues_ap {α β : Type} (f : Checked (α → β)) (x : Checked α) :
    (ap f x).issues = f.issues ++ x.issues := by
  cases f <;> cases x <;> simp [ap, issues]

/-- A checked value with unknown entries or issues of its own is refused with exactly these. -/
theorem issues_closed {α : Type} (entries : Entries) (fields : List String) (x : Checked α) :
    (closed entries fields x).issues = ordered (x.issues ++ unknown entries fields) := by
  unfold closed
  split
  · rename_i a h
    simp [issues, h, ordered]
  · simp [issues]

end Checked

end Testbed.Config
