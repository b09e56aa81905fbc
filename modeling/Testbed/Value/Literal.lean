import Testbed.Text.Quoted
import Testbed.Value.Basic

/-!
# Values inside messages

`Value.literal` writes a value so that its kind can be told: texts are quoted. `Value.display`
writes a text as it is.
-/

set_option autoImplicit false

namespace Testbed.Value

mutual

/-- A value as it stands among others: texts quoted, lists in square brackets, tables in braces. -/
def literal : Value → String
  | .null => "None"
  | .flag b => if b then "True" else "False"
  | .int n => toString n
  | .real x => x.text
  | .text s => Text.quoted s
  | .list items => "[" ++ ", ".intercalate (literals items) ++ "]"
  | .table entries => "\x7b" ++ ", ".intercalate (entryLiterals entries) ++ "\x7d"

/-- The literals of a list. -/
def literals : List Value → List String
  | [] => []
  | v :: rest => literal v :: literals rest

/-- The entries of a table: quoted key, colon, literal. -/
def entryLiterals : List (String × Value) → List String
  | [] => []
  | (key, v) :: rest => (Text.quoted key ++ ": " ++ literal v) :: entryLiterals rest

end

/-- A value on its own: a text stands for itself. -/
def display : Value → String
  | .text s => s
  | v => literal v

/-- Several values as one message: none is empty, a single one stands for itself, and more stand
in round brackets. -/
def displayAll : List Value → String
  | [] => ""
  | [v] => display v
  | vs => "(" ++ ", ".intercalate (literals vs) ++ ")"

theorem displayAll_pair : displayAll [.text "a", .int 1] = "('a', 1)" := by decide +kernel

end Testbed.Value
