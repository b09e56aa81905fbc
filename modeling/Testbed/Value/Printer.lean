import Testbed.Text.Quoted
import Testbed.Value.Basic

/-!
# Writing structured values

Values are written as one line of JSON. Finite numbers that are no integers always carry a point
or an exponent; infinities and no number are written as texts, and zero without a sign.
-/

set_option autoImplicit false

namespace Testbed.Value

/-- One character inside a JSON text. -/
def writtenChar (c : Char) : List Char :=
  if c = Text.doubleMark ∨ c = '\x5c' then ['\x5c', c]
  else if c.toNat < 0x20 ∨ c.toNat = 0x7f then
    ['\x5c', 'u'] ++ (Text.padded 16 4 c.toNat).toList
  else [c]

/-- A JSON text. -/
def writtenText (s : String) : String :=
  String.ofList (Text.doubleMark :: s.toList.flatMap writtenChar ++ [Text.doubleMark])

/-- A JSON number, or a text for what is no finite number. -/
def writtenReal : Numeral → String
  | .finite negative digits exponent => Numeral.text (.finite (negative && digits != 0) digits exponent)
  | x => writtenText x.text

mutual

/-- A value as one line of JSON. -/
def written : Value → String
  | .null => "null"
  | .flag b => if b then "true" else "false"
  | .int n => toString n
  | .real x => writtenReal x
  | .text s => writtenText s
  | .list items => "[" ++ ", ".intercalate (writtenItems items) ++ "]"
  | .table entries => "\x7b" ++ ", ".intercalate (writtenEntries entries) ++ "\x7d"

/-- The items of a list, each written. -/
def writtenItems : List Value → List String
  | [] => []
  | v :: rest => written v :: writtenItems rest

/-- The entries of a table, each written. -/
def writtenEntries : List (String × Value) → List String
  | [] => []
  | (key, v) :: rest => (writtenText key ++ ": " ++ written v) :: writtenEntries rest

end

end Testbed.Value
