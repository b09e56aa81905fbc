import Testbed.Text.Printable

/-!
# Quoted text

Texts inside messages stand between quotation marks. The mark is the single one, unless the text
holds a single mark and no double one. The backslash and the mark are escaped with a backslash,
and characters that are not printable are written by their code points.
-/

set_option autoImplicit false

namespace Testbed.Text

/-- The single quotation mark. -/
def singleMark : Char := '\x27'

/-- The double quotation mark. -/
def doubleMark : Char := '\x22'

/-- A decimal or hexadecimal numeral, filled up with zeros on the left to `width` digits. -/
def padded (base width n : Nat) : String :=
  let digits := Nat.toDigits base n
  String.ofList (List.replicate (width - digits.length) '0' ++ digits)

/-- The mark that surrounds a text: double exactly if that saves escaping single marks. -/
def markFor (s : List Char) : Char :=
  if s.contains singleMark && !s.contains doubleMark then doubleMark else singleMark

/-- How one character stands between two of the given marks. -/
def escaped (mark c : Char) : List Char :=
  if c = mark ∨ c = '\x5c' then ['\x5c', c]
  else if c = '\n' then ['\x5c', 'n']
  else if c = '\r' then ['\x5c', 'r']
  else if c = '\t' then ['\x5c', 't']
  else if isPrintable c then [c]
  else if c.toNat < 0x100 then ['\x5c', 'x'] ++ (padded 16 2 c.toNat).toList
  else if c.toNat < 0x10000 then ['\x5c', 'u'] ++ (padded 16 4 c.toNat).toList
  else ['\x5c', 'U'] ++ (padded 16 8 c.toNat).toList

/-- The text between quotation marks, with escapes. -/
def quoted (s : String) : String :=
  let mark := markFor s.toList
  String.ofList (mark :: s.toList.flatMap (escaped mark) ++ [mark])

theorem quoted_apostrophe : quoted "x'y" = "\"x'y\"" := by decide +kernel

theorem quoted_newline : quoted "a\nb" = "'a\\nb'" := by decide +kernel

end Testbed.Text
