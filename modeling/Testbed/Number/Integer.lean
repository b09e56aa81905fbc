import Testbed.Number.Numeral
import Testbed.Number.Separator
import Testbed.Text.Blank

/-!
# Integers from texts

A bare integer is an optional minus and digits without needless zeros in front. Other spellings
are tidied first: blanks at the ends, one plus, zeros in front, a fraction of zeros and separators
between digits go away. Main statement: a text that is a bare integer reads as what it spells.
-/

set_option autoImplicit false

namespace Testbed.Integer

/-- What a text says as an integer. -/
inductive Reading where
  | value (n : Int)
  /-- The text starts with a bare integer of too many characters. -/
  | tooLong
  | unreadable
  deriving DecidableEq, Repr

/-- The most characters that a bare integer may have. -/
def maxLength : Nat := 4300

/-- Whether a digit or a separator adds nothing in front of a number. -/
def isFiller (c : Char) : Bool := c == '0' || c == '_'

/-- A sign or a digit other than zero: where a number goes on behind its fillers. -/
def startsNumber (c : Char) : Bool := c == '-' || ('1' ≤ c && c ≤ '9')

/-- What counts of the characters behind a zero, of which `last` is the last filler: all from the
first that is no filler, with the last filler in front of a point, or that filler alone. -/
def behindZero? (last : Char) : List Char → Option (List Char)
  | [] => some [last]
  | c :: rest =>
    if isFiller c then behindZero? c rest
    else if startsNumber c then some (c :: rest)
    else if c == '.' then some (last :: c :: rest)
    else none

/-- The characters from their first digit that counts. -/
def significant? : List Char → Option (List Char)
  | [] => none
  | c :: rest =>
    if c == '0' then behindZero? c rest
    else if startsNumber c then some (c :: rest)
    else none

/-- The characters of a number from its first digit that counts, behind its sign. A plus goes away
and stands in front of no minus. -/
def unpadded? : List Char → Option (List Char)
  | '-' :: rest => (significant? rest).map ('-' :: ·)
  | '+' :: '-' :: _ => none
  | '+' :: rest => significant? rest
  | cs => significant? cs

/-- The characters without a fraction of zeros at the end. -/
def withoutZeroFraction (cs : List Char) : List Char :=
  match cs.dropWhile (· != '.') with
  | _ :: zeros => if !zeros.isEmpty && zeros.all (· == '0') then cs.takeWhile (· != '.') else cs
  | [] => cs

/-- A text as a bare integer, as far as it can be made one. -/
def tidied? (s : String) : Option (List Char) :=
  (unpadded? (Text.trimmed s)).map fun cs =>
    let whole := withoutZeroFraction cs
    (Separator.removed? whole).getD whole

/-- Reads a bare integer: a minus counts as one of its characters, and only zero itself starts
with a zero. -/
def ofBare (cs : List Char) : Reading :=
  let negative := cs.head? == some '-'
  let digits := if negative then cs.drop 1 else cs
  let (n, count, rest) := Numeral.digitsFrom 0 0 digits
  if digits.head? == some '0' then
    if count = 1 && rest.isEmpty then .value 0 else .unreadable
  else if count = 0 then .unreadable
  else if maxLength < count + (if negative then 1 else 0) then .tooLong
  else if rest.isEmpty then .value (if negative then -(n : Int) else n)
  else .unreadable

/-- Reads a text as an integer. Only a text that starts with a bare integer as it stands can be too
long; one that has to be tidied and still has too many digits is unreadable. -/
def ofText (s : String) : Reading :=
  match ofBare s.toList with
  | .value n => .value n
  | .tooLong => .tooLong
  | .unreadable =>
    match (tidied? s).map ofBare with
    | some (.value n) => .value n
    | _ => .unreadable

/-- A text that is a bare integer reads as it stands. -/
theorem ofText_of_ofBare {s : String} {n : Int} (h : ofBare s.toList = .value n) :
    ofText s = .value n := by
  simp [ofText, h]

theorem ofText_padded : ofText " +007_0.00 " = .value 70 := by decide +kernel

theorem ofText_zeros_before_minus : ofText "00-5" = .value (-5) := by decide +kernel

theorem ofText_point_without_zeros : ofText "50." = .unreadable := by decide +kernel

end Testbed.Integer
