import Testbed.Number.Binary
import Testbed.Value.Basic

/-!
# Reading structured values

`Value.read?` reads one JSON text. A number without point and exponent is an integer; any other
number is rounded to the nearest double and kept by its shortest digits.
-/

set_option autoImplicit false

namespace Testbed.Value

/-- Blanks between tokens. -/
def skipBlanks (cs : List Char) : List Char :=
  cs.dropWhile fun c => c = ' ' || c = '\n' || c = '\r' || c = '\t'

/-- The value of a hexadecimal digit. -/
def hexValue? (c : Char) : Option Nat :=
  if '0' ≤ c ∧ c ≤ '9' then some (c.toNat - 48)
  else if 'a' ≤ c ∧ c ≤ 'f' then some (c.toNat - 87)
  else if 'A' ≤ c ∧ c ≤ 'F' then some (c.toNat - 55)
  else none

/-- The code unit of four hexadecimal digits. -/
def codeUnit? : List Char → Option (Nat × List Char)
  | a :: b :: c :: d :: rest => do
    let a ← hexValue? a
    let b ← hexValue? b
    let c ← hexValue? c
    let d ← hexValue? d
    some (((a * 16 + b) * 16 + c) * 16 + d, rest)
  | _ => none

/-- The character of an escape with four digits; a high surrogate takes the low one behind it. -/
def unicodeEscape? (cs : List Char) : Option (Char × List Char) := do
  let (unit, rest) ← codeUnit? cs
  if 0xD800 ≤ unit ∧ unit < 0xDC00 then
    match rest with
    | '\x5c' :: 'u' :: rest => do
      let (low, rest) ← codeUnit? rest
      some (Char.ofNat (0x10000 + (unit - 0xD800) * 0x400 + (low - 0xDC00)), rest)
    | _ => none
  else some (Char.ofNat unit, rest)

/-- The character behind a backslash. -/
def escape? : List Char → Option (Char × List Char)
  | 'n' :: rest => some ('\n', rest)
  | 't' :: rest => some ('\t', rest)
  | 'r' :: rest => some ('\r', rest)
  | 'b' :: rest => some ('\x08', rest)
  | 'f' :: rest => some ('\x0c', rest)
  | 'u' :: rest => unicodeEscape? rest
  | c :: rest => if c = '\x22' ∨ c = '\x5c' ∨ c = '/' then some (c, rest) else none
  | [] => none

/-- The characters of a text up to its closing mark, collected in reverse. The first argument
bounds the number of steps. -/
def textBody? : Nat → List Char → List Char → Option (String × List Char)
  | 0, _, _ => none
  | _ + 1, _, [] => none
  | steps + 1, acc, c :: rest =>
    if c = '\x22' then some (String.ofList acc.reverse, rest)
    else if c = '\x5c' then
      match escape? rest with
      | some (e, rest) => textBody? steps (e :: acc) rest
      | none => none
    else textBody? steps (c :: acc) rest

/-- A number token. -/
def number? (cs : List Char) : Option (Value × List Char) :=
  let isNumberChar := fun c : Char => c.isDigit || c = '-' || c = '+' || c = '.' || c = 'e' || c = 'E'
  let token := cs.takeWhile isNumberChar
  let rest := cs.dropWhile isNumberChar
  if token.any fun c => c = '.' || c = 'e' || c = 'E' then
    (Numeral.ofChars? token).map fun x => (.real (Numeral.ofFloat x.toFloat), rest)
  else
    match Numeral.ofChars? token with
    | some (.finite negative digits 0) =>
      some (.int (if negative then -(digits : Int) else digits), rest)
    | _ => none

mutual

/-- A value at the start of the characters. The first argument bounds the number of steps. -/
def valueAt? : Nat → List Char → Option (Value × List Char)
  | 0, _ => none
  | steps + 1, cs =>
    match skipBlanks cs with
    | 'n' :: 'u' :: 'l' :: 'l' :: rest => some (.null, rest)
    | 't' :: 'r' :: 'u' :: 'e' :: rest => some (.flag true, rest)
    | 'f' :: 'a' :: 'l' :: 's' :: 'e' :: rest => some (.flag false, rest)
    | '[' :: rest =>
      match skipBlanks rest with
      | ']' :: rest => some (.list [], rest)
      | rest => itemsAt? steps [] rest
    | '\x7b' :: rest =>
      match skipBlanks rest with
      | '\x7d' :: rest => some (.table [], rest)
      | rest => entriesAt? steps [] rest
    | '\x22' :: rest => (textBody? (rest.length + 1) [] rest).map fun p => (.text p.1, p.2)
    | rest => number? rest

/-- The items of a list up to its closing bracket, collected in reverse. -/
def itemsAt? : Nat → List Value → List Char → Option (Value × List Char)
  | 0, _, _ => none
  | steps + 1, acc, cs =>
    match valueAt? steps cs with
    | none => none
    | some (v, rest) =>
      match skipBlanks rest with
      | ',' :: rest => itemsAt? steps (v :: acc) rest
      | ']' :: rest => some (.list (v :: acc).reverse, rest)
      | _ => none

/-- The entries of a table up to its closing brace, collected in reverse. -/
def entriesAt? : Nat → List (String × Value) → List Char → Option (Value × List Char)
  | 0, _, _ => none
  | steps + 1, acc, cs =>
    match skipBlanks cs with
    | '\x22' :: rest =>
      match textBody? (rest.length + 1) [] rest with
      | none => none
      | some (key, rest) =>
        match skipBlanks rest with
        | ':' :: rest =>
          match valueAt? steps rest with
          | none => none
          | some (v, rest) =>
            match skipBlanks rest with
            | ',' :: rest => entriesAt? steps ((key, v) :: acc) rest
            | '\x7d' :: rest => some (.table ((key, v) :: acc).reverse, rest)
            | _ => none
        | _ => none
    | _ => none

end

/-- Reads a whole JSON text; every value takes at least one character, so the length bounds the
number of steps. -/
def read? (s : String) : Option Value :=
  let cs := s.toList
  match valueAt? (cs.length + 1) cs with
  | some (v, rest) => if (skipBlanks rest).isEmpty then some v else none
  | none => none

end Testbed.Value
