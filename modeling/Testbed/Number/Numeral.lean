/-!
# Numerals

A numeral is an exact decimal number, an infinity, or no number at all. `Numeral.text` writes it
and `Numeral.ofChars?` reads one: an optional sign, digits with an optional fraction and exponent,
or the words for the infinities and for no number.
-/

set_option autoImplicit false

namespace Testbed

/-- A number as digits: `digits * 10 ^ exponent`, negated if `negative`. -/
inductive Numeral where
  | finite (negative : Bool) (digits : Nat) (exponent : Int)
  | infinite (negative : Bool)
  | notANumber
  deriving DecidableEq, Repr

namespace Numeral

/-- The sign in front of a number. -/
def signText (negative : Bool) : String := if negative then "-" else ""

/-- An exponent with its sign and at least two digits. -/
def exponentText (e : Int) : String :=
  let digits := Nat.toDigits 10 e.natAbs
  let filled := List.replicate (2 - digits.length) '0' ++ digits
  "e" ++ (if e < 0 then "-" else "+") ++ String.ofList filled

/-- The digits with a point after the first `point` of them, zeros filling up either side. -/
def positional (digits : List Char) (point : Int) : String :=
  if point ≤ 0 then
    "0." ++ String.ofList (List.replicate point.natAbs '0' ++ digits)
  else
    let whole := digits.take point.toNat
    let zeros := List.replicate (point.toNat - digits.length) '0'
    let fraction := digits.drop point.toNat
    String.ofList (whole ++ zeros) ++ "." ++
      (if fraction.isEmpty then "0" else String.ofList fraction)

/-- The digits with a point after the first and the power of ten after them. -/
def scientific (digits : List Char) (point : Int) : String :=
  String.ofList (digits.take 1) ++
    (if digits.length ≤ 1 then "" else "." ++ String.ofList (digits.drop 1)) ++
    exponentText (point - 1)

/-- A finite number is written positionally from 0.0001 up to below ten to the sixteenth, and with
a power of ten otherwise. -/
def text : Numeral → String
  | .notANumber => "nan"
  | .infinite negative => signText negative ++ "inf"
  | .finite negative digits exponent =>
    if digits = 0 then signText negative ++ "0.0"
    else
      let ds := Nat.toDigits 10 digits
      let point := (ds.length : Int) + exponent
      signText negative ++
        (if -4 < point ∧ point ≤ 16 then positional ds point else scientific ds point)

/-- The value of a digit. -/
def digitValue? (c : Char) : Option Nat :=
  if '0' ≤ c ∧ c ≤ '9' then some (c.toNat - 48) else none

/-- Reads digits on from the value `acc`. Gives the value, how many digits were read in all, and
what follows. -/
def digitsFrom (acc count : Nat) : List Char → Nat × Nat × List Char
  | [] => (acc, count, [])
  | c :: rest =>
    match digitValue? c with
    | some d => digitsFrom (10 * acc + d) (count + 1) rest
    | none => (acc, count, c :: rest)

/-- Reads an optional sign. -/
def signOf : List Char → Bool × List Char
  | '-' :: rest => (true, rest)
  | '+' :: rest => (false, rest)
  | cs => (false, cs)

/-- Reads an optional fraction behind `whole` digits worth `acc`. Gives the value of all digits,
how many stand before and behind the point, and what follows. -/
def fractionFrom (acc : Nat) : List Char → Nat × Nat × List Char
  | '.' :: rest => digitsFrom acc 0 rest
  | cs => (acc, 0, cs)

/-- Reads an optional exponent, which ends the number. -/
def exponent? : List Char → Option Int
  | [] => some 0
  | c :: rest =>
    if c = 'e' ∨ c = 'E' then
      let (negative, rest) := signOf rest
      match digitsFrom 0 0 rest with
      | (e, _ + 1, []) => some (if negative then -(e : Int) else e)
      | _ => none
    else none

/-- The words that stand for no finite number, in lower case. -/
def ofWord? (negative : Bool) (cs : List Char) : Option Numeral :=
  let word := String.ofList (cs.map Char.toLower)
  if word = "inf" ∨ word = "infinity" then some (.infinite negative)
  else if word = "nan" then some .notANumber
  else none

/-- Reads a whole text as a number. -/
def ofChars? (cs : List Char) : Option Numeral :=
  let (negative, cs) := signOf cs
  let (whole, wholeCount, rest) := digitsFrom 0 0 cs
  let (digits, places, rest) := fractionFrom whole rest
  if wholeCount + places = 0 then ofWord? negative cs
  else (exponent? rest).map fun e => .finite negative digits (e - places)

theorem text_three_hundred : text (.finite false 3 2) = "300.0" := by decide +kernel

theorem text_smallest : text (.finite false 5 (-324)) = "5e-324" := by decide +kernel

theorem ofChars?_separated : ofChars? "4_5".toList = none := by decide +kernel

/-- All digits at the front are read: what follows starts with none. -/
theorem digitsFrom_rest (acc count : Nat) (cs : List Char) :
    ∀ c ∈ (digitsFrom acc count cs).2.2.head?, digitValue? c = none := by
  induction cs generalizing acc count with
  | nil => simp [digitsFrom]
  | cons c rest ih =>
    unfold digitsFrom
    split
    · exact ih _ _
    · rename_i h
      simpa using h

end Numeral

end Testbed
