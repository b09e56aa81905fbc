import Testbed.Config.Issue
import Testbed.Number.Integer
import Testbed.Seconds
import Testbed.Value.Basic

/-!
# Reading single values

A field accepts more than values of its own type: truth values come as numbers or words, numbers
come as texts. Each reader gives the value or says what is wrong with it.
-/

set_option autoImplicit false

namespace Testbed.Config

/-- Words that stand for true, in lower case. -/
def trueWords : List String := ["1", "on", "t", "true", "y", "yes"]

/-- Words that stand for false, in lower case. -/
def falseWords : List String := ["0", "off", "f", "false", "n", "no"]

/-- The bound of machine integers, which integral numbers have to stay below. -/
def machineBound : Int := Int.pow 2 63

/-- The least integer that is too large for a double. -/
def doubleBound : Nat := Nat.pow 2 1024 - Nat.pow 2 970

/-- The machine integer that a number equals, or what is wrong with it. -/
def machineInteger (x : Numeral) : Except Problem Int :=
  match Binary.ofFloat? x.toFloat with
  | none => .error .notFinite
  | some b =>
    match b.integral? with
    | none => .error .fractional
    | some n => if -machineBound < n ∧ n < machineBound then .ok n else .error .tooLong

/-- An integer as a truth value. -/
def flagOfInteger : Int → Except Problem Bool
  | 0 => .ok false
  | 1 => .ok true
  | _ => .error .unreadableFlag

/-- Reads a truth value: itself, zero or one, or a word. -/
def readFlag : Value → Except Problem Bool
  | .flag b => .ok b
  | .int n =>
    if -machineBound ≤ n ∧ n < machineBound then flagOfInteger n else .error .notFlag
  | .real x =>
    match machineInteger x with
    | .ok n => flagOfInteger n
    | .error _ => .error .notFlag
  | .text s =>
    let word := String.ofList (s.toList.map Char.toLower)
    if trueWords.contains word then .ok true
    else if falseWords.contains word then .ok false
    else .error .unreadableFlag
  | _ => .error .notFlag

/-- Reads a text as a number: without the blanks at its ends, or else without its separators. -/
def numeralOfText? (s : String) : Option Numeral :=
  match Numeral.ofChars? (Text.trimmed s) with
  | some x => some x
  | none => (Separator.removed? s.toList).bind Numeral.ofChars?

/-- Reads a number of seconds, or per second: a number, a truth value as one or zero, or a text. -/
def readNumber {τ : Type} [Seconds τ] : Value → Except Problem τ
  | .flag b => .ok (Seconds.ofInt (if b then 1 else 0))
  | .int n => if n.natAbs < doubleBound then .ok (Seconds.ofInt n) else .error .notNumber
  | .real x =>
    match Seconds.ofNumeral? x with
    | some t => .ok t
    | none => .error .notNumber
  | .text s =>
    match (numeralOfText? s).bind Seconds.ofNumeral? with
    | some t => .ok t
    | none => .error .unreadableNumber
  | _ => .error .notNumber

/-- Reads a text as an integer. -/
def integerOfText (s : String) : Except Problem Int :=
  match Integer.ofText s with
  | .value n => .ok n
  | .tooLong => .error .tooLong
  | .unreadable => .error .unreadableInteger

/-- Reads an integer: an integral number, a truth value as one or zero, or a text. -/
def readInteger : Value → Except Problem Int
  | .flag b => .ok (if b then 1 else 0)
  | .int n => .ok n
  | .real x => machineInteger x
  | .text s => integerOfText s
  | _ => .error .notInteger

/-- Reads a text. -/
def readText : Value → Except Problem String
  | .text s => .ok s
  | _ => .error .notText

/-- Reads a text that may be missing. -/
def readOptionalText : Value → Except Problem (Option String)
  | .null => .ok none
  | v => (readText v).map some

/-- Accepts numbers from a bound on. -/
def atLeast {τ : Type} [Seconds τ] (bound : τ) (name : String) (x : τ) : Except Problem τ :=
  if bound ≤ x then .ok x else .error (.below name)

/-- Accepts numbers above a bound. -/
def above {τ : Type} [Seconds τ] (bound : τ) (name : String) (x : τ) : Except Problem τ :=
  if bound < x then .ok x else .error (.notAbove name)

end Testbed.Config
