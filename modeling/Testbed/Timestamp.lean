import Testbed.Text.Quoted
import Testbed.Number.Numeral

/-!
# Timestamps

A timestamp is a date with a time of day down to microseconds and, if it is aware of its zone,
an offset from universal time. Aware timestamps compare as instants and the others by the clock
on the wall; the two kinds do not compare with each other.
-/

set_option autoImplicit false

namespace Testbed

/-- A date and a time of day; the offset from universal time is in minutes. -/
structure Timestamp where
  year : Nat
  month : Nat
  day : Nat
  hour : Nat
  minute : Nat
  second : Nat
  micro : Nat
  offset : Option Int
  deriving DecidableEq, Repr

namespace Timestamp

/-- The first moment of the calendar in universal time, which stands for a missing time. -/
def origin : Timestamp := ⟨1, 1, 1, 0, 0, 0, 0, some 0⟩

/-- Whether the timestamp knows its offset from universal time. -/
def isAware (t : Timestamp) : Bool := t.offset.isSome

/-- Whether a year has a leap day. -/
def isLeap (year : Nat) : Bool := year % 4 == 0 && (year % 100 != 0 || year % 400 == 0)

/-- The days of a year before the given month. -/
def daysBeforeMonth (year month : Nat) : Nat :=
  let plain := [0, 31, 59, 90, 120, 151, 181, 212, 243, 273, 304, 334].getD (month - 1) 0
  if 2 < month && isLeap year then plain + 1 else plain

/-- The days of the calendar before the date. -/
def dayNumber (t : Timestamp) : Nat :=
  let years := t.year - 1
  365 * years + years / 4 - years / 100 + years / 400 + daysBeforeMonth t.year t.month + (t.day - 1)

/-- Microseconds from the origin of the calendar to the wall clock time. -/
def wallMicros (t : Timestamp) : Nat :=
  (((t.dayNumber * 24 + t.hour) * 60 + t.minute) * 60 + t.second) * 1000000 + t.micro

/-- Microseconds from the origin in universal time; without an offset, of the wall clock. -/
def instant (t : Timestamp) : Int := (t.wallMicros : Int) - t.offset.getD 0 * 60000000

/-- The offset as sign, hours and minutes. -/
def offsetText (minutes : Int) : String :=
  (if minutes < 0 then "-" else "+") ++ Text.padded 10 2 (minutes.natAbs / 60) ++ ":" ++
    Text.padded 10 2 (minutes.natAbs % 60)

/-- The timestamp with a blank between date and time; microseconds only if there are any, and the
offset only if it is known. -/
def text (t : Timestamp) : String :=
  Text.padded 10 4 t.year ++ "-" ++ Text.padded 10 2 t.month ++ "-" ++ Text.padded 10 2 t.day ++ " " ++
    Text.padded 10 2 t.hour ++ ":" ++ Text.padded 10 2 t.minute ++ ":" ++ Text.padded 10 2 t.second ++
    (if t.micro = 0 then "" else "." ++ Text.padded 10 6 t.micro) ++
    (match t.offset with
     | none => ""
     | some minutes => offsetText minutes)

/-- The number that `count` digits at the start stand for. -/
def digits? : Nat → Nat → List Char → Option (Nat × List Char)
  | 0, acc, rest => some (acc, rest)
  | count + 1, acc, c :: rest =>
    match Numeral.digitValue? c with
    | some d => digits? count (10 * acc + d) rest
    | none => none
  | _ + 1, _, [] => none

/-- The given character, then a number of two digits. -/
def twoAfter? (mark : Char) : List Char → Option (Nat × List Char)
  | c :: rest => if c = mark then digits? 2 0 rest else none
  | [] => none

/-- An optional fraction of a second, cut to microseconds. -/
def fraction : List Char → Nat × List Char
  | '.' :: rest =>
    let places := rest.takeWhile Char.isDigit
    let six := (places ++ List.replicate 6 '0').take 6
    (six.foldl (fun n c => 10 * n + (c.toNat - 48)) 0, rest.dropWhile Char.isDigit)
  | rest => (0, rest)

/-- An optional offset, which ends the timestamp. -/
def offset? : List Char → Option (Option Int)
  | [] => some none
  | ['Z'] => some (some 0)
  | sign :: rest => do
    let (hours, rest) ← digits? 2 0 rest
    let (minutes, rest) ← twoAfter? ':' rest
    let total : Int := hours * 60 + minutes
    if !rest.isEmpty then none
    else if sign = '+' then some (some total)
    else if sign = '-' then some (some (-total))
    else none

/-- Reads a date, a `T` or a blank, a time and an optional offset. -/
def ofText? (s : String) : Option Timestamp := do
  let (year, rest) ← digits? 4 0 s.toList
  let (month, rest) ← twoAfter? '-' rest
  let (day, rest) ← twoAfter? '-' rest
  let (hour, rest) ← (twoAfter? 'T' rest).orElse fun _ => twoAfter? ' ' rest
  let (minute, rest) ← twoAfter? ':' rest
  let (second, rest) ← twoAfter? ':' rest
  let (micro, rest) := fraction rest
  let offset ← offset? rest
  some ⟨year, month, day, hour, minute, second, micro, offset⟩

theorem text_of_offset :
    (ofText? "2026-01-01T12:05:00.120000-05:30").map text =
      some "2026-01-01 12:05:00.120000-05:30" := by decide +kernel

end Timestamp

end Testbed
