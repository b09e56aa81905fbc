import Testbed.Number.Numeral
import Testbed.Number.OneDecimal

/-!
# Binary floating point numbers as exact ratios

A finite double is a mantissa times a power of two. `Binary.shortest` gives the fewest decimal
digits that read back as the same double: it walks the decimal grids from coarse to fine and takes
the first grid point that rounds to the number.
-/

set_option autoImplicit false

namespace Testbed

/-- A finite double: `mantissa * 2 ^ exponent`, negated if `negative`. -/
structure Binary where
  negative : Bool
  mantissa : Nat
  exponent : Int
  /-- Whether the gap to the next number below is half the gap to the next one above. -/
  narrowBelow : Bool
  deriving DecidableEq, Repr

namespace Binary

/-- The parts of a double, or nothing for infinities and for no number. -/
def ofFloat? (x : Float) : Option Binary :=
  let bits : Nat := x.toBits.toNat
  let negative : Bool := bits / Nat.pow 2 63 == 1
  let biased : Nat := bits / Nat.pow 2 52 % Nat.pow 2 11
  let fraction : Nat := bits % Nat.pow 2 52
  if biased = 2047 then none
  else if biased = 0 then some ⟨negative, fraction, -1074, false⟩
  else
    some ⟨negative, fraction + Nat.pow 2 52, (biased : Int) - 1075,
      fraction == 0 && decide (1 < biased)⟩

/-- A positive number and the interval that rounds to it, as multiples of one fourth of a unit in
the last place, measured against a decimal unit: a grid point `c` stands for `c * scale` and the
number for `4 * mantissa * factor`. -/
structure Grid where
  factor : Nat
  scale : Nat

/-- The grid of the multiples of `10 ^ place`. -/
def gridAt (b : Binary) (place : Int) : Grid :=
  let e := b.exponent - 2
  ⟨Nat.pow 2 e.toNat * Nat.pow 10 (-place).toNat, Nat.pow 10 place.toNat * Nat.pow 2 (-e).toNat⟩

/-- Whether the grid point `c` rounds to the number: it lies between the midpoints to both
neighbours, ends included if the mantissa is even. -/
def hits (b : Binary) (g : Grid) (c : Nat) : Bool :=
  let low := (4 * b.mantissa - (if b.narrowBelow then 1 else 2)) * g.factor
  let high := (4 * b.mantissa + 2) * g.factor
  let point := c * g.scale
  if b.mantissa % 2 = 0 then low ≤ point && point ≤ high else low < point && point < high

/-- The grid point nearest to the number among those that round to it, if there is one. -/
def nearest? (b : Binary) (g : Grid) : Option Nat :=
  let value := 4 * b.mantissa * g.factor
  let below := value / g.scale
  match b.hits g below, b.hits g (below + 1) with
  | false, false => none
  | true, false => some below
  | false, true => some (below + 1)
  | true, true =>
    let rest := 2 * (value % g.scale)
    some (if rest < g.scale ∨ (rest = g.scale ∧ below % 2 = 0) then below else below + 1)

/-- The first grid with a point that rounds to the number, from `place` downwards. -/
def firstHit (b : Binary) : Nat → Int → Nat × Int
  | 0, place => (4 * b.mantissa * (b.gridAt place).factor / (b.gridAt place).scale, place)
  | steps + 1, place =>
    match b.nearest? (b.gridAt place) with
    | some c => (c, place)
    | none => firstHit b steps (place - 1)

/-- A decimal place that is no finer than the first digit of the number. -/
def leadingPlace (b : Binary) : Int :=
  ((Nat.log2 b.mantissa : Int) + b.exponent) * 30103 / 100000 + 2

/-- The fewest digits that read back as the number. -/
def shortest (b : Binary) : Numeral :=
  if b.mantissa = 0 then .finite b.negative 0 0
  else
    let (digits, place) := b.firstHit 24 b.leadingPlace
    .finite b.negative digits place

/-- The integer that the number equals exactly, or nothing if it has a fraction. -/
def integral? (b : Binary) : Option Int :=
  let scale := Nat.pow 2 b.exponent.natAbs
  let magnitude? :=
    if 0 ≤ b.exponent then some (b.mantissa * scale)
    else if b.mantissa % scale = 0 then some (b.mantissa / scale)
    else none
  magnitude?.map fun m => if b.negative then -(m : Int) else m

/-- The number rounded to tenths. -/
def oneDecimal (b : Binary) : String :=
  OneDecimal.text b.negative (b.mantissa * Nat.pow 2 b.exponent.toNat)
    (Nat.pow 2 (-b.exponent).toNat)

end Binary

namespace Numeral

/-- The shortest numeral of a double. -/
def ofFloat (x : Float) : Numeral :=
  match Binary.ofFloat? x with
  | some b => b.shortest
  | none => if x.isNaN then .notANumber else .infinite (x < 0)

/-- The double nearest to a numeral. Numbers beyond the range of doubles are infinite, and those
too small for it are zero. -/
def toFloat : Numeral → Float
  | .notANumber => 0.0 / 0.0
  | .infinite negative => if negative then -1.0 / 0.0 else 1.0 / 0.0
  | .finite negative digits exponent =>
    let magnitude := ((Nat.toDigits 10 digits).length : Int) + exponent
    let x :=
      if digits = 0 ∨ magnitude < -400 then 0.0
      else if 400 < magnitude then 1.0 / 0.0
      else Float.ofScientific digits (decide (exponent < 0)) exponent.natAbs
    if negative then -x else x

/-- The integer that the double nearest to a numeral equals, if there is one. -/
def integral? (x : Numeral) : Option Int := (Binary.ofFloat? x.toFloat).bind Binary.integral?

end Numeral

end Testbed
