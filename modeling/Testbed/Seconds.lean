import Testbed.Number.Binary

/-!
# Seconds

Everything that measures time is stated over a type of seconds. Doubles are the type that runs;
rational numbers are the type in which bounds on waiting can be stated exactly. `Seconds.rounds`
bounds how often a poll can look before its deadline.
-/

set_option autoImplicit false

namespace Testbed

/-- Arithmetic, order and texts of a type of seconds. -/
class Seconds (τ : Type) extends Add τ, Sub τ, Mul τ, Div τ, Neg τ, OfScientific τ, LT τ, LE τ where
  decLt (a b : τ) : Decidable (a < b)
  decLe (a b : τ) : Decidable (a ≤ b)
  /-- The seconds that an integer counts. -/
  ofInt : Int → τ
  /-- The seconds that a numeral stands for, if the type has them. -/
  ofNumeral? : Numeral → Option τ
  /-- Whether this is no time at all. -/
  isZero : τ → Bool
  /-- The seconds with one place behind the point. -/
  tenths : τ → String
  /-- A bound on how often a poll with this timeout and interval looks. -/
  rounds (timeout interval : τ) : Nat

attribute [reducible, instance] Seconds.decLt Seconds.decLe

namespace Seconds

/-- The natural number at or above a ratio. -/
def ceilDiv (num den : Nat) : Nat := (num + den - 1) / den

/-- How many intervals a timeout holds, rounded up; nothing if either is not finite. -/
def floatIntervals? (timeout interval : Float) : Option Nat := do
  let t ← Binary.ofFloat? timeout
  let i ← Binary.ofFloat? interval
  some (ceilDiv (t.mantissa * Nat.pow 2 t.exponent.toNat * Nat.pow 2 (-i.exponent).toNat)
    (i.mantissa * Nat.pow 2 i.exponent.toNat * Nat.pow 2 (-t.exponent).toNat))

/-- Doubles round, so a poll may look more often than the timeout holds intervals: as long as
the clock moves at all, less than twice as often. Without a finite timeout there is no bound by
intervals, and the bound is far beyond what any run reaches. -/
instance : Seconds Float where
  decLt _ _ := inferInstance
  decLe _ _ := inferInstance
  ofInt := Float.ofInt
  ofNumeral? x := some x.toFloat
  isZero x := x == 0.0
  tenths x :=
    match Binary.ofFloat? x with
    | some b => b.oneDecimal
    | none => (Numeral.ofFloat x).text
  rounds timeout interval := 2 * (floatIntervals? timeout interval).getD 0 + Nat.pow 2 62

/-- With exact arithmetic a poll looks once at the start and once after each interval, the last
one cut short. -/
instance : Seconds Rat where
  add := Rat.add
  sub := Rat.sub
  mul := Rat.mul
  div := Rat.div
  neg := Rat.neg
  ofScientific := Rat.ofScientific
  lt a b := a < b
  le a b := a ≤ b
  decLt a b := inferInstanceAs (Decidable (a < b))
  decLe a b := inferInstanceAs (Decidable (a ≤ b))
  ofInt n := (n : Rat)
  ofNumeral? x :=
    match x with
    | .finite negative digits exponent =>
      let magnitude := Rat.ofScientific digits (decide (exponent < 0)) exponent.natAbs
      some (if negative then -magnitude else magnitude)
    | _ => none
  isZero x := x == 0
  tenths x := OneDecimal.text (decide (x < 0)) x.num.natAbs x.den
  rounds timeout interval := (timeout / interval).ceil.toNat + 1

/-- The smaller of two times; the first one if neither is smaller. -/
def least {τ : Type} [Seconds τ] (a b : τ) : τ := if b < a then b else a

end Seconds

end Testbed
