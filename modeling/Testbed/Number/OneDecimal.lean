/-!
# One decimal place

A ratio of natural numbers rounded to tenths, a half going to the even neighbour.
-/

set_option autoImplicit false

namespace Testbed.OneDecimal

/-- The integer nearest to `num / den`; of two nearest ones, the even one. -/
def roundHalfEven (num den : Nat) : Nat :=
  let below := num / den
  let rest := 2 * (num % den)
  if rest < den ∨ (rest = den ∧ below % 2 = 0) then below else below + 1

/-- The digits of `num / den` with one place behind the point, all digits before it written. -/
def text (negative : Bool) (num den : Nat) : String :=
  let tenths := roundHalfEven (10 * num) den
  (if negative then "-" else "") ++ toString (tenths / 10) ++ "." ++ toString (tenths % 10)

/-- The rounded value is within half a unit of the ratio. -/
theorem roundHalfEven_close (num den : Nat) (h : 0 < den) :
    2 * num ≤ 2 * den * roundHalfEven num den + den ∧
      2 * den * roundHalfEven num den ≤ 2 * num + den := by
  have hdiv := Nat.div_add_mod num den
  have hlt := Nat.mod_lt num h
  unfold roundHalfEven
  simp only
  split
  · rename_i hc
    have : 2 * den * (num / den) = 2 * (den * (num / den)) := by rw [Nat.mul_assoc]
    omega
  · rename_i hc
    have : 2 * den * (num / den + 1) = 2 * (den * (num / den)) + 2 * den := by
      rw [Nat.mul_add, Nat.mul_assoc, Nat.mul_one]
    omega

theorem text_quarter : text false 1 4 = "0.2" := by decide +kernel

end Testbed.OneDecimal
