/-!
# Separators in numbers

Underscores may stand inside a number to make it readable. Main statement: they are taken away only
where none stands at an end of the number.
-/

set_option autoImplicit false

namespace Testbed.Separator

/-- The separator. -/
def mark : Char := '_'

/-- Whether one separator follows another. -/
def hasDouble : List Char → Bool
  | '_' :: '_' :: _ => true
  | _ :: rest => hasDouble rest
  | [] => false

/-- The characters without their separators. There is nothing to take away, or it may not be
taken away, if no separator is there, if one stands at an end, or if one follows another. -/
def removed? (cs : List Char) : Option (List Char) :=
  if cs.contains mark && cs.head? != some mark && cs.getLast? != some mark && !hasDouble cs then
    some (cs.filter (· != mark))
  else none

/-- Separators at the ends are never taken away. -/
theorem ends_of_removed? {cs ds : List Char} (h : removed? cs = some ds) :
    cs.head? ≠ some mark ∧ cs.getLast? ≠ some mark ∧ ds = cs.filter (· != mark) := by
  unfold removed? at h
  split at h
  · rename_i hc
    simp only [Bool.and_eq_true, bne_iff_ne, ne_eq] at hc
    exact ⟨hc.1.1.2, hc.1.2, (Option.some.inj h).symm⟩
  · cases h

/-- No separator is left. -/
theorem mark_notMem_of_removed? {cs ds : List Char} (h : removed? cs = some ds) : mark ∉ ds := by
  rw [(ends_of_removed? h).2.2]
  simp

theorem removed?_single : removed? "1_000.5".toList = some "1000.5".toList := by decide +kernel

theorem removed?_double : removed? "4__5".toList = none := by decide +kernel

end Testbed.Separator
