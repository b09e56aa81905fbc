/-!
# Blanks

Which characters count as blank at the ends of a value, and the value without them.
-/

set_option autoImplicit false

namespace Testbed.Text

/-- The code points of blanks: white space of Unicode and the four information separators. -/
def blankCodes : List Nat :=
  [0x9, 0xa, 0xb, 0xc, 0xd, 0x1c, 0x1d, 0x1e, 0x1f, 0x20, 0x85, 0xa0, 0x1680, 0x2000, 0x2001,
   0x2002, 0x2003, 0x2004, 0x2005, 0x2006, 0x2007, 0x2008, 0x2009, 0x200a, 0x2028, 0x2029,
   0x202f, 0x205f, 0x3000]

/-- A blank character. -/
def isBlank (c : Char) : Bool := blankCodes.contains c.toNat

/-- A list without the elements at either end that satisfy the test. -/
def trimEnds {α : Type} (p : α → Bool) (xs : List α) : List α :=
  ((xs.dropWhile p).reverse.dropWhile p).reverse

/-- White space: a blank that is no information separator. -/
def isWhiteSpace (c : Char) : Bool := isBlank c && !(0x1c ≤ c.toNat && c.toNat ≤ 0x1f)

/-- The characters of a text without white space at its ends. -/
def trimmed (s : String) : List Char := trimEnds isWhiteSpace s.toList

/-- The text without blanks at its ends. -/
def stripBlanks (s : String) : String := String.ofList (trimEnds isBlank s.toList)

/-- What core calls white space is blank. -/
theorem isBlank_of_isWhitespace {c : Char} (h : c.isWhitespace = true) : isBlank c = true := by
  simp only [Char.isWhitespace, Bool.or_eq_true, decide_eq_true_eq] at h
  rcases h with ((h | h) | h) | h <;> subst h <;> decide

/-- A list whose ends both fail the test keeps all of its elements. -/
theorem trimEnds_eq_self {α : Type} {p : α → Bool} {xs : List α}
    (hfirst : ∀ a ∈ xs.head?, p a = false) (hlast : ∀ a ∈ xs.getLast?, p a = false) :
    trimEnds p xs = xs := by
  have hdrop : ∀ ys : List α, (∀ a ∈ ys.head?, p a = false) → ys.dropWhile p = ys := by
    intro ys h
    cases ys with
    | nil => rfl
    | cons a r => simp [h a (by simp)]
  unfold trimEnds
  rw [hdrop xs hfirst, hdrop xs.reverse (by simpa using hlast), List.reverse_reverse]

/-- Elements that satisfy the test make no difference at either end. -/
theorem trimEnds_append {α : Type} {p : α → Bool} {before after : List α} (xs : List α)
    (hbefore : ∀ a ∈ before, p a = true) (hafter : ∀ a ∈ after, p a = true) :
    trimEnds p (before ++ xs ++ after) = trimEnds p xs := by
  have hnone : after.dropWhile p = [] := by
    rw [← List.append_nil after]
    exact List.dropWhile_append_of_pos hafter
  have hreversed : ∀ a ∈ after.reverse, p a = true := fun a ha => hafter a (List.mem_reverse.1 ha)
  unfold trimEnds
  rw [List.append_assoc, List.dropWhile_append_of_pos hbefore, List.dropWhile_append]
  by_cases h : (xs.dropWhile p).isEmpty = true
  · rw [if_pos h, hnone, List.isEmpty_iff.1 h]
  · rw [if_neg h, List.reverse_append, List.dropWhile_append_of_pos hreversed]

end Testbed.Text
