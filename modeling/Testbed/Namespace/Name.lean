/-!
# Namespace names

A namespace name has one to sixty-three lower case letters, digits and hyphens, and begins and
ends with a letter or digit. `Name.normalized` makes such a name of any text: it lowers the case,
turns underscores into hyphens, drops every other character, and cuts the result.
-/

set_option autoImplicit false

namespace Testbed.Namespace.Name

/-- The greatest length of a namespace name. -/
def maxLength : Nat := 63

/-- How many characters the server appends to a name it completes. -/
def suffixLength : Nat := 5

/-- The name that stands in where nothing of a text is usable. -/
def fallback : List Char := ['e', '2', 'e']

/-- A lower case letter or a digit of ASCII. -/
def isAlphanumeric (c : Char) : Bool := ('a' ≤ c && c ≤ 'z') || ('0' ≤ c && c ≤ '9')

/-- A character that names are made of. -/
def isNameChar (c : Char) : Bool := isAlphanumeric c || c = '-'

/-- A character in lower case. Outside ASCII only the Kelvin sign and the dotted capital I have a
lower case with an ASCII letter in it; all other characters are dropped from names in either
case, so they are left as they are. -/
def lowered (c : Char) : List Char :=
  if 'A' ≤ c ∧ c ≤ 'Z' then [Char.ofNat (c.toNat + 32)]
  else if c.toNat = 0x212a then ['k']
  else if c.toNat = 0x130 then ['i', Char.ofNat 0x307]
  else [c]

/-- The characters of a text that can stand in a name: lower case, hyphens for underscores. -/
def usable (cs : List Char) : List Char :=
  (cs.flatMap lowered).map (fun c => if c = '_' then '-' else c) |>.filter isNameChar

/-- A list without hyphens at its end. -/
def dropHyphensRight (cs : List Char) : List Char :=
  (cs.reverse.dropWhile (· = '-')).reverse

/-- A list without hyphens at either end. -/
def dropHyphens (cs : List Char) : List Char := dropHyphensRight (cs.dropWhile (· = '-'))

/-- The first `limit` elements; a negative limit leaves off that many at the end. -/
def cut {α : Type} (limit : Int) (xs : List α) : List α :=
  if 0 ≤ limit then xs.take limit.toNat else xs.take (xs.length - limit.natAbs)

/-- The characters of the name made of a text, at most `limit` of them. -/
def normalizedChars (limit : Int) (cs : List Char) : List Char :=
  let kept := dropHyphens (usable cs)
  let fitting := if limit < (kept.length : Int) then dropHyphensRight (cut limit kept) else kept
  if fitting.isEmpty then fallback else fitting

/-- The name made of a text, at most `limit` characters long. -/
def normalized (text : String) (limit : Int) : String :=
  String.ofList (normalizedChars limit text.toList)

/-- A list without one line break at its end. -/
def withoutFinalBreak (cs : List Char) : List Char :=
  if cs.getLast? = some '\n' then cs.dropLast else cs

/-- Whether the characters have the form of a name, whatever their number. -/
def hasForm (cs : List Char) : Bool :=
  cs.all isNameChar && cs.head?.any isAlphanumeric && cs.getLast?.any isAlphanumeric

/-- Whether a text is accepted as a namespace name: it has at most sixty-three characters and the
form of a name, where one line break at the end goes unnoticed. -/
def isAccepted (name : String) : Bool :=
  name.toList.length ≤ maxLength && hasForm (withoutFinalBreak name.toList)

theorem isAlphanumeric_isNameChar {c : Char} (h : isAlphanumeric c = true) :
    isNameChar c = true := by
  simp [isNameChar, h]

/-- Only characters of names are usable. -/
theorem isNameChar_of_mem_usable {cs : List Char} {c : Char} (h : c ∈ usable cs) :
    isNameChar c = true := (List.mem_filter.1 h).2

theorem normalized_underscore : normalized "Webhook_Test" 63 = "webhook-test" := by
  decide +kernel

theorem isAccepted_final_break : isAccepted "ab\n" = true := by decide +kernel

end Testbed.Namespace.Name
