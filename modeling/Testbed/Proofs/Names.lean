import Mathlib.Computability.RegularExpressions
import Mathlib.Data.List.DropRight
import Testbed.Framework.Setup
import Testbed.Proofs.History
import Testbed.Proofs.Waiting
import Testbed.Scripted.World

/-!
# Which names are accepted, and which are made

The form of a name is said of its characters, one by one. The texts of that form are those of a
regular expression, and what is accepted are the texts that this expression takes whole, or up to
a line break at their end. So exactly one thing is accepted that has not the form of a name: a name
with a line break behind it.

What is made of a text always has the form of a name, and what has that form already is left as it
is. The first character that is kept of a text is no hyphen, so a cut leaves it, and what the cut
lays bare at the end is taken off. Of the characters whose case is lowered only a few matter: what
becomes of all the others is dropped, whatever it is.
-/

set_option autoImplicit false

namespace Testbed.Namespace

namespace Name

/-- The form of a name, whatever its length: lower case letters, digits and hyphens of ASCII, with
no hyphen at either end. -/
structure IsFormed (cs : List Char) : Prop where
  nonempty : cs ≠ []
  characters : ∀ c ∈ cs, c.isLower ∨ c.isDigit ∨ c = '-'
  first : cs.head? ≠ some '-'
  last : cs.getLast? ≠ some '-'

/-- A name of so many characters at most. -/
structure IsName (limit : Int) (cs : List Char) : Prop extends IsFormed cs where
  fits : (cs.length : Int) ≤ limit

/-- A text of so many characters at most that is a name, or a name with one line break behind it. -/
def IsNameOrBroken (limit : Int) (text : String) : Prop :=
  IsName limit text.toList ∨ ∃ stem : String, text = stem ++ "\n" ∧ IsName (limit - 1) stem.toList

theorem isAlphanumeric_iff {c : Char} : isAlphanumeric c = true ↔ c.isLower ∨ c.isDigit := by
  have hsame : isAlphanumeric c = (c.isLower || c.isDigit) := rfl
  rw [hsame, Bool.or_eq_true]

theorem isNameChar_iff {c : Char} : isNameChar c = true ↔ c.isLower ∨ c.isDigit ∨ c = '-' := by
  simp [isNameChar, isAlphanumeric_iff, or_assoc]

/-- Where a name has a character that is no hyphen, it is a letter or a digit. -/
theorem isAlphanumeric_of_ne {c : Char} (h : c.isLower ∨ c.isDigit ∨ c = '-') (hne : c ≠ '-') :
    c.isLower ∨ c.isDigit := by
  rcases h with h | h | h
  · exact .inl h
  · exact .inr h
  · exact absurd h hne

/-- A text has the form of a name if its characters are those of names, and the first and the last
one are letters or digits. -/
theorem isFormed_iff {cs : List Char} : IsFormed cs ↔ (∀ c ∈ cs, c.isLower ∨ c.isDigit ∨ c = '-') ∧
    (∃ c, cs.head? = some c ∧ (c.isLower ∨ c.isDigit)) ∧
    ∃ c, cs.getLast? = some c ∧ (c.isLower ∨ c.isDigit) := by
  constructor
  · intro h
    have hends (c : Char) (hc : c ∈ cs) (hne : c ≠ '-') : c.isLower ∨ c.isDigit :=
      isAlphanumeric_of_ne (h.characters c hc) hne
    refine ⟨h.characters, ?_, ?_⟩
    · have hfirst := List.head?_eq_some_head h.nonempty
      refine ⟨_, hfirst, hends _ (List.head_mem _) fun hhyphen => h.first ?_⟩
      rw [hfirst, hhyphen]
    · have hlast := List.getLast?_eq_some_getLast h.nonempty
      refine ⟨_, hlast, hends _ (List.getLast_mem _) fun hhyphen => h.last ?_⟩
      rw [hlast, hhyphen]
  · rintro ⟨hall, ⟨first, hfirst, hf⟩, last, hlast, hl⟩
    refine ⟨?_, hall, ?_, ?_⟩
    · rintro rfl
      cases hfirst
    · rw [hfirst]
      rintro ⟨⟩
      exact absurd hf (by decide)
    · rw [hlast]
      rintro ⟨⟩
      exact absurd hl (by decide)

section Pattern

open RegularExpression

/-- Any one of these characters. -/
def oneOf (cs : List Char) : RegularExpression Char := (cs.map char).sum

/-- The lower case letters and the digits of ASCII. -/
def alphanumerics : List Char := "abcdefghijklmnopqrstuvwxyz0123456789".toList

/-- One letter or digit, or two with letters, digits and hyphens between them. -/
def pattern : RegularExpression Char :=
  oneOf alphanumerics * (1 + star (oneOf ('-' :: alphanumerics)) * oneOf alphanumerics)

/-- The expression takes the whole text, or all of it but one line break at its end. -/
def Anchored (r : RegularExpression Char) (cs : List Char) : Prop :=
  ∃ taken ∈ r.matches', cs = taken ∨ cs = taken ++ ['\n']

theorem mem_alphanumerics {c : Char} : c ∈ alphanumerics ↔ c.isLower ∨ c.isDigit := by
  constructor
  · intro h
    have hall : alphanumerics.all isAlphanumeric = true := by decide +kernel
    exact isAlphanumeric_iff.1 (List.all_eq_true.1 hall c h)
  · intro h
    have hall : ∀ n < 123, (Char.ofNat n).isLower ∨ (Char.ofNat n).isDigit →
        Char.ofNat n ∈ alphanumerics := by decide +kernel
    have hsmall : c.toNat < 123 := by
      rw [← isAlphanumeric_iff] at h
      simp only [isAlphanumeric, Bool.or_eq_true, Bool.and_eq_true, decide_eq_true_eq,
        Char.le_def, UInt32.le_iff_toNat_le] at h
      have hz : 'z'.val.toNat = 122 := rfl
      have hnine : '9'.val.toNat = 57 := rfl
      change c.val.toNat < 123
      omega
    rw [← Char.ofNat_toNat c] at h ⊢
    exact hall c.toNat hsmall h

theorem mem_oneOf {cs word : List Char} : word ∈ (oneOf cs).matches' ↔ ∃ c ∈ cs, word = [c] := by
  induction cs with
  | nil => simp [oneOf]
  | cons c cs ih =>
    have hcons : word ∈ (oneOf (c :: cs)).matches' ↔ word = [c] ∨ word ∈ (oneOf cs).matches' :=
      Iff.rfl
    rw [hcons, ih]
    simp

theorem mem_star_oneOf {cs word : List Char} :
    word ∈ (star (oneOf cs)).matches' ↔ ∀ c ∈ word, c ∈ cs := by
  rw [matches'_star, Language.mem_kstar]
  constructor
  · rintro ⟨parts, rfl, hparts⟩ c hc
    obtain ⟨part, hpart, hc⟩ := List.mem_flatten.1 hc
    obtain ⟨d, hd, rfl⟩ := mem_oneOf.1 (hparts part hpart)
    rwa [List.mem_singleton.1 hc]
  · intro h
    refine ⟨word.map fun c => [c], (List.flatMap_singleton' word).symm, ?_⟩
    intro part hpart
    obtain ⟨c, hc, rfl⟩ := List.mem_map.1 hpart
    exact mem_oneOf.2 ⟨c, h c hc, rfl⟩

/-- The texts of the expression begin with a letter or digit, and what follows, if anything, ends
with one. -/
theorem mem_pattern {word : List Char} : word ∈ pattern.matches' ↔
    ∃ c ∈ alphanumerics, ∃ rest, word = c :: rest ∧ (rest = [] ∨
      ∃ between d, rest = between ++ [d] ∧ d ∈ alphanumerics ∧
        ∀ e ∈ between, e ∈ '-' :: alphanumerics) := by
  simp only [pattern, matches'_mul, matches'_add, matches'_epsilon, Language.mem_mul,
    Language.mem_add, Language.mem_one, mem_oneOf, mem_star_oneOf]
  constructor
  · rintro ⟨_, ⟨c, hc, rfl⟩, rest, hrest, rfl⟩
    refine ⟨c, hc, rest, rfl, ?_⟩
    rcases hrest with hnil | ⟨between, hbetween, _, ⟨d, hd, rfl⟩, rfl⟩
    · exact .inl hnil
    · exact .inr ⟨between, d, rfl, hd, hbetween⟩
  · rintro ⟨c, hc, rest, rfl, hrest⟩
    refine ⟨[c], ⟨c, hc, rfl⟩, rest, ?_, rfl⟩
    rcases hrest with hnil | ⟨between, d, rfl, hd, hbetween⟩
    · exact .inl hnil
    · exact .inr ⟨between, hbetween, [d], ⟨d, hd, rfl⟩, rfl⟩

theorem mem_nameChars {c : Char} :
    c ∈ '-' :: alphanumerics ↔ c.isLower ∨ c.isDigit ∨ c = '-' := by
  rw [List.mem_cons, mem_alphanumerics, or_comm, or_assoc]

/-- The expression stands for the form of names. -/
theorem mem_pattern_iff {cs : List Char} : cs ∈ pattern.matches' ↔ IsFormed cs := by
  constructor
  · intro h
    obtain ⟨c, hc, rest, rfl, hrest⟩ := mem_pattern.1 h
    have hstart := mem_nameChars.1 (List.mem_cons_of_mem '-' hc)
    rw [mem_alphanumerics] at hc
    rw [isFormed_iff]
    rcases hrest with rfl | ⟨between, d, rfl, hd, hbetween⟩
    · exact ⟨by simpa using hstart, ⟨c, rfl, hc⟩, c, rfl, hc⟩
    · have hend := mem_nameChars.1 (List.mem_cons_of_mem '-' hd)
      refine ⟨?_, ⟨c, rfl, hc⟩, d, ?_, mem_alphanumerics.1 hd⟩
      · rw [List.forall_mem_cons, List.forall_mem_append, List.forall_mem_singleton]
        exact ⟨hstart, fun e he => mem_nameChars.1 (hbetween e he), hend⟩
      · rw [← List.cons_append, List.getLast?_concat]
  · intro h
    obtain ⟨hall, ⟨c, hfirst, hc⟩, d, hlast, hd⟩ := isFormed_iff.1 h
    obtain ⟨rest, rfl⟩ := List.head?_eq_some_iff.1 hfirst
    refine mem_pattern.2 ⟨c, mem_alphanumerics.2 hc, rest, rfl, ?_⟩
    rcases List.eq_nil_or_concat' rest with hnil | ⟨between, e, rfl⟩
    · exact .inl hnil
    · rw [← List.cons_append, List.getLast?_concat] at hlast
      obtain rfl := Option.some.inj hlast
      refine .inr ⟨between, e, rfl, mem_alphanumerics.2 hd, fun b hb => mem_nameChars.2 (hall b ?_)⟩
      simp [hb]

end Pattern

section Acceptance

variable {cs : List Char}

theorem hasForm_iff : hasForm cs = true ↔ IsFormed cs := by
  simp [hasForm, isFormed_iff, isNameChar_iff, isAlphanumeric_iff, and_assoc, Option.any_eq_true]

/-- A name does not end with a line break. -/
theorem IsFormed.withoutFinalBreak_eq (h : IsFormed cs) : withoutFinalBreak cs = cs := by
  rw [withoutFinalBreak, if_neg]
  intro hbreak
  have hchar := h.characters _ (List.mem_of_getLast? hbreak)
  exact absurd hchar (by decide)

/-- A text has the form of a name up to a final line break if and only if the expression takes it
whole or up to there. -/
theorem hasForm_withoutFinalBreak_iff :
    hasForm (withoutFinalBreak cs) = true ↔ Anchored pattern cs := by
  rw [hasForm_iff]
  constructor
  · intro h
    refine ⟨withoutFinalBreak cs, mem_pattern_iff.2 h, ?_⟩
    unfold withoutFinalBreak
    split
    · rename_i hbreak
      exact .inr (List.dropLast_append_getLast? _ hbreak).symm
    · exact .inl rfl
  · rintro ⟨taken, htaken, rfl | rfl⟩
    · rw [mem_pattern_iff] at htaken
      rwa [htaken.withoutFinalBreak_eq]
    · rw [withoutFinalBreak, List.getLast?_concat, if_pos rfl, List.dropLast_concat]
      exact mem_pattern_iff.1 htaken

/-- Accepted are the texts of sixty-three characters at most that the expression takes. -/
theorem isAccepted_iff_anchored {name : String} : isAccepted name = true ↔
    name.toList.length ≤ 63 ∧ Anchored pattern name.toList := by
  rw [isAccepted, Bool.and_eq_true, hasForm_withoutFinalBreak_iff, decide_eq_true_iff]
  rfl

/-- Accepted are the names, and those with a line break behind them that are not too long for it. -/
theorem isAccepted_iff_name {name : String} :
    isAccepted name = true ↔ IsNameOrBroken 63 name := by
  rw [isAccepted_iff_anchored]
  constructor
  · rintro ⟨hfits, taken, htaken, hname | hname⟩
    · rw [mem_pattern_iff, ← hname] at htaken
      exact .inl ⟨htaken, by omega⟩
    · refine .inr ⟨String.ofList taken, ?_, ?_⟩
      · apply String.toList_injective
        simpa using hname
      · rw [mem_pattern_iff] at htaken
        rw [hname, List.length_append, List.length_singleton] at hfits
        refine ⟨by simpa using htaken, ?_⟩
        rw [String.toList_ofList]
        omega
  · rintro (h | ⟨stem, rfl, h⟩)
    · exact ⟨by have := h.fits; omega, name.toList, mem_pattern_iff.2 h.toIsFormed, .inl rfl⟩
    · refine ⟨?_, stem.toList, mem_pattern_iff.2 h.toIsFormed, .inr (by simp)⟩
      have hfits := h.fits
      rw [String.toList_append, List.length_append]
      change _ + 1 ≤ 63
      omega

end Acceptance

section Normalization

variable {cs : List Char} {limit : Int}

/-- The characters of names are in lower case already. -/
theorem lowered_of_isNameChar {c : Char} (h : isNameChar c = true) : lowered c = [c] := by
  have hall : ('-' :: alphanumerics).all (fun c => lowered c == [c]) = true := by decide +kernel
  exact eq_of_beq (List.all_eq_true.1 hall c (mem_nameChars.2 (isNameChar_iff.1 h)))

/-- What consists of characters of names is usable as it is. -/
theorem usable_eq_self (h : ∀ c ∈ cs, isNameChar c = true) : usable cs = cs := by
  have hlowered : cs.flatMap lowered = cs := by
    calc cs.flatMap lowered
      _ = cs.flatMap fun c => [c] :=
          List.flatMap_congr fun c hc => lowered_of_isNameChar (h c hc)
      _ = cs := List.flatMap_singleton' cs
  have hplain : ∀ c ∈ cs, (if c = '_' then '-' else c) = c := by
    intro c hc
    apply if_neg
    rintro rfl
    exact absurd (h _ hc) (by decide)
  rw [usable, hlowered, List.map_congr_left hplain, List.map_id', List.filter_eq_self]
  exact h

theorem dropHyphensRight_eq (cs : List Char) :
    dropHyphensRight cs = cs.rdropWhile (fun c => decide (c = '-')) := rfl

/-- Taking the hyphens off the end leaves a first part. -/
theorem prefix_dropHyphensRight (cs : List Char) : dropHyphensRight cs <+: cs := by
  rw [dropHyphensRight_eq]
  exact List.rdropWhile_prefix _ _

/-- A text of characters of names that does not begin with a hyphen has the form of a name once the
hyphens at its end are taken off. -/
theorem isFormed_dropHyphensRight (hne : cs ≠ []) (hall : ∀ c ∈ cs, isNameChar c = true)
    (hfirst : cs.head? ≠ some '-') : IsFormed (dropHyphensRight cs) := by
  have hpart := prefix_dropHyphensRight cs
  have hleft : dropHyphensRight cs ≠ [] := by
    rw [dropHyphensRight_eq, Ne, List.rdropWhile_eq_nil_iff]
    intro hhyphens
    have hhead := hhyphens _ (List.head_mem hne)
    rw [decide_eq_true_iff] at hhead
    rw [List.head?_eq_some_head hne, hhead] at hfirst
    exact hfirst rfl
  refine ⟨hleft, fun d hd => isNameChar_iff.1 (hall d (hpart.subset hd)), ?_, ?_⟩
  · rwa [List.head?_eq_some_head hleft, hpart.head hleft, ← List.head?_eq_some_head]
  · have hlast := List.rdropWhile_last_not (fun c => decide (c = '-')) cs hleft
    rw [List.getLast?_eq_some_getLast hleft]
    intro hhyphen
    exact hlast (decide_eq_true (Option.some.inj hhyphen))

theorem IsFormed.dropHyphensRight_eq_self (h : IsFormed cs) : dropHyphensRight cs = cs := by
  rw [dropHyphensRight_eq, List.rdropWhile_eq_self_iff]
  intro hne hhyphen
  rw [decide_eq_true_iff] at hhyphen
  exact h.last (by rw [List.getLast?_eq_some_getLast hne, hhyphen])

/-- What has the form of a name has no hyphens to take off. -/
theorem IsFormed.dropHyphens_eq_self (h : IsFormed cs) : dropHyphens cs = cs := by
  have hfront : cs.dropWhile (fun c => decide (c = '-')) = cs := by
    obtain ⟨c, rest, rfl⟩ := List.exists_cons_of_ne_nil h.nonempty
    have hc : c ≠ '-' := by simpa using h.first
    simp [hc]
  rw [dropHyphens, hfront, h.dropHyphensRight_eq_self]

/-- What is left of a text without the hyphens at its ends has the form of a name, or is nothing. -/
theorem isFormed_dropHyphens (hall : ∀ c ∈ cs, isNameChar c = true) :
    dropHyphens cs = [] ∨ IsFormed (dropHyphens cs) := by
  rw [dropHyphens]
  by_cases hne : cs.dropWhile (fun c => decide (c = '-')) = []
  · rw [hne]
    exact .inl rfl
  · refine .inr (isFormed_dropHyphensRight hne ?_ ?_)
    · exact fun c hc => hall c (List.dropWhile_sublist _ |>.subset hc)
    · intro hhyphen
      have hnot := List.head?_dropWhile_not (fun c => decide (c = '-')) cs
      rw [hhyphen] at hnot
      exact absurd hnot (by decide)

/-- A cut of a name is a name once the hyphens at its end are taken off. -/
theorem IsFormed.isName_cut (h : IsFormed cs) (hlimit : 0 < limit) :
    IsName limit (dropHyphensRight (cut limit cs)) := by
  have hcut : cut limit cs = cs.take limit.toNat := if_pos hlimit.le
  have hpos : limit.toNat ≠ 0 := by omega
  have hformed : IsFormed (dropHyphensRight (cs.take limit.toNat)) := by
    apply isFormed_dropHyphensRight
    · simpa [List.take_eq_nil_iff, hpos] using h.nonempty
    · exact fun c hc => isNameChar_iff.2 (h.characters c (List.mem_of_mem_take hc))
    · rw [List.head?_take, if_neg hpos]
      exact h.first
  refine ⟨hcut ▸ hformed, ?_⟩
  have hle := (prefix_dropHyphensRight (cs.take limit.toNat)).length_le
  rw [List.length_take] at hle
  rw [hcut]
  omega

/-- What is not empty needs no name to stand in for it. -/
theorem IsFormed.isEmpty_eq (h : IsFormed cs) : cs.isEmpty = false := by
  simpa using h.nonempty

/-- What is made of a text is a name that fits, if three characters do. -/
theorem isName_normalizedChars (hlimit : 3 ≤ limit) (cs : List Char) :
    IsName limit (normalizedChars limit cs) := by
  unfold normalizedChars
  dsimp only
  have husable (c : Char) (hc : c ∈ usable cs) : isNameChar c = true := isNameChar_of_mem_usable hc
  rcases isFormed_dropHyphens husable with hnil | hkept
  · have hshort : ¬limit < (([] : List Char).length : Int) := by simp; omega
    rw [hnil, if_neg hshort]
    exact ⟨hasForm_iff.1 (by decide), hlimit⟩
  · split
    · have hcut : IsName limit (dropHyphensRight (cut limit (dropHyphens (usable cs)))) :=
        hkept.isName_cut (by omega)
      rwa [hcut.isEmpty_eq]
    · rename_i hshort
      rw [hkept.isEmpty_eq]
      exact ⟨hkept, not_lt.1 hshort⟩

/-- A name that fits is left as it is. -/
theorem IsName.normalizedChars_eq_self (h : IsName limit cs) : normalizedChars limit cs = cs := by
  have husable : usable cs = cs := usable_eq_self fun c hc => isNameChar_iff.2 (h.characters c hc)
  unfold normalizedChars
  dsimp only
  rw [husable, h.dropHyphens_eq_self, if_neg (not_lt.2 h.fits), h.isEmpty_eq]
  rfl

/-- A name with a hyphen and some letters and digits behind it is a longer name. -/
theorem IsName.completed {suffix : List Char} (h : IsName limit cs) (hne : suffix ≠ [])
    (hall : ∀ c ∈ suffix, c.isLower ∨ c.isDigit) :
    IsName (limit + 1 + suffix.length) (cs ++ '-' :: suffix) := by
  have hlast := List.getLast_mem hne
  refine ⟨⟨by simp, ?_, ?_, ?_⟩, ?_⟩
  · rw [List.forall_mem_append, List.forall_mem_cons]
    exact ⟨h.characters, by decide, fun c hc => (hall c hc).elim .inl fun hd => .inr (.inl hd)⟩
  · rw [List.head?_append_of_ne_nil _ h.nonempty]
    exact h.first
  · rw [List.getLast?_append_of_ne_nil _ (List.cons_ne_nil _ _), List.getLast?_cons_of_ne_nil hne,
      List.getLast?_eq_some_getLast hne]
    intro hhyphen
    rw [Option.some.inj hhyphen] at hlast
    exact absurd (hall _ hlast) (by decide)
  · have hfits := h.fits
    rw [List.length_append, List.length_cons]
    omega

end Normalization

section Lowering

/-- What a character may be in lower case, where it stands. What is made of the characters that are
not told of cannot stand in a name. -/
inductive Lowers : Char → List Char → Prop where
  | kept {c : Char} (hkept : isNameChar c = true ∨ c = '_') : Lowers c [c]
  | capital {c : Char} (hcapital : 'A' ≤ c ∧ c ≤ 'Z') : Lowers c [Char.ofNat (c.toNat + 32)]
  | kelvin : Lowers '\u212a' ['k']
  | dotted : Lowers '\u0130' ['i', '\u0307']
  | other {c : Char} {cs : List Char} (hkept : ¬(isNameChar c = true ∨ c = '_'))
      (hcapital : ¬('A' ≤ c ∧ c ≤ 'Z')) (hkelvin : c ≠ '\u212a') (hdotted : c ≠ '\u0130')
      (hcs : ∀ d ∈ cs, ¬(isNameChar d = true ∨ d = '_')) : Lowers c cs

/-- What of these characters can stand in a name, hyphens for underscores. -/
def standing (cs : List Char) : List Char :=
  (cs.map fun c => if c = '_' then '-' else c).filter isNameChar

theorem standing_append (cs ds : List Char) : standing (cs ++ ds) = standing cs ++ standing ds := by
  rw [standing, List.map_append, List.filter_append]
  rfl

theorem usable_cons (c : Char) (cs : List Char) :
    usable (c :: cs) = standing (lowered c) ++ usable cs := by
  change standing ((c :: cs).flatMap lowered) = _
  rw [List.flatMap_cons, standing_append]
  rfl

theorem standing_eq_nil {cs : List Char} (h : ∀ c ∈ cs, ¬(isNameChar c = true ∨ c = '_')) :
    standing cs = [] := by
  rw [standing, List.filter_eq_nil_iff]
  intro d hd
  obtain ⟨c, hc, rfl⟩ := List.mem_map.1 hd
  obtain ⟨hchar, hunderscore⟩ := not_or.1 (h c hc)
  rwa [if_neg hunderscore]

theorem lowered_of_other {c : Char} (hcapital : ¬('A' ≤ c ∧ c ≤ 'Z')) (hkelvin : c ≠ '\u212a')
    (hdotted : c ≠ '\u0130') : lowered c = [c] := by
  have hnoKelvin : c.toNat ≠ 0x212a := fun h => hkelvin (Char.toNat_inj.1 h)
  have hnoDotted : c.toNat ≠ 0x130 := fun h => hdotted (Char.toNat_inj.1 h)
  rw [lowered, if_neg hcapital, if_neg hnoKelvin, if_neg hnoDotted]

theorem standing_of_lowers {c : Char} {cs : List Char} (h : Lowers c cs) :
    standing cs = standing (lowered c) := by
  cases h with
  | kept hkept =>
    rcases hkept with hchar | rfl
    · rw [lowered_of_isNameChar hchar]
    · rfl
  | capital hcapital => rw [lowered, if_pos hcapital]
  | kelvin => rfl
  | dotted => rfl
  | other hkept hcapital hkelvin hdotted hcs =>
    rw [lowered_of_other hcapital hkelvin hdotted, standing_eq_nil hcs,
      standing_eq_nil (by simpa using hkept)]

/-- However the case of the other characters is lowered, the same is usable of a text. -/
theorem usable_of_lowers {cs : List Char} {parts : List (List Char)}
    (h : List.Forall₂ Lowers cs parts) : standing parts.flatten = usable cs := by
  induction h with
  | nil => rfl
  | cons hc _ ih => rw [List.flatten_cons, standing_append, standing_of_lowers hc, ih, usable_cons]

end Lowering

theorem IsName.mono {limit limit' : Int} {cs : List Char} (h : IsName limit cs)
    (hle : limit ≤ limit') : IsName limit' cs :=
  ⟨h.toIsFormed, h.fits.trans hle⟩

theorem isName_normalized (text : String) {limit : Int} (hlimit : 3 ≤ limit) :
    IsName limit (normalized text limit).toList := by
  rw [normalized, String.toList_ofList]
  exact isName_normalizedChars hlimit text.toList

/-- A name is accepted if it is not too long. -/
theorem IsName.accepted {limit : Int} {name : String} (h : IsName limit name.toList)
    (hlimit : limit ≤ 63) : isAccepted name = true :=
  isAccepted_iff_name.2 (.inl (h.mono hlimit))

/-- A name that the server completes with as many letters and digits as it does is accepted. -/
theorem accepted_generateName (baseName : String) {suffix : String} (hlength : suffix.length = 5)
    (hall : ∀ c ∈ suffix.toList, c.isLower ∨ c.isDigit) :
    isAccepted (generateName baseName ++ suffix) = true := by
  have hne : suffix.toList ≠ [] := by
    intro hnil
    rw [← String.length_toList, hnil] at hlength
    cases hlength
  have hstem : IsName 57 (normalized baseName 57).toList := isName_normalized baseName (by decide)
  have hname := hstem.completed hne hall
  rw [String.length_toList, hlength] at hname
  have hchars : (generateName baseName ++ suffix).toList =
      (normalized baseName 57).toList ++ '-' :: suffix.toList := by
    change (normalized baseName 57 ++ "-" ++ suffix).toList = _
    simp
  rw [← hchars] at hname
  exact hname.accepted (by decide)

section Request

variable {τ ω : Type}

/-- A creation asks for nothing but namespaces whose names begin with the name made of its text. -/
theorem create_asksFor [Seconds τ] [Host τ ω] (client text : String) (labels : Labels)
    (timeout interval : τ) :
    (createThrough client text labels timeout interval : SiteM τ ω Record).Along
      (Site.Makes (Call.AsksFor (generateName text))) := by
  have hmade : Proc.MadeOf (Site.Work (Call.AsksFor (generateName text))) (fun _ => True)
      (createThrough client text labels timeout interval : SiteM τ ω Record) :=
    madeOf_create (fun _ _ => trivial) client text labels timeout interval (fun _ => rfl)
      (fun _ => trivial) fun _ => trivial
  exact Site.makes (Site.Step.ofWork hmade)

end Request

/-- What is made of a text is a name, and is left as it is when a name is made of it again. A name
that fits is accepted. So is the label that a framework gives to its namespace, and whatever the
server makes of the name that a creation asks it to complete. -/
theorem normalized_makes_names {τ ω : Type} [Seconds τ] [Host τ ω] (text : String) (limit : Int)
    (hlimit : 3 ≤ limit) :
    let name := normalized text limit
    name ≠ "" ∧ (name.length : Int) ≤ limit ∧
      (∀ c ∈ name.toList, c.isLower ∨ c.isDigit ∨ c = '-') ∧
      (∃ c, name.toList.head? = some c ∧ (c.isLower ∨ c.isDigit)) ∧
      (∃ c, name.toList.getLast? = some c ∧ (c.isLower ∨ c.isDigit)) ∧
      normalized name limit = name ∧ (limit ≤ 63 → isAccepted name = true) ∧
      Framework.ownerLabels text = [("e2e-framework", normalized text 63)] ∧
      (∀ label ∈ Framework.ownerLabels text, isAccepted label.2 = true) ∧
      generateName text = normalized text 57 ++ "-" ∧
      (∀ client labels (timeout interval : τ),
        (createThrough client text labels timeout interval : SiteM τ ω Record).Along
          (Site.Makes (Call.AsksFor (normalized text 57 ++ "-")))) ∧
      ∀ suffix : String, suffix.length = 5 → (∀ c ∈ suffix.toList, c.isLower ∨ c.isDigit) →
        isAccepted (generateName text ++ suffix) = true := by
  intro name
  have hname : IsName limit name.toList := isName_normalized text hlimit
  obtain ⟨hall, hfirst, hlast⟩ := isFormed_iff.1 hname.toIsFormed
  refine ⟨?_, ?_, hall, hfirst, hlast, ?_, hname.accepted, rfl, ?_, rfl, ?_, ?_⟩
  · intro hempty
    exact hname.nonempty (by rw [hempty]; rfl)
  · rw [← String.length_toList]
    exact hname.fits
  · rw [normalized, hname.normalizedChars_eq_self, String.ofList_toList]
  · intro label hlabel
    obtain rfl := List.mem_singleton.1 hlabel
    exact (isName_normalized text (by decide)).accepted le_rfl
  · exact fun client labels timeout interval => create_asksFor client text labels timeout interval
  · exact fun suffix hlength hsuffix => accepted_generateName text hlength hsuffix

/-- The Kelvin sign is a letter once its case is lowered. Four characters are too few for it, and
the cut before it lays two hyphens bare. -/
theorem normalized_makes_names_cut :
    (3 : Int) ≤ 4 ∧ normalized "-Ab__\u212aK" 4 = "ab" ∧ normalized "ab" 4 = "ab" ∧
      isAccepted "ab" = true ∧ Framework.ownerLabels "-Ab__\u212aK" = [("e2e-framework", "ab--kk")] ∧
      generateName "-Ab__\u212aK" = "ab--kk-" ∧
      isAccepted (generateName "-Ab__\u212aK" ++ "x7k2p") = true := by
  have hcut : normalized "-Ab__\u212aK" 4 = "ab" := by decide +kernel
  have hwhole : ∀ limit ∈ [(57 : Int), 63], normalized "-Ab__\u212aK" limit = "ab--kk" := by
    decide +kernel
  have hlimit : (3 : Int) ≤ 4 := by decide
  obtain ⟨-, -, -, -, -, hagain, haccepted, hlabels, -, hasked, -, hcompleted⟩ :=
    normalized_makes_names (τ := Rat) (ω := Scripted.World Rat) "-Ab__\u212aK" 4 hlimit
  rw [hcut] at hagain haccepted
  rw [hwhole 63 (by simp)] at hlabels
  rw [hwhole 57 (by simp)] at hasked
  have hsuffix : "x7k2p".toList.all isAlphanumeric = true := by decide +kernel
  exact ⟨hlimit, hcut, hagain, haccepted (by decide), hlabels, hasked,
    hcompleted "x7k2p" rfl fun c hc => isAlphanumeric_iff.1 (List.all_eq_true.1 hsuffix c hc)⟩

end Name

section Creation

open Proc Name

variable {τ ω : Type} [Seconds τ] [Host τ ω]

/-- A creation gives no record whose name is not accepted. -/
theorem create_accepts (client baseName : String) (labels : Labels) (timeout interval : τ)
    (s : Site τ ω) :
    Ends (createThrough client baseName labels timeout interval) s fun r _ =>
      ∀ record, r = .ok record → isAccepted record.name = true := by
  apply Ends.bind (ends_run (createWithin client baseName labels timeout interval) s)
  · intro record t _
    apply Ends.bind_ok (Site.log_ends _ _ _ t)
    intro t _
    apply Ends.ite
    · intro haccepted
      apply Ends.bind (ends_run (awaitActive client baseName record timeout interval) t)
      · rintro _ t _ _ ⟨⟩
        exact haccepted
      · rintro _ _ _ _ ⟨⟩
    · rintro _ _ ⟨⟩
  · rintro _ _ _ _ ⟨⟩

/-- Accepted are the texts of sixty-three characters at most that the expression takes, up to a line
break at their end: the names, and those of sixty-two characters at most with a line break behind
them. A creation gives no record with any other name. -/
theorem accepts_names_and_broken (name client baseName : String) (labels : Labels)
    (timeout interval : τ) (s : Site τ ω) :
    (isAccepted name = true ↔ name.toList.length ≤ 63 ∧ Anchored pattern name.toList) ∧
      (isAccepted name = true ↔ IsNameOrBroken 63 name) ∧
      Ends (createThrough client baseName labels timeout interval) s fun r _ =>
        ∀ record, r = .ok record → IsNameOrBroken 63 record.name := by
  refine ⟨isAccepted_iff_anchored, isAccepted_iff_name, ?_⟩
  apply (create_accepts client baseName labels timeout interval s).mono
  exact fun r _ haccepted record hrecord => isAccepted_iff_name.1 (haccepted record hrecord)

/-- A server that gives the first namespace this name. -/
def naming (name : String) : Scripted.World Rat :=
  .start 0 [("api.create_namespace", [⟨some 1, 0, .give (.table [("name", .text name)])⟩])] []

/-- How a creation on that server ends. -/
def creation (name : String) : Except (Fault Rat) Record :=
  ((createThrough "c" "web" [] 30 2).run (.start (naming name))).1

theorem accepts_names_and_broken_plain :
    (creation "web-x7k2p").toOption = some ⟨"web-x7k2p", [], none⟩ ∧
      IsNameOrBroken 63 "web-x7k2p" := by
  have hgiven : (creation "web-x7k2p").toOption = some ⟨"web-x7k2p", [], none⟩ := by decide +kernel
  obtain ⟨-, -, hends⟩ :=
    accepts_names_and_broken "" "c" "web" [] (30 : Rat) 2 (.start (naming "web-x7k2p"))
  refine ⟨hgiven, ?_⟩
  cases hcreation : creation "web-x7k2p" with
  | error e =>
    rw [hcreation] at hgiven
    cases hgiven
  | ok record =>
    rw [hcreation] at hgiven
    cases hgiven
    exact hends _ hcreation

/-- A line break behind a name goes unnoticed, also when the server gives such a name. -/
theorem final_break_unnoticed : isAccepted "ab\n" = true ∧ ¬IsName 63 "ab\n".toList ∧
    (creation "ab\n").toOption = some ⟨"ab\n", [], none⟩ := by
  refine ⟨by decide +kernel, ?_, by decide +kernel⟩
  intro hname
  exact absurd (hname.characters '\n' (by decide)) (by decide)

end Creation

end Testbed.Namespace
