import Testbed.Namespace.Deletion
import Testbed.Proofs.Entries

/-!
# Counting what is left in a namespace

The kinds of resources that can be listed are listed one after the other. A kind whose listing the
server refuses does not count, and neither does one of which nothing is left; where two kinds have
one name, the later count stands. Any other fault of a listing ends the counting, and what was counted
before is lost. So the outcome is read off the replies to the listings alone.
-/

set_option autoImplicit false

namespace Testbed

open Proc

variable {τ ω : Type}

/-- Whether a fault is an answer of the server. -/
def Fault.isAnswer : Fault τ → Bool
  | .api .. => true
  | _ => false

namespace Namespace

/-- A kind of resource that was listed, and how that was answered. -/
abbrev Listing (τ : Type) : Type := Resource × Except (Fault τ) Nat

/-- The kinds of resources that can be listed: their names have no slash, and listing is among what
can be done with them. -/
def listable (resources : List Resource) : List Resource :=
  resources.filter fun r => '/' ∉ r.name.toList ∧ "list" ∈ r.verbs

theorem filter_isListable (resources : List Resource) :
    resources.filter Resource.isListable = listable resources := by
  apply List.filter_congr
  intro r _
  simp [Resource.isListable]

/-- The count of a listing, under its kind, unless there is none or it is zero. -/
def Listing.count? : Listing τ → Option (String × Nat)
  | (resource, .ok n) => if n = 0 then none else some (resource.kind, n)
  | (_, .error _) => none

/-- The fault of a listing that is no answer of the server. -/
def Listing.spoiling? : Listing τ → Option (Fault τ)
  | (_, .ok _) => none
  | (_, .error e) => if e.isAnswer then none else some e

/-- What was counted: for each kind, in the order of their names, the last count that is not zero. -/
structure Counted (listings : List (Listing τ)) (counts : List (String × Nat)) : Prop where
  ascending : (counts.map Prod.fst).Pairwise (· < ·)
  last : ∀ kind n, (kind, n) ∈ counts ↔
    lookupLast kind (listings.filterMap Listing.count?) = some n

/-- The listings leave no choice of what was counted. -/
theorem Counted.unique {listings : List (Listing τ)} {counts counts' : List (String × Nat)}
    (h : Counted listings counts) (h' : Counted listings counts') : counts = counts' := by
  have hsorted := List.pairwise_map.1 h.ascending
  have hsorted' := List.pairwise_map.1 h'.ascending
  have hdistinct {l : List (String × Nat)} (hl : l.Pairwise fun a b => a.1 < b.1) : l.Nodup :=
    hl.imp (by rintro a b hlt rfl; exact String.lt_irrefl _ hlt)
  apply List.Perm.eq_of_pairwise _ hsorted hsorted'
  · rw [List.perm_ext_iff_of_nodup (hdistinct hsorted) (hdistinct hsorted')]
    rintro ⟨kind, n⟩
    rw [h.last, h'.last]
  · intro a b _ _ hab hba
    exact absurd hba (String.lt_asymm hab)

/-- How a deletion that has timed out describes what is left. -/
def remainder [Seconds τ] (timeout : τ) (counts : List (String × Nat)) : String :=
  "namespace still present after " ++ Seconds.tenths timeout ++ "s" ++
    (if counts = [] then ""
    else "; remaining resources: " ++
      ", ".intercalate (counts.map fun c => c.1 ++ "=" ++ toString c.2))

/-- The counts of a table in the order of their kinds. -/
def inOrder (counts : List (String × Nat)) : List (String × Nat) :=
  counts.mergeSort fun a b => !decide (b.1 < a.1)

@[simp] theorem inOrder_nil : inOrder [] = [] := by simp [inOrder]

theorem inOrder_perm (counts : List (String × Nat)) : (inOrder counts).Perm counts :=
  List.mergeSort_perm _ _

theorem inOrder_sorted (counts : List (String × Nat)) :
    (inOrder counts).Pairwise fun a b => a.1 ≤ b.1 := by
  have horder (a b : String × Nat) : (!decide (b.1 < a.1)) = true ↔ a.1 ≤ b.1 := by
    rw [Bool.not_eq_true', decide_eq_false_iff_not, String.not_lt]
  apply (List.pairwise_mergeSort ?_ ?_ counts).imp fun {a b} => (horder a b).1
  · intro a b c hab hbc
    exact (horder a c).2 (String.le_trans ((horder a b).1 hab) ((horder b c).1 hbc))
  · intro a b
    rw [Bool.or_eq_true, horder, horder]
    exact String.le_total a.1 b.1

/-- A table of what was counted, in the order of its kinds. -/
theorem counted_inOrder (listings : List (Listing τ)) :
    Counted listings (inOrder (putEntries [] (listings.filterMap Listing.count?))) := by
  generalize hfound : listings.filterMap Listing.count? = found
  have hperm := inOrder_perm (putEntries [] found)
  have hdistinct := (hperm.map Prod.fst).nodup_iff.2 (nodup_keys_putEntries found)
  have hsorted := List.pairwise_map.2 (inOrder_sorted (putEntries [] found))
  constructor
  · exact (hdistinct.and hsorted).imp fun h => Std.lt_of_le_of_ne h.2 h.1
  · intro kind n
    rw [hperm.mem_iff, mem_putEntries, hfound]

/-- The counts of a table are described in the order of their kinds. -/
theorem stillPresent_eq [Seconds τ] (timeout : τ) (counts : List (String × Nat)) :
    stillPresent timeout counts = remainder timeout (inOrder counts) := by
  have hempty : inOrder counts = [] ↔ counts = [] := by
    rw [← List.length_eq_zero_iff, (inOrder_perm counts).length_eq, List.length_eq_zero_iff]
  unfold stillPresent remainder
  by_cases h : counts = []
  · rw [if_pos (hempty.2 h), if_pos (List.isEmpty_iff.2 h)]
  · rw [if_neg (mt hempty.1 h), if_neg (mt List.isEmpty_iff.1 h), countsText, inOrder]

section Counting

variable [Host τ ω]

/-- Lists the resources of a kind in a namespace. -/
abbrev listing (client : String) (resource : Resource) (name : String) : SiteM τ ω Nat :=
  Site.call (.listResource client resource name)

/-- The listings of these kinds of resources, one after the other. -/
def listings (client name : String) : List Resource → Site τ ω → List (Listing τ)
  | [], _ => []
  | resource :: rest, s =>
    (resource, ((listing client resource name).run s).1) ::
      listings client name rest ((listing client resource name).run s).2

/-- Counting the resources of a kind lists them once. -/
theorem run_countResource (client : String) (resource : Resource) (name : String) (s : Site τ ω) :
    (countResource client resource name).run s =
      (match ((listing client resource name).run s).1 with
      | .ok n => .ok n
      | .error e => if e.isAnswer then .ok 0 else .error e, ((listing client resource name).run s).2) := by
  rw [countResource, run_rescue]
  rcases (listing client resource name).run s with ⟨e | n, t⟩
  · cases e <;> rfl
  · rfl

/-- Counting ends with the first fault of a listing that is no answer of the server, and otherwise
with what was counted. -/
theorem countResources_outcome (client name : String) (resources : List Resource)
    (counts : List (String × Nat)) (s : Site τ ω) :
    ((countResources client name counts resources).run s).1 =
      match (listings client name (listable resources) s).findSome? Listing.spoiling? with
      | some e => .error e
      | none => .ok (putEntries counts
          ((listings client name (listable resources) s).filterMap Listing.count?)) := by
  rw [← filter_isListable]
  induction resources generalizing counts s with
  | nil => rfl
  | cons resource rest ih =>
    cases hlistable : resource.isListable with
    | false =>
      rw [List.filter_cons_of_neg (by simp [hlistable]), ← ih, countResources, hlistable]
      rfl
    | true =>
      rw [List.filter_cons_of_pos hlistable, countResources, if_pos hlistable, run_bind,
        run_countResource, listings]
      rcases (listing client resource name).run s with ⟨e | n, t⟩
      · cases he : e.isAnswer with
        | true =>
          simp [he, ih, List.filterMap_cons, Listing.spoiling?, Listing.count?]
        | false => simp [he, Listing.spoiling?]
      · by_cases hn : n = 0
        · simp [hn, ih, List.findSome?_cons, Listing.spoiling?, Listing.count?]
        · simp [hn, ih, List.findSome?_cons, Listing.spoiling?, Listing.count?,
            putEntries]

theorem findSome?_spoiling_eq_none {listings : List (Listing τ)} :
    listings.findSome? Listing.spoiling? = none ↔
      ∀ l ∈ listings, ∀ e, l.2 = .error e → e.isAnswer = true := by
  rw [List.findSome?_eq_none_iff]
  apply forall₂_congr
  rintro ⟨resource, e | n⟩ _
  · simp [Listing.spoiling?]
  · simp [Listing.spoiling?]

/-- Asks for the kinds of resources that the server knows. -/
abbrev discovery (client : String) : SiteM τ ω (List Resource) := Site.call (.discover client)

/-- What is left is counted if the kinds of resources are discovered. An ordinary fault of the
discovery leaves nothing to count. -/
theorem leftovers_outcome [Seconds τ] (client name : String) (s : Site τ ω) :
    ((leftovers client name).run s).1 =
      match (discovery client).run s with
      | (.ok resources, t) => ((countResources client name [] resources).run t).1
      | (.error e, _) => if e.isOrdinary then .ok [] else .error e := by
  rw [leftovers, run_bind, run_attempt]
  rcases (discovery client : SiteM τ ω (List Resource)).run s with ⟨e | resources, t⟩
  · dsimp only
    cases he : e.isOrdinary with
    | true => rfl
    | false => rfl
  · rfl

/-- What is left can be counted: only ordinary faults leave the discovery, and only answers of the
server the listings. -/
def Countable (client name : String) (s : Site τ ω) : Prop :=
  match (discovery client).run s with
  | (.ok resources, t) =>
    ∀ l ∈ listings client name (listable resources) t, ∀ e, l.2 = .error e → e.isAnswer = true
  | (.error e, _) => e.isOrdinary = true

theorem Countable.counts [Seconds τ] {client name : String} {s : Site τ ω}
    (h : Countable client name s) :
    ∃ counts, ((leftovers client name).run s).1 = .ok counts := by
  rw [leftovers_outcome]
  unfold Countable at h
  split at h
  · exact ⟨_, by rw [countResources_outcome, findSome?_spoiling_eq_none.2 h]⟩
  · exact ⟨_, if_pos h⟩

end Counting

end Namespace

end Testbed
