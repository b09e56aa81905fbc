import Mathlib.Data.List.Induction
import Testbed.Value.Basic

/-!
# Tables with named entries

A table that is filled entry by entry has its keys in the order in which they first came, each once,
and under each key the value that came last.
-/

set_option autoImplicit false

namespace Testbed

variable {α : Type} {entries added : List (String × α)} {key : String} {value : α}

/-- The latest entry is looked up first. -/
theorem lookupLast_concat (entries : List (String × α)) (e : String × α) (key : String) :
    lookupLast key (entries ++ [e]) = if e.1 = key then some e.2 else lookupLast key entries := by
  unfold lookupLast
  rw [List.reverse_append, List.reverse_singleton, List.singleton_append, List.find?_cons]
  by_cases h : e.1 = key
  · simp [h]
  · rw [if_neg h, beq_false_of_ne h]

theorem lookupLast_append (entries added : List (String × α)) (key : String) :
    lookupLast key (entries ++ added) = (lookupLast key added).or (lookupLast key entries) := by
  induction added using List.reverseRecOn with
  | nil => simp [lookupLast]
  | append_singleton added e ih =>
    rw [← List.append_assoc, lookupLast_concat, lookupLast_concat, ih]
    split <;> rfl

theorem lookupLast_eq_none : lookupLast key entries = none ↔ key ∉ entries.map Prod.fst := by
  unfold lookupLast
  rw [Option.map_eq_none_iff, List.find?_eq_none]
  simp only [List.mem_reverse, beq_iff_eq, List.mem_map, not_exists, not_and]

/-- A table that is made of one with distinct keys has what is made of the values there. -/
theorem lookupLast_filterMap {β : Type} {table : List (String × β)} (make : β → Option α)
    (key : String) (hkeys : (table.map Prod.fst).Nodup) :
    lookupLast key (table.filterMap fun e => (make e.2).map fun a => (e.1, a)) =
      (lookupLast key table).bind make := by
  induction table using List.reverseRecOn with
  | nil => rfl
  | append_singleton table e ih =>
    rw [List.map_append, List.map_singleton, List.nodup_append] at hkeys
    have hlast : lookupLast key ([e].filterMap fun e => (make e.2).map fun a => (e.1, a)) =
        if e.1 = key then make e.2 else none := by
      by_cases h : e.1 = key <;> cases hmake : make e.2 <;> simp [hmake, h, lookupLast]
    rw [List.filterMap_append, lookupLast_append, ih hkeys.1, hlast, lookupLast_concat]
    by_cases h : e.1 = key
    · -- No entry but the last has this key.
      have hnew : lookupLast key table = none :=
        lookupLast_eq_none.2 fun hold => hkeys.2.2 key hold e.1 (List.mem_singleton_self _) h.symm
      simp [h, hnew]
    · simp [h]

/-- Putting a key leaves the values of all others alone. -/
theorem lookupLast_putEntry_of_ne {k : String} (h : key ≠ k) :
    lookupLast k (putEntry entries key value) = lookupLast k entries := by
  have hmap : lookupLast k (entries.map fun e => if e.1 == key then (key, value) else e) =
      lookupLast k entries := by
    induction entries using List.reverseRecOn with
    | nil => rfl
    | append_singleton entries e ih =>
      rw [List.map_append, List.map_singleton, lookupLast_concat, lookupLast_concat, ih]
      by_cases he : e.1 = key <;> simp [he, h]
  unfold putEntry
  split
  · exact hmap
  · rw [lookupLast_concat, if_neg h]

/-- A key that is put keeps its place, or comes last. -/
theorem keys_putEntry (entries : List (String × α)) (key : String) (value : α) :
    (putEntry entries key value).map Prod.fst =
      if key ∈ entries.map Prod.fst then entries.map Prod.fst
      else entries.map Prod.fst ++ [key] := by
  have hany : (entries.any fun e => e.1 == key) = true ↔ key ∈ entries.map Prod.fst := by
    simp
  unfold putEntry
  by_cases hkey : key ∈ entries.map Prod.fst
  · rw [if_pos (hany.2 hkey), if_pos hkey, List.map_map]
    apply List.map_congr_left
    intro e _
    by_cases he : e.1 = key <;> simp [he]
  · rw [if_neg fun h => hkey (hany.1 h), if_neg hkey, List.map_append, List.map_singleton]

/-- What a table says of a key after one was put. -/
theorem mem_putEntry_iff {k : String} {v : α} :
    (k, v) ∈ putEntry entries key value ↔ if key = k then v = value else (k, v) ∈ entries := by
  split
  · rename_i hk
    subst hk
    constructor
    · intro h
      unfold putEntry at h
      split at h
      · obtain ⟨e, _, he⟩ := List.mem_map.1 h
        by_cases hkey : e.1 = key
        · simp only [hkey, beq_self_eq_true, if_true, Prod.mk.injEq] at he
          exact he.2.symm
        · rw [if_neg (by simpa using hkey)] at he
          rw [he] at hkey
          exact absurd rfl hkey
      · rename_i hnew
        rcases List.mem_append.1 h with h | h
        · exact absurd (List.any_eq_true.2 ⟨_, h, beq_self_eq_true key⟩) hnew
        · simpa using h
    · rintro rfl
      exact mem_putEntry entries key v
  · rename_i hk
    constructor
    · intro h
      rcases of_mem_putEntry h with h | h
      · exact h
      · rw [Prod.mk.injEq] at h
        exact absurd h.1.symm hk
    · intro h
      unfold putEntry
      split
      · refine List.mem_map.2 ⟨(k, v), h, ?_⟩
        rw [if_neg]
        simpa using Ne.symm hk
      · exact List.mem_append_left _ h

theorem putEntries_concat (entries added : List (String × α)) (e : String × α) :
    putEntries entries (added ++ [e]) = putEntry (putEntries entries added) e.1 e.2 := by
  unfold putEntries
  rw [List.foldl_append]
  rfl

/-- A table that is filled with distinct keys has all entries, in the order in which they came. -/
theorem putEntries_of_nodup (h : (added.map Prod.fst).Nodup) : putEntries [] added = added := by
  induction added using List.reverseRecOn with
  | nil => rfl
  | append_singleton added e ih =>
    rw [List.map_append, List.map_singleton, List.nodup_append] at h
    have hnew : (added.any fun old => old.1 == e.1) = false := by
      rw [List.any_eq_false]
      intro old hold hsame
      have hne := h.2.2 old.1 (List.mem_map_of_mem hold) e.1 (List.mem_singleton_self _)
      exact hne (eq_of_beq hsame)
    rw [putEntries_concat, ih h.1, putEntry, hnew, if_neg Bool.false_ne_true]

/-- What is put into a table wins over what was there. -/
theorem lookupLast_putEntries (entries added : List (String × α)) (key : String) :
    lookupLast key (putEntries entries added) =
      (lookupLast key added).or (lookupLast key entries) := by
  induction added using List.reverseRecOn with
  | nil => rfl
  | append_singleton added e ih =>
    rw [putEntries_concat, lookupLast_concat]
    by_cases h : e.1 = key
    · rw [if_pos h, ← h, lookupLast_putEntry, Option.some_or]
    · rw [if_neg h, lookupLast_putEntry_of_ne h, ih]

/-- The keys of a table come in the order in which they were first put, each once. -/
theorem keys_putEntries (added : List (String × α)) :
    (putEntries [] added).map Prod.fst = (added.map Prod.fst).eraseDups := by
  induction added using List.reverseRecOn with
  | nil => rfl
  | append_singleton added e ih =>
    rw [putEntries_concat, keys_putEntry, ih, List.map_append, List.eraseDups_append,
      List.map_singleton]
    by_cases h : e.1 ∈ added.map Prod.fst <;> simp [h, List.removeAll, List.eraseDups_cons]

/-- A table has under each key the value that was put last. -/
theorem mem_putEntries : (key, value) ∈ putEntries [] added ↔ lookupLast key added = some value := by
  induction added using List.reverseRecOn with
  | nil => simp [putEntries, lookupLast]
  | append_singleton added e ih =>
    rw [putEntries_concat, mem_putEntry_iff, lookupLast_concat]
    split
    · rw [Option.some_inj, eq_comm]
    · exact ih

/-- A table has one entry under each of its keys. -/
theorem nodup_keys_putEntries (added : List (String × α)) :
    ((putEntries [] added).map Prod.fst).Nodup := by
  induction added using List.reverseRecOn with
  | nil => exact List.nodup_nil
  | append_singleton added e ih =>
    rw [putEntries_concat, keys_putEntry]
    split
    · exact ih
    · rename_i hnew
      rw [List.nodup_append]
      refine ⟨ih, List.pairwise_singleton _ _, ?_⟩
      rintro kind hkind _ hnewest rfl
      exact hnew (List.mem_singleton.1 hnewest ▸ hkind)

end Testbed
