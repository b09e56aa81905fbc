import Mathlib.Data.List.Nodup
import Testbed.Registry

/-!
# The journal of a registry, entry by entry

`Tells` replays a journal: an entry may come next if the registry permits it, and says what the
registry is after it. What is live can be told from the journal alone, since permitted entries keep
both in agreement; that is `Sound`.
-/

set_option autoImplicit false

namespace Testbed.Registry

variable {α ε : Type}

section Views

/-- The duties that were added. -/
def addedIn (es : List (Entry α ε)) : List (Nat × α) :=
  es.filterMap fun
    | .added h a => some (h, a)
    | _ => none

/-- The handles of the duties that were taken back. -/
def removedIn (es : List (Entry α ε)) : List Nat :=
  es.filterMap fun
    | .removed h => some h
    | _ => none

/-- The duties that drains have taken out. -/
def takenIn (es : List (Entry α ε)) : List (Nat × α) :=
  es.flatMap fun
    | .taken duties => duties
    | _ => []

/-- The duties that drains have begun to do. -/
def begunIn (es : List (Entry α ε)) : List (Nat × α) :=
  es.filterMap fun
    | .begun h a => some (h, a)
    | _ => none

/-- The duties that are live after a journal: those that were added, and neither taken back nor
taken out. -/
def liveAfter (es : List (Entry α ε)) : List (Nat × α) :=
  (addedIn es).filter fun e => e.1 ∉ removedIn es ∧ e.1 ∉ (takenIn es).map Prod.fst

@[simp] theorem addedIn_append (es es' : List (Entry α ε)) :
    addedIn (es ++ es') = addedIn es ++ addedIn es' := List.filterMap_append

@[simp] theorem removedIn_append (es es' : List (Entry α ε)) :
    removedIn (es ++ es') = removedIn es ++ removedIn es' := List.filterMap_append

@[simp] theorem takenIn_append (es es' : List (Entry α ε)) :
    takenIn (es ++ es') = takenIn es ++ takenIn es' := List.flatMap_append

@[simp] theorem begunIn_append (es es' : List (Entry α ε)) :
    begunIn (es ++ es') = begunIn es ++ begunIn es' := List.filterMap_append

theorem mem_begunIn {es : List (Entry α ε)} {e : Nat × α} :
    e ∈ begunIn es ↔ .begun e.1 e.2 ∈ es := by
  rw [begunIn, List.mem_filterMap]
  constructor
  · rintro ⟨entry, hmem, he⟩
    cases entry <;> cases he
    exact hmem
  · exact fun hmem => ⟨_, hmem, rfl⟩

theorem mem_takenIn {es : List (Entry α ε)} {e : Nat × α} :
    e ∈ takenIn es ↔ ∃ duties, .taken duties ∈ es ∧ e ∈ duties := by
  rw [takenIn, List.mem_flatMap]
  constructor
  · rintro ⟨entry, hmem, he⟩
    cases entry with
    | taken duties => exact ⟨duties, hmem, he⟩
    | added | removed | begun | ended => cases he
  · exact fun ⟨duties, hmem, he⟩ => ⟨_, hmem, he⟩

theorem liveAfter_sublist (es : List (Entry α ε)) : (liveAfter es).Sublist (addedIn es) :=
  List.filter_sublist

theorem mem_liveAfter {es : List (Entry α ε)} {e : Nat × α} : e ∈ liveAfter es ↔
    e ∈ addedIn es ∧ e.1 ∉ removedIn es ∧ e.1 ∉ (takenIn es).map Prod.fst := by
  rw [liveAfter, List.mem_filter, decide_eq_true_eq]

/-- A duty under a new handle is live from then on. -/
theorem liveAfter_added {es : List (Entry α ε)} {n : Nat} {a : α} (hremoved : n ∉ removedIn es)
    (htaken : n ∉ (takenIn es).map Prod.fst) :
    liveAfter (es ++ [.added n a]) = liveAfter es ++ [(n, a)] := by
  have added : addedIn (es ++ [.added n a]) = addedIn es ++ [(n, a)] := addedIn_append _ _
  have removed : removedIn (es ++ [.added n a]) = removedIn es := by simp [removedIn]
  have taken : takenIn (es ++ [.added n a]) = takenIn es := by simp [takenIn]
  have hnew : [(n, a)].filter (fun e => decide (e.1 ∉ removedIn es ∧
      e.1 ∉ (takenIn es).map Prod.fst)) = [(n, a)] := by
    apply List.filter_eq_self.2
    intro e he
    rw [List.mem_singleton] at he
    rw [he]
    exact decide_eq_true ⟨hremoved, htaken⟩
  rw [liveAfter, added, removed, taken, List.filter_append, hnew]
  rfl

theorem liveAfter_removed (es : List (Entry α ε)) (n : Nat) :
    liveAfter (es ++ [.removed n]) = (liveAfter es).filter fun e => e.1 != n := by
  have added : addedIn (es ++ [.removed n]) = addedIn es := by simp [addedIn]
  have removed : removedIn (es ++ [.removed n]) = removedIn es ++ [n] := removedIn_append _ _
  have taken : takenIn (es ++ [.removed n]) = takenIn es := by simp [takenIn]
  rw [liveAfter, liveAfter, added, removed, taken, List.filter_filter]
  apply List.filter_congr
  intro e _
  rw [Bool.eq_iff_iff]
  simp only [Bool.and_eq_true, bne_iff_ne, decide_eq_true_eq, List.mem_append,
    List.mem_singleton, not_or]
  constructor
  · exact fun ⟨⟨hold, hne⟩, htaken⟩ => ⟨hne, hold, htaken⟩
  · exact fun ⟨hne, hold, htaken⟩ => ⟨⟨hold, hne⟩, htaken⟩

/-- When all that is live is taken out, nothing is live. -/
theorem liveAfter_taken (es : List (Entry α ε)) :
    liveAfter (es ++ [.taken (liveAfter es).reverse]) = [] := by
  apply List.eq_nil_iff_forall_not_mem.2
  intro e he
  obtain ⟨hadded, hremoved, htaken⟩ := mem_liveAfter.1 he
  have hbefore : e ∈ liveAfter es := by
    refine mem_liveAfter.2 ⟨?_, ?_, ?_⟩
    · simpa [addedIn] using hadded
    · simpa [removedIn] using hremoved
    · intro hmem
      apply htaken
      rw [takenIn_append, List.map_append]
      exact List.mem_append_left _ hmem
  apply htaken
  apply List.mem_map_of_mem
  rw [takenIn_append]
  exact List.mem_append_right _ (by simpa [takenIn] using hbefore)

/-- An entry that neither adds duties nor takes any back or out. -/
theorem liveAfter_silent {es : List (Entry α ε)} {e : Entry α ε} (hadded : addedIn [e] = [])
    (hremoved : removedIn [e] = []) (htaken : takenIn [e] = []) :
    liveAfter (es ++ [e]) = liveAfter es := by
  rw [liveAfter, liveAfter, addedIn_append, removedIn_append, takenIn_append, hadded, hremoved,
    htaken, List.append_nil, List.append_nil, List.append_nil]

end Views

section Replay

/-- The registry after what an entry tells. -/
def replay (r : Registry α ε) : Entry α ε → Registry α ε
  | .added h a => ⟨h, r.live ++ [(h, a)], r.journal ++ [.added h a]⟩
  | .removed h => r.remove h
  | .taken duties => ⟨r.issued, [], r.journal ++ [.taken duties]⟩
  | .begun h a => r.note (.begun h a)
  | .ended h ending => r.note (.ended h ending)

@[simp] theorem journal_replay (r : Registry α ε) (e : Entry α ε) :
    (r.replay e).journal = r.journal ++ [e] := by
  cases e <;> rfl

/-- The entries that may come next in the journal of a registry. -/
def Permits (r : Registry α ε) : Entry α ε → Prop
  | .added h _ => h = r.issued + 1
  | .removed h => h ∈ r.live.map Prod.fst
  | .taken duties => duties = r.live.reverse
  | .begun _ _ => True
  | .ended _ _ => True

/-- The entries tell how the first registry has become the second one. -/
inductive Tells : List (Entry α ε) → Registry α ε → Registry α ε → Prop where
  | nil (r : Registry α ε) : Tells [] r r
  | cons {e : Entry α ε} {es : List (Entry α ε)} {r r' : Registry α ε} (permitted : r.Permits e)
      (rest : Tells es (r.replay e) r') : Tells (e :: es) r r'

theorem Tells.append {es es' : List (Entry α ε)} {r r' r'' : Registry α ε} (h : Tells es r r')
    (h' : Tells es' r' r'') : Tells (es ++ es') r r'' := by
  induction h with
  | nil => exact h'
  | cons permitted _ ih => exact .cons permitted (ih h')

theorem Tells.split {es es' : List (Entry α ε)} {r r' : Registry α ε}
    (h : Tells (es ++ es') r r') : ∃ m, Tells es r m ∧ Tells es' m r' := by
  induction es generalizing r with
  | nil => exact ⟨r, .nil r, h⟩
  | cons e es ih =>
    cases h with
    | cons permitted rest =>
      obtain ⟨m, hm, hm'⟩ := ih rest
      exact ⟨m, .cons permitted hm, hm'⟩

theorem Tells.journal {es : List (Entry α ε)} {r r' : Registry α ε} (h : Tells es r r') :
    r'.journal = r.journal ++ es := by
  induction h with
  | nil => exact (List.append_nil _).symm
  | cons _ _ ih => rw [ih, journal_replay, List.append_assoc, List.singleton_append]

/-- The journal agrees with the registry, and never speaks of a duty before it is added. -/
structure Sound (r : Registry α ε) : Prop where
  increasing : ((addedIn r.journal).map Prod.fst).Pairwise (· < ·)
  le_issued : ∀ e ∈ addedIn r.journal, e.1 ≤ r.issued
  removed : ∀ n ∈ removedIn r.journal, n ≤ r.issued
  taken : ∀ e ∈ takenIn r.journal, e ∈ addedIn r.journal
  takenOnce : ((takenIn r.journal).map Prod.fst).Nodup
  live : r.live = liveAfter r.journal

theorem sound_empty : (empty : Registry α ε).Sound := by
  refine ⟨?_, ?_, ?_, ?_, ?_, ?_⟩ <;> simp [empty, addedIn, removedIn, takenIn, liveAfter]

section

variable {r : Registry α ε} (h : r.Sound)

include h

theorem Sound.wellFormed : r.WellFormed := by
  unfold WellFormed
  rw [h.live]
  refine ⟨h.increasing.sublist ((liveAfter_sublist r.journal).map Prod.fst), ?_⟩
  exact fun e he => h.le_issued e ((liveAfter_sublist r.journal).mem he)

/-- An entry that changes nothing but the journal. -/
theorem Sound.note {e : Entry α ε} (hadded : addedIn [e] = []) (hremoved : removedIn [e] = [])
    (htaken : takenIn [e] = []) : (r.note e).Sound := by
  refine ⟨?_, ?_, ?_, ?_, ?_, h.live.trans (liveAfter_silent hadded hremoved htaken).symm⟩
  · simpa [Registry.note, hadded] using h.increasing
  · simpa [Registry.note, hadded] using h.le_issued
  · simpa [Registry.note, hremoved] using h.removed
  · simpa [Registry.note, hadded, htaken] using h.taken
  · simpa [Registry.note, htaken] using h.takenOnce

theorem Sound.add (a : α) : (r.replay (.added (r.issued + 1) a)).Sound := by
  have added : addedIn (r.replay (.added (r.issued + 1) a)).journal =
      addedIn r.journal ++ [(r.issued + 1, a)] := addedIn_append _ _
  have removed : removedIn (r.replay (.added (r.issued + 1) a)).journal = removedIn r.journal := by
    simp [removedIn]
  have taken : takenIn (r.replay (.added (r.issued + 1) a)).journal = takenIn r.journal := by
    simp [takenIn]
  refine ⟨?_, ?_, ?_, ?_, ?_, ?_⟩
  · rw [added, List.map_append, List.pairwise_append]
    refine ⟨h.increasing, List.pairwise_singleton _ _, ?_⟩
    intro n hn m hm
    obtain ⟨e, he, rfl⟩ := List.mem_map.1 hn
    have := h.le_issued e he
    simp only [List.map_cons, List.map_nil, List.mem_singleton] at hm
    omega
  · intro e he
    rw [added, List.mem_append, List.mem_singleton] at he
    rcases he with he | rfl
    · exact Nat.le_succ_of_le (h.le_issued e he)
    · exact Nat.le_refl _
  · rw [removed]
    exact fun n hn => Nat.le_succ_of_le (h.removed n hn)
  · rw [added, taken]
    exact fun e he => List.mem_append_left _ (h.taken e he)
  · rw [taken]
    exact h.takenOnce
  · -- The new handle is above all that were taken back or taken out.
    have hremoved : r.issued + 1 ∉ removedIn r.journal := by
      intro hmem
      have := h.removed _ hmem
      omega
    have htaken : r.issued + 1 ∉ (takenIn r.journal).map Prod.fst := by
      intro hmem
      obtain ⟨e, he, heq⟩ := List.mem_map.1 hmem
      have := h.le_issued e (h.taken e he)
      omega
    rw [journal_replay, liveAfter_added hremoved htaken, ← h.live]
    rfl

theorem Sound.remove {n : Nat} (hn : n ∈ r.live.map Prod.fst) : (r.remove n).Sound := by
  have added : addedIn (r.remove n).journal = addedIn r.journal := by
    simp [Registry.remove, addedIn]
  have removed : removedIn (r.remove n).journal = removedIn r.journal ++ [n] :=
    removedIn_append _ _
  have taken : takenIn (r.remove n).journal = takenIn r.journal := by
    simp [Registry.remove, takenIn]
  refine ⟨?_, ?_, ?_, ?_, ?_, ?_⟩
  · rw [added]
    exact h.increasing
  · rw [added]
    exact h.le_issued
  · intro m hm
    rw [removed, List.mem_append, List.mem_singleton] at hm
    rcases hm with hm | rfl
    · exact h.removed m hm
    · obtain ⟨e, he, rfl⟩ := List.mem_map.1 hn
      exact h.wellFormed.2 e he
  · rw [added, taken]
    exact h.taken
  · rw [taken]
    exact h.takenOnce
  · show r.live.filter (fun e => e.1 != n) = liveAfter (r.journal ++ [.removed n])
    rw [liveAfter_removed, h.live]

theorem Sound.take : (r.replay (.taken r.live.reverse)).Sound := by
  have added : addedIn (r.replay (.taken r.live.reverse)).journal = addedIn r.journal := by
    simp [addedIn]
  have removed : removedIn (r.replay (.taken r.live.reverse)).journal = removedIn r.journal := by
    simp [removedIn]
  have taken : takenIn (r.replay (.taken r.live.reverse)).journal =
      takenIn r.journal ++ r.live.reverse := by
    simp [takenIn]
  refine ⟨?_, ?_, ?_, ?_, ?_, ?_⟩
  · rw [added]
    exact h.increasing
  · rw [added]
    exact h.le_issued
  · rw [removed]
    exact h.removed
  · intro e he
    rw [taken, List.mem_append, List.mem_reverse] at he
    rw [added]
    rcases he with he | he
    · exact h.taken e he
    · rw [h.live] at he
      exact (liveAfter_sublist _).mem he
  · rw [taken, List.map_append, List.map_reverse]
    have hlive : (r.live.map Prod.fst).Nodup := h.wellFormed.1.imp Nat.ne_of_lt
    refine h.takenOnce.append (List.nodup_reverse.2 hlive) ?_
    intro n htaken hn
    obtain ⟨e, he, rfl⟩ := List.mem_map.1 (List.mem_reverse.1 hn)
    rw [h.live] at he
    exact (mem_liveAfter.1 he).2.2 htaken
  · rw [journal_replay, h.live, liveAfter_taken]
    rfl

/-- A permitted entry keeps journal and registry in agreement. -/
theorem Sound.step {e : Entry α ε} (hp : r.Permits e) : (r.replay e).Sound := by
  cases e with
  | added n a =>
    rw [Permits] at hp
    rw [hp]
    exact h.add a
  | removed n => exact h.remove hp
  | taken duties =>
    rw [Permits] at hp
    rw [hp]
    exact h.take
  | begun n a => exact h.note rfl rfl rfl
  | ended n ending => exact h.note rfl rfl rfl

/-- So does every list of entries that are permitted one after the other. -/
theorem Sound.tells {es : List (Entry α ε)} {r' : Registry α ε} (ht : Tells es r r') :
    r'.Sound := by
  induction ht with
  | nil => exact h
  | cons permitted _ ih => exact ih (h.step permitted)

/-- A handle stands for one duty only. -/
theorem Sound.taken_of_handle {e : Nat × α} (he : e ∈ addedIn r.journal)
    (htaken : e.1 ∈ (takenIn r.journal).map Prod.fst) : e ∈ takenIn r.journal := by
  obtain ⟨e', hmem, heq⟩ := List.mem_map.1 htaken
  have hnodup : ((addedIn r.journal).map Prod.fst).Nodup := h.increasing.imp Nat.ne_of_lt
  have hsame : e' = e := List.inj_on_of_nodup_map hnodup (h.taken e' hmem) he heq
  exact hsame ▸ hmem

end

/-- The journal of a registry that was empty agrees with the registry at the time of every entry. -/
theorem Tells.before {r : Registry α ε} {pre post : List (Entry α ε)} {e : Entry α ε}
    (h : Tells (pre ++ e :: post) empty r) :
    ∃ m : Registry α ε, m.Sound ∧ m.live = liveAfter pre ∧ m.Permits e := by
  obtain ⟨m, hpre, hpost⟩ := h.split
  have hsound : m.Sound := sound_empty.tells hpre
  have hjournal : m.journal = pre := hpre.journal
  cases hpost with
  | cons permitted _ => exact ⟨m, hsound, hjournal ▸ hsound.live, permitted⟩

end Replay

end Testbed.Registry
