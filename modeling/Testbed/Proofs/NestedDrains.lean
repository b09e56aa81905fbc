import Testbed.Proofs.Journal

/-!
# Drains inside drains

A drain does the duties that it has taken out round by round, and what a duty itself does to the
registry, drains included, lies inside its round. `Calls` says this of a whole journal. Counting
along it how often a duty is taken out and how often begun shows that no duty is done twice, and
that those which a drain leaves undone are never done.
-/

set_option autoImplicit false

namespace Testbed.Registry

variable {α ε : Type} {stops : ε → Bool}

/-- One duty being done: what it did to the registry meanwhile, and how it ended. -/
structure Round (α ε : Type) where
  handle : Nat
  duty : α
  inner : List (Entry α ε)
  ending : ε

/-- The duty of a round under its handle. -/
def Round.what (round : Round α ε) : Nat × α := (round.handle, round.duty)

/-- What the journal tells of a round. -/
def Round.entries (round : Round α ε) : List (Entry α ε) :=
  .begun round.handle round.duty :: (round.inner ++ [.ended round.handle round.ending])

/-- A drain of these duties consists of these rounds: they come in the order of the duties, all but
the last one go on, and duties are left undone only behind one that stops the run. -/
structure Drains (stops : ε → Bool) (duties : List (Nat × α)) (rounds : List (Round α ε))
    (undone : List (Nat × α)) : Prop where
  order : duties = rounds.map Round.what ++ undone
  passed : ∀ round ∈ rounds.dropLast, stops round.ending = false
  cut : undone ≠ [] → ∃ round ∈ rounds.getLast?, stops round.ending = true

theorem drains_nil : Drains stops ([] : List (Nat × α)) [] [] :=
  ⟨rfl, List.forall_mem_nil _, fun h => (h rfl).elim⟩

theorem drains_stop {round : Round α ε} (h : stops round.ending = true) (rest : List (Nat × α)) :
    Drains stops (round.what :: rest) [round] rest :=
  ⟨rfl, List.forall_mem_nil _, fun _ => ⟨round, rfl, h⟩⟩

theorem Drains.cons {duties undone : List (Nat × α)} {rounds : List (Round α ε)}
    (h : Drains stops duties rounds undone) {round : Round α ε} (hr : stops round.ending = false) :
    Drains stops (round.what :: duties) (round :: rounds) undone := by
  refine ⟨?_, ?_, ?_⟩
  · rw [h.order]
    rfl
  · cases rounds with
    | nil => exact List.forall_mem_nil _
    | cons next rounds =>
      intro other hmem
      rw [List.dropLast_cons_of_ne_nil (List.cons_ne_nil _ _), List.mem_cons] at hmem
      rcases hmem with rfl | hmem
      · exact hr
      · exact h.passed other hmem
  · intro hundone
    obtain ⟨last, hlast, hstops⟩ := h.cut hundone
    refine ⟨last, ?_, hstops⟩
    rw [List.getLast?_cons, Option.mem_def.1 hlast]
    rfl

/-- The entries are those of calls that follow each other. A drain's come with all that its duties
call. -/
inductive Calls (stops : ε → Bool) : List (Entry α ε) → Prop where
  | nil : Calls stops []
  | add (h : Nat) (a : α) {es : List (Entry α ε)} (rest : Calls stops es) :
      Calls stops (.added h a :: es)
  | remove (h : Nat) {es : List (Entry α ε)} (rest : Calls stops es) :
      Calls stops (.removed h :: es)
  | drain {duties undone : List (Nat × α)} {rounds : List (Round α ε)} {es : List (Entry α ε)}
      (drains : Drains stops duties rounds undone)
      (inner : ∀ round ∈ rounds, Calls stops round.inner) (rest : Calls stops es) :
      Calls stops (.taken duties :: (rounds.flatMap Round.entries ++ es))

theorem Calls.append {es es' : List (Entry α ε)} (h : Calls stops es) (h' : Calls stops es') :
    Calls stops (es ++ es') := by
  induction h with
  | nil => exact h'
  | add n a _ ih => exact .add n a ih
  | remove n _ ih => exact .remove n ih
  | drain drains inner _ _ ih =>
    rw [List.cons_append, List.append_assoc]
    exact .drain drains inner ih

/-- How often the duty of a handle was taken out. -/
def takes (h : Nat) (es : List (Entry α ε)) : Nat := ((takenIn es).map Prod.fst).count h

/-- How often the duty of a handle was begun. -/
def begins (h : Nat) (es : List (Entry α ε)) : Nat := ((begunIn es).map Prod.fst).count h

@[simp] theorem takes_append (h : Nat) (es es' : List (Entry α ε)) :
    takes h (es ++ es') = takes h es + takes h es' := by
  simp [takes]

@[simp] theorem begins_append (h : Nat) (es es' : List (Entry α ε)) :
    begins h (es ++ es') = begins h es + begins h es' := by
  simp [begins]

/-- Rounds take what their duties take. -/
theorem takes_rounds (h : Nat) (rounds : List (Round α ε)) :
    takes h (rounds.flatMap Round.entries) = takes h (rounds.flatMap Round.inner) := by
  induction rounds with
  | nil => rfl
  | cons round rounds ih =>
    have hround : takes h round.entries = takes h round.inner := by
      simp [takes, takenIn, Round.entries]
    rw [List.flatMap_cons, List.flatMap_cons, takes_append, takes_append, hround, ih]

/-- Rounds begin their own duties and what those begin. -/
theorem begins_rounds (h : Nat) (rounds : List (Round α ε)) :
    begins h (rounds.flatMap Round.entries) =
      ((rounds.map Round.what).map Prod.fst).count h + begins h (rounds.flatMap Round.inner) := by
  induction rounds with
  | nil => rfl
  | cons round rounds ih =>
    have hround : begins h round.entries = [round.what.1].count h + begins h round.inner := by
      simp [begins, begunIn, Round.entries, Round.what, List.count_cons, Nat.add_comm]
    have hhandles : ((round :: rounds).map Round.what).map Prod.fst =
        [round.what.1] ++ (rounds.map Round.what).map Prod.fst := rfl
    rw [List.flatMap_cons, List.flatMap_cons, begins_append, begins_append, hround, ih, hhandles,
      List.count_append]
    omega

theorem begins_flatMap_le {h : Nat} {rounds : List (Round α ε)}
    (hle : ∀ round ∈ rounds, begins h round.inner ≤ takes h round.inner) :
    begins h (rounds.flatMap Round.inner) ≤ takes h (rounds.flatMap Round.inner) := by
  induction rounds with
  | nil => exact Nat.le_refl _
  | cons round rounds ih =>
    have hround := hle round (List.mem_cons_self ..)
    have hrest := ih fun other hmem => hle other (List.mem_cons_of_mem _ hmem)
    rw [List.flatMap_cons, begins_append, takes_append]
    omega

section

variable {duties undone : List (Nat × α)} {rounds : List (Round α ε)}

theorem takes_drain (h : Nat) (hd : Drains stops duties rounds undone) (es : List (Entry α ε)) :
    takes h (.taken duties :: (rounds.flatMap Round.entries ++ es)) =
      ((rounds.map Round.what).map Prod.fst).count h + (undone.map Prod.fst).count h +
        takes h (rounds.flatMap Round.inner) + takes h es := by
  rw [← List.singleton_append, takes_append, takes_append, takes_rounds]
  simp [takes, takenIn, hd.order]
  omega

theorem begins_drain (h : Nat) (es : List (Entry α ε)) :
    begins h (.taken duties :: (rounds.flatMap Round.entries ++ es)) =
      ((rounds.map Round.what).map Prod.fst).count h + begins h (rounds.flatMap Round.inner) +
        begins h es := by
  rw [← List.singleton_append, begins_append, begins_append, begins_rounds]
  simp [begins, begunIn]

end

/-- No duty is begun more often than it was taken out. -/
theorem Calls.begins_le_takes {es : List (Entry α ε)} (hc : Calls stops es) (h : Nat) :
    begins h es ≤ takes h es := by
  induction hc with
  | nil => exact Nat.le_refl _
  | add n a _ ih => simpa [begins, takes, begunIn, takenIn] using ih
  | remove n _ ih => simpa [begins, takes, begunIn, takenIn] using ih
  | drain drains _ _ hinner ih =>
    have := begins_flatMap_le hinner
    rw [takes_drain h drains, begins_drain]
    omega

/-- Behind this point of a journal the duties that were taken are done in rounds. Those that are
left undone were begun less often in the whole journal than taken out. -/
def DrainedIn (stops : ε → Bool) (es : List (Entry α ε)) (duties : List (Nat × α))
    (post : List (Entry α ε)) : Prop :=
  ∃ rounds undone rest, post = rounds.flatMap Round.entries ++ rest ∧
    Drains stops duties rounds undone ∧ ∀ e ∈ undone, begins e.1 es < takes e.1 es

theorem DrainedIn.mono {es es' : List (Entry α ε)} {duties : List (Nat × α)}
    {post : List (Entry α ε)} (h : DrainedIn stops es duties post)
    (hlt : ∀ n, begins n es < takes n es → begins n es' < takes n es') :
    DrainedIn stops es' duties post := by
  obtain ⟨rounds, undone, rest, hpost, hdrains, hundone⟩ := h
  exact ⟨rounds, undone, rest, hpost, hdrains, fun e he => hlt e.1 (hundone e he)⟩

theorem DrainedIn.append {es : List (Entry α ε)} {duties : List (Nat × α)}
    {post : List (Entry α ε)} (h : DrainedIn stops es duties post) (more : List (Entry α ε)) :
    DrainedIn stops es duties (post ++ more) := by
  obtain ⟨rounds, undone, rest, rfl, hdrains, hundone⟩ := h
  exact ⟨rounds, undone, rest ++ more, List.append_assoc .., hdrains, hundone⟩

/-- An element that stands in two lists one behind the other stands in one of them. -/
theorem mem_split_append {β : Type} {l l' pre post : List β} {x : β}
    (h : l ++ l' = pre ++ x :: post) :
    (∃ q, l = pre ++ x :: q ∧ post = q ++ l') ∨ ∃ p, pre = l ++ p ∧ l' = p ++ x :: post := by
  obtain ⟨p, hpre, hl'⟩ | ⟨q, hl, hpost⟩ := List.append_eq_append_iff.1 h
  · exact .inr ⟨p, hpre, hl'⟩
  · obtain ⟨rfl, hl'⟩ | ⟨q, rfl, htail⟩ := List.cons_eq_append_iff.1 hpost
    · exact .inr ⟨[], by rw [hl, List.append_nil, List.append_nil], hl'⟩
    · exact .inl ⟨q, hl, htail⟩

/-- A drain that is told in a round is told between its ends. -/
theorem split_round {round : Round α ε} {duties : List (Nat × α)} {pre post : List (Entry α ε)}
    (h : round.entries = pre ++ .taken duties :: post) :
    ∃ p q, round.inner = p ++ .taken duties :: q ∧
      post = q ++ [.ended round.handle round.ending] := by
  obtain ⟨_, hbegun⟩ | ⟨p, _, hrest⟩ := List.cons_eq_append_iff.1 h
  · cases hbegun
  · obtain ⟨q, hinner, hpost⟩ | ⟨p, _, hended⟩ := mem_split_append hrest
    · exact ⟨_, q, hinner, hpost⟩
    · obtain ⟨_, hended⟩ | ⟨_, _, hended⟩ := List.cons_eq_append_iff.1 hended
      · cases hended
      · exact (List.append_ne_nil_of_right_ne_nil _ (List.cons_ne_nil _ _) hended.symm).elim

/-- A drain that is told among rounds is told inside of one of them. -/
theorem split_rounds {rounds : List (Round α ε)} {duties : List (Nat × α)}
    {pre post : List (Entry α ε)}
    (h : rounds.flatMap Round.entries = pre ++ .taken duties :: post) :
    ∃ before round after p q more, rounds = before ++ round :: after ∧
      round.inner = p ++ .taken duties :: q ∧ post = q ++ more := by
  induction rounds generalizing pre with
  | nil => cases pre <;> cases h
  | cons round rounds ih =>
    rw [List.flatMap_cons] at h
    obtain ⟨q, hround, rfl⟩ | ⟨_, _, hrest⟩ := mem_split_append h
    · obtain ⟨p, q, hinner, rfl⟩ := split_round hround
      exact ⟨[], round, rounds, p, q, _, rfl, hinner, List.append_assoc ..⟩
    · obtain ⟨before, other, after, p, q, more, rfl, hinner, hpost⟩ := ih hrest
      exact ⟨round :: before, other, after, p, q, more, rfl, hinner, hpost⟩

/-- In rounds a duty is begun less often than taken out, if it is so in one of them. -/
theorem begins_lt_rounds {n : Nat} {before after : List (Round α ε)} {round : Round α ε}
    (hle : ∀ other ∈ before ++ round :: after, begins n other.inner ≤ takes n other.inner)
    (hlt : begins n round.inner < takes n round.inner) :
    begins n ((before ++ round :: after).flatMap Round.inner) <
      takes n ((before ++ round :: after).flatMap Round.inner) := by
  have hbefore : begins n (before.flatMap Round.inner) ≤ takes n (before.flatMap Round.inner) :=
    begins_flatMap_le fun other hmem => hle other (List.mem_append_left _ hmem)
  have hafter : begins n (after.flatMap Round.inner) ≤ takes n (after.flatMap Round.inner) :=
    begins_flatMap_le fun other hmem =>
      hle other (List.mem_append_right _ (List.mem_cons_of_mem _ hmem))
  rw [List.flatMap_append, List.flatMap_cons, begins_append, begins_append, takes_append,
    takes_append]
  omega

/-- Wherever a drain is told, however deep inside others, it does its duties in rounds. -/
theorem Calls.drainedIn {es : List (Entry α ε)} (hc : Calls stops es) {pre : List (Entry α ε)}
    {duties : List (Nat × α)} {post : List (Entry α ε)} (h : es = pre ++ .taken duties :: post) :
    DrainedIn stops es duties post := by
  induction hc generalizing pre duties post with
  | nil => cases pre <;> cases h
  | add n a _ ih =>
    obtain ⟨_, hadded⟩ | ⟨_, _, hrest⟩ := List.cons_eq_append_iff.1 h
    · cases hadded
    · exact (ih hrest).mono fun _ hlt => hlt
  | remove n _ ih =>
    obtain ⟨_, hremoved⟩ | ⟨_, _, hrest⟩ := List.cons_eq_append_iff.1 h
    · cases hremoved
    · exact (ih hrest).mono fun _ hlt => hlt
  | @drain own undone rounds es drains inner rest hinner ih =>
    have hrounds (n : Nat) : begins n (rounds.flatMap Round.inner) ≤
        takes n (rounds.flatMap Round.inner) :=
      begins_flatMap_le fun round hmem => (inner round hmem).begins_le_takes n
    have hrest (n : Nat) : begins n es ≤ takes n es := rest.begins_le_takes n
    obtain ⟨_, htaken⟩ | ⟨_, _, htail⟩ := List.cons_eq_append_iff.1 h
    · -- It is the first drain that is told.
      cases htaken
      refine ⟨rounds, undone, es, rfl, drains, ?_⟩
      intro e he
      have hcount : 0 < (undone.map Prod.fst).count e.1 :=
        List.count_pos_iff.2 (List.mem_map_of_mem he)
      have := hrounds e.1
      have := hrest e.1
      rw [takes_drain e.1 drains, begins_drain]
      omega
    · obtain ⟨q, hsplit, rfl⟩ | ⟨p, _, hes⟩ := mem_split_append htail
      · -- It is told inside a round of the first one.
        obtain ⟨before, round, after, p, q, more, rfl, hround, rfl⟩ := split_rounds hsplit
        have hmem : round ∈ before ++ round :: after :=
          List.mem_append_right _ (List.mem_cons_self ..)
        have hin := hinner round hmem hround
        rw [List.append_assoc]
        apply (hin.append _).mono
        intro n hlt
        have := begins_lt_rounds (fun other hother => (inner other hother).begins_le_takes n) hlt
        have := hrest n
        rw [takes_drain n drains, begins_drain]
        omega
      · -- It is told behind the first one.
        apply (ih hes).mono
        intro n hlt
        have := hrounds n
        rw [takes_drain n drains, begins_drain]
        omega

/-- What is begun was taken out. -/
theorem Calls.taken_of_begun {es : List (Entry α ε)} (hc : Calls stops es) {h : Nat} {a : α}
    (he : .begun h a ∈ es) : ∃ duties, .taken duties ∈ es ∧ (h, a) ∈ duties := by
  induction hc with
  | nil => cases he
  | add n a _ ih =>
    obtain ⟨duties, hmem, hin⟩ := ih (List.mem_of_ne_of_mem (by simp) he)
    exact ⟨duties, List.mem_cons_of_mem _ hmem, hin⟩
  | remove n _ ih =>
    obtain ⟨duties, hmem, hin⟩ := ih (List.mem_of_ne_of_mem (by simp) he)
    exact ⟨duties, List.mem_cons_of_mem _ hmem, hin⟩
  | @drain duties undone rounds es drains inner rest hinner ih =>
    have he := List.mem_of_ne_of_mem (by simp) he
    rcases List.mem_append.1 he with he | he
    · obtain ⟨round, hround, he⟩ := List.mem_flatMap.1 he
      rcases List.mem_cons.1 he with heq | he
      · refine ⟨duties, List.mem_cons_self .., ?_⟩
        cases heq
        rw [drains.order]
        exact List.mem_append_left _ (List.mem_map_of_mem hround)
      · have he := (List.mem_append.1 he).resolve_right (by simp)
        obtain ⟨others, hmem, hin⟩ := hinner round hround he
        refine ⟨others, List.mem_cons_of_mem _ (List.mem_append_left _ ?_), hin⟩
        refine List.mem_flatMap.2 ⟨round, hround, List.mem_cons_of_mem _ ?_⟩
        exact List.mem_append_left _ hmem
    · obtain ⟨others, hmem, hin⟩ := ih he
      exact ⟨others, List.mem_cons_of_mem _ (List.mem_append_right _ hmem), hin⟩

/-- A drain that was cut short has left the duty undone. -/
def LeftUndone (stops : ε → Bool) (es : List (Entry α ε)) (e : Nat × α) : Prop :=
  ∃ pre duties rounds undone rest,
    es = pre ++ .taken duties :: (rounds.flatMap Round.entries ++ rest) ∧
      Drains stops duties rounds undone ∧ e ∈ undone

/-- The law of a registry and its journal. -/
structure Lawful (stops : ε → Bool) (r : Registry α ε) : Prop where
  /-- Handles grow with every duty, so none stands for two duties. -/
  increasing : ((addedIn r.journal).map Prod.fst).Pairwise (· < ·)
  /-- Live are exactly the duties that were added, and neither taken back nor taken out. -/
  live : r.live = liveAfter r.journal
  /-- Only what is live is taken back. -/
  removed : ∀ {pre h post}, r.journal = pre ++ .removed h :: post →
    h ∈ (liveAfter pre).map Prod.fst
  /-- A drain takes out exactly what is live when it starts, the latest first. -/
  taken : ∀ {pre duties post}, r.journal = pre ++ .taken duties :: post →
    duties = (liveAfter pre).reverse ∧ (duties.map Prod.fst).Pairwise (· > ·)
  /-- A drain does what it has taken out in this order, up to a duty that stops the run. What it
  leaves undone behind that one is never done. -/
  drained : ∀ {pre duties post}, r.journal = pre ++ .taken duties :: post →
    ∃ rounds undone rest, post = rounds.flatMap Round.entries ++ rest ∧
      Drains stops duties rounds undone ∧
      ∀ e ∈ undone, e.1 ∉ (begunIn r.journal).map Prod.fst
  /-- No duty is done twice, and only what a drain has taken out is done. -/
  once : ((begunIn r.journal).map Prod.fst).Nodup
  begun : ∀ e ∈ begunIn r.journal, e ∈ takenIn r.journal
  /-- A duty that is neither live nor taken back was done, unless the drain that took it out was cut
  short before it. -/
  done : ∀ e ∈ addedIn r.journal, e ∈ r.live ∨ e.1 ∈ removedIn r.journal ∨
    e ∈ begunIn r.journal ∨ LeftUndone stops r.journal e

/-- A duty that was taken out is done, unless the drain is cut short. -/
theorem Calls.begun_or_undone {es : List (Entry α ε)} (hc : Calls stops es)
    {e : Nat × α} (he : e ∈ takenIn es) : e ∈ begunIn es ∨ LeftUndone stops es e := by
  obtain ⟨duties, hmem, hin⟩ := mem_takenIn.1 he
  obtain ⟨pre, post, hsplit⟩ := List.append_of_mem hmem
  obtain ⟨rounds, undone, rest, rfl, hdrains, _⟩ := hc.drainedIn hsplit
  rw [hdrains.order] at hin
  rcases List.mem_append.1 hin with hdone | hundone
  · left
    obtain ⟨round, hround, rfl⟩ := List.mem_map.1 hdone
    rw [mem_begunIn, hsplit]
    apply List.mem_append_right
    apply List.mem_cons_of_mem
    apply List.mem_append_left
    exact List.mem_flatMap.2 ⟨round, hround, List.mem_cons_self ..⟩
  · exact .inr ⟨pre, duties, rounds, undone, rest, hsplit, hdrains, hundone⟩

/-- A registry that was empty is lawful after calls that its journal tells. -/
theorem Tells.lawful {es : List (Entry α ε)} {r : Registry α ε}
    (ht : Tells es empty r) (hc : Calls stops es) : r.Lawful stops := by
  have hjournal : r.journal = es := ht.journal
  subst hjournal
  have hsound : r.Sound := sound_empty.tells ht
  have htakes (n : Nat) : takes n r.journal ≤ 1 :=
    List.nodup_iff_count_le_one.1 hsound.takenOnce n
  refine ⟨hsound.increasing, hsound.live, ?removed, ?taken, ?drained, ?once, ?begun, ?done⟩
  case removed =>
    intro pre h post heq
    rw [heq] at ht
    obtain ⟨m, _, hlive, hpermitted⟩ := ht.before
    rw [← hlive]
    exact hpermitted
  case taken =>
    intro pre duties post heq
    rw [heq] at ht
    obtain ⟨m, hm, hlive, hpermitted⟩ := ht.before
    rw [← hlive]
    refine ⟨hpermitted, ?_⟩
    rw [hpermitted]
    exact hm.wellFormed.descending
  case drained =>
    intro pre duties post heq
    obtain ⟨rounds, undone, rest, hpost, hdrains, hundone⟩ := hc.drainedIn heq
    refine ⟨rounds, undone, rest, hpost, hdrains, ?_⟩
    intro e he hbegun
    have := hundone e he
    have := htakes e.1
    have hpos : 0 < begins e.1 r.journal := List.count_pos_iff.2 hbegun
    omega
  case once =>
    refine List.nodup_iff_count_le_one.2 fun n => ?_
    exact Nat.le_trans (hc.begins_le_takes n) (htakes n)
  case begun =>
    intro e he
    exact mem_takenIn.2 (hc.taken_of_begun (mem_begunIn.1 he))
  case done =>
    intro e he
    by_cases hremoved : e.1 ∈ removedIn r.journal
    · exact .inr (.inl hremoved)
    by_cases htaken : e.1 ∈ (takenIn r.journal).map Prod.fst
    · exact .inr (.inr (hc.begun_or_undone (hsound.taken_of_handle he htaken)))
    · left
      rw [hsound.live]
      exact mem_liveAfter.2 ⟨he, hremoved, htaken⟩

end Testbed.Registry
