import Testbed.Diagnostics.Dump
import Testbed.Proofs.Waiting
import Testbed.Scripted.World

/-!
# What a dump writes to the log

What happened in a namespace is logged in the order of the instants at which it happened, and nothing
of it is lost: the order is a stable sort of the list that the server gives, whatever offsets the
times have. `InTime` says what such an order is, and leaves no choice of it. The dump asks the server
twice, and its log tells how far it came: nothing is logged before the first answer, and what happened
in the namespace is logged before its pods are asked for.
-/

set_option autoImplicit false

namespace Testbed.Diagnostics

open Proc

variable {τ ω : Type}

/-- The times that an occurrence may give, the most specific one first. -/
def Occurrence.times (o : Occurrence) : List (Option Timestamp) :=
  [o.lastSeen, o.seen, o.firstSeen, o.created]

/-- The time chosen for an occurrence: the first one that it gives. -/
def Occurrence.chosen (o : Occurrence) : Timestamp := (o.times.findSome? id).getD Timestamp.origin

theorem Occurrence.time_eq_chosen (o : Occurrence) : o.time = o.chosen := by
  obtain ⟨lastSeen, seen, firstSeen, created, _⟩ := o
  cases lastSeen <;> cases seen <;> cases firstSeen <;> cases created <;> rfl

/-- The instant at which an occurrence happened. -/
def Occurrence.instant (o : Occurrence) : Int := o.chosen.instant

/-- The second list has the occurrences of the first one in the order of their instants, those of one
instant in the order in which they were given. -/
structure InTime (given ordered : List Occurrence) : Prop where
  perm : ordered.Perm given
  ascending : ordered.Pairwise fun a b => a.instant ≤ b.instant
  stable : ∀ i, (ordered.filter fun o => o.instant = i) = given.filter fun o => o.instant = i

section InTime

variable {given ordered ordered' : List Occurrence}

/-- What comes first in time is of the least instant, and the first of that instant. -/
theorem InTime.head_eq {a b : Occurrence} (h : InTime given (a :: ordered))
    (h' : InTime given (b :: ordered')) : a = b := by
  have hperm : (a :: ordered).Perm (b :: ordered') := h.perm.trans h'.perm.symm
  have hab : a.instant ≤ b.instant := by
    rcases List.mem_cons.1 (hperm.mem_iff.2 (List.mem_cons_self ..)) with rfl | hb
    · exact Int.le_refl _
    · exact List.rel_of_pairwise_cons h.ascending hb
  have hba : b.instant ≤ a.instant := by
    rcases List.mem_cons.1 (hperm.mem_iff.1 (List.mem_cons_self ..)) with rfl | ha
    · exact Int.le_refl _
    · exact List.rel_of_pairwise_cons h'.ascending ha
  have hsame : b.instant = a.instant := Int.le_antisymm hba hab
  have hfilter := (h.stable a.instant).trans (h'.stable a.instant).symm
  simp only [List.filter_cons, hsame, decide_true, if_true] at hfilter
  exact (List.cons.inj hfilter).1

/-- There is one order in time. -/
theorem InTime.unique (h : InTime given ordered) (h' : InTime given ordered') :
    ordered = ordered' := by
  induction ordered generalizing given ordered' with
  | nil => exact (List.nil_perm.1 (h.perm.trans h'.perm.symm)).symm
  | cons a ordered ih =>
    cases ordered' with
    | nil => exact List.perm_nil.1 (h.perm.trans h'.perm.symm)
    | cons b ordered' =>
      obtain rfl := h.head_eq h'
      have hperm := (h.perm.trans h'.perm.symm).cons_inv
      have hrest : InTime ordered' ordered := by
        constructor
        · exact hperm
        · exact h.ascending.of_cons
        · intro i
          have hfilter := (h.stable i).trans (h'.stable i).symm
          by_cases hi : a.instant = i
          · simpa [List.filter_cons, hi] using hfilter
          · simpa [List.filter_cons, hi] using hfilter
      have hself : InTime ordered' ordered' :=
        ⟨List.Perm.refl _, h'.ascending.of_cons, fun _ => rfl⟩
      rw [ih hrest hself]

/-- Occurrences whose times all know their offsets are put in the order of time. -/
theorem inOrder_inTime (haware : ∀ o ∈ given, o.chosen.isAware = true) :
    ∃ ordered, inOrder given = (.ok ordered : Except (Fault τ) _) ∧ InTime given ordered := by
  have hunaware : (given.any fun o => !o.time.isAware) = false := by
    rw [List.any_eq_false]
    intro o ho
    simp [o.time_eq_chosen, haware o ho]
  let before (a b : Occurrence) : Bool := decide (a.time.instant ≤ b.time.instant)
  have hbefore (a b : Occurrence) : before a b = true ↔ a.instant ≤ b.instant := by
    simp [before, Occurrence.instant, Occurrence.time_eq_chosen]
  have htrans (a b c : Occurrence) (hab : before a b = true) (hbc : before b c = true) :
      before a c = true :=
    (hbefore a c).2 (Int.le_trans ((hbefore a b).1 hab) ((hbefore b c).1 hbc))
  have htotal (a b : Occurrence) : (before a b || before b a) = true := by
    rw [Bool.or_eq_true, hbefore, hbefore]
    exact Int.le_total a.instant b.instant
  refine ⟨given.mergeSort before, ?_, ?_⟩
  · simp [inOrder, hunaware, before]
  · have hperm : (given.mergeSort before).Perm given := List.mergeSort_perm given before
    constructor
    · exact hperm
    · exact (List.pairwise_mergeSort htrans htotal given).imp fun {a b} => (hbefore a b).1
    · intro i
      -- Those of one instant are in order already, so the sort leaves them in their order.
      have hsorted : (given.filter fun o => o.instant = i).Pairwise fun a b => before a b = true := by
        apply List.pairwise_of_forall_mem_list
        intro a ha b hb
        have hai := of_decide_eq_true (List.mem_filter.1 ha).2
        have hbi := of_decide_eq_true (List.mem_filter.1 hb).2
        rw [hbefore]
        omega
      have hsub := (List.sublist_mergeSort htrans htotal hsorted List.filter_sublist).filter
        fun o => o.instant = i
      rw [List.filter_filter] at hsub
      simp only [Bool.and_self] at hsub
      exact (hsub.eq_of_length (hperm.filter _).length_eq.symm).symm

end InTime

section Entries

/-- The entry that tells how many things of a kind there are. -/
def countEntry (name ns : String) (n : Nat) : LogEntry τ :=
  ⟨.info, name, [("namespace", .text ns), ("count", .count n)]⟩

/-- The entry of an occurrence. -/
def occurrenceEntry (ns : String) (o : Occurrence) : LogEntry τ :=
  ⟨.info, "diagnostics.event",
    [("namespace", .text ns), ("time", .text o.chosen.text), ("object", .text? (objectText o)),
      ("type", .text? o.type), ("reason", .text? o.reason), ("message", .text? o.message)]⟩

/-- The entry of a pod. -/
def podEntry (ns : String) (p : Pod.Remote) : LogEntry τ :=
  ⟨.info, "diagnostics.pod",
    [("namespace", .text ns), ("pod", .text? p.name), ("phase", .text? p.phase),
      ("node", .text? (p.node.bind id)), ("containers", .labels (containerStates p))]⟩

/-- What is logged of the occurrences in a namespace that are given, once they are in order. -/
def occurrenceLog (ns : String) (given ordered : List Occurrence) : List (Event τ) :=
  .log (countEntry "diagnostics.events" ns given.length) ::
    ordered.map fun o => .log (occurrenceEntry ns o)

/-- What is logged of the pods of a namespace, in this order. -/
def podLog (ns : String) (pods : List Pod.Remote) : List (Event τ) :=
  .log (countEntry "diagnostics.pods" ns pods.length) :: pods.map fun p => .log (podEntry ns p)

/-- Logging each item of a list adds the entries of all items, in the order of the list. -/
theorem forEach_log_ends {α : Type} {write : α → SiteM τ ω Unit} {entry : α → LogEntry τ}
    (hwrite : ∀ a s, Ends (write a) s fun r t =>
      r = .ok () ∧ t.world = s.world ∧ t.events = s.events ++ [.log (entry a)])
    (items : List α) (s : Site τ ω) :
    Ends (forEach write items) s fun r t =>
      r = .ok () ∧ t.world = s.world ∧ t.events = s.events ++ items.map fun a => .log (entry a) := by
  induction items generalizing s with
  | nil => exact ⟨rfl, rfl, (List.append_nil _).symm⟩
  | cons a rest ih =>
    apply Ends.bind_ok (hwrite a s)
    rintro t ⟨hworld, hevents⟩
    apply (ih t).mono
    rintro r u ⟨hok, hworld', hevents'⟩
    exact ⟨hok, hworld'.trans hworld, by simp [hevents', hevents]⟩

theorem logOccurrence_ends (ns : String) (o : Occurrence) (s : Site τ ω) :
    Ends (logOccurrence ns o) s fun r t =>
      r = .ok () ∧ t.world = s.world ∧ t.events = s.events ++ [.log (occurrenceEntry ns o)] := by
  rw [logOccurrence, o.time_eq_chosen]
  exact Site.log_ends _ _ _ s

theorem logPod_ends (ns : String) (p : Pod.Remote) (s : Site τ ω) :
    Ends (logPod ns p) s fun r t =>
      r = .ok () ∧ t.world = s.world ∧ t.events = s.events ++ [.log (podEntry ns p)] :=
  Site.log_ends _ _ _ s

end Entries

section Dump

variable [Host τ ω]

/-- What asking for the pods leaves: the question with its answer, and what is logged of the pods if
they are told. -/
def podPart (client ns : String) (w : ω) : List (Event τ) :=
  let pods := (Host.reply (.listPods client ns) w).1
  .exchange (Host.now w) (.listPods client ns) pods ::
    match pods with
    | .ok pods => podLog ns pods
    | .error _ => []

/-- How a dump ends, and what it leaves in the history, by the answers of the server to its two
questions. -/
structure Dumped (client ns : String) (s : Site τ ω) (ending : Except (Fault τ) Unit) (t : Site τ ω) :
    Prop where
  /-- What happened is not told: nothing is logged, and the pods are not asked for. -/
  untold : ∀ e, (Host.reply (.listOccurrences client ns) s.world).1 = .error e →
    ending = .error e ∧
      t.events = s.events ++ [.exchange (Host.now s.world) (.listOccurrences client ns) (.error e)]
  /-- What happened is logged in the order of time, and then come the pods, if they are told. -/
  told : ∀ given, (Host.reply (.listOccurrences client ns) s.world).1 = .ok given →
    (∀ o ∈ given, o.chosen.isAware = true) →
    let w := (Host.reply (.listOccurrences client ns) s.world).2
    (ending = (Host.reply (.listPods client ns) w).1.map fun _ => ()) ∧
      ∃ ordered, InTime given ordered ∧
        t.events = s.events ++
          .exchange (Host.now s.world) (.listOccurrences client ns) (.ok given) ::
            (occurrenceLog ns given ordered ++ podPart client ns w)

theorem dump_untold {client ns : String} {s : Site τ ω} {e : Fault τ}
    (huntold : (Host.reply (.listOccurrences client ns) s.world).1 = .error e) :
    Ends (dumpThrough client ns) s fun r t => r = .error e ∧
      t.events = s.events ++ [.exchange (Host.now s.world) (.listOccurrences client ns) (.error e)] := by
  apply Ends.bind (Site.call_ends (.listOccurrences client ns) s)
  · rintro given t ⟨hok, -, -⟩
    rw [huntold] at hok
    cases hok
  · rintro fault t ⟨herror, -, hevents⟩
    rw [huntold] at herror
    cases herror
    exact ⟨rfl, hevents⟩

/-- The pods are asked for, and logged as they are told. -/
theorem dumpPods_ends (client ns : String) (s : Site τ ω) :
    Ends (do
      let pods ← Site.call (.listPods client ns)
      Site.log .info "diagnostics.pods"
        [("namespace", .text ns), ("count", .count (pods.length : Int))]
      forEach (logPod ns) pods : SiteM τ ω Unit) s fun r t =>
        (r = (Host.reply (.listPods client ns) s.world).1.map fun _ => ()) ∧
          t.events = s.events ++ podPart client ns s.world := by
  unfold podPart
  apply Ends.bind (Site.call_ends (.listPods client ns) s)
  · rintro pods t ⟨hok, -, hevents⟩
    rw [← hok]
    apply Ends.bind_ok (Site.log_ends _ _ _ t)
    rintro u ⟨-, hcount⟩
    apply (forEach_log_ends (logPod_ends ns) pods u).mono
    rintro r v ⟨rfl, -, hpods⟩
    exact ⟨rfl, by simp [hpods, hcount, hevents, podLog, countEntry]⟩
  · rintro e t ⟨herror, -, hevents⟩
    rw [← herror]
    exact ⟨rfl, hevents⟩

theorem dump_told {client ns : String} {s : Site τ ω} {given ordered : List Occurrence}
    (htold : (Host.reply (.listOccurrences client ns) s.world).1 = .ok given)
    (horder : inOrder given = (.ok ordered : Except (Fault τ) _)) :
    Ends (dumpThrough client ns) s fun r t =>
      let w := (Host.reply (.listOccurrences client ns) s.world).2
      (r = (Host.reply (.listPods client ns) w).1.map fun _ => ()) ∧
        t.events = s.events ++
          .exchange (Host.now s.world) (.listOccurrences client ns) (.ok given) ::
            (occurrenceLog ns given ordered ++ podPart client ns w) := by
  have hcall : Ends (Site.call (.listOccurrences client ns)) s fun r t => r = .ok given ∧
      t.world = (Host.reply (.listOccurrences client ns) s.world).2 ∧
      t.events = s.events ++
        [.exchange (Host.now s.world) (.listOccurrences client ns) (.ok given)] := by
    rw [← htold]
    exact Site.call_ends (.listOccurrences client ns) s
  apply Ends.bind_ok hcall
  rintro t ⟨hworld, hevents⟩
  apply Ends.bind_ok (Site.log_ends _ _ _ t)
  rintro u ⟨hcountWorld, hcount⟩
  rw [horder]
  apply Ends.bind_ok (a := ordered) (P := fun v => v = u) ⟨rfl, rfl⟩
  rintro u rfl
  apply Ends.bind_ok (forEach_log_ends (logOccurrence_ends ns) ordered u)
  rintro v ⟨hlogWorld, hlog⟩
  apply (dumpPods_ends client ns v).mono
  rw [hlogWorld, hcountWorld, hworld]
  rintro r x ⟨hending, hpods⟩
  refine ⟨hending, ?_⟩
  rw [hpods, hlog, hcount, hevents]
  simp [occurrenceLog, countEntry]

/-- A dump logs all that the server tells of a namespace: what happened in it, in the order of time,
and then its pods, in the order in which they are told. -/
theorem dump_logs_in_time (client ns : String) (s : Site τ ω) : Ends (dumpThrough client ns) s (Dumped client ns s) := by
  constructor
  · intro e huntold
    exact dump_untold huntold
  · intro given htold haware w
    obtain ⟨ordered, horder, hintime⟩ := inOrder_inTime haware
    obtain ⟨hending, hevents⟩ := dump_told htold horder
    exact ⟨hending, ordered, hintime, hevents⟩

end Dump

section Offsets

open Scripted

/-- Nothing is known of it but its reason. -/
def timeless : Occurrence := ⟨none, none, none, none, none, none, some "Scheduled", none⟩

/-- It was last seen at five past twelve in universal time. -/
def late : Occurrence :=
  { timeless with lastSeen := some ⟨2026, 1, 1, 12, 5, 0, 0, some 0⟩, reason := some "Started" }

/-- It was seen at two in the afternoon, two hours east of universal time. -/
def east : Occurrence :=
  { timeless with seen := some ⟨2026, 1, 1, 14, 0, 0, 0, some 120⟩, reason := some "Pulling" }

/-- It was first seen at noon in universal time. -/
def noon : Occurrence :=
  { timeless with firstSeen := some ⟨2026, 1, 1, 12, 0, 0, 0, some 0⟩, reason := some "Pulled" }

/-- A world in which the server tells these occurrences and does not answer for the pods. -/
def eventful : World Rat :=
  .start 0
    [("api.list_events", [⟨some 1, 0, .give (.list
        [.table [("last_timestamp", .text "2026-01-01T12:05:00+00:00"), ("reason", .text "Started")],
          .table [("event_time", .text "2026-01-01T14:00:00+02:00"), ("reason", .text "Pulling")],
          .table [("first_timestamp", .text "2026-01-01T12:00:00+00:00"), ("reason", .text "Pulled")],
          .table [("reason", .text "Scheduled")]])⟩]),
      ("api.list_pods", [⟨some 1, 0, .raise (.plain .connection [])⟩])] []

/-- Those of one instant are in order as they were told, and the one without a time comes first. -/
theorem inTime_offsets : InTime [late, east, noon, timeless] [timeless, east, noon, late] := by
  have hinstants : timeless.instant = 0 ∧ east.instant = 63902865600000000 ∧
      noon.instant = 63902865600000000 ∧ late.instant = 63902865900000000 := by decide +kernel
  obtain ⟨htimeless, heast, hnoon, hlate⟩ := hinstants
  constructor
  · decide +kernel
  · simp [htimeless, heast, hnoon, hlate]
  · intro i
    by_cases hzero : 0 = i
    · subst hzero
      simp [htimeless, heast, hnoon, hlate]
    · by_cases hinstant : 63902865600000000 = i
      · subst hinstant
        simp [htimeless, heast, hnoon, hlate]
      · simp [List.filter_cons, htimeless, heast, hnoon, hlate, hzero, hinstant]

theorem dump_logs_in_time_offsets :
    (Host.reply (.listOccurrences "c" "web-1") eventful).1 = .ok [late, east, noon, timeless] ∧
      (∀ o ∈ [late, east, noon, timeless], o.chosen.isAware = true) ∧
      Ends (dumpThrough "c" "web-1") (.start eventful) fun ending t =>
        ending = .error (.plain .connection []) ∧ t.events =
          [.exchange 0 (.listOccurrences "c" "web-1") (.ok [late, east, noon, timeless]),
            .log (countEntry "diagnostics.events" "web-1" 4),
            .log (occurrenceEntry "web-1" timeless), .log (occurrenceEntry "web-1" east),
            .log (occurrenceEntry "web-1" noon), .log (occurrenceEntry "web-1" late),
            .exchange 0 (.listPods "c" "web-1") (.error (.plain .connection []))] := by
  have htold : (Host.reply (.listOccurrences "c" "web-1") eventful).1 =
      .ok [late, east, noon, timeless] := rfl
  have haware : ∀ o ∈ [late, east, noon, timeless], o.chosen.isAware = true := by decide +kernel
  refine ⟨htold, haware, ?_⟩
  obtain ⟨hending, ordered, hintime, hevents⟩ :=
    (dump_logs_in_time "c" "web-1" (.start eventful)).told _ htold haware
  obtain rfl := hintime.unique inTime_offsets
  let asked := (Host.reply (.listOccurrences "c" "web-1") eventful).2
  have hclock : Host.now asked = 0 := by decide +kernel
  have hpods : podPart "c" "web-1" asked =
      [.exchange 0 (.listPods "c" "web-1") (.error (.plain .connection []))] := by
    rw [← hclock]
    rfl
  refine ⟨hending, hevents.trans ?_⟩
  change _ :: (_ ++ podPart "c" "web-1" asked) = _
  rw [hpods]
  rfl

end Offsets

end Testbed.Diagnostics
