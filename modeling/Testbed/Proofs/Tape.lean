import Testbed.Proofs.Costs

/-!
# Polls on a tape

How the evaluations of a condition come out, and how long each of them takes, stands on a tape that
has no end. A poll for a condition on a tape comes to its end by itself: its pauses add up to no
more than its timeout, and only its last evaluation may go on after its deadline.

Two polls on one tape that differ in their timeouts do not share their clock, since the earlier
deadline cuts a pause that the later one leaves whole. But a pause that is cut is followed by the
last evaluation. So both polls evaluate the condition at the same times until the poll with the
shorter timeout comes to its last evaluation, and what settles that poll settles the other one too.
-/

set_option autoImplicit false

namespace Testbed.Poll

open Proc

/-- How the evaluations of a condition come out and how long they take, in their order. -/
structure Tape where
  outcome : Nat → Except (Fault Rat) Bool
  took : Nat → Rat
  took_nonneg : ∀ n, 0 ≤ took n

namespace Tape

/-- A host that answers from a tape: its clock, and how often the condition was evaluated. -/
structure Player (tape : Tape) where
  clock : Rat
  evaluations : Nat

instance (tape : Tape) : Host Rat tape.Player where
  now := Player.clock
  sleep length w := { w with clock := w.clock + length }
  freshId w := ("", w)
  randomBits w := (0, w)
  reply c w :=
    match c with
    | .condition =>
      (tape.outcome w.evaluations, ⟨w.clock + tape.took w.evaluations, w.evaluations + 1⟩)
    | _ => (.error .notFound, w)

variable (tape : Tape) (p : Poll Rat) (absorbs : Fault Rat → Bool) (time : Rat)

/-- Evaluates the condition once. -/
def evaluate : SiteM Rat tape.Player Bool := Site.call .condition

/-- The beginning of the tape, at this time. -/
def start : Site Rat tape.Player := .start ⟨time, 0⟩

/-- The run of a poll that begins at this time, with the beginning of the tape. -/
def play : Except (Fault Rat) Unit × Site Rat tape.Player :=
  (p.hold absorbs tape.evaluate).run (tape.start time)

/-- How an evaluation that comes out so ends the poll, whatever the time is: the condition holds, or
there is a fault that is not absorbed. -/
def settled? : Except (Fault Rat) Bool → Option (Except (Fault Rat) Unit)
  | .ok true => some (.ok ())
  | .ok false => none
  | .error e => if absorbs e then none else some (.error e)

/-- The poll ends with the evaluation that has this number, counted from zero: as the evaluation
settles it, or else with its timeout. -/
structure EndsWith (k : Nat) : Prop where
  evaluations : (tape.play p absorbs time).2.world.evaluations = k + 1
  settled : ∀ r, settled? absorbs (tape.outcome k) = some r → (tape.play p absorbs time).1 = r
  late : settled? absorbs (tape.outcome k) = none →
    ∃ last, (tape.play p absorbs time).1 = .error (.pollTimeout p (k + 1) last)

/-- When the evaluation with this number begins, if no earlier one ends the poll. -/
def begins (n : Nat) : Rat := Host.now (p.begun tape.evaluate (tape.start time) n).world

variable {tape p absorbs time}

theorem evaluations_begun (n : Nat) :
    (p.begun tape.evaluate (tape.start time) n).world.evaluations = n := by
  induction n with
  | zero => rfl
  | succ n ih =>
    change (p.begun tape.evaluate (tape.start time) n).world.evaluations + 1 = n + 1
    rw [ih]

theorem outcome_evaluate (n : Nat) :
    p.outcome tape.evaluate (tape.start time) n = tape.outcome n := by
  change tape.outcome (p.begun tape.evaluate (tape.start time) n).world.evaluations = tape.outcome n
  rw [evaluations_begun]

theorem evaluations_ended (n : Nat) :
    (p.ended tape.evaluate (tape.start time) n).world.evaluations = n + 1 := by
  change (p.begun tape.evaluate (tape.start time) n).world.evaluations + 1 = n + 1
  rw [evaluations_begun]

theorem now_ended (n : Nat) :
    Host.now (p.ended tape.evaluate (tape.start time) n).world =
      tape.begins p time n + tape.took n := by
  change tape.begins p time n +
    tape.took (p.begun tape.evaluate (tape.start time) n).world.evaluations = _
  rw [evaluations_begun]

/-- A player keeps time. -/
theorem punctual : Punctual tape.Player where
  sleeps _ _ _ := rfl
  freshId _ := rfl
  reply c w := by
    cases c with
    | condition => exact le_add_of_nonneg_right (tape.took_nonneg w.evaluations)
    | _ => exact le_rfl

/-- An evaluation is the last one if it settles the poll, or ends at the deadline or later. -/
theorem decides_iff {n : Nat} : p.Decides absorbs tape.evaluate (tape.start time) n ↔
    settled? absorbs (tape.outcome n) ≠ none ∨
      time + p.timeout ≤ tape.begins p time n + tape.took n := by
  rw [Decides, outcome_evaluate, now_ended]
  change _ ∨ _ ∨ time + p.timeout ≤ _ ↔ _
  cases tape.outcome n with
  | ok holds => cases holds <;> simp [settled?]
  | error e => cases he : absorbs e <;> simp [settled?, he]

/-- A poll that ends as its answer says ends with the evaluation that its answer is about. -/
theorem endsWith_of_play {k : Nat} (h : tape.play p absorbs time =
    (p.answer absorbs tape.evaluate (tape.start time) k,
      p.ended tape.evaluate (tape.start time) k)) : tape.EndsWith p absorbs time k := by
  have hcount : (p.ended tape.evaluate (tape.start time) k).world.evaluations = k + 1 :=
    evaluations_ended k
  have hanswer : (tape.play p absorbs time).1 =
      (settled? absorbs (tape.outcome k)).getD (.error (.pollTimeout p (k + 1)
        (p.absorbed absorbs tape.evaluate (tape.start time) (k + 1)).getLast?)) := by
    rw [h, answer, outcome_evaluate]
    cases tape.outcome k with
    | ok holds => cases holds <;> rfl
    | error e => cases he : absorbs e <;> simp [settled?, he]
  constructor
  · rw [h]
    exact hcount
  · intro r hr
    rw [hanswer, hr, Option.getD_some]
  · intro hnone
    rw [hanswer, hnone, Option.getD_none]
    exact ⟨_, rfl⟩

section Run

variable (hbounds : InBounds p.timeout p.interval)

include hbounds

variable (tape absorbs time) in
/-- A poll runs up to the first evaluation that is the last one, however many more rounds it is
given, and sleeps no longer than its timeout. -/
theorem play_run : ∃ k,
    IsLeast {n | p.Decides absorbs tape.evaluate (tape.start time) n} k ∧ k ≤ p.intervals ∧
      tape.play p absorbs time = (p.answer absorbs tape.evaluate (tape.start time) k,
        p.ended tape.evaluate (tape.start time) k) ∧
      slept (p.ended tape.evaluate (tape.start time) k).events ≤ p.timeout ∧
      ∀ rounds > k, (lookUntil p absorbs (whether tape.evaluate) (time + p.timeout) rounds
          .start).run (tape.start time) =
        (p.await absorbs (whether tape.evaluate)).run (tape.start time) := by
  have hlook (s : Site Rat tape.Player) : Ends (whether tape.evaluate) s fun _ t =>
      s.Advances (Wait (fun _ => True) (fun _ => True) 1 0) t :=
    whether_advances (Site.call_advances (c := .condition) punctual trivial trivial s)
  have hforward (n : Nat) :
      Host.now (p.begun (whether tape.evaluate) (tape.start time) n).world ≤
        Host.now (p.ended (whether tape.evaluate) (tape.start time) n).world := (hlook _).1
  obtain ⟨k, hk, hrun⟩ := await_run absorbs hbounds punctual.sleeps hforward
  obtain ⟨n, hn, hlate⟩ := exists_late hbounds punctual.sleeps hforward
  obtain ⟨_, new, hnew, hwait⟩ :=
    (await_advances hbounds punctual.sleeps hlook absorbs (tape.start time)).of_run hrun
  refine ⟨k, isLeast_decides hk, (hk.2 fun _ _ => hlate).trans hn, hold_run hk hrun, ?_, ?_⟩
  · rw [ended_whether] at hnew
    rw [hnew]
    exact hwait.slept
  · intro rounds hrounds
    have hbefore (m : Nat) (hm : m < k) :
        ¬p.Stops absorbs (whether tape.evaluate) (tape.start time) m :=
      fun hstops => absurd (hk.2 hstops) (not_le.2 hm)
    have hmore := lookUntil_ends_at hk.1 rounds 0 (Nat.zero_le _) hbefore (by omega)
    rw [hrun]
    exact Prod.ext hmore.1 hmore.2

/-- Before the poll gives up, the next evaluation begins after one interval, or at the deadline. -/
theorem begins_succ {n : Nat} (hearly : tape.begins p time n + tape.took n < time + p.timeout) :
    tape.begins p time (n + 1) =
      min (tape.begins p time n + tape.took n + p.interval) (time + p.timeout) := by
  rw [← now_ended] at hearly ⊢
  exact now_begun_succ punctual.sleeps (pauseFrom_pos hbounds hearly)

variable {p' : Poll Rat} (hinterval : p'.interval = p.interval) (hlonger : p.timeout ≤ p'.timeout)

include hinterval hlonger

theorem inBounds_longer : InBounds p'.timeout p'.interval := by
  constructor
  · exact Rat.le_trans hbounds.timeout hlonger
  · rw [hinterval]
    exact hbounds.interval

/-- While evaluations come to their ends before the deadline, a poll with a later deadline makes
them at the same times: no pause before them was cut. -/
theorem begins_eq_of_early {n : Nat}
    (hearly : ∀ m ≤ n, tape.begins p time m + tape.took m < time + p.timeout) :
    tape.begins p' time n = tape.begins p time n := by
  have hbounds' := inBounds_longer hbounds hinterval hlonger
  induction n with
  | zero => rfl
  | succ n ih =>
    have hsame := ih fun m hm => hearly m (by omega)
    have hn := hearly n (by omega)
    have hnext := hearly (n + 1) le_rfl
    have htook := tape.took_nonneg (n + 1)
    have hwhole : tape.begins p time n + tape.took n + p.interval < time + p.timeout := by
      by_contra hcut
      rw [begins_succ hbounds hn, min_eq_right (not_lt.1 hcut)] at hnext
      linarith
    rw [begins_succ hbounds hn, begins_succ hbounds' (by rw [hsame]; linarith), hsame, hinterval,
      min_eq_left hwhole.le, min_eq_left (by linarith)]

/-- Evaluations that are not the last one of a poll are not the last one of a longer poll. -/
theorem not_decides_longer {k : Nat}
    (hbefore : ∀ m < k, ¬p.Decides absorbs tape.evaluate (tape.start time) m) (m : Nat)
    (hm : m < k) : ¬p'.Decides absorbs tape.evaluate (tape.start time) m := by
  have hopen (j : Nat) (hj : j < k) : settled? absorbs (tape.outcome j) = none ∧
      tape.begins p time j + tape.took j < time + p.timeout := by
    simpa [decides_iff] using hbefore j hj
  have hsame : tape.begins p' time m = tape.begins p time m :=
    begins_eq_of_early hbounds hinterval hlonger fun j hj => (hopen j (by omega)).2
  obtain ⟨hunsettled, hearly⟩ := hopen m hm
  rw [decides_iff, hsame]
  rintro (hsettled | hlate)
  · exact hsettled hunsettled
  · linarith

end Run

end Tape

open Tape

/-- A poll with a finite timeout that is within its bounds comes to its end, whatever is on the
tape: after as many evaluations as its timeout has whole or begun intervals, and one more, at most.
The number of its rounds does not matter to that. Its pauses add up to its timeout at most, and from
its begin to its end it takes no longer than its timeout and its last evaluation. -/
theorem hold_within_budget (tape : Tape) (p : Poll Rat) (absorbs : Fault Rat → Bool) (time : Rat)
    (hbounds : InBounds p.timeout p.interval) :
    ∃ k, tape.EndsWith p absorbs time k ∧ k + 1 ≤ (p.timeout / p.interval).ceil.toNat + 1 ∧
      (∀ rounds > k, (lookUntil p absorbs (whether tape.evaluate) (time + p.timeout) rounds
          .start).run (tape.start time) =
        (p.await absorbs (whether tape.evaluate)).run (tape.start time)) ∧
      slept (tape.play p absorbs time).2.events ≤ p.timeout ∧
      Host.now (tape.play p absorbs time).2.world - time ≤ p.timeout + tape.took k := by
  obtain ⟨k, hk, hintervals, hplay, hslept, hrounds⟩ := play_run tape absorbs time hbounds
  have hearly (m : Nat) (hm : m < k) :
      Host.now (p.ended tape.evaluate (tape.start time) m).world < time + p.timeout := by
    by_contra hlate
    exact absurd (hk.2 (.inr (.inr (not_lt.1 hlate)))) (not_le.2 hm)
  have hbegins : tape.begins p time k ≤ time + p.timeout :=
    now_begun_le hbounds punctual.sleeps hearly
  refine ⟨k, endsWith_of_play hplay, Nat.succ_le_succ hintervals, hrounds, ?_, ?_⟩
  · rw [hplay]
    exact hslept
  · rw [hplay, now_ended]
    linarith

/-- A tape on which each evaluation takes longer than the one before it. The first one fails, and
the one with this number, if it is a later one, finds that the condition holds. -/
def dragging (found : Nat) : Tape where
  outcome n := if n = 0 then .error (.plain .connection []) else .ok (n == found)
  took n := 3 / 2 * n
  took_nonneg n := mul_nonneg (by norm_num) n.cast_nonneg

/-- A poll that makes three evaluations on that tape, with its second pause cut. -/
def brief : Poll Rat := ⟨5, 2, "condition"⟩

theorem inBounds_brief : InBounds brief.timeout brief.interval :=
  ⟨by decide +kernel, by decide +kernel⟩

theorem hold_within_budget_dragging :
    let played := (dragging 9).play brief absorbsOrdinary 0
    InBounds brief.timeout brief.interval ∧ played.2.world.evaluations = 3 ∧
      (∃ last, played.1 = .error (.pollTimeout brief 3 last)) ∧ slept played.2.events ≤ 5 ∧
      Host.now played.2.world - 0 ≤ 5 + 3 := by
  intro played
  have hthree : played.2.world.evaluations = 3 := by decide +kernel
  obtain ⟨k, hend, -, -, hslept, hnow⟩ :=
    hold_within_budget (dragging 9) brief absorbsOrdinary 0 inBounds_brief
  obtain rfl : k = 2 := Nat.succ.inj (hend.evaluations.symm.trans hthree)
  refine ⟨inBounds_brief, hthree, hend.late rfl, hslept, ?_⟩
  have htook : (dragging 9).took 2 = 3 := by norm_num [dragging]
  rw [← htook]
  exact hnow

/-- A longer timeout never spoils a poll. On one tape, from one time and with one interval, a poll
that an evaluation settles is settled by the same evaluation and in the same way if its timeout is
longer, and it never makes fewer evaluations then. -/
theorem hold_longer (tape : Tape) (p p' : Poll Rat) (absorbs : Fault Rat → Bool) (time : Rat)
    (hbounds : InBounds p.timeout p.interval) (hinterval : p'.interval = p.interval)
    (hlonger : p.timeout ≤ p'.timeout) :
    ∃ k k', tape.EndsWith p absorbs time k ∧ tape.EndsWith p' absorbs time k' ∧ k ≤ k' ∧
      ∀ r, settled? absorbs (tape.outcome k) = some r →
        k' = k ∧ (tape.play p absorbs time).1 = r ∧ (tape.play p' absorbs time).1 = r := by
  have hbounds' := inBounds_longer hbounds hinterval hlonger
  obtain ⟨k, hk, -, hplay, -⟩ := play_run tape absorbs time hbounds
  obtain ⟨k', hk', -, hplay', -⟩ := play_run tape absorbs time hbounds'
  have hend := endsWith_of_play hplay
  have hend' := endsWith_of_play hplay'
  have hbefore (m : Nat) (hm : m < k) : ¬p.Decides absorbs tape.evaluate (tape.start time) m :=
    fun hdecides => absurd (hk.2 hdecides) (not_le.2 hm)
  have hle : k ≤ k' := by
    by_contra hlt
    exact not_decides_longer hbounds hinterval hlonger hbefore k' (not_le.1 hlt) hk'.1
  refine ⟨k, k', hend, hend', hle, ?_⟩
  intro r hr
  have hdecides : p'.Decides absorbs tape.evaluate (tape.start time) k :=
    decides_iff.2 (.inl (by simp [hr]))
  obtain rfl : k' = k := le_antisymm (hk'.2 hdecides) hle
  exact ⟨rfl, hend.settled r hr, hend'.settled r hr⟩

/-- The same poll with time for its second pause. -/
def patient : Poll Rat := { brief with timeout := 6 }

/-- The last evaluations of the two polls do not begin at the same time, and come out the same. -/
theorem hold_longer_dragging :
    let played := (dragging 2).play brief absorbsOrdinary 0
    let played' := (dragging 2).play patient absorbsOrdinary 0
    InBounds brief.timeout brief.interval ∧ patient.interval = brief.interval ∧
      brief.timeout ≤ patient.timeout ∧ played.2.world.evaluations = 3 ∧
      played'.2.world.evaluations = 3 ∧ Host.now played.2.world = 8 ∧
      Host.now played'.2.world = 17 / 2 ∧ played.1 = .ok () ∧ played'.1 = .ok () := by
  intro played played'
  have hthree : played.2.world.evaluations = 3 := by decide +kernel
  have hlonger : brief.timeout ≤ patient.timeout := by decide +kernel
  obtain ⟨k, k', hend, hend', -, hsettles⟩ :=
    hold_longer (dragging 2) brief patient absorbsOrdinary 0 inBounds_brief rfl hlonger
  obtain rfl : k = 2 := Nat.succ.inj (hend.evaluations.symm.trans hthree)
  obtain ⟨rfl, hplayed, hplayed'⟩ := hsettles (.ok ()) rfl
  exact ⟨inBounds_brief, rfl, hlonger, hthree, hend'.evaluations, by decide +kernel,
    by decide +kernel, hplayed, hplayed'⟩

end Testbed.Poll
