import Mathlib.Order.Bounds.Basic
import Testbed.Proofs.Grants

/-!
# The schedule of a poll

When a poll looks, and how long it pauses in between, is known before it is known how its looks
come out: each look begins when the pause after the one before it is over, and a pause is one
interval, cut at the deadline. So there is one schedule, without an end, and all that the outcomes
decide is at which look the poll stops: the first one that finds something, that a fault breaks, or
that ends at the deadline or later. In exact arithmetic the rounds that a poll is given suffice to
come to that look.
-/

set_option autoImplicit false

namespace Testbed

open Proc

theorem Seconds.least_eq_min (a b : Rat) : Seconds.least a b = min a b := by
  rw [min_comm, min_def_lt]
  rfl

namespace Poll

variable {ω α β : Type} [Host Rat ω]

section Schedule

variable (p : Poll Rat) (look : SiteM Rat ω β) (start : Site Rat ω)

/-- The time at which a poll that starts here gives up. -/
def deadline : Rat := Host.now start.world + p.timeout

/-- The pause after a look that ends at this site. -/
def pauseFrom (s : Site Rat ω) : Rat := min p.interval (p.deadline start - Host.now s.world)

/-- Where the look with this number, counted from zero, begins if no earlier one stops the poll. -/
def begun : Nat → Site Rat ω
  | 0 => start
  | n + 1 =>
    let s := (look.run (begun n)).2
    ((Site.pause (p.pauseFrom start s)).run s).2

/-- Where the look with this number ends. -/
def ended (n : Nat) : Site Rat ω := (look.run (p.begun look start n)).2

/-- How the look with this number comes out. -/
def outcome (n : Nat) : Except (Fault Rat) β := (look.run (p.begun look start n)).1

end Schedule

section Clock

variable {p : Poll Rat} {look : SiteM Rat ω β} {start : Site Rat ω}

/-- A pause comes into the history between the looks before and after it. -/
theorem events_begun_succ (n : Nat) :
    (p.begun look start (n + 1)).events =
      (p.ended look start n).events ++ [.pause (p.pauseFrom start (p.ended look start n))] :=
  (Site.pause_ends _ _).2.2

/-- The history of a poll whose looks are calls. -/
theorem events_begun_call (c : Call Rat) (n : Nat) :
    (p.begun (Site.call c) start n).events = start.events ++
      (List.range n).flatMap fun j =>
        [.exchange (Host.now (p.begun (Site.call c) start j).world) c
            (p.outcome (Site.call c) start j),
          .pause (p.pauseFrom start (p.ended (Site.call c) start j))] := by
  induction n with
  | zero => simp [begun]
  | succ n ih =>
    rw [events_begun_succ, ended, (Site.call_ends _ _).2.2, ih, List.range_succ,
      List.flatMap_append]
    simp [outcome, ended]

/-- The clock at the end of a pause. Nothing is said of pauses without a length. -/
def Sleeps (ω : Type) [Host Rat ω] : Prop :=
  ∀ (d : Rat) (w : ω), 0 < d → Host.now (Host.sleep d w) = Host.now w + d

variable (hbounds : InBounds p.timeout p.interval) (hsleeps : Sleeps ω)
  (hforward : ∀ n, Host.now (p.begun look start n).world ≤ Host.now (p.ended look start n).world)

include hsleeps in
/-- A look begins one interval after the end of the one before it, or at the deadline. -/
theorem now_begun_succ {n : Nat} (hpause : 0 < p.pauseFrom start (p.ended look start n)) :
    Host.now (p.begun look start (n + 1)).world =
      min (Host.now (p.ended look start n).world + p.interval) (p.deadline start) := by
  calc Host.now (p.begun look start (n + 1)).world
    _ = Host.now (p.ended look start n).world + p.pauseFrom start (p.ended look start n) :=
        hsleeps _ _ hpause
    _ = min (Host.now (p.ended look start n).world + p.interval)
          (Host.now (p.ended look start n).world +
            (p.deadline start - Host.now (p.ended look start n).world)) :=
        (min_add_add_left _ _ _).symm
    _ = min (Host.now (p.ended look start n).world + p.interval) (p.deadline start) := by
        rw [add_sub_cancel]

theorem interval_pos (hbounds : InBounds p.timeout p.interval) : 0 < p.interval := by
  have h := hbounds.interval
  have htenth : (0.1 : Rat) = 1 / 10 := by decide +kernel
  rw [htenth] at h
  linarith

include hbounds in
/-- There is a pause after a look that ends before the deadline. -/
theorem pauseFrom_pos {s : Site Rat ω} (h : Host.now s.world < p.deadline start) :
    0 < p.pauseFrom start s :=
  lt_min (interval_pos hbounds) (sub_pos.2 h)

include hbounds hsleeps in
/-- While the looks end before the deadline, the next one begins by then. -/
theorem now_begun_le {n : Nat}
    (hearly : ∀ m < n, Host.now (p.ended look start m).world < p.deadline start) :
    Host.now (p.begun look start n).world ≤ p.deadline start := by
  cases n with
  | zero =>
    have h : 0 ≤ p.timeout := by
      rw [← Seconds.zero_eq]
      exact hbounds.timeout
    exact le_add_of_nonneg_right h
  | succ n =>
    rw [now_begun_succ hsleeps (pauseFrom_pos hbounds (hearly n n.lt_succ_self))]
    exact min_le_right _ _

include hbounds hsleeps hforward in
/-- Looks that end before the deadline begin at least one interval apart. -/
theorem le_now_begun {n : Nat}
    (hearly : ∀ m < n, Host.now (p.ended look start m).world < p.deadline start) :
    min (Host.now start.world + n * p.interval) (p.deadline start) ≤
      Host.now (p.begun look start n).world := by
  induction n with
  | zero => simp [begun]
  | succ n ih =>
    have hn := hearly n n.lt_succ_self
    have hbefore := ih fun m hm => hearly m (by omega)
    have hahead := hforward n
    rw [now_begun_succ hsleeps (pauseFrom_pos hbounds hn)]
    apply min_le_min_right
    have hfull : Host.now start.world + n * p.interval ≤ Host.now (p.ended look start n).world := by
      rcases min_le_iff.1 (hbefore.trans hahead) with h | h
      · exact h
      · exact absurd h (not_le.2 hn)
    push_cast
    linarith

/-- How many whole or begun intervals the timeout of the poll has. -/
def intervals (p : Poll Rat) : Nat := (p.timeout / p.interval).ceil.toNat

theorem timeout_le_intervals (hbounds : InBounds p.timeout p.interval) :
    p.timeout ≤ p.intervals * p.interval := by
  have hceil : p.timeout / p.interval ≤ ((p.intervals : Int) : Rat) :=
    Rat.le_ceil.trans (Int.cast_le.2 (Int.self_le_toNat _))
  rw [Int.cast_natCast] at hceil
  exact (div_le_iff₀ (interval_pos hbounds)).1 hceil

include hbounds hsleeps hforward in
/-- Some look that the rounds of the poll suffice for ends at the deadline or later. -/
theorem exists_late : ∃ n ≤ p.intervals, p.deadline start ≤ Host.now (p.ended look start n).world := by
  by_contra hnone
  simp only [not_exists, not_and, not_le] at hnone
  have hearly : ∀ m < p.intervals, Host.now (p.ended look start m).world < p.deadline start :=
    fun m hm => hnone m hm.le
  have hbegun := le_now_begun hbounds hsleeps hforward hearly
  have hfull : p.deadline start ≤ Host.now start.world + p.intervals * p.interval :=
    add_le_add_right (timeout_le_intervals hbounds) _
  rw [min_eq_right hfull] at hbegun
  exact absurd (hbegun.trans (hforward p.intervals)) (not_le.2 (hnone _ le_rfl))

end Clock

section Stop

variable (p : Poll Rat) (absorbs : Fault Rat → Bool) (look : SiteM Rat ω (Look Rat α))
  (start : Site Rat ω)

/-- How the poll is waiting when the look with this number begins. -/
def waitingAt : Nat → Waiting Rat
  | 0 => .start
  | n + 1 =>
    match verdict absorbs (waitingAt n) (p.outcome look start n) with
    | .waiting w => w
    | _ => waitingAt n

/-- The verdict on the look with this number. -/
def verdictAt (n : Nat) : Verdict Rat α :=
  verdict absorbs (p.waitingAt absorbs look start n) (p.outcome look start n)

/-- Whether the poll stops at the look with this number, if it comes to it. -/
def Stops (n : Nat) : Prop :=
  ∀ w, p.verdictAt absorbs look start n = .waiting w →
    p.deadline start ≤ Host.now (p.ended look start n).world

/-- How the poll ends if it stops at the look with this number. -/
def conclusion (n : Nat) : Except (Fault Rat) (Except (Waiting Rat) α) :=
  match p.verdictAt absorbs look start n with
  | .met a => .ok (.ok a)
  | .broken e => .error e
  | .waiting w => .ok (.error w)

end Stop

section Run

variable {p : Poll Rat} {absorbs : Fault Rat → Bool} {look : SiteM Rat ω (Look Rat α)}
  {start : Site Rat ω}

theorem stops_of_met {n : Nat} {a : α} (h : p.verdictAt absorbs look start n = .met a) :
    p.Stops absorbs look start n := by
  intro w hw
  rw [h] at hw
  cases hw

theorem stops_of_broken {n : Nat} {e : Fault Rat} (h : p.verdictAt absorbs look start n = .broken e) :
    p.Stops absorbs look start n := by
  intro w hw
  rw [h] at hw
  cases hw

theorem stops_iff_of_waiting {n : Nat} {w : Waiting Rat}
    (h : p.verdictAt absorbs look start n = .waiting w) :
    p.Stops absorbs look start n ↔
      p.deadline start ≤ Host.now (p.ended look start n).world := by
  constructor
  · exact fun hstops => hstops w h
  · exact fun hlate _ _ => hlate

/-- From any look on the poll runs along its schedule, up to the first look that stops it. -/
theorem lookUntil_ends_at {k : Nat} (hk : p.Stops absorbs look start k) (rounds n : Nat)
    (hn : n ≤ k) (hbefore : ∀ m < k, ¬p.Stops absorbs look start m) (hrounds : k < n + rounds) :
    Ends (lookUntil p absorbs look (p.deadline start) rounds (p.waitingAt absorbs look start n))
      (p.begun look start n) fun r t =>
        r = p.conclusion absorbs look start k ∧ t = p.ended look start k := by
  induction rounds generalizing n with
  | zero => omega
  | succ rounds ih =>
    -- A look that stops the poll is the last one.
    have hlast (hstops : p.Stops absorbs look start n) : k = n := by
      by_contra hne
      exact hbefore n (by omega) hstops
    apply Ends.bind_attempt (P := fun r t => r = p.outcome look start n ∧ t = p.ended look start n)
      ⟨rfl, rfl⟩
    rintro _ _ ⟨rfl, rfl⟩
    cases hverdict : p.verdictAt absorbs look start n with
    | met a =>
      obtain rfl := hlast (stops_of_met hverdict)
      rw [conclusion, hverdict]
      rw [verdictAt] at hverdict
      rw [hverdict]
      exact ⟨rfl, rfl⟩
    | broken e =>
      obtain rfl := hlast (stops_of_broken hverdict)
      rw [conclusion, hverdict]
      rw [verdictAt] at hverdict
      rw [hverdict]
      exact ⟨rfl, rfl⟩
    | waiting w =>
      have hstops := stops_iff_of_waiting hverdict
      have hnext : p.waitingAt absorbs look start (n + 1) = w := by
        rw [waitingAt, ← verdictAt, hverdict]
      have hconclusion : p.conclusion absorbs look start n = .ok (.error w) := by
        rw [conclusion, hverdict]
      rw [verdictAt] at hverdict
      rw [hverdict]
      apply Ends.bind_ok (Site.now_ends _)
      rintro _ rfl
      dsimp only
      rw [Seconds.least_eq_min, Seconds.zero_eq]
      apply Ends.ite
      · intro hlate
        obtain rfl := hlast (hstops.2 (sub_nonpos.1 hlate))
        exact ⟨hconclusion.symm, rfl⟩
      · intro hsoon
        have hne : n ≠ k := by
          rintro rfl
          exact hsoon (sub_nonpos.2 (hstops.1 hk))
        apply Ends.bind_ok (P := fun t => t = p.begun look start (n + 1)) ⟨rfl, rfl⟩
        rintro _ rfl
        rw [← hnext]
        exact ih (n + 1) (by omega) (by omega)

variable (absorbs) in
/-- A poll runs along its schedule up to the first look that stops it, and there is such a look. -/
theorem await_run (hbounds : InBounds p.timeout p.interval) (hsleeps : Sleeps ω)
    (hforward : ∀ n, Host.now (p.begun look start n).world ≤ Host.now (p.ended look start n).world) :
    ∃ k, IsLeast {n | p.Stops absorbs look start n} k ∧
    (p.await absorbs look).run start =
      (p.conclusion absorbs look start k, p.ended look start k) := by
  classical
  obtain ⟨n, hn, hlate⟩ := exists_late hbounds hsleeps hforward
  have hstops : ∃ n, p.Stops absorbs look start n := ⟨n, fun _ _ => hlate⟩
  have hrounds : Nat.find hstops ≤ p.intervals :=
    (Nat.find_min' hstops fun _ _ => hlate).trans hn
  have hrun := lookUntil_ends_at (Nat.find_spec hstops) (Seconds.rounds p.timeout p.interval) 0
    (Nat.zero_le _) (fun _ hm => Nat.find_min hstops hm) (by
      change Nat.find hstops < 0 + (p.intervals + 1)
      omega)
  exact ⟨Nat.find hstops, ⟨Nat.find_spec hstops, fun _ hm => Nat.find_min' hstops hm⟩,
    Prod.ext hrun.1 hrun.2⟩

end Run

section Congruence

variable {p : Poll Rat} {start : Site Rat ω}

/-- Looks that leave the same sites have the same schedule. -/
theorem begun_congr {look : SiteM Rat ω α} {look' : SiteM Rat ω β}
    (h : ∀ s, (look.run s).2 = (look'.run s).2) (n : Nat) :
    p.begun look start n = p.begun look' start n := by
  induction n with
  | zero => rfl
  | succ n ih => simp only [begun, ih, h]

theorem ended_congr {look : SiteM Rat ω α} {look' : SiteM Rat ω β}
    (h : ∀ s, (look.run s).2 = (look'.run s).2) (n : Nat) :
    p.ended look start n = p.ended look' start n := by
  rw [ended, ended, begun_congr h, h]

end Congruence

section Find

/-- How a poll ends with a look that comes out so, unless it has to look again. -/
def ending? (absorbs : Fault Rat → Bool) :
    Except (Fault Rat) (Look Rat α) → Option (Except (Fault Rat) α)
  | .ok (.found a) => some (.ok a)
  | .ok (.notYet _) => none
  | .error e => if absorbs e then none else some (.error e)

/-- The fault that a look ends with, if the poll absorbs it. -/
def setback? (absorbs : Fault Rat → Bool) : Except (Fault Rat) β → Option (Fault Rat)
  | .ok _ => none
  | .error e => if absorbs e then some e else none

/-- The note that a look leaves. -/
def note? : Except (Fault Rat) (Look Rat α) → Option (Fault Rat)
  | .ok (.notYet note) => note
  | _ => none

section Totals

variable (p : Poll Rat) (start : Site Rat ω) (n : Nat)

/-- The absorbed faults of this many looks. -/
def setbacks (absorbs : Fault Rat → Bool) (look : SiteM Rat ω β) : List (Fault Rat) :=
  (List.range n).filterMap fun j => setback? absorbs (p.outcome look start j)

/-- The notes of this many looks. -/
def notes (look : SiteM Rat ω (Look Rat α)) : List (Fault Rat) :=
  (List.range n).filterMap fun j => note? (p.outcome look start j)

end Totals

omit [Host Rat ω] in
/-- The last entry that is made for so many numbers is that of the last number, if it has one. -/
theorem getLast?_filterMap_range (entry : Nat → Option β) (n : Nat) :
    ((List.range (n + 1)).filterMap entry).getLast? =
      (entry n).or ((List.range n).filterMap entry).getLast? := by
  rw [List.range_succ, List.filterMap_append]
  cases h : entry n <;> simp [h]

variable {p : Poll Rat} {absorbs : Fault Rat → Bool} {look : SiteM Rat ω (Look Rat α)}
  {start : Site Rat ω}

theorem getLast?_setbacks_succ (n : Nat) : (p.setbacks start (n + 1) absorbs look).getLast? =
    (setback? absorbs (p.outcome look start n)).or (p.setbacks start n absorbs look).getLast? :=
  getLast?_filterMap_range _ n

theorem getLast?_notes_succ (n : Nat) : (p.notes start (n + 1) look).getLast? =
    (note? (p.outcome look start n)).or (p.notes start n look).getLast? :=
  getLast?_filterMap_range _ n

omit [Host Rat ω] in
/-- What the end of a look means for a poll. -/
theorem verdict_eq (w : Waiting Rat) (r : Except (Fault Rat) (Look Rat α)) :
    verdict absorbs w r =
      match ending? absorbs r with
      | some (.ok a) => .met a
      | some (.error e) => .broken e
      | none => .waiting ⟨w.looks + 1, (setback? absorbs r).or w.last, (note? r).or w.note⟩ := by
  cases r with
  | ok l => cases l <;> rfl
  | error e => cases h : absorbs e <;> simp [verdict, ending?, setback?, note?, h]

/-- A poll stops at a look with which it ends, or that is late. -/
theorem stops_iff {n : Nat} : p.Stops absorbs look start n ↔
    (ending? absorbs (p.outcome look start n)).isSome = true ∨
      p.deadline start ≤ Host.now (p.ended look start n).world := by
  have hverdict : p.verdictAt absorbs look start n = _ := verdict_eq _ _
  cases hending : ending? absorbs (p.outcome look start n) with
  | none =>
    rw [hending] at hverdict
    simpa using stops_iff_of_waiting hverdict
  | some r =>
    rw [hending] at hverdict
    cases r with
    | ok a => simpa using stops_of_met hverdict
    | error e => simpa using stops_of_broken hverdict

/-- While a poll has to look again, it counts the looks and keeps the last fault it has absorbed and
the last note. -/
theorem waitingAt_of_ending {n : Nat}
    (hbefore : ∀ m < n, ending? absorbs (p.outcome look start m) = none) :
    p.waitingAt absorbs look start n =
      ⟨n, (p.setbacks start n absorbs look).getLast?, (p.notes start n look).getLast?⟩ := by
  induction n with
  | zero => rfl
  | succ n ih =>
    rw [waitingAt, ih fun m hm => hbefore m (by omega), verdict_eq, hbefore n n.lt_succ_self,
      getLast?_setbacks_succ, getLast?_notes_succ]

/-- How a poll ends at a look before which it had to look again each time. -/
theorem conclusion_of_ending {n : Nat}
    (hbefore : ∀ m < n, ending? absorbs (p.outcome look start m) = none) :
    p.conclusion absorbs look start n =
      match ending? absorbs (p.outcome look start n) with
      | some (.ok a) => .ok (.ok a)
      | some (.error e) => .error e
      | none => .ok (.error ⟨n + 1, (p.setbacks start (n + 1) absorbs look).getLast?,
          (p.notes start (n + 1) look).getLast?⟩) := by
  rw [conclusion, verdictAt, verdict_eq, waitingAt_of_ending hbefore, getLast?_setbacks_succ,
    getLast?_notes_succ]
  cases ending? absorbs (p.outcome look start n) with
  | none => rfl
  | some r => cases r <;> rfl

/-- A poll had to look again after each look before the first one that stops it. -/
theorem ending?_of_lt {k m : Nat} (hk : IsLeast {n | p.Stops absorbs look start n} k)
    (hm : m < k) : ending? absorbs (p.outcome look start m) = none := by
  by_contra hends
  rw [← ne_eq, Option.ne_none_iff_isSome] at hends
  exact absurd (hk.2 (stops_iff.2 (.inl hends))) (not_le.2 hm)

/-- How a poll ends whose last look has this number, counted from zero. -/
theorem find_run {k : Nat} (hk : IsLeast {n | p.Stops absorbs look start n} k)
    (hrun : (p.await absorbs look).run start =
      (p.conclusion absorbs look start k, p.ended look start k)) :
    (p.find absorbs look).run start =
      ((ending? absorbs (p.outcome look start k)).getD
        (.error (.pollTimeout p (k + 1) (p.setbacks start (k + 1) absorbs look).getLast?)),
        p.ended look start k) := by
  rw [find, run_bind, hrun, conclusion_of_ending fun m hm => ending?_of_lt hk hm]
  cases ending? absorbs (p.outcome look start k) with
  | none => rfl
  | some r => cases r <;> rfl

end Find

section Hold

variable (p : Poll Rat) (absorbs : Fault Rat → Bool) (condition : SiteM Rat ω Bool)
  (start : Site Rat ω)

/-- Whether an evaluation of the condition is the last one: the condition holds, or a fault ends it
that is not absorbed, or it ends at the deadline or later. -/
def Decides (n : Nat) : Prop :=
  p.outcome condition start n = .ok true ∨
    (∃ e, p.outcome condition start n = .error e ∧ absorbs e = false) ∨
    p.deadline start ≤ Host.now (p.ended condition start n).world

/-- The fault that an evaluation ends with, if the poll absorbs it. -/
def absorbed? : Except (Fault Rat) Bool → Option (Fault Rat)
  | .ok _ => none
  | .error e => if absorbs e then some e else none

/-- The faults that this many evaluations end with and the poll absorbs. -/
def absorbed (n : Nat) : List (Fault Rat) :=
  (List.range n).filterMap fun j => absorbed? absorbs (p.outcome condition start j)

/-- How a poll waits after this many evaluations. -/
def waitingAfter (n : Nat) : Waiting Rat := ⟨n, (p.absorbed absorbs condition start n).getLast?, none⟩

/-- How a poll ends whose last evaluation has this number, counted from zero. -/
def answer (n : Nat) : Except (Fault Rat) Unit :=
  let timeout := .pollTimeout p (n + 1) (p.absorbed absorbs condition start (n + 1)).getLast?
  match p.outcome condition start n with
  | .ok true => .ok ()
  | .ok false => .error timeout
  | .error e => if absorbs e then .error timeout else .error e

end Hold

section Evaluations

variable {p : Poll Rat} {absorbs : Fault Rat → Bool} {condition : SiteM Rat ω Bool}
  {start : Site Rat ω}

omit [Host Rat ω] in
/-- A look at a condition does what the condition does. -/
theorem run_whether (s : Site Rat ω) :
    (whether condition).run s = ((condition.run s).1.map
      fun holds => if holds then .found () else .notYet none, (condition.run s).2) := by
  rw [whether, run_bind]
  rcases condition.run s with ⟨_ | _ | _, t⟩ <;> rfl

theorem begun_whether (n : Nat) :
    p.begun (whether condition) start n = p.begun condition start n :=
  begun_congr (fun s => by rw [run_whether]) n

theorem ended_whether (n : Nat) :
    p.ended (whether condition) start n = p.ended condition start n :=
  ended_congr (fun s => by rw [run_whether]) n

theorem outcome_whether (n : Nat) :
    p.outcome (whether condition) start n = (p.outcome condition start n).map
      fun holds => if holds then .found () else .notYet none := by
  rw [outcome, begun_whether, run_whether, outcome]

omit [Host Rat ω] in
/-- A look at a condition ends a poll if the condition holds, or with a fault that is not
absorbed. -/
theorem ending?_whether (r : Except (Fault Rat) Bool) :
    ending? absorbs (r.map fun holds => if holds then Look.found () else .notYet none) =
      match r with
      | .ok true => some (.ok ())
      | .ok false => none
      | .error e => if absorbs e then none else some (.error e) := by
  cases r with
  | ok holds => cases holds <;> rfl
  | error e => rfl

theorem setbacks_whether (n : Nat) : p.setbacks start n absorbs (whether condition) =
    p.absorbed absorbs condition start n := by
  apply List.filterMap_congr
  intro j _
  rw [outcome_whether]
  cases p.outcome condition start j <;> rfl

/-- Looks at conditions leave no notes. -/
theorem notes_whether (n : Nat) : p.notes start n (whether condition) = [] := by
  rw [notes, List.filterMap_eq_nil_iff]
  intro j _
  rw [outcome_whether]
  rcases p.outcome condition start j with e | holds
  · rfl
  · cases holds <;> rfl

/-- A poll stops at an evaluation that is the last one. -/
theorem stops_whether_iff {n : Nat} :
    p.Stops absorbs (whether condition) start n ↔ p.Decides absorbs condition start n := by
  rw [stops_iff, Decides, ended_whether, outcome_whether, ending?_whether]
  cases p.outcome condition start n with
  | ok holds => cases holds <;> simp
  | error e => cases he : absorbs e <;> simp [he]

/-- The first evaluation at which the poll stops is the first one that decides. -/
theorem isLeast_decides {k : Nat} (h : IsLeast {n | p.Stops absorbs (whether condition) start n} k) :
    IsLeast {n | p.Decides absorbs condition start n} k := by
  simpa only [stops_whether_iff] using h

/-- Before the first stop no evaluation is the last one. -/
theorem not_decides_of_lt {k : Nat} (h : IsLeast {n | p.Stops absorbs (whether condition) start n} k)
    (m : Nat) (hm : m < k) : ¬p.Decides absorbs condition start m :=
  fun hdecides => absurd ((isLeast_decides h).2 hdecides) (not_le.2 hm)

/-- A poll ends as the last evaluation says. -/
theorem conclusion_whether {k : Nat}
    (h : IsLeast {n | p.Stops absorbs (whether condition) start n} k) :
    p.conclusion absorbs (whether condition) start k =
      match p.outcome condition start k with
      | .ok true => .ok (.ok ())
      | .ok false => .ok (.error (p.waitingAfter absorbs condition start (k + 1)))
      | .error e =>
        if absorbs e then .ok (.error (p.waitingAfter absorbs condition start (k + 1)))
        else .error e := by
  rw [conclusion_of_ending fun m hm => ending?_of_lt h hm, outcome_whether, ending?_whether,
    setbacks_whether, notes_whether, waitingAfter]
  cases p.outcome condition start k with
  | ok holds => cases holds <;> rfl
  | error e => cases he : absorbs e <;> simp [he]

/-- A poll for a condition ends as its last evaluation says. -/
theorem hold_run {k : Nat} (hk : IsLeast {n | p.Stops absorbs (whether condition) start n} k)
    (hrun : (p.await absorbs (whether condition)).run start =
      (p.conclusion absorbs (whether condition) start k, p.ended (whether condition) start k)) :
    (p.hold absorbs condition).run start =
      (p.answer absorbs condition start k, p.ended condition start k) := by
  rw [hold, find, run_bind, hrun, conclusion_whether hk, ended_whether, answer]
  cases p.outcome condition start k with
  | ok holds => cases holds <;> rfl
  | error e =>
    dsimp only
    cases absorbs e <;> rfl

/-- A poll for a condition within its bounds, on a clock that pauses set on by their length and
evaluations do not set back, ends with the first evaluation that decides. The evaluations come one
after another, with a pause between each two that lasts one interval, or up to the deadline if that
is sooner, and none of them begins after the deadline. -/
theorem hold_schedule (p : Poll Rat) (absorbs : Fault Rat → Bool) (condition : SiteM Rat ω Bool)
    (start : Site Rat ω) (hbounds : InBounds p.timeout p.interval) (hsleeps : Sleeps ω)
    (hforward : ∀ n, Host.now (p.begun condition start n).world ≤
      Host.now (p.ended condition start n).world) :
    ∃ k, IsLeast {n | p.Decides absorbs condition start n} k ∧
      (p.hold absorbs condition).run start =
        (p.answer absorbs condition start k, p.ended condition start k) ∧
      (∀ j < k,
        let length :=
          min p.interval (p.deadline start - Host.now (p.ended condition start j).world)
        0 < length ∧
          Host.now (p.begun condition start (j + 1)).world =
            Host.now (p.ended condition start j).world + length ∧
          (p.begun condition start (j + 1)).events =
            (p.ended condition start j).events ++ [.pause length]) ∧
      (∀ j ≤ k, Host.now (p.begun condition start j).world ≤ p.deadline start) ∧
      (condition = Site.call .condition →
        (p.ended condition start k).events = start.events ++
          ((List.range k).flatMap fun j =>
            [.exchange (Host.now (p.begun condition start j).world) .condition
                (p.outcome condition start j),
              .pause (min p.interval
                (p.deadline start - Host.now (p.ended condition start j).world))]) ++
          [.exchange (Host.now (p.begun condition start k).world) .condition
            (p.outcome condition start k)]) := by
  have hwhether : ∀ n, Host.now (p.begun (whether condition) start n).world ≤
      Host.now (p.ended (whether condition) start n).world := by
    intro n
    rw [begun_whether, ended_whether]
    exact hforward n
  obtain ⟨k, hk, hrun⟩ := await_run absorbs hbounds hsleeps hwhether
  have hdecides := isLeast_decides hk
  have hearly : ∀ j < k, Host.now (p.ended condition start j).world < p.deadline start := by
    intro j hj
    by_contra hlate
    exact absurd (hdecides.2 (.inr (.inr (not_lt.1 hlate)))) (not_le.2 hj)
  refine ⟨k, hdecides, hold_run hk hrun, ?_, ?_, ?_⟩
  · intro j hj
    have hpause := pauseFrom_pos hbounds (hearly j hj)
    exact ⟨hpause, hsleeps _ _ hpause, events_begun_succ j⟩
  · intro j hj
    exact now_begun_le hbounds hsleeps fun m hm => hearly m (hm.trans_le hj)
  · rintro rfl
    have hlast : (p.ended (Site.call .condition) start k).events =
        (p.begun (Site.call .condition) start k).events ++ [.exchange
          (Host.now (p.begun (Site.call .condition) start k).world) .condition
          (p.outcome (Site.call .condition) start k)] := (Site.call_ends _ _).2.2
    rw [hlast, events_begun_call]
    rfl

end Evaluations

section Cut

open Scripted

/-- A world in which the first look at a condition breaks off and the second one finds that it does
not hold, after a second each. -/
def troubled : World Rat :=
  .start 0 [("condition", [⟨some 1, 1, .raise (.plain .connection [])⟩, ⟨some 1, 1, .standard⟩])] []

/-- Half of the second pause of this poll would be after its deadline. -/
def cut : Poll Rat := ⟨5, 2, "condition"⟩

/-- The evaluations of the condition by that poll in that world. -/
abbrev asked (n : Nat) : Site Rat (World Rat) := cut.begun (Site.call .condition) (.start troubled) n

theorem reply_condition_of_spent {w : World Rat} (h : w.script = [("condition", [])]) :
    Host.reply .condition w = (.ok false, w) := by
  change World.reply .condition w = _
  simp [World.reply, World.standard, Script.take, takeTurn, Call.name, h]

theorem script_asked (n : Nat) : (asked (n + 2)).world.script = [("condition", [])] := by
  induction n with
  | zero => rfl
  | succ n ih =>
    change (Host.reply .condition (asked (n + 2)).world).2.script = _
    rw [reply_condition_of_spent ih, ih]

theorem now_asked_le (n : Nat) : Host.now (asked n).world ≤
    Host.now (cut.ended (Site.call .condition) (.start troubled) n).world := by
  match n with
  | 0 => decide +kernel
  | 1 => decide +kernel
  | n + 2 =>
    change _ ≤ Host.now (Host.reply .condition (asked (n + 2)).world).2
    rw [reply_condition_of_spent (script_asked n)]

/-- Neither of the first two evaluations is the last one, and the third one is. -/
theorem isLeast_decides_cut : IsLeast {n | cut.Decides absorbsOrdinary (Site.call .condition)
    (.start troubled) n} 2 := by
  constructor
  · exact .inr (.inr (by decide +kernel))
  · intro n hn
    match n with
    | 0 =>
      rcases hn with h | ⟨e, h, he⟩ | hlate
      · cases h
      · cases h
        cases he
      · exact absurd hlate (by decide +kernel)
    | 1 =>
      rcases hn with h | ⟨e, h, he⟩ | hlate
      · cases h
      · cases h
      · exact absurd hlate (by decide +kernel)
    | n + 2 => exact Nat.le_add_left 2 n

/-- The third evaluation begins and ends at the deadline and is the last one. The poll tells the
fault of the first one. -/
theorem hold_schedule_cut :
    InBounds cut.timeout cut.interval ∧ Sleeps (World Rat) ∧
      (∀ n, Host.now (asked n).world ≤
        Host.now (cut.ended (Site.call .condition) (.start troubled) n).world) ∧
      ∃ after, (cut.hold absorbsOrdinary (Site.call .condition)).run (.start troubled) =
          (.error (.pollTimeout cut 3 (some (.plain .connection []))), after) ∧
        after.events = [.exchange 0 .condition (.error (.plain .connection [])), .pause 2,
          .exchange 3 .condition (.ok false), .pause 1, .exchange 5 .condition (.ok false)] := by
  have hbounds : InBounds cut.timeout cut.interval := ⟨by decide +kernel, by decide +kernel⟩
  have hsleeps : Sleeps (World Rat) := fun _ _ _ => rfl
  refine ⟨hbounds, hsleeps, now_asked_le, ?_⟩
  obtain ⟨k, hk, hrun, -, -, hevents⟩ := hold_schedule cut absorbsOrdinary (Site.call .condition)
    (.start troubled) hbounds hsleeps now_asked_le
  obtain rfl := hk.unique isLeast_decides_cut
  refine ⟨_, hrun, ?_⟩
  rw [hevents rfl]
  let length (n : Nat) : Rat := min cut.interval (cut.deadline (.start troubled) -
    Host.now (cut.ended (Site.call .condition) (.start troubled) n).world)
  have htimes : Host.now (asked 1).world = 3 ∧ Host.now (asked 2).world = 5 ∧
      length 0 = 2 ∧ length 1 = 1 := by decide +kernel
  obtain ⟨hsecond, hthird, hwhole, hcut⟩ := htimes
  rw [← hsecond, ← hthird, ← hwhole, ← hcut]
  rfl

end Cut

end Poll

end Testbed
