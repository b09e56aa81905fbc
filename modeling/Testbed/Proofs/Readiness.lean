import Testbed.Proofs.Phases
import Testbed.Proofs.Timely

/-!
# How a wait for a pod ends

The pod is read on the schedule of a poll. A read tells one of three things: a phase that decides,
nothing yet, or a fault that is not ordinary and leaves the wait. The first read that the poll comes
to and that tells anything else than nothing yet is the last one, and the wait ends as it says,
whatever phases were seen before.
-/

set_option autoImplicit false

namespace Testbed.Pod

open Proc

/-- What a read tells a wait for the pod to run. -/
inductive Sight (τ : Type) where
  | decided (phase : String)
  | undecided
  | cut (e : Fault τ)

/-- What is seen in the reply to a read. Only three phases decide; a missing one and ordinary faults
do not. -/
def sight {τ : Type} : Except (Fault τ) Remote → Sight τ
  | .ok remote =>
    match remote.phase with
    | some phase =>
      if phase ∈ ["Running", "Succeeded", "Failed"] then .decided phase else .undecided
    | none => .undecided
  | .error e => if e.isOrdinary then .undecided else .cut e

variable {ω : Type} [Host Rat ω]

/-- The poll for a pod to run. -/
def readiness (pod ns : String) (timeout interval : Rat) : Poll Rat :=
  ⟨timeout, interval, "pod " ++ ns ++ "/" ++ pod ++ " to be running"⟩

/-- A read of a pod. -/
abbrev reading (client pod ns : String) : SiteM Rat ω Remote := Site.call (.readPod client pod ns)

section Reads

variable (p : Poll Rat) (client pod ns : String) (start : Site Rat ω)

/-- What the read with this number, counted from zero, tells. -/
def sightAt (n : Nat) : Sight Rat := sight (p.outcome (reading client pod ns) start n)

/-- The read with this number ends at the deadline or later. -/
def IsLate (n : Nat) : Prop :=
  p.deadline start ≤ Host.now (p.ended (reading client pod ns) start n).world

/-- The poll comes to the read with this number: those before it end in time and decide nothing. -/
def Reaches (n : Nat) : Prop :=
  ∀ m < n, sightAt p client pod ns start m = .undecided ∧ ¬IsLate p client pod ns start m

/-- The history of the wait after the read with this number: the reads up to it, with one pause
between each two. -/
def readsUpTo (n : Nat) : List (Event Rat) :=
  ((List.range n).flatMap fun j =>
    [.exchange (Host.now (p.begun (reading client pod ns) start j).world) (.readPod client pod ns)
        (p.outcome (reading client pod ns) start j),
      .pause (p.pauseFrom start (p.ended (reading client pod ns) start j))]) ++
  [.exchange (Host.now (p.begun (reading client pod ns) start n).world) (.readPod client pod ns)
    (p.outcome (reading client pod ns) start n)]

/-- How a wait ends whose last read has this number. -/
def verdictAt (n : Nat) : Except (Fault Rat) Unit :=
  match sightAt p client pod ns start n with
  | .decided phase => if phase = "Running" then .ok () else .error (.podFinished pod ns phase)
  | .undecided => .error (.pollTimeout p (n + 1)
      (p.setbacks start (n + 1) Poll.absorbsOrdinary (reading client pod ns)).getLast?)
  | .cut e => .error e

end Reads

section Sights

/-- A look for a phase that decides ends the poll as the read tells. -/
theorem ending?_found (r : Except (Fault Rat) Remote) :
    Poll.ending? Poll.absorbsOrdinary (found r) =
      match sight r with
      | .decided phase => some (.ok phase)
      | .undecided => none
      | .cut e => some (.error e) := by
  cases r with
  | error e => cases h : e.isOrdinary <;> simp [found, sight, Poll.ending?, Poll.absorbsOrdinary, h]
  | ok remote =>
    cases hphase : remote.phase with
    | none => simp [found, sight, Poll.ending?, hphase]
    | some phase =>
      have hdecides : isDecisive phase = true ↔ phase ∈ ["Running", "Succeeded", "Failed"] := by
        simp [isDecisive, runningPhase, finalPhases]
      by_cases h : isDecisive phase = true
      · simp only [found, sight, hphase, if_pos h, if_pos (hdecides.1 h), Poll.ending?]
      · simp only [found, sight, hphase, if_neg h, if_neg (mt hdecides.2 h), Poll.ending?]

/-- A phase that is seen to decide is one of three. -/
theorem mem_of_sight {τ : Type} {r : Except (Fault τ) Remote} {phase : String}
    (h : sight r = .decided phase) : phase ∈ ["Running", "Succeeded", "Failed"] := by
  unfold sight at h
  split at h
  · split at h
    · split at h
      · cases h
        assumption
      · cases h
    · cases h
  · split at h <;> cases h

/-- A fault that is seen to leave the wait is not ordinary. -/
theorem isOrdinary_of_sight {τ : Type} {r : Except (Fault τ) Remote} {e : Fault τ}
    (h : sight r = .cut e) : e.isOrdinary = false := by
  unfold sight at h
  split at h
  · split at h
    · split at h <;> cases h
    · cases h
  · split at h
    · cases h
    · rename_i hordinary
      cases h
      exact Bool.eq_false_iff.2 hordinary

omit [Host Rat ω] in
/-- Only a running pod is accepted. -/
theorem run_judge {pod ns phase : String} (h : phase ∈ ["Running", "Succeeded", "Failed"])
    (s : Site Rat ω) : (judge pod ns phase).run s =
      (if phase = "Running" then .ok () else .error (.podFinished pod ns phase), s) := by
  simp only [List.mem_cons, List.not_mem_nil, or_false] at h
  rcases h with rfl | rfl | rfl <;> rfl

theorem setback?_found (r : Except (Fault Rat) Remote) :
    Poll.setback? Poll.absorbsOrdinary (found r) = Poll.setback? Poll.absorbsOrdinary r := by
  cases r with
  | error e => rfl
  | ok remote =>
    unfold found
    dsimp only
    split
    · split <;> rfl
    · rfl

variable {p : Poll Rat} {client pod ns : String} {start : Site Rat ω}

theorem begun_lookForPhase (n : Nat) :
    p.begun (lookForPhase client pod ns) start n = p.begun (reading client pod ns) start n :=
  Poll.begun_congr (fun s => by rw [run_lookForPhase]) n

theorem ended_lookForPhase (n : Nat) :
    p.ended (lookForPhase client pod ns) start n = p.ended (reading client pod ns) start n :=
  Poll.ended_congr (fun s => by rw [run_lookForPhase]) n

theorem outcome_lookForPhase (n : Nat) :
    p.outcome (lookForPhase client pod ns) start n = found (p.outcome (reading client pod ns) start n) := by
  rw [Poll.outcome, begun_lookForPhase, run_lookForPhase, Poll.outcome]

theorem setbacks_lookForPhase (n : Nat) :
    p.setbacks start n Poll.absorbsOrdinary (lookForPhase client pod ns) =
      p.setbacks start n Poll.absorbsOrdinary (reading client pod ns) := by
  simp only [Poll.setbacks, outcome_lookForPhase, setback?_found]

/-- A read is the last one if it tells anything else than nothing yet, or if it is late. -/
theorem stops_lookForPhase (n : Nat) :
    p.Stops Poll.absorbsOrdinary (lookForPhase client pod ns) start n ↔
      sightAt p client pod ns start n ≠ .undecided ∨ IsLate p client pod ns start n := by
  rw [Poll.stops_iff, ended_lookForPhase, outcome_lookForPhase, ending?_found, sightAt, IsLate]
  cases sight (p.outcome (reading client pod ns) start n) <;> simp

/-- A read that the poll comes to and at which it stops is the first one of that kind. -/
theorem Reaches.isLeast {n : Nat} (h : Reaches p client pod ns start n)
    (hlast : sightAt p client pod ns start n ≠ .undecided ∨ IsLate p client pod ns start n) :
    IsLeast {n | p.Stops Poll.absorbsOrdinary (lookForPhase client pod ns) start n} n := by
  refine ⟨(stops_lookForPhase n).2 hlast, fun m hm => ?_⟩
  by_contra hlt
  obtain ⟨hundecided, hearly⟩ := h m (not_le.1 hlt)
  exact ((stops_lookForPhase m).1 hm).elim (fun h => h hundecided) hearly

/-- Before the first read at which the poll stops it comes to all reads. -/
theorem reaches_of_isLeast {n : Nat}
    (h : IsLeast {n | p.Stops Poll.absorbsOrdinary (lookForPhase client pod ns) start n} n) :
    Reaches p client pod ns start n := by
  intro m hm
  have hgoes : ¬p.Stops Poll.absorbsOrdinary (lookForPhase client pod ns) start m :=
    fun hstops => absurd (h.2 hstops) (not_le.2 hm)
  rw [stops_lookForPhase, not_or, not_not] at hgoes
  exact hgoes

/-- The wait leaves one exchange for each read, and pauses in between. -/
theorem events_ended_reading (n : Nat) :
    (p.ended (reading client pod ns) start n).events = start.events ++ readsUpTo p client pod ns start n := by
  have hlast : (p.ended (reading client pod ns) start n).events =
      (p.begun (reading client pod ns) start n).events ++
        [.exchange (Host.now (p.begun (reading client pod ns) start n).world) (.readPod client pod ns)
          (p.outcome (reading client pod ns) start n)] := (Site.call_ends _ _).2.2
  rw [hlast, Poll.events_begun_call, readsUpTo, List.append_assoc]

end Sights

variable {timeout interval : Rat}

/-- The wait comes to a first read at which the poll stops, and ends as that says. -/
theorem awaitRunning_run (hpunctual : Punctual ω) (hbounds : Poll.InBounds timeout interval)
    (client pod ns : String) (s : Site Rat ω) :
    let p := readiness pod ns timeout interval
    ∃ n, IsLeast {n | p.Stops Poll.absorbsOrdinary (lookForPhase client pod ns) s n} n ∧
      (awaitRunningThrough client pod ns timeout interval).run s =
        (verdictAt p client pod ns s n, p.ended (reading client pod ns) s n) := by
  intro p
  have hforward (n : Nat) : Host.now (p.begun (lookForPhase client pod ns) s n).world ≤
      Host.now (p.ended (lookForPhase client pod ns) s n).world := by
    rw [begun_lookForPhase, ended_lookForPhase]
    exact hpunctual.reply _ _
  obtain ⟨n, hleast, hrun⟩ := Poll.await_run Poll.absorbsOrdinary hbounds hpunctual.sleeps hforward
  have hsubject : ("pod " ++ ns ++ "/" ++ pod ++ " to be running").isEmpty = false := by
    rw [String.append_assoc, String.append_assoc, String.append_assoc]
    exact Poll.isEmpty_append (by decide)
  have hpoll : (Poll.required timeout interval
      ("pod " ++ ns ++ "/" ++ pod ++ " to be running")).run s = (.ok p, s) := by
    obtain ⟨hok, hsame⟩ := Poll.required_ends hbounds hsubject s
    exact Prod.ext hok hsame
  refine ⟨n, hleast, ?_⟩
  rw [awaitRunning_eq, awaitPhase, Proc.bind_assoc, run_bind_ok hpoll, run_bind,
    Poll.find_run hleast hrun, outcome_lookForPhase, ending?_found, ended_lookForPhase,
    setbacks_lookForPhase, verdictAt, sightAt]
  cases hsight : sight (p.outcome (reading client pod ns) s n) with
  | decided phase => exact run_judge (mem_of_sight hsight) _
  | undecided => rfl
  | cut e => rfl

/-- A wait for a pod is decided by the first read that the poll comes to whose phase is that of a
running or finished pod, whatever was seen before: it returns if the pod runs, and tells the phase
otherwise, without another read. Only a fault that is not ordinary ends it before. Without any of
these the poll times out. There always is a last phase to ask for when the poll is over. -/
theorem awaitRunning_decided (hpunctual : Punctual ω) (hbounds : Poll.InBounds timeout interval)
    (client pod ns : String) (s : Site Rat ω) :
    let p := readiness pod ns timeout interval
    Ends (awaitRunningThrough client pod ns timeout interval) s fun ending t =>
      (∀ n phase, Reaches p client pod ns s n → sightAt p client pod ns s n = .decided phase →
        ending = (if phase = "Running" then .ok () else .error (.podFinished pod ns phase)) ∧
        t.events = s.events ++ readsUpTo p client pod ns s n) ∧
      (∀ n e, Reaches p client pod ns s n → sightAt p client pod ns s n = .cut e →
        ending = .error e ∧ t.events = s.events ++ readsUpTo p client pod ns s n) ∧
      ((∀ n, Reaches p client pod ns s n → sightAt p client pod ns s n = .undecided) →
        ∃ n, Reaches p client pod ns s n ∧ IsLate p client pod ns s n ∧
          ending = .error (.pollTimeout p (n + 1)
            (p.setbacks s (n + 1) Poll.absorbsOrdinary (reading client pod ns)).getLast?) ∧
          t.events = s.events ++ readsUpTo p client pod ns s n) ∧
      ending ≠ .error nothingSeen := by
  intro p
  obtain ⟨k, hleast, hrun⟩ := awaitRunning_run hpunctual hbounds client pod ns s
  have hreaches := reaches_of_isLeast hleast
  have hlast := (stops_lookForPhase k).1 hleast.1
  unfold Ends
  rw [hrun]
  dsimp only
  rw [events_ended_reading]
  -- A read that decides is the one at which the poll stops.
  have honly {n : Nat} (hn : Reaches p client pod ns s n) (hgoes : sightAt p client pod ns s n ≠ .undecided) :
      n = k := (hn.isLeast (.inl hgoes)).unique hleast
  refine ⟨?_, ?_, ?_, ?_⟩
  · intro n phase hn hphase
    obtain rfl := honly hn (by rw [hphase]; rintro ⟨⟩)
    exact ⟨by rw [verdictAt, hphase], rfl⟩
  · intro n e hn hcut
    obtain rfl := honly hn (by rw [hcut]; rintro ⟨⟩)
    exact ⟨by rw [verdictAt, hcut], rfl⟩
  · intro hundecided
    have hk := hundecided k hreaches
    exact ⟨k, hreaches, hlast.resolve_left (not_not_intro hk), by rw [verdictAt, hk], rfl⟩
  · rw [verdictAt]
    cases hsight : sightAt p client pod ns s k with
    | decided phase => by_cases hruns : phase = "Running" <;> simp [hruns, nothingSeen]
    | undecided => rintro ⟨⟩
    | cut e =>
      rintro ⟨⟩
      cases isOrdinary_of_sight hsight

section Failure

open Scripted

/-- A world in which the first read of a pod fails after a second, the second one finds a pod without
status, the third one a pending pod, and the fourth one a failed pod. -/
def failingWorld : Timely :=
  .start [("api.read_pod",
    [⟨some 1, 1, .raise (.api (some 500) none none)⟩,
     ⟨some 1, 0, .give (.table [("no_status", .flag true)])⟩,
     ⟨some 1, 0, .give (.table [("phase", .text "Pending")])⟩,
     ⟨some 1, 0, .give (.table [("phase", .text "Failed")])⟩])] (by decide +kernel)

/-- The wait tells that the pod has failed. -/
theorem awaitRunning_decided_failed :
    Punctual Timely ∧ Poll.InBounds (10 : Rat) 2 ∧
      ((awaitRunningThrough "c" "web" "e2e-1" 10 2).run (.start failingWorld)).1 =
        .error (.podFinished "web" "e2e-1" "Failed") := by
  have hbounds : Poll.InBounds (10 : Rat) 2 := ⟨by decide +kernel, by decide +kernel⟩
  refine ⟨Timely.punctual, hbounds, ?_⟩
  obtain ⟨hdecided, -⟩ :=
    awaitRunning_decided Timely.punctual hbounds "c" "web" "e2e-1" (.start failingWorld)
  refine (hdecided 3 "Failed" ?_ rfl).1
  intro m hm
  have hcases : m = 0 ∨ m = 1 ∨ m = 2 := by omega
  rcases hcases with rfl | rfl | rfl
  · exact ⟨rfl, by unfold IsLate; decide +kernel⟩
  · exact ⟨rfl, by unfold IsLate; decide +kernel⟩
  · exact ⟨rfl, by unfold IsLate; decide +kernel⟩

end Failure

end Testbed.Pod
