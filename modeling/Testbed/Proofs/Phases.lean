import Testbed.Pod.Readiness

/-!
# The phases that a wait notes

A wait for a pod notes every phase it sees and asks for the last one when it is over. It is over
with the first phase that decides, so that this phase is the last one that was noted: the wait does
what it would do if that look had handed the phase on.
-/

set_option autoImplicit false

namespace Testbed

open Proc

variable {τ ω ν α : Type} [Host τ ω]

theorem Site.run_pause (length : τ) (s : Site τ ω) :
    (pause length).run s = (.ok (), ((pause length).run s).2) := rfl

theorem Site.run_now (s : Site τ ω) : now.run s = (.ok (Host.now s.world), s) := rfl

/-- What a look sees, with what it found changed. -/
def Poll.Look.map {β : Type} (f : α → β) : Poll.Look τ α → Poll.Look τ β
  | .found a => .found (f a)
  | .notYet note => .notYet note

/-- A verdict, with what was found changed. -/
def Poll.Verdict.map {β : Type} (f : α → β) : Poll.Verdict τ α → Poll.Verdict τ β
  | .met a => .met (f a)
  | .broken e => .broken e
  | .waiting w => .waiting w

omit [Host τ ω] in
theorem Poll.verdict_map {β : Type} (f : α → β) (absorbs : Fault τ → Bool) (w : Poll.Waiting τ)
    (r : Except (Fault τ) (Poll.Look τ α)) :
    Poll.verdict absorbs w (r.map (Poll.Look.map f)) = (Poll.verdict absorbs w r).map f := by
  cases r with
  | error e => cases h : absorbs e <;> simp [Except.map, verdict, h, Verdict.map]
  | ok l => cases l <;> rfl

namespace Pod

variable {client pod ns : String}

/-- Looks for a phase that decides. -/
def lookForPhase (client pod ns : String) : SiteM τ ω (Poll.Look τ String) := do
  let remote ← Site.call (.readPod client pod ns)
  match remote.phase with
  | some phase => if isDecisive phase then pure (.found phase) else pure (.notYet none)
  | none => pure (.notYet none)

/-- What a look for a phase that decides finds in the reply to a read. -/
def found : Except (Fault τ) Remote → Except (Fault τ) (Poll.Look τ String)
  | .ok remote =>
    match remote.phase with
    | some phase => if isDecisive phase then .ok (.found phase) else .ok (.notYet none)
    | none => .ok (.notYet none)
  | .error e => .error e

/-- The phase that a reply to a read tells. -/
def phaseIn : Except (Fault τ) Remote → Option String
  | .ok remote => remote.phase
  | .error _ => none

theorem run_lookForPhase (s : Site τ ω) : (lookForPhase client pod ns).run s =
    (found ((Site.call (.readPod client pod ns)).run s).1, ((Site.call (.readPod client pod ns)).run s).2) := by
  rw [lookForPhase, run_bind]
  rcases (Site.call (.readPod client pod ns)).run s with ⟨e | remote, t⟩
  · rfl
  · cases hphase : remote.phase with
    | none => simp [found, hphase]
    | some phase => by_cases hdecides : isDecisive phase = true <;> simp [found, hphase, hdecides]

/-- A look that notes phases does the same beside the notes. -/
theorem run_hasDecided (s : Site τ ω) (notes : List String) :
    (Poll.whether (hasDecided client pod ns)).run (s.withNotes notes) =
      ((found ((Site.call (.readPod client pod ns)).run s).1).map (Poll.Look.map fun _ => ()),
        ((Site.call (.readPod client pod ns)).run s).2.withNotes
          (notes ++ (phaseIn ((Site.call (.readPod client pod ns)).run s).1).toList)) := by
  rw [Poll.whether, hasDecided, run_bind, run_bind, Site.run_call_withNotes]
  rcases (Site.call (.readPod client pod ns)).run s with ⟨e | remote, t⟩
  · simp [phaseIn, found, Except.map]
  · cases hphase : remote.phase with
    | none => simp [hphase, phaseIn, found, Except.map, Poll.Look.map]
    | some phase =>
      cases hdecides : isDecisive phase <;>
        simp only [hphase, hdecides, phaseIn, found, if_true, Bool.false_eq_true, if_false] <;> rfl

omit [Host τ ω] in
/-- The phase with which a poll is over was in the reply. -/
theorem phaseIn_of_met {absorbs : Fault τ → Bool} {w : Poll.Waiting τ} {phase : String}
    {r : Except (Fault τ) Remote} (h : Poll.verdict absorbs w (found r) = .met phase) :
    phaseIn r = some phase ∧ isDecisive phase = true := by
  cases r with
  | error e => cases he : absorbs e <;> simp [found, Poll.verdict, he] at h
  | ok remote =>
    cases hphase : remote.phase with
    | none => simp [found, Poll.verdict, hphase] at h
    | some seen =>
      cases hdecides : isDecisive seen
      · simp [found, Poll.verdict, hphase, hdecides] at h
      · simp only [found, Poll.verdict, hphase, hdecides, if_true, Poll.Verdict.met.injEq] at h
        subst h
        exact ⟨hphase, hdecides⟩

variable [Seconds τ] (client pod ns)

/-- A poll that looks for a phase that decides does the same with the phases noted beside it. If it
finds one, then that was noted last. -/
theorem lookUntil_withNotes (p : Poll τ) (absorbs : Fault τ → Bool) (deadline : τ) (rounds : Nat)
    (w : Poll.Waiting τ) (s : Site τ ω) (notes : List String) :
    let result := (Poll.lookUntil p absorbs (lookForPhase client pod ns) deadline rounds w).run s
    ∃ noted,
      (Poll.lookUntil p absorbs (Poll.whether (hasDecided client pod ns)) deadline rounds w).run
        (s.withNotes notes) =
        (result.1.map fun r => r.map fun _ => (), result.2.withNotes noted) ∧
      ∀ phase, result.1 = .ok (.ok phase) → noted.getLast? = some phase := by
  induction rounds generalizing w s notes with
  | zero => exact ⟨notes, rfl, by rintro _ ⟨⟩⟩
  | succ rounds ih =>
    dsimp only
    rw [Poll.lookUntil, Poll.lookUntil, run_bind, run_bind, run_attempt, run_attempt,
      run_lookForPhase, run_hasDecided]
    rcases (Site.call (.readPod client pod ns)).run s with ⟨r, t⟩
    dsimp only
    rw [Poll.verdict_map]
    cases hverdict : Poll.verdict absorbs w (found r) with
    | met phase =>
      refine ⟨_, rfl, ?_⟩
      rintro _ ⟨⟩
      rw [(phaseIn_of_met hverdict).1]
      simp
    | broken e => exact ⟨_, rfl, by rintro _ ⟨⟩⟩
    | waiting w =>
      dsimp only [Poll.Verdict.map]
      rw [run_bind_ok (Site.run_now t), run_bind_ok (Site.run_now_withNotes t _)]
      by_cases hlate : deadline - Host.now t.world ≤ 0.0
      · rw [if_pos hlate, if_pos hlate]
        exact ⟨_, rfl, by rintro _ ⟨⟩⟩
      · rw [if_neg hlate, if_neg hlate, run_bind_ok (Site.run_pause _ t),
          run_bind_ok (Site.run_pause_withNotes _ t _)]
        exact ih w _ _

/-- A wait for a phase that decides ends the same with the phases noted beside it. -/
theorem hold_withNotes (p : Poll τ) (absorbs : Fault τ → Bool) (s : Site τ ω) :
    let result := (p.find absorbs (lookForPhase client pod ns)).run s
    ∃ noted,
      (p.hold absorbs (hasDecided client pod ns)).run (s.withNotes []) =
        (result.1.map fun _ => (), result.2.withNotes noted) ∧
      ∀ phase, result.1 = .ok phase → noted.getLast? = some phase := by
  dsimp only
  obtain ⟨noted, hrun, hlast⟩ := lookUntil_withNotes client pod ns p absorbs
    (Host.now s.world + p.timeout) (Seconds.rounds p.timeout p.interval) .start s []
  rw [Poll.hold, Poll.find, Poll.find, Poll.await, Poll.await, bind_assoc, bind_assoc,
    run_bind_ok (Site.run_now s), run_bind_ok (Site.run_now_withNotes s _), run_bind, run_bind, hrun]
  refine ⟨noted, ?_⟩
  revert hlast
  rcases (Poll.lookUntil p absorbs (lookForPhase client pod ns) (Host.now s.world + p.timeout)
    (Seconds.rounds p.timeout p.interval) .start).run s with ⟨e | w | phase, t⟩
  · exact fun _ => ⟨rfl, by rintro _ ⟨⟩⟩
  · exact fun _ => ⟨rfl, by rintro _ ⟨⟩⟩
  · intro hlast
    refine ⟨rfl, ?_⟩
    rintro _ ⟨⟩
    exact hlast phase rfl

/-- Waits for a phase that decides. -/
def awaitPhase (client pod ns : String) (timeout interval : τ) : SiteM τ ω String := do
  let poll ← Poll.required timeout interval ("pod " ++ ns ++ "/" ++ pod ++ " to be running")
  poll.find Poll.absorbsOrdinary (lookForPhase client pod ns)

/-- A wait for a pod to run asks for the last phase it has noted, which is the one that decided. -/
theorem awaitRunning_eq (timeout interval : τ) :
    (awaitRunningThrough client pod ns timeout interval : SiteM τ ω Unit) =
      awaitPhase client pod ns timeout interval >>= judge pod ns := by
  rw [awaitRunningThrough, awaitPhase, bind_assoc]
  congr 1
  funext poll s
  change Proc.run _ s = Proc.run _ s
  obtain ⟨noted, hrun, hlast⟩ := hold_withNotes client pod ns poll Poll.absorbsOrdinary s
  rw [run_bind, run_bind, Site.noted, run_focus, run_bind, hrun]
  revert hlast
  rcases (poll.find Poll.absorbsOrdinary (lookForPhase client pod ns)).run s with ⟨e | phase, t⟩
  · exact fun _ => rfl
  · intro hlast
    change (judgeLast pod ns noted).run t = (judge pod ns phase).run t
    rw [judgeLast, hlast phase rfl]

end Pod

end Testbed
