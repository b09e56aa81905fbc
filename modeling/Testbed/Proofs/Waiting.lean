import Testbed.Poll.Await
import Testbed.Proofs.Along

/-!
# How polls end

A poll is a loop, and what it establishes is stated as for a loop: an invariant that looks and
pauses keep, what holds where a look finds something, and what holds where a fault breaks the poll
off. A poll whose times are within bounds is never refused.
-/

set_option autoImplicit false

namespace Testbed

open Proc

variable {τ ω α : Type}

namespace Site

theorem now_ends [Host τ ω] (s : Site τ ω) :
    Ends (now : SiteM τ ω τ) s fun r t => r = .ok (Host.now s.world) ∧ t = s := ⟨rfl, rfl⟩

theorem freshId_ends [Host τ ω] (s : Site τ ω) :
    Ends (freshId : SiteM τ ω String) s fun r t => r = .ok (Host.freshId s.world).1 ∧
      t.world = (Host.freshId s.world).2 ∧ t.events = s.events := ⟨rfl, rfl, rfl⟩

theorem log_ends (level : Level) (name : String) (fields : List (String × Detail τ))
    (s : Site τ ω) : Ends (log level name fields : SiteM τ ω Unit) s fun r t =>
      r = .ok () ∧ t.world = s.world ∧ t.events = s.events ++ [.log ⟨level, name, fields⟩] :=
  ⟨rfl, rfl, events_record _ s⟩

/-- A pause changes the world as a sleep does, and adds itself to the history. -/
theorem pause_ends [Host τ ω] (length : τ) (s : Site τ ω) :
    Ends (pause length : SiteM τ ω Unit) s fun r t =>
      r = .ok () ∧ t.world = Host.sleep length s.world ∧ t.events = s.events ++ [.pause length] := by
  refine ⟨rfl, rfl, ?_⟩
  simp [pause, elapse, record, run_bind, events]

/-- A call is answered by the world, and adds itself with its reply to the history. -/
theorem call_ends [Host τ ω] (c : Call τ) (s : Site τ ω) :
    Ends (call c : SiteM τ ω c.Reply) s fun r t => r = (Host.reply c s.world).1 ∧
      t.world = (Host.reply c s.world).2 ∧
      t.events = s.events ++ [.exchange (Host.now s.world) c r] :=
  ⟨rfl, rfl, events_call c s⟩

end Site

namespace Poll

variable [Seconds τ]

/-- The times and the subject of a poll that is not refused. -/
structure InBounds (timeout interval : τ) : Prop where
  timeout : 0.0 ≤ timeout
  interval : 0.1 ≤ interval

omit [Seconds τ] in
/-- A subject that begins with some words is not empty. -/
theorem isEmpty_append {words subject : String} (h : words ≠ "") :
    (words ++ subject).isEmpty = false := by
  rw [String.isEmpty_eq_false_iff]
  intro hempty
  exact h (String.append_eq_empty_iff.1 hempty).1

omit [Seconds τ] in
theorem isEmpty_append_append {words subject rest : String} (h : words ≠ "") :
    (words ++ subject ++ rest).isEmpty = false := by
  rw [String.append_assoc]
  exact isEmpty_append h

theorem required_ends {timeout interval : τ} (h : InBounds timeout interval) {subject : String}
    (hsubject : subject.isEmpty = false) (s : Site τ ω) :
    Ends (required timeout interval subject : SiteM τ ω (Poll τ)) s fun r t =>
      r = .ok ⟨timeout, interval, subject⟩ ∧ t = s := by
  have hcheck : check timeout interval subject = .ok ⟨timeout, interval, subject⟩ := by
    simp [check, given, boundTimeout, boundInterval, Config.atLeast, h.timeout, h.interval,
      hsubject, Config.Checked.ap, Config.Checked.closed, Config.Checked.unknown]
  unfold required
  rw [hcheck]
  exact ⟨rfl, rfl⟩

/-- The times of a poll that is accepted are within bounds. -/
theorem inBounds_of_check {timeout interval : τ} {subject : String} {p : Poll τ}
    (h : check timeout interval subject = .ok p) : InBounds timeout interval := by
  by_cases ht : 0.0 ≤ timeout
  · by_cases hi : 0.1 ≤ interval
    · exact ⟨ht, hi⟩
    · cases hsubject : subject.isEmpty <;>
        simp [check, given, boundTimeout, boundInterval, Config.atLeast, ht, hi, hsubject,
          Config.Checked.ap, Config.Checked.closed] at h
  · by_cases hi : 0.1 ≤ interval <;> cases hsubject : subject.isEmpty <;>
      simp [check, given, boundTimeout, boundInterval, Config.atLeast, ht, hi, hsubject,
        Config.Checked.ap, Config.Checked.closed] at h

/-- A poll is made of times within bounds, or refused. -/
theorem required_found (timeout interval : τ) (subject : String) (s : Site τ ω) :
    Ends (required timeout interval subject : SiteM τ ω (Poll τ)) s fun r t => t = s ∧
      match r with
      | .ok _ => InBounds timeout interval
      | .error e => ∃ issues, e = .invalidSettings issues := by
  unfold required
  cases hcheck : check timeout interval subject with
  | error issues => exact ⟨rfl, issues, rfl⟩
  | ok p => exact ⟨rfl, inBounds_of_check hcheck⟩

variable [Host τ ω] {absorbs : Fault τ → Bool} {look : SiteM τ ω (Look τ α)}
  {inv : Site τ ω → Prop} {found : α → Site τ ω → Prop} {broken : Fault τ → Site τ ω → Prop}

/-- What the verdict on a look means for the site where it was passed. -/
def Judged (inv : Site τ ω → Prop) (found : α → Site τ ω → Prop)
    (broken : Fault τ → Site τ ω → Prop) : Verdict τ α → Site τ ω → Prop
  | .met a, t => found a t
  | .broken e, t => broken e t
  | .waiting _, t => inv t

/-- What the end of a poll says of the site where it ended. -/
def Concluded (inv : Site τ ω → Prop) (found : α → Site τ ω → Prop)
    (broken : Fault τ → Site τ ω → Prop) :
    Except (Fault τ) (Except (Waiting τ) α) → Site τ ω → Prop
  | .ok (.ok a), t => found a t
  | .ok (.error _), t => inv t
  | .error e, t => broken e t

/-- The rule for polls: while nothing is found the invariant holds, up to the deadline. -/
theorem lookUntil_ends (p : Poll τ) (deadline : τ)
    (hlook : ∀ w s, inv s → Ends look s fun r t => Judged inv found broken (verdict absorbs w r) t)
    (hpause : ∀ length s, inv s → Ends (Site.pause length) s fun r t => r = .ok () ∧ inv t)
    (rounds : Nat) (w : Waiting τ) (s : Site τ ω) (hs : inv s) :
    Ends (lookUntil p absorbs look deadline rounds w) s (Concluded inv found broken) := by
  induction rounds generalizing w s with
  | zero => exact hs
  | succ rounds ih =>
    apply Ends.bind_attempt (hlook w s hs)
    intro r t hjudged
    revert hjudged
    cases verdict absorbs w r with
    | met a => exact id
    | broken e => exact id
    | waiting w =>
      intro ht
      apply Ends.bind_ok (Site.now_ends t)
      rintro t rfl
      apply Ends.ite
      · intro _
        exact ht
      · intro _
        apply Ends.bind_ok (hpause _ t ht)
        intro t ht
        exact ih w t ht

omit [Seconds τ] [Host τ ω] in
/-- A look at a condition, for a poll that absorbs the ordinary faults. -/
theorem whether_ends {condition : SiteM τ ω Bool} (w : Waiting τ) {s : Site τ ω}
    (h : Ends condition s fun r t =>
      match r with
      | .ok _ => inv t
      | .error e => if e.isOrdinary then inv t else broken e t) :
    Ends (whether condition) s fun r t =>
      Judged inv (fun _ t => inv t) broken (verdict absorbsOrdinary w r) t := by
  apply Ends.bind h
  · intro holds t ht
    apply Ends.ite
    · intro _
      exact ht
    · intro _
      exact ht
  · intro e t ht
    change if e.isOrdinary then inv t else broken e t at ht
    cases he : e.isOrdinary with
    | true =>
      rw [he, if_pos rfl] at ht
      simp only [verdict, absorbsOrdinary, he]
      exact ht
    | false =>
      rw [he, if_neg Bool.false_ne_true] at ht
      rw [verdict_of_not_ordinary he]
      exact ht

theorem await_ends (p : Poll τ)
    (hlook : ∀ w s, inv s → Ends look s fun r t => Judged inv found broken (verdict absorbs w r) t)
    (hpause : ∀ length s, inv s → Ends (Site.pause length) s fun r t => r = .ok () ∧ inv t)
    (s : Site τ ω) (hs : inv s) :
    Ends (p.await absorbs look) s (Concluded inv found broken) := by
  apply Ends.bind_ok (Site.now_ends s)
  rintro s rfl
  exact lookUntil_ends p _ hlook hpause _ _ s hs

end Poll

end Testbed
