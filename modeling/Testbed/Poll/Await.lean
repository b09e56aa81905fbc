import Testbed.Host.Site
import Testbed.Poll.Config

/-!
# Awaiting what a look can find

A poll looks at once, and again after each pause until its deadline. The last pause is cut to end
at the deadline, where it looks once more. Faults of a look that the poll absorbs mean that it has
to look again; any other fault ends it. A poll that finds nothing tells how it was waiting: how
often it looked, the last fault it absorbed, and the last note that a look left.
-/

set_option autoImplicit false

namespace Testbed.Poll

variable {τ ω α : Type}

/-- What a look sees: what it was looking for, or nothing yet, possibly with a note why. -/
inductive Look (τ α : Type) where
  | found (a : α)
  | notYet (note : Option (Fault τ))

/-- How far a poll has come that still waits. -/
structure Waiting (τ : Type) where
  looks : Nat
  last : Option (Fault τ)
  note : Option (Fault τ)

/-- A poll that has not looked yet. -/
def Waiting.start : Waiting τ := ⟨0, none, none⟩

/-- The fault of a poll that was still waiting at its deadline. -/
def Waiting.fault (w : Waiting τ) (p : Poll τ) : Fault τ := .pollTimeout p w.looks w.last

/-- What the end of a look means for the poll. -/
inductive Verdict (τ α : Type) where
  | met (a : α)
  | broken (e : Fault τ)
  | waiting (w : Waiting τ)

/-- The verdict on the end of a look. -/
def verdict (absorbs : Fault τ → Bool) (w : Waiting τ) : Except (Fault τ) (Look τ α) → Verdict τ α
  | .ok (.found a) => .met a
  | .ok (.notYet note) => .waiting ⟨w.looks + 1, w.last, note.or w.note⟩
  | .error e => if absorbs e then .waiting ⟨w.looks + 1, some e, w.note⟩ else .broken e

variable [Seconds τ] [Host τ ω]

/-- Looks until something is found or the deadline has come. The number bounds the looks. -/
def lookUntil (p : Poll τ) (absorbs : Fault τ → Bool) (look : SiteM τ ω (Look τ α)) (deadline : τ) :
    Nat → Waiting τ → SiteM τ ω (Except (Waiting τ) α)
  | 0, w => pure (.error w)
  | rounds + 1, w => do
    match verdict absorbs w (← look.attempt) with
    | .met a => pure (.ok a)
    | .broken e => .fail e
    | .waiting w =>
      let now ← Site.now
      let remaining := deadline - now
      if remaining ≤ 0.0 then pure (.error w)
      else do
        Site.pause (Seconds.least p.interval remaining)
        lookUntil p absorbs look deadline rounds w

/-- Waits until a look finds something; otherwise tells how the poll was waiting at its
deadline. -/
def await (p : Poll τ) (absorbs : Fault τ → Bool) (look : SiteM τ ω (Look τ α)) :
    SiteM τ ω (Except (Waiting τ) α) := do
  let start ← Site.now
  lookUntil p absorbs look (start + p.timeout) (Seconds.rounds p.timeout p.interval) .start

/-- A look at whether a condition holds. -/
def whether (condition : SiteM τ ω Bool) : SiteM τ ω (Look τ Unit) := do
  if ← condition then pure (.found ()) else pure (.notYet none)

/-- Waits until a look finds something, with a fault if the deadline comes first. -/
def find (p : Poll τ) (absorbs : Fault τ → Bool) (look : SiteM τ ω (Look τ α)) : SiteM τ ω α := do
  match ← p.await absorbs look with
  | .ok a => pure a
  | .error w => .fail (w.fault p)

/-- Waits until a condition holds, with a fault if the deadline comes first. -/
def hold (p : Poll τ) (absorbs : Fault τ → Bool) (condition : SiteM τ ω Bool) : SiteM τ ω Unit :=
  p.find absorbs (whether condition)

/-- The faults that polls absorb unless told otherwise: all ordinary ones. -/
def absorbsOrdinary : Fault τ → Bool := Fault.isOrdinary

/-- The choice of polls whose looks handle their faults themselves. -/
def absorbsNone : Fault τ → Bool := fun _ => false

/-- A poll of given times, or a fault if they are out of bounds. -/
def required (timeout interval : τ) (subject : String) : SiteM τ ω (Poll τ) :=
  match check timeout interval subject with
  | .ok p => pure p
  | .error issues => .fail (.invalidSettings issues)

/-- How far apart polls look unless told otherwise. -/
def standardInterval : τ := 2.0

omit [Seconds τ] in
/-- A poll that absorbs ordinary faults is broken by every other fault. -/
theorem verdict_of_not_ordinary {w : Waiting τ} {e : Fault τ} (h : e.isOrdinary = false) :
    verdict (α := α) absorbsOrdinary w (.error e) = .broken e := by
  simp [verdict, absorbsOrdinary, h]

end Testbed.Poll
