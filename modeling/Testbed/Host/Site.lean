import Testbed.Host.Event
import Testbed.Proc

/-!
# Hosts and sites

A host is whatever answers calls: it has a clock, sleeps, draws fresh identifiers and random
numbers, and replies to each call with a value or a fault. A site is a host together with the
history of the run on it. Nothing is assumed of a host, so what is proved about procedures at a
site holds for every behaviour of the outside.
-/

set_option autoImplicit false

namespace Testbed

/-- What a state of the outside can be asked. -/
class Host (τ : outParam Type) (ω : Type) where
  now : ω → τ
  sleep : τ → ω → ω
  /-- A fresh identifier. -/
  freshId : ω → String × ω
  /-- Thirty-two random bits. -/
  randomBits : ω → Nat × ω
  reply : (call : Call τ) → ω → Except (Fault τ) call.Reply × ω

/-- A host and what happened on it, the latest event first. -/
structure Site (τ ω : Type) where
  world : ω
  history : List (Event τ)

/-- A procedure at a site. -/
abbrev SiteM (τ ω α : Type) : Type := Proc (Fault τ) (Site τ ω) α

namespace Site

variable {τ ω : Type}

/-- A host on which nothing has happened. -/
def start (world : ω) : Site τ ω := ⟨world, []⟩

/-- What happened at a site, in order. -/
def events (s : Site τ ω) : List (Event τ) := s.history.reverse

/-- Adds an event. -/
def record (e : Event τ) : SiteM τ ω Unit := Proc.modify fun s => { s with history := e :: s.history }

/-- Writes a log entry. -/
def log (level : Level) (name : String) (fields : List (String × Detail τ)) : SiteM τ ω Unit :=
  record (.log ⟨level, name, fields⟩)

variable [Host τ ω]

/-- The time on the clock. -/
def now : SiteM τ ω τ := fun s => (.ok (Host.now s.world), s)

/-- Lets time pass that belongs to nobody's wait. -/
def elapse (length : τ) : SiteM τ ω Unit :=
  Proc.modify fun s => { s with world := Host.sleep length s.world }

/-- Pauses for the given time. -/
def pause (length : τ) : SiteM τ ω Unit := do
  elapse length
  record (.pause length)

/-- Leaves a mark. -/
def mark (m : Mark) : SiteM τ ω Unit := do
  let time ← now
  record (.mark time m)

/-- A fresh identifier. -/
def freshId : SiteM τ ω String := fun s =>
  match Host.freshId s.world with
  | (id, w) => (.ok id, { s with world := w })

/-- Thirty-two random bits. -/
def randomBits : SiteM τ ω Nat := fun s =>
  match Host.randomBits s.world with
  | (n, w) => (.ok n, { s with world := w })

/-- Makes a call and records it together with its reply. -/
def call (c : Call τ) : SiteM τ ω c.Reply := fun s =>
  match Host.reply c s.world with
  | (r, w) => (r, ⟨w, .exchange (Host.now s.world) c r :: s.history⟩)

omit [Host τ ω] in
@[simp] theorem events_start (world : ω) : (start world : Site τ ω).events = [] := rfl

omit [Host τ ω] in
/-- What is recorded comes last. -/
theorem events_record (e : Event τ) (s : Site τ ω) :
    ((record e).run s).2.events = s.events ++ [e] := by
  simp [record, events]

/-- A call adds one exchange to the history, whatever the host replies. -/
theorem events_call (c : Call τ) (s : Site τ ω) :
    ((call c).run s).2.events =
      s.events ++ [.exchange (Host.now s.world) c (Host.reply c s.world).1] := by
  simp [call, events, Proc.run]

end Site

end Testbed
