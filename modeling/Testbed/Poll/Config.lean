import Testbed.Config.Fields
import Testbed.Poll.Basic

/-!
# Settings of polls

A poll waits for no negative time, pauses at least a tenth of a second, and has a subject.
-/

set_option autoImplicit false

namespace Testbed.Poll

open Config

variable {τ : Type} [Seconds τ]

/-- Half a minute, looking every two seconds. -/
def standard : Poll τ := ⟨30.0, 2.0, "condition"⟩

/-- The fields of a poll. -/
def fields : List String := ["timeout", "interval", "description"]

/-- Accepts timeouts. -/
def boundTimeout (x : τ) : Except Problem τ := atLeast 0.0 "0" x

/-- Accepts intervals. -/
def boundInterval (x : τ) : Except Problem τ := atLeast 0.1 "0.1" x

/-- Reads a subject, which is not empty. -/
def readSubject (v : Value) : Except Problem String := do
  let s ← readText v
  if s.isEmpty then .error .emptyText else .ok s

/-- Reads a poll from its entries. -/
def ofEntries (entries : Entries) : Checked (Poll τ) :=
  let p := Checked.ap (.ok Poll.mk)
    (.field entries "timeout" standard.timeout fun v => readNumber v >>= boundTimeout)
  let p := p.ap
    (.field entries "interval" standard.interval fun v => readNumber v >>= boundInterval)
  (p.ap (.field entries "description" (standard (τ := τ)).subject readSubject)).closed entries fields

/-- One field of a poll whose value is there already. -/
def given {α : Type} (name : String) (r : Except Problem α) : Checked α :=
  match r with
  | .ok a => .ok a
  | .error p => .error [⟨name, p⟩]

/-- A poll of given times, if they are within bounds. -/
def check (timeout interval : τ) (subject : String) : Checked (Poll τ) :=
  let p := Checked.ap (.ok Poll.mk) (given "timeout" (boundTimeout timeout))
  let p := p.ap (given "interval" (boundInterval interval))
  let p := p.ap (given "description" (if subject.isEmpty then .error .emptyText else .ok subject))
  p.closed [] fields

end Testbed.Poll
