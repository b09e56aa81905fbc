import Testbed.Fault.Basic
import Testbed.Host.Call

/-!
# The history of a run

What happens in a run is kept in order: the calls with their replies, the pauses, the log entries,
the spans in the order of their ends, the marks that are left where deferred actions and hooks
start, and what comes into the custody of a framework and leaves it again.
-/

set_option autoImplicit false

namespace Testbed

/-- How serious a log entry is. -/
inductive Level where
  | debug
  | info
  | warning
  | error
  deriving DecidableEq, Repr

/-- The name of a level. -/
def Level.label : Level → String
  | .debug => "debug"
  | .info => "info"
  | .warning => "warning"
  | .error => "error"

/-- A log entry. -/
structure LogEntry (τ : Type) where
  level : Level
  name : String
  fields : List (String × Detail τ)

/-- How a span ended: with a value, with an ordinary fault, or with a fault that passed through. -/
inductive SpanStatus where
  | ok
  | error (label : String)
  | unset
  deriving DecidableEq, Repr

/-- A span that has ended. -/
structure SpanRecord where
  name : String
  attributes : List (String × Value)
  status : SpanStatus

/-- The side of the test on which a hook of the provider runs. -/
inductive HookStage where
  | before
  | after
  deriving DecidableEq, Repr

/-- A place that a run passes. -/
inductive Mark where
  /-- A deferred or registered action starts. -/
  | action (name : String)
  /-- A hook of the provider starts for a framework. -/
  | hook (stage : HookStage) (baseName : String)
  /-- A fault with this label was absorbed. -/
  | caught (label : String)
  deriving DecidableEq, Repr

/-- How the namespaces in the custody of a framework change. -/
inductive Custody (τ : Type) where
  /-- Namespaces were handed to the framework, by its way to create them or from outside. -/
  | taken (records : List Namespace.Record)
  /-- A deletion was attempted, and this is how the attempt ended. -/
  | attempted (name : String) (ending : Except (Fault τ) Unit)
  /-- A teardown left these namespaces on the server. -/
  | kept (names : List String)

/-- An event of a run. -/
inductive Event (τ : Type) where
  /-- A call, made at the given time, and how it was answered. -/
  | exchange (time : τ) (call : Call τ) (reply : Except (Fault τ) call.Reply)
  | pause (length : τ)
  | log (entry : LogEntry τ)
  | span (ended : SpanRecord)
  | mark (time : τ) (place : Mark)
  | custody (framework : Nat) (change : Custody τ)

namespace Event

variable {τ : Type}

/-- The log entry of an event, if it is one. -/
def log? : Event τ → Option (LogEntry τ)
  | .log e => some e
  | _ => none

/-- The span that an event ends, if it does. -/
def span? : Event τ → Option SpanRecord
  | .span ended => some ended
  | _ => none

/-- The length of the pause that an event is, if it is one. -/
def pause? : Event τ → Option τ
  | .pause t => some t
  | _ => none

/-- The call that an event is, if it is one. -/
def call? : Event τ → Option (Call τ)
  | .exchange _ c _ => some c
  | _ => none

/-- The framework whose custody an event changes, and how, if it does. -/
def custody? : Event τ → Option (Nat × Custody τ)
  | .custody framework change => some (framework, change)
  | _ => none

end Event

/-- The name under which a mark is recorded, and its arguments. -/
def Mark.recorded {τ : Type} : Mark → String × List (Detail τ)
  | .action name => ("action", [.text name])
  | .hook .before baseName => ("provider.before_each", [.text baseName])
  | .hook .after baseName => ("provider.after_each", [.text baseName])
  | .caught label => ("caught", [.text label])

/-- The time, name and arguments of an event that is recorded as a call. -/
def Event.recorded? {τ : Type} : Event τ → Option (τ × String × List (Detail τ))
  | .exchange time c _ => some (time, c.name, c.arguments)
  | .mark time m => some (time, m.recorded)
  | _ => none

end Testbed
