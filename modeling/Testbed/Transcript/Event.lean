import Testbed.Host.Event
import Testbed.Transcript.Fault

/-!
# Events in transcripts

The events of a run are written by kind, each kind in order: calls and marks with their time, log
entries, and spans.
-/

set_option autoImplicit false

namespace Testbed.Transcript

/-- An argument of a call or a field of a log entry. -/
def detail : Detail Float → Value
  | .value v => v
  | .seconds t => seconds t

/-- A log entry. -/
def logEntry (e : LogEntry Float) : Value :=
  .table
    ([("level", .text e.level.label), ("event", .text e.name)] ++
      e.fields.map fun f => (f.1, detail f.2))

/-- The status of a span, and its description if it has one. -/
def spanStatus : SpanStatus → List Value
  | .ok => [.text "OK", .null]
  | .error label => [.text "ERROR", .text label]
  | .unset => [.text "UNSET", .null]

/-- A span that has ended. -/
def span (s : SpanRecord) : Value :=
  .list ([.text s.name, .table s.attributes] ++ spanStatus s.status)

/-- A call or a mark: time, name and arguments. -/
def call (c : Float × String × List (Detail Float)) : Value :=
  .list (seconds c.1 :: .text c.2.1 :: c.2.2.map detail)

/-- The entries of the events of a run, and of the time at its end. -/
def happened (events : List (Event Float)) (time : Float) : List (String × Value) :=
  [("calls", .list ((events.filterMap Event.recorded?).map call)),
   ("logs", .list ((events.filterMap Event.log?).map logEntry)),
   ("spans", .list ((events.filterMap Event.span?).map span)), ("t", seconds time)]

/-- The pauses of a run. -/
def pauses (events : List (Event Float)) : Value :=
  .list ((events.filterMap Event.pause?).map seconds)

/-- How a run ended: the entry of its result, or those of its fault. -/
def ended : Except (Fault Float) Value → List (String × Value)
  | .ok v => [("result", v)]
  | .error e => (fault e).entries

end Testbed.Transcript
