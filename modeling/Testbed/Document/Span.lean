import Testbed.Document.Fault
import Testbed.Span.Tree

/-!
# Spans in documents

A document gives what a span is opened for and the steps inside it, which hold spans again.
-/

set_option autoImplicit false

namespace Testbed.Document

variable {τ : Type} [Seconds τ]

/-- Reads what a span is opened for. -/
def span? (v : Value) : Option Span := do
  let operation ← (v.entry "operation").text?
  let baseName ← optionalText? (v.entry "base_name")
  let ns ← optionalText? (v.entry "namespace")
  let extra ← settings? (v.entry "extra")
  some { operation, baseName, ns, extra }

/-- Reads a step inside a span. The first argument bounds how deeply spans nest. -/
def spanStepIn? : Nat → Value → Option (Span.Step τ)
  | 0, _ => none
  | depth + 1, v =>
    match v with
    | .table [("set", .list [.text key, value])] => some (.set key value)
    | .table [("raise", e)] => (fault? e).map .raise
    | .table [("span", inner)] => do
      let span ← span? inner
      let body ← each? (spanStepIn? depth) (inner.entry "body")
      some (.inner span body)
    | .table [("catch", inner)] => do
      let span ← span? inner
      let body ← each? (spanStepIn? depth) (inner.entry "body")
      some (.absorbed span body)
    | _ => none

/-- Reads a span with the steps inside it. -/
def spanTree? (v : Value) : Option (Span × List (Span.Step τ)) := do
  let span ← span? v
  let body ← each? (spanStepIn? v.depth) (v.entry "body")
  some (span, body)

end Testbed.Document
