import Testbed.Config.Issue
import Testbed.Namespace.Record
import Testbed.Poll.Basic

/-!
# Faults

Every way in which a procedure can end without a value. Ordinary faults may be absorbed by the
code that meets them. The others, which stop the run or report the verdict of a test, pass
through every handler for ordinary faults. A fault can carry the fault that caused it.
-/

set_option autoImplicit false

namespace Testbed

/-- Kinds of faults that hold nothing but their arguments. -/
inductive PlainKind where
  | general
  | runtime
  | value
  | lookup
  | missingKey
  | index
  | system
  | connection
  | connectionReset
  | timedOut
  | assertion
  | keyboardInterrupt
  | systemExit
  | generatorExit
  | framework
  | configuration
  | wrongType
  | missingPart
  | depth
  | blocking
  | brokenPipe
  | childProcess
  | connectionAborted
  | connectionRefused
  | fileExists
  | fileMissing
  | isDirectory
  | notDirectory
  | interruptedCall
  | permission
  | processMissing
  | stopIteration
  deriving DecidableEq, Repr

/-- Why a namespace could not be deleted, as far as the server tells. -/
inductive DeletionKind where
  | notFound
  | timeout
  | forbidden
  | other
  deriving DecidableEq, Repr

/-- A fault. -/
inductive Fault (τ : Type) where
  /-- A fault of the outside that holds its arguments. -/
  | plain (kind : PlainKind) (args : List Value)
  /-- An answer of the server that refuses or fails a request. -/
  | api (status : Option Int) (reason body : Option String)
  /-- The verdict of a test that fails itself. -/
  | failed (message : String)
  /-- A test could not be set up. -/
  | setup (baseName stage reason : String) (cause : Option (Fault τ))
  /-- A namespace could not be created; one that was made but is not usable is carried along. -/
  | creation (baseName reason : String) (leftover : Option Namespace.Record)
      (cause : Option (Fault τ))
  /-- A namespace could not be deleted. -/
  | deletion (name : String) (kind : DeletionKind) (reason : String) (cause : Option (Fault τ))
  /-- Namespaces that a teardown could not delete, each with its fault. -/
  | cleanup (errors : List (String × Fault τ)) (cause : Option (Fault τ))
  /-- A pod finished before it was seen running. -/
  | podFinished (pod ns phase : String)
  /-- A text that is no namespace name. -/
  | invalidName (name reason : String)
  /-- A poll that was still waiting at its deadline. -/
  | pollTimeout (poll : Poll τ) (attempts : Int) (last : Option (Fault τ))
  /-- Settings that do not fit their fields. -/
  | invalidSettings (issues : List Config.Issue)
  /-- A command line or configuration that the run cannot start with. -/
  | usage (cause : Option (Fault τ))
  /-- A generator whose code has raised a stop of iteration with these arguments. -/
  | generatorStop (stop : List Value)

namespace PlainKind

/-- Whether faults of this kind may be absorbed. -/
def isOrdinary : PlainKind → Bool
  | .keyboardInterrupt | .systemExit | .generatorExit => false
  | _ => true

/-- Whether faults of this kind stop the whole run. -/
def endsRun : PlainKind → Bool
  | .keyboardInterrupt | .systemExit => true
  | _ => false

end PlainKind

namespace DeletionKind

/-- The name of a kind in messages and logs. -/
def label : DeletionKind → String
  | .notFound => "not_found"
  | .timeout => "timeout"
  | .forbidden => "forbidden"
  | .other => "other"

/-- The kind that a status of the server stands for. -/
def ofStatus : Option Int → DeletionKind
  | some 404 => .notFound
  | some 403 => .forbidden
  | some 408 => .timeout
  | some 504 => .timeout
  | _ => .other

end DeletionKind

namespace Fault

variable {τ : Type}

/-- Whether the fault may be absorbed by code that handles ordinary faults. -/
def isOrdinary : Fault τ → Bool
  | .plain kind _ => kind.isOrdinary
  | .failed _ => false
  | _ => true

/-- Whether the fault stops the whole run. -/
def endsRun : Fault τ → Bool
  | .plain kind _ => kind.endsRun
  | _ => false

/-- The fault that a fault was raised from. -/
def cause : Fault τ → Option (Fault τ)
  | .setup _ _ _ cause => cause
  | .creation _ _ _ cause => cause
  | .deletion _ _ _ cause => cause
  | .cleanup _ cause => cause
  | .usage cause => cause
  | .generatorStop stop => some (.plain .stopIteration stop)
  | _ => none

/-- A fault of the library itself with a message of its own. -/
def framework (message : String) : Fault τ := .plain .framework [.text message]

/-- The fault that leaves a generator whose code has raised a fault. A stop of iteration would be
taken for the end of the generator, so it becomes the cause of another fault. -/
def outOfGenerator : Fault τ → Fault τ
  | .plain .stopIteration stop => .generatorStop stop
  | e => e

/-- The answer that something does not exist. -/
def notFound : Fault τ := .api (some 404) (some "Not Found") none

/-- A fault that stops the run is not ordinary. -/
theorem isOrdinary_eq_false_of_endsRun {e : Fault τ} (h : e.endsRun = true) :
    e.isOrdinary = false := by
  cases e with
  | plain kind args =>
    cases kind <;> simp_all [endsRun, isOrdinary, PlainKind.endsRun, PlainKind.isOrdinary]
  | _ => simp [endsRun] at h

/-- A generator lets every fault through but a stop of iteration. -/
theorem outOfGenerator_eq_self_iff {e : Fault τ} :
    e.outOfGenerator = e ↔ ∀ stop, e ≠ .plain .stopIteration stop := by
  cases e with
  | plain kind args => cases kind <;> simp [outOfGenerator]
  | _ => simp [outOfGenerator]

/-- A fault is as ordinary outside of a generator as in it. -/
@[simp] theorem isOrdinary_outOfGenerator (e : Fault τ) :
    e.outOfGenerator.isOrdinary = e.isOrdinary := by
  cases e with
  | plain kind args => cases kind <;> rfl
  | _ => rfl

end Fault

end Testbed
