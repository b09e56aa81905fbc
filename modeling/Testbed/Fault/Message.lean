import Testbed.Fault.Basic
import Testbed.Value.Literal

/-!
# The words of faults

Each fault has a label, a message, and a literal that shows label and message together. The
families of a fault are its own label and those of the wider kinds of faults it belongs to; a
poll that looks again only after some faults names the families of these.
-/

set_option autoImplicit false

namespace Testbed

namespace PlainKind

/-- The label of a kind. -/
def label : PlainKind → String
  | .general => "Exception"
  | .runtime => "RuntimeError"
  | .value => "ValueError"
  | .lookup => "LookupError"
  | .missingKey => "KeyError"
  | .index => "IndexError"
  | .system => "OSError"
  | .connection => "ConnectionError"
  | .connectionReset => "ConnectionResetError"
  | .timedOut => "TimeoutError"
  | .assertion => "AssertionError"
  | .keyboardInterrupt => "KeyboardInterrupt"
  | .systemExit => "SystemExit"
  | .generatorExit => "GeneratorExit"
  | .framework => "FrameworkError"
  | .configuration => "ConfigException"
  | .wrongType => "TypeError"
  | .missingPart => "AttributeError"
  | .depth => "RecursionError"
  | .blocking => "BlockingIOError"
  | .brokenPipe => "BrokenPipeError"
  | .childProcess => "ChildProcessError"
  | .connectionAborted => "ConnectionAbortedError"
  | .connectionRefused => "ConnectionRefusedError"
  | .fileExists => "FileExistsError"
  | .fileMissing => "FileNotFoundError"
  | .isDirectory => "IsADirectoryError"
  | .notDirectory => "NotADirectoryError"
  | .interruptedCall => "InterruptedError"
  | .permission => "PermissionError"
  | .processMissing => "ProcessLookupError"
  | .stopIteration => "StopIteration"

/-- Whether a kind reports a failed call of the operating system. -/
def isSystem : PlainKind → Bool
  | .system | .connection | .connectionReset | .timedOut | .blocking | .brokenPipe | .childProcess
  | .connectionAborted | .connectionRefused | .fileExists | .fileMissing | .isDirectory
  | .notDirectory | .interruptedCall | .permission | .processMissing => true
  | _ => false

/-- The wider kinds that a kind belongs to. -/
def wider : PlainKind → List PlainKind
  | .general | .keyboardInterrupt | .systemExit | .generatorExit => []
  | .missingKey | .index => [.lookup, .general]
  | .system => [.general]
  | .connectionReset | .connectionAborted | .connectionRefused | .brokenPipe =>
    [.connection, .system, .general]
  | .connection | .timedOut | .blocking | .childProcess | .fileExists | .fileMissing | .isDirectory
  | .notDirectory | .interruptedCall | .permission | .processMissing => [.system, .general]
  | .depth => [.runtime, .general]
  | _ => [.general]

/-- The kind that an error number of the operating system stands for. -/
def ofErrorNumber : Int → PlainKind
  | 1 | 13 => .permission
  | 2 => .fileMissing
  | 3 => .processMissing
  | 4 => .interruptedCall
  | 10 => .childProcess
  | 11 | 114 | 115 => .blocking
  | 17 => .fileExists
  | 20 => .notDirectory
  | 21 => .isDirectory
  | 32 | 108 => .brokenPipe
  | 103 => .connectionAborted
  | 104 => .connectionReset
  | 110 => .timedOut
  | 111 => .connectionRefused
  | _ => .system

end PlainKind

namespace Fault

variable {τ : Type}

/-- The label of a fault. -/
def label : Fault τ → String
  | .plain kind _ => kind.label
  | .api .. => "ApiException"
  | .failed _ => "Failed"
  | .setup .. => "FrameworkSetupError"
  | .creation .. => "NamespaceCreationError"
  | .deletion .. => "NamespaceDeletionError"
  | .cleanup .. => "NamespaceCleanupError"
  | .podFinished .. => "PodNotRunningError"
  | .invalidName .. => "InvalidNamespaceError"
  | .pollTimeout .. => "PollingTimeoutError"
  | .invalidSettings _ => "ValidationError"
  | .usage _ => "UsageError"
  | .generatorStop _ => PlainKind.label .runtime

/-- The widest family, to which every fault belongs. -/
def widestFamily : String := "BaseException"

/-- The families that a fault belongs to besides its own label and the widest family. -/
def widerFamilies : Fault τ → List String
  | .plain kind _ => kind.wider.map PlainKind.label
  | .failed _ => []
  | .invalidName .. | .invalidSettings _ => [PlainKind.label .value, PlainKind.label .general]
  | .pollTimeout .. => (PlainKind.timedOut :: PlainKind.timedOut.wider).map PlainKind.label
  | .setup .. | .creation .. | .deletion .. | .cleanup .. | .podFinished .. =>
    [PlainKind.label .framework, PlainKind.label .general]
  | .api .. | .usage _ | .generatorStop _ => [PlainKind.label .general]

/-- All families of a fault. -/
def families (e : Fault τ) : List String := e.label :: e.widerFamilies ++ [widestFamily]

/-- Whether a fault belongs to one of the named families. -/
def isOneOf (names : List String) (e : Fault τ) : Bool := e.families.any names.contains

/-- Whether the library itself has raised the fault. -/
def isFramework (e : Fault τ) : Bool := e.isOneOf [PlainKind.label .framework]

/-- The file that a failed system call names, and the second one, if any: its third argument, if
that is there, and the last of five. -/
def systemFiles : List Value → List Value
  | [_, _, file] | [_, _, file, _] => [file]
  | [_, _, file, _, .null] => [file]
  | [_, _, file, _, second] => [file, second]
  | _ => []

/-- Whether a value counts something. -/
def isCount : Value → Bool
  | .int _ | .flag _ => true
  | _ => false

/-- The files of a failed system call that are not missing. A call that would have blocked may
count in place of a file what it has written. -/
def namedFiles (kind : PlainKind) (args : List Value) : List Value :=
  match systemFiles args with
  | .null :: _ => []
  | file :: more => if kind = .blocking && isCount file then [] else file :: more
  | [] => []

/-- The message of a failed system call: number and text, then the files. -/
def systemMessage (kind : PlainKind) (args : List Value) : String :=
  match args with
  | number :: text :: rest =>
    if rest.length ≤ 3 then
      "[Errno " ++ number.display ++ "] " ++ text.display ++
        (match namedFiles kind args with
         | [] => ""
         | files => ": " ++ " -> ".intercalate (files.map Value.literal))
    else Value.displayAll args
  | _ => Value.displayAll args

/-- The message of a fault that holds nothing but its arguments. -/
def plainMessage (kind : PlainKind) (args : List Value) : String :=
  match kind, args with
  | .missingKey, [key] => key.literal
  | kind, args => if kind.isSystem then systemMessage kind args else Value.displayAll args

/-- The arguments of a fault as its literal shows them: the files of a failed system call are
left out. -/
def shownArgs (kind : PlainKind) (args : List Value) : List Value :=
  if kind.isSystem && !(namedFiles kind args).isEmpty then args.take 2 else args

/-- A text that may be missing. -/
def orNone : Option String → String
  | some s => s
  | none => Value.literal .null

/-- The message of an answer of the server. -/
def apiMessage (status : Option Int) (reason body : Option String) : String :=
  "(" ++ orNone (status.map toString) ++ ")\nReason: " ++ orNone reason ++ "\n" ++
    (match body with
     | some b => if b.isEmpty then "" else "HTTP response body: " ++ b ++ "\n"
     | none => "")

/-- The message of a poll that timed out, without its last fault. -/
def timeoutMessage [Seconds τ] (poll : Poll τ) (attempts : Int) : String :=
  "Timeout waiting for " ++ poll.subject ++ " after " ++ Seconds.tenths poll.timeout ++ "s (" ++
    toString attempts ++ " attempts)"

/-- How a fault with a given label and message shows itself among other texts. -/
def literalOf (e : Fault τ) (message : String) : String :=
  match e with
  | .plain kind args => kind.label ++ "(" ++ ", ".intercalate (Value.literals (shownArgs kind args)) ++ ")"
  | .api .. => "ApiException()"
  | .failed message => message
  | e => e.label ++ "(" ++ Text.quoted message ++ ")"

mutual

/-- What a fault tells the user. -/
def message [Seconds τ] : Fault τ → String
  | .plain kind args => plainMessage kind args
  | .api status reason body => apiMessage status reason body
  | .failed text => text
  | .setup baseName stage reason _ =>
    "Framework " ++ Text.quoted baseName ++ " setup failed during " ++ stage ++ ": " ++ reason
  | .creation baseName reason _ _ =>
    "Couldn't create namespace for " ++ Text.quoted baseName ++ ": " ++ reason
  | .deletion name kind reason _ =>
    "Couldn't delete namespace " ++ Text.quoted name ++ " (" ++ kind.label ++ "): " ++ reason
  | .cleanup errors _ => ", ".intercalate (cleanupMessages errors)
  | .podFinished pod ns phase =>
    "Pod " ++ ns ++ "/" ++ pod ++ " finished with phase " ++ phase ++ " before running"
  | .invalidName name reason => "Invalid namespace '" ++ name ++ "': " ++ reason
  | .pollTimeout poll attempts none => timeoutMessage poll attempts
  | .pollTimeout poll attempts (some last) =>
    timeoutMessage poll attempts ++ " (last error: " ++ message last ++ ")"
  | .invalidSettings issues => toString issues.length ++ " invalid settings"
  | .usage _ => "Invalid e2e framework configuration"
  | .generatorStop _ => "generator raised " ++ PlainKind.label .stopIteration

/-- The messages of the namespaces that could not be deleted. -/
def cleanupMessages [Seconds τ] : List (String × Fault τ) → List String
  | [] => []
  | (name, e) :: rest =>
    let text := message e
    ("Couldn't delete ns: " ++ Text.quoted name ++ ": " ++ text ++ " (" ++ literalOf e text ++ ")")
      :: cleanupMessages rest

end

/-- How a fault shows itself among other texts. -/
def literal [Seconds τ] (e : Fault τ) : String := literalOf e e.message

/-- An ordinary fault belongs to the family of ordinary faults. -/
theorem isOneOf_general {e : Fault τ} :
    e.isOneOf [PlainKind.label .general] = e.isOrdinary := by
  cases e with
  | plain kind args => cases kind <;> rfl
  | _ => rfl

end Fault

end Testbed
