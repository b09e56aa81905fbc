import Testbed.Config.Environment
import Testbed.Text.Digit

/-!
# Command line options

Two options take a text and four are flags. Options and plain words may be mixed in any order, and
plain words are left to others. The command line is read twice. The first reading takes its
options out, up to two hyphens that make all words behind them plain; two hyphens before every
plain word go away themselves, so that the words behind them are open to the second reading. That
one reads what is left, and there the plain words have to stand together.

The options give entries on top of the environment: the texts as they are, and the flags as fields
that are switched off.
-/

set_option autoImplicit false

namespace Testbed.Config

/-- What the command line says. An option that takes a text is null if it is not given. -/
structure Options where
  kubeconfig : Value := .null
  kubeContext : Value := .null
  keepNamespaces : Bool := false
  keepNamespacesOnFailure : Bool := false
  noDumpLogs : Bool := false
  skipServiceAccountWait : Bool := false

/-- Why a command line cannot be read. -/
inductive Misuse where
  /-- A word is no option, an option lacks its text or has one that it does not take, a plain word
  is out of place, or a file of words is missing. -/
  | usage
  /-- The name of a file of words holds a null character. -/
  | nullInName
  deriving DecidableEq, Repr

/-- The fault that misuse is raised as. -/
def Misuse.fault {τ : Type} : Misuse → Fault τ
  | .usage => .usage none
  | .nullInName => .plain .value [.text "embedded null byte"]

/-- The words that a word stands for. A word with an at sign in front stands for the words of a
file; there are no such files but the empty one. -/
def wordsOf (word : String) : Except Misuse (List String) :=
  match word.toList with
  | '@' :: file =>
    if file.contains '\x00' then .error .nullInName
    else if file = "/dev/null".toList then .ok []
    else .error .usage
  | _ => .ok [word]

/-- All words of a command line, those of files in place of their names. -/
def allWords : List String → Except Misuse (List String)
  | [] => .ok []
  | word :: rest => do
    let here ← wordsOf word
    let behind ← allWords rest
    .ok (here ++ behind)

namespace Options

/-- The value of a text. Two hyphens go away, and no text is left. -/
def valueOf (text : String) : Value := if text = "--" then .list [] else .text text

/-- The options that take a text, with what they set. -/
def setText (o : Options) (name text : String) : Option Options :=
  if name = "--kubeconfig" then some { o with kubeconfig := valueOf text }
  else if name = "--kube-context" then some { o with kubeContext := valueOf text }
  else none

/-- The flags, with what they set. -/
def setFlag (o : Options) (name : String) : Option Options :=
  if name = "--keep-namespaces" then some { o with keepNamespaces := true }
  else if name = "--keep-namespaces-on-failure" then some { o with keepNamespacesOnFailure := true }
  else if name = "--no-dump-logs" then some { o with noDumpLogs := true }
  else if name = "--skip-service-account-wait" then some { o with skipServiceAccountWait := true }
  else none

/-- Whether a name is that of an option. -/
def isOption (name : String) : Bool :=
  ((setText {} name "").isSome) || (setFlag {} name).isSome

/-- The characters without a line feed at their end. -/
def withoutLineFeed (cs : List Char) : List Char :=
  if cs.getLast? = some '\n' then cs.dropLast else cs

/-- Whether the characters are a number: digits of any script, possibly with a point between or in
front, and possibly a line feed at the end. -/
def isNumber (cs : List Char) : Bool :=
  let digits := withoutLineFeed cs
  let whole := digits.takeWhile Text.isDecimalDigit
  match digits.dropWhile Text.isDecimalDigit with
  | [] => !whole.isEmpty
  | '.' :: rest => !rest.isEmpty && rest.all Text.isDecimalDigit
  | _ => false

/-- Splits a word at its first equals sign. -/
def splitEquals (cs : List Char) : Option (String × String) :=
  match cs.dropWhile (· != '=') with
  | _ :: value => some (String.ofList (cs.takeWhile (· != '=')), String.ofList value)
  | [] => none

/-- What a word of the command line is. -/
inductive Word where
  /-- An option, with a value if one follows an equals sign. -/
  | option (name : String) (value : Option String)
  /-- Two hyphens on their own. -/
  | divider
  /-- A word that looks like an option and is none. -/
  | unknown
  | plain
  deriving DecidableEq, Repr

/-- Tells what a word is. A hyphen in front makes an option, except on its own, before a number,
and in a word with a blank. -/
def Word.ofString (s : String) : Word :=
  match s.toList with
  | '-' :: rest =>
    let plainOrUnknown := if s.toList.contains ' ' then Word.plain else .unknown
    if rest = ['-'] then .divider
    else if isOption s then .option s none
    else if rest.isEmpty || isNumber rest then .plain
    else
      match splitEquals s.toList with
      | some (name, value) => if isOption name then .option name (some value) else plainOrUnknown
      | none => plainOrUnknown
  | _ => .plain

/-- The first reading: takes the options out of a command line and gives the words that are left,
in order. An option without its text is `waiting` for a plain word. Two hyphens end the reading;
they are left in place behind a plain word, as `anyPlain` tells, and go away otherwise. -/
def takeOptions (o : Options) (anyPlain : Bool) (waiting : Option String) :
    List String → Option (Options × List String)
  | [] => if waiting.isNone then some (o, []) else none
  | word :: rest =>
    match waiting, Word.ofString word with
    | some name, .plain => (o.setText name word).bind fun o => takeOptions o anyPlain none rest
    | some _, _ => none
    | none, .option name (some text) =>
      (o.setText name text).bind fun o => takeOptions o anyPlain none rest
    | none, .option name none =>
      match o.setFlag name with
      | some o => takeOptions o anyPlain none rest
      | none => takeOptions o anyPlain (some name) rest
    | none, .plain => (takeOptions o true none rest).map fun p => (p.1, word :: p.2)
    | none, .unknown => (takeOptions o anyPlain none rest).map fun p => (p.1, word :: p.2)
    | none, .divider => some (o, if anyPlain then word :: rest else rest)

/-- Where the second reading stands: before the one run of plain words, in it, or behind it. -/
inductive Phase where
  | before
  | inside
  | behind
  deriving DecidableEq, Repr

/-- The phase after an option. -/
def Phase.afterOption : Phase → Phase
  | .before => .before
  | _ => .behind

/-- The second reading: sets the options that are left. Plain words stand in one run, which two
hyphens in or before it extend over all words behind them. -/
def readRest (phase : Phase) (o : Options) (waiting : Option String) :
    List String → Option Options
  | [] => if waiting.isNone then some o else none
  | word :: rest =>
    match waiting, Word.ofString word with
    | some name, .plain =>
      (o.setText name word).bind fun o => readRest phase.afterOption o none rest
    | some _, _ => none
    | none, .option name (some text) =>
      (o.setText name text).bind fun o => readRest phase.afterOption o none rest
    | none, .option name none =>
      match o.setFlag name with
      | some o => readRest phase.afterOption o none rest
      | none => readRest phase o (some name) rest
    | none, .plain => if phase = .behind then none else readRest .inside o none rest
    | none, .unknown => none
    | none, .divider => if phase = .behind then none else some o

/-- The options of a command line, or why it cannot be read. -/
def ofWords (words : List String) : Except Misuse Options := do
  let words ← allWords words
  match (takeOptions {} false none words).bind fun p => readRest .before p.1 none p.2 with
  | some o => .ok o
  | none => .error .usage

/-- The entries that options put on top of the environment. -/
def overrides (o : Options) : Entries :=
  let switchedOff := fun (flag : Bool) (field : String) =>
    if flag then [(field, Value.flag false)] else []
  [("kubeconfig", o.kubeconfig), ("kube_context", o.kubeContext)] ++
    switchedOff o.keepNamespaces "delete_namespace" ++
    switchedOff o.keepNamespacesOnFailure "delete_namespace_on_failure" ++
    switchedOff o.noDumpLogs "dump_logs_on_failure" ++
    switchedOff o.skipServiceAccountWait "verify_service_account"

end Options

/-- The suite configuration of an environment on a host, with command line options on top. -/
def Suite.ofOptions {τ : Type} [Seconds τ] (env : Environment) (o : Options)
    (host : Homes := .container) : Except Refusal (Suite τ) :=
  Suite.ofEnvironment (env.homes host) env o.overrides

end Testbed.Config
