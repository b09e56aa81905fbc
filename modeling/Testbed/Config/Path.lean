import Testbed.Value.Basic

/-!
# Paths to configuration files

A path is written with single slashes, without `.` components and without a slash at its end; a
tilde in front stands for a home directory. Two slashes at the start are kept apart from one.
-/

set_option autoImplicit false

namespace Testbed.Config

/-- Where home directories are: one's own, and those of named users. A user without an account has
none. -/
structure Homes where
  own : Option (List Char)
  ofUser : List Char → Option (List Char)

/-- A path: the slashes it starts from and its components. -/
structure Path where
  root : List Char
  components : List (List Char)
  deriving DecidableEq, Repr

namespace Path

/-- The parts of a text between slashes. -/
def splitSlashes : List Char → List (List Char)
  | [] => [[]]
  | '/' :: rest => [] :: splitSlashes rest
  | c :: rest =>
    match splitSlashes rest with
    | part :: parts => (c :: part) :: parts
    | [] => [[c]]

/-- The root of a path that starts with the given characters: exactly two slashes stay two, and
any other positive number of them is one. -/
def rootOf (cs : List Char) : List Char :=
  match (cs.takeWhile (· = '/')).length with
  | 0 => []
  | 2 => ['/', '/']
  | _ => ['/']

/-- Whether a part of a path is a component: empty parts and single points are none. -/
def isComponent (part : List Char) : Bool := !part.isEmpty && part != ['.']

/-- Reads a path. -/
def ofChars (cs : List Char) : Path := ⟨rootOf cs, (splitSlashes cs).filter isComponent⟩

/-- The components with slashes between them. -/
def joined : List (List Char) → List Char
  | [] => []
  | [part] => part
  | part :: parts => part ++ '/' :: joined parts

/-- Writes a path; one without root and components is a single point. -/
def toChars (p : Path) : List Char :=
  match p.root ++ joined p.components with
  | [] => ['.']
  | cs => cs

/-- A home directory without slashes at its end, but with at least one character. -/
def homeText (home : List Char) : List Char :=
  match (home.reverse.dropWhile (· = '/')).reverse with
  | [] => ['/']
  | cs => cs

/-- The home directory that a component with a tilde in front stands for, if it is known. -/
def home? (homes : Homes) : List Char → Option (List Char)
  | ['~'] => homes.own.map homeText
  | '~' :: user => (homes.ofUser user).map homeText
  | _ => none

/-- Why the home directory that a path begins with is not found. -/
inductive HomeTrouble where
  | unknown
  /-- The name of its user holds a null character, so that it cannot be looked up. -/
  | nullInName
  deriving DecidableEq, Repr

/-- The path with a home directory in place of a tilde in front. The directory is not known either
if it begins with a tilde itself. -/
def expanded (homes : Homes) (p : Path) : Except HomeTrouble Path :=
  match p.root, p.components with
  | [], first :: rest =>
    if first.head? = some '~' then
      if first.contains '\x00' then .error .nullInName
      else
        match home? homes first with
        | some home =>
          if home.head? = some '~' then .error .unknown
          else
            let base := ofChars home
            .ok ⟨base.root, base.components ++ rest⟩
        | none => .error .unknown
    else .ok p
  | _, _ => .ok p

end Path

/-- The text of a path in its plain form with the tilde replaced. -/
def expandedPath (homes : Homes) (text : String) : Except Path.HomeTrouble String :=
  ((Path.ofChars text.toList).expanded homes).map fun p => String.ofList p.toChars

/-- The accounts that every container has, with their home directories. -/
def systemAccounts : List (String × String) :=
  [("root", "/root"), ("daemon", "/usr/sbin"), ("bin", "/bin"), ("sys", "/dev"), ("sync", "/bin"),
   ("games", "/usr/games"), ("man", "/var/cache/man"), ("lp", "/var/spool/lpd"),
   ("mail", "/var/mail"), ("news", "/var/spool/news"), ("uucp", "/var/spool/uucp"),
   ("proxy", "/bin"), ("backup", "/var/backups"), ("list", "/var/list"), ("irc", "/run/ircd"),
   ("_apt", "/nonexistent"), ("nobody", "/nonexistent")]

/-- The home directories of a host with these accounts, one's own among them. -/
def Homes.ofAccounts (own : String) (accounts : List (String × String)) : Homes :=
  ⟨some own.toList, fun user => (lookupLast (String.ofList user) accounts).map String.toList⟩

/-- The container of a tester. -/
def Homes.container : Homes := .ofAccounts "/home/tester" systemAccounts

theorem expandedPath_tilde :
    (expandedPath .container "./~/x").toOption = some "/home/tester/x" := by decide +kernel

theorem expandedPath_null :
    (expandedPath .container "~root\x00/x").toOption = none := by decide +kernel

theorem expandedPath_slashes :
    (expandedPath .container "//a//b/./").toOption = some "//a/b" := by decide +kernel

end Testbed.Config
