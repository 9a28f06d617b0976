import Interchain.Program.Basic
import Interchain.Shell.Builtin.Settings
import Interchain.Shell.Token

/-!
# Finding commands

A command is a function, one that the shell has of its own, or a program that is
found in the directories of a variable.
-/

namespace Interchain.Shell

open Sh

/-- A command that a shell has of its own. -/
structure Utility where
  name : String
  /-- Its failures end the shell, and assignments in front of it last. -/
  isSpecial : Bool
  /-- It is found in front of everything that stands before it. -/
  isRegular : Bool
  /-- Its arguments may be assignments. -/
  assigns : Bool
deriving DecidableEq, Repr

namespace Utility

/-- The commands of a shell. -/
def all : List Utility :=
  ([".", ":", "break", "continue", "eval", "exec", "exit", "return", "set", "shift", "times", "trap",
    "unset"].map fun n => ⟨n, true, true, false⟩) ++
  (["export", "readonly", "local"].map fun n => ⟨n, true, true, true⟩) ++
  (["bg", "cd", "chdir", "command", "false", "fg", "getopts", "hash", "jobs", "kill", "pwd", "read",
    "true", "type", "umask", "unalias", "wait"].map fun n => ⟨n, false, true, false⟩) ++
  [⟨"alias", false, true, true⟩] ++
  (["[", "echo", "printf", "test", "ulimit"].map fun n => ⟨n, false, false, false⟩)

def find? (name : Octets) : Option Utility := all.find? fun u => u.name.toList == name

end Utility

/-- What a name of a command leads to. -/
inductive Lookup where
  | utility (u : Utility)
  | function (body : Command)
  | program (path : Octets)
  | missing (fault : FileFault)

/-- What is said of a command that is not found. -/
def notFound : FileFault → Octets
  | .missing | .notDirectory => "not found".toList
  | f => f.text.toList

/-- The program with a name in the first directory that has it, or what was wrong with those
that were found. -/
def findIn (name : Octets) (fault : FileFault) : List Octets → Sh (Except FileFault Octets)
  | [] => return .error fault
  | d :: ds => do
    let path := Builtin.inDirectory d name
    let found : Except FileFault Place ← act fun p => do
      match ← p.resolve path with
      | .error f => return .error f
      | .ok place =>
        let w ← get
        return match w.files.at? place with
          | .ok _ => .ok place
          | .error .isDirectory => .error .denied
          | .error f => .error f
    match found with
    | .ok place => if (Program.ofPlace? place).isSome then return .ok path else findIn name .denied ds
    | .error .missing | .error .notDirectory => findIn name fault ds
    | .error f => findIn name f ds

/-- The directories that programs are looked for in. -/
def programDirectories (s : Session) : List Octets :=
  match s.value? "PATH".toList with
  | some path => Builtin.searched path
  | none => []

/-- The directories that programs of the system are looked for in. -/
def systemDirectories : List Octets :=
  Builtin.searched "/usr/local/sbin:/usr/local/bin:/usr/sbin:/usr/bin:/sbin:/bin".toList

/-- Find a command, among functions or not. -/
def find (name : Octets) (functions : Bool) (directories : List Octets) : Sh Lookup := do
  if name.contains '/' then return .program name
  let s ← session
  let function := if functions then s.functions.find? fun f => f.1 == name else none
  match function, Utility.find? name with
  | some (_, body), _ => return .function body
  | none, some u => return .utility u
  | none, none =>
    match ← findIn name .missing directories with
    | .ok path => do
      modifySession fun s => { s with remembered := name :: s.remembered.filter (· != name) }
      return .program path
    | .error f => return .missing f

/-! ## Telling of commands -/

/-- Whether there is a file at a path. -/
def isThere (path : Octets) : Sh Bool := act fun p => do
  match ← p.resolve path with
  | .error _ => return false
  | .ok place =>
    return match (← get).files.at? place with
      | .ok _ | .error .isDirectory => true
      | .error _ => false

/-- Tell what a command is, in words or in a word. -/
def describe (inWords : Bool) (directories : List Octets) (name : Octets) : Sh Nat := do
  let s ← session
  let front := if inWords then name else []
  let tell := fun (words : Octets) (word : Octets) => do
    print (front ++ (if inWords then ' ' :: words else word) ++ ['\n'])
    return 0
  if Token.keywords.any fun k => k.toList == name then tell "is a shell keyword".toList name
  else
    match s.aliases.find? fun a => a.1 == name with
    | some a => tell ("is an alias for ".toList ++ a.2) ("alias ".toList ++ (Builtin.aliasText a).dropLast)
    | none =>
      let isKnown := s.remembered.contains name
      match ← find name true directories with
      | .function _ => tell "is a shell function".toList name
      | .utility u =>
        tell ((if u.isSpecial then "is a special shell builtin" else "is a shell builtin").toList) name
      | .program path =>
        if path.contains '/' && !(← isThere path) then missing front
        else
          tell ((if isKnown then "is a tracked alias for " else "is ").toList ++ path) path
      | .missing _ => missing front
where
  missing (front : Octets) : Sh Nat := do
    if inWords then print (front ++ ": not found\n".toList)
    return 127

namespace Builtin

/-- Tell what commands are. -/
def type (args : List Octets) : Sh Nat := do
  let directories := programDirectories (← session)
  go directories 0 args
where
  go (directories : List Octets) (status : Nat) : List Octets → Sh Nat
    | [] => return status
    | name :: args => do go directories (status ||| (← describe true directories name)) args

/-- Tell what a command is, as options ask for. -/
def command (args : List Octets) : Sh Nat := do
  let (os, args) ← options ['p', 'v', 'V'] [] args
  let directories ← if os.any fun o => o.1 == 'p' then pure systemDirectories
    else pure (programDirectories (← session))
  match args.head?, (os.filter fun o => o.1 != 'p').getLast? with
  | some name, some (c, _) => describe (c == 'V') directories name
  | _, _ => return 0

/-- The place of a command in lists. -/
def commandRank (name : Octets) : Nat :=
  (name.foldl (fun n c => n + c.toNat) ((name.headD '\x00').toNat * 16)) % 32768 % 31

/-- Remember where programs are, or show those that are remembered. -/
def hash (args : List Octets) : Sh Nat := do
  let (os, args) ← options ['r'] [] args
  if !os.isEmpty then
    modifySession fun s => { s with remembered := [] }
    return 0
  let s ← session
  if args.isEmpty then
    let sorted := s.remembered.reverse.mergeSort fun a b => commandRank a ≤ commandRank b
    sorted.forM fun name => do
      match ← findIn name .missing (programDirectories s) with
      | .ok path => print (path ++ ['\n'])
      | .error _ => return ()
    return 0
  else go (programDirectories s) 0 args
where
  go (directories : List Octets) (status : Nat) : List Octets → Sh Nat
    | [] => return status
    | name :: args => do
      match ← find name true directories with
      | .missing f => do
        complain (name ++ [':', ' '] ++ notFound f)
        go directories 1 args
      | _ => go directories status args

end Builtin

end Interchain.Shell
