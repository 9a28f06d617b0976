import Interchain.Credentials
import Interchain.Process.World
import Interchain.Shell.Grammar
import Interchain.Text.Integer

/-!
# The state of a shell

A shell is a process that remembers variables, functions and more.  Its commands
share the world with other processes; what they change in the shell itself is its
session, of which a subshell has a copy of its own.
-/

namespace Interchain.Shell

structure Binding where
  /-- A name can be noted without a value. -/
  value : Option Octets
  exported : Bool
  isReadonly : Bool
deriving DecidableEq, Repr

/-- What lets a shell pass over commands. -/
inductive Leaving where
  | breaks (loops : Nat)
  | continues (loops : Nat)
  /-- Up to the end of the function or of the file. -/
  | returns
deriving DecidableEq, Repr

/-- Where in the options of a script one is. -/
structure OptionPlace where
  /-- The number of the next argument. -/
  index : Nat
  /-- How much of the argument before was read. -/
  offset : Option Nat
deriving DecidableEq, Repr

/-- What is put back at the end of a frame. -/
inductive Kept where
  | binding (name : Octets) (old : Option Binding)
  | options (letters : List Char)
deriving DecidableEq, Repr

structure Session where
  process : Process
  /-- The path to the working directory. -/
  directory : Octets
  /-- The number of the process, and of the shell that subshells belong to. -/
  self : Nat
  root : Nat
  parent : Nat
  name : Octets
  args : List Octets
  bindings : List (Octets × Binding)
  functions : List (Octets × Command)
  aliases : List (Octets × Octets)
  /-- The letters of options that are on. -/
  options : List Char
  /-- The letters of those that the arguments of a shell have not decided on yet. -/
  undecided : List Char
  /-- The command that complaints are made by. -/
  speaker : Option Octets
  line : Nat
  status : Nat
  /-- The status of the last output that was taken as text. -/
  outputStatus : Nat
  leaving : Option Leaving
  /-- How many loops stand around the command. -/
  loops : Nat
  /-- What was before commands that it is local to. -/
  locals : List (List Kept)
  documents : List (Nat × Word)
  nextDocument : Nat
  /-- Actions by signal, where number zero is the end of the shell. -/
  traps : List (Nat × Octets)
  /-- Signals whose actions are due. -/
  pending : List Nat
  /-- The status that the shell had before it began an action. -/
  saved : Option Nat
  /-- The last process in the background, and how processes in the background ended. -/
  background : Option Nat
  ended : List (Nat × ExitStatus)
  optionPlace : OptionPlace
  mask : Nat
  /-- The commands whose places are remembered. -/
  remembered : List Octets
  /-- Something could not be written. -/
  isMute : Bool
  /-- What stands in front of a traced command is being expanded. -/
  tracing : Bool

structure Machine where
  world : World
  session : Session

/-- Why a shell does not go on. -/
inductive Stop where
  /-- It ends. -/
  | exit
  /-- After a complaint that it does not survive. -/
  | error
  /-- A signal ends it. -/
  | killed (signal : Nat)
  /-- Nothing more is done, as it would never end. -/
  | exhausted
deriving DecidableEq, Repr

abbrev Sh := ExceptT Stop (StateM Machine)

namespace Session

def option (s : Session) (c : Char) : Bool := s.options.contains c

def binding? (s : Session) (name : Octets) : Option Binding :=
  (s.bindings.find? fun b => b.1 == name).map Prod.snd

/-- The value of a variable. -/
def value? (s : Session) (name : Octets) : Option Octets :=
  (s.binding? name).bind Binding.value

/-- Note a variable, or forget it. -/
def bind (s : Session) (name : Octets) (b : Option Binding) : Session :=
  { s with
    bindings := (b.map fun b => (name, b)).toList ++ s.bindings.filter fun b => b.1 != name }

@[simp] theorem binding?_bind (s : Session) (name : Octets) (b : Option Binding) :
    (s.bind name b).binding? name = b := by
  cases b with
  | none =>
    simp only [binding?, bind, Option.map_none, Option.toList_none, List.nil_append,
      Option.map_eq_none_iff, List.find?_eq_none, List.mem_filter]
    intro d hd
    simp only [bne_iff_ne, ne_eq] at hd
    simp [hd.2]
  | some b => simp [binding?, bind]

/-- The separators of fields. -/
def separators (s : Session) : Option Octets := s.value? "IFS".toList

end Session

namespace Sh

def session : Sh Session := return (← get).session

def modifySession (f : Session → Session) : Sh Unit :=
  modify fun m => { m with session := f m.session }

/-- An act of the process. -/
def act {α : Type} (a : Process → Act α) : Sh α := do
  let m ← get
  let (x, world) := (a m.session.process).run m.world
  set { m with world }
  return x

/-- Take a step. -/
def tick : Sh Unit := do
  let m ← get
  match m.world.steps with
  | 0 => throw .exhausted
  | n + 1 => set { m with world := { m.world with steps := n } }

def setStatus (n : Nat) : Sh Unit := modifySession fun s => { s with status := n }

/-- Write what a command prints. -/
def print (text : Octets) : Sh Unit := do
  if !(← act fun p => p.write 1 text) then modifySession fun s => { s with isMute := true }

/-- Write to where complaints go. -/
def mutter (text : Octets) : Sh Unit := do
  let _ ← act fun p => p.write 2 text

/-- Complain. -/
def complain (text : Octets) : Sh Unit := do
  let s ← session
  let speaker := match s.speaker with
    | some name => name ++ [':', ' ']
    | none => []
  mutter (s.name ++ [':', ' '] ++ Nat.toDigits 10 s.line ++ [':', ' '] ++ speaker ++ text ++ ['\n'])

/-- Complain in a way that the command does not survive. -/
def fail {α : Type} (text : Octets) : Sh α := do
  complain text
  setStatus 2
  throw .error

/-- Run a step, and another one behind it in any case. -/
def ensure {α : Type} (body : Sh α) (after : Sh Unit) : Sh α := do
  let result ← tryCatch (body.map Except.ok) fun stop => return .error stop
  after
  match result with
  | .ok a => return a
  | .error stop => throw stop

/-! ## Variables -/

/-- Complain about a name that no variable can have. -/
def checkName (name : Octets) : Sh Unit := do
  if !isName name then fail (name ++ ": bad variable name".toList)

/-- Set a variable, where `flags` notes what else is to hold of it. -/
def putBinding (name : Octets) (value : Option Octets) (flags : Binding → Binding) : Sh Unit := do
  let s ← session
  let old := (s.binding? name).getD ⟨none, s.option 'a', false⟩
  if old.isReadonly && value.isSome then fail (name ++ ": is read only".toList)
  let new := flags { old with value := value.or old.value, exported := old.exported || s.option 'a' }
  modifySession fun s =>
    let s := s.bind name (some new)
    if name = "OPTIND".toList then
      let index := match value.bind Integer.read? with
        | some (false, n, []) => max n 1
        | _ => 1
      { s with optionPlace := ⟨index, none⟩ }
    else if name = "PATH".toList then { s with remembered := [] }
    else s

/-- Set a variable if its name is one. -/
def setBinding (name : Octets) (value : Option Octets) (flags : Binding → Binding) : Sh Unit := do
  checkName name
  putBinding name value flags

/-- Set a variable to a value. -/
def assign (name value : Octets) : Sh Unit := setBinding name (some value) id

/-- Forget a variable. -/
def unset (name : Octets) : Sh Unit := do
  checkName name
  match (← session).binding? name with
  | some b =>
    if b.isReadonly then fail (name ++ ": is read only".toList)
    else modifySession fun s => s.bind name none
  | none => modifySession fun s => s.bind name none

/-- Split an assignment at its sign. -/
def splitAssignment (cs : Octets) : Octets × Option Octets :=
  let name := cs.takeWhile (· ≠ '=')
  (name, if name.length < cs.length then some (cs.drop (name.length + 1)) else none)

/-- Have the innermost frame put something back at its end. -/
def keep (k : Kept) : Sh Unit :=
  modifySession fun s =>
    match s.locals with
    | [] => s
    | frame :: frames => { s with locals := (k :: frame) :: frames }

/-- Make a variable local to the innermost frame, and set it if there is a value.  Only
the end of the frame is surprised by a name that no variable can have. -/
def localize (cs : Octets) (flags : Binding → Binding) : Sh Unit := do
  let (name, value) := splitAssignment cs
  if value.isNone then checkName name
  keep (.binding name ((← session).binding? name))
  putBinding name value flags

/-- Put something back. -/
def putBack : Kept → Sh Unit
  | .binding name old => do
    modifySession fun s => s.bind name old
    if old.isNone then checkName name
  | .options letters => modifySession fun s => { s with options := letters }

/-- Run a step in a frame of its own. -/
def framed {α : Type} (body : Sh α) : Sh α := do
  modifySession fun s => { s with locals := [] :: s.locals }
  ensure body (do
    let frame := (← session).locals.headD []
    modifySession fun s => { s with locals := s.locals.tail }
    frame.forM putBack)

/-- The variables that other programs are given. -/
def exported (s : Session) : List (Octets × Octets) :=
  s.bindings.filterMap fun b => if b.2.exported then b.2.value.map fun v => (b.1, v) else none

end Sh

end Interchain.Shell
