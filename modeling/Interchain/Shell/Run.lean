import Interchain.Shell.Builtin.Jobs
import Interchain.Shell.Builtin.Variables
import Interchain.Shell.Lookup
import Interchain.Shell.Parser
import Interchain.Shell.Printf
import Interchain.Shell.Redirect
import Interchain.Shell.Test

/-!
# Running commands

Commands are run one after the other, also those that are joined by pipes or not
waited for.  How commands inside others are run is left open here, and closed in the
end by a depth that none of them is deeper than.
-/

namespace Interchain.Shell

open Sh

/-- How a command is run. -/
structure Flags where
  /-- Its failure is looked at, so that it does not end the shell. -/
  tested : Bool
  /-- Nothing is run in the shell behind it. -/
  final : Bool
deriving DecidableEq, Repr

namespace Flags

def none : Flags := ⟨false, false⟩

def test : Flags := ⟨true, false⟩

end Flags

/-- How everything inside a command is run. -/
structure Interpreter extends Runner where
  command : Flags → Command → Sh Nat
  /-- Run a text as a script. -/
  script : Flags → Octets → Sh Nat
  /-- Run a shell as a program, with its arguments. -/
  shell : List Octets → Sh Unit

variable (inner : Interpreter)

/-! ## Processes -/

/-- Run a step with the status kept that the shell has, unless it ends. -/
def keeping (action : Sh Unit) : Sh Unit := do
  let s ← session
  modifySession fun s' => { s' with saved := s.saved.or (some s.status) }
  action
  modifySession fun s' => { s' with status := s.status, saved := s.saved }

/-- Run the actions of signals that are due. -/
def runActions : Nat → Sh Unit
  | 0 => return ()
  | n + 1 => do
    let s ← session
    match (s.pending.mergeSort (· ≤ ·)).head? with
    | some signal =>
      if s.leaving.isNone then
        modifySession fun s => { s with pending := s.pending.filter (· != signal) }
        match s.traps.find? fun t => t.1 == signal with
        | some (_, action) => keeping (do let _ ← inner.script .none action)
        | none => return ()
        runActions n
    | none => return ()

/-- Run the action for the end of a shell. -/
def runLast : Sh Unit := do
  let s ← session
  match s.traps.find? fun t => t.1 == 0 with
  | none => return ()
  | some (_, action) =>
    modifySession fun s =>
      { s with traps := s.traps.filter fun t => t.1 != 0, leaving := none, loops := 0 }
    tryCatch (keeping (do let _ ← inner.script .none action)) fun
      | .exit | .error => return ()
      | stop => throw stop

/-- Run a process to its end, and say how it ends. -/
def toEnd (body : Sh Unit) : Sh ExitStatus := do
  let ended : Sh Unit := tryCatch body fun
    | .exit | .error => return ()
    | stop => throw stop
  tryCatch (do
    ended
    runLast inner
    return .code ((← session).status % 256)) fun
    | .killed signal => return .signal signal
    | stop => throw stop

/-- Run a process with a session of its own, and go on with this one behind it. -/
def inProcess (start : Session) (body : Sh Unit) : Sh ExitStatus := do
  let s ← session
  act fun _ => begun start.self
  modifySession fun _ => start
  ensure (toEnd inner body) (do
    modifySession fun _ => s
    act fun _ => ended start.self)

/-- The session of a subshell. -/
def subsession (self : Nat) : Sh Session := do
  let s ← session
  return { s with
    self
    parent := if self = s.self then s.parent else s.self
    traps := s.traps.filter fun t => t.2.isEmpty
    pending := [], loops := 0, leaving := none, saved := none, ended := [] }

/-- Run a step in a subshell. -/
def inSubshell (body : Sh Unit) : Sh ExitStatus := do
  inProcess inner (← subsession (← act fun _ => newProcess)) body

/-- Run a command as all that a subshell does. -/
def alone (tested : Bool) (c : Command) : Sh Unit := do
  let _ ← inner.command ⟨tested, true⟩ c

/-- The output of commands. -/
def outputOf (script : Option Command) : Sh Octets := do
  match script with
  | none => return []
  | some c => do
    let stream ← act fun _ => addStream (.sink [])
    let ended ← inSubshell inner (do
      Target.lead 1 (some stream)
      alone inner false c)
    let status ← settle ended
    takeUp
    modifySession fun s => { s with outputStatus := status }
    return (← get).world.written stream

/-! ## Scripts -/

/-- Read the commands of a line.  What is wrong with them is complained about. -/
def parse (line : Nat) (text : Octets) : Sh Parsed := do
  let s ← session
  match parseLine s.aliases s.nextDocument line text with
  | .error m => do
    if s.option 'v' then pure ()
    modifySession fun s => { s with line := m.line }
    fail ("Syntax error: ".toList ++ m.what.toList)
  | .ok p => do
    modifySession fun s =>
      { s with documents := s.documents ++ p.documents, nextDocument := p.nextDocument }
    return p

/-- Run the commands of a text line by line, up to one that leaves it. -/
def runText (flags : Flags) : Nat → Nat → Nat → Octets → Sh Nat
  | 0, _, status, _ => return status
  | n + 1, line, status, text => do
    let p ← parse line text
    match p.command with
    | none => return status
    | some command => do
      let status ← match command with
        | none => pure status
        | some c => inner.command flags c
      if (← session).leaving.isSome || p.isLast then return status
      else runText flags n p.line status p.rest

/-- Run a text as a script. -/
def runScript (flags : Flags) (text : Octets) : Sh Nat :=
  runText inner flags (text.length + 1) 1 0 text

/-- Show the lines that are read of a file. -/
def echoLines (text rest : Octets) : Sh Unit := do
  if (← session).option 'v' then mutter (text.take (text.length - rest.length))

/-- The first lines of a text. -/
def firstLines : Nat → Octets → Octets
  | 0, _ => []
  | _, [] => []
  | n + 1, cs =>
    let line := cs.takeWhile (· ≠ '\n')
    line ++ (cs.drop line.length).take 1 ++ firstLines n (cs.drop (line.length + 1))

/-- Run the lines of a file. -/
def runLines : Nat → Nat → Nat → Octets → Sh Nat
  | 0, _, status, _ => return status
  | n + 1, line, status, text => do
    let s ← session
    match parseLine s.aliases s.nextDocument line text with
    | .error m => echoLines text (text.drop (firstLines (m.line + 1 - line) text).length)
    | .ok p => echoLines text p.rest
    let p ← parse line text
    match p.command with
    | none => return status
    | some command => do
      let status ← match command with
        | none => pure status
        | some c => inner.command .none c
      if (← session).leaving.isSome then
        modifySession fun s =>
          { s with leaving := if s.leaving = some .returns then none else s.leaving }
        return status
      else runLines n p.line status p.rest

/-- Run a file. -/
def runFile (text : Octets) : Sh Nat :=
  runLines inner (text.length + 1) 1 0 text

/-! ## Programs -/

/-- The environment that a program is given. -/
def environment (s : Session) : List (Octets × Octets) := Sh.exported s

/-- The path of the working directory that a variable gives, if it is one, or else its own. -/
def shownDirectory (process : Process) (files : Files) (environment : List (Octets × Octets)) :
    Octets :=
  let own := Place.toPath process.place
  match environment.find? fun b => b.1 == "PWD".toList with
  | some (_, path) =>
    match files.resolve process.place path with
    | .ok place => if path.head? = some '/' ∧ place = process.place then path else own
    | .error _ => own
  | none => own

/-- The session of a shell that is run as a program. -/
def newSession (process : Process) (files : Files) (self parent : Nat) (name : Octets)
    (environment : List (Octets × Octets)) : Session :=
  let directory := shownDirectory process files environment
  let given := environment.filter fun b => isName b.1
  let own := [("IFS", " \t\n"), ("OPTIND", "1"), ("PS1", "# "), ("PS2", "> "), ("PS4", "+ ")]
  let bindings := given.map (fun b => (b.1, (⟨some b.2, true, false⟩ : Binding)))
  let s : Session :=
    { process, directory, self, root := self, parent, name, args := [], bindings, functions := []
      aliases := [], options := [], undecided := optionNames.map Prod.snd, speaker := none
      line := 0, status := 0, outputStatus := 0
      leaving := none, loops := 0, locals := [], documents := [], nextDocument := 0, traps := []
      pending := [], saved := none, background := none, ended := [], optionPlace := ⟨1, none⟩
      mask := 18, remembered := [], isMute := false, tracing := false }
  let s := own.foldl (fun s b =>
    s.bind b.1.toList (some ⟨some b.2.toList, false, false⟩)) s
  let s := s.bind "PPID".toList (some ⟨some (Nat.toDigits 10 parent), false, false⟩)
  s.bind "PWD".toList (some ⟨some directory, true, false⟩)

/-- Complain that a program cannot be run. -/
def refuse (name : Octets) (f : FileFault) : Sh ExitStatus := do
  complain (name ++ [':', ' '] ++ notFound f)
  return .code (match f with
    | .missing | .notDirectory | .nameTooLong => 127
    | _ => 126)

/-- Run the program at a path, as a process of its own or in the place of the shell. -/
def runProgram (replaces : Bool) (path : Octets) (argv : List Octets) : Sh ExitStatus := do
  let name := argv.headD []
  match ← act fun p => p.resolve path with
  | .error f => refuse name f
  | .ok place =>
    match (← get).world.files.at? place, Program.ofPlace? place with
    | .error .isDirectory, _ => refuse name .denied
    | .error f, _ => refuse name f
    | .ok _, none => refuse name .denied
    | .ok _, some .shell => do
      leave
      let s ← session
      let (self, parent) ←
        if replaces then pure (s.self, s.parent) else pure (← act fun _ => newProcess, s.self)
      let files := (← get).world.files
      let ended ← inProcess inner (newSession s.process files self parent name (environment s))
        (inner.shell argv.tail)
      takeUp
      return ended
    | .ok _, some program => do
      leave
      return .code (← act fun p => program.run p name argv.tail)
where
  leave : Sh Unit := if replaces then modifySession fun s => { s with traps := [] } else return ()

/-- Whether a command is run by the process of the shell itself, which then ends. -/
def isOwn (flags : Flags) : Sh Bool := do
  return flags.final && !((← session).traps.any fun t => !t.2.isEmpty)

/-- Take up how a command ended that may have been run by the shell itself. -/
def settled (isOwn : Bool) (ended : ExitStatus) : Sh Nat := do
  match ended with
  | .signal n => if isOwn then throw (.killed n) else settle ended
  | .code n => return n

/-! ## Commands of the shell -/

/-- Have another program take the place of the shell. -/
def exec (args : List Octets) : Sh Nat := do
  match args with
  | [] => return 0
  | name :: _ => do
    let found : Except FileFault Octets ←
      if name.contains '/' then pure (.ok name)
      else findIn name .missing (programDirectories (← session))
    let ended ← match found with
      | .ok path => runProgram inner true path args
      | .error f => refuse name f
    match ended with
    | .signal n => throw (.killed n)
    | .code n => do
      setStatus n
      throw .exit

/-- Run the commands of a file in the shell itself. -/
def dot (args : List Octets) : Sh Nat := do
  match ← operands args with
  | [] => return 0
  | name :: _ => do
    let path ← if name.contains '/' then pure name
      else found name (programDirectories (← session))
    match ← act fun p => p.openFile .read false path with
    | .error f => fail (Target.refusal .read path f)
    | .ok stream => do
      let text := match (← get).world.rest stream with
        | .ok text => text
        | .error _ => []
      modifySession fun s => { s with speaker := some path }
      runFile inner text
where
  found (name : Octets) : List Octets → Sh Octets
    | [] => fail (name ++ ": not found".toList)
    | d :: ds => do
      let path := Builtin.inDirectory d name
      if (← isThere path) && !(← Builtin.isDirectory path) then return path else found name ds

/-- Turn options and replace arguments. -/
def set (args : List Octets) : Sh Nat := do
  if args.isEmpty then Builtin.list [] fun b => b.value.isSome
  else
    let c ← turnAll false (args.length + 1) false args
    if c.isSet || !c.args.isEmpty then
      modifySession fun s => { s with args := c.args, optionPlace := ⟨1, none⟩ }
  return 0

/-- Run a command of the shell by name. -/
def runUtility (flags : Flags) (name : String) (args : List Octets) : Sh Nat :=
  match name with
  | "." => dot inner args
  | "eval" => inner.script { flags with final := false } ([' '].intercalate args)
  | "exec" => exec inner args
  | "break" => Builtin.leaveLoops .breaks args
  | "continue" => Builtin.leaveLoops .continues args
  | "return" => Builtin.return_ args
  | "exit" => Builtin.exit args
  | "export" => Builtin.export_ args
  | "readonly" => Builtin.readonly args
  | "local" => Builtin.local_ args
  | "set" => set args
  | "shift" => Builtin.shift args
  | "times" => Builtin.times
  | "trap" => Builtin.trap args
  | "unset" => Builtin.unset args
  | "[" => Test.run args true
  | "test" => Test.run args false
  | "alias" => Builtin.setAliases args
  | "unalias" => Builtin.unalias args
  | "cd" | "chdir" => Builtin.cd args
  | "pwd" => Builtin.pwd args
  | "command" => Builtin.command args
  | "type" => Builtin.type args
  | "hash" => Builtin.hash args
  | "echo" => runEcho args
  | "printf" => do Printf.run (← operands args)
  | "false" => return 1
  | "getopts" => Builtin.getopts args
  | "read" => Builtin.read args
  | "kill" => Builtin.kill args
  | "wait" => Builtin.wait args
  | "jobs" => Builtin.jobs args
  | "fg" | "bg" => Builtin.resume args
  | "umask" => Builtin.umask args
  | "ulimit" => do
    print "unlimited\n".toList
    return 0
  | _ => return 0

/-! ## Simple commands -/

/-- What is known of a simple command while its words are expanded. -/
structure Plan where
  /-- The fields from the name of the command on. -/
  fields : List Octets
  /-- All fields, as they are shown. -/
  shown : List Octets
  /-- Words that are still to be expanded. -/
  words : List Word
  utility : Option Utility
  /-- Whether the first command of the shell that was named is a special one. -/
  isSpecial : Option Bool
  /-- Functions are looked for. -/
  functions : Bool
  directories : Option (List Octets)

namespace Plan

/-- Expand words until there is a field at an index, and say whether there is one. -/
def reach (index : Nat) (p : Plan) : Nat → Sh (Plan × Bool)
  | 0 => return (p, false)
  | n + 1 => do
    if index < p.fields.length then return (p, true)
    else
      match p.words with
      | [] => return (p, false)
      | w :: ws => do
        let more ← Expansion.fields inner.toRunner w
        reach index { p with fields := p.fields ++ more, shown := p.shown ++ more, words := ws } n

/-- The command of the shell that a plan names, unless a function is in front of it. -/
def utility? (p : Plan) : Sh (Option Utility) := do
  match p.fields with
  | [] => return none
  | name :: _ => do
    let s ← session
    let isFunction := p.functions && s.functions.any fun f => f.1 == name
    if isFunction then return none else return (Utility.find? name).filter Utility.isRegular

/-- Pass over `command` and its options, if another command is named behind them. -/
def past (p : Plan) : Nat → Nat → Sh (Plan × Bool)
  | 0, _ => return (p, false)
  | n + 1, index => do
    let (p, isThere) ← p.reach inner index (p.words.length + 1)
    let passed := fun (p : Plan) (index : Nat) =>
      { p with fields := p.fields.drop index, functions := false }
    if !isThere then return (p, false)
    else
      match p.fields.getD index [] with
      | ['-', '-'] => do
        let (p, isThere) ← p.reach inner (index + 1) (p.words.length + 1)
        return if isThere then (passed p (index + 1), true) else (p, false)
      | '-' :: c :: cs =>
        if (c :: cs).all (· == 'p') then
          past { p with directories := some systemDirectories } n (index + 1)
        else return (p, false)
      | _ => return (passed p index, true)

/-- Find out which command of the shell a plan names. -/
def identify : Nat → Plan → Sh Plan
  | 0, p => return p
  | n + 1, p => do
    match ← p.utility? with
    | none => return { p with utility := none }
    | some u =>
      let p := { p with utility := some u, isSpecial := p.isSpecial.or (some u.isSpecial) }
      if u.name ≠ "command" then return p
      else
        let (p, isPassed) ← p.past inner (p.words.length + p.fields.length + 1) 1
        if isPassed then identify n p else return p

/-- The plan of a simple command with these words. -/
def ofWords (words : List Word) : Sh Plan := do
  let (p, _) ← reach inner 0 ⟨[], [], words, none, none, true, none⟩ (words.length + 1)
  identify inner (words.length + p.fields.length + 1) p

/-- Expand the words that are left, those that are assignments to one field each. -/
def complete (p : Plan) : Sh Plan := do
  let assigns := p.utility.any Utility.assigns
  let more ← go assigns p.words
  return { p with fields := p.fields ++ more, shown := p.shown ++ more, words := [] }
where
  go (assigns : Bool) : List Word → Sh (List Octets)
    | [] => return []
    | w :: ws => do
      let front ←
        if assigns && isAssignment w then do
          pure [← Expansion.text inner.toRunner Manner.assigned w]
        else Expansion.fields inner.toRunner w
      return front ++ (← go assigns ws)

/-- Assignments in front of the command last only as long as it is run. -/
def isFramed (p : Plan) : Bool := !p.fields.isEmpty && p.isSpecial != some true

end Plan

/-- Make the assignments in front of a command, and return them as texts. -/
def assignAll (isFramed : Bool) (flags : Binding → Binding) : List Word → Sh (List Octets)
  | [] => return []
  | w :: ws => do
    let text ← Expansion.text inner.toRunner Manner.assigned w
    if isFramed then localize text fun b => { b with exported := true }
    else
      let (name, value) := splitAssignment text
      setBinding name value flags
    return text :: (← assignAll isFramed flags ws)

/-- Show a command before it is run. -/
def trace (process : Process) (texts : List Octets) : Sh Unit := do
  let s ← session
  if s.option 'x' && !s.tracing then
    modifySession fun s => { s with tracing := true }
    let sign := (s.value? "PS4".toList).getD []
    let front ← match parseDocument s.aliases s.nextDocument sign with
      | .ok word => Expansion.text inner.toRunner Manner.document word
      | .error _ => pure sign
    modifySession fun s => { s with tracing := false }
    let _ ← act fun _ => process.write 2 (front ++ [' '].intercalate texts ++ ['\n'])

/-- Run a command of the shell. -/
def callUtility (flags : Flags) (isSpecial : Bool) (u : Utility) (argv : List Octets) : Sh Nat := do
  let speaker := (← session).speaker
  modifySession fun s => { s with speaker := argv.head? }
  let run : Sh Unit := do
    let status ← runUtility inner flags u.name argv.tail
    setStatus status
    if (← session).isMute then
      modifySession fun s => { s with isMute := false, status := s.status ||| 1 }
      complain (argv.headD [] ++ ": I/O error".toList)
  ensure (tryCatch run fun
    | .error => if isSpecial then throw .error else return ()
    | stop => throw stop)
    (modifySession fun s => { s with speaker })
  return (← session).status

/-- Call a function. -/
def callFunction (flags : Flags) (body : Command) (args : List Octets) : Sh Nat := do
  let s ← session
  modifySession fun s => { s with args, loops := 0, optionPlace := ⟨1, none⟩ }
  ensure (do let _ ← inner.command { flags with final := false } body)
    (modifySession fun now =>
      { now with
        args := s.args, loops := s.loops, optionPlace := s.optionPlace
        leaving := if now.leaving = some .returns then none else now.leaving })
  return (← session).status

/-- Run the command that a plan names. -/
def callPlanned (flags : Flags) (p : Plan) : Sh Nat := do
  let name := p.fields.headD []
  let s ← session
  let isSpecial := p.isSpecial == some true
  let lookup ← match p.utility with
    | some u => pure (Lookup.utility u)
    | none => find name p.functions (p.directories.getD (programDirectories s))
  match lookup with
  | .utility u => callUtility inner flags isSpecial u p.fields
  | .function body => callFunction inner flags body p.fields.tail
  | .program path => do
    let isOwn ← isOwn flags
    settled isOwn (← runProgram inner isOwn path p.fields)
  | .missing f => do
    complain (name ++ [':', ' '] ++ notFound f)
    setStatus 127
    if isSpecial then throw .error else return 127

/-- Run a simple command. -/
def runSimple (flags : Flags) (line : Nat) (assignments words : List Word)
    (redirections : List Redirection) : Sh Nat := do
  modifySession fun s => { s with line, outputStatus := 0 }
  let p ← (← Plan.ofWords inner words).complete inner
  let isExec := p.utility.any fun u => u.name == "exec"
  let before := (← session).process
  let body : Sh Nat := do
    let targets ← Target.ofRedirections inner.toRunner redirections
    let run : Sh Nat := do
      if !(← Target.aimAll inner.toRunner targets) then
        setStatus 2
        if p.isSpecial = some true then throw .error else return 2
      else
        let isExported := isExec && 1 < p.fields.length
        let texts ← assignAll inner p.isFramed
          (fun b => { b with exported := b.exported || isExported }) assignments
        trace inner before (texts ++ p.shown)
        if p.fields.isEmpty then return (← session).outputStatus
        else callPlanned inner flags p
    ensure run (if isExec then return () else Target.restore before targets)
  if p.isFramed then framed body else body

/-! ## Compound commands -/

/-- Run a command with redirections around it. -/
def runRedirected (flags : Flags) (line : Nat) (body : Command) (redirections : List Redirection) :
    Sh Nat := do
  modifySession fun s => { s with line }
  let before := (← session).process
  let targets ← Target.ofRedirections inner.toRunner redirections
  ensure (do
    if ← Target.aimAll inner.toRunner targets then
      inner.command { flags with final := false } body
    else
      return 2)
    (Target.restore before targets)

/-- Run a command in a subshell, or as all that is left to be done in this one. -/
def runSubshell (flags : Flags) (line : Nat) (body : Command) (redirections : List Redirection) :
    Sh ExitStatus := do
  modifySession fun s => { s with line }
  let targets ← Target.ofRedirections inner.toRunner redirections
  let self ← if ← isOwn flags then pure (← session).self else act fun _ => newProcess
  inProcess inner (← subsession self) (do
    targets.forM (Target.aim inner.toRunner false)
    alone inner flags.tested body)

/-- Run a command in the background: it is run at once, and its end is noted. -/
def runBackground (body : Sh Unit) : Sh Nat := do
  let start ← subsession (← act fun _ => newProcess)
  let null ← act fun _ => addStream .null
  let start := { start with process := start.process.redirect 0 (some null) }
  let ended ← inProcess inner start body
  modifySession fun s =>
    { s with background := some start.self, ended := s.ended ++ [(start.self, ended)] }
  takeUp
  return 0

/-- Run commands, each of which reads what the one before it wrote. -/
def runPipe (flags : Flags) : Option Nat → List Command → Sh Nat
  | _, [] => return 0
  | input, c :: cs => do
    let output ← if cs.isEmpty then pure none
      else pure (some (← act fun _ => addStream (.sink [])))
    let ended ← inSubshell inner (do
      input.forM fun n => Target.lead 0 (some n)
      output.forM fun n => Target.lead 1 (some n)
      alone inner flags.tested c)
    let status ← settle ended
    match output with
    | none => return status
    | some n => do
      let text := (← get).world.written n
      runPipe flags (some (← act fun _ => addStream (.source text))) cs

/-- What is left of leaving loops behind the body of one. -/
def afterBody : Sh (Option Leaving) := do
  let leaving := (← session).leaving
  match leaving with
  | some (.breaks n) =>
    modifySession fun s => { s with leaving := if n ≤ 1 then none else some (.breaks (n - 1)) }
    return some (.breaks (n - 1))
  | some (.continues n) =>
    modifySession fun s => { s with leaving := if n ≤ 1 then none else some (.continues (n - 1)) }
    return some (if n ≤ 1 then .continues 0 else .breaks (n - 1))
  | _ => return leaving

/-- Whether a loop goes on. -/
def goesOn : Option Leaving → Bool
  | none | some (.continues _) => true
  | _ => false

/-- Run a body while a test succeeds, or while it fails. -/
def runLoop (flags : Flags) (negated : Bool) (test body : Command) : Nat → Nat → Sh Nat
  | 0, _ => throw .exhausted
  | n + 1, status => do
    let i ← inner.command .test test
    let leaving ← afterBody
    if leaving.isSome then
      if goesOn leaving then runLoop flags negated test body n status
      else return if leaving = some .returns then i else status
    else if (i = 0) = negated then return status
    else
      let status ← inner.command { flags with final := false } body
      if goesOn (← afterBody) then runLoop flags negated test body n status else return status

/-- Run a body for each of some values of a variable. -/
def runEach (flags : Flags) (name : Octets) (body : Command) : Nat → List Octets → Sh Nat
  | status, [] => return status
  | _, value :: values => do
    assign name value
    let status ← inner.command { flags with final := false } body
    if goesOn (← afterBody) then runEach flags name body status values else return status

/-- Run a step as part of a loop. -/
def looping (body : Sh Nat) : Sh Nat := do
  modifySession fun s => { s with loops := s.loops + 1 }
  ensure body (modifySession fun s => { s with loops := s.loops - 1 })

/-- Whether one of some patterns fits a text. -/
def fitsAny (text : Octets) : List Word → Sh Bool
  | [] => return false
  | w :: ws => do
    let pieces ← Expansion.pieces inner.toRunner Manner.single w
    let items := Pattern.items (Cell.pattern (pieces.flatMap Piece.cells))
    if Pattern.fits items text then return true else fitsAny text ws

/-- Run the first clause that fits a text. -/
def runChoice (flags : Flags) (text : Octets) : List Clause → Sh Nat
  | [] => return 0
  | .mk patterns body :: clauses => do
    if ← fitsAny inner text patterns then
      match body with
      | some c => inner.command flags c
      | none => return 0
    else runChoice flags text clauses

/-- Run two commands, the second of them if `goes` of the status of the first. -/
def runBoth (flags : Flags) (tested : Bool) (goes : Nat → Bool) (first second : Command) :
    Sh Nat := do
  let status ← inner.command ⟨tested, false⟩ first
  if goes status && (← session).leaving.isNone then inner.command flags second else return status

/-- Run a command, and say whether its failure ends a shell that is asked to. -/
def runKind (flags : Flags) : Command → Sh (Nat × Bool)
  | .negation c => do
    let status ← inner.command .test c
    return (if status = 0 then 1 else 0, false)
  | .simple line assignments words redirections =>
    return (← runSimple inner flags line assignments words redirections, true)
  | .pipeline commands false => do
    let status ← runPipe inner flags none commands
    takeUp
    return (status, true)
  | .pipeline commands true => do
    let status ← runBackground inner (do
      setStatus (← runPipe inner { flags with tested := false } none commands))
    return (status, true)
  | .redirected line body redirections =>
    return (← runRedirected inner flags line body redirections, false)
  | .subshell line body redirections => do
    let ended ← runSubshell inner flags line body redirections
    let status ← settled (← isOwn flags) ended
    takeUp
    return (status, true)
  | .background line body redirections => do
    modifySession fun s => { s with line := if line = 0 then s.line else line }
    let targets ← Target.ofRedirections inner.toRunner redirections
    let status ← runBackground inner (do
      targets.forM (Target.aim inner.toRunner false)
      alone inner false body)
    return (status, true)
  | .both first second =>
    return (← runBoth inner flags true (· == 0) first second, false)
  | .either first second =>
    return (← runBoth inner flags true (· != 0) first second, false)
  | .sequence first second =>
    return (← runBoth inner flags flags.tested (fun _ => true) first second, false)
  | .branch test body otherwise => do
    let status ← inner.command .test test
    if (← session).leaving.isSome then return (status, false)
    else
      match if status = 0 then some body else otherwise with
      | some c => return (← inner.command flags c, false)
      | none => return (0, false)
  | .loop negated test body => do
    let steps := (← get).world.steps
    return (← looping (runLoop inner flags negated test body (steps + 1) 0), false)
  | .each line name words body => do
    modifySession fun s => { s with line }
    let values ← Expansion.allFields inner.toRunner words
    return (← looping (runEach inner flags name body 0 values), false)
  | .choice line word clauses => do
    modifySession fun s => { s with line }
    let text ← Expansion.text inner.toRunner Manner.single word
    return (← runChoice inner flags text clauses, false)
  | .define name body => do
    modifySession fun s =>
      { s with functions := (name, body) :: s.functions.filter fun f => f.1 != name }
    return (0, false)

/-- Run a command. -/
def runCommand (flags : Flags) (c : Command) : Sh Nat := do
  tick
  let fails ← if (← session).option 'n' then pure false
    else do
      runActions inner 64
      let (status, isChecked) ← runKind inner flags c
      setStatus status
      pure (isChecked && !flags.tested && status != 0)
  runActions inner 64
  let s ← session
  if s.option 'e' && fails then throw .exit
  else if flags.final then throw .exit
  else return s.status

/-! ## Shells -/

/-- Run what comes in from the input. -/
def runInput : Sh Unit := do
  let text ← act fun p => p.readAll 0
  match text with
  | .ok text =>
    let _ ← runFile inner text
  | .error _ => return ()

/-- Run a shell with its arguments. -/
def runShell (args : List Octets) : Sh Unit := do
  let c ← turnAll true (args.length + 1) false args
  if (← session).option 'i' && (← session).undecided.contains 'm' then turnLetter 'm' true
  modifySession fun s => { s with undecided := [] }
  match c.isScript, c.args with
  | true, [] => fail "-c requires an argument".toList
  | true, script :: rest =>
    modifySession fun s => { s with name := rest.headD s.name, args := rest.tail }
    let _ ← inner.script .none script
    if (← session).option 's' then runInput inner
  | false, args =>
    if args.isEmpty || (← session).option 's' then
      turn 's' true
      modifySession fun s => { s with args }
      runInput inner
    else
      let path := args.headD []
      match ← act fun p => p.openFile .read false path with
      | .error f => fail (Target.refusal .read path f)
      | .ok stream => do
        modifySession fun s => { s with name := path, args := args.tail }
        match (← get).world.rest stream with
        | .ok text =>
          let _ ← runFile inner text
        | .error _ => return ()

/-- How commands are run that stand in each other up to a depth. -/
def interpreter : Nat → Interpreter
  | 0 =>
    { pieces := fun _ _ => throw .exhausted, output := fun _ => throw .exhausted
      command := fun _ _ => throw .exhausted, script := fun _ _ => throw .exhausted
      shell := fun _ => throw .exhausted }
  | n + 1 =>
    { pieces := fun m w => Expansion.pieces (interpreter n).toRunner m w
      output := fun c => outputOf (interpreter n) c
      command := fun flags c => runCommand (interpreter n) flags c
      script := fun flags text => runScript (interpreter n) flags text
      shell := fun args => runShell (interpreter n) args }

end Interchain.Shell
