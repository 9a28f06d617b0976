import Interchain.Shell.Arguments
import Interchain.Shell.Signal

/-!
# Commands for processes

The commands of a shell that send signals, say what is done on them and wait for
processes in the background.
-/

namespace Interchain.Shell

open Sh

/-- Note a signal that the shell is sent: its action is due, or it ends the shell. -/
def receive (n : Nat) : Sh Unit := do
  let s ← session
  match s.traps.find? fun t => t.1 == n && n != 9 && n != 19 with
  | some (_, []) => return ()
  | some _ => modifySession fun s => { s with pending := s.pending ++ [n] }
  | none => if Signal.isHarmless n then return () else throw (.killed n)

/-- Take up the signals that the shell was sent. -/
def takeUp : Sh Unit := do
  let self := (← session).self
  (← act fun _ => takeSent self).forM receive

/-- The status that the end of a process leaves, of which a signal is told. -/
def settle : ExitStatus → Sh Nat
  | .code n => return n
  | .signal n => do
    (Signal.description? n).forM fun text => mutter (text ++ ['\n'])
    return 128 + n

namespace Builtin

/-- Whether there is a job with a name. -/
def job? (s : Session) (name : Octets) : Option (Nat × ExitStatus) :=
  match name with
  | ['%'] | ['%', '%'] | ['%', '+'] => s.ended.getLast?
  | '%' :: n => if n.all Char.isDigit then s.ended[(Integer.digits 10 0 n).1 - 1]? else none
  | _ => none

/-- The job with a name. -/
def job (name : Octets) : Sh (Nat × ExitStatus) := do
  match job? (← session) name with
  | some j => return j
  | none => fail ("No such job: ".toList ++ name)

/-! ## Signals -/

def killUsage : Octets :=
  "Usage: kill [-s sigspec | -signum | -sigspec] [pid | job]... or\nkill -l [exitstatus]".toList

/-- Send a signal to a process, and say whether it is there. -/
def send (n : Nat) (target : Octets) : Sh Bool := do
  let s ← session
  match target with
  | '%' :: _ => do
    let _ ← job target
    return true
  | '-' :: rest => do
    let pid ← number rest
    return pid = s.self
  | _ => do
    let pid ← number target
    if pid = s.self ∨ pid = 0 then
      receive n
      return true
    else if s.ended.any fun e => e.1 == pid then return true
    else act fun _ => Interchain.send n pid

/-- Send a signal to processes in turn. -/
def sendAll (n status : Nat) : List Octets → Sh Nat
  | [] => return status
  | target :: targets => do
    if ← send n target then sendAll n status targets
    else
      complain "No such process\n".toList
      sendAll n 1 targets

/-- Name signals. -/
def nameSignals : List Octets → Sh Nat
  | [] => do
    print (['0', '\n'] ++ (Signal.names.drop 1).flatMap fun n => n.toList ++ ['\n'])
    return 0
  | arg :: _ => do
    let n ← number arg
    let n := if 128 < n then n - 128 else n
    if 0 < n ∧ n < Signal.names.length then
      print (Signal.name n ++ ['\n'])
      return 0
    else fail ("invalid signal number or exit status: ".toList ++ arg)

/-- Send signals or name them. -/
def kill (args : List Octets) : Sh Nat := do
  match args with
  | [] => fail killUsage
  | ('-' :: spec) :: rest =>
    match Signal.ofText? 1 spec with
    | some n => targets n rest
    | none => do
      let (os, rest) ← options ['l'] ['s'] args
      let n ← signalOf none os
      if os.any fun o => o.1 == 'l' then
        if n.isSome then fail killUsage else nameSignals rest
      else targets (n.getD 15) rest
  | _ => targets 15 args
where
  signalOf (n : Option Nat) : List (Char × Octets) → Sh (Option Nat)
    | [] => return n
    | (c, value) :: os => do
      if c = 's' then
        match Signal.ofText? 1 value with
        | some n => signalOf (some n) os
        | none => fail ("invalid signal number or name: ".toList ++ value)
      else signalOf n os
  targets (n : Nat) (rest : List Octets) : Sh Nat :=
    if rest.isEmpty then fail killUsage else sendAll n 0 rest

/-- Set what is done on signals, or show it. -/
def trap (args : List Octets) : Sh Nat := do
  let args ← operands args
  match args with
  | [] => do
    let s ← session
    let sorted := s.traps.mergeSort fun a b => a.1 ≤ b.1
    print (sorted.flatMap fun t =>
      "trap -- ".toList ++ quoted t.2 ++ [' '] ++ Signal.name t.1 ++ ['\n'])
    return 0
  | [signal] => go none [signal]
  | action :: signals =>
    if (Signal.ofNumber? action).isSome then go none args
    else go (if action = ['-'] then none else some action) signals
where
  go (action : Option Octets) : List Octets → Sh Nat
    | [] => return 0
    | signal :: signals => do
      match Signal.ofText? 0 signal with
      | none => do
        mutter ("trap: ".toList ++ signal ++ ": bad trap\n".toList)
        return 1
      | some n => do
        modifySession fun s =>
          { s with
            traps := (action.map fun a => (n, a)).toList ++ s.traps.filter fun t => t.1 != n }
        go action signals

/-! ## Waiting -/

/-- Wait for processes, all of which have ended. -/
def wait (args : List Octets) : Sh Nat := do
  match ← operands args with
  | [] => do
    modifySession fun s => { s with ended := [] }
    return 0
  | args => go 127 args
where
  go (status : Nat) : List Octets → Sh Nat
    | [] => return status
    | target :: targets => do
      if target.head? = some '%' then
        let (_, e) ← job target
        go (← settle e) targets
      else
        let pid ← number target
        match (← session).ended.find? fun e => e.1 == pid with
        | some (_, e) => go (← settle e) targets
        | none => go 127 targets

/-- Show jobs; none of them is left to be shown. -/
def jobs (args : List Octets) : Sh Nat := do
  let (_, args) ← options ['l', 'p'] [] args
  args.forM fun arg => do
    let _ ← job arg
  return 0

/-- Go on with a job, which no shell without a terminal can. -/
def resume (args : List Octets) : Sh Nat := do
  match ← operands args with
  | [] =>
    if (← session).ended.isEmpty then fail "No current job".toList
    else fail "job %1 not created under job control".toList
  | name :: _ => do
    let _ ← job name
    fail ("job ".toList ++ name ++ " not created under job control".toList)

/-- Show how long the shell and its processes have been running. -/
def times : Sh Nat := do
  let line := "0m0.000000s 0m0.000000s\n".toList
  print (line ++ line)
  return 0

/-! ## Leaving -/

/-- Leave loops, or go on with the next round of them. -/
def leaveLoops (leaving : Nat → Leaving) (args : List Octets) : Sh Nat := do
  let n ← match args with
    | [] => pure 1
    | arg :: _ => do
      let n ← number arg
      if n = 0 then fail ("Illegal number: ".toList ++ arg)
      pure n
  modifySession fun s =>
    let n := min n s.loops
    if n = 0 then s else { s with leaving := some (leaving n) }
  return 0

/-- Leave a function or a file. -/
def return_ (args : List Octets) : Sh Nat := do
  let status ← match args with
    | [] => pure (← session).status
    | arg :: _ => number arg
  modifySession fun s => { s with leaving := some .returns }
  return status

/-- End the shell. -/
def exit (args : List Octets) : Sh Nat := do
  match args with
  | [] => do
    (← session).saved.forM setStatus
    throw .exit
  | arg :: _ => do
    setStatus (← number arg)
    throw .exit

end Builtin

end Interchain.Shell
