import Interchain.Shell.Run

/-!
# Starting programs

A program is found by its path, or by its name in the directories of the system.  It
is given arguments and nothing to read, and what it prints is kept.

What comes of a token command is given to the library (`TokenCommand.token` takes a
`CommandResult`), which makes no use of programs.  Here it is worked out for the shell
and the small tools that such commands are made of, so that command lines can be tried.
-/

namespace Interchain.Program

/-- How deep commands may stand in each other. -/
def depth : Nat := 4000

/-- What is found under a name or a path. -/
def locate (w : World) (name : Octets) : Except FileFault Place :=
  let at_ := fun (path : Octets) =>
    (w.files.resolve Place.here path).bind fun place =>
      match w.files.at? place with
      | .ok _ => if (ofPlace? place).isSome then .ok place else .error .denied
      | .error .isDirectory => .error .denied
      | .error f => .error f
  if name.contains '/' then at_ name
  else if Files.maxName < name.length then .error .nameTooLong
  else
    Shell.systemDirectories.foldl (fun found d =>
      match found, at_ (Shell.Builtin.inDirectory d name) with
      | .ok place, _ | _, .ok place => .ok place
      | .error .denied, _ | _, .error .denied => .error .denied
      | .error f, _ => .error f) (.error .missing)

/-- The variables that programs are given. -/
def environment : List (Octets × Octets) :=
  [("HOME", "/root"), ("LC_ALL", "C"),
   ("PATH", "/usr/local/sbin:/usr/local/bin:/usr/sbin:/usr/bin:/sbin:/bin")].map fun b =>
    (b.1.toList, b.2.toList)

/-- A process that has nothing to read, and whose output and complaints are kept. -/
def firstProcess : Process := ⟨Place.here, [(0, 0), (1, 1), (2, 2)]⟩

def firstWorld (files : Files) : World :=
  { World.ofFiles (withSystem files) with streams := #[.source [], .sink [], .sink []] }

/-- Run a program in a world. -/
def runIn (w : World) (program : Program) (name : Octets) (args : List Octets) :
    ExitStatus × World :=
  match program with
  | .shell =>
    let inner := Shell.interpreter depth
    let self := w.nextProcess
    let w := { w with nextProcess := self + 1, running := [self] }
    let session := Shell.newSession firstProcess w.files self 1 name environment
    let (ended, m) := (Shell.toEnd inner (inner.shell args)).run ⟨w, session⟩
    (match ended with
      | .ok e => e
      | .error (.killed n) => .signal n
      | .error _ => .code m.session.status, m.world)
  | program =>
    let (status, w) := (program.run firstProcess name args).run w
    (.code status, w)

/-- Run a program that is found by its name or its path. -/
def start (files : Files) (name : String) (args : List String) : CommandResult :=
  let w := firstWorld files
  if (name :: args).any fun a => a.contains '\x00' then
    .refused "nul byte found in provided data"
  else
    match (locate w (Octets.ofText name)).map ofPlace? with
    | .error f => .refused f.message
    | .ok none => .refused FileFault.denied.message
    | .ok (some program) =>
      let (ended, w) := runIn w program (Octets.ofText name) (args.map Octets.ofText)
      .ended ended (Octets.toBytes (w.written 1)) (Octets.toBytes (w.written 2))

end Interchain.Program
