import Interchain.Decimal.Written
import Interchain.Text.Blank
import Interchain.Text.Utf8

/-!
# Storage tokens

The executor reaches its storage with a token that expires.  A fresh one is what
a command prints.
-/

namespace Interchain

/-- Why there is no token. -/
inductive CredentialError where
  | emptyCommand
  | spawn (command message : String)
  | failed (command status stderr : String)
  | emptyToken (command : String)
deriving DecidableEq, Repr

def CredentialError.message : CredentialError → String
  | .emptyCommand => "token command is empty"
  | .spawn command m => "failed to spawn `" ++ command ++ "`: " ++ m
  | .failed command status stderr => "`" ++ command ++ "` exited with " ++ status ++ ": " ++ stderr
  | .emptyToken command => "`" ++ command ++ "` printed no token"

/-- How a process ended. -/
inductive ExitStatus where
  | code (value : Nat)
  | signal (number : Nat)
deriving DecidableEq, Repr

namespace ExitStatus

def success : ExitStatus := .code 0

/-- The signals by name. -/
def signals : List (Nat × String) :=
  [(1, "SIGHUP"), (2, "SIGINT"), (3, "SIGQUIT"), (4, "SIGILL"), (5, "SIGTRAP"), (6, "SIGABRT"),
   (7, "SIGBUS"), (8, "SIGFPE"), (9, "SIGKILL"), (10, "SIGUSR1"), (11, "SIGSEGV"),
   (12, "SIGUSR2"), (13, "SIGPIPE"), (14, "SIGALRM"), (15, "SIGTERM"), (16, "SIGSTKFLT"),
   (17, "SIGCHLD"), (18, "SIGCONT"), (19, "SIGSTOP"), (20, "SIGTSTP"), (21, "SIGTTIN"),
   (22, "SIGTTOU"), (23, "SIGURG"), (24, "SIGXCPU"), (25, "SIGXFSZ"), (26, "SIGVTALRM"),
   (27, "SIGPROF"), (28, "SIGWINCH"), (29, "SIGIO"), (30, "SIGPWR"), (31, "SIGSYS")]

def describe : ExitStatus → String
  | .code n => "exit status: " ++ Decimal.naturalText n
  | .signal n =>
    let name := match signals.find? fun s => s.1 == n with
      | some s => " (" ++ s.2 ++ ")"
      | none => ""
    "signal: " ++ Decimal.naturalText n ++ name

end ExitStatus

/-- What came of running a command, which whoever runs it has to say. -/
inductive CommandResult where
  /-- It could not be started. -/
  | refused (message : String)
  | ended (status : ExitStatus) (stdout stderr : List UInt8)
deriving DecidableEq, Repr

/-- A command that prints a token. -/
structure TokenCommand where
  program : String
  args : List String
deriving DecidableEq, Repr

namespace TokenCommand

/-- The command in a line, whose words are separated by white space. -/
def ofLine (line : String) : Except CredentialError TokenCommand :=
  match Blank.words line with
  | [] => .error .emptyCommand
  | program :: args => .ok ⟨program, args⟩

/-- The command as it is shown. -/
def text (c : TokenCommand) : String :=
  " ".intercalate (c.program :: c.args)

/-- The token that the command printed. -/
def token (c : TokenCommand) : CommandResult → Except CredentialError String
  | .refused message => .error (.spawn c.text message)
  | .ended status stdout stderr =>
    if status = .success then
      let token := Blank.trim (Utf8.text stdout)
      if token.isEmpty then .error (.emptyToken c.text) else .ok token
    else .error (.failed c.text status.describe (Blank.trim (Utf8.text stderr)))

end TokenCommand

end Interchain
