import Interchain.Text.Ascii
import Interchain.Shell.State

/-!
# Signals

Signals are known by numbers and by names.  A signal ends a process unless it is
harmless or has an action.
-/

namespace Interchain.Shell.Signal

/-- The names of signals in order; the end of a shell counts as the first of them. -/
def names : List String :=
  ["EXIT", "HUP", "INT", "QUIT", "ILL", "TRAP", "ABRT", "BUS", "FPE", "KILL", "USR1", "SEGV", "USR2",
   "PIPE", "ALRM", "TERM", "16", "CHLD", "CONT", "STOP", "TSTP", "TTIN", "TTOU", "URG", "XCPU",
   "XFSZ", "VTALRM", "PROF", "WINCH", "IO", "PWR", "SYS", "32", "33", "RTMIN", "RTMIN+1", "RTMIN+2",
   "RTMIN+3", "RTMIN+4", "RTMIN+5", "RTMIN+6", "RTMIN+7", "RTMIN+8", "RTMIN+9", "RTMIN+10",
   "RTMIN+11", "RTMIN+12", "RTMIN+13", "RTMIN+14", "RTMIN+15", "RTMAX-14", "RTMAX-13", "RTMAX-12",
   "RTMAX-11", "RTMAX-10", "RTMAX-9", "RTMAX-8", "RTMAX-7", "RTMAX-6", "RTMAX-5", "RTMAX-4",
   "RTMAX-3", "RTMAX-2", "RTMAX-1", "RTMAX"]

/-- The name of a signal. -/
def name (n : Nat) : Octets := (names.getD n "").toList

/-- What is said of a process that a signal ended. -/
def descriptions : List (Nat × String) :=
  [(1, "Hangup"), (3, "Quit"), (4, "Illegal instruction"), (5, "Trace/breakpoint trap"),
   (6, "Aborted"), (7, "Bus error"), (8, "Floating point exception"), (9, "Killed"),
   (10, "User defined signal 1"), (11, "Segmentation fault"), (12, "User defined signal 2"),
   (14, "Alarm clock"), (15, "Terminated"), (16, "Stack fault"), (24, "CPU time limit exceeded"),
   (25, "File size limit exceeded"), (26, "Virtual timer expired"),
   (27, "Profiling timer expired"), (29, "I/O possible"), (30, "Power failure"),
   (31, "Bad system call")]

/-- What is said of a process that a signal ended, unless it is nothing. -/
def description? (n : Nat) : Option Octets :=
  if n = 2 ∨ n = 13 then none
  else
    match descriptions.find? fun d => d.1 == n with
    | some (_, text) => some text.toList
    | none =>
      if 34 ≤ n then some ("Real-time signal ".toList ++ Nat.toDigits 10 (n - 34))
      else some ("Unknown signal ".toList ++ Nat.toDigits 10 n)

/-- The signal with a number. -/
def ofNumber? (text : Octets) : Option Nat :=
  if !text.isEmpty && text.all Char.isDigit then
    let (n, _) := Integer.digits 10 0 text
    if n < names.length then some n else none
  else none

/-- The signal with a number or a name, of which the first ones do not count. -/
def ofText? (first : Nat) (text : Octets) : Option Nat :=
  match ofNumber? text with
  | some n => some n
  | none =>
    ((List.range names.length).drop first).find? fun n =>
      Ascii.sameText (names.getD n "") (String.ofList text)

/-- Signals that do not end a process. -/
def isHarmless (n : Nat) : Bool := [0, 17, 18, 19, 20, 21, 22, 23, 28].contains n

end Interchain.Shell.Signal
