import Interchain.Scheduler.Event

/-!
# The journal of a scheduler

What a scheduler shows at an instant, with all that it did before.  Calls are
answered by a script: the answer to a call is fixed by its line and by how many
calls were made on that line before.
-/

namespace Interchain

/-- How a call ends unless it is cut off. -/
inductive Ending (ε α : Type) where
  | returned (value : α)
  | failed (error : ε)
  /-- The callee broke down, with a message or without one. -/
  | panicked (message : Option String)
deriving Repr

/-- The message of a breakdown. -/
def Ending.panicMessage (message : Option String) : String :=
  message.getD "unknown panic"

/-- How a call ends and how many milliseconds that takes. -/
structure Answer (ε α : Type) where
  delay : Nat
  ending : Ending ε α
deriving Repr

/-- The answers to all calls by their number on their line. -/
structure Script where
  isRunning : Nat → Answer ExecutorError Bool
  run : RunningMode → Nat → Answer ExecutorError RunOutcome
  accessToken : Nat → Answer CredentialError String
  configure : Nat → Answer ExecutorError Unit

/-- A call that has been made and not ended. -/
structure Pending (ε α : Type) where
  call : Call
  index : Nat
  /-- When it ends. -/
  due : Nat
  ending : Ending ε α
deriving Repr

/-- What a scheduler shows. -/
structure Journal where
  /-- Milliseconds since the start. -/
  now : Nat
  state : SchedulerState
  /-- How often the ticks were started again. -/
  recoveries : UInt32
  /-- How many calls were made on each line. -/
  begun : Line → Nat
  /-- What was done and when, the latest first. -/
  history : List (Nat × Event)

namespace Journal

variable {ε α : Type}

/-- The journal of a scheduler that has not been run. -/
def blank : Journal where
  now := 0
  state := .initializing
  recoveries := 0
  begun _ := 0
  history := [(0, .entered .initializing)]

def record (j : Journal) (e : Event) : Journal :=
  { j with history := (j.now, e) :: j.history }

def report (j : Journal) (n : Notice) : Journal :=
  j.record (.reported n)

def enter (j : Journal) (state : SchedulerState) : Journal :=
  { j with state }.record (.entered state)

/-- Count one more start of the ticks. -/
def recover (j : Journal) : Journal :=
  { j with recoveries := j.recoveries + 1 }

/-- Make a call, whose answer is found by its number on its line. -/
def begin (j : Journal) (call : Call) (answer : Nat → Answer ε α) : Pending ε α × Journal :=
  let index := j.begun call.line
  let pending : Pending ε α :=
    ⟨call, index, j.now + (answer index).delay, (answer index).ending⟩
  let j := { j with begun := fun line => if line = call.line then index + 1 else j.begun line }
  (pending, j.record (.began call index j.state))

/-- Note how a call ended. -/
def finish (j : Journal) (p : Pending ε α) (how : Ended) : Journal :=
  j.record (.finished p.call p.index how)

@[simp] theorem now_record (j : Journal) (e : Event) : (j.record e).now = j.now := rfl

@[simp] theorem state_record (j : Journal) (e : Event) : (j.record e).state = j.state := rfl

@[simp] theorem recoveries_record (j : Journal) (e : Event) :
    (j.record e).recoveries = j.recoveries := rfl

@[simp] theorem begun_record (j : Journal) (e : Event) : (j.record e).begun = j.begun := rfl

@[simp] theorem history_record (j : Journal) (e : Event) :
    (j.record e).history = (j.now, e) :: j.history := rfl

end Journal

end Interchain
