import Interchain.Scheduler.Error

/-!
# What a scheduler does, as it is seen from outside

A scheduler makes calls, reports what it does and passes through states.
-/

namespace Interchain

inductive SchedulerState where
  | initializing
  | awaitingExecutorReady
  | running
  | recovering
  | terminated
deriving DecidableEq, Repr

def SchedulerState.label : SchedulerState → String
  | .initializing => "initializing"
  | .awaitingExecutorReady => "awaiting_executor_ready"
  | .running => "running"
  | .recovering => "recovering"
  | .terminated => "terminated"

/-- A call to the executor or for a token. -/
inductive Call where
  | isRunning
  | run (mode : RunningMode)
  | accessToken
  | configure (token : String)
deriving DecidableEq, Repr

/-- The calls that are counted together. -/
inductive Line where
  | isRunning
  | run (mode : RunningMode)
  | accessToken
  | configure
deriving DecidableEq, Repr

def Call.line : Call → Line
  | .isRunning => .isRunning
  | .run mode => .run mode
  | .accessToken => .accessToken
  | .configure _ => .configure

/-- How a call ended. -/
inductive Ended where
  | ok
  /-- The callee gave its own reason for a failure. -/
  | err
  | fault
  | panic
  /-- The call was cut off when ticks were stopped. -/
  | aborted
deriving DecidableEq, Repr

def Ended.label : Ended → String
  | .ok => "ok"
  | .err => "err"
  | .fault => "fault"
  | .panic => "panic"
  | .aborted => "aborted"

inductive Level where
  | info
  | warn
  | error
deriving DecidableEq, Repr

def Level.label : Level → String
  | .info => "INFO"
  | .warn => "WARN"
  | .error => "ERROR"

/-- A report. -/
inductive Notice where
  | notRunning
  | statusUnknown (error : ExecutorError)
  | starting (workers : Nat)
  | fetched (chain : ChainName) (worker : WorkerId) (output : Json)
  | fetchReported (chain : ChainName) (worker : WorkerId) (reason : Json)
  | fetchFailed (chain : ChainName) (worker : WorkerId) (error : ExecutorError)
  | executed (output : Json)
  | executeReported (reason : Json)
  | tokenRefreshed
  | swallowed (tick : TickKind) (error : SchedulerError)
  | tickDied
  | stopped
  | recovering (attempt : UInt32) (error : SchedulerError)
  | failed (error : SchedulerError)
deriving Repr

namespace Notice

def level : Notice → Level
  | .starting _ | .fetched _ _ _ | .executed _ | .tokenRefreshed | .stopped => .info
  | .fetchReported _ _ _ | .fetchFailed _ _ _ | .executeReported _ | .swallowed _ _ | .tickDied
  | .recovering _ _ => .warn
  | .notRunning | .statusUnknown _ | .failed _ => .error

def message : Notice → String
  | .notRunning => "Executor not running"
  | .statusUnknown e => "Failed to query executor status: " ++ e.message
  | .starting _ => "Starting scheduler"
  | .fetched _ _ _ => "Fetched tasks"
  | .fetchReported _ _ _ => "Fetch reported failure"
  | .fetchFailed _ _ e => "Fetch failed: " ++ e.message
  | .executed _ => "Executed tasks"
  | .executeReported _ => "Execute reported failure"
  | .tokenRefreshed => "Storage access token refreshed"
  | .swallowed _ e => "Transient failure, waiting for next tick: " ++ e.message
  | .tickDied => "Tick task ended abnormally"
  | .stopped => "Shutdown requested; scheduler stopped"
  | .recovering _ e => "Transient fault, re-registering ticks: " ++ e.message
  | .failed e => "Scheduler terminated: " ++ e.message

/-- What is given beside the message. -/
def details : Notice → List (String × String)
  | .starting workers => [("workers", Decimal.naturalText workers)]
  | .fetched chain worker output => fetch chain worker ++ [("output", output.compact)]
  | .fetchReported chain worker reason => fetch chain worker ++ [("reason", reason.compact)]
  | .fetchFailed chain worker _ => fetch chain worker
  | .executed output => [tick .execute, ("output", output.compact)]
  | .executeReported reason => [tick .execute, ("reason", reason.compact)]
  | .tokenRefreshed => [tick .credentialRefresh]
  | .swallowed kind _ => [tick kind]
  | .recovering attempt _ => [("attempt", Decimal.naturalText attempt.toNat)]
  | _ => []
where
  tick (kind : TickKind) : String × String := ("tick", kind.label)
  fetch (chain : ChainName) (worker : WorkerId) : List (String × String) :=
    [tick .fetch, ("chain", chain.text), ("worker", worker.text)]

end Notice

/-- Something that a scheduler does. -/
inductive Event where
  | entered (state : SchedulerState)
  | fired (tick : TickKind)
  /-- A call is made; `index` counts those before it on its line. -/
  | began (call : Call) (index : Nat) (state : SchedulerState)
  | finished (call : Call) (index : Nat) (how : Ended)
  | reported (notice : Notice)
  /-- A tick hands an error that it does not absorb to the supervisor. -/
  | faulted (tick : TickKind) (error : SchedulerError)
deriving Repr

end Interchain
