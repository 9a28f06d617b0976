import Interchain.Credentials
import Interchain.Executor
import Interchain.Scheduler.Settings

/-!
# Why a scheduler ends
-/

namespace Interchain

/-- What a tick failed with, or why none was started. -/
inductive SchedulerError where
  | executorNotRunning
  | executor (error : ExecutorError)
  | credential (error : CredentialError)
  | tickPanicked (tick : TickKind) (message : String)
deriving DecidableEq, Repr

namespace SchedulerError

def message : SchedulerError → String
  | .executorNotRunning => "executor is not running; configure and resume it first"
  | .executor e => e.message
  | .credential e => "credential refresh failed: " ++ e.message
  | .tickPanicked tick m => tick.label ++ " tick panicked: " ++ m

def transientKind? : SchedulerError → Option TransientKind
  | .executor e => e.transientKind?
  | _ => none

def isTransient (e : SchedulerError) : Bool :=
  e.transientKind?.isSome

end SchedulerError

/-- Whether transient errors of a tick stay inside the tick. -/
def TickKind.swallowsTransient : TickKind → Bool
  | .credentialRefresh => false
  | _ => true

end Interchain
