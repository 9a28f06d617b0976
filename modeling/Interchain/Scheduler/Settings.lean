import Interchain.Name
import Interchain.Text.Blank

/-!
# Settings of the scheduler

The scheduler has three ticks, each with a period of its own.
-/

namespace Interchain

/-- What the scheduler does from time to time. -/
inductive TickKind where
  /-- Look for tasks. -/
  | fetch
  /-- Advance the tasks that were found. -/
  | execute
  /-- Give the executor a fresh storage token. -/
  | credentialRefresh
deriving DecidableEq, Repr

namespace TickKind

/-- All ticks, in the order in which they are started. -/
def all : List TickKind := [.fetch, .execute, .credentialRefresh]

def label : TickKind → String
  | .fetch => "fetch"
  | .execute => "execute"
  | .credentialRefresh => "credential_refresh"

/-- The name of the setting that holds the period. -/
def setting : TickKind → String
  | .fetch => "fetch_interval_ms"
  | .execute => "execute_interval_ms"
  | .credentialRefresh => "token_update_interval_ms"

end TickKind

/-- What the scheduler works on and how often, with periods in milliseconds. -/
structure SchedulerSettings where
  /-- Where to look for tasks, in this order. -/
  sourceChains : List ChainName
  workers : List WorkerId
  fetchInterval : UInt64
  executeInterval : UInt64
  tokenUpdateInterval : UInt64
  /-- The command line that prints a storage token. -/
  tokenCommand : String
deriving DecidableEq, Repr

/-- Why a scheduler cannot run with its settings. -/
inductive SettingsFault where
  | zeroInterval (tick : TickKind)
  | noSourceChain
  | noWorker
  | noTokenCommand
deriving DecidableEq, Repr

def SettingsFault.message : SettingsFault → String
  | .zeroInterval tick => "scheduler." ++ tick.setting ++ " must be greater than zero"
  | .noSourceChain => "scheduler.source_chains must name at least one chain"
  | .noWorker => "scheduler.workers must name at least one worker"
  | .noTokenCommand => "scheduler.token_command is empty"

namespace SchedulerSettings

/-- The settings that hold where none are given. -/
def standard : SchedulerSettings where
  sourceChains := [⟨"Moonbeam"⟩, ⟨"AstarEvm"⟩]
  workers := []
  fetchInterval := 30000
  executeInterval := 10000
  tokenUpdateInterval := 60000
  tokenCommand := "gcloud auth print-access-token"

def fields : List Field :=
  [.default "source_chains" (.list ChainName.codec) standard.sourceChains,
   .default "workers" (.list (Name.codec : Codec WorkerId)) standard.workers,
   .default TickKind.fetch.setting .uint64 standard.fetchInterval,
   .default TickKind.execute.setting .uint64 standard.executeInterval,
   .default TickKind.credentialRefresh.setting .uint64 standard.tokenUpdateInterval,
   .default "token_command" .string standard.tokenCommand]

def toValues (s : SchedulerSettings) : Values fields :=
  (s.sourceChains, s.workers, s.fetchInterval, s.executeInterval, s.tokenUpdateInterval,
   s.tokenCommand, ())

def ofValues : Values fields → SchedulerSettings
  | (sourceChains, workers, fetch, execute, tokenUpdate, tokenCommand, ()) =>
    ⟨sourceChains, workers, fetch, execute, tokenUpdate, tokenCommand⟩

def codec : Codec SchedulerSettings :=
  .record "SchedulerSettings" fields toValues ofValues

/-- The period of a tick. -/
def interval (s : SchedulerSettings) : TickKind → UInt64
  | .fetch => s.fetchInterval
  | .execute => s.executeInterval
  | .credentialRefresh => s.tokenUpdateInterval

/-- The settings with the periods that are given in place of their own. -/
def withIntervals (s : SchedulerSettings) (fetch execute tokenUpdate : Option UInt64) :
    SchedulerSettings :=
  { s with
    fetchInterval := fetch.getD s.fetchInterval
    executeInterval := execute.getD s.executeInterval
    tokenUpdateInterval := tokenUpdate.getD s.tokenUpdateInterval }

/-- The first fault of the settings, if they have one. -/
def validate (s : SchedulerSettings) : Except SettingsFault Unit :=
  match TickKind.all.find? fun tick => s.interval tick == 0 with
  | some tick => .error (.zeroInterval tick)
  | none =>
    if s.sourceChains.isEmpty then .error .noSourceChain
    else if s.workers.isEmpty then .error .noWorker
    else if (Blank.trim s.tokenCommand).isEmpty then .error .noTokenCommand
    else .ok ()

end SchedulerSettings

end Interchain
