import Interchain.Config.Load
import Interchain.Handler
import Interchain.KeyStore
import Interchain.Registry.Error
import Interchain.Scheduler.Error

/-!
# Why a command fails
-/

namespace Interchain.Cli

/-- Why a command fails. -/
inductive Error where
  | load (error : LoadError)
  | config (fault : ConfigFault)
  | noStorageUrl
  | noStorageAccess
  | unknownChainType (chain : ChainName)
  | noEndpoint (chain : ChainName)
  | noHandler (chain : ChainName)
  | workerNotFound (worker : WorkerId)
  | unreadable (path : String) (fault : FileFault)
  /-- A text that is no record of the kind named. -/
  | badRecord (what : String) (fault : Fault)
  | transport (error : TransportError)
  | credential (error : CredentialError)
  | executor (error : ExecutorError)
  | keyStore (error : KeyStoreError)
  | registry (error : RegistryError)
  | handler (error : HandlerError)
  | scheduler (error : SchedulerError)
deriving DecidableEq, Repr

namespace Error

def message : Error → String
  | .load e => e.message
  | .config f => f.message
  | .noStorageUrl => "Storage URL must be provided (--storage-url or storage_url)"
  | .noStorageAccess => "Storage URL and Key must be provided"
  | .unknownChainType chain => "Unrecognized chain type: " ++ chain.text
  | .noEndpoint chain => "No endpoint configured for " ++ chain.text
  | .noHandler chain => "No handler configured for " ++ chain.text
  | .workerNotFound worker => "Worker " ++ worker.text ++ " not found"
  | .unreadable path _ => "Failed to read " ++ path
  | .badRecord what _ => "Invalid " ++ what ++ " JSON"
  | .transport e => e.message
  | .credential e => e.message
  | .executor e => e.message
  | .keyStore e => e.message
  | .registry e => e.message
  | .handler e => e.message
  | .scheduler e => e.message

/-- What caused the error, where its message does not say. -/
def cause? : Error → Option String
  | .unreadable _ fault => some fault.message
  | .badRecord _ fault => some fault.message
  | .scheduler (.credential e) => some e.message
  | _ => none

/-- A text with all of its lines set in. -/
def indent (s : String) : String :=
  String.ofList ("    ".toList ++ s.toList.flatMap fun c =>
    if c = '\n' then '\n' :: "    ".toList else [c])

/-- What is shown to the user. -/
def report (e : Error) : String :=
  "Error: " ++ e.message ++
    (match e.cause? with
      | some cause => "\n\nCaused by:\n" ++ indent cause
      | none => "") ++ "\n"

end Error

end Interchain.Cli
