import Interchain.Blob
import Interchain.Gateway.Contract
import Interchain.Text.Upper

/-!
# The executor

The executor contract discovers and executes tasks.  It is configured with its
storage and its key store, started, and asked to run one cycle at a time; what
it answers to a cycle is passed on as it is.
-/

namespace Interchain

/-- A call that the executor did not carry out. -/
inductive ExecutorError where
  | rejected (method code : String)
  | transport (error : TransportError)
deriving DecidableEq, Repr

namespace ExecutorError

def message : ExecutorError → String
  | .rejected method code => "executor rejected " ++ method ++ ": " ++ code
  | .transport e => e.message

def transientKind? : ExecutorError → Option TransientKind
  | .rejected _ _ => none
  | .transport e => e.transientKind?

def isTransient (e : ExecutorError) : Bool :=
  e.transientKind?.isSome

def ofCall (method : String) : CallError Json → ExecutorError
  | .contract code => .rejected method code.compact
  | .transport e => .transport e

end ExecutorError

/-- What one cycle does. -/
inductive RunningMode where
  /-- Look on a chain for tasks of a worker. -/
  | fetch (source : ChainName) (worker : WorkerId)
  /-- Advance the tasks that were found. -/
  | execute
deriving DecidableEq, Repr

namespace RunningMode

/-- What a cycle of the first kind carries. -/
def fetchFields : List Field :=
  [.required "source" ChainName.codec, .required "worker" (Name.codec : Codec WorkerId)]

def codec : Codec RunningMode where
  write
    | .fetch source worker =>
      .object [("Fetch", .array [ChainName.codec.write source, Name.codec.write worker])]
    | .execute => .string "Execute"
  read form d :=
    Codec.readVariant Codec.variantName ["Fetch", "Execute"]
      (fun name payload =>
        if name = "Fetch" then
          (Codec.fielded "RunningMode::Fetch" fetchFields form payload).map fun v =>
            .fetch v.1 v.2.1
        else Codec.bare .execute payload)
      form d

end RunningMode

/-- The account of a worker in both representations. -/
structure AccountInfo where
  account32 : AccountId
  account20 : AccountId
deriving DecidableEq, Repr

namespace AccountInfo

/-- Whether a worker's key is that of the account. -/
def isOf (a : AccountInfo) (worker : WorkerId) : Bool :=
  Ascii.sameText a.account32.toHex worker.text

def fields : List Field :=
  [.required "account32" (Blob.codec : Codec AccountId),
   .required "account20" (Blob.codec : Codec AccountId)]

def codec : Codec AccountInfo :=
  .record "AccountInfo" fields (fun a => (a.account32, a.account20, ())) fun v => ⟨v.1, v.2.1⟩

end AccountInfo

/-- What the executor reported for a cycle: its output, or its own reason for
not having one. -/
abbrev RunOutcome := Except Json Json

namespace Executor

/-- The key of a chain's task queue: the lower-case name with its first
character raised. -/
def queueKey (chain : ChainName) : String :=
  match chain.normalized.toList with
  | [] => ""
  | c :: rest => String.ofList (Upper.ofChar c ++ rest)

/-- Arguments as an opaque value. -/
def args (items : List Json) : Json :=
  (Json.array items).canonical

def amountText (amount : BitVec 128) : String :=
  Decimal.naturalText amount.toNat

def query {α : Type} (c : ContractClient) (method : String) (items : List Json)
    (value : Codec α) : Exchange (Except ExecutorError α) := do
  let r ← c.query method (args items) Codec.opaqueValue value
  return r.mapError (ExecutorError.ofCall method)

def transaction (c : ContractClient) (method : String) (items : List Json) :
    Exchange (Except ExecutorError Unit) := do
  let r ← c.transaction method (args items) Codec.opaqueValue
  return (r.mapError (ExecutorError.ofCall method)).map fun _ => ()

/-- Give the executor its storage and its key store. -/
def configure (c : ContractClient) (storageUrl storageKey : String) (keystore : ContractId)
    (resume : Bool) : Exchange (Except ExecutorError Unit) :=
  transaction c "config_engine"
    [.string storageUrl, .string storageKey, Name.codec.write keystore, .bool resume]

/-- Start the executor. -/
def resume (c : ContractClient) : Exchange (Except ExecutorError Unit) :=
  transaction c "resume_executor" []

def isRunning (c : ContractClient) : Exchange (Except ExecutorError Bool) :=
  query c "is_running" [] .bool

/-- Run one cycle.  A rejection by the contract is an outcome. -/
def runCycle (c : ContractClient) (mode : RunningMode) :
    Exchange (Except ExecutorError RunOutcome) := do
  let r ← c.query "run" (args [RunningMode.codec.write mode]) Codec.opaqueValue Codec.opaqueValue
  match r with
  | .ok output => return .ok (.ok output)
  | .error (.contract reason) => return .ok (.error reason)
  | .error (.transport e) => return .error (.transport e)

def workerAccounts (c : ContractClient) : Exchange (Except ExecutorError (List AccountInfo)) :=
  query c "get_worker_accounts" [] (.list AccountInfo.codec)

/-- Let a spender use up to an amount of a worker's token. -/
def approve (c : ContractClient) (worker : WorkerId) (chain : ChainName)
    (token spender : Location) (amount : BitVec 128) : Exchange (Except ExecutorError Json) :=
  query c "worker_approve"
    [Name.codec.write worker, .string chain.normalized, Blob.codec.write token,
     Blob.codec.write spender, .string (amountText amount)]
    Codec.opaqueValue

/-- Take a task out of a worker's queue. -/
def dropTask (c : ContractClient) (worker : WorkerId) (chain : ChainName) (task : TaskId) :
    Exchange (Except ExecutorError Json) :=
  query c "worker_drop_task"
    [Name.codec.write worker, .string (queueKey chain), Blob.codec.write task]
    Codec.opaqueValue

end Executor

end Interchain
