import Interchain.Chain
import Interchain.Gateway.Contract

/-!
# Handlers

Every chain has a handler contract that takes deposits for tasks.  Only those on
EVM chains can be called.
-/

namespace Interchain

inductive HandlerError where
  | unsupportedChain (chain : ChainName)
  | rejected (method code : String)
  | transport (error : TransportError)
deriving DecidableEq, Repr

def HandlerError.message : HandlerError → String
  | .unsupportedChain chain =>
    "handler calls are not implemented for " ++ chain.text ++ " (not an EVM chain)"
  | .rejected method code => "handler rejected " ++ method ++ ": " ++ code
  | .transport e => e.message

/-- A deposit for a task, with its encoded solution in `data`. -/
structure Deposit where
  asset : Location
  amount : BitVec 128
  recipient : Location
  worker : Location
  taskId : TaskId
  data : Location
deriving DecidableEq, Repr

namespace Deposit

def fields : List Field :=
  [.required "asset" (Blob.codec : Codec Location), .required "amount" .amount,
   .required "recipient" (Blob.codec : Codec Location),
   .required "worker" (Blob.codec : Codec Location),
   .required "task_id" (Blob.codec : Codec TaskId), .required "data" (Blob.codec : Codec Location)]

def toValues (d : Deposit) : Values fields :=
  (d.asset, d.amount, d.recipient, d.worker, d.taskId, d.data, ())

def ofValues : Values fields → Deposit
  | (asset, amount, recipient, worker, taskId, data, ()) =>
    ⟨asset, amount, recipient, worker, taskId, data⟩

def codec : Codec Deposit :=
  .record "Deposit" fields toValues ofValues

end Deposit

/-- The handler of an EVM chain. -/
structure HandlerClient where
  chain : ChainName
  contract : ContractClient
deriving DecidableEq, Repr

namespace HandlerClient

/-- The handler of a chain, if it can be called. -/
def make (chain : ChainName) (chainType : ChainType) (contract : ContractClient) :
    Except HandlerError HandlerClient :=
  match chainType with
  | .evm => .ok ⟨chain, contract⟩
  | .sub => .error (.unsupportedChain chain)

def submit (h : HandlerClient) (method : String) (items : List Json) :
    Exchange (Except HandlerError TxReceipt) := do
  let r ← h.contract.transaction method (.array items) Codec.opaqueValue
  return r.mapError fun
    | .contract code => .rejected method code.compact
    | .transport e => .transport e

/-- Accept deposits for a worker. -/
def setWorker (h : HandlerClient) (worker : Location) : Exchange (Except HandlerError TxReceipt) :=
  h.submit "set_worker" [Blob.codec.write worker]

/-- Deposit for a task. -/
def deposit (h : HandlerClient) (d : Deposit) : Exchange (Except HandlerError TxReceipt) :=
  h.submit "deposit"
    [Blob.codec.write d.asset, .string (Decimal.naturalText d.amount.toNat),
     Blob.codec.write d.recipient, Blob.codec.write d.worker, Blob.codec.write d.taskId,
     Blob.codec.write d.data]

end HandlerClient

end Interchain
