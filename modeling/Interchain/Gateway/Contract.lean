import Interchain.Gateway.Error
import Interchain.Gateway.Exchange
import Interchain.Json.Codec
import Interchain.Name

/-!
# Contracts behind a gateway

Reading calls are queries.  Writing calls go in two phases: the first estimates
the cost, and only if the contract would accept the call is it sent a second
time, with that estimate as its limits.
-/

namespace Interchain

/-- The outcome of the first phase. -/
structure CostEstimate (ε : Type) where
  gasRequired : UInt64
  storageDeposit : Option (BitVec 128)
  result : Except ε Json

namespace CostEstimate

variable {ε : Type}

def fields (code : Codec ε) : List Field :=
  [.required "gas_required" .uint64, .default "storage_deposit" (.option .amount) none,
   .required "result" (.outcome code .opaqueValue)]

def codec (code : Codec ε) : Codec (CostEstimate ε) :=
  .record "CostEstimate" (fields code) (fun e => (e.gasRequired, e.storageDeposit, e.result, ()))
    fun v => ⟨v.1, v.2.1, v.2.2.1⟩

end CostEstimate

/-- The receipt of a writing call. -/
structure TxReceipt where
  txHash : String
  block : Option UInt64
deriving DecidableEq, Repr

namespace TxReceipt

def fields : List Field :=
  [.required "tx_hash" .string, .default "block" (.option .uint64) none]

def codec : Codec TxReceipt :=
  .record "TxReceipt" fields (fun r => (r.txHash, r.block, ())) fun v => ⟨v.1, v.2.1⟩

end TxReceipt

namespace CallRequest

def fields : List Field :=
  [.required "id" .string, .required "origin" .string, .required "method" .string,
   .required "args" .opaqueValue, .default "gas_limit" (.option .uint64) none,
   .default "storage_deposit_limit" (.option .amount) none]

/-- A call as the body of a request, which has an identifier of its own.  Limits that are not
given are left out. -/
def codec : Codec (String × CallRequest) :=
  .sparse ["gas_limit", "storage_deposit_limit"] "CallRequest" fields
    (fun r => (r.1, r.2.origin, r.2.method, r.2.args, r.2.gasLimit, r.2.storageDepositLimit, ()))
    fun v => (v.1, ⟨v.2.1, v.2.2.1, v.2.2.2.1, v.2.2.2.2.1, v.2.2.2.2.2.1⟩)

end CallRequest

/-- A deployed contract, reached through a gateway on behalf of an account. -/
structure ContractClient where
  base : Url
  contract : ContractId
  origin : String
deriving DecidableEq, Repr

/-- What a gateway is asked to do with a call. -/
inductive Action where
  | query
  | estimate
  | tx
deriving DecidableEq, Repr

def Action.label : Action → String
  | .query => "query"
  | .estimate => "estimate"
  | .tx => "tx"

namespace ContractClient

/-- A contract at the gateway with the given address. -/
def make (endpoint : String) (contract : ContractId) (origin : String) :
    Except TransportError ContractClient :=
  match Url.parse? endpoint with
  | none => .error (.invalidEndpoint endpoint)
  | some url => .ok ⟨url.asDirectory, contract, origin⟩

/-- The text that a failed request is reported with. -/
def report (what : String) (url : Url) : String :=
  what ++ " for url (" ++ url.anonymous.render ++ ")"

/-- The body of a reply, or the fault in its place. -/
def body (url : Url) (reply : Reply) : Except TransportError String :=
  let endpoint := url.render
  match reply with
  | .reset => .error (.transient .connectionReset (report "error sending request" url))
  | .refused | .closed =>
    .error (.ofRemoteMessage endpoint (report "error sending request" url))
  | .truncated => .error (.transient .undecodedBody (report "error decoding response body" url))
  | .answer status text _ =>
    if 200 ≤ status ∧ status < 300 then .ok text
    else
      match TransportError.classify? text with
      | some kind => .error (.transient kind text)
      | none => .error (.http endpoint status text)

/-- Read the value in a reply.  One that cannot be read is taken for a passing
fault of the node. -/
def readReply {α : Type} (codec : Codec α) (url : Url) (reply : Reply) :
    Except TransportError α := do
  let text ← body url reply
  match codec.ofText text with
  | .ok a => return a
  | .error fault =>
    .error (.transient .undecodedBody
      ("undecodable response from " ++ url.render ++ ": " ++ fault.message ++ reply.place))

/-- Send one request about the contract and read its reply. -/
def post {α : Type} (c : ContractClient) (action : Action) (call : CallRequest)
    (codec : Codec α) : Exchange (Except TransportError α) :=
  match c.base.resolve? ("contracts/" ++ c.contract.text ++ "/" ++ action.label) with
  | none => pure (.error (.invalidEndpoint c.base.render))
  | some url =>
    if url.isSendable then do
      let reply ← Exchange.ask ⟨url, call⟩
      return readReply codec url reply
    else pure (.error (.ofRemoteMessage url.render (report "builder error" url)))

/-- A call without limits. -/
def unlimited (c : ContractClient) (method : String) (args : Json) : CallRequest :=
  ⟨c.origin, method, args, none, none⟩

/-- What a contract's own verdict is as the outcome of a call. -/
def verdict {ε α : Type} : Except TransportError (Except ε α) → Except (CallError ε) α
  | .error e => .error (.transport e)
  | .ok (.error code) => .error (.contract code)
  | .ok (.ok a) => .ok a

/-- A call that changes nothing. -/
def query {ε α : Type} (c : ContractClient) (method : String) (args : Json) (code : Codec ε)
    (value : Codec α) : Exchange (Except (CallError ε) α) := do
  let outcome ← c.post .query (c.unlimited method args) (.outcome code value)
  return verdict outcome

/-- A call that changes the contract's state. -/
def transaction {ε : Type} (c : ContractClient) (method : String) (args : Json) (code : Codec ε) :
    Exchange (Except (CallError ε) TxReceipt) := do
  let estimate ← c.post .estimate (c.unlimited method args) (CostEstimate.codec code)
  match estimate with
  | .error e => return .error (.transport e)
  | .ok e =>
    match e.result with
    | .error code => return .error (.contract code)
    | .ok _ =>
      let call : CallRequest :=
        ⟨c.origin, method, args, some e.gasRequired, e.storageDeposit⟩
      let outcome ← c.post .tx call (.outcome code TxReceipt.codec)
      return verdict outcome

end ContractClient

end Interchain
