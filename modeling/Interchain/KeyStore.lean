import Interchain.Gateway.Contract

/-!
# The key store

The key store contract holds the keys of workers and releases them to the
executor that it has been told about.
-/

namespace Interchain

inductive KeyStoreError where
  | rejected (method code : String)
  | transport (error : TransportError)
deriving DecidableEq, Repr

def KeyStoreError.message : KeyStoreError → String
  | .rejected method code => "key store rejected " ++ method ++ ": " ++ code
  | .transport e => e.message

/-- Let an executor import worker keys. -/
def KeyStore.setExecutor (c : ContractClient) (executor : ContractId) :
    Exchange (Except KeyStoreError TxReceipt) := do
  let r ← c.transaction "set_executor" (.array [Name.codec.write executor]) Codec.opaqueValue
  return r.mapError fun
    | .contract code => .rejected "set_executor" code.compact
    | .transport e => .transport e

end Interchain
