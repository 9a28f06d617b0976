import Interchain.Gateway.Error
import Interchain.Topology.Error

/-!
# Why a registry refuses a call
-/

namespace Interchain

/-- Why a registry refuses a call.  The code of a refusal that has no name here
is kept as text. -/
inductive RegistryError where
  | badOrigin
  | chainAlreadyRegistered
  | chainNotFound
  | assetAlreadyRegistered
  | assetNotFound
  | bridgeAlreadyRegistered
  | bridgeNotFound
  | dexAlreadyRegistered
  | dexNotFound
  | rejected (code : String)
  | transport (error : TransportError)
deriving DecidableEq, Repr

namespace RegistryError

def message : RegistryError → String
  | .badOrigin => "caller is not the registry admin"
  | .chainAlreadyRegistered => "chain already registered"
  | .chainNotFound => "chain not found"
  | .assetAlreadyRegistered => "asset already registered"
  | .assetNotFound => "asset not found"
  | .bridgeAlreadyRegistered => "bridge already registered"
  | .bridgeNotFound => "bridge not found"
  | .dexAlreadyRegistered => "dex already registered"
  | .dexNotFound => "dex not found"
  | .rejected code => "registry rejected the call: " ++ code
  | .transport e => e.message

/-- The refusals that have a name, with that name. -/
def named : List (String × RegistryError) :=
  [("BadOrigin", .badOrigin), ("ChainAlreadyRegistered", .chainAlreadyRegistered),
   ("ChainNotFound", .chainNotFound), ("AssetAlreadyRegistered", .assetAlreadyRegistered),
   ("AssetNotFound", .assetNotFound), ("BridgeAlreadyRegistered", .bridgeAlreadyRegistered),
   ("BridgeNotFound", .bridgeNotFound), ("DexAlreadyRegistered", .dexAlreadyRegistered),
   ("DexNotFound", .dexNotFound)]

/-- The name in a code: the code itself, or the key of its only member. -/
def nameIn : Json → String
  | .string s => s
  | .object [(k, _)] => k
  | _ => ""

/-- The refusal that a contract's code stands for. -/
def ofCode (code : Json) : RegistryError :=
  match named.find? fun n => n.1 == nameIn code with
  | some n => n.2
  | none => .rejected code.compact

/-- How a call to the registry contract failed. -/
def ofCall : CallError Json → RegistryError
  | .contract code => ofCode code
  | .transport e => .transport e

/-- The refusal that a fault of the topology is reported as. -/
def ofTopology : TopologyError → RegistryError
  | .duplicateChain _ => .chainAlreadyRegistered
  | .unknownChain _ => .chainNotFound
  | .duplicateAsset _ _ => .assetAlreadyRegistered
  | .duplicatePair _ => .assetAlreadyRegistered
  | .unknownAsset _ _ => .assetNotFound
  | .unknownPair _ => .assetNotFound
  | .duplicateBridge _ => .bridgeAlreadyRegistered
  | .unknownBridge _ => .bridgeNotFound
  | .duplicateDex _ => .dexAlreadyRegistered
  | .unknownDex _ => .dexNotFound

end RegistryError

end Interchain
