import Interchain.Blob
import Interchain.Name

/-!
# Why a change to the topology is refused
-/

namespace Interchain

/-- Why a change to the topology is refused.  The owner of a pair is a bridge or
a dex. -/
inductive TopologyError where
  | duplicateChain (name : ChainName)
  | unknownChain (name : ChainName)
  | duplicateAsset (chain : ChainName) (location : Location)
  | unknownAsset (chain : ChainName) (location : Location)
  | duplicateBridge (name : BridgeName)
  | unknownBridge (name : BridgeName)
  | duplicateDex (name : DexName)
  | unknownDex (name : DexName)
  | duplicatePair (owner : String)
  | unknownPair (owner : String)
deriving DecidableEq, Repr

def TopologyError.message : TopologyError → String
  | .duplicateChain name => "chain " ++ name.text ++ " is already registered"
  | .unknownChain name => "chain " ++ name.text ++ " is not registered"
  | .duplicateAsset chain location =>
    "asset " ++ location.toHex ++ " is already registered on " ++ chain.text
  | .unknownAsset chain location =>
    "asset " ++ location.toHex ++ " is not registered on " ++ chain.text
  | .duplicateBridge name => "bridge " ++ name.text ++ " is already registered"
  | .unknownBridge name => "bridge " ++ name.text ++ " is not registered"
  | .duplicateDex name => "dex " ++ name.text ++ " is already registered"
  | .unknownDex name => "dex " ++ name.text ++ " is not registered"
  | .duplicatePair owner => "pair already present on " ++ owner
  | .unknownPair owner => "pair not present on " ++ owner

end Interchain
