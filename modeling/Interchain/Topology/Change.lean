import Interchain.Topology.Basic

/-!
# Changes to the topology

A change either takes place or is refused and leaves the topology as it was.
-/

namespace Interchain

/-- Anything that can be done to the topology. -/
inductive TopologyChange where
  | addChain (info : ChainInfo)
  | removeChain (name : ChainName)
  | setNative (chain : ChainName) (asset : AssetInfo)
  | setStable (chain : ChainName) (asset : AssetInfo)
  | setEndpoint (chain : ChainName) (endpoint : String)
  | addAsset (chain : ChainName) (asset : AssetInfo)
  | removeAsset (chain : ChainName) (location : Location)
  | addBridge (name : BridgeName) (chain0 chain1 : ChainName)
  | removeBridge (name : BridgeName)
  | addBridgePair (bridge : BridgeName) (pair : AssetPair)
  | removeBridgePair (bridge : BridgeName) (pair : AssetPair)
  | addDex (name : DexName) (id : PoolId) (chain : ChainName)
  | removeDex (name : DexName)
  | addDexPair (dex : DexName) (pair : DexPair)
  | removeDexPair (dex : DexName) (id : PoolId)
deriving DecidableEq, Repr

/-- What a change took away. -/
inductive Removed where
  | nothing
  | chain (info : ChainInfo)
  | asset (info : AssetInfo)
  | bridge (bridge : Bridge)
  | bridgePair (pair : AssetPair)
  | dex (dex : Dex)
  | dexPair (pair : DexPair)
deriving DecidableEq, Repr

namespace Topology

/-- Make a change that takes nothing away. -/
def adding (r : Except TopologyError Topology) : Except TopologyError (Topology × Removed) :=
  r.map fun t => (t, .nothing)

/-- Make a change that takes something away. -/
def removing {α : Type} (kind : α → Removed) (r : Except TopologyError (Topology × α)) :
    Except TopologyError (Topology × Removed) :=
  r.map fun p => (p.1, kind p.2)

/-- Make a change. -/
def change (t : Topology) : TopologyChange → Except TopologyError (Topology × Removed)
  | .addChain info => adding (t.addChain info)
  | .removeChain name => removing .chain (t.removeChain name)
  | .setNative chain asset => adding (t.setNative chain asset)
  | .setStable chain asset => adding (t.setStable chain asset)
  | .setEndpoint chain endpoint => adding (t.setEndpoint chain endpoint)
  | .addAsset chain asset => adding (t.addAsset chain asset)
  | .removeAsset chain location => removing .asset (t.removeAsset chain location)
  | .addBridge name chain0 chain1 => adding (t.addBridge name chain0 chain1)
  | .removeBridge name => removing .bridge (t.removeBridge name)
  | .addBridgePair bridge pair => adding (t.addBridgePair bridge pair)
  | .removeBridgePair bridge pair => removing .bridgePair (t.removeBridgePair bridge pair)
  | .addDex name id chain => adding (t.addDex name id chain)
  | .removeDex name => removing .dex (t.removeDex name)
  | .addDexPair dex pair => adding (t.addDexPair dex pair)
  | .removeDexPair dex id => removing .dexPair (t.removeDexPair dex id)

/-- The topology after a change, whether it took place or was refused. -/
def after (t : Topology) (c : TopologyChange) : Topology :=
  match t.change c with
  | .ok (t', _) => t'
  | .error _ => t

/-- The topology after changes made one after the other. -/
def afterAll (t : Topology) (cs : List TopologyChange) : Topology :=
  cs.foldl after t

end Topology

end Interchain
