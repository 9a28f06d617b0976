import Interchain.Registry.Error
import Interchain.Topology.InPlace

/-!
# Calls of a registry

A registry takes registrations, which change its topology, and shows the graph
of it.  A registry in memory makes the changes on a topology of its own.
-/

namespace Interchain

/-- A registration. -/
inductive Registration where
  | registerChain (info : ChainInfo)
  | unregisterChain (name : ChainName)
  | registerAsset (chain : ChainName) (asset : AssetInfo)
  | unregisterAsset (chain : ChainName) (asset : AssetInfo)
  | setNative (chain : ChainName) (asset : AssetInfo)
  | setStable (chain : ChainName) (asset : AssetInfo)
  | setEndpoint (chain : ChainName) (endpoint : String)
  | registerBridge (name : BridgeName) (chain0 chain1 : ChainName)
  | unregisterBridge (name : BridgeName)
  | addBridgeAsset (bridge : BridgeName) (pair : AssetPair)
  | removeBridgeAsset (bridge : BridgeName) (pair : AssetPair)
  | registerDex (name : DexName) (id : PoolId) (chain : ChainName)
  | unregisterDex (name : DexName)
  | addDexPair (dex : DexName) (pair : DexPair)
  | removeDexPair (dex : DexName) (pair : DexPair)
deriving DecidableEq, Repr

/-- The change that a registration makes. -/
def Registration.change : Registration → TopologyChange
  | .registerChain info => .addChain info
  | .unregisterChain name => .removeChain name
  | .registerAsset chain asset => .addAsset chain asset
  | .unregisterAsset chain asset => .removeAsset chain asset.location
  | .setNative chain asset => .setNative chain asset
  | .setStable chain asset => .setStable chain asset
  | .setEndpoint chain endpoint => .setEndpoint chain endpoint
  | .registerBridge name chain0 chain1 => .addBridge name chain0 chain1
  | .unregisterBridge name => .removeBridge name
  | .addBridgeAsset bridge pair => .addBridgePair bridge pair
  | .removeBridgeAsset bridge pair => .removeBridgePair bridge pair
  | .registerDex name id chain => .addDex name id chain
  | .unregisterDex name => .removeDex name
  | .addDexPair dex pair => .addDexPair dex pair
  | .removeDexPair dex pair => .removeDexPair dex pair.id

/-- Anything that can be asked of a registry. -/
inductive RegistryCall where
  | register (registration : Registration)
  | getGraph
deriving DecidableEq, Repr

/-- What a registry answers. -/
inductive RegistryAnswer where
  | done
  | graph (graph : Graph)
deriving DecidableEq, Repr

namespace Registry

/-- Carry out a registration on a topology. -/
def register (t : Topology) (r : Registration) : Except RegistryError Topology :=
  match t.change r.change with
  | .ok (t', _) => .ok t'
  | .error e => .error (.ofTopology e)

/-- Answer a call from a topology, which is left as it was if the call is
refused. -/
def call (t : Topology) : RegistryCall → Except RegistryError RegistryAnswer × Topology
  | .register r =>
    match register t r with
    | .ok t' => (.ok .done, t')
    | .error e => (.error e, t)
  | .getGraph => (.ok (.graph t.graph), t)

/-- Carry out a registration on the topology of a registry in memory, which is changed in
place. -/
def write (t : Topology) (r : Registration) : Except RegistryError Unit × Topology :=
  let (outcome, t) := (Topology.InPlace.change r.change).runOn t
  ((outcome.mapError .ofTopology).map fun _ => (), t)

end Registry

end Interchain
