import Interchain.Bridge
import Interchain.Chain
import Interchain.Dex
import Interchain.Keyed
import Interchain.Topology.Graph

/-!
# The topology

Chains with their assets, bridges with the pairs they carry, and dexes with
their pools, each in order of registration.  What refers to something else can
only be registered after it, and goes when it goes.
-/

namespace Interchain

/-- Everything that is registered. -/
structure Topology where
  chains : List ChainEntry
  bridges : List Bridge
  dexes : List Dex
deriving DecidableEq, Repr

namespace Topology

/-- Nothing is registered. -/
def empty : Topology := ⟨[], [], []⟩

/-! ## Look-up -/

def entry? (t : Topology) (name : ChainName) : Option ChainEntry :=
  t.chains.find? fun c => c.info.name.same name

def chain? (t : Topology) (name : ChainName) : Option ChainInfo :=
  (t.entry? name).map ChainEntry.info

def assetsOn? (t : Topology) (chain : ChainName) : Option (List AssetInfo) :=
  (t.entry? chain).map ChainEntry.assets

def bridge? (t : Topology) (name : BridgeName) : Option Bridge :=
  t.bridges.find? fun b => b.name == name

def dex? (t : Topology) (name : DexName) : Option Dex :=
  t.dexes.find? fun d => d.name == name

/-- The chain of a name, or the fault that there is none. -/
def entry (t : Topology) (name : ChainName) : Except TopologyError ChainEntry :=
  match t.entry? name with
  | some c => .ok c
  | none => .error (.unknownChain name)

def bridge (t : Topology) (name : BridgeName) : Except TopologyError Bridge :=
  match t.bridge? name with
  | some b => .ok b
  | none => .error (.unknownBridge name)

def dex (t : Topology) (name : DexName) : Except TopologyError Dex :=
  match t.dex? name with
  | some d => .ok d
  | none => .error (.unknownDex name)

/-- Put a chain in place of the one that answers to a name. -/
def putEntry (t : Topology) (name : ChainName) (c : ChainEntry) : Topology :=
  { t with chains := Keyed.update (fun d => d.info.name.same name) (fun _ => c) t.chains }

def putBridge (t : Topology) (name : BridgeName) (b : Bridge) : Topology :=
  { t with bridges := Keyed.update (fun c => c.name == name) (fun _ => b) t.bridges }

def putDex (t : Topology) (name : DexName) (d : Dex) : Topology :=
  { t with dexes := Keyed.update (fun e => e.name == name) (fun _ => d) t.dexes }

/-! ## Chains -/

def addChain (t : Topology) (info : ChainInfo) : Except TopologyError Topology :=
  match t.entry? info.name with
  | some _ => .error (.duplicateChain info.name)
  | none => .ok { t with chains := t.chains ++ [ChainEntry.ofInfo info] }

/-- Remove a chain with every bridge and dex that refers to it. -/
def removeChain (t : Topology) (name : ChainName) : Except TopologyError (Topology × ChainInfo) := do
  let c ← t.entry name
  return ({ chains := t.chains.eraseP fun c => c.info.name.same name
            bridges := t.bridges.filter fun b => !b.chain0.same name && !b.chain1.same name
            dexes := t.dexes.filter fun d => !d.chain.same name }, c.info)

def setNative (t : Topology) (chain : ChainName) (asset : AssetInfo) :
    Except TopologyError Topology := do
  let c ← t.entry chain
  return t.putEntry chain (c.setNative asset)

def setStable (t : Topology) (chain : ChainName) (asset : AssetInfo) :
    Except TopologyError Topology := do
  let c ← t.entry chain
  return t.putEntry chain (c.setStable asset)

def setEndpoint (t : Topology) (chain : ChainName) (endpoint : String) :
    Except TopologyError Topology := do
  let c ← t.entry chain
  return t.putEntry chain (c.setEndpoint endpoint)

/-! ## Assets -/

/-- An asset can be registered on a chain that is known and has none at its
location. -/
def validateAsset (t : Topology) (chain : ChainName) (asset : AssetInfo) :
    Except TopologyError Unit := do
  let c ← t.entry chain
  if c.contains asset.location then .error (.duplicateAsset chain asset.location) else .ok ()

def addAsset (t : Topology) (chain : ChainName) (asset : AssetInfo) :
    Except TopologyError Topology := do
  t.validateAsset chain asset
  let c ← t.entry chain
  let c ← c.register asset
  return t.putEntry chain c

/-- The pairs a bridge still carries when an asset of a chain goes. -/
def forgetOnBridge (chain : ChainName) (location : Location) (b : Bridge) : Bridge :=
  { b with
    assets := b.assets.filter fun p =>
      !(b.chain0.same chain && p.asset0.location == location) &&
        !(b.chain1.same chain && p.asset1.location == location) }

/-- The pools a dex still trades when an asset of a chain goes. -/
def forgetOnDex (chain : ChainName) (location : Location) (d : Dex) : Dex :=
  if d.chain.same chain then
    { d with
      pairs := d.pairs.filter fun p =>
        !(p.asset0.location == location) && !(p.asset1.location == location) }
  else d

/-- Remove an asset with every pair on a bridge or dex that refers to it. -/
def removeAsset (t : Topology) (chain : ChainName) (location : Location) :
    Except TopologyError (Topology × AssetInfo) := do
  let c ← t.entry chain
  let (c, asset) ← c.unregister location
  let t := t.putEntry chain c
  return ({ t with
            bridges := t.bridges.map (forgetOnBridge chain location)
            dexes := t.dexes.map (forgetOnDex chain location) }, asset)

/-! ## Bridges -/

def addBridge (t : Topology) (name : BridgeName) (chain0 chain1 : ChainName) :
    Except TopologyError Topology :=
  match t.bridge? name with
  | some _ => .error (.duplicateBridge name)
  | none => do
    let _ ← t.entry chain0
    let _ ← t.entry chain1
    return { t with bridges := t.bridges ++ [Bridge.blank name chain0 chain1] }

def removeBridge (t : Topology) (name : BridgeName) : Except TopologyError (Topology × Bridge) := do
  let b ← t.bridge name
  return ({ t with bridges := t.bridges.eraseP fun b => b.name == name }, b)

/-- An asset is registered on a chain. -/
def ensureRegistered (t : Topology) (chain : ChainName) (asset : AssetInfo) :
    Except TopologyError Unit :=
  match t.entry? chain with
  | some c =>
    if c.contains asset.location then .ok () else .error (.unknownAsset chain asset.location)
  | none => .error (.unknownAsset chain asset.location)

/-- A bridge can carry a pair whose assets are registered on its two chains. -/
def validateBridgePair (t : Topology) (bridge : BridgeName) (pair : AssetPair) :
    Except TopologyError Unit := do
  let b ← t.bridge bridge
  t.ensureRegistered b.chain0 pair.asset0
  t.ensureRegistered b.chain1 pair.asset1

def addBridgePair (t : Topology) (bridge : BridgeName) (pair : AssetPair) :
    Except TopologyError Topology := do
  t.validateBridgePair bridge pair
  let b ← t.bridge bridge
  let b ← b.register pair
  return t.putBridge bridge b

def removeBridgePair (t : Topology) (bridge : BridgeName) (pair : AssetPair) :
    Except TopologyError (Topology × AssetPair) := do
  let b ← t.bridge bridge
  let (b, stored) ← b.unregister pair
  return (t.putBridge bridge b, stored)

/-! ## Dexes -/

def addDex (t : Topology) (name : DexName) (id : PoolId) (chain : ChainName) :
    Except TopologyError Topology :=
  match t.dex? name with
  | some _ => .error (.duplicateDex name)
  | none => do
    let _ ← t.entry chain
    return { t with dexes := t.dexes ++ [Dex.blank name id chain] }

def removeDex (t : Topology) (name : DexName) : Except TopologyError (Topology × Dex) := do
  let d ← t.dex name
  return ({ t with dexes := t.dexes.eraseP fun d => d.name == name }, d)

/-- A dex can trade a pool of two assets that are registered on its chain. -/
def validateDexPair (t : Topology) (dex : DexName) (pair : DexPair) :
    Except TopologyError Unit := do
  let d ← t.dex dex
  t.ensureRegistered d.chain pair.asset0
  t.ensureRegistered d.chain pair.asset1

def addDexPair (t : Topology) (dex : DexName) (pair : DexPair) :
    Except TopologyError Topology := do
  t.validateDexPair dex pair
  let d ← t.dex dex
  let d ← d.register pair
  return t.putDex dex d

def removeDexPair (t : Topology) (dex : DexName) (id : PoolId) :
    Except TopologyError (Topology × DexPair) := do
  let d ← t.dex dex
  let (d, pair) ← d.unregister id
  return (t.putDex dex d, pair)

/-! ## The flat graph -/

def assetNodes (c : ChainEntry) : List AssetNode :=
  c.assets.map fun a => ⟨c.info.name, a.location, a.name, a.symbol, a.decimals⟩

def poolEdges (d : Dex) : List PoolEdge :=
  d.pairs.map fun p => ⟨p.id, p.asset0.location, p.asset1.location, d.name, d.chain⟩

def bridgeEdge (b : Bridge) : BridgeEdge :=
  ⟨b.chain0, b.chain1, b.assets.map fun p => (p.asset0.location, p.asset1.location)⟩

/-- What clients of the registry see of the topology. -/
def graph (t : Topology) : Graph :=
  ⟨t.chains.flatMap assetNodes, t.dexes.flatMap poolEdges, t.bridges.map bridgeEdge⟩

end Topology

end Interchain
