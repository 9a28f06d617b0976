import Interchain.Topology.Change

/-!
# Changes made in place

The changes step by step, as they are made on a topology that others hold on to.  The checks
come first as look-ups of their own, what is to be changed is found again and changed where it
stands, and what depends on it is cut back after it.  A step may find a fault: nothing takes
back what the steps before it have done.
-/

namespace Interchain

/-- Steps on a state in place.  What they change before a fault stays changed. -/
abbrev Edit (σ : Type) := ExceptT TopologyError (StateM σ)

namespace Edit

variable {σ τ α : Type}

/-- How an edit of a state ends, and the state that it leaves. -/
def runOn (x : Edit σ α) (s : σ) : Except TopologyError α × σ :=
  (ExceptT.run x).run s

/-- Read from the state. -/
def look (read : σ → Except TopologyError α) : Edit σ α := do
  MonadExcept.ofExcept (read (← get))

/-- Edit a part of the state where it stands.  However the edit ends, the part is as it left
it. -/
def part (find : σ → Except TopologyError τ) (put : τ → σ → σ) (x : Edit τ α) : Edit σ α := do
  let (outcome, p) := x.runOn (← look find)
  modify (put p)
  MonadExcept.ofExcept outcome

end Edit

open Edit

/-! ## Parts of the topology -/

namespace ChainEntry.InPlace

def adopt (asset : AssetInfo) : Edit ChainEntry Unit := do
  let c ← get
  if !c.contains asset.location then
    modify fun c => { c with assets := c.assets ++ [asset] }

def setNative (asset : AssetInfo) : Edit ChainEntry Unit := do
  adopt asset
  modify fun c => { c with info := { c.info with native := some asset } }

def setStable (asset : AssetInfo) : Edit ChainEntry Unit := do
  adopt asset
  modify fun c => { c with info := { c.info with stable := some asset } }

def setEndpoint (endpoint : String) : Edit ChainEntry Unit :=
  modify fun c => { c with info := { c.info with endpoint } }

def register (asset : AssetInfo) : Edit ChainEntry Unit := do
  let c ← get
  if c.contains asset.location then throw (.duplicateAsset c.info.name asset.location)
  modify fun c => { c with assets := c.assets ++ [asset] }

def unregister (location : Location) : Edit ChainEntry AssetInfo := do
  let c ← get
  match c.assets.find? fun a => a.location == location with
  | none => throw (.unknownAsset c.info.name location)
  | some asset =>
    modify fun c => { c with assets := c.assets.eraseP fun a => a.location == location }
    return asset

end ChainEntry.InPlace

namespace Bridge.InPlace

def register (pair : AssetPair) : Edit Bridge Unit := do
  let b ← get
  if b.assets.any fun p => p.id == pair.id then throw (.duplicatePair b.name.text)
  modify fun b => { b with assets := b.assets ++ [pair] }

def unregister (pair : AssetPair) : Edit Bridge AssetPair := do
  let b ← get
  match b.assets.find? fun p => p.id == pair.id with
  | none => throw (.unknownPair b.name.text)
  | some stored =>
    modify fun b => { b with assets := b.assets.eraseP fun p => p.id == pair.id }
    return stored

end Bridge.InPlace

namespace Dex.InPlace

def register (pair : DexPair) : Edit Dex Unit := do
  let d ← get
  if d.pairs.any fun p => p.id == pair.id then throw (.duplicatePair d.name.text)
  modify fun d => { d with pairs := d.pairs ++ [pair] }

def unregister (id : PoolId) : Edit Dex DexPair := do
  let d ← get
  match d.pairs.find? fun p => p.id == id with
  | none => throw (.unknownPair d.name.text)
  | some pair =>
    modify fun d => { d with pairs := d.pairs.eraseP fun p => p.id == id }
    return pair

end Dex.InPlace

namespace Topology.InPlace

variable {α : Type}

/-- Edit the chain of a name. -/
def onEntry (name : ChainName) (x : Edit ChainEntry α) : Edit Topology α :=
  part (fun t => t.entry name) (fun c t => t.putEntry name c) x

/-- Edit the bridge of a name. -/
def onBridge (name : BridgeName) (x : Edit Bridge α) : Edit Topology α :=
  part (fun t => t.bridge name) (fun b t => t.putBridge name b) x

/-- Edit the dex of a name. -/
def onDex (name : DexName) (x : Edit Dex α) : Edit Topology α :=
  part (fun t => t.dex name) (fun d t => t.putDex name d) x

/-! ## Chains -/

def addChain (info : ChainInfo) : Edit Topology Unit := do
  let t ← get
  if (t.entry? info.name).isSome then throw (.duplicateChain info.name)
  modify fun t => { t with chains := t.chains ++ [ChainEntry.ofInfo info] }

def removeChain (name : ChainName) : Edit Topology ChainInfo := do
  let c ← look fun t => t.entry name
  modify fun t => { t with chains := t.chains.eraseP fun c => c.info.name.same name }
  modify fun t =>
    { t with bridges := t.bridges.filter fun b => !b.chain0.same name && !b.chain1.same name }
  modify fun t => { t with dexes := t.dexes.filter fun d => !d.chain.same name }
  return c.info

/-! ## Assets -/

def addAsset (chain : ChainName) (asset : AssetInfo) : Edit Topology Unit := do
  look fun t => t.validateAsset chain asset
  onEntry chain (ChainEntry.InPlace.register asset)

def removeAsset (chain : ChainName) (location : Location) : Edit Topology AssetInfo := do
  let removed ← onEntry chain (ChainEntry.InPlace.unregister location)
  modify fun t => { t with bridges := t.bridges.map (forgetOnBridge chain location) }
  modify fun t => { t with dexes := t.dexes.map (forgetOnDex chain location) }
  return removed

/-! ## Bridges -/

def addBridge (name : BridgeName) (chain0 chain1 : ChainName) : Edit Topology Unit := do
  let t ← get
  if (t.bridge? name).isSome then throw (.duplicateBridge name)
  for chain in [chain0, chain1] do
    let _ ← look fun t => t.entry chain
  modify fun t => { t with bridges := t.bridges ++ [Bridge.blank name chain0 chain1] }

def removeBridge (name : BridgeName) : Edit Topology Bridge := do
  let b ← look fun t => t.bridge name
  modify fun t => { t with bridges := t.bridges.eraseP fun b => b.name == name }
  return b

def addBridgePair (bridge : BridgeName) (pair : AssetPair) : Edit Topology Unit := do
  look fun t => t.validateBridgePair bridge pair
  onBridge bridge (Bridge.InPlace.register pair)

/-! ## Dexes -/

def addDex (name : DexName) (id : PoolId) (chain : ChainName) : Edit Topology Unit := do
  let t ← get
  if (t.dex? name).isSome then throw (.duplicateDex name)
  let _ ← look fun t => t.entry chain
  modify fun t => { t with dexes := t.dexes ++ [Dex.blank name id chain] }

def removeDex (name : DexName) : Edit Topology Dex := do
  let d ← look fun t => t.dex name
  modify fun t => { t with dexes := t.dexes.eraseP fun d => d.name == name }
  return d

def addDexPair (dex : DexName) (pair : DexPair) : Edit Topology Unit := do
  look fun t => t.validateDexPair dex pair
  onDex dex (Dex.InPlace.register pair)

/-! ## All changes -/

/-- Make a change that takes nothing away. -/
def adding (x : Edit Topology Unit) : Edit Topology Removed :=
  (fun _ => .nothing) <$> x

/-- Make a change. -/
def change : TopologyChange → Edit Topology Removed
  | .addChain info => adding (addChain info)
  | .removeChain name => .chain <$> removeChain name
  | .setNative chain asset => adding (onEntry chain (ChainEntry.InPlace.setNative asset))
  | .setStable chain asset => adding (onEntry chain (ChainEntry.InPlace.setStable asset))
  | .setEndpoint chain endpoint => adding (onEntry chain (ChainEntry.InPlace.setEndpoint endpoint))
  | .addAsset chain asset => adding (addAsset chain asset)
  | .removeAsset chain location => .asset <$> removeAsset chain location
  | .addBridge name chain0 chain1 => adding (addBridge name chain0 chain1)
  | .removeBridge name => .bridge <$> removeBridge name
  | .addBridgePair bridge pair => adding (addBridgePair bridge pair)
  | .removeBridgePair bridge pair =>
    .bridgePair <$> onBridge bridge (Bridge.InPlace.unregister pair)
  | .addDex name id chain => adding (addDex name id chain)
  | .removeDex name => .dex <$> removeDex name
  | .addDexPair dex pair => adding (addDexPair dex pair)
  | .removeDexPair dex id => .dexPair <$> onDex dex (Dex.InPlace.unregister id)

end Topology.InPlace

end Interchain
