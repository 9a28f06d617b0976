import Interchain.Registry.Call

/-!
# Manifests

A manifest describes a topology.  It is applied to a registry as registrations
in an order in which each comes after what it refers to: chains, assets, bridges
each with its pairs, and dexes each with its pools.
-/

namespace Interchain

/-- An asset with the chain it is to be registered on. -/
structure ChainAsset where
  chain : ChainName
  asset : AssetInfo
deriving DecidableEq, Repr

namespace ChainAsset

/-- The chain stands among the fields of the asset. -/
def codec : Codec ChainAsset :=
  .spread "ChainAsset" (.required "chain" ChainName.codec) AssetInfo.fields
    (fun a => (a.chain, a.asset.toValues)) fun v => ⟨v.1, AssetInfo.ofValues v.2⟩

end ChainAsset

/-- A bridge with the pairs it is to carry. -/
structure BridgeEntry where
  name : BridgeName
  chain0 : ChainName
  chain1 : ChainName
  pairs : List AssetPair
deriving DecidableEq, Repr

namespace BridgeEntry

def fields : List Field :=
  [.required "name" (Name.codec : Codec BridgeName), .required "chain0" ChainName.codec,
   .required "chain1" ChainName.codec, .default "pairs" (.list AssetPair.codec) []]

def codec : Codec BridgeEntry :=
  .record "BridgeEntry" fields (fun b => (b.name, b.chain0, b.chain1, b.pairs, ())) fun v =>
    ⟨v.1, v.2.1, v.2.2.1, v.2.2.2.1⟩

end BridgeEntry

/-- A dex with the pools it is to trade. -/
structure DexEntry where
  name : DexName
  id : PoolId
  chain : ChainName
  pairs : List DexPair
deriving DecidableEq, Repr

namespace DexEntry

def fields : List Field :=
  [.required "name" (Name.codec : Codec DexName), .required "id" (Blob.codec : Codec PoolId),
   .required "chain" ChainName.codec, .default "pairs" (.list DexPair.codec) []]

def codec : Codec DexEntry :=
  .record "DexEntry" fields (fun d => (d.name, d.id, d.chain, d.pairs, ())) fun v =>
    ⟨v.1, v.2.1, v.2.2.1, v.2.2.2.1⟩

end DexEntry

/-- A description of a topology. -/
structure Manifest where
  chains : List ChainInfo
  assets : List ChainAsset
  bridges : List BridgeEntry
  dexes : List DexEntry
deriving DecidableEq, Repr

namespace Manifest

def fields : List Field :=
  [.default "chains" (.list ChainInfo.codec) [], .default "assets" (.list ChainAsset.codec) [],
   .default "bridges" (.list BridgeEntry.codec) [], .default "dexes" (.list DexEntry.codec) []]

def codec : Codec Manifest :=
  .record "RegistryManifest" fields (fun m => (m.chains, m.assets, m.bridges, m.dexes, ()))
    fun v => ⟨v.1, v.2.1, v.2.2.1, v.2.2.2.1⟩

/-- The registrations of a bridge. -/
def bridgeCalls (b : BridgeEntry) : List Registration :=
  .registerBridge b.name b.chain0 b.chain1 :: b.pairs.map (.addBridgeAsset b.name)

/-- The registrations of a dex. -/
def dexCalls (d : DexEntry) : List Registration :=
  .registerDex d.name d.id d.chain :: d.pairs.map (.addDexPair d.name)

/-- The registrations of a manifest, in order. -/
def calls (m : Manifest) : List Registration :=
  m.chains.map .registerChain ++ m.assets.map (fun a => .registerAsset a.chain a.asset) ++
    m.bridges.flatMap bridgeCalls ++ m.dexes.flatMap dexCalls

/-- Make registrations one by one until one of them fails; `n` counts those that
were made. -/
def makeAll {m : Type → Type} [Monad m] (register : Registration → m (Except RegistryError Unit))
    (n : Nat) : List Registration → m (Except RegistryError Nat)
  | [] => pure (.ok n)
  | r :: rest => do
    match ← register r with
    | .ok () => makeAll register (n + 1) rest
    | .error e => pure (.error e)

/-- Apply a manifest to a registry: all chains, all assets, then each bridge and each dex, followed
by what it carries.  The first registration that fails ends it; those before it stay. -/
def apply {m : Type → Type} [Monad m] (manifest : Manifest)
    (register : Registration → m (Except RegistryError Unit)) : m (Except RegistryError Nat) :=
  ExceptT.run do
    let mut made := 0
    for chain in manifest.chains do
      ExceptT.mk (register (.registerChain chain))
      made := made + 1
    for entry in manifest.assets do
      ExceptT.mk (register (.registerAsset entry.chain entry.asset))
      made := made + 1
    for bridge in manifest.bridges do
      ExceptT.mk (register (.registerBridge bridge.name bridge.chain0 bridge.chain1))
      made := made + 1
      for pair in bridge.pairs do
        ExceptT.mk (register (.addBridgeAsset bridge.name pair))
        made := made + 1
    for dex in manifest.dexes do
      ExceptT.mk (register (.registerDex dex.name dex.id dex.chain))
      made := made + 1
      for pair in dex.pairs do
        ExceptT.mk (register (.addDexPair dex.name pair))
        made := made + 1
    return made

/-- Apply a manifest to a topology. -/
def applyTo (manifest : Manifest) (t : Topology) : Except RegistryError Nat × Topology :=
  (manifest.apply (m := StateM Topology) fun r t =>
    match Registry.register t r with
    | .ok t' => (.ok (), t')
    | .error e => (.error e, t)).run t

end Manifest

end Interchain
