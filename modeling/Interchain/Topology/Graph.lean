import Interchain.Blob
import Interchain.Name

/-!
# The flat graph of a topology

What clients of the registry see: every asset with its chain, every pool with
its dex, and every bridge with the locations it joins.
-/

namespace Interchain

/-- An asset with the chain it is on. -/
structure AssetNode where
  chain : ChainName
  location : Location
  name : String
  symbol : String
  decimals : UInt8
deriving DecidableEq, Repr

namespace AssetNode

def fields : List Field :=
  [.required "chain" ChainName.codec, .required "location" (Blob.codec : Codec Location),
   .required "name" .string, .required "symbol" .string, .required "decimals" .uint8]

def toValues (a : AssetNode) : Values fields :=
  (a.chain, a.location, a.name, a.symbol, a.decimals, ())

def ofValues : Values fields → AssetNode
  | (chain, location, name, symbol, decimals, ()) => ⟨chain, location, name, symbol, decimals⟩

def codec : Codec AssetNode :=
  .record "AssetGraph" fields toValues ofValues

end AssetNode

/-- A pool with its dex; its assets are given by their locations on the chain. -/
structure PoolEdge where
  id : PoolId
  asset0 : Location
  asset1 : Location
  dex : DexName
  chain : ChainName
deriving DecidableEq, Repr

namespace PoolEdge

def fields : List Field :=
  [.required "id" (Blob.codec : Codec PoolId), .required "asset0" (Blob.codec : Codec Location),
   .required "asset1" (Blob.codec : Codec Location), .required "dex" (Name.codec : Codec DexName),
   .required "chain" ChainName.codec]

def toValues (p : PoolEdge) : Values fields :=
  (p.id, p.asset0, p.asset1, p.dex, p.chain, ())

def ofValues : Values fields → PoolEdge
  | (id, asset0, asset1, dex, chain, ()) => ⟨id, asset0, asset1, dex, chain⟩

def codec : Codec PoolEdge :=
  .record "TradingPairGraph" fields toValues ofValues

end PoolEdge

/-- A bridge; each of its pairs is given by the location on either chain. -/
structure BridgeEdge where
  chain0 : ChainName
  chain1 : ChainName
  assets : List (Location × Location)
deriving DecidableEq, Repr

namespace BridgeEdge

/-- Whether the bridge joins two chains, in either direction. -/
def connects (b : BridgeEdge) (x y : ChainName) : Bool :=
  b.chain0.same x && b.chain1.same y || b.chain0.same y && b.chain1.same x

def fields : List Field :=
  [.required "chain0" ChainName.codec, .required "chain1" ChainName.codec,
   .required "assets"
     (.list (.pair (Blob.codec : Codec Location) (Blob.codec : Codec Location)))]

def toValues (b : BridgeEdge) : Values fields :=
  (b.chain0, b.chain1, b.assets, ())

def ofValues : Values fields → BridgeEdge
  | (chain0, chain1, assets, ()) => ⟨chain0, chain1, assets⟩

def codec : Codec BridgeEdge :=
  .record "BridgeGraph" fields toValues ofValues

end BridgeEdge

/-- The flat graph. -/
structure Graph where
  assets : List AssetNode
  pairs : List PoolEdge
  bridges : List BridgeEdge
deriving DecidableEq, Repr

namespace Graph

/-- The first asset at a location of a chain. -/
def asset? (g : Graph) (chain : ChainName) (location : Location) : Option AssetNode :=
  g.assets.find? fun a => a.chain.same chain && a.location == location

/-- The assets of a chain. -/
def assetsOn (g : Graph) (chain : ChainName) : List AssetNode :=
  g.assets.filter fun a => a.chain.same chain

/-- The bridges that join two chains, whichever way they were declared. -/
def bridgesBetween (g : Graph) (x y : ChainName) : List BridgeEdge :=
  g.bridges.filter fun b => b.connects x y

def fields : List Field :=
  [.default "assets" (.list AssetNode.codec) [], .default "pairs" (.list PoolEdge.codec) [],
   .default "bridges" (.list BridgeEdge.codec) []]

def toValues (g : Graph) : Values fields :=
  (g.assets, g.pairs, g.bridges, ())

def ofValues : Values fields → Graph
  | (assets, pairs, bridges, ()) => ⟨assets, pairs, bridges⟩

def codec : Codec Graph :=
  .record "Graph" fields toValues ofValues

end Graph

end Interchain
