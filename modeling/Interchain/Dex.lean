import Interchain.Asset
import Interchain.Name
import Interchain.Topology.Error

/-!
# Dexes

A dex trades pairs of assets of one chain.  Each pair is a pool with an
identifier of its own.
-/

namespace Interchain

/-- A pool of two assets.  Fees are in basis points. -/
structure DexPair where
  id : PoolId
  asset0 : AssetInfo
  asset1 : AssetInfo
  swapFee : UInt32
  devFee : UInt32
deriving DecidableEq, Repr

namespace DexPair

def fields : List Field :=
  [.required "id" (Blob.codec : Codec PoolId), .required "asset0" AssetInfo.codec,
   .required "asset1" AssetInfo.codec, .default "swap_fee" .uint32 0,
   .default "dev_fee" .uint32 0]

def toValues (p : DexPair) : Values fields :=
  (p.id, p.asset0, p.asset1, p.swapFee, p.devFee, ())

def ofValues : Values fields → DexPair
  | (id, asset0, asset1, swapFee, devFee, ()) => ⟨id, asset0, asset1, swapFee, devFee⟩

def codec : Codec DexPair :=
  .record "DexPair" fields toValues ofValues

end DexPair

/-- A dex with its pools, in the order in which they were registered. -/
structure Dex where
  name : DexName
  id : PoolId
  chain : ChainName
  pairs : List DexPair
deriving DecidableEq, Repr

namespace Dex

/-- A dex without pools. -/
def blank (name : DexName) (id : PoolId) (chain : ChainName) : Dex :=
  ⟨name, id, chain, []⟩

/-- Trade a further pool. -/
def register (d : Dex) (pair : DexPair) : Except TopologyError Dex :=
  if d.pairs.any fun p => p.id == pair.id then .error (.duplicatePair d.name.text)
  else .ok { d with pairs := d.pairs ++ [pair] }

/-- Trade a pool no longer, and say which it was. -/
def unregister (d : Dex) (id : PoolId) : Except TopologyError (Dex × DexPair) :=
  match d.pairs.find? fun p => p.id == id with
  | none => .error (.unknownPair d.name.text)
  | some pair => .ok ({ d with pairs := d.pairs.eraseP fun p => p.id == id }, pair)

def fields : List Field :=
  [.required "name" (Name.codec : Codec DexName), .required "id" (Blob.codec : Codec PoolId),
   .required "chain" ChainName.codec, .required "pairs" (.list DexPair.codec)]

def toValues (d : Dex) : Values fields :=
  (d.name, d.id, d.chain, d.pairs, ())

def ofValues : Values fields → Dex
  | (name, id, chain, pairs, ()) => ⟨name, id, chain, pairs⟩

def codec : Codec Dex :=
  .record "Dex" fields toValues ofValues

end Dex

end Interchain
