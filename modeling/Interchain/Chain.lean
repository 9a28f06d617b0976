import Interchain.Asset
import Interchain.Name
import Interchain.Topology.Error

/-!
# Chains

A chain is registered with its native and stable assets, if it has them, and
those count as registered on it.
-/

namespace Interchain

/-- The two families of chains. -/
inductive ChainType where
  | evm
  | sub
deriving DecidableEq, Repr

namespace ChainType

/-- The name of the family on the wire. -/
def label : ChainType → String
  | .evm => "Evm"
  | .sub => "Sub"

/-- The family of a well-known chain. -/
def infer? (chain : ChainName) : Option ChainType :=
  if ["ethereum", "goerli", "moonbeam", "astarevm"].contains chain.normalized then some .evm
  else if ["astar", "poc3", "poc5", "khala", "phala", "acala", "karura"].contains
      chain.normalized then some .sub
  else none

def codec : Codec ChainType where
  write t := .string t.label
  read :=
    Codec.readVariant Codec.variantName ["Evm", "Sub"] fun name =>
      Codec.bare (if name = "Evm" then .evm else .sub)

end ChainType

/-- A chain as it is registered. -/
structure ChainInfo where
  name : ChainName
  chainType : ChainType
  native : Option AssetInfo
  stable : Option AssetInfo
  endpoint : String
  network : Option UInt8
deriving DecidableEq, Repr

namespace ChainInfo

/-- A chain without assets of its own and without a network number. -/
def plain (name : ChainName) (chainType : ChainType) (endpoint : String) : ChainInfo :=
  ⟨name, chainType, none, none, endpoint, none⟩

def fields : List Field :=
  [.required "name" ChainName.codec, .required "chain_type" ChainType.codec,
   .default "native" (.option AssetInfo.codec) none,
   .default "stable" (.option AssetInfo.codec) none,
   .required "endpoint" .string, .default "network" (.option .uint8) none]

def toValues (c : ChainInfo) : Values fields :=
  (c.name, c.chainType, c.native, c.stable, c.endpoint, c.network, ())

def ofValues : Values fields → ChainInfo
  | (name, chainType, native, stable, endpoint, network, ()) =>
    ⟨name, chainType, native, stable, endpoint, network⟩

def codec : Codec ChainInfo :=
  .record "ChainInfo" fields toValues ofValues

end ChainInfo

/-- A registered chain with the assets registered on it, in order of
registration. -/
structure ChainEntry where
  info : ChainInfo
  assets : List AssetInfo
deriving DecidableEq, Repr

namespace ChainEntry

/-- Whether an asset is registered at a location. -/
def contains (c : ChainEntry) (location : Location) : Bool :=
  c.assets.any fun a => a.location == location

/-- Register an asset unless one is registered at its location. -/
def adopt (c : ChainEntry) (asset : AssetInfo) : ChainEntry :=
  if c.contains asset.location then c else { c with assets := c.assets ++ [asset] }

/-- A chain as it stands after its registration, with its stable asset before
its native one. -/
def ofInfo (info : ChainInfo) : ChainEntry :=
  let c : ChainEntry := ⟨info, info.stable.toList⟩
  match info.native with
  | some native => c.adopt native
  | none => c

def setNative (c : ChainEntry) (asset : AssetInfo) : ChainEntry :=
  let c := c.adopt asset
  { c with info := { c.info with native := some asset } }

def setStable (c : ChainEntry) (asset : AssetInfo) : ChainEntry :=
  let c := c.adopt asset
  { c with info := { c.info with stable := some asset } }

def setEndpoint (c : ChainEntry) (endpoint : String) : ChainEntry :=
  { c with info := { c.info with endpoint } }

/-- Register an asset. -/
def register (c : ChainEntry) (asset : AssetInfo) : Except TopologyError ChainEntry :=
  if c.contains asset.location then .error (.duplicateAsset c.info.name asset.location)
  else .ok { c with assets := c.assets ++ [asset] }

/-- Remove the asset at a location, and say which it was. -/
def unregister (c : ChainEntry) (location : Location) :
    Except TopologyError (ChainEntry × AssetInfo) :=
  match c.assets.find? fun a => a.location == location with
  | none => .error (.unknownAsset c.info.name location)
  | some asset =>
    .ok ({ c with assets := c.assets.eraseP fun a => a.location == location }, asset)

end ChainEntry

end Interchain
