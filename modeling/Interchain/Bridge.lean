import Interchain.Asset
import Interchain.Name
import Interchain.Topology.Error

/-!
# Bridges

A bridge joins two chains and carries pairs of assets between them, in the order
in which they were registered.  A pair is found again whichever way round it is
given.
-/

namespace Interchain

/-- A bridge.  The first asset of each pair is on `chain0`, the second on
`chain1`. -/
structure Bridge where
  name : BridgeName
  chain0 : ChainName
  chain1 : ChainName
  assets : List AssetPair
deriving DecidableEq, Repr

namespace Bridge

/-- A bridge that carries nothing. -/
def blank (name : BridgeName) (chain0 chain1 : ChainName) : Bridge :=
  ⟨name, chain0, chain1, []⟩

/-- Whether the bridge joins two chains, in either direction. -/
def connects (b : Bridge) (x y : ChainName) : Bool :=
  b.chain0.same x && b.chain1.same y || b.chain0.same y && b.chain1.same x

/-- Carry a further pair. -/
def register (b : Bridge) (pair : AssetPair) : Except TopologyError Bridge :=
  if b.assets.any fun p => p.id == pair.id then .error (.duplicatePair b.name.text)
  else .ok { b with assets := b.assets ++ [pair] }

/-- Carry a pair no longer, and say how it was stored. -/
def unregister (b : Bridge) (pair : AssetPair) : Except TopologyError (Bridge × AssetPair) :=
  match b.assets.find? fun p => p.id == pair.id with
  | none => .error (.unknownPair b.name.text)
  | some stored => .ok ({ b with assets := b.assets.eraseP fun p => p.id == pair.id }, stored)

/-- The first pair with a location on one of its sides. -/
def pairFor? (b : Bridge) (location : Location) : Option AssetPair :=
  b.assets.find? fun p => (p.counterpart? location).isSome

def fields : List Field :=
  [.required "name" (Name.codec : Codec BridgeName), .required "chain0" ChainName.codec,
   .required "chain1" ChainName.codec, .required "assets" (.list AssetPair.codec)]

def toValues (b : Bridge) : Values fields :=
  (b.name, b.chain0, b.chain1, b.assets, ())

def ofValues : Values fields → Bridge
  | (name, chain0, chain1, assets, ()) => ⟨name, chain0, chain1, assets⟩

def codec : Codec Bridge :=
  .record "Bridge" fields toValues ofValues

end Bridge

end Interchain
