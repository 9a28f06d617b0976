import Interchain.Blob
import Interchain.Digest.Sha256

/-!
# Assets and pairs of assets

An asset is identified on its chain by its location.  A pair joins an asset of
one chain with an asset of another; its identity is a digest of the two
locations that does not depend on their order.
-/

namespace Interchain

/-- An asset as it is registered. -/
structure AssetInfo where
  name : String
  symbol : String
  decimals : UInt8
  location : Location
deriving DecidableEq, Repr

namespace AssetInfo

/-- Two records are of the same asset when their locations are equal. -/
def sameLocation (a b : AssetInfo) : Bool :=
  a.location == b.location

/-- The fields of the record, in order. -/
def fields : List Field :=
  [.required "name" .string, .required "symbol" .string, .required "decimals" .uint8,
   .required "location" (Blob.codec : Codec Location)]

def toValues (a : AssetInfo) : Values fields :=
  (a.name, a.symbol, a.decimals, a.location, ())

def ofValues : Values fields → AssetInfo
  | (name, symbol, decimals, location, ()) => ⟨name, symbol, decimals, location⟩

def codec : Codec AssetInfo :=
  .record "AssetInfo" fields toValues ofValues

end AssetInfo

/-- An asset on one side of a bridge and its counterpart on the other. -/
structure AssetPair where
  asset0 : AssetInfo
  asset1 : AssetInfo
deriving DecidableEq, Repr

namespace AssetPair

/-- A length in four bytes, least significant first. -/
def lengthBytes (n : Nat) : List UInt8 :=
  (List.range 4).map fun i => UInt8.ofNat (n >>> (8 * i))

/-- What is digested: the length of the smaller location, the smaller location
and the greater one. -/
def preimage (a b : List UInt8) : List UInt8 :=
  let (first, second) := if a ≤ b then (a, b) else (b, a)
  lengthBytes first.length ++ first ++ second

/-- The identity of the pair, which is that of the pair turned around. -/
def id (p : AssetPair) : List UInt8 :=
  Sha256.digest (preimage p.asset0.location.bytes p.asset1.location.bytes)

/-- The other side, for a location on one of the sides. -/
def counterpart? (p : AssetPair) (location : Location) : Option AssetInfo :=
  if p.asset0.location = location then some p.asset1
  else if p.asset1.location = location then some p.asset0
  else none

/-- The pair turned around. -/
def swap (p : AssetPair) : AssetPair :=
  ⟨p.asset1, p.asset0⟩

def fields : List Field :=
  [.required "asset0" AssetInfo.codec, .required "asset1" AssetInfo.codec]

def codec : Codec AssetPair :=
  .record "AssetPair" fields (fun p => (p.asset0, p.asset1, ())) fun v => ⟨v.1, v.2.1⟩

end AssetPair

end Interchain
