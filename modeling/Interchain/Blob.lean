import Interchain.Json.Codec
import Interchain.Text.Hex

/-!
# Byte strings

Locations of assets, tasks, accounts and pools are byte strings whose content is
not looked into.  They travel as hexadecimal behind the marker `0x`, which may be
left out on reading.
-/

namespace Interchain

/-- What a byte string identifies. -/
inductive BlobKind where
  | location
  | task
  | account
  | pool
deriving DecidableEq, Repr

/-- A byte string that identifies one kind of thing. -/
structure Blob (kind : BlobKind) where
  bytes : List UInt8
deriving DecidableEq, Repr

/-- Where an asset is found on its chain. -/
abbrev Location := Blob .location

/-- Identifier of a task on its chain. -/
abbrev TaskId := Blob .task

/-- Account of a worker. -/
abbrev AccountId := Blob .account

/-- Identifier of a dex or of one of its pools. -/
abbrev PoolId := Blob .pool

namespace Blob

variable {kind : BlobKind}

/-- The marker and the digits. -/
def toHex (b : Blob kind) : String :=
  String.ofList ('0' :: 'x' :: Hex.digits b.bytes)

/-- A text without one marker in front, if it has one. -/
def stripMarker (s : String) : String :=
  match s.toList with
  | '0' :: 'x' :: rest => String.ofList rest
  | _ => s

/-- Read digits with or without the marker. -/
def ofHex (s : String) : Except Hex.Fault (Blob kind) :=
  (Hex.decode (stripMarker s)).map Blob.mk

def isEmpty (b : Blob kind) : Bool :=
  b.bytes.isEmpty

def codec : Codec (Blob kind) :=
  .via .string toHex fun s => (ofHex s).mapError .hex

end Blob

end Interchain
