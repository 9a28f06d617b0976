import Interchain.Executor
import Interchain.Handler
import Interchain.Proofs.Json.Records

/-!
# Round trips

Every value that is exchanged with contracts is read back from its compact text, whatever
its names, byte strings, numbers and lists are.  So a text that was read is written in one
way from then on.
-/

namespace Interchain

open Codec

variable {form : Form} {o : Json.Order} {n : Nat}

/-! ## Bridges, dexes and what is asked of contracts -/

theorem Bridge.carries (b : Bridge) : Bridge.codec.Carries form o (n + 4) b :=
  record_carries (by decide)
    ⟨Name.carries _, ChainName.carries _, ChainName.carries _,
      list_carries fun _ _ => AssetPair.carries _, trivial⟩ rfl

theorem Dex.carries (d : Dex) : Dex.codec.Carries form o (n + 4) d :=
  record_carries (by decide)
    ⟨Name.carries _, Blob.carries _, ChainName.carries _,
      list_carries fun _ _ => DexPair.carries _, trivial⟩ rfl

/-- A deposit is carried by a text, whatever its amount. -/
theorem Deposit.carries (d : Deposit) : Deposit.codec.Carries .text .written (n + 1) d :=
  record_carries (by decide)
    ⟨Blob.carries _, amount_carries _, Blob.carries _, Blob.carries _, Blob.carries _,
      Blob.carries _, trivial⟩ rfl

theorem AccountInfo.carries (a : AccountInfo) : AccountInfo.codec.Carries form o (n + 1) a :=
  record_carries (by decide) ⟨Blob.carries _, Blob.carries _, trivial⟩ rfl

/-- The fields of a variant are read from the array of their values. -/
theorem Codec.fielded_items (label : String) {fs : List Field} {vs : Values fs}
    (h : Values.Carried .text o n fs vs) :
    fielded label fs .text (some (.ofJson ((Json.array (Values.items fs vs)).arranged o))) =
      .ok vs := by
  simp only [fielded, Json.arranged_array, Document.ofJson, onArray, ofItems_eq_map, List.map_map]
  exact Values.ofArray_items h _

theorem RunningMode.carries (m : RunningMode) :
    RunningMode.codec.Carries .text o (n + 2) m := by
  cases m with
  | execute =>
    refine ⟨by simpa [RunningMode.codec] using .string _, ?_⟩
    simp [RunningMode.codec, Document.ofJson, readVariant, bare]
  | fetch source worker =>
    have h : Values.Carried .text o n fetchFields (source, worker, ()) :=
      ⟨ChainName.carries _, Name.carries _, trivial⟩
    have hwrite : RunningMode.codec.write (.fetch source worker) =
        .object [("Fetch", .array (Values.items fetchFields (source, worker, ())))] := rfl
    constructor
    · have hitems := (tuple_carries "tuple variant RunningMode::Fetch" h).fits
      rw [hwrite, Json.arranged_member]
      apply Json.Fits.object
      intro m hm
      obtain rfl := List.mem_singleton.mp hm
      exact hitems
    · have hread := fielded_items "RunningMode::Fetch" h
      rw [hwrite, Json.arranged_member]
      simp only [RunningMode.codec]
      rw [readVariant_member rfl, if_pos rfl, hread]
      rfl

/-! ## The types on the wire -/

/-- The types whose values are exchanged with contracts. -/
inductive WireType where
  | location
  | taskId
  | accountId
  | poolId
  | chainName
  | bridgeName
  | dexName
  | assetInfo
  | chainInfo
  | assetPair
  | bridge
  | dexPair
  | dex
  | graph
  | deposit
  | txReceipt
  | accountInfo
  | runningMode

namespace WireType

def Value : WireType → Type
  | location => Location
  | taskId => TaskId
  | accountId => AccountId
  | poolId => PoolId
  | chainName => ChainName
  | bridgeName => BridgeName
  | dexName => DexName
  | assetInfo => AssetInfo
  | chainInfo => ChainInfo
  | assetPair => AssetPair
  | bridge => Bridge
  | dexPair => DexPair
  | dex => Dex
  | graph => Graph
  | deposit => Deposit
  | txReceipt => TxReceipt
  | accountInfo => AccountInfo
  | runningMode => RunningMode

def codec : (t : WireType) → Codec t.Value
  | location | taskId | accountId | poolId => Blob.codec
  | chainName => ChainName.codec
  | bridgeName | dexName => Name.codec
  | assetInfo => AssetInfo.codec
  | chainInfo => ChainInfo.codec
  | assetPair => AssetPair.codec
  | bridge => Bridge.codec
  | dexPair => DexPair.codec
  | dex => Dex.codec
  | graph => Graph.codec
  | deposit => Deposit.codec
  | txReceipt => TxReceipt.codec
  | accountInfo => AccountInfo.codec
  | runningMode => RunningMode.codec

/-- Values on the wire have few levels, however long their lists are. -/
theorem carries (t : WireType) (v : t.Value) : t.codec.Carries .text .written 5 v :=
  match t with
  | location | taskId | accountId | poolId => Blob.carries v
  | chainName => ChainName.carries v
  | bridgeName | dexName => Name.carries v
  | assetInfo => AssetInfo.carries v
  | chainInfo => ChainInfo.carries v
  | assetPair => AssetPair.carries v
  | bridge => Bridge.carries v
  | dexPair => DexPair.carries v
  | dex => Dex.carries v
  | graph => Graph.carries v
  | deposit => Deposit.carries v
  | txReceipt => TxReceipt.carries v
  | accountInfo => AccountInfo.carries v
  | runningMode => RunningMode.carries v

/-- A value is read back from its compact text.  So the text as which the value of another
text is written reads as that value too, and is written as itself. -/
theorem ofText_toText (t : WireType) :
    (∀ v : t.Value, t.codec.ofText (t.codec.toText v) = .ok v) ∧
      ∀ text compact, (t.codec.ofText text).map t.codec.toText = .ok compact →
        t.codec.ofText compact = t.codec.ofText text ∧
          (t.codec.ofText compact).map t.codec.toText = .ok compact := by
  have hread : ∀ v : t.Value, t.codec.ofText (t.codec.toText v) = .ok v := fun v =>
    (t.carries v).ofText_compact (by decide)
  refine ⟨hread, ?_⟩
  intro text compact h
  obtain ⟨v, hv, rfl⟩ := Attempt.map_eq_ok.mp h
  rw [hread, hv]
  exact ⟨rfl, rfl⟩

end WireType

end Interchain
