import Interchain.Gateway.Contract
import Interchain.Proofs.Json.Codec
import Interchain.Proofs.Text.Hex
import Interchain.Topology.Basic

/-!
# The records of the registry on the wire

Every value of these types is carried: whatever its names, byte strings and numbers
are, it is read back from its text with all its fields.
-/

namespace Interchain

open Codec

variable {form : Form} {o : Json.Order} {n : Nat}

/-! ## Names and byte strings -/

/-- A byte string is read back from its digits. -/
@[simp] theorem Blob.ofHex_toHex {kind : BlobKind} (b : Blob kind) : ofHex b.toHex = .ok b := by
  have hstrip : stripMarker b.toHex = Hex.encode b.bytes := by
    simp [stripMarker, toHex, Hex.encode]
  rw [ofHex, hstrip, Hex.decode_encode]
  rfl

theorem Blob.carries {kind : BlobKind} (b : Blob kind) : Blob.codec.Carries form o n b :=
  via_carries (string_carries _) (by rw [Blob.ofHex_toHex]; rfl)

theorem Name.carries {kind : NameKind} (a : Name kind) : Name.codec.Carries form o n a :=
  iso_carries (string_carries _) rfl

/-- A chain's name keeps its spelling. -/
theorem ChainName.carries (a : ChainName) : ChainName.codec.Carries form o n a :=
  iso_carries (string_carries _) rfl

/-! ## Assets and chains -/

theorem AssetInfo.carries (a : AssetInfo) : AssetInfo.codec.Carries form o (n + 1) a :=
  record_carries (by decide)
    ⟨string_carries _, string_carries _, uint8_carries _, Blob.carries _, trivial⟩ rfl

theorem AssetPair.carries (p : AssetPair) : AssetPair.codec.Carries form o (n + 2) p :=
  record_carries (by decide) ⟨AssetInfo.carries _, AssetInfo.carries _, trivial⟩ rfl

theorem ChainType.carries (t : ChainType) : ChainType.codec.Carries form o n t where
  fits := by simpa [ChainType.codec] using .string _
  read := by
    cases t <;> cases form <;> simp [ChainType.codec] <;> rfl

theorem ChainInfo.carries (c : ChainInfo) : ChainInfo.codec.Carries form o (n + 2) c := by
  have hasset : ∀ a : AssetInfo, AssetInfo.codec.write a ≠ .null := by
    rintro a ⟨⟩
  have hnumber : ∀ a : UInt8, uint8.write a ≠ .null := by
    rintro a ⟨⟩
  exact record_carries (by decide)
    ⟨ChainName.carries _, ChainType.carries _,
      option_carries (fun _ _ => AssetInfo.carries _) hasset,
      option_carries (fun _ _ => AssetInfo.carries _) hasset, string_carries _,
      option_carries (fun _ _ => uint8_carries _) hnumber, trivial⟩ rfl

theorem DexPair.carries (p : DexPair) : DexPair.codec.Carries form o (n + 2) p :=
  record_carries (by decide)
    ⟨Blob.carries _, AssetInfo.carries _, AssetInfo.carries _, uint32_carries _, uint32_carries _,
      trivial⟩ rfl

/-! ## The graph -/

theorem AssetNode.carries (a : AssetNode) : AssetNode.codec.Carries form o (n + 1) a :=
  record_carries (by decide)
    ⟨ChainName.carries _, Blob.carries _, string_carries _, string_carries _, uint8_carries _,
      trivial⟩ rfl

theorem PoolEdge.carries (p : PoolEdge) : PoolEdge.codec.Carries form o (n + 1) p :=
  record_carries (by decide)
    ⟨Blob.carries _, Blob.carries _, Blob.carries _, Name.carries _, ChainName.carries _, trivial⟩
    rfl

theorem BridgeEdge.carries (b : BridgeEdge) : BridgeEdge.codec.Carries form o (n + 3) b :=
  record_carries (by decide)
    ⟨ChainName.carries _, ChainName.carries _,
      list_carries fun _ _ => pair_carries (Blob.carries _) (Blob.carries _), trivial⟩ rfl

theorem Graph.carries (g : Graph) : Graph.codec.Carries form o (n + 5) g :=
  record_carries (by decide)
    ⟨list_carries fun _ _ => AssetNode.carries _, list_carries fun _ _ => PoolEdge.carries _,
      list_carries fun _ _ => BridgeEdge.carries _, trivial⟩ rfl

/-! ## Calls, receipts and estimates -/

/-- A call is carried by the body of a request if its arguments are, and so is its identifier.
Limits that are left out are read as none. -/
theorem CallRequest.carries {id : String} {r : CallRequest}
    (h : opaqueValue.Carries .text .written n r.args) :
    codec.Carries .text .written (n + 1) (id, r) := by
  have hnumber : ∀ a : UInt64, uint64.write a ≠ .null := by
    rintro a ⟨⟩
  have hamount : ∀ a : BitVec 128, amount.write a ≠ .null := by
    rintro a ⟨⟩
  apply sparse_carries (by decide)
  case h =>
    exact ⟨string_carries _, string_carries _, string_carries _, h,
      option_carries (fun _ _ => uint64_carries _) hnumber,
      option_carries (fun _ _ => amount_carries _) hamount, trivial⟩
  case ha => rfl
  case hgiven =>
    -- A limit that is given is written as a number, and one that is not given is left out.
    rcases r with ⟨origin, method, args, _ | gas, _ | deposit⟩ <;>
      simp [Values.Given, Values.members, fields, Field.required, Field.default, option, uint64,
        amount, writeNatural, Json.isNull]

/-- The body of a request tells its identifier and its call, limits included. -/
theorem CallRequest.toText_inj {id id' : String} {r r' : CallRequest}
    (h : opaqueValue.Carries .text .written n r.args)
    (h' : opaqueValue.Carries .text .written n r'.args) (hn : n + 1 ≤ Document.Parser.maxDepth)
    (htext : codec.toText (id, r) = codec.toText (id', r')) : id = id' ∧ r = r' := by
  have hread : codec.ofText (codec.toText (id, r)) = .ok (id, r) :=
    (CallRequest.carries h).ofText_compact hn
  have hread' : codec.ofText (codec.toText (id', r')) = .ok (id', r') :=
    (CallRequest.carries h').ofText_compact hn
  rw [htext, hread', Except.ok.injEq, Prod.mk.injEq] at hread
  exact ⟨hread.1.symm, hread.2.symm⟩

theorem TxReceipt.carries (r : TxReceipt) : TxReceipt.codec.Carries form o (n + 1) r := by
  have hnumber : ∀ a : UInt64, uint64.write a ≠ .null := by
    rintro a ⟨⟩
  exact record_carries (by decide)
    ⟨string_carries _, option_carries (fun _ _ => uint64_carries _) hnumber, trivial⟩ rfl

/-- An estimate is carried by a text if its result is, whatever the deposit. -/
theorem CostEstimate.carries {ε : Type} {code : Codec ε} {e : CostEstimate ε}
    (h : (outcome code opaqueValue).Carries .text .written n e.result) :
    (CostEstimate.codec code).Carries .text .written (n + 1) e := by
  have hamount : ∀ a : BitVec 128, amount.write a ≠ .null := by
    rintro a ⟨⟩
  exact record_carries (by simp [fields, Field.required, Field.default])
    ⟨uint64_carries _, option_carries (fun _ _ => amount_carries _) hamount, h, trivial⟩ rfl

end Interchain
